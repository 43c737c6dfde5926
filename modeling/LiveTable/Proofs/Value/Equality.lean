import LiveTable.Proofs.Binary64.WholeNumbers
import LiveTable.Value.Equality
import LiveTable.Value.Json
import Mathlib.Data.List.Perm.Subperm

/-!
# The laws of equality

Equality of values is symmetric, also where an integer meets a float and where objects have their
entries in different orders. It is transitive up to rounding: beyond `2 ^ 53` two different integers
may both equal the float to which they are rounded, so that values which hold them in the same place
differ and still equal a third one.

* `Value.induction`: what carries over from the parts of a value to the value;
* `Value.keyed v`: no object in the value has a key twice;
* `keyed_ofEntries`, `keyed_ofJson`: no value made from data has such an object;
* `Alike v w`: the values are equal;
* `Matches`, `equal_iff_matches`: how values come to be equal, part by part;
* `alike_symm`: equality is symmetric;
* `Bridged a b c`: in some place `b` holds a float to which two integers of `a` and `c` are rounded;
* `alike_trans_iff`: values that equal the same value are equal, unless it bridges such a gap;
* `EqualityLaws`, `equalityLaws_of_keyed`: what equality guarantees;
* `not_equal_trans`: it is not transitive.
-/

namespace LiveTable

namespace Binary64

theorem equal_iff {x y : Binary64} :
    x.equal y = true ↔ x.isNaN = false ∧ y.isNaN = false ∧ x.rank = y.rank := by
  simp [equal, and_assoc]

theorem equal_symm {x y : Binary64} (h : x.equal y = true) : y.equal x = true := by
  obtain ⟨hx, hy, hrank⟩ := equal_iff.1 h
  exact equal_iff.2 ⟨hy, hx, hrank.symm⟩

theorem equal_trans {x y z : Binary64} (h : x.equal y = true) (h' : y.equal z = true) :
    x.equal z = true := by
  obtain ⟨hx, -, hrank⟩ := equal_iff.1 h
  obtain ⟨-, hz, hrank'⟩ := equal_iff.1 h'
  exact equal_iff.2 ⟨hx, hz, hrank.trans hrank'⟩

end Binary64

namespace Value

/-! ### Values and their parts -/

/-- What holds of every value whose parts have it holds of all values. -/
theorem induction {P : Value → Prop} (null : P null) (bool : ∀ b, P (bool b))
    (int : ∀ i, P (int i)) (float : ∀ x, P (float x)) (string : ∀ s, P (string s))
    (array : ∀ items : List Value, (∀ v ∈ items, P v) → P (array items))
    (object : ∀ entries : List (String × Value), (∀ e ∈ entries, P e.2) → P (object entries))
    (lambda : ∀ identity action, P (lambda identity action)) : ∀ v, P v :=
  go
where
  go : ∀ v, P v
    | .null => null
    | .bool b => bool b
    | .int i => int i
    | .float x => float x
    | .string s => string s
    | .array items => array items (goItems items)
    | .object entries => object entries (goEntries entries)
    | .lambda identity action => lambda identity action
  goItems : ∀ items : List Value, ∀ v ∈ items, P v
    | [] => nofun
    | v :: rest => List.forall_mem_cons.2 ⟨go v, goItems rest⟩
  goEntries : ∀ entries : List (String × Value), ∀ e ∈ entries, P e.2
    | [] => nofun
    | (_, v) :: rest => List.forall_mem_cons.2 ⟨go v, goEntries rest⟩

mutual

/-- No object in the value, at any depth, has a key twice. -/
def keyed : Value → Bool
  | array items => keyedItems items
  | object entries => (Dict.keys entries).Nodup && keyedEntries entries
  | _ => true

/-- No object in the items has a key twice. -/
def keyedItems : List Value → Bool
  | [] => true
  | v :: rest => v.keyed && keyedItems rest

/-- No object in the values of the entries has a key twice. -/
def keyedEntries : List (String × Value) → Bool
  | [] => true
  | (_, v) :: rest => v.keyed && keyedEntries rest

end

theorem keyedItems_iff {items : List Value} : keyedItems items = true ↔ ∀ v ∈ items, v.keyed := by
  induction items with
  | nil => simp [keyedItems]
  | cons v rest ih => rw [keyedItems, Bool.and_eq_true, ih, List.forall_mem_cons]

theorem keyedEntries_iff {entries : List (String × Value)} :
    keyedEntries entries = true ↔ ∀ e ∈ entries, e.2.keyed := by
  induction entries with
  | nil => simp [keyedEntries]
  | cons e rest ih => rw [keyedEntries, Bool.and_eq_true, ih, List.forall_mem_cons]

theorem keyed_object_iff {entries : List (String × Value)} :
    (object entries).keyed = true ↔
      (Dict.keys entries).Nodup ∧ ∀ e ∈ entries, e.2.keyed = true := by
  rw [keyed, Bool.and_eq_true, decide_eq_true_eq, keyedEntries_iff]

/-- An object made by inserting entries has no key twice. -/
theorem keyed_ofEntries {entries : List (String × Value)} (h : ∀ e ∈ entries, e.2.keyed) :
    (ofEntries entries).keyed = true :=
  keyed_object_iff.2
    ⟨Dict.nodup_keys_ofList entries, fun e he => h e (Dict.mem_of_mem_ofList he)⟩

mutual

/-- **No object of a document has a key twice** when it is a value. -/
theorem keyed_ofJson : ∀ j : Json, (ofJson j).keyed = true
  | .null | .bool _ | .string _ => by simp only [ofJson, keyed]
  | .number n => by
    rw [ofJson]
    cases n with
    | integer i =>
      rw [ofJsonNumber]
      split <;> simp only [keyed]
    | real x => simp only [ofJsonNumber, keyed]
  | .array items => by
    rw [ofJson, keyed]
    exact keyedItems_iff.2 (keyed_ofJsonItems items)
  | .object members => by
    rw [ofJson]
    exact keyed_ofEntries (keyed_ofJsonMembers members)

theorem keyed_ofJsonItems : ∀ items : List Json, ∀ v ∈ ofJsonItems items, v.keyed
  | [] => by simp [ofJsonItems]
  | j :: rest => by
    rw [ofJsonItems]
    exact List.forall_mem_cons.2 ⟨keyed_ofJson j, keyed_ofJsonItems rest⟩

theorem keyed_ofJsonMembers :
    ∀ members : List (String × Json), ∀ e ∈ ofJsonMembers members, e.2.keyed
  | [] => by simp [ofJsonMembers]
  | (_, j) :: rest => by
    rw [ofJsonMembers]
    exact List.forall_mem_cons.2 ⟨keyed_ofJson j, keyed_ofJsonMembers rest⟩

end

/-! ### Equality part by part -/

/-- The values are equal. -/
abbrev Alike (v w : Value) : Prop := equal v w = true

theorem equalItems_iff {as bs : List Value} :
    equalItems as bs = true ↔ ∀ n : Nat, Option.Rel Alike as[n]? bs[n]? := by
  induction as generalizing bs with
  | nil =>
    cases bs with
    | nil => simp [equalItems]
    | cons w ws =>
      refine ⟨nofun, fun h => ?_⟩
      cases h 0
  | cons v vs ih =>
    cases bs with
    | nil =>
      refine ⟨nofun, fun h => ?_⟩
      cases h 0
    | cons w ws =>
      rw [equalItems, Bool.and_eq_true, ih]
      constructor
      · rintro ⟨hfirst, hrest⟩ n
        cases n with
        | zero => exact .some hfirst
        | succ n => exact hrest n
      · intro h
        refine ⟨?_, fun n => h (n + 1)⟩
        cases h 0 with
        | some hfirst => exact hfirst

theorem equalEntries_iff {as : List (String × Value)} {bs : Dict String Value} :
    equalEntries as bs = true ↔ ∀ e ∈ as, ∃ w, bs.get? e.1 = some w ∧ Alike e.2 w := by
  induction as with
  | nil => simp [equalEntries]
  | cons e rest ih =>
    rw [equalEntries, Bool.and_eq_true, ih, List.forall_mem_cons]
    refine and_congr_left' ?_
    cases bs.get? e.1 <;> simp

/-- Parts match if they are there on both sides or on neither, and are equal if they are there. -/
theorem rel_iff {v w : Option Value} :
    Option.Rel Alike v w ↔ v.isSome = w.isSome ∧ ∀ x y, v = some x → w = some y → Alike x y := by
  cases v <;> cases w <;> simp

/-- **Objects are equal if they have equal entries under the same keys**, in any order. -/
theorem equal_object_iff {as bs : List (String × Value)} (ha : (Dict.keys as).Nodup)
    (hb : (Dict.keys bs).Nodup) :
    equal (object as) (object bs) = true ↔
      ∀ key, Option.Rel Alike (Dict.get? as key) (Dict.get? bs key) := by
  have hlength : ∀ d : List (String × Value), (Dict.keys d).length = d.length := fun d =>
    List.length_map _
  rw [equal, Bool.and_eq_true, beq_iff_eq, equalEntries_iff, ← hlength as, ← hlength bs]
  constructor
  · rintro ⟨hsame, hentries⟩ key
    -- there are as many keys on either side, so the other side has no more
    have hsubset : Dict.keys as ⊆ Dict.keys bs := by
      intro key hkey
      obtain ⟨e, he, rfl⟩ := List.mem_map.1 hkey
      obtain ⟨w, hw, -⟩ := hentries e he
      exact Dict.mem_keys_of_get? hw
    have hkeys : (Dict.keys as).Perm (Dict.keys bs) :=
      (List.subperm_of_subset ha hsubset).perm_of_length_le (Nat.le_of_eq hsame.symm)
    cases hv : Dict.get? as key with
    | some v =>
      obtain ⟨w, hw, hvw⟩ := hentries _ ((Dict.get?_eq_some_iff ha).1 hv)
      rw [hw]
      exact .some hvw
    | none =>
      have hnot : key ∉ Dict.keys bs := by
        rw [← hkeys.mem_iff, ← Dict.isSome_get?_iff, hv]
        exact Bool.false_ne_true
      rw [Dict.get?_eq_none hnot]
      exact .none
  · intro h
    have hmem : ∀ key, key ∈ Dict.keys as ↔ key ∈ Dict.keys bs := fun key => by
      rw [← Dict.isSome_get?_iff, ← Dict.isSome_get?_iff, (rel_iff.1 (h key)).1]
    refine ⟨((List.perm_ext_iff_of_nodup ha hb).2 hmem).length_eq, fun e he => ?_⟩
    have hv : Dict.get? as e.1 = some e.2 := (Dict.get?_eq_some_iff ha).2 he
    obtain ⟨hsome, halike⟩ := rel_iff.1 (h e.1)
    rw [hv] at hsome
    obtain ⟨w, hw⟩ := Option.isSome_iff_exists.1 hsome.symm
    exact ⟨w, hw, halike _ _ hv hw⟩

/-- How two values come to be equal, part by part. -/
inductive Matches : Value → Value → Prop where
  | null : Matches null null
  | bool (b : Bool) : Matches (bool b) (bool b)
  | int (i : Int64) : Matches (int i) (int i)
  | float {x y : Binary64} (h : x.equal y = true) : Matches (float x) (float y)
  | intFloat {i : Int64} {x : Binary64} (h : (Binary64.ofInt i.toInt).equal x = true) :
      Matches (int i) (float x)
  | floatInt {x : Binary64} {i : Int64} (h : (Binary64.ofInt i.toInt).equal x = true) :
      Matches (float x) (int i)
  | string (s : String) : Matches (string s) (string s)
  | array {as bs : List Value} (h : ∀ n : Nat, Option.Rel Alike as[n]? bs[n]?) :
      Matches (array as) (array bs)
  | object {as bs : List (String × Value)}
      (h : ∀ key, Option.Rel Alike (Dict.get? as key) (Dict.get? bs key)) :
      Matches (object as) (object bs)
  | lambda (identity : Nat) (f g : Action Value) : Matches (lambda identity f) (lambda identity g)

/-- **Equal values match**, and values that match are equal. -/
theorem equal_iff_matches {a b : Value} (ha : a.keyed) (hb : b.keyed) :
    equal a b = true ↔ Matches a b := by
  constructor
  · intro h
    cases a <;> cases b <;> simp only [equal, Bool.false_eq_true, beq_iff_eq] at h
    -- what is left are pairs of one kind, and pairs of an integer and a float
    case null.null => exact .null
    case bool.bool => exact h ▸ .bool _
    case int.int => exact h ▸ .int _
    case int.float => exact .intFloat h
    case float.int => exact .floatInt h
    case float.float => exact .float h
    case string.string => exact h ▸ .string _
    case array.array => exact .array (equalItems_iff.1 h)
    case object.object =>
      exact .object ((equal_object_iff (keyed_object_iff.1 ha).1 (keyed_object_iff.1 hb).1).1 h)
    case lambda.lambda => exact h ▸ .lambda _ _ _
  · intro h
    cases h with
    | object h => exact (equal_object_iff (keyed_object_iff.1 ha).1 (keyed_object_iff.1 hb).1).2 h
    | array h => exact equalItems_iff.2 h
    | float h | intFloat h | floatInt h => exact h
    | null => rfl
    | bool | int | string | lambda => exact beq_self_eq_true _

/-! ### Symmetry -/

theorem keyed_of_getElem? {items : List Value} (h : (array items).keyed) {n : Nat} {v : Value}
    (hv : items[n]? = some v) : v.keyed :=
  keyedItems_iff.1 h v (List.mem_of_getElem? hv)

theorem mem_of_get? {entries : List (String × Value)} (h : (object entries).keyed) {key : String}
    {v : Value} (hv : Dict.get? entries key = some v) : (key, v) ∈ entries :=
  (Dict.get?_eq_some_iff (keyed_object_iff.1 h).1).1 hv

theorem keyed_of_get? {entries : List (String × Value)} (h : (object entries).keyed)
    {key : String} {v : Value} (hv : Dict.get? entries key = some v) : v.keyed :=
  (keyed_object_iff.1 h).2 _ (mem_of_get? h hv)

section Parts

variable {κ : Type} {f g h : κ → Option Value}

/-- If the parts of two values are equal one way round, they are the other way round. -/
theorem rel_symm (hfg : ∀ k, Option.Rel Alike (f k) (g k))
    (hparts : ∀ k v w, f k = some v → g k = some w → Alike v w → Alike w v) (k : κ) :
    Option.Rel Alike (g k) (f k) := by
  obtain ⟨hsome, halike⟩ := rel_iff.1 (hfg k)
  exact rel_iff.2 ⟨hsome.symm, fun w v hw hv => hparts k v w hv hw (halike v w hv hw)⟩

end Parts

/-- **If one value equals another, that one equals it.** -/
theorem alike_symm {a b : Value} (ha : a.keyed) (hb : b.keyed) (h : Alike a b) : Alike b a := by
  induction a using Value.induction generalizing b with
  | null | bool | string | lambda =>
    cases (equal_iff_matches ha hb).1 h
    exact h
  | int i =>
    cases (equal_iff_matches ha hb).1 h with
    | int => exact h
    | intFloat hround => exact hround
  | float x =>
    cases (equal_iff_matches ha hb).1 h with
    | float heq => exact Binary64.equal_symm heq
    | floatInt hround => exact hround
  | array as ih =>
    cases (equal_iff_matches ha hb).1 h with
    | array hitems =>
      refine equalItems_iff.2 (rel_symm hitems fun n v w hv hw hvw => ?_)
      exact ih v (List.mem_of_getElem? hv) (keyed_of_getElem? ha hv) (keyed_of_getElem? hb hw) hvw
  | object as ih =>
    cases (equal_iff_matches ha hb).1 h with
    | object hentries =>
      refine (equal_iff_matches hb ha).2 (.object (rel_symm hentries fun key v w hv hw hvw => ?_))
      exact ih (key, v) (mem_of_get? ha hv) (keyed_of_get? ha hv) (keyed_of_get? hb hw) hvw

/-! ### Transitivity -/

/-- In some place the values at the ends hold two different integers, and the one between them holds
the float to which both are rounded. -/
inductive Bridged : Value → Value → Value → Prop where
  | int {i j : Int64} {x : Binary64} (hne : i ≠ j) (hi : Alike (int i) (float x))
      (hj : Alike (float x) (int j)) : Bridged (int i) (float x) (int j)
  | item {as bs cs : List Value} {a b c : Value} {n : Nat} (ha : as[n]? = some a)
      (hb : bs[n]? = some b) (hc : cs[n]? = some c) (h : Bridged a b c) :
      Bridged (array as) (array bs) (array cs)
  | entry {as bs cs : List (String × Value)} {a b c : Value} {key : String}
      (ha : Dict.get? as key = some a) (hb : Dict.get? bs key = some b)
      (hc : Dict.get? cs key = some c) (h : Bridged a b c) :
      Bridged (object as) (object bs) (object cs)

/-- The parts of two values are equal if those of a third one are equal to both and no part of that
one bridges a gap. -/
theorem rel_trans_iff {κ : Type} {f g h : κ → Option Value}
    (hfg : ∀ k, Option.Rel Alike (f k) (g k)) (hgh : ∀ k, Option.Rel Alike (g k) (h k))
    (hparts : ∀ k u v w, f k = some u → g k = some v → h k = some w → Alike u v → Alike v w →
      (Alike u w ↔ ¬ Bridged u v w)) :
    (∀ k, Option.Rel Alike (f k) (h k)) ↔
      ¬ ∃ k u v w, f k = some u ∧ g k = some v ∧ h k = some w ∧ Bridged u v w := by
  have hpart : ∀ k u v w, f k = some u → g k = some v → h k = some w →
      (Alike u w ↔ ¬ Bridged u v w) := fun k u v w hu hv hw =>
    hparts k u v w hu hv hw ((rel_iff.1 (hfg k)).2 u v hu hv) ((rel_iff.1 (hgh k)).2 v w hv hw)
  constructor
  · rintro hfh ⟨k, u, v, w, hu, hv, hw, hbridged⟩
    exact (hpart k u v w hu hv hw).1 ((rel_iff.1 (hfh k)).2 u w hu hw) hbridged
  · intro hnone k
    refine rel_iff.2 ⟨(rel_iff.1 (hfg k)).1.trans (rel_iff.1 (hgh k)).1, fun u w hu hw => ?_⟩
    have hsome : (g k).isSome := by
      rw [← (rel_iff.1 (hfg k)).1, hu]
      rfl
    obtain ⟨v, hv⟩ := Option.isSome_iff_exists.1 hsome
    exact (hpart k u v w hu hv hw).2 fun hbridged => hnone ⟨k, u, v, w, hu, hv, hw, hbridged⟩

/-- **Values that equal the same value are equal, unless it bridges a gap between them.** -/
theorem alike_trans_iff {a b c : Value} (ha : a.keyed) (hb : b.keyed) (hc : c.keyed)
    (hab : Alike a b) (hbc : Alike b c) : Alike a c ↔ ¬ Bridged a b c := by
  induction a using Value.induction generalizing b c with
  | null | bool | string =>
    cases (equal_iff_matches ha hb).1 hab
    exact ⟨fun _ => nofun, fun _ => hbc⟩
  | lambda =>
    cases (equal_iff_matches ha hb).1 hab
    cases (equal_iff_matches hb hc).1 hbc
    exact ⟨fun _ => nofun, fun _ => beq_self_eq_true _⟩
  | int i =>
    cases (equal_iff_matches ha hb).1 hab with
    | int => exact ⟨fun _ => nofun, fun _ => hbc⟩
    | intFloat hround =>
      cases (equal_iff_matches hb hc).1 hbc with
      | float heq => exact ⟨fun _ => nofun, fun _ => Binary64.equal_trans hround heq⟩
      | @floatInt _ j hround' =>
        have hsame : Alike (int i) (int j) ↔ i = j := beq_iff_eq
        rw [hsame]
        constructor
        · rintro rfl ⟨hne, -, -⟩
          exact hne rfl
        · intro hnone
          by_contra hne
          exact hnone (.int hne hab hbc)
  | float x =>
    cases (equal_iff_matches ha hb).1 hab with
    | float heq =>
      cases (equal_iff_matches hb hc).1 hbc with
      | float heq' => exact ⟨fun _ => nofun, fun _ => Binary64.equal_trans heq heq'⟩
      | floatInt hround =>
        exact ⟨fun _ => nofun, fun _ => Binary64.equal_trans hround (Binary64.equal_symm heq)⟩
    | floatInt hround =>
      cases (equal_iff_matches hb hc).1 hbc with
      | int => exact ⟨fun _ => nofun, fun _ => hab⟩
      | intFloat hround' =>
        exact ⟨fun _ => nofun, fun _ => Binary64.equal_trans (Binary64.equal_symm hround) hround'⟩
  | array as ih =>
    cases (equal_iff_matches ha hb).1 hab with
    | @array _ bs hitems =>
      cases (equal_iff_matches hb hc).1 hbc with
      | @array _ cs hitems' =>
        have hparts := rel_trans_iff hitems hitems' fun n u v w hu hv hw huv hvw =>
          ih u (List.mem_of_getElem? hu) (keyed_of_getElem? ha hu) (keyed_of_getElem? hb hv)
            (keyed_of_getElem? hc hw) huv hvw
        have halike : Alike (array as) (array cs) ↔ ∀ n : Nat, Option.Rel Alike as[n]? cs[n]? :=
          equalItems_iff
        rw [halike, hparts, not_iff_not]
        constructor
        · rintro ⟨n, u, v, w, hu, hv, hw, hbridged⟩
          exact .item hu hv hw hbridged
        · rintro ⟨⟩
          exact ⟨_, _, _, _, ‹_›, ‹_›, ‹_›, ‹_›⟩
  | object as ih =>
    cases (equal_iff_matches ha hb).1 hab with
    | @object _ bs hentries =>
      cases (equal_iff_matches hb hc).1 hbc with
      | @object _ cs hentries' =>
        have hparts := rel_trans_iff hentries hentries' fun key u v w hu hv hw huv hvw =>
          ih (key, u) (mem_of_get? ha hu) (keyed_of_get? ha hu) (keyed_of_get? hb hv)
            (keyed_of_get? hc hw) huv hvw
        have halike : Alike (object as) (object cs) ↔
            ∀ key, Option.Rel Alike (Dict.get? as key) (Dict.get? cs key) :=
          equal_object_iff (keyed_object_iff.1 ha).1 (keyed_object_iff.1 hc).1
        rw [halike, hparts, not_iff_not]
        constructor
        · rintro ⟨key, u, v, w, hu, hv, hw, hbridged⟩
          exact .entry hu hv hw hbridged
        · rintro ⟨⟩
          exact ⟨_, _, _, _, ‹_›, ‹_›, ‹_›, ‹_›⟩

/-! ### What equality guarantees -/

/-- Two integers that are rounded to the same float are equal or one of them is large. -/
theorem large_of_alike {i j : Int64} {x : Binary64} (hi : Alike (int i) (float x))
    (hj : Alike (float x) (int j)) :
    i = j ∨ 2 ^ 53 < i.toInt.natAbs ∨ 2 ^ 53 < j.toInt.natAbs := by
  by_contra hnot
  simp only [not_or, Nat.not_lt] at hnot
  have hsame : (Binary64.ofInt i.toInt).equal (Binary64.ofInt j.toInt) = true :=
    Binary64.equal_trans hi (Binary64.equal_symm hj)
  exact hnot.1 (Int64.toInt_inj.1 (Binary64.eq_of_equal_ofInt hnot.2.1 hnot.2.2 hsame))

/-- What equality guarantees of three values. -/
structure EqualityLaws (a b c : Value) : Prop where
  symm : equal a b = equal b a
  /-- Values that equal the same value are equal, unless it bridges a gap between them. -/
  trans_iff : Alike a b → Alike b c → (Alike a c ↔ ¬ Bridged a b c)
  /-- Gaps are between integers beyond `2 ^ 53`. -/
  gap : ∀ i j x, Bridged (int i) (float x) (int j) →
    2 ^ 53 < i.toInt.natAbs ∨ 2 ^ 53 < j.toInt.natAbs

/-- **Equality is symmetric, and transitive up to rounding**, for values of all kinds at any
depth. -/
theorem equalityLaws_of_keyed {a b c : Value} (ha : a.keyed) (hb : b.keyed) (hc : c.keyed) :
    EqualityLaws a b c where
  symm := Bool.eq_iff_iff.2 ⟨alike_symm ha hb, alike_symm hb ha⟩
  trans_iff := alike_trans_iff ha hb hc
  gap := by
    rintro i j x ⟨hne, hi, hj⟩
    exact (large_of_alike hi hj).resolve_left hne

/-- A film as it is read from a document, with a number that no float can hold. -/
def numberedFilm : Value :=
  .object [("title", .string "Dusk"), ("marks", .array [.int 9007199254740993, .int 8])]

/-- The film with its numbers as floats, read the other way round. -/
def measuredFilm : Value :=
  .object [("marks", .array [.float ⟨0x4340000000000000⟩, .float ⟨0x4020000000000000⟩]),
    ("title", .string "Dusk")]

/-- The film with the nearest numbers that a float can hold. -/
def roundedFilm : Value :=
  .object [("marks", .array [.int 9007199254740992, .int 8]), ("title", .string "Dusk")]

/-- The film in the middle equals the others, which are not equal. -/
theorem equalityLaws_films :
    (numberedFilm.keyed ∧ measuredFilm.keyed ∧ roundedFilm.keyed) ∧
      EqualityLaws numberedFilm measuredFilm roundedFilm ∧
      Alike numberedFilm measuredFilm ∧ Alike measuredFilm roundedFilm ∧
      Bridged numberedFilm measuredFilm roundedFilm ∧ equal numberedFilm roundedFilm = false := by
  have hlaws : EqualityLaws numberedFilm measuredFilm roundedFilm :=
    equalityLaws_of_keyed (by decide) (by decide) (by decide)
  have hnumbered : Alike numberedFilm measuredFilm := by decide +kernel
  have hrounded : Alike measuredFilm roundedFilm := by decide +kernel
  have hbridged : Bridged numberedFilm measuredFilm roundedFilm := by
    have hmarks : Dict.get? [("title", Value.string "Dusk"),
        ("marks", .array [.int 9007199254740993, .int 8])] "marks" = _ := rfl
    refine .entry hmarks rfl rfl (.item (n := 0) rfl rfl rfl (.int ?_ ?_ ?_))
    all_goals decide +kernel
  refine ⟨by decide, hlaws, hnumbered, hrounded, hbridged, eq_false_of_ne_true fun halike => ?_⟩
  exact (hlaws.trans_iff hnumbered hrounded).1 halike hbridged

/-- **Equality is not transitive**: two integers differ that equal the same float. -/
theorem not_equal_trans :
    ¬ ∀ a b c : Value, equal a b = true → equal b c = true → equal a c = true := by
  intro htrans
  have hequal := htrans (.int 9007199254740993) (.float ⟨0x4340000000000000⟩)
    (.int 9007199254740992) (by decide +kernel) (by decide +kernel)
  exact absurd hequal (by decide)

end Value

end LiveTable
