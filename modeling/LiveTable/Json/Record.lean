import LiveTable.Json.Document

/-!
# Records from JSON

A record is written as an object of its fields or as an array of their values in order. Fields that
are missing keep their standard value; unknown and repeated fields are refused.

* `Field σ`: a field of the record type `σ`, by its name and the way to set it;
* `readRecord fields standard`: the record of a document;
* `readText`, `readBool`, `readCount`, `readReal`, `readList`, `readOptional`: values of fields.
-/

namespace LiveTable.Json

/-- A field of a record type: its name, and the record with the field set from a document. -/
structure Field (σ : Type) where
  name : String
  set : Json → σ → Option σ

/-- The field whose value is read by `read` and put in place by `put`. -/
def Field.of {α σ : Type} (name : String) (read : Json → Option α) (put : σ → α → σ) : Field σ :=
  ⟨name, fun j record => (read j).map (put record)⟩

/-- The record with the members of an object set one by one. -/
def setMembers {σ : Type} (fields : List (Field σ)) (seen : List String) (record : σ) :
    List (String × Json) → Option σ
  | [] => some record
  | (name, j) :: members => do
    if name ∈ seen then none
    let field ← fields.find? (·.name == name)
    setMembers fields (name :: seen) (← field.set j record) members

/-- The record with the items of an array set field by field. -/
def setItems {σ : Type} (record : σ) : List (Field σ) → List Json → Option σ
  | _, [] => some record
  | [], _ :: _ => none
  | field :: fields, j :: items => do setItems (← field.set j record) fields items

/-- The record of a document. -/
def readRecord {σ : Type} (fields : List (Field σ)) (standard : σ) : Json → Option σ
  | .object members => setMembers fields [] standard members
  | .array items => setItems standard fields items
  | _ => none

/-- The text of a document. -/
def readText : Json → Option String
  | .string s => some s
  | _ => none

/-- The truth value of a document. -/
def readBool : Json → Option Bool
  | .bool b => some b
  | _ => none

/-- The count of a document: an integer written without fraction and exponent, not negative. -/
def readCount : Json → Option Nat
  | .number (.integer i) => if 0 ≤ i then some i.toNat else none
  | _ => none

/-- The number of a document. -/
def readReal : Json → Option Binary64
  | .number (.integer i) => some (.ofInt i)
  | .number (.real x) => some x
  | _ => none

/-- The list of a document that is an array. -/
def readList {α : Type} (read : Json → Option α) : Json → Option (List α)
  | .array items => items.mapM read
  | _ => none

/-- The value of a document that may be null. -/
def readOptional {α : Type} (read : Json → Option α) : Json → Option (Option α)
  | .null => some none
  | j => (read j).map some

end LiveTable.Json
