import LiveTable.Text.Blank
import LiveTable.Text.Count

/-!
# Pages

* `pageCount total size`: the number of pages of `size` rows that `total` rows fill;
* `Summary`: which rows a page shows;
* `PageTarget`: a page to go to, by its number or from the current one;
* `PageLink`: an entry of the bar of page links;
* `pageLinks count current width`: the bar for the current page, with at most `width` numbers.

Pages count from zero here; the numbers that a reader sees count from one.
-/

namespace LiveTable.Table

/-- The number of pages of `size` rows that `total` rows fill. -/
def pageCount (total size : Nat) : Nat := if size = 0 then 0 else (total + size - 1) / size

/-- Which rows a page shows: the first and the last one, counted from one, how many there are, and
the page. -/
structure Summary where
  first : Nat
  last : Nat
  total : Nat
  page : Nat
  deriving DecidableEq, Repr

/-- The summary of a page of `size` rows out of `total`. -/
def Summary.of (page size total : Nat) : Summary :=
  ⟨if total = 0 then 0 else size * page + 1, min (size * page + size) total, total, page⟩

/-- A page to go to. -/
inductive PageTarget where
  /-- The page with this number, counted from one. -/
  | number (n : Nat)
  | previous
  | next
  | first
  | last
  deriving DecidableEq, Repr

namespace PageTarget

/-- The page to go to from the current one, if there is such a page. -/
def resolve (target : PageTarget) (current count : Nat) : Option Nat :=
  let page : Option Nat :=
    match target with
    | number n => if n = 0 then none else some (n - 1)
    | previous => if current = 0 then none else some (current - 1)
    | next => some (current + 1)
    | first => some 0
    | last => if count = 0 then none else some (count - 1)
  page.filter (· < count)

/-- The target written by a text: a word or a number, with blanks around it. -/
def read? (text : String) : Option PageTarget :=
  match Text.trim text with
  | "prev" => some .previous
  | "previous" => some .previous
  | "next" => some .next
  | "first" => some .first
  | "last" => some .last
  | other => (Text.readCount other).map .number

/-- One line that says that a text is no target. -/
def unreadable (text : String) : String := "not a page: `" ++ Text.trim text ++ "`"

/-- The text that a diagnostic shows for a target. -/
def inspect : PageTarget → String
  | number n => "Page(" ++ toString n ++ ")"
  | previous => "Previous"
  | next => "Next"
  | first => "First"
  | last => "Last"

end PageTarget

/-- An entry of the bar of page links. -/
inductive PageLink where
  | first
  | previous
  /-- A page by its index; `active` marks the current one. -/
  | page (index : Nat) (active : Bool)
  | next
  | last
  deriving DecidableEq, Repr

/-- The index of the first page listed when only `width` of `count` pages are: the current page has
half of the others before it, as far as there are pages. -/
def windowStart (count current width : Nat) : Nat :=
  min (current - ((width + 1) / 2 - 1)) (count - width)

/-- The bar of page links. With more than `width` pages, a window of them is listed around the
current one, between links to the first and the last page. -/
def pageLinks (count current width : Nat) : List PageLink :=
  let numbered (start length : Nat) : List PageLink :=
    (List.range' start length).map fun index => .page index (index == current)
  if width < count then
    [.first, .previous] ++ numbered (windowStart count current width) width ++ [.next, .last]
  else [.previous] ++ numbered 0 count ++ [.next]

end LiveTable.Table
