set_option autoImplicit false

namespace RichMessage

variable {α : Type}

/-- Takes out the element at `source` and puts it back at `target`; without such an element nothing
changes. -/
def moveItem (items : List α) (source target : Nat) : List α :=
  match items[source]? with
  | some moved => (items.eraseIdx source).insertIdx target moved
  | none => items

/-- Puts an element at an index, or at the end when the index lies behind it or is not given. -/
def insertClamped (items : List α) (index : Option Nat) (item : α) : List α :=
  items.insertIdx (min (index.getD items.length) items.length) item

/-- A list taken apart at one of its elements. -/
structure Located (α : Type) where
  before : List α
  item : α
  after : List α
  deriving Repr, DecidableEq

namespace Located

def find? (property : α → Bool) : List α → Option (Located α)
  | [] => none
  | item :: rest =>
    if property item then some ⟨[], item, rest⟩
    else (find? property rest).map fun found => { found with before := item :: found.before }

/-- The list with other elements in the place of the one that was found. -/
def replace (found : Located α) (items : List α) : List α :=
  found.before ++ items ++ found.after

theorem replace_item_of_find? {property : α → Bool} {items : List α} {found : Located α}
    (h : find? property items = some found) : found.replace [found.item] = items := by
  induction items generalizing found with
  | nil => simp [find?] at h
  | cons item rest ih =>
    by_cases hit : property item
    · simp only [find?, hit, if_true, Option.some.injEq] at h
      subst h
      rfl
    · simp only [find?, hit, Bool.false_eq_true, if_false, Option.map_eq_some_iff] at h
      obtain ⟨inner, hinner, rfl⟩ := h
      simpa [replace] using ih hinner

end Located

end RichMessage
