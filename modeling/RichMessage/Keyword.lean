import RichMessage.Json.Record

set_option autoImplicit false

namespace RichMessage

/-- A finite type whose values have different spellings. -/
class Keyword (α : Type) where
  /-- Every value, in the order in which they are listed. -/
  all : List α
  /-- The spelling in documents. -/
  spelling : α → String
  all_complete (a : α) : a ∈ all
  spelling_injective (a b : α) : spelling a = spelling b → a = b

namespace Keyword

variable {α : Type} [Keyword α]

def parse? (raw : String) : Option α :=
  all.find? fun a => spelling a == raw

theorem spelling_of_parse? {raw : String} {a : α} (h : parse? raw = some a) :
    spelling a = raw := by
  simpa using List.find?_some h

@[simp] theorem parse?_spelling (a : α) : parse? (spelling a) = some a := by
  obtain ⟨b, hb⟩ := Option.isSome_iff_exists.mp
    (List.find?_isSome (p := fun b : α => spelling b == spelling a) |>.mpr
      ⟨a, all_complete a, by simp⟩)
  have found : parse? (spelling a) = some b := hb
  rw [found, spelling_injective b a (spelling_of_parse? found)]

def toJson (a : α) : Json :=
  .str (spelling a)

def read? (strictness : Strictness) (w : Written) : Option α :=
  (w.plainName? strictness).bind parse?

end Keyword

end RichMessage
