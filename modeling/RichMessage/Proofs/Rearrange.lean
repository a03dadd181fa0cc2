import Mathlib.Data.List.InsertIdx
import Mathlib.Data.List.Perm.Basic
import RichMessage.Rearrange

set_option autoImplicit false

namespace RichMessage

variable {α : Type}

/-- What is found is the first element with the property. -/
theorem Located.find?_eq_some_iff {property : α → Bool} {items : List α} {found : Located α} :
    Located.find? property items = some found ↔
      items = found.before ++ found.item :: found.after ∧ property found.item = true ∧
        ∀ other ∈ found.before, property other = false := by
  induction items generalizing found with
  | nil =>
      constructor
      · intro none
        cases none
      · rintro ⟨whole, _⟩
        simp at whole
  | cons item rest ih =>
      obtain ⟨before, here, after⟩ := found
      by_cases hit : property item = true
      · simp only [Located.find?, hit, if_true, Option.some.injEq, Located.mk.injEq]
        constructor
        · rintro ⟨rfl, rfl, rfl⟩
          exact ⟨rfl, hit, fun _ none => by cases none⟩
        · rintro ⟨whole, _, passed⟩
          cases before with
          | nil =>
              cases whole
              exact ⟨rfl, rfl, rfl⟩
          | cons first before =>
              cases whole
              have missed := passed item List.mem_cons_self
              rw [hit] at missed
              cases missed
      · simp only [Located.find?, hit, Bool.false_eq_true, if_false, Option.map_eq_some_iff, ih]
        constructor
        · rintro ⟨inner, ⟨rfl, holds, passed⟩, same⟩
          cases same
          refine ⟨rfl, holds, ?_⟩
          intro other member
          rcases List.mem_cons.mp member with rfl | later
          · exact Bool.of_not_eq_true hit
          · exact passed other later
        · rintro ⟨whole, holds, passed⟩
          cases before with
          | nil =>
              cases whole
              exact absurd holds hit
          | cons first before =>
              cases whole
              exact ⟨⟨before, here, after⟩,
                ⟨rfl, holds, fun other member => passed other (List.mem_cons_of_mem _ member)⟩, rfl⟩

theorem Located.eq_append_of_find? {property : α → Bool} {items : List α} {found : Located α}
    (located : Located.find? property items = some found) :
    items = found.before ++ found.item :: found.after :=
  (Located.find?_eq_some_iff.mp located).1

theorem Located.length_replace (found : Located α) (items : List α) :
    (found.replace items).length = found.before.length + items.length + found.after.length := by
  rw [Located.replace, List.length_append, List.length_append]

theorem perm_insertClamped (items : List α) (index : Option Nat) (item : α) :
    (insertClamped items index item).Perm (items ++ [item]) := by
  have inside : min (index.getD items.length) items.length ≤ items.length := Nat.min_le_right _ _
  exact (List.perm_insertIdx item items inside).trans (List.perm_append_singleton item items).symm

theorem length_insertClamped (items : List α) (index : Option Nat) (item : α) :
    (insertClamped items index item).length = items.length + 1 := by
  rw [(perm_insertClamped items index item).length_eq, List.length_append, List.length_singleton]

theorem getElem?_insertClamped (items : List α) (i j : Nat) (item : α) :
    (insertClamped items (some i) item)[j]? =
      if j < min i items.length then items[j]?
      else if j = min i items.length then some item
      else items[j - 1]? := by
  rw [insertClamped, Option.getD_some, List.getElem?_insertIdx]
  by_cases here : j = min i items.length
  · have inside : j ≤ items.length := by omega
    rw [if_pos here, if_pos here, if_pos inside]
  · rw [if_neg here, if_neg here]

theorem eraseIdx_insertClamped (items : List α) (i : Nat) (item : α) :
    (insertClamped items (some i) item).eraseIdx (min i items.length) = items := by
  rw [insertClamped, Option.getD_some, List.eraseIdx_insertIdx_self]

theorem insertIdx_between (before after : List α) (item : α) :
    (before ++ after).insertIdx before.length item = before ++ item :: after := by
  induction before with
  | nil => rfl
  | cons first before ih =>
      rw [List.cons_append, List.length_cons, List.insertIdx_succ_cons, ih, List.cons_append]

/-- An element goes between those in front of its index and the others. -/
theorem insertIdx_eq_append {items : List α} {position : Nat} (inside : position ≤ items.length)
    (item : α) :
    items.insertIdx position item = items.take position ++ item :: items.drop position := by
  have split := insertIdx_between (items.take position) (items.drop position) item
  rwa [List.take_append_drop, List.length_take_of_le inside] at split

/-- The second list is the first one with an element put in behind so many others. -/
def PutAt (position : Nat) (item : α) (items larger : List α) : Prop :=
  ∃ before after, before.length = position ∧ items = before ++ after ∧
    larger = before ++ item :: after

theorem putAt_insertIdx {items : List α} {position : Nat} (inside : position ≤ items.length)
    (item : α) : PutAt position item items (items.insertIdx position item) :=
  ⟨_, _, List.length_take_of_le inside, (List.take_append_drop position items).symm,
    insertIdx_eq_append inside item⟩

theorem putAt_insertClamped (items : List α) (index : Option Nat) (item : α) :
    PutAt (min (index.getD items.length) items.length) item items
      (insertClamped items index item) :=
  putAt_insertIdx (Nat.min_le_right _ _) item

theorem PutAt.length {position : Nat} {item : α} {items larger : List α}
    (put : PutAt position item items larger) : larger.length = items.length + 1 := by
  obtain ⟨before, after, _, rfl, rfl⟩ := put
  simp only [List.length_append, List.length_cons]
  omega

section Found

variable {property : α → Bool} {items : List α} {found : Located α}

/-- A copy of what was found goes right behind it. -/
theorem putAt_replace_pair (located : Located.find? property items = some found) (copy : α) :
    PutAt (found.before.length + 1) copy items (found.replace [found.item, copy]) := by
  have whole := Located.eq_append_of_find? located
  refine ⟨found.before ++ [found.item], found.after, ?_, ?_, ?_⟩
  · rw [List.length_append, List.length_singleton]
  · rw [whole, List.append_assoc, List.singleton_append]
  · simp only [Located.replace, List.append_assoc, List.cons_append, List.nil_append]

/-- What was found is all that is missing once it has been taken out. -/
theorem putAt_replace_nil (located : Located.find? property items = some found) :
    PutAt found.before.length found.item (found.replace []) items := by
  have whole := Located.eq_append_of_find? located
  refine ⟨found.before, found.after, rfl, ?_, whole⟩
  rw [Located.replace, List.append_nil]

end Found

section Moving

variable {items : List α} {origin target : Nat}

theorem moveItem_eq (originInside : origin < items.length) :
    moveItem items origin target = (items.eraseIdx origin).insertIdx target items[origin] := by
  rw [moveItem, List.getElem?_eq_getElem originInside]

/-- The target was checked against the whole list, and there is room for it without the element. -/
theorem le_length_eraseIdx (originInside : origin < items.length)
    (targetInside : target < items.length) : target ≤ (items.eraseIdx origin).length := by
  have left := List.length_eraseIdx_of_lt originInside
  omega

theorem perm_moveItem (originInside : origin < items.length)
    (targetInside : target < items.length) :
    (moveItem items origin target).Perm items := by
  have room := le_length_eraseIdx originInside targetInside
  rw [moveItem_eq originInside]
  exact (List.perm_insertIdx _ _ room).trans (List.getElem_cons_eraseIdx_perm originInside)

theorem length_moveItem (originInside : origin < items.length)
    (targetInside : target < items.length) :
    (moveItem items origin target).length = items.length :=
  (perm_moveItem originInside targetInside).length_eq

theorem getElem?_moveItem (originInside : origin < items.length)
    (targetInside : target < items.length) :
    (moveItem items origin target)[target]? = items[origin]? := by
  have room := le_length_eraseIdx originInside targetInside
  rw [moveItem_eq originInside, List.getElem?_insertIdx_self, if_pos room,
    List.getElem?_eq_getElem originInside]

theorem eraseIdx_moveItem (originInside : origin < items.length) :
    (moveItem items origin target).eraseIdx target = items.eraseIdx origin := by
  rw [moveItem_eq originInside, List.eraseIdx_insertIdx_self]

theorem moveItem_moveItem (originInside : origin < items.length)
    (targetInside : target < items.length) :
    moveItem (moveItem items origin target) target origin = items := by
  have there := getElem?_moveItem originInside targetInside
  rw [moveItem, there, List.getElem?_eq_getElem originInside]
  dsimp only
  rw [eraseIdx_moveItem originInside, List.insertIdx_eraseIdx_getElem originInside]

end Moving

end RichMessage
