import RichMessage.Proofs.Path.Frame
import RichMessage.Proofs.Path.Resolution
import RichMessage.Proofs.Rearrange

set_option autoImplicit false

namespace RichMessage

/-- The value after an edit; where the edit does not resolve, the value itself. -/
def Edit.outcome (edit : Edit) (root : Json) : Json :=
  (edit.result? root).getD root

namespace Json

variable {root next part changed : Json} {path : Path} {items : List Json}

/-- What is there cannot be a place that its own path pads. -/
theorem not_padded_of_at? {other : Path} (found : root.at? path = some part) :
    ¬ root.Padded path other := by
  rintro ⟨front, i, j, rest, rfl, _, noObject, behind, before⟩
  have outside : (root.held front).items.length ≤ i := by omega
  have missing : (root.held front).child? (.index i) = none := by
    cases held : root.held front with
    | arr items =>
        rw [held] at outside
        exact List.getElem?_eq_none outside
    | obj members =>
        rw [held] at noObject
        cases noObject
    | null | bool value | number value | str value => rfl
  rw [at?_append_cons, at?_cons, missing] at found
  cases found

theorem at?_element (found : root.at? path = some (.arr items)) (j : Nat) (rest : Path) :
    root.at? (path ++ .index j :: rest) = items[j]?.bind fun part => part.at? rest := by
  rw [at?_append, found, Option.bind_some, at?_cons, child?_arr_index]

theorem at?_member_of_array (found : root.at? path = some (.arr items)) (name : String)
    (rest : Path) : root.at? (path ++ .key name :: rest) = none := by
  rw [at?_append, found]
  rfl

/-- An edit that changes what is at a path writes what comes of it there. -/
theorem set?_outcome {edit : Edit} {f : Json → Option Json}
    (made : edit.result? root = root.modify? f path) (found : root.at? path = some part)
    (changes : f part = some changed) : root.set? path changed = some (edit.outcome root) := by
  have written : root.modify? f path = root.set? path changed := by
    rw [modify?_eq, found, Option.bind_some, changes, Option.bind_some]
  have resolves : (root.set? path changed).isSome := by
    rw [isSome_set? root path changed part, set?_of_at? found, Option.isSome_some]
  obtain ⟨next, same⟩ := Option.isSome_iff_exists.mp resolves
  rw [Edit.outcome, made, written, same, Option.getD_some]

theorem set?_outcome_insert (found : root.at? path = some (.arr items))
    (short : path.length ≤ 128) (i : Nat) (element : Json) :
    root.set? path (.arr (insertClamped items (some i) element)) =
      some ((Edit.insert path i element).outcome root) :=
  set?_outcome (if_neg (Nat.not_lt.mpr short)) found rfl

theorem set?_outcome_remove (found : root.at? path = some (.arr items))
    (short : path.length ≤ 127) {i : Nat} (inside : i < items.length) :
    root.set? path (.arr (items.eraseIdx i)) =
      some ((Edit.remove (path ++ [.index i])).outcome root) := by
  have steps : ¬ maxSteps < (path ++ [Segment.index i]).length := by
    rw [List.length_append, List.length_singleton]
    exact Nat.not_lt.mpr (Nat.succ_le_succ short)
  have made : (Edit.remove (path ++ [.index i])).result? root =
      root.modify? (removeChild? (.index i)) path := by
    rw [← remove?_concat]
    exact if_neg steps
  exact set?_outcome made found (if_pos inside)

theorem set?_outcome_move (found : root.at? path = some (.arr items))
    (short : path.length ≤ 128) {source target : Nat} (differ : source ≠ target)
    (sourceInside : source < items.length) (targetInside : target < items.length) :
    root.set? path (.arr (moveItem items source target)) =
      some ((Edit.move path source target).outcome root) :=
  set?_outcome (if_neg (Nat.not_lt.mpr short)) found
    (if_pos ⟨differ, sourceInside, targetInside⟩)

theorem outcome_move_of_idle (found : root.at? path = some (.arr items)) {source target : Nat}
    (idle : ¬ (source ≠ target ∧ source < items.length ∧ target < items.length)) :
    (Edit.move path source target).outcome root = root := by
  have made : (Edit.move path source target).result? root = none := by
    change (if maxSteps < path.length then none
      else root.modify? (moveItem? source target) path) = none
    have stays : moveItem? source target (.arr items) = none := if_neg idle
    rw [modify?_eq, found, Option.bind_some, stays, Option.bind_none, ite_self]
  rw [Edit.outcome, made, Option.getD_none]

/-- Writing back what was there before gives the value before. -/
theorem eq_of_set?_back {last : Json} (found : root.at? path = some part)
    (written : root.set? path changed = some next) (back : next.set? path part = some last) :
    last = root := by
  rw [set?_set? written, set?_of_at? found] at back
  exact (Option.some.inj back).symm

/-- Reads that do not lead through an array are the same in both values, and so are those that ask
the array for a name: there is none. -/
def SameBeside (root next : Json) (path : Path) : Prop :=
  (∀ raw, ¬ path <+: Path.parse raw → ¬ Path.parse raw <+: path →
    next.at? (Path.parse raw) = root.at? (Path.parse raw)) ∧
  ∀ name rest, next.at? (path ++ .key name :: rest) = root.at? (path ++ .key name :: rest)

theorem sameBeside_of_set? {raw : String} {others : List Json}
    (found : root.at? (Path.parse raw) = some (.arr items))
    (written : root.set? (Path.parse raw) (.arr others) = some next) :
    root.SameBeside next (Path.parse raw) := by
  constructor
  · intro other notBelow notAbove
    exact at?_set?_of_not_padded written notBelow notAbove (not_padded_of_at? found)
  · intro name rest
    rw [at?_set? written, at?_member_of_array found]
    rfl

/-- In an array that is no more than 128 steps from the root, an element that is put in shifts those
from its place on by one, and taking it out gives the value as it was; an element that is taken out
lets those behind it come up; and a moved element is found at its new place among the others, which
keep their order, until it is moved back. All other reads stay as they are. -/
theorem array_edits_shift_elements (root : Json) (raw : String) (items : List Json)
    (found : root.at? (Path.parse raw) = some (.arr items))
    (short : (Path.parse raw).length ≤ 128) :
    let path := Path.parse raw
    (∀ i element,
      let place := min i items.length
      let next := (Edit.insert path i element).outcome root
      root.SameBeside next path ∧
      (∀ j rest, next.at? (path ++ Segment.index j :: rest) =
        if j < place then root.at? (path ++ Segment.index j :: rest)
        else if j = place then element.at? rest
        else root.at? (path ++ Segment.index (j - 1) :: rest)) ∧
      (path.length ≤ 127 → (Edit.remove (path ++ [Segment.index place])).outcome next = root)) ∧
    (path.length ≤ 127 → ∀ i < items.length,
      let next := (Edit.remove (path ++ [Segment.index i])).outcome root
      root.SameBeside next path ∧
      ∀ j rest, next.at? (path ++ Segment.index j :: rest) =
        if j < i then root.at? (path ++ Segment.index j :: rest)
        else root.at? (path ++ Segment.index (j + 1) :: rest)) ∧
    ∀ source target,
      let next := (Edit.move path source target).outcome root
      (source ≠ target → source < items.length → target < items.length →
        root.SameBeside next path ∧
        ∃ moved, next.at? path = some (.arr moved) ∧ moved[target]? = items[source]? ∧
          moved.eraseIdx target = items.eraseIdx source) ∧
      (Edit.move path target source).outcome next = root := by
  intro path
  refine ⟨?_, ?_, ?_⟩
  · intro i element place next
    have written := set?_outcome_insert found short i element
    have array := at?_of_set? written
    refine ⟨sameBeside_of_set? found written, ?_, ?_⟩
    · intro j rest
      rw [at?_element array, getElem?_insertClamped, at?_element found, at?_element found]
      split
      · rfl
      · split <;> rfl
    · intro shorter
      have inside : place < (insertClamped items (some i) element).length := by
        rw [length_insertClamped]
        omega
      have back := set?_outcome_remove array shorter inside
      rw [eraseIdx_insertClamped] at back
      exact eq_of_set?_back found written back
  · intro shorter i inside next
    have written := set?_outcome_remove found shorter inside
    have array := at?_of_set? written
    refine ⟨sameBeside_of_set? found written, ?_⟩
    intro j rest
    rw [at?_element array, List.getElem?_eraseIdx, at?_element found, at?_element found]
    split <;> rfl
  · intro source target next
    by_cases effective : source ≠ target ∧ source < items.length ∧ target < items.length
    · obtain ⟨differ, sourceInside, targetInside⟩ := effective
      have written := set?_outcome_move found short differ sourceInside targetInside
      have array := at?_of_set? written
      have length := length_moveItem sourceInside targetInside
      have back := set?_outcome_move array short differ.symm (by omega) (by omega)
      rw [moveItem_moveItem sourceInside targetInside] at back
      exact ⟨fun _ _ _ => ⟨sameBeside_of_set? found written, _, array,
        getElem?_moveItem sourceInside targetInside, eraseIdx_moveItem sourceInside⟩,
        eq_of_set?_back found written back⟩
    · have stays : next = root := outcome_move_of_idle found effective
      have idle : ¬ (target ≠ source ∧ target < items.length ∧ source < items.length) := by
        rintro ⟨differ, targetInside, sourceInside⟩
        exact effective ⟨differ.symm, sourceInside, targetInside⟩
      refine ⟨fun differ sourceInside targetInside =>
        absurd ⟨differ, sourceInside, targetInside⟩ effective, ?_⟩
      rw [stays]
      exact outcome_move_of_idle found idle

/-- The array stands under a member that is named by a number, and the index of the new element lies
far behind its end. -/
theorem array_under_numeral_shifts :
    let items : List Json := [.str "Clinic", .str "Hours", .str "Parking"]
    let root : Json := .obj [("0", .arr items)]
    let path := Path.parse "0"
    let longer := (Edit.insert path 9 .null).outcome root
    let shorter := (Edit.remove (path ++ [Segment.index 0])).outcome root
    let moved := (Edit.move path 0 2).outcome root
    (root.at? path = some (.arr items) ∧ path.length ≤ 127) ∧
      longer.at? (path ++ [Segment.index 3]) = some .null ∧
      (Edit.remove (path ++ [Segment.index 3])).outcome longer = root ∧
      shorter.at? (path ++ [Segment.index 0]) = some (.str "Hours") ∧
      (∃ others, moved.at? path = some (.arr others) ∧ others[2]? = some (.str "Clinic") ∧
        others.eraseIdx 2 = [.str "Hours", .str "Parking"]) ∧
      (Edit.move path 2 0).outcome moved = root := by
  intro items root path longer shorter moved
  have steps : path = [.index 0] := by decide +kernel
  have found : root.at? path = some (.arr items) := by
    rw [steps]
    rfl
  have few : path.length ≤ 127 := by
    rw [steps]
    decide
  obtain ⟨inserts, removes, moves⟩ :=
    array_edits_shift_elements root "0" items found (Nat.le_succ_of_le few)
  obtain ⟨_, reads, undone⟩ := inserts 9 .null
  obtain ⟨_, comesUp⟩ := removes few 0 (by decide)
  obtain ⟨taken, back⟩ := moves 0 2
  have second : root.at? (path ++ [.index 1]) = some (.str "Hours") := by
    rw [steps]
    rfl
  exact ⟨⟨found, few⟩, reads 3 [], undone few, (comesUp 0 []).trans second,
    (taken (by decide) (by decide) (by decide)).2, back⟩

end Json

end RichMessage
