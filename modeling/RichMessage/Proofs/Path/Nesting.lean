import RichMessage.Proofs.Json.Order
import RichMessage.Proofs.Path.Resolution

set_option autoImplicit false

namespace RichMessage

namespace Json

theorem mem_setItem {items : List Json} {i : Nat} {part v : Json}
    (within : v ∈ setItem items i part) : v = part ∨ v = .null ∨ v ∈ items := by
  rw [setItem] at within
  split at within
  · rcases List.mem_or_eq_of_mem_set within with old | new
    · exact Or.inr (Or.inr old)
    · exact Or.inl new
  · rcases List.mem_append.mp within with before | new
    · rcases List.mem_append.mp before with old | padding
      · exact Or.inr (Or.inr old)
      · exact Or.inr (Or.inl (List.eq_of_mem_replicate padding))
    · exact Or.inl (List.mem_singleton.mp new)

/-- A part of a container is one of its elements or the value of one of its members. -/
theorem child?_cases {node part : Json} {step : Segment} (found : node.child? step = some part) :
    (∃ items, node = .arr items ∧ part ∈ items) ∨
      ∃ members name, node = .obj members ∧ (name, part) ∈ members := by
  cases node with
  | arr items =>
      cases step with
      | key name => cases found
      | index i => exact Or.inl ⟨items, rfl, List.mem_of_getElem? found⟩
  | obj members => exact Or.inr ⟨members, step.text, rfl, Members.mem_of_get? found⟩
  | null | bool value | number value | str value => cases step <;> cases found

/-- A property that a container has when its parts have it and its members are in a certain state,
which writing a member or taking one out keeps. -/
structure Inherited (P : Json → Prop) (state : List (String × Json) → Prop) : Prop where
  null : P .null
  arr : ∀ {items}, P (.arr items) ↔ ∀ v ∈ items, P v
  obj : ∀ {members}, P (.obj members) ↔ state members ∧ ∀ member ∈ members, P member.2
  nil : state []
  insert : ∀ {members}, state members → ∀ name v, state (Members.insert members name v)
  erase : ∀ {members}, state members → ∀ name, state (Members.erase members name)

namespace Inherited

variable {P : Json → Prop} {state : List (String × Json) → Prop}

theorem of_child? (inherited : Inherited P state) {node part : Json} {step : Segment}
    (holds : P node) (found : node.child? step = some part) : P part := by
  obtain ⟨items, rfl, within⟩ | ⟨members, name, rfl, within⟩ := child?_cases found
  · exact inherited.arr.mp holds part within
  · exact (inherited.obj.mp holds).2 (name, part) within

theorem of_containerFor (inherited : Inherited P state) {node : Json} (step : Segment)
    (holds : P node) : P (containerFor step node) := by
  have noItems : P (.arr []) := inherited.arr.mpr (by simp)
  have noMembers : P (.obj []) := inherited.obj.mpr ⟨inherited.nil, by simp⟩
  cases node with
  | arr items | obj members => exact holds
  | null | bool value | number value | str value =>
      cases step
      · exact noItems
      · exact noMembers

theorem of_withChild (inherited : Inherited P state) {node part : Json} {step : Segment}
    (goes : node.takes step) (holds : P node) (new : P part) : P (node.withChild step part) := by
  have container := inherited.of_containerFor step holds
  obtain ⟨items, i, rfl, array, _, written⟩ | ⟨members, object, written⟩ := takes_cases goes
  · rw [array] at container
    rw [written]
    refine inherited.arr.mpr fun v within => ?_
    rcases mem_setItem within with rfl | rfl | old
    · exact new
    · exact inherited.null
    · exact inherited.arr.mp container v old
  · rw [object] at container
    obtain ⟨ready, each⟩ := inherited.obj.mp container
    rw [written]
    refine inherited.obj.mpr ⟨inherited.insert ready step.text part, fun member within => ?_⟩
    rcases Members.mem_insert within with rfl | old
    · exact new
    · exact each member old

/-- What holds of a value and of what is written into it holds of the result. -/
theorem of_set? (inherited : Inherited P state) {node next value : Json} {path : Path}
    (written : node.set? path value = some next) (before : P node) (given : P value) : P next := by
  induction path generalizing node next with
  | nil =>
      cases written
      exact given
  | cons step rest ih =>
      obtain ⟨goes, part, later, rfl⟩ := set?_cons_eq_some_iff.mp written
      refine inherited.of_withChild goes before (ih later ?_)
      cases found : node.child? step with
      | none => exact inherited.null
      | some old => exact inherited.of_child? before found

theorem of_at? (inherited : Inherited P state) {node part : Json} {path : Path}
    (holds : P node) (found : node.at? path = some part) : P part := by
  induction path generalizing node with
  | nil =>
      cases found
      exact holds
  | cons step rest ih =>
      rw [at?_cons] at found
      obtain ⟨inner, into, below⟩ := Option.bind_eq_some_iff.mp found
      exact ih (inherited.of_child? holds into) below

theorem of_removeChild? (inherited : Inherited P state) {node next : Json} {step : Segment}
    (removed : removeChild? step node = some next) (holds : P node) : P next := by
  unfold removeChild? at removed
  split at removed
  · split at removed
    · cases removed
      exact inherited.arr.mpr fun v within =>
        inherited.arr.mp holds v (List.mem_of_mem_eraseIdx within)
    · cases removed
  · obtain ⟨ready, each⟩ := inherited.obj.mp holds
    split at removed
    · cases removed
      exact inherited.obj.mpr
        ⟨inherited.erase ready _, fun member within => each member (List.mem_filter.mp within).1⟩
    · cases removed
  · cases removed

/-- What holds of a value holds of it without one of its parts. -/
theorem of_remove? (inherited : Inherited P state) {node next : Json} {path : Path}
    (removed : node.remove? path = some next) (holds : P node) : P next := by
  unfold remove? at removed
  split at removed
  · cases removed
  · rw [modify?_eq] at removed
    obtain ⟨smaller, made, written⟩ := Option.bind_eq_some_iff.mp removed
    obtain ⟨part, found, without⟩ := Option.bind_eq_some_iff.mp made
    have kept := inherited.of_removeChild? without (inherited.of_at? holds found)
    exact inherited.of_set? written holds kept

end Inherited

theorem inherited_ordered : Inherited Ordered Members.Ordered where
  null := trivial
  arr := orderedItems_iff
  obj := and_congr_right fun _ => orderedMembers_iff
  nil := List.Pairwise.nil
  insert := Members.ordered_insert
  erase := Members.ordered_erase

theorem inherited_integral : Inherited Integral fun _ => True where
  null := trivial
  arr := integralItems_iff
  obj := integralMembers_iff.trans (and_iff_right trivial).symm
  nil := trivial
  insert _ _ _ := trivial
  erase _ _ := trivial

theorem depth_lt_of_child? {node part : Json} {step : Segment}
    (found : node.child? step = some part) : part.depth < node.depth := by
  obtain ⟨items, rfl, within⟩ | ⟨members, name, rfl, within⟩ := child?_cases found
  · exact Nat.lt_succ_of_le (itemsDepth_le_iff.mp (Nat.le_refl _) part within)
  · exact Nat.lt_succ_of_le (membersDepth_le_iff.mp (Nat.le_refl _) (name, part) within)

/-- What stands at a path has the containers on the path around it. -/
theorem length_add_depth_le {node part : Json} {path : Path} (found : node.at? path = some part) :
    path.length + part.depth ≤ node.depth := by
  induction path generalizing node with
  | nil =>
      cases found
      exact Nat.le_of_eq (Nat.zero_add _)
  | cons step rest ih =>
      obtain ⟨inner, first, later⟩ := Option.bind_eq_some_iff.mp found
      have outer := depth_lt_of_child? first
      have deeper := ih later
      rw [List.length_cons]
      omega

theorem depth_withChild_le {node part : Json} {step : Segment} (goes : node.takes step) :
    (node.withChild step part).depth ≤ max node.depth (part.depth + 1) := by
  have container : (containerFor step node).depth ≤ max node.depth 1 := by
    cases node with
    | arr items | obj members => exact Nat.le_max_left _ _
    | null | bool value | number value | str value => cases step <;> exact Nat.le_max_right _ _
  obtain ⟨items, i, rfl, array, _, written⟩ | ⟨members, object, written⟩ := takes_cases goes
  · rw [array, depth] at container
    have parts : itemsDepth (setItem items i part) ≤ max (itemsDepth items) part.depth := by
      refine itemsDepth_le_iff.mpr fun v within => ?_
      rcases mem_setItem within with rfl | rfl | old
      · exact Nat.le_max_right _ _
      · exact Nat.zero_le _
      · exact Nat.le_trans (itemsDepth_le_iff.mp (Nat.le_refl _) v old) (Nat.le_max_left _ _)
    rw [written, depth]
    omega
  · rw [object, depth] at container
    have parts : membersDepth (Members.insert members step.text part) ≤
        max (membersDepth members) part.depth := by
      refine membersDepth_le_iff.mpr fun member within => ?_
      rcases Members.mem_insert within with rfl | old
      · exact Nat.le_max_right _ _
      · exact Nat.le_trans (membersDepth_le_iff.mp (Nat.le_refl _) member old) (Nat.le_max_left _ _)
    rw [written, depth]
    omega

/-- A write nests nothing deeper than it was, but for the written value itself. -/
theorem depth_set?_le {node next value : Json} {path : Path}
    (written : node.set? path value = some next) :
    next.depth ≤ max node.depth (path.length + value.depth) := by
  induction path generalizing node next with
  | nil =>
      cases written
      rw [List.length_nil, Nat.zero_add]
      exact Nat.le_max_right _ _
  | cons step rest ih =>
      obtain ⟨goes, part, later, rfl⟩ := set?_cons_eq_some_iff.mp written
      have outer : (node.withChild step part).depth ≤ max node.depth (part.depth + 1) :=
        depth_withChild_le goes
      have inner := ih later
      have old : ((node.child? step).getD .null).depth ≤ node.depth - 1 := by
        cases found : node.child? step with
        | none => exact Nat.zero_le _
        | some held =>
            have less := depth_lt_of_child? found
            rw [Option.getD_some]
            omega
      rw [List.length_cons]
      omega

end Json

end RichMessage
