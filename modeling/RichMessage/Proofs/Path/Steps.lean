import RichMessage.Path.Edit
import RichMessage.Proofs.Json.Members

set_option autoImplicit false

namespace RichMessage

namespace Json

theorem length_setItem (items : List Json) (i : Nat) (part : Json) :
    (setItem items i part).length = max items.length (i + 1) := by
  by_cases inside : i < items.length
  · rw [setItem, if_pos inside, List.length_set]
    omega
  · rw [setItem, if_neg inside, List.length_append, List.length_append, List.length_replicate,
      List.length_singleton]
    omega

theorem getElem?_setItem (items : List Json) (i j : Nat) (part : Json) :
    (setItem items i part)[j]? =
      if j = i then some part
      else if items.length ≤ j ∧ j < i then some .null
      else items[j]? := by
  by_cases inside : i < items.length
  · have unpadded : ¬ (items.length ≤ j ∧ j < i) := by omega
    rw [setItem, if_pos inside, if_neg unpadded, List.getElem?_set, if_pos inside]
    by_cases here : j = i
    · rw [if_pos here.symm, if_pos here]
    · rw [if_neg (Ne.symm here), if_neg here]
  · rw [setItem, if_neg inside, List.append_assoc]
    by_cases old : j < items.length
    · have before : ¬ (items.length ≤ j ∧ j < i) := by omega
      rw [List.getElem?_append_left old, if_neg (by omega), if_neg before]
    · have length : (List.replicate (i - items.length) Json.null).length = i - items.length :=
        List.length_replicate
      rw [List.getElem?_append_right (by omega)]
      by_cases padded : j < i
      · rw [List.getElem?_append_left (by omega), List.getElem?_replicate, if_pos (by omega),
          if_neg (by omega), if_pos ⟨by omega, padded⟩]
      · rw [List.getElem?_append_right (by omega), if_neg (show ¬ (_ ∧ j < i) by omega), length]
        by_cases here : j = i
        · rw [if_pos here, here, Nat.sub_self, List.getElem?_cons_zero]
        · have behind : items.length ≤ j := by omega
          rw [if_neg here, List.getElem?_eq_none (by rw [List.length_singleton]; omega),
            List.getElem?_eq_none behind]

theorem setItem_of_getElem? {items : List Json} {i : Nat} {part : Json}
    (held : items[i]? = some part) : setItem items i part = items := by
  obtain ⟨inside, rfl⟩ := List.getElem?_eq_some_iff.mp held
  rw [setItem, if_pos inside, List.set_getElem_self]

theorem setItem_setItem (items : List Json) (i : Nat) (first second : Json) :
    setItem (setItem items i first) i second = setItem items i second := by
  apply List.ext_getElem?
  intro j
  have length := length_setItem items i first
  have unpadded : ¬ ((setItem items i first).length ≤ j ∧ j < i) := by omega
  simp only [getElem?_setItem, unpadded, if_false]
  split <;> rfl

/-- Whether a write goes on by a step from a value, or from the container that it makes there. -/
def takes (node : Json) (step : Segment) : Bool :=
  match containerFor step node, step with
  | .arr items, .index i => i ≤ items.length + maxPadding
  | .obj _, _ => true
  | _, _ => false

/-- The container with another part under a step. -/
def withChild (node : Json) (step : Segment) (part : Json) : Json :=
  match containerFor step node, step with
  | .arr items, .index i => .arr (setItem items i part)
  | .obj members, step => .obj (Members.insert members step.text part)
  | container, _ => container

/-- What a write finds at a path: the value there, and null where there is none. -/
def held (node : Json) (path : Path) : Json :=
  (node.at? path).getD .null

@[simp] theorem child?_arr_index (items : List Json) (i : Nat) :
    (arr items).child? (.index i) = items[i]? := rfl

@[simp] theorem child?_obj (members : List (String × Json)) (step : Segment) :
    (obj members).child? step = Members.get? members step.text := rfl

/-- A container that a write makes has no parts, like the value that it takes the place of. -/
theorem child?_containerFor (node : Json) (step other : Segment) :
    (containerFor step node).child? other = node.child? other := by
  cases node with
  | arr items | obj members => rfl
  | null | bool value | number value | str value => cases step <;> cases other <;> rfl

theorem of_containerFor_eq_arr {node : Json} {step : Segment} {items : List Json}
    (array : containerFor step node = .arr items) :
    node.isObject = false ∧ node.items = items := by
  cases node with
  | arr given =>
      cases array
      exact ⟨rfl, rfl⟩
  | obj members => cases array
  | null | bool value | number value | str value =>
      cases step with
      | key name => cases array
      | index i =>
          cases array
          exact ⟨rfl, rfl⟩

theorem isObject_of_containerFor_eq_obj {node : Json} {i : Nat} {members : List (String × Json)}
    (object : containerFor (.index i) node = .obj members) : node.isObject = true := by
  cases node with
  | obj given => rfl
  | arr items | null | bool value | number value | str value => cases object

/-- What takes a step is an array with an index near enough, or an object. -/
theorem takes_cases {node : Json} {step : Segment} (goes : node.takes step) :
    (∃ items i, step = .index i ∧ containerFor step node = .arr items ∧
      i ≤ items.length + maxPadding ∧
      ∀ part, node.withChild step part = .arr (setItem items i part)) ∨
    ∃ members, containerFor step node = .obj members ∧
      ∀ part, node.withChild step part = .obj (Members.insert members step.text part) := by
  unfold takes at goes
  unfold withChild
  cases made : containerFor step node with
  | arr items =>
      rw [made] at goes
      cases step with
      | key name => cases goes
      | index i => exact .inl ⟨items, i, rfl, rfl, of_decide_eq_true goes, fun _ => rfl⟩
  | obj members => exact .inr ⟨members, rfl, fun _ => rfl⟩
  | null | bool value | number value | str value =>
      rw [made] at goes
      cases goes

theorem child?_withChild {node : Json} {step : Segment} (goes : node.takes step) (part : Json) :
    (node.withChild step part).child? step = some part := by
  obtain ⟨items, i, rfl, _, _, written⟩ | ⟨members, _, written⟩ := takes_cases goes
  · rw [written, child?_arr_index, getElem?_setItem, if_pos rfl]
  · rw [written, child?_obj, Members.get?_insert, if_pos rfl]

theorem takes_withChild {node : Json} {step : Segment} (goes : node.takes step) (part : Json) :
    (node.withChild step part).takes step := by
  obtain ⟨items, i, rfl, _, near, written⟩ | ⟨members, _, written⟩ := takes_cases goes
  · have length := length_setItem items i part
    have still : i ≤ (setItem items i part).length + maxPadding := by omega
    rw [written]
    exact decide_eq_true still
  · rw [written]
    rfl

theorem withChild_withChild {node : Json} {step : Segment} (goes : node.takes step)
    (first second : Json) :
    (node.withChild step first).withChild step second = node.withChild step second := by
  obtain ⟨items, i, rfl, _, _, written⟩ | ⟨members, _, written⟩ := takes_cases goes
  · rw [written, written, ← setItem_setItem items i first second]
    rfl
  · rw [written, written, ← Members.insert_insert members step.text first second]
    rfl

theorem takes_of_child? {node : Json} {step : Segment} {part : Json}
    (found : node.child? step = some part) :
    node.takes step ∧ node.withChild step part = node := by
  cases node with
  | arr items =>
      cases step with
      | key name => cases found
      | index i =>
          rw [child?_arr_index] at found
          obtain ⟨inside, _⟩ := List.getElem?_eq_some_iff.mp found
          have near : i ≤ items.length + maxPadding := by omega
          exact ⟨decide_eq_true near, congrArg arr (setItem_of_getElem? found)⟩
  | obj members => exact ⟨rfl, congrArg obj (Members.insert_of_get? found)⟩
  | null | bool value | number value | str value => cases found

/-- A write behind the end of an array puts a null at an index. -/
def Pads (node : Json) (step other : Segment) : Prop :=
  ∃ i j, step = .index i ∧ other = .index j ∧ node.isObject = false ∧
    node.items.length ≤ j ∧ j < i

/-- Writing a part leaves the other parts alone and makes none but the nulls before it. -/
theorem child?_withChild_of_ne {node : Json} {step other : Segment} (goes : node.takes step)
    (apart : step.text ≠ other.text) (part : Json) :
    (node.Pads step other → (node.withChild step part).child? other = some .null) ∧
      (¬ node.Pads step other → (node.withChild step part).child? other = node.child? other) := by
  obtain ⟨items, i, rfl, made, _, written⟩ | ⟨members, made, written⟩ := takes_cases goes
  · obtain ⟨noObject, rfl⟩ := of_containerFor_eq_arr made
    rw [written, ← child?_containerFor node (.index i) other, made]
    cases other with
    | key name =>
        constructor
        · rintro ⟨_, _, _, impossible, _⟩
          cases impossible
        · intro _
          rfl
    | index j =>
        have differ : j ≠ i := by
          rintro rfl
          exact apart rfl
        rw [child?_arr_index, child?_arr_index, getElem?_setItem, if_neg differ]
        constructor
        · rintro ⟨_, _, ⟨⟩, ⟨⟩, _, behind, before⟩
          rw [if_pos ⟨behind, before⟩]
        · intro unpadded
          rw [if_neg]
          rintro ⟨behind, before⟩
          exact unpadded ⟨i, j, rfl, rfl, noObject, behind, before⟩
  · rw [written, ← child?_containerFor node step other, made, child?_obj, child?_obj,
      Members.get?_insert, if_neg (Ne.symm apart)]
    constructor
    · rintro ⟨i, _, rfl, _, noObject, _⟩
      rw [isObject_of_containerFor_eq_obj made] at noObject
      cases noObject
    · intro _
      rfl

theorem set?_cons (node : Json) (step : Segment) (rest : Path) (value : Json) :
    node.set? (step :: rest) value =
      if node.takes step then
        (((node.child? step).getD .null).set? rest value).map (node.withChild step)
      else none := by
  rw [set?.eq_def, ← child?_containerFor node step step]
  unfold takes withChild
  dsimp only
  cases containerFor step node with
  | arr items =>
      cases step with
      | key name => rfl
      | index i =>
          by_cases far : items.length + maxPadding < i
          · have stops : ¬ i ≤ items.length + maxPadding := by omega
            simp only [far, stops, decide_false, if_true, Bool.false_eq_true, if_false]
          · have goes : i ≤ items.length + maxPadding := by omega
            simp only [far, goes, decide_true, if_false, if_true, child?_arr_index]
  | obj members => cases step <;> rfl
  | null | bool value | number value | str value => cases step <;> rfl

theorem set?_cons_eq_some_iff {node next : Json} {step : Segment} {rest : Path} {value : Json} :
    node.set? (step :: rest) value = some next ↔
      node.takes step ∧ ∃ part, ((node.child? step).getD .null).set? rest value = some part ∧
        node.withChild step part = next := by
  rw [set?_cons]
  by_cases goes : node.takes step
  · simp only [goes, if_true, Option.map_eq_some_iff, true_and]
  · simp only [goes, Bool.false_eq_true, if_false, false_and, reduceCtorEq]

theorem at?_cons (node : Json) (step : Segment) (rest : Path) :
    node.at? (step :: rest) = (node.child? step).bind fun part => part.at? rest := rfl

theorem at?_append (node : Json) (front rest : Path) :
    node.at? (front ++ rest) = (node.at? front).bind fun part => part.at? rest := by
  induction front generalizing node with
  | nil => rfl
  | cons step front ih =>
      rw [List.cons_append, at?_cons, at?_cons]
      cases node.child? step with
      | none => rfl
      | some part => exact ih part

theorem held_cons (node : Json) (step : Segment) (rest : Path) :
    node.held (step :: rest) = ((node.child? step).getD .null).held rest := by
  rw [held, at?_cons]
  cases node.child? step with
  | none => cases rest <;> rfl
  | some part => rfl

theorem at?_append_cons (node : Json) (front : Path) (step : Segment) (rest : Path) :
    node.at? (front ++ step :: rest) = (node.held front).at? (step :: rest) := by
  rw [at?_append, held]
  cases node.at? front <;> rfl

/-- Writing goes to the end of the front of a path and on from what it finds there. -/
theorem set?_append (node : Json) (front rest : Path) (value : Json) :
    node.set? (front ++ rest) value =
      ((node.held front).set? rest value).bind (node.set? front) := by
  induction front generalizing node with
  | nil =>
      change node.set? rest value = (node.set? rest value).bind some
      rw [Option.bind_fun_some]
  | cons step front ih =>
      -- the step stays outermost: it wraps what the shorter front comes to in the part under it
      have stepped : node.set? (step :: front) = fun part =>
          if node.takes step then
            (((node.child? step).getD .null).set? front part).map (node.withChild step)
          else none := funext (node.set?_cons step front)
      rw [List.cons_append, set?_cons, ih, held_cons, stepped]
      split
      · rw [Option.map_bind]
        rfl
      · rw [Option.bind_fun_none]

end Json

end RichMessage
