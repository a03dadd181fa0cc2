import RichMessage.Path.Editor
import RichMessage.Proofs.Path.Lens

set_option autoImplicit false

/- Reading, writing and changing what is there follow a path each in its own way, and they agree on
where it leads. An edit that resolves makes a new node unless it puts the node at the root in its
own place, and only then the history has nothing to keep. -/
namespace RichMessage

namespace Json

/-- What stops a write at a value: an array takes no key, and what is no object takes no index that
lies more than 1024 behind its elements. -/
def Refuses (node : Json) (step : Segment) : Prop :=
  ((∃ items, node = .arr items) ∧ step.isIndex = false) ∨
    (node.isObject = false ∧ ∃ i, step = .index i ∧ node.items.length + 1024 < i)

/-- Equal values without an allocation. -/
inductive SameAtom : Json → Json → Prop
  | null : SameAtom .null .null
  | bool (value : Bool) : SameAtom (.bool value) (.bool value)
  | int (value : Int) (fits : FitsWord value) :
      SameAtom (.number (.int value fits)) (.number (.int value fits))
  | float {x y : Binary64} (equal : (x.val == y.val) = true) :
      SameAtom (.number (.float x)) (.number (.float y))

def Allocated : Json → Prop
  | .str _ | .arr _ | .obj _ => True
  | _ => False

def IsContainer : Json → Prop
  | .arr _ | .obj _ => True
  | _ => False

/-- Unless the allocation is shared, only equal atoms are one node. -/
theorem identical_false_iff {next root : Json} :
    next.identical false root = true ↔ SameAtom next root := by
  constructor
  · intro same
    fun_cases identical false next root with
    | case4 => exact .null
    | case5 a b =>
        cases beq_iff_eq.mp same
        exact .bool a
    | case6 a b =>
        cases a with
        | int m fits =>
            cases b with
            | int n fits' =>
                cases beq_iff_eq.mp same
                exact .int m fits
            | float y => cases same
        | float x =>
            cases b with
            | int n fits => cases same
            | float y => exact .float same
    | case1 | case2 | case3 => cases same
    | case7 => exact absurd same (by simp [identical])
  · rintro (_ | value | ⟨value, fits⟩ | equal)
    · rfl
    · exact beq_self_eq_true value
    · exact beq_self_eq_true value
    · exact equal

theorem identical_self_iff {root : Json} :
    root.identical true root = true ↔ SameAtom root root ∨ root.Allocated := by
  rw [← identical_false_iff]
  cases root <;> simp [identical, Allocated]

theorem identical_of_isContainer {next root : Json} (container : next.IsContainer) :
    next.identical false root = false := by
  cases next <;> first | cases root <;> rfl | cases container

theorem takes_iff (node : Json) (step : Segment) : node.takes step ↔ ¬ node.Refuses step := by
  cases step with
  | key name => cases node <;> simp [takes, containerFor, Refuses, Segment.isIndex]
  | index i =>
      cases node with
      | obj members => simp [takes, containerFor, Refuses, Segment.isIndex, isObject, members?]
      | arr items =>
          have near : (arr items).Refuses (.index i) ↔ items.length + 1024 < i := by
            simp [Refuses, Segment.isIndex, isObject, members?, Json.items, items?]
          rw [near, Nat.not_lt]
          exact decide_eq_true_iff
      | null | bool value | number value | str value =>
          simp [takes, containerFor, Refuses, Segment.isIndex, isObject, members?, Json.items,
            items?, maxPadding]

theorem isSome_set?_iff (root : Json) (path : Path) (value : Json) :
    (root.set? path value).isSome ↔
      ∀ front step rest, path = front ++ step :: rest → ¬ (root.held front).Refuses step := by
  induction path generalizing root with
  | nil =>
      constructor
      · intro _ front step rest impossible
        exact absurd impossible.symm (by simp)
      · intro _
        rfl
  | cons first path ih =>
      have stepped : (root.set? (first :: path) value).isSome ↔
          root.takes first ∧ (((root.child? first).getD .null).set? path value).isSome := by
        rw [set?_cons]
        by_cases goes : root.takes first
        · simp only [goes, if_true, Option.isSome_map, true_and]
        · simp only [goes, Bool.false_eq_true, if_false, Option.isSome_none, false_and]
      rw [stepped, takes_iff, ih]
      constructor
      · rintro ⟨here, later⟩ front step rest same
        cases front with
        | nil =>
            cases same
            exact here
        | cons other front =>
            cases same
            rw [held_cons]
            exact later front step rest rfl
      · intro free
        refine ⟨free [] first path rfl, ?_⟩
        intro front step rest same
        have there := free (first :: front) step rest (by rw [same, List.cons_append])
        rwa [held_cons] at there

theorem modify?_cons (f : Json → Option Json) (node : Json) (step : Segment) (rest : Path) :
    node.modify? f (step :: rest) =
      (node.child? step).bind fun part => (part.modify? f rest).map (node.withChild step) := by
  cases node with
  | arr items =>
      cases step with
      | key name => rfl
      | index i =>
          change (items[i]?.bind fun part =>
            (part.modify? f rest).map fun part => arr (items.set i part)) = _
          rw [child?_arr_index]
          cases found : items[i]? with
          | none => rfl
          | some part =>
              obtain ⟨inside, _⟩ := List.getElem?_eq_some_iff.mp found
              have written : (fun part => arr (items.set i part)) =
                  (arr items).withChild (.index i) := by
                funext part
                change _ = arr (setItem items i part)
                rw [setItem, if_pos inside]
              rw [Option.bind_some, Option.bind_some, written]
  | obj members => cases step <;> rfl
  | null | bool value | number value | str value => cases step <;> rfl

/-- Changing what is at a path is reading it and writing what comes of it. -/
theorem modify?_eq (f : Json → Option Json) (node : Json) (path : Path) :
    node.modify? f path = ((node.at? path).bind f).bind (node.set? path) := by
  induction path generalizing node with
  | nil => exact (Option.bind_fun_some (f node)).symm
  | cons step path ih =>
      rw [modify?_cons, at?_cons]
      cases found : node.child? step with
      | none => rfl
      | some part =>
          have stepped : node.set? (step :: path) = fun value =>
              (part.set? path value).map (node.withChild step) := by
            funext value
            rw [set?_cons, if_pos (takes_of_child? found).1, found, Option.getD_some]
          rw [Option.bind_some, Option.bind_some, ih, stepped, Option.map_bind]
          rfl

theorem isSome_modify? (f : Json → Option Json) (node : Json) (path : Path) :
    (node.modify? f path).isSome = ((node.at? path).bind f).isSome := by
  rw [modify?_eq]
  cases found : node.at? path with
  | none => rfl
  | some part =>
      rw [Option.bind_some]
      cases f part with
      | none => rfl
      | some changed =>
          -- what is already there can be written, and then so can what comes of it
          rw [Option.bind_some, isSome_set? node path changed part, set?_of_at? found,
            Option.isSome_some, Option.isSome_some]

theorem isSome_removeChild? (step : Segment) (node : Json) :
    (removeChild? step node).isSome = (node.child? step).isSome := by
  cases node with
  | arr items =>
      cases step with
      | key name => rfl
      | index i =>
          rw [child?_arr_index]
          by_cases inside : i < items.length
          · simp [removeChild?, inside]
          · simp [removeChild?, inside]
  | obj members =>
      change (if (Members.get? members step.text).isSome then _ else _ : Option Json).isSome = _
      rw [child?_obj]
      cases Members.get? members step.text <;> rfl
  | null | bool value | number value | str value => cases step <;> rfl

theorem remove?_concat (node : Json) (front : Path) (last : Segment) :
    node.remove? (front ++ [last]) = node.modify? (removeChild? last) front := by
  rw [remove?, List.getLast?_concat, List.dropLast_concat]

/-- A part can be taken out where one can be read; the root cannot. -/
theorem isSome_remove?_iff (node : Json) (path : Path) :
    (node.remove? path).isSome ↔ path ≠ [] ∧ (node.at? path).isSome := by
  rcases List.eq_nil_or_concat path with rfl | ⟨front, last, rfl⟩
  · simp [remove?]
  · rw [List.concat_eq_append]
    have left : front ++ [last] ≠ [] := by simp
    rw [remove?_concat, isSome_modify?, at?_append]
    cases node.at? front with
    | none => simp
    | some part =>
        have whole : part.at? [last] = part.child? last := by
          rw [at?_cons]
          exact Option.bind_fun_some _
        rw [Option.bind_some, Option.bind_some, whole, isSome_removeChild?]
        exact (and_iff_right left).symm

theorem isSome_insertItem?_iff (i : Nat) (element : Json) (found : Option Json) :
    (found.bind (insertItem? i element)).isSome ↔ ∃ items, found = some (.arr items) := by
  cases found with
  | none => simp
  | some node => cases node <;> simp [insertItem?]

theorem isSome_moveItem?_iff (source target : Nat) (found : Option Json) :
    (found.bind (moveItem? source target)).isSome ↔
      ∃ items, found = some (.arr items) ∧ source ≠ target ∧ source < items.length ∧
        target < items.length := by
  cases found with
  | none => simp
  | some node =>
      cases node with
      | arr items =>
          by_cases inside : source ≠ target ∧ source < items.length ∧ target < items.length
          · simp [moveItem?, inside]
          · simp only [moveItem?, inside, Option.bind_some, if_false, Option.isSome_none,
              Bool.false_eq_true, Option.some.injEq, arr.injEq, exists_eq_left']
      | obj members | null | bool value | number value | str value => simp [moveItem?]

theorem isContainer_set?_cons {node next value : Json} {step : Segment} {rest : Path}
    (written : node.set? (step :: rest) value = some next) : next.IsContainer := by
  obtain ⟨goes, part, _, rfl⟩ := set?_cons_eq_some_iff.mp written
  obtain ⟨items, i, _, _, _, made⟩ | ⟨members, _, made⟩ := takes_cases goes
  · rw [made]
    trivial
  · rw [made]
    trivial

theorem isContainer_modify? {f : Json → Option Json} {node next : Json} {path : Path}
    (made : ∀ part changed, f part = some changed → changed.IsContainer)
    (modified : node.modify? f path = some next) : next.IsContainer := by
  cases path with
  | nil => exact made node next modified
  | cons step rest =>
      rw [modify?_eq] at modified
      obtain ⟨changed, _, written⟩ := Option.bind_eq_some_iff.mp modified
      exact isContainer_set?_cons written

theorem isContainer_removeChild? {node next : Json} {step : Segment}
    (removed : removeChild? step node = some next) : next.IsContainer := by
  unfold removeChild? at removed
  split at removed
  · split at removed <;> cases removed
    trivial
  · split at removed <;> cases removed
    trivial
  · cases removed

theorem isContainer_insertItem? {node next element : Json} {i : Nat}
    (inserted : insertItem? i element node = some next) : next.IsContainer := by
  unfold insertItem? at inserted
  split at inserted
  · cases inserted
    trivial
  · cases inserted

theorem isContainer_moveItem? {node next : Json} {source target : Nat}
    (moved : moveItem? source target node = some next) : next.IsContainer := by
  unfold moveItem? at moved
  split at moved
  · split at moved <;> cases moved
    trivial
  · cases moved

end Json

namespace Edit

/-- What an edit asks of the value that it edits, as reading shows it. -/
def Resolves (root : Json) : Edit → Prop
  | .set path _ => path.length ≤ 128 ∧
      ∀ front step rest, path = front ++ step :: rest → ¬ (root.held front).Refuses step
  | .remove path => 1 ≤ path.length ∧ path.length ≤ 128 ∧ (root.at? path).isSome
  | .insert path _ _ => path.length ≤ 128 ∧ ∃ items, root.at? path = some (.arr items)
  | .move path source target => path.length ≤ 128 ∧ ∃ items, root.at? path = some (.arr items) ∧
      source ≠ target ∧ source < items.length ∧ target < items.length

/-- An equal atom or the root itself is put in the place of the root. -/
def KeepsRoot (root : Json) : Edit → Prop
  | .set path given => path = [] ∧
      (Json.SameAtom (given.value root) root ∨ given = .root ∧ root.Allocated)
  | _ => False

theorem isSome_unless {α : Type} (excluded : Prop) [Decidable excluded] (answer : Option α) :
    (if excluded then none else answer).isSome ↔ ¬ excluded ∧ answer.isSome := by
  by_cases out : excluded
  · simp [out]
  · simp [out]

theorem isSome_result?_iff {edit : Edit} {root : Json} :
    (edit.result? root).isSome ↔ edit.Resolves root := by
  unfold result?
  rw [isSome_unless, Nat.not_lt]
  cases edit with
  | set path given => exact and_congr_right fun _ => Json.isSome_set?_iff root path _
  | remove path =>
      have steps : path ≠ [] ↔ 1 ≤ path.length := List.length_pos_iff.symm
      dsimp only [Resolves]
      rw [Json.isSome_remove?_iff, steps, and_left_comm]
      rfl
  | insert path i element =>
      refine and_congr_right fun _ => ?_
      rw [Json.isSome_modify?]
      exact Json.isSome_insertItem?_iff i element _
  | move path source target =>
      refine and_congr_right fun _ => ?_
      rw [Json.isSome_modify?]
      exact Json.isSome_moveItem?_iff source target _

/-- All edits but those that set the root leave a new container behind. -/
theorem isContainer_result? {edit : Edit} {root next : Json}
    (inside : ∀ given, edit ≠ .set [] given) (made : edit.result? root = some next) :
    next.IsContainer := by
  unfold result? at made
  split at made
  · cases made
  · cases edit with
    | set path given =>
        cases path with
        | nil => exact absurd rfl (inside given)
        | cons step rest => exact Json.isContainer_set?_cons made
    | remove path =>
        simp only [Json.remove?] at made
        split at made
        · cases made
        · exact Json.isContainer_modify? (fun _ _ removed => Json.isContainer_removeChild? removed)
            made
    | insert path i element =>
        exact Json.isContainer_modify? (fun _ _ inserted => Json.isContainer_insertItem? inserted)
          made
    | move path source target =>
        exact Json.isContainer_modify? (fun _ _ moved => Json.isContainer_moveItem? moved) made

theorem identical_root_iff {given : Given} {root : Json} :
    (given.value root).identical (sharesRoot (.set [] given)) root = true ↔
      (set [] given).KeepsRoot root := by
  cases given with
  | apart value =>
      have other : ¬ (Given.apart value = .root ∧ root.Allocated) := by simp
      simp only [sharesRoot, Json.identical_false_iff, KeepsRoot, other, or_false, true_and]
  | root => simp only [sharesRoot, Given.value, Json.identical_self_iff, KeepsRoot, true_and]

theorem effect?_eq_some_iff {edit : Edit} {root next : Json} :
    edit.effect? root = some next ↔ edit.result? root = some next ∧ ¬ edit.KeepsRoot root := by
  have kept (result : edit.result? root = some next) :
      next.identical edit.sharesRoot root = true ↔ edit.KeepsRoot root := by
    by_cases whole : ∃ given, edit = .set [] given
    · obtain ⟨given, rfl⟩ := whole
      cases result
      exact identical_root_iff
    · -- a new container shares nothing with the root
      have inside (given : Given) : edit ≠ .set [] given := fun same => whole ⟨given, same⟩
      have container := isContainer_result? inside result
      cases edit with
      | set path given =>
          have below : path ≠ [] := fun empty => inside given (by rw [empty])
          have alone : sharesRoot (.set path given) = false := by
            cases path with
            | nil => exact absurd rfl below
            | cons step rest => rfl
          rw [alone, Json.identical_of_isContainer container]
          simp [KeepsRoot, below]
      | remove | insert | move =>
          simp [sharesRoot, Json.identical_of_isContainer container, KeepsRoot]
  rw [effect?, Option.bind_eq_some_iff]
  constructor
  · rintro ⟨made, result, taken⟩
    split at taken
    · cases taken
    · rename_i moved
      cases taken
      exact ⟨result, fun stays => moved ((kept result).mpr stays)⟩
  · rintro ⟨result, moves⟩
    exact ⟨next, result, if_neg fun same => moves ((kept result).mp same)⟩

theorem isSome_effect?_iff {edit : Edit} {root : Json} :
    (edit.effect? root).isSome ↔ edit.Resolves root ∧ ¬ edit.KeepsRoot root := by
  rw [Option.isSome_iff_exists, ← isSome_result?_iff, Option.isSome_iff_exists, ← exists_and_right]
  exact exists_congr fun next => effect?_eq_some_iff

theorem result?_of_effect? {edit : Edit} {root next : Json}
    (taken : edit.effect? root = some next) : edit.result? root = some next :=
  (effect?_eq_some_iff.mp taken).1

/-- An edit that does not resolve has no effect. -/
theorem effect?_of_not_resolves {edit : Edit} {root : Json} (lost : ¬ edit.Resolves root) :
    edit.effect? root = none := by
  rw [← Option.not_isSome_iff_eq_none, isSome_effect?_iff]
  exact fun done => lost done.1

end Edit

namespace TreeEditor

theorem perform_edit_fst (editor : TreeEditor) (edit : Edit) :
    (editor.perform (.edit edit)).1 = (edit.effect? editor.root).isSome := by
  simp only [perform, step?, edit?]
  cases edit.effect? editor.root <;> rfl

theorem perform_edit_of_false {editor : TreeEditor} {edit : Edit}
    (nothing : (editor.perform (.edit edit)).1 = false) :
    (editor.perform (.edit edit)).2 = editor := by
  rw [perform_edit_fst] at nothing
  simp only [perform, step?, edit?]
  cases made : edit.effect? editor.root with
  | none => rfl
  | some root =>
      rw [made] at nothing
      cases nothing

theorem perform_edit_of_true {editor : TreeEditor} {edit : Edit}
    (done : (editor.perform (.edit edit)).1 = true) :
    edit.result? editor.root = some (editor.perform (.edit edit)).2.root ∧
      (editor.perform (.edit edit)).2.history =
        editor.history.record editor.root edit.description := by
  rw [perform_edit_fst] at done
  obtain ⟨root, made⟩ := Option.isSome_iff_exists.mp done
  simp only [perform, step?, edit?, made]
  exact ⟨Edit.result?_of_effect? made, rfl⟩

theorem perform_edit_iff (editor : TreeEditor) (edit : Edit) :
    (editor.perform (.edit edit)).1 = true ↔
      edit.Resolves editor.root ∧ ¬ edit.KeepsRoot editor.root := by
  rw [perform_edit_fst]
  exact Edit.isSome_effect?_iff

/-- An edit takes effect exactly where its path leads somewhere, as reading it shows, unless it puts
an equal atom or a clone of the root in the place of the root. One without an effect leaves the
editor as it is, and one with an effect is one more snapshot to go back to. -/
theorem edits_take_effect_where_paths_lead (editor : TreeEditor) (path : Path) :
    ((editor.perform (.edit (.remove path))).1 = true ↔
      1 ≤ path.length ∧ path.length ≤ 128 ∧ (editor.at? path).isSome) ∧
    (∀ i element, (editor.perform (.edit (.insert path i element))).1 = true ↔
      path.length ≤ 128 ∧ ∃ items, editor.at? path = some (.arr items)) ∧
    (∀ source target, (editor.perform (.edit (.move path source target))).1 = true ↔
      path.length ≤ 128 ∧ ∃ items, editor.at? path = some (.arr items) ∧
        source ≠ target ∧ source < items.length ∧ target < items.length) ∧
    (∀ given : Given, (editor.perform (.edit (.set path given))).1 = true ↔
      (path.length ≤ 128 ∧
        ∀ front step rest, path = front ++ step :: rest →
          ¬ (editor.root.held front).Refuses step) ∧
      ¬ (path = [] ∧ (Json.SameAtom (given.value editor.root) editor.root ∨
        given = .root ∧ editor.root.Allocated))) ∧
    ∀ edit : Edit,
      let after := editor.perform (.edit edit)
      (after.1 = false → after.2 = editor) ∧
      (after.1 = true →
        edit.result? editor.root = some after.2.root ∧
        after.2.history.limit = editor.history.limit ∧
        after.2.history.past = History.trim editor.history.limit
          (⟨editor.root, edit.description⟩ :: editor.history.past) ∧
        after.2.history.future = []) := by
  refine ⟨?_, ?_, ?_, fun given => perform_edit_iff editor (.set path given), ?_⟩
  · exact (perform_edit_iff editor (.remove path)).trans (and_iff_left not_false)
  · intro i element
    exact (perform_edit_iff editor (.insert path i element)).trans (and_iff_left not_false)
  · intro source target
    exact (perform_edit_iff editor (.move path source target)).trans (and_iff_left not_false)
  · intro edit after
    refine ⟨perform_edit_of_false, ?_⟩
    intro done
    obtain ⟨result, recorded⟩ := perform_edit_of_true done
    rw [recorded]
    exact ⟨result, rfl, rfl, rfl⟩

/-- A part that is missing cannot be taken out, and one that is there can; with a limit of one, its
snapshot is the only one that is kept. -/
theorem removal_replaces_only_snapshot :
    let root : Json := .obj [("contents", .arr [.str "Clinic", .str "Hours"])]
    let editor : TreeEditor := ⟨root, { limit := 1, past := [⟨.null, "Set "⟩] }⟩
    let missing : Edit := .remove [.key "footer"]
    let present : Edit := .remove [.key "contents", .index 0]
    ((editor.perform (.edit missing)).1 = false ∧ (editor.perform (.edit missing)).2 = editor) ∧
      (editor.perform (.edit present)).1 = true ∧
      (editor.perform (.edit present)).2.history.past = [⟨root, "Remove contents.0"⟩] := by
  intro root editor missing present
  have nothing : (editor.perform (.edit missing)).1 = false := rfl
  have done : (editor.perform (.edit present)).1 = true := rfl
  obtain ⟨_, _, _, _, edits⟩ := edits_take_effect_where_paths_lead editor []
  obtain ⟨_, _, past, _⟩ := (edits present).2 done
  have text : present.description = "Remove contents.0" := by decide +kernel
  refine ⟨⟨nothing, (edits missing).1 nothing⟩, done, ?_⟩
  rw [past, text]
  rfl

/-- The path of the root can be written and what is written there is no atom, but a clone of the
root is not recorded. An integer gives way to a floating-point number, also to one of the same
value. -/
theorem clone_of_root_is_not_recorded :
    let root : Json := .obj [("a", .number (.ofWord 1))]
    let editor := TreeEditor.create root 5
    let one := TreeEditor.create (.number (.ofWord 1)) 5
    (Edit.set [] .root).Resolves editor.root ∧ ¬ Json.SameAtom root editor.root ∧
      editor.perform (.edit (.set [] .root)) = (false, editor) ∧
      ∀ x : Binary64, (one.perform (.edit (.set [] (Json.number (.float x))))).1 = true := by
  intro root editor one
  have resolves : (Edit.set [] .root).Resolves editor.root := Edit.isSome_result?_iff.mp rfl
  have made : ¬ Json.SameAtom root editor.root := fun same =>
    Bool.false_ne_true (Json.identical_false_iff.mpr same)
  exact ⟨resolves, made, rfl, fun x => rfl⟩

end TreeEditor

end RichMessage
