import RichMessage.Proofs.Path.Steps

set_option autoImplicit false

namespace RichMessage

namespace Json

/-- The value after a write at a path; where the write does not resolve, the value itself. -/
def setAt (root : Json) (path : Path) (value : Json) : Json :=
  ((Edit.set path value).result? root).getD root

theorem at?_set? {node next value : Json} {path : Path}
    (written : node.set? path value = some next) (rest : Path) :
    next.at? (path ++ rest) = value.at? rest := by
  induction path generalizing node next with
  | nil =>
      cases written
      rfl
  | cons step path ih =>
      obtain ⟨goes, part, inner, rfl⟩ := set?_cons_eq_some_iff.mp written
      rw [List.cons_append, at?_cons, child?_withChild goes]
      exact ih inner

theorem at?_of_set? {node next value : Json} {path : Path}
    (written : node.set? path value = some next) : next.at? path = some value := by
  have below := at?_set? written []
  rwa [List.append_nil] at below

theorem set?_of_at? {node part : Json} {path : Path} (found : node.at? path = some part) :
    node.set? path part = some node := by
  induction path generalizing node with
  | nil =>
      cases found
      rfl
  | cons step path ih =>
      rw [at?_cons] at found
      obtain ⟨child, first, rest⟩ := Option.bind_eq_some_iff.mp found
      obtain ⟨goes, same⟩ := takes_of_child? first
      apply set?_cons_eq_some_iff.mpr
      rw [first, Option.getD_some]
      exact ⟨goes, child, ih rest, same⟩

theorem set?_set? {node next value : Json} {path : Path}
    (written : node.set? path value = some next) (other : Json) :
    next.set? path other = node.set? path other := by
  induction path generalizing node next with
  | nil => rfl
  | cons step path ih =>
      -- the container takes the step again, and then goes on from the part written first
      obtain ⟨goes, part, inner, rfl⟩ := set?_cons_eq_some_iff.mp written
      have again : (node.withChild step part).withChild step = node.withChild step :=
        funext (withChild_withChild goes part)
      rw [set?_cons, set?_cons, if_pos (takes_withChild goes part), if_pos goes,
        child?_withChild goes, Option.getD_some, ih inner, again]

theorem isSome_set? (node : Json) (path : Path) (value other : Json) :
    (node.set? path value).isSome = (node.set? path other).isSome := by
  induction path generalizing node with
  | nil => rfl
  | cons step path ih =>
      rw [set?_cons, set?_cons]
      split
      · rw [Option.isSome_map, Option.isSome_map, ih]
      · rfl

/-- Only the length of the path can stop a write besides the containers on it. -/
theorem result?_set (root : Json) (path : Path) (value : Json) :
    (Edit.set path value).result? root =
      if maxSteps < path.length then none else root.set? path value := rfl

theorem setAt_of_long {path : Path} (long : maxSteps < path.length) (root value : Json) :
    root.setAt path value = root := by
  rw [setAt, result?_set, if_pos long, Option.getD_none]

theorem setAt_of_short {path : Path} (short : ¬ maxSteps < path.length) (root value : Json) :
    root.setAt path value = (root.set? path value).getD root := by
  rw [setAt, result?_set, if_neg short]

theorem set?_of_result? {root next : Json} {path : Path} {value : Json}
    (written : (Edit.set path value).result? root = some next) :
    root.set? path value = some next ∧ root.setAt path value = next := by
  have same : root.setAt path value = next := by rw [setAt, written, Option.getD_some]
  rw [result?_set] at written
  split at written
  · cases written
  · exact ⟨written, same⟩

theorem setAt_setAt (root : Json) (path : Path) (value other : Json) :
    (root.setAt path value).setAt path other = root.setAt path other := by
  by_cases long : maxSteps < path.length
  · rw [setAt_of_long long root value]
  · rw [setAt_of_short long root value]
    cases written : root.set? path value with
    | none => rw [Option.getD_none]
    | some next =>
        have again := set?_set? written other
        have resolves : (root.set? path other).isSome := by
          rw [isSome_set? root path other value, written, Option.isSome_some]
        obtain ⟨last, found⟩ := Option.isSome_iff_exists.mp resolves
        rw [Option.getD_some, setAt_of_short long, setAt_of_short long, again, found,
          Option.getD_some, Option.getD_some]

theorem setAt_of_at? {root held : Json} {path : Path} (found : root.at? path = some held) :
    root.setAt path held = root := by
  by_cases long : maxSteps < path.length
  · exact setAt_of_long long root held
  · rw [setAt_of_short long, set?_of_at? found, Option.getD_some]

/-- A write that resolves is read back at its path and below; writing what is there changes nothing;
the second of two writes stays; and no value makes a write resolve that another one does not. -/
theorem setAt_lens_laws (root : Json) (path : Path) (value other : Json) :
    (((Edit.set path value).result? root).isSome →
      (root.setAt path value).at? path = some value ∧
      ∀ rest, (root.setAt path value).at? (path ++ rest) = value.at? rest) ∧
    (∀ held, root.at? path = some held → root.setAt path held = root) ∧
    (root.setAt path value).setAt path other = root.setAt path other ∧
    ((Edit.set path value).result? root).isSome = ((Edit.set path other).result? root).isSome := by
  refine ⟨?_, fun held found => setAt_of_at? found, setAt_setAt root path value other, ?_⟩
  · intro resolves
    obtain ⟨next, written⟩ := Option.isSome_iff_exists.mp resolves
    obtain ⟨stepped, same⟩ := set?_of_result? written
    have below := at?_set? stepped
    have here := below []
    rw [List.append_nil] at here
    rw [same]
    exact ⟨here, below⟩
  · rw [result?_set, result?_set]
    split
    · rfl
    · exact isSome_set? root path value other

/-- A text gives way to an array with two nulls before the new element, in which a text can be
written again. -/
theorem setAt_replaces_text_by_padded_array :
    let root : Json := .obj [("body", .str "Hours")]
    let path : Path := [.key "body", .index 2, .key "text"]
    let contents : Json := .arr [.null, .null, .obj [("text", .str "Clinic")]]
    ((Edit.set path (Json.str "Clinic")).result? root).isSome ∧
      (root.setAt path (.str "Clinic")).at? path = some (.str "Clinic") ∧
      (root.setAt path (.str "Clinic")).at? [.key "body"] = some contents ∧
      (root.setAt path (.str "Clinic")).setAt [.key "body"] contents =
        root.setAt path (.str "Clinic") := by
  intro root path contents
  have resolves : ((Edit.set path (Json.str "Clinic")).result? root).isSome := rfl
  have found : (root.setAt path (.str "Clinic")).at? [.key "body"] = some contents := rfl
  obtain ⟨back, _⟩ := setAt_lens_laws root path (.str "Clinic") .null
  obtain ⟨_, same, _⟩ :=
    setAt_lens_laws (root.setAt path (.str "Clinic")) [.key "body"] contents contents
  exact ⟨resolves, (back resolves).1, found, same contents found⟩

end Json

end RichMessage
