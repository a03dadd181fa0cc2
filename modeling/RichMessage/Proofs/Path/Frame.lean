import RichMessage.Proofs.Path.Lens
import RichMessage.Proofs.Path.Text

set_option autoImplicit false

namespace RichMessage

namespace Json

/-- The other path ends at an element that the path pads: where they part there is an array, or no
container yet, which the path goes through at a later index and which is too short for both. -/
def Padded (root : Json) (path other : Path) : Prop :=
  ∃ front i j rest, path = front ++ .index i :: rest ∧ other = front ++ [.index j] ∧
    (root.held front).isObject = false ∧ (root.held front).items.length ≤ j ∧ j < i

/-- Paths of which none goes on from the other part at some place. -/
theorem exists_parting {path other : Path} (notBelow : ¬ path <+: other)
    (notAbove : ¬ other <+: path) :
    ∃ front step step' rest rest', path = front ++ step :: rest ∧ other = front ++ step' :: rest' ∧
      step ≠ step' := by
  induction path generalizing other with
  | nil => exact absurd List.nil_prefix notBelow
  | cons step path ih =>
      cases other with
      | nil => exact absurd List.nil_prefix notAbove
      | cons step' other =>
          by_cases same : step = step'
          · subst same
            have below : ¬ path <+: other := by
              intro inside
              exact notBelow (List.cons_prefix_cons.mpr ⟨rfl, inside⟩)
            have above : ¬ other <+: path := by
              intro inside
              exact notAbove (List.cons_prefix_cons.mpr ⟨rfl, inside⟩)
            obtain ⟨front, first, first', rest, rest', rfl, rfl, differ⟩ := ih below above
            exact ⟨step :: front, first, first', rest, rest', rfl, rfl, differ⟩
          · exact ⟨[], step, step', path, other, rfl, rfl, same⟩

theorem child?_of_pads {node : Json} {step other : Segment} (pads : node.Pads step other) :
    node.child? other = none := by
  obtain ⟨i, j, _, rfl, noObject, behind, _⟩ := pads
  cases node with
  | arr items => exact List.getElem?_eq_none behind
  | obj members => cases noObject
  | null | bool value | number value | str value => rfl

/-- A write puts a container with a new part at the front of its path. -/
theorem at?_front_set? {root next value : Json} {front rest : Path} {step : Segment}
    (written : root.set? (front ++ step :: rest) value = some next) :
    (root.held front).takes step ∧ ∃ part, ∀ behind,
      next.at? (front ++ behind) = ((root.held front).withChild step part).at? behind := by
  rw [set?_append] at written
  obtain ⟨container, inner, outer⟩ := Option.bind_eq_some_iff.mp written
  obtain ⟨goes, part, _, rfl⟩ := set?_cons_eq_some_iff.mp inner
  exact ⟨goes, part, at?_set? outer⟩

theorem at?_set?_of_pads {root next value : Json} {front rest : Path} {step other : Segment}
    (written : root.set? (front ++ step :: rest) value = some next)
    (apart : step.text ≠ other.text) (pads : (root.held front).Pads step other) :
    next.at? (front ++ [other]) = some .null := by
  obtain ⟨goes, part, read⟩ := at?_front_set? written
  have padded := (child?_withChild_of_ne goes apart part).1 pads
  rw [read, at?_cons, padded]
  rfl

theorem at?_set?_of_parted {root next value : Json} {front rest behind : Path}
    {step other : Segment} (written : root.set? (front ++ step :: rest) value = some next)
    (apart : step.text ≠ other.text)
    (unpadded : ¬ (behind = [] ∧ (root.held front).Pads step other)) :
    next.at? (front ++ other :: behind) = root.at? (front ++ other :: behind) := by
  obtain ⟨goes, part, read⟩ := at?_front_set? written
  obtain ⟨padded, kept⟩ := child?_withChild_of_ne goes apart part
  rw [read, at?_append_cons, at?_cons, at?_cons]
  by_cases pads : (root.held front).Pads step other
  · -- the new null has no parts either
    have more : behind ≠ [] := fun none => unpadded ⟨none, pads⟩
    obtain ⟨first, later, rfl⟩ := List.exists_cons_of_ne_nil more
    rw [padded pads, child?_of_pads pads]
    rfl
  · rw [kept pads]

theorem at?_set?_of_padded {root next value : Json} {raw otherRaw : String}
    (written : root.set? (Path.parse raw) value = some next)
    (padded : root.Padded (Path.parse raw) (Path.parse otherRaw)) :
    next.at? (Path.parse otherRaw) = some .null := by
  obtain ⟨front, i, j, rest, ours, others, noObject, behind, before⟩ := padded
  have member : .index i ∈ Path.parse raw := by simp [ours]
  have otherMember : .index j ∈ Path.parse otherRaw := by simp [others]
  have differ : Segment.index i ≠ .index j := by
    rintro ⟨⟩
    omega
  have apart := Path.text_ne member otherMember differ
  rw [ours] at written
  rw [others]
  exact at?_set?_of_pads written apart ⟨i, j, rfl, rfl, noObject, behind, before⟩

theorem at?_set?_of_not_padded {root next value : Json} {raw otherRaw : String}
    (written : root.set? (Path.parse raw) value = some next)
    (notBelow : ¬ Path.parse raw <+: Path.parse otherRaw)
    (notAbove : ¬ Path.parse otherRaw <+: Path.parse raw)
    (unpadded : ¬ root.Padded (Path.parse raw) (Path.parse otherRaw)) :
    next.at? (Path.parse otherRaw) = root.at? (Path.parse otherRaw) := by
  obtain ⟨front, step, step', rest, rest', ours, others, differ⟩ :=
    exists_parting notBelow notAbove
  have member : step ∈ Path.parse raw := by simp [ours]
  have otherMember : step' ∈ Path.parse otherRaw := by simp [others]
  have apart := Path.text_ne member otherMember differ
  have place : ¬ (rest' = [] ∧ (root.held front).Pads step step') := by
    rintro ⟨rfl, i, j, rfl, rfl, noObject, behind, before⟩
    exact unpadded ⟨front, i, j, rest, ours, others, noObject, behind, before⟩
  rw [ours] at written
  rw [others]
  exact at?_set?_of_parted written apart place

/-- An array that a write goes through by an index reaches to that index afterwards. -/
theorem length_front_set? {root next value : Json} {front rest : Path} {i : Nat}
    (written : root.set? (front ++ .index i :: rest) value = some next)
    (noObject : (root.held front).isObject = false) :
    ∃ items, next.at? front = some (.arr items) ∧
      items.length = max (root.held front).items.length (i + 1) ∧
      i ≤ (root.held front).items.length + maxPadding := by
  obtain ⟨goes, part, read⟩ := at?_front_set? written
  have front := read []
  rw [List.append_nil] at front
  obtain ⟨items, _, ⟨⟩, made, near, same⟩ | ⟨members, made, _⟩ := takes_cases goes
  · obtain ⟨_, rfl⟩ := of_containerFor_eq_arr made
    rw [same] at front
    exact ⟨_, front, length_setItem _ i part, near⟩
  · rw [isObject_of_containerFor_eq_obj made] at noObject
    cases noObject

/-- A write changes no read at a path that goes another way, but for the nulls that it puts before
the element of an array. It makes the array just long enough, and not much longer than it was. -/
theorem setAt_touches_only_its_path (root value : Json) (raw otherRaw : String)
    (notBelow : ¬ Path.parse raw <+: Path.parse otherRaw)
    (notAbove : ¬ Path.parse otherRaw <+: Path.parse raw) :
    let path := Path.parse raw
    let other := Path.parse otherRaw
    let resolves := ((Edit.set path value).result? root).isSome
    (¬ (resolves ∧ root.Padded path other) →
      (root.setAt path value).at? other = root.at? other) ∧
    (resolves → root.Padded path other → (root.setAt path value).at? other = some .null) ∧
    (resolves → ∀ front i rest, path = front ++ .index i :: rest →
      (root.held front).isObject = false →
      ∃ items, (root.setAt path value).at? front = some (.arr items) ∧
        items.length = max (root.held front).items.length (i + 1) ∧
        items.length ≤ (root.held front).items.length + 1025) := by
  intro path other resolves
  cases written : (Edit.set path value).result? root with
  | none =>
      have stopped : ¬ resolves := by simp [resolves, written]
      have same : root.setAt path value = root := by rw [setAt, written, Option.getD_none]
      exact ⟨fun _ => by rw [same], fun resolved => absurd resolved stopped,
        fun resolved => absurd resolved stopped⟩
  | some next =>
      have resolved : resolves := by simp [resolves, written]
      obtain ⟨stepped, same⟩ := set?_of_result? written
      rw [same]
      refine ⟨?_, fun _ padded => at?_set?_of_padded stepped padded, ?_⟩
      · intro unpadded
        exact at?_set?_of_not_padded stepped notBelow notAbove fun padded =>
          unpadded ⟨resolved, padded⟩
      · intro _ front i rest ours noObject
        rw [ours] at stepped
        obtain ⟨items, found, length, near⟩ := length_front_set? stepped noObject
        have bounded : i ≤ (root.held front).items.length + 1024 := near
        exact ⟨items, found, length, by omega⟩

/-- An element behind the end of an array gets a null before it, and nothing else changes. -/
theorem setAt_pads_contents :
    let root : Json := .obj [("contents", .arr [.str "Clinic"]), ("layout", .str "vertical")]
    let written := root.setAt (Path.parse "contents.2.text") (.str "Hours")
    (¬ Path.parse "contents.2.text" <+: Path.parse "contents.1" ∧
      ¬ Path.parse "contents.1" <+: Path.parse "contents.2.text" ∧
      root.Padded (Path.parse "contents.2.text") (Path.parse "contents.1") ∧
      written.at? (Path.parse "contents.1") = some .null ∧
      ∃ items, written.at? [.key "contents"] = some (.arr items) ∧ items.length = 3) ∧
    ¬ Path.parse "contents.2.text" <+: Path.parse "contents.0" ∧
      ¬ Path.parse "contents.0" <+: Path.parse "contents.2.text" ∧
      ¬ root.Padded (Path.parse "contents.2.text") (Path.parse "contents.0") ∧
      written.at? (Path.parse "contents.0") = root.at? (Path.parse "contents.0") := by
  intro root written
  have path : Path.parse "contents.2.text" = [.key "contents"] ++ .index 2 :: [.key "text"] := by
    decide +kernel
  have between : Path.parse "contents.1" = [.key "contents"] ++ [.index 1] := by decide +kernel
  have first : Path.parse "contents.0" = [.key "contents"] ++ [.index 0] := by decide +kernel
  have padded : root.Padded (Path.parse "contents.2.text") (Path.parse "contents.1") :=
    ⟨_, 2, 1, _, path, between, rfl, by decide, by decide⟩
  have unpadded : ¬ root.Padded (Path.parse "contents.2.text") (Path.parse "contents.0") := by
    rintro ⟨front, i, j, rest, _, others, _, behind, _⟩
    rw [first] at others
    obtain ⟨rfl, last⟩ := List.append_inj' others rfl
    cases last
    exact absurd behind (by decide)
  have resolves :
      ((Edit.set (Path.parse "contents.2.text") (Json.str "Hours")).result? root).isSome := by
    rw [path]
    rfl
  have apart : ¬ Path.parse "contents.2.text" <+: Path.parse "contents.1" ∧
      ¬ Path.parse "contents.1" <+: Path.parse "contents.2.text" := by decide +kernel
  have apartFirst : ¬ Path.parse "contents.2.text" <+: Path.parse "contents.0" ∧
      ¬ Path.parse "contents.0" <+: Path.parse "contents.2.text" := by decide +kernel
  obtain ⟨_, null, length⟩ := setAt_touches_only_its_path root (.str "Hours") "contents.2.text"
    "contents.1" apart.1 apart.2
  obtain ⟨kept, _, _⟩ := setAt_touches_only_its_path root (.str "Hours") "contents.2.text"
    "contents.0" apartFirst.1 apartFirst.2
  obtain ⟨items, found, long, _⟩ := length resolves _ _ _ path rfl
  exact ⟨⟨apart.1, apart.2, padded, null resolves padded, items, found, long⟩, apartFirst.1,
    apartFirst.2, unpadded, kept fun both => unpadded both.2⟩

end Json

end RichMessage
