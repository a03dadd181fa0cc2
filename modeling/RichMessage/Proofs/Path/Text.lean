import RichMessage.Path.Basic

set_option autoImplicit false

namespace RichMessage

theorem Segment.toList_text_parse (raw : List Char) : (Segment.parse raw).text.toList = raw := by
  unfold Segment.parse
  dsimp only
  split
  · rename_i canonical
    rw [Segment.text, Nat.toList_repr, canonical.2]
  · rw [Segment.text, String.toList_ofList]

/-- A path that has been read is written as the text that it was read from. -/
theorem Path.text_parse (raw : String) : (Path.parse raw).text = raw := by
  rw [← String.toList_inj, Path.text, Path.parse, String.toList_intercalate]
  split
  · rename_i empty
    rw [empty]
    rfl
  · have parts : ((raw.toList.splitOn '.').map Segment.parse).map (String.toList ∘ Segment.text) =
        raw.toList.splitOn '.' := by
      rw [List.map_map]
      exact List.map_id'' Segment.toList_text_parse _
    rw [List.map_map, parts]
    exact List.intercalate_splitOn '.'

theorem length_splitOn (text : List Char) (mark : Char) :
    (text.splitOn mark).length = text.count mark + 1 := by
  induction text with
  | nil => rw [List.splitOn_nil, List.count_nil, List.length_singleton]
  | cons c rest ih =>
      rw [List.splitOn_cons_eq_if_modifyHead, List.count_cons]
      split
      · rw [List.length_cons, ih]
      · rw [List.length_modifyHead, ih, Nat.add_zero]

/-- The root has no step, and every other path has one more than dots. -/
theorem Path.length_parse (raw : String) :
    (Path.parse raw).length = if raw = "" then 0 else raw.toList.count '.' + 1 := by
  rw [Path.parse, apply_ite List.length, List.length_map, length_splitOn, List.length_nil]

theorem Path.exists_of_mem_parse {raw : String} {step : Segment} (member : step ∈ Path.parse raw) :
    ∃ text, step = Segment.parse text := by
  unfold Path.parse at member
  split at member
  · cases member
  · obtain ⟨text, _, read⟩ := List.mem_map.mp member
    exact ⟨text, read.symm⟩

/-- Steps that have been read differ in their texts if they differ at all. -/
theorem Path.text_ne {first second : String} {step other : Segment}
    (member : step ∈ Path.parse first) (otherMember : other ∈ Path.parse second)
    (differ : step ≠ other) : step.text ≠ other.text := by
  obtain ⟨text, rfl⟩ := exists_of_mem_parse member
  obtain ⟨otherText, rfl⟩ := exists_of_mem_parse otherMember
  intro same
  have texts := congrArg String.toList same
  rw [Segment.toList_text_parse, Segment.toList_text_parse] at texts
  exact differ (congrArg Segment.parse texts)

end RichMessage
