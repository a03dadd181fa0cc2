import RichMessage.Json.Reader
import RichMessage.Proofs.Json.Order

set_option autoImplicit false

namespace RichMessage

namespace Written

/-- The value, if there is one, fits inside so many containers. -/
def Fits (depth : Nat) (w : Written) : Prop :=
  ∀ node, w.toJson? = some node → node.depth = 0 ∨ depth + node.depth ≤ Reader.maxDepth

theorem exists_of_itemsToJson? {items : List Written} {parts : List Json}
    (read : itemsToJson? items = some parts) : ∀ v ∈ parts, ∃ w ∈ items, w.toJson? = some v := by
  induction items generalizing parts with
  | nil =>
      cases read
      simp
  | cons w ws ih =>
      obtain ⟨v, first, read⟩ := Option.bind_eq_some_iff.mp read
      obtain ⟨vs, later, rfl⟩ := Option.map_eq_some_iff.mp read
      rw [List.forall_mem_cons]
      refine ⟨⟨w, List.mem_cons_self, first⟩, fun other within => ?_⟩
      obtain ⟨source, member, value⟩ := ih later other within
      exact ⟨source, List.mem_cons_of_mem w member, value⟩

theorem exists_of_membersToJson? {members : List (Option String × Written)}
    {parts : List (String × Json)} (read : membersToJson? members = some parts) :
    ∀ part ∈ parts, ∃ member ∈ members, member.2.toJson? = some part.2 := by
  induction members generalizing parts with
  | nil =>
      cases read
      simp
  | cons member ms ih =>
      obtain ⟨name, w⟩ := member
      cases name with
      | none => cases read
      | some name =>
          obtain ⟨v, first, read⟩ := Option.bind_eq_some_iff.mp read
          obtain ⟨vs, later, rfl⟩ := Option.map_eq_some_iff.mp read
          rw [List.forall_mem_cons]
          refine ⟨⟨_, List.mem_cons_self, first⟩, fun other within => ?_⟩
          obtain ⟨source, found, value⟩ := ih later other within
          exact ⟨source, List.mem_cons_of_mem _ found, value⟩

theorem fits_atom {depth : Nat} {w : Written}
    (atom : ∀ node, w.toJson? = some node → node.depth = 0) : w.Fits depth :=
  fun node read => Or.inl (atom node read)

theorem fits_unreadable (depth : Nat) : Written.unreadable.Fits depth := by
  intro node read
  cases read

theorem fits_arr {depth : Nat} {items : List Written} (inside : depth < Reader.maxDepth)
    (each : ∀ w ∈ items, w.Fits (depth + 1)) : (Written.arr items).Fits depth := by
  intro node read
  obtain ⟨parts, values, rfl⟩ := Option.map_eq_some_iff.mp read
  have shallow : Json.itemsDepth parts ≤ Reader.maxDepth - (depth + 1) := by
    apply Json.itemsDepth_le_iff.mpr
    intro v within
    obtain ⟨w, member, value⟩ := exists_of_itemsToJson? values v within
    have bound := each w member v value
    omega
  rw [Json.depth]
  omega

theorem fits_obj {depth : Nat} {members : List (Option String × Written)}
    (inside : depth < Reader.maxDepth) (each : ∀ member ∈ members, member.2.Fits (depth + 1)) :
    (Written.obj members).Fits depth := by
  intro node read
  obtain ⟨parts, values, rfl⟩ := Option.map_eq_some_iff.mp read
  have shallow : Json.membersDepth parts ≤ Reader.maxDepth - (depth + 1) := by
    apply Json.membersDepth_le_iff.mpr
    intro part within
    obtain ⟨member, found, value⟩ := exists_of_membersToJson? values part within
    have bound := each member found part.2 value
    omega
  have ordered := Json.membersDepth_ofList_le parts
  rw [Json.depth]
  omega

end Written

/-- What an open container holds so far. -/
def Frame.parts : Frame → List Written
  | .array items => items
  | .object members => members.map Prod.snd
  | .member members _ => members.map Prod.snd

namespace Reader

/-- What the open containers hold fits where it stands. -/
def Held : List Frame → Prop
  | [] => True
  | frame :: outer => (∀ w ∈ frame.parts, w.Fits (outer.length + 1)) ∧ Held outer

/-- All that has been read fits where it stands. -/
structure Fits (r : Reader) : Prop where
  held : Held r.frames
  result : ∀ w, r.expected = .nothing w → w.Fits 0

theorem fits_put {w : Written} {frames : List Frame} {r : Reader} (held : Held frames)
    (fits : w.Fits frames.length) (done : put w frames = some r) : r.Fits := by
  cases frames with
  | nil =>
      cases done
      refine ⟨trivial, fun other same => ?_⟩
      cases same
      exact fits
  | cons frame outer =>
      cases frame with
      | array items =>
          cases done
          refine ⟨⟨?_, held.2⟩, fun other same => by cases same⟩
          exact List.forall_mem_cons.mpr ⟨fits, held.1⟩
      | member members name =>
          cases done
          refine ⟨⟨?_, held.2⟩, fun other same => by cases same⟩
          exact List.forall_mem_cons.mpr ⟨fits, held.1⟩
      | object members => cases done

theorem fits_close_arr {items : List Written} {outer : List Frame} {r : Reader}
    (held : Held (.array items :: outer)) (done : close (.arr items.reverse) outer = some r) :
    r.Fits := by
  refine fits_put held.2 ?_ done
  split
  · rename_i inside
    exact Written.fits_arr inside fun w within => held.1 w (List.mem_reverse.mp within)
  · exact Written.fits_unreadable outer.length

theorem fits_close_obj {members : List (Option String × Written)} {outer : List Frame} {r : Reader}
    (held : Held (.object members :: outer)) (done : close (.obj members.reverse) outer = some r) :
    r.Fits := by
  refine fits_put held.2 ?_ done
  split
  · rename_i inside
    refine Written.fits_obj inside fun member within => held.1 member.2 ?_
    exact List.mem_map_of_mem (List.mem_reverse.mp within)
  · exact Written.fits_unreadable outer.length

theorem fits_value {frames : List Frame} {token : Token} {r : Reader} (held : Held frames)
    (done : value frames token = some r) : r.Fits := by
  cases token with
  | null | bool b =>
      refine fits_put held (Written.fits_atom fun node read => ?_) done
      cases read
      rfl
  | number numeral =>
      refine fits_put held (Written.fits_atom fun node read => ?_) done
      cases found : numeral.value? <;> rw [found] at read <;> cases read
      rfl
  | text content =>
      refine fits_put held (Written.fits_atom fun node read => ?_) done
      cases content <;> cases read
      rfl
  | openArray | openObject =>
      cases done
      exact ⟨⟨by simp [Frame.parts], held⟩, fun other same => by cases same⟩
  | closeArray | closeObject | comma | colon => cases done

theorem fits_name {frames : List Frame} {token : Token} {r : Reader} (held : Held frames)
    (done : name frames token = some r) : r.Fits := by
  unfold name at done
  split at done
  · cases done
    exact ⟨held, fun other same => by cases same⟩
  · cases done

/-- One token leaves everything where it fits. -/
theorem fits_step {r next : Reader} {token : Token} (fits : r.Fits)
    (taken : r.step token = some next) : next.Fits := by
  obtain ⟨frames, expected⟩ := r
  have held : Held frames := fits.held
  have moved {expected : Expected} (goes : ∀ w, expected ≠ .nothing w) :
      Fits ⟨frames, expected⟩ := ⟨held, fun w same => absurd same (goes w)⟩
  unfold step at taken
  split at taken
  -- a value, the end of an array or of an object, a name, or a mark between them
  case h_1 | h_3 => exact fits_value held taken
  case h_2 array | h_10 array =>
      cases array
      exact fits_close_arr held taken
  case h_4 object | h_11 object =>
      cases object
      exact fits_close_obj held taken
  case h_5 | h_6 => exact fits_name held taken
  case h_7 =>
      cases taken
      exact moved fun _ => Expected.noConfusion
  case h_8 container | h_9 container =>
      cases container
      cases taken
      exact moved fun _ => Expected.noConfusion
  case h_12 => cases taken

theorem fits_foldlM {r last : Reader} {tokens : List Token} (fits : r.Fits)
    (taken : tokens.foldlM step r = some last) : last.Fits := by
  induction tokens generalizing r with
  | nil =>
      cases taken
      exact fits
  | cons token rest ih =>
      rw [List.foldlM_cons] at taken
      obtain ⟨next, first, later⟩ := Option.bind_eq_some_iff.mp taken
      exact ih (fits_step fits first) later

theorem fits_start : start.Fits :=
  ⟨trivial, fun _ same => Expected.noConfusion same⟩

end Reader

namespace Json

theorem exists_of_parse? {text : String} {node : Json} (read : parse? text = some node) :
    ∃ w : Written, w.toJson? = some node ∧ w.Fits 0 := by
  obtain ⟨w, written, value⟩ := Option.bind_eq_some_iff.mp read
  obtain ⟨tokens, _, ofTokens⟩ := Option.bind_eq_some_iff.mp written
  obtain ⟨last, taken, finished⟩ := Option.bind_eq_some_iff.mp ofTokens
  have fits := Reader.fits_foldlM Reader.fits_start taken
  refine ⟨w, value, fits.result w ?_⟩
  unfold Reader.finish? at finished
  split at finished
  · rename_i found
    cases finished
    exact found
  · cases finished

/-- The value of a text is in order. -/
theorem ordered_of_parse? {text : String} {node : Json} (read : parse? text = some node) :
    node.Ordered := by
  obtain ⟨w, value, _⟩ := exists_of_parse? read
  exact w.ordered_of_toJson? value

/-- No text has a value that is nested too deep. -/
theorem depth_le_of_parse? {text : String} {node : Json} (read : parse? text = some node) :
    node.depth ≤ Reader.maxDepth := by
  obtain ⟨w, value, fits⟩ := exists_of_parse? read
  have bound := fits node value
  omega

end Json

end RichMessage
