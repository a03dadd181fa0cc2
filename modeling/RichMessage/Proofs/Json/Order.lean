import RichMessage.Json.Written
import RichMessage.Proofs.Json.Members

set_option autoImplicit false

namespace RichMessage

namespace Members

variable {α : Type}

theorem mem_place {name : String} {value : α} {members : List (String × α)}
    {member : String × α} (within : member ∈ place name value members) :
    member = (name, value) ∨ member ∈ members := by
  induction members with
  | nil => exact Or.inl (List.mem_singleton.mp within)
  | cons first rest ih =>
      rw [place] at within
      split at within
      · exact List.mem_cons.mp within
      · rcases List.mem_cons.mp within with here | later
        · exact Or.inr (List.mem_cons.mpr (Or.inl here))
        · exact (ih later).imp_right (List.mem_cons_of_mem first)

theorem mem_replace {name : String} {value : α} {members : List (String × α)}
    {member : String × α} (within : member ∈ replace name value members) :
    member = (name, value) ∨ member ∈ members := by
  induction members with
  | nil => exact absurd within List.not_mem_nil
  | cons first rest ih =>
      rw [replace] at within
      split at within
      · rename_i same
        rcases List.mem_cons.mp within with here | later
        · exact Or.inl (same ▸ here)
        · exact Or.inr (List.mem_cons_of_mem first later)
      · rcases List.mem_cons.mp within with here | later
        · exact Or.inr (List.mem_cons.mpr (Or.inl here))
        · exact (ih later).imp_right (List.mem_cons_of_mem first)

/-- Writing a name adds no member but the one that is written. -/
theorem mem_insert {name : String} {value : α} {members : List (String × α)}
    {member : String × α} (within : member ∈ insert members name value) :
    member = (name, value) ∨ member ∈ members := by
  rw [insert] at within
  split at within
  · exact mem_replace within
  · exact mem_place within

theorem mem_of_get? {name : String} {value : α} {members : List (String × α)}
    (held : get? members name = some value) : (name, value) ∈ members := by
  induction members with
  | nil => cases held
  | cons first rest ih =>
      obtain ⟨other, part⟩ := first
      rw [get?_cons] at held
      split at held
      · rename_i same
        cases held
        exact List.mem_cons.mpr (Or.inl (same ▸ rfl))
      · exact List.mem_cons_of_mem _ (ih held)

theorem map_fst_replace (name : String) (value : α) (members : List (String × α)) :
    (replace name value members).map Prod.fst = members.map Prod.fst := by
  induction members with
  | nil => rfl
  | cons first rest ih =>
      rw [replace]
      split
      · rfl
      · rw [List.map_cons, List.map_cons, ih]

theorem get?_eq_none {name : String} {members : List (String × α)}
    (absent : ∀ member ∈ members, name ≠ member.1) : get? members name = none := by
  induction members with
  | nil => rfl
  | cons first rest ih =>
      have later := ih fun member within => absent member (List.mem_cons_of_mem first within)
      rw [get?_cons, if_neg (absent first List.mem_cons_self), later]

theorem ordered_place {name : String} {members : List (String × α)} (ordered : Ordered members)
    (absent : get? members name = none) (value : α) : Ordered (place name value members) := by
  induction members with
  | nil => exact List.pairwise_singleton _ _
  | cons first rest ih =>
      obtain ⟨other, held⟩ := first
      obtain ⟨least, later⟩ := List.pairwise_cons.mp ordered
      have differ : name ≠ other := by
        intro same
        rw [get?_cons, if_pos same] at absent
        cases absent
      rw [get?_cons, if_neg differ] at absent
      rw [place]
      split
      · rename_i before
        refine List.pairwise_cons.mpr ⟨?_, ordered⟩
        intro member within
        rcases List.mem_cons.mp within with rfl | behind
        · exact before
        · exact String.lt_trans before (least member behind)
      · rename_i behind
        have before : other < name := by
          apply String.not_le.mp
          intro reverse
          exact differ (String.le_antisymm reverse (String.not_lt.mp behind))
        refine List.pairwise_cons.mpr ⟨?_, ih later absent⟩
        intro member within
        rcases mem_place within with rfl | old
        · exact before
        · exact least member old

/-- Members in order stay in order when a name is written. -/
theorem ordered_insert {members : List (String × α)} (ordered : Ordered members) (name : String)
    (value : α) : Ordered (insert members name value) := by
  rw [insert]
  split
  · have names : (members.map Prod.fst).Pairwise (· < ·) := List.pairwise_map.mpr ordered
    rw [← map_fst_replace name value members] at names
    exact List.pairwise_map.mp names
  · rename_i absent
    exact ordered_place ordered (by simpa [contains] using absent) value

theorem ordered_erase {members : List (String × α)} (ordered : Ordered members) (name : String) :
    Ordered (erase members name) :=
  List.Pairwise.filter _ ordered

theorem ordered_foldl_insert {written : List (String × α)} (ordered : Ordered written)
    (members : List (String × α)) :
    Ordered (members.foldl (fun written member => insert written member.1 member.2) written) := by
  induction members generalizing written with
  | nil => exact ordered
  | cons member rest ih => exact ih (ordered_insert ordered member.1 member.2)

theorem ordered_ofList (members : List (String × α)) : Ordered (ofList members) :=
  ordered_foldl_insert List.Pairwise.nil members

theorem mem_foldl_insert {members written : List (String × α)} {member : String × α}
    (within : member ∈
      members.foldl (fun written member => insert written member.1 member.2) written) :
    member ∈ members ∨ member ∈ written := by
  induction members generalizing written with
  | nil => exact Or.inr within
  | cons first rest ih =>
      rcases ih within with later | earlier
      · exact Or.inl (List.mem_cons_of_mem first later)
      · rcases mem_insert earlier with rfl | old
        · exact Or.inl List.mem_cons_self
        · exact Or.inr old

theorem mem_of_mem_ofList {members : List (String × α)} {member : String × α}
    (within : member ∈ ofList members) : member ∈ members := by
  rcases mem_foldl_insert within with given | nothing
  · exact given
  · exact absurd nothing List.not_mem_nil

/-- A name behind all others is written at the end. -/
theorem insert_behind {name : String} {members : List (String × α)}
    (behind : ∀ member ∈ members, member.1 < name) (value : α) :
    insert members name value = members ++ [(name, value)] := by
  have differ : ∀ member ∈ members, name ≠ member.1 := by
    intro member within same
    exact String.lt_irrefl _ (same ▸ behind member within)
  have absent : contains members name = false := by
    rw [contains, get?_eq_none differ]
    rfl
  rw [insert, if_neg (by simp [absent])]
  clear differ absent
  induction members with
  | nil => rfl
  | cons first rest ih =>
      obtain ⟨other, held⟩ := first
      have before : other < name := behind (other, held) List.mem_cons_self
      have later := ih fun member within => behind member (List.mem_cons_of_mem _ within)
      rw [place, if_neg (String.lt_asymm before), later, List.cons_append]

theorem foldl_insert_of_ordered {written members : List (String × α)}
    (ordered : Ordered (written ++ members)) :
    members.foldl (fun written member => insert written member.1 member.2) written =
      written ++ members := by
  induction members generalizing written with
  | nil => exact (List.append_nil written).symm
  | cons member rest ih =>
      obtain ⟨_, _, apart⟩ := List.pairwise_append.mp ordered
      have behind : ∀ other ∈ written, other.1 < member.1 := fun other within =>
        apart other within member List.mem_cons_self
      have whole : written ++ [member] ++ rest = written ++ member :: rest := by simp
      have later := ih (whole.symm ▸ ordered)
      rw [whole] at later
      rw [List.foldl_cons, insert_behind behind]
      exact later

/-- Members in order are written as they stand. -/
theorem ofList_of_ordered {members : List (String × α)} (ordered : Ordered members) :
    ofList members = members :=
  foldl_insert_of_ordered ordered

end Members

namespace Json

theorem orderedItems_iff {items : List Json} :
    OrderedItems items ↔ ∀ v ∈ items, v.Ordered := by
  induction items with
  | nil => simp [OrderedItems]
  | cons v vs ih => rw [OrderedItems, ih, List.forall_mem_cons]

theorem orderedMembers_iff {members : List (String × Json)} :
    OrderedMembers members ↔ ∀ member ∈ members, member.2.Ordered := by
  induction members with
  | nil => simp [OrderedMembers]
  | cons member ms ih => rw [OrderedMembers, ih, List.forall_mem_cons]

theorem integralItems_iff {items : List Json} :
    IntegralItems items ↔ ∀ v ∈ items, v.Integral := by
  induction items with
  | nil => simp [IntegralItems]
  | cons v vs ih => rw [IntegralItems, ih, List.forall_mem_cons]

theorem integralMembers_iff {members : List (String × Json)} :
    IntegralMembers members ↔ ∀ member ∈ members, member.2.Integral := by
  induction members with
  | nil => simp [IntegralMembers]
  | cons member ms ih => rw [IntegralMembers, ih, List.forall_mem_cons]

theorem itemsDepth_le_iff {items : List Json} {n : Nat} :
    itemsDepth items ≤ n ↔ ∀ v ∈ items, v.depth ≤ n := by
  induction items with
  | nil => simp [itemsDepth]
  | cons v vs ih => rw [itemsDepth, Nat.max_le, ih, List.forall_mem_cons]

theorem membersDepth_le_iff {members : List (String × Json)} {n : Nat} :
    membersDepth members ≤ n ↔ ∀ member ∈ members, member.2.depth ≤ n := by
  induction members with
  | nil => simp [membersDepth]
  | cons member ms ih => rw [membersDepth, Nat.max_le, ih, List.forall_mem_cons]

theorem membersDepth_ofList_le (members : List (String × Json)) :
    membersDepth (Members.ofList members) ≤ membersDepth members := by
  have each := membersDepth_le_iff.mp (Nat.le_refl (membersDepth members))
  exact membersDepth_le_iff.mpr fun member within => each member (Members.mem_of_mem_ofList within)

mutual
/-- A value in order is its own canonical form. -/
theorem canonical_of_ordered : (node : Json) → node.Ordered → node.canonical = node
  | .null, _ => rfl
  | .bool _, _ => rfl
  | .number _, _ => rfl
  | .str _, _ => rfl
  | .arr items, ordered => by
      rw [canonical, canonicalItems_of_ordered items ordered]
  | .obj members, ordered => by
      rw [canonical, canonicalMembers_of_ordered members ordered.2,
        Members.ofList_of_ordered ordered.1]

theorem canonicalItems_of_ordered :
    (items : List Json) → OrderedItems items → canonicalItems items = items
  | [], _ => rfl
  | v :: vs, ordered => by
      rw [canonicalItems, canonical_of_ordered v ordered.1, canonicalItems_of_ordered vs ordered.2]

theorem canonicalMembers_of_ordered :
    (members : List (String × Json)) → OrderedMembers members → canonicalMembers members = members
  | [], _ => rfl
  | (name, v) :: ms, ordered => by
      rw [canonicalMembers, canonical_of_ordered v ordered.1,
        canonicalMembers_of_ordered ms ordered.2]
end

end Json

namespace Written

mutual
/-- Every value that has been read is in order. -/
theorem ordered_of_toJson? : (w : Written) → {node : Json} → w.toJson? = some node → node.Ordered
  | .null, _, read | .bool _, _, read | .number _, _, read | .str _, _, read => by
      cases read
      trivial
  | .unreadable, _, read => by cases read
  | .arr items, _, read => by
      obtain ⟨parts, each, rfl⟩ := Option.map_eq_some_iff.mp read
      exact ordered_of_itemsToJson? items each
  | .obj members, _, read => by
      obtain ⟨parts, each, rfl⟩ := Option.map_eq_some_iff.mp read
      have ordered := Json.orderedMembers_iff.mp (ordered_of_membersToJson? members each)
      exact ⟨Members.ordered_ofList parts, Json.orderedMembers_iff.mpr
        fun member within => ordered member (Members.mem_of_mem_ofList within)⟩

theorem ordered_of_itemsToJson? :
    (items : List Written) → {parts : List Json} → itemsToJson? items = some parts →
      Json.OrderedItems parts
  | [], _, read => by
      cases read
      trivial
  | w :: ws, _, read => by
      obtain ⟨v, first, read⟩ := Option.bind_eq_some_iff.mp read
      obtain ⟨vs, later, rfl⟩ := Option.map_eq_some_iff.mp read
      exact ⟨ordered_of_toJson? w first, ordered_of_itemsToJson? ws later⟩

theorem ordered_of_membersToJson? :
    (members : List (Option String × Written)) → {parts : List (String × Json)} →
      membersToJson? members = some parts → Json.OrderedMembers parts
  | [], _, read => by
      cases read
      trivial
  | (none, _) :: _, _, read => by cases read
  | (some name, w) :: ms, _, read => by
      obtain ⟨v, first, read⟩ := Option.bind_eq_some_iff.mp read
      obtain ⟨vs, later, rfl⟩ := Option.map_eq_some_iff.mp read
      exact ⟨ordered_of_toJson? w first, ordered_of_membersToJson? ms later⟩
end

end Written

end RichMessage
