import Mathlib.Data.List.Perm.Basic
import RichMessage.Proofs.Json.Plain

set_option autoImplicit false

namespace RichMessage

namespace Members

variable {α : Type}

theorem get?_eq_some_iff {members : List (String × α)} (apart : (members.map Prod.fst).Nodup)
    {name : String} {value : α} : get? members name = some value ↔ (name, value) ∈ members := by
  refine ⟨mem_of_get?, fun within => ?_⟩
  induction members with
  | nil => cases within
  | cons first rest ih =>
      obtain ⟨other, held⟩ := first
      obtain ⟨new, later⟩ := List.nodup_cons.mp apart
      rw [get?_cons]
      rcases List.mem_cons.mp within with here | behind
      · cases here
        rw [if_pos rfl]
      · have differ : name ≠ other := by
          intro same
          exact new (List.mem_map.mpr ⟨_, behind, same⟩)
        rw [if_neg differ, ih later behind]

/-- Among different names it does not matter where a name stands. -/
theorem get?_perm {members others : List (String × α)} (apart : (members.map Prod.fst).Nodup)
    (same : others.Perm members) (name : String) : get? others name = get? members name := by
  have apart' : (others.map Prod.fst).Nodup := (same.map Prod.fst).nodup_iff.mpr apart
  apply Option.ext
  intro value
  rw [get?_eq_some_iff apart, get?_eq_some_iff apart', same.mem_iff]

theorem get?_filter {members : List (String × α)} {name : String} (keep : String → Bool)
    (kept : keep name = true) :
    get? (members.filter fun member => keep member.1) name = get? members name := by
  induction members with
  | nil => rfl
  | cons first rest ih =>
      obtain ⟨other, held⟩ := first
      rw [get?_cons, List.filter_cons]
      by_cases here : name = other
      · subst here
        rw [if_pos kept, get?_cons, if_pos rfl, if_pos rfl]
      · rw [if_neg here]
        split
        · rw [get?_cons, if_neg here, ih]
        · exact ih

theorem perm_place (name : String) (value : α) (members : List (String × α)) :
    (place name value members).Perm ((name, value) :: members) := by
  induction members with
  | nil => exact .refl _
  | cons first rest ih =>
      rw [place]
      split
      · exact .refl _
      · exact (ih.cons first).trans (.swap _ _ _)

theorem perm_insert {members : List (String × α)} {name : String}
    (absent : get? members name = none) (value : α) :
    (insert members name value).Perm ((name, value) :: members) := by
  rw [insert, if_neg (by simp [contains, absent])]
  exact perm_place name value members

theorem perm_foldl_insert {written members : List (String × α)}
    (apart : ((written ++ members).map Prod.fst).Nodup) :
    (members.foldl (fun written member => insert written member.1 member.2) written).Perm
      (written ++ members) := by
  induction members generalizing written with
  | nil => rw [List.append_nil, List.foldl_nil]
  | cons member rest ih =>
      have moved : (written ++ member :: rest).Perm (member :: written ++ rest) :=
        List.perm_middle
      have new : member.1 ∉ (written ++ rest).map Prod.fst :=
        (List.nodup_cons.mp ((moved.map Prod.fst).nodup_iff.mp apart)).1
      have absent : get? written member.1 = none := by
        apply get?_eq_none
        intro other within same
        exact new (same ▸ List.mem_map_of_mem (List.mem_append_left rest within))
      have placed : (insert written member.1 member.2 ++ rest).Perm (member :: written ++ rest) :=
        (perm_insert absent member.2).append_right rest
      have whole := placed.trans moved.symm
      exact (ih ((whole.map Prod.fst).nodup_iff.mpr apart)).trans whole

/-- Members with different names are only rearranged when they are put in order. -/
theorem perm_ofList {members : List (String × α)} (apart : (members.map Prod.fst).Nodup) :
    (ofList members).Perm members :=
  perm_foldl_insert apart

end Members

namespace Written

theorem membersOfJson_eq_map (members : List (String × Json)) :
    membersOfJson members = members.map fun member => (some member.1, ofJson member.2) := by
  induction members with
  | nil => rfl
  | cons member rest ih => rw [membersOfJson, ih, List.map_cons]

theorem itemsOfJson_eq_map (items : List Json) : itemsOfJson items = items.map ofJson := by
  induction items with
  | nil => rfl
  | cons item rest ih => rw [itemsOfJson, ih, List.map_cons]

mutual
/-- Every part of a value that is there has a value. -/
theorem toJson?_ofJson : (node : Json) → (ofJson node).toJson? = some node.canonical
  | .null | .bool _ | .number _ | .str _ => rfl
  | .arr items => by
      rw [ofJson, toJson?, itemsToJson?_ofJson items, Option.map_some, Json.canonical]
  | .obj members => by
      rw [ofJson, toJson?, membersToJson?_ofJson members, Option.map_some, Json.canonical]

theorem itemsToJson?_ofJson :
    (items : List Json) → itemsToJson? (itemsOfJson items) = some (Json.canonicalItems items)
  | [] => rfl
  | v :: vs => by
      rw [itemsOfJson, itemsToJson?, toJson?_ofJson v, Option.bind_some, itemsToJson?_ofJson vs,
        Option.map_some, Json.canonicalItems]

theorem membersToJson?_ofJson : (members : List (String × Json)) →
    membersToJson? (membersOfJson members) = some (Json.canonicalMembers members)
  | [] => rfl
  | (name, v) :: ms => by
      rw [membersOfJson, membersToJson?, toJson?_ofJson v, Option.bind_some,
        membersToJson?_ofJson ms, Option.map_some, Json.canonicalMembers]
end

mutual
/-- What is read of a value that is not nested too deep is the whole value. -/
theorem within_eq_ofJson {depth : Nat} : (node : Json) → depth + node.depth ≤ Reader.maxDepth →
    within depth node = ofJson node
  | .null, _ | .bool _, _ | .number _, _ | .str _, _ => rfl
  | .arr items, shallow => by
      rw [Json.depth] at shallow
      rw [within, if_pos (by omega), itemsWithin_eq_ofJson items (by omega), ofJson]
  | .obj members, shallow => by
      rw [Json.depth] at shallow
      rw [within, if_pos (by omega), membersWithin_eq_ofJson members (by omega), ofJson]

theorem itemsWithin_eq_ofJson {depth : Nat} : (items : List Json) →
    depth + Json.itemsDepth items ≤ Reader.maxDepth → itemsWithin depth items = itemsOfJson items
  | [], _ => rfl
  | v :: vs, shallow => by
      rw [Json.itemsDepth] at shallow
      rw [itemsWithin, within_eq_ofJson v (by omega), itemsWithin_eq_ofJson vs (by omega),
        itemsOfJson]

theorem membersWithin_eq_ofJson {depth : Nat} : (members : List (String × Json)) →
    depth + Json.membersDepth members ≤ Reader.maxDepth →
    membersWithin depth members = membersOfJson members
  | [], _ => rfl
  | (name, v) :: ms, shallow => by
      rw [Json.membersDepth] at shallow
      rw [membersWithin, within_eq_ofJson v (by omega), membersWithin_eq_ofJson ms (by omega),
        membersOfJson]
end

/-- The text of a plain value is read as the value as it stands. -/
theorem parse?_print_of_plain {depth : Nat} {node : Json} (plain : node.Plain depth)
    (few : depth ≤ Reader.maxDepth) (layout : Json.Layout) :
    parse? (node.print layout) = some (ofJson node) := by
  have shallow := plain.shallow
  rw [parse?, Token.scan?_print layout plain.integral, Option.bind_some,
    ofTokens?_tokens plain.integral, within_eq_ofJson node (by omega)]

/-- A way of writing values down that keeps all but the order of members. -/
structure Faithful (write : Json → Written) : Prop where
  null : write .null = .null
  bool (value : Bool) : write (.bool value) = .bool value
  number (value : Number) : write (.number value) = .number value
  str (value : String) : write (.str value) = .str value
  arr (items : List Json) : write (.arr items) = .arr (items.map write)
  obj (members : List (String × Json)) : (members.map Prod.fst).Nodup →
    ∃ held : List (String × Written),
      write (.obj members) = .obj (held.map fun member => (some member.1, member.2)) ∧
      held.Perm (members.map fun member => (member.1, write member.2))
  readable (node : Json) : (write node).readable = true

theorem faithful_ofJson : Faithful ofJson where
  null := rfl
  bool _ := rfl
  number _ := rfl
  str _ := rfl
  arr items := by rw [ofJson, itemsOfJson_eq_map]
  obj members _ := by
    refine ⟨_, ?_, .refl _⟩
    rw [ofJson, membersOfJson_eq_map, List.map_map]
    rfl
  readable node := by rw [readable, toJson?_ofJson, Option.isSome_some]

theorem faithful_canonical : Faithful fun node => ofJson node.canonical where
  null := rfl
  bool _ := rfl
  number _ := rfl
  str _ := rfl
  arr items := by rw [Json.canonical_arr, ofJson, itemsOfJson_eq_map, List.map_map]; rfl
  obj members apart := by
    have names : ((Json.canonicalMembers members).map Prod.fst).Nodup := by
      rw [Json.canonicalMembers_eq_map, List.map_map]
      exact apart
    refine ⟨(Members.ofList (Json.canonicalMembers members)).map fun member =>
      (member.1, ofJson member.2), ?_, ?_⟩
    · rw [Json.canonical, ofJson, membersOfJson_eq_map, List.map_map]
      rfl
    · have same := (Members.perm_ofList names).map fun member => (member.1, ofJson member.2)
      have shape : (Json.canonicalMembers members).map (fun member => (member.1, ofJson member.2)) =
          members.map fun member => (member.1, ofJson member.2.canonical) := by
        rw [Json.canonicalMembers_eq_map, List.map_map]
        rfl
      rwa [shape] at same
  readable node := by rw [readable, toJson?_ofJson, Option.isSome_some]

end Written

end RichMessage
