import RichMessage.Keyword
import RichMessage.Proofs.Json.Arrangement

set_option autoImplicit false

namespace RichMessage

namespace Written

variable {write : Json → Written} {w : Written} {members : List (String × Json)}

/-- An object with these members in any order, none of which has the name of another. -/
structure Holds (write : Json → Written) (w : Written) (members : List (String × Json)) : Prop where
  apart : (members.map Prod.fst).Nodup
  held : ∃ held : List (String × Written),
    w = .obj (held.map fun member => (some member.1, member.2)) ∧
    held.Perm (members.map fun member => (member.1, write member.2))

theorem Faithful.holds (faithful : Faithful write) (apart : (members.map Prod.fst).Nodup) :
    Holds write (write (.obj members)) members :=
  ⟨apart, faithful.obj members apart⟩

theorem names_of_perm {held : List (String × Written)}
    (same : held.Perm (members.map fun member => (member.1, write member.2))) :
    (held.map Prod.fst).Perm (members.map Prod.fst) := by
  have names := same.map Prod.fst
  rwa [List.map_map] at names

theorem named?_map (held : List (String × Written)) :
    named? (held.map fun member => (some member.1, member.2)) = some held := by
  induction held with
  | nil => rfl
  | cons member rest ih => rw [List.map_cons, named?, ih, Option.map_some]

/-- What has been found under each of the names is what the record has there. -/
def Fields (write : Json → Written) (names : List String) (fields : List (String × Written))
    (members : List (String × Json)) : Prop :=
  ∀ name ∈ names, Members.get? fields name = (Members.get? members name).map write

/-- A record is read whatever else stands in the object and wherever its fields do. -/
theorem Holds.record? (holds : Holds write w members) (names : List String) :
    ∃ fields, w.record? names = some fields ∧ Fields write names fields members := by
  obtain ⟨apart, held, rfl, same⟩ := holds
  have apart' : (held.map Prod.fst).Nodup := (names_of_perm same).nodup_iff.mpr apart
  have known : ((held.filter fun member => names.contains member.1).map Prod.fst).Nodup :=
    apart'.sublist (List.filter_sublist.map Prod.fst)
  refine ⟨_, by rw [Written.record?, named?_map, Option.bind_some, if_pos known], ?_⟩
  intro name listed
  have kept : names.contains name = true := List.contains_iff_mem.mpr listed
  have written : ((members.map fun member => (member.1, write member.2)).map Prod.fst).Nodup := by
    rw [List.map_map]
    exact apart
  rw [Members.get?_filter (fun name => names.contains name) kept,
    Members.get?_perm written same, Members.get?_map_value]

namespace Fields

variable {α : Type} {names : List String} {fields : List (String × Written)} {name : String}
  {read : Written → Option α}

theorem required {node : Json} {value : α} (found : Fields write names fields members)
    (known : name ∈ names) (held : Members.get? members name = some node)
    (back : read (write node) = some value) : required? fields name read = some value := by
  rw [required?, found name known, held]
  exact back

theorem defaulted {node : Json} {value : α} (found : Fields write names fields members)
    (known : name ∈ names) (held : Members.get? members name = some node)
    (back : read (write node) = some value) (default : α) :
    defaulted? fields name default read = some value := by
  rw [defaulted?, found name known, held]
  exact back

theorem nullable?_of_read {value : α} (noNull : read .null = none) (back : read w = some value) :
    nullable? read w = some (some value) := by
  cases w with
  | null =>
      rw [noNull] at back
      cases back
  | bool b | number n | str s | arr items | obj members | unreadable =>
      change (read _).map some = _
      rw [back, Option.map_some]

/-- A field that is left out when there is no value. -/
theorem omitted {encode : α → Json} {value : Option α} (found : Fields write names fields members)
    (known : name ∈ names) (held : Members.get? members name = value.map encode)
    (noNull : read .null = none) (back : ∀ a, read (write (encode a)) = some a) :
    optional? fields name read = some value := by
  rw [optional?, defaulted?, found name known, held]
  cases value with
  | none => rfl
  | some a => exact nullable?_of_read noNull (back a)

/-- A field that is null when there is no value. -/
theorem nullable {encode : α → Json} {value : Option α} (faithful : Faithful write)
    (found : Fields write names fields members) (known : name ∈ names)
    (held : Members.get? members name = some (Json.orNull encode value))
    (noNull : read .null = none) (back : ∀ a, read (write (encode a)) = some a) :
    optional? fields name read = some value := by
  rw [optional?, defaulted?, found name known, held]
  cases value with
  | none =>
      change nullable? read (write .null) = some none
      rw [faithful.null, nullable?]
  | some a => exact nullable?_of_read noNull (back a)

end Fields

/-- The member with the tag is set apart from the others, wherever it stands. -/
theorem partition_tag {held rest : List (String × Written)} {tag : Written}
    (same : held.Perm ((tagName, tag) :: rest)) (absent : tagName ∉ rest.map Prod.fst) :
    ∃ others : List (String × Written),
      (held.map fun member => (some member.1, member.2)).partition
          (fun member => member.1 == some tagName) =
        ([(some tagName, tag)], others.map fun member => (some member.1, member.2)) ∧
      others.Perm rest := by
  have differ : ∀ member ∈ rest, (member.1 == tagName) = false := by
    intro member within
    apply beq_false_of_ne
    intro same
    exact absent (List.mem_map.mpr ⟨member, within, same⟩)
  have tagged : held.filter (fun member => member.1 == tagName) = [(tagName, tag)] := by
    have filtered := same.filter fun member => member.1 == tagName
    have none : rest.filter (fun member => member.1 == tagName) = [] :=
      List.filter_eq_nil_iff.mpr fun member within => by simp [differ member within]
    rw [List.filter_cons_of_pos (by simp), none] at filtered
    exact List.perm_singleton.mp filtered
  have left : (held.filter fun member => !(member.1 == tagName)).Perm rest := by
    have filtered := same.filter fun member => !(member.1 == tagName)
    have all : rest.filter (fun member => !(member.1 == tagName)) = rest :=
      List.filter_eq_self.mpr fun member within => by simp [differ member within]
    rwa [List.filter_cons_of_neg (by simp), all] at filtered
  refine ⟨held.filter fun member => !(member.1 == tagName), ?_, left⟩
  rw [List.partition_eq_filter_filter, List.filter_map, List.filter_map]
  change ((held.filter fun member => member.1 == tagName).map _, _) = _
  rw [tagged]
  rfl

namespace Faithful

variable (faithful : Faithful write)

include faithful

theorem str?_write (value : String) : str? (write (.str value)) = some value := by
  rw [faithful.str, str?]

theorem bool?_write (value : Bool) : bool? (write (.bool value)) = some value := by
  rw [faithful.bool, bool?]

theorem word?_write (word : UInt64) : word? (write (Json.ofWord word)) = some word := by
  rw [Json.ofWord, faithful.number, word?, Number.word?_ofWord]

theorem keyword_write {α : Type} [Keyword α] (strictness : Strictness) (value : α) :
    Keyword.read? strictness (write (Keyword.toJson value)) = some value := by
  rw [Keyword.toJson, faithful.str, Keyword.read?, plainName?, Option.bind_some,
    Keyword.parse?_spelling]

theorem list?_write {α : Type} {encode : α → Json} {read : Written → Option α}
    (back : ∀ a, read (write (encode a)) = some a) (items : List α) :
    list? read (write (.arr (items.map encode))) = some items := by
  rw [faithful.arr, list?]
  induction items with
  | nil => rfl
  | cons item rest ih =>
      rw [List.map_cons, List.map_cons, List.mapM_cons, back item, ih]
      rfl

/-- The case of a tagged value is read with the fields that are left beside the tag. -/
theorem bind_tagged? {α : Type} {strictness : Strictness} {name : String} {names : List String}
    {next : String × Written → Option α} {value : α} (known : name ∈ names)
    (apart : (((tagName, Json.str name) :: members).map Prod.fst).Nodup)
    (reads : ∀ fields, Holds write fields members → next (name, fields) = some value) :
    (tagged? strictness names (write (.obj ((tagName, .str name) :: members)))).bind next =
      some value := by
  obtain ⟨held, shape, same⟩ := faithful.obj _ apart
  have readable := faithful.readable (.obj ((tagName, .str name) :: members))
  obtain ⟨first, later⟩ := List.nodup_cons.mp apart
  have absent : tagName ∉ (members.map fun member => (member.1, write member.2)).map Prod.fst := by
    rw [List.map_map]
    exact first
  obtain ⟨others, split, left⟩ := partition_tag same absent
  have tag : case? strictness names (write (.str name)) = some name := by
    rw [faithful.str, case?, if_pos (List.contains_iff_mem.mpr known)]
  rw [shape] at readable
  rw [tagged?, shape, untag?, if_pos readable]
  dsimp only
  rw [split, Option.bind_some, tag, Option.map_some]
  exact reads _ ⟨later, others, rfl, left⟩

end Faithful

end Written

end RichMessage
