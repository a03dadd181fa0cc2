import RichMessage.Keyword

set_option autoImplicit false

namespace RichMessage

namespace Members

variable {α β : Type}

@[simp] theorem get?_nil (name : String) : get? ([] : List (String × α)) name = none := rfl

@[simp] theorem get?_cons (other name : String) (held : α) (rest : List (String × α)) :
    get? ((other, held) :: rest) name = if name = other then some held else get? rest name := by
  by_cases same : name = other
  · subst same
    simp [get?]
  · have differ : (name == other) = false := by simpa using same
    simp [get?, List.lookup_cons, differ, same]

@[simp] theorem get?_append (first second : List (String × α)) (name : String) :
    get? (first ++ second) name = (get? first name).or (get? second name) :=
  List.lookup_append

theorem get?_map_value (f : α → β) (members : List (String × α)) (name : String) :
    get? (members.map fun member => (member.1, f member.2)) name = (get? members name).map f := by
  induction members with
  | nil => rfl
  | cons member rest ih =>
      obtain ⟨other, held⟩ := member
      simp only [List.map_cons, get?_cons, ih]
      split <;> rfl

theorem get?_place (name other : String) (value : α) (members : List (String × α))
    (absent : get? members name = none) :
    get? (place name value members) other =
      if other = name then some value else get? members other := by
  induction members with
  | nil => exact get?_cons name other value []
  | cons member rest ih =>
      obtain ⟨first, held⟩ := member
      by_cases same : name = first
      · simp [same] at absent
      · have later : get? rest name = none := by simpa [same] using absent
        by_cases before : name < first
        · simp only [place, before, ↓reduceIte, get?_cons]
        · simp only [place, before, ↓reduceIte, get?_cons, ih later]
          by_cases here : other = first
          · have differ : other ≠ name := fun equal => same (equal.symm.trans here)
            simp only [here, ↓reduceIte, if_neg (here ▸ differ)]
          · simp only [here, ↓reduceIte]

theorem get?_replace (name other : String) (value : α) (members : List (String × α))
    (present : contains members name = true) :
    get? (replace name value members) other =
      if other = name then some value else get? members other := by
  induction members with
  | nil => simp [contains] at present
  | cons member rest ih =>
      obtain ⟨first, held⟩ := member
      by_cases same : name = first
      · subst same
        simp only [replace, ↓reduceIte, get?_cons]
        split <;> rfl
      · have later : contains rest name = true := by simpa [contains, same] using present
        simp only [replace, same, ↓reduceIte, get?_cons, ih later]
        by_cases here : other = first
        · have differ : other ≠ name := fun equal => same (equal.symm.trans here)
          simp only [here, ↓reduceIte, if_neg (here ▸ differ)]
        · simp only [here, ↓reduceIte]

/-- Writing a name gives it the value and leaves every other name alone. -/
theorem get?_insert (members : List (String × α)) (name other : String) (value : α) :
    get? (insert members name value) other =
      if other = name then some value else get? members other := by
  unfold insert
  by_cases present : contains members name
  · rw [if_pos present, get?_replace name other value members present]
  · rw [if_neg present, get?_place name other value members (by simpa [contains] using present)]

theorem replace_replace (name : String) (first second : α) (members : List (String × α)) :
    replace name second (replace name first members) = replace name second members := by
  induction members with
  | nil => rfl
  | cons member rest ih =>
      obtain ⟨other, held⟩ := member
      by_cases same : name = other
      · simp only [replace, same, ↓reduceIte]
      · simp only [replace, same, ↓reduceIte, ih]

theorem replace_place (name : String) (first second : α) {members : List (String × α)}
    (absent : get? members name = none) :
    replace name second (place name first members) = place name second members := by
  induction members with
  | nil => simp only [place, replace, ↓reduceIte]
  | cons member rest ih =>
      obtain ⟨other, held⟩ := member
      by_cases same : name = other
      · simp [same] at absent
      · have later : get? rest name = none := by simpa [same] using absent
        by_cases before : name < other
        · simp only [place, before, replace, ↓reduceIte]
        · simp only [place, before, replace, same, ↓reduceIte, ih later]

theorem replace_of_get? {name : String} {value : α} {members : List (String × α)}
    (held : get? members name = some value) : replace name value members = members := by
  induction members with
  | nil => rfl
  | cons member rest ih =>
      obtain ⟨other, first⟩ := member
      by_cases same : name = other
      · have equal : first = value := by simpa [same] using held
        simp only [replace, same, ↓reduceIte, equal]
      · have later : get? rest name = some value := by simpa [same] using held
        simp only [replace, same, ↓reduceIte, ih later]

/-- Writing what a name has already changes nothing. -/
theorem insert_of_get? {name : String} {value : α} {members : List (String × α)}
    (held : get? members name = some value) : insert members name value = members := by
  have present : contains members name = true := by rw [contains, held, Option.isSome_some]
  rw [insert, if_pos present, replace_of_get? held]

/-- Of two values written under a name the second stays. -/
theorem insert_insert (members : List (String × α)) (name : String) (first second : α) :
    insert (insert members name first) name second = insert members name second := by
  have written : contains (insert members name first) name = true := by
    rw [contains, get?_insert, if_pos rfl, Option.isSome_some]
  rw [insert, if_pos written]
  by_cases present : contains members name
  · rw [insert, if_pos present, replace_replace, insert, if_pos present]
  · have absent : get? members name = none := by simpa [contains] using present
    rw [insert, if_neg present, replace_place name first second absent, insert, if_neg present]

theorem get?_foldl_insert (members written : List (String × α)) (name : String) :
    get? (members.foldl (fun written member => insert written member.1 member.2) written) name =
      (get? members.reverse name).or (get? written name) := by
  induction members generalizing written with
  | nil => rfl
  | cons member rest ih =>
      obtain ⟨other, held⟩ := member
      rw [List.foldl_cons, ih, get?_insert, List.reverse_cons, get?_append, Option.or_assoc]
      congr 1
      simp only [get?_cons, get?_nil]
      split <;> rfl

/-- Of a repeated name the last member counts. -/
theorem get?_ofList (members : List (String × α)) (name : String) :
    get? (ofList members) name = get? members.reverse name := by
  simp only [ofList, get?_foldl_insert, get?_nil, Option.or_none]

end Members

namespace Json

@[simp] theorem get?_optionalMember {α : Type} (name other : String) (write : α → Json)
    (value : Option α) :
    Members.get? (optionalMember name write value) other =
      if other = name then value.map write else none := by
  cases value <;> simp [optionalMember]

@[simp] theorem reverse_optionalMember {α : Type} (name : String) (write : α → Json)
    (value : Option α) :
    (optionalMember name write value).reverse = optionalMember name write value := by
  cases value <;> rfl

theorem canonicalItems_eq_map (items : List Json) : canonicalItems items = items.map canonical := by
  induction items with
  | nil => rfl
  | cons item rest ih => rw [canonicalItems, ih, List.map_cons]

theorem canonicalMembers_eq_map (members : List (String × Json)) :
    canonicalMembers members = members.map fun member => (member.1, member.2.canonical) := by
  induction members with
  | nil => rfl
  | cons member rest ih =>
      obtain ⟨name, value⟩ := member
      rw [canonicalMembers, ih, List.map_cons]

@[simp] theorem canonical_str (value : String) : canonical (.str value) = .str value := by
  rw [canonical]

@[simp] theorem canonical_bool (value : Bool) : canonical (.bool value) = .bool value := by
  rw [canonical]

@[simp] theorem canonical_arr (items : List Json) :
    canonical (.arr items) = .arr (items.map canonical) := by
  rw [canonical, canonicalItems_eq_map]

@[simp] theorem canonical_toJson {α : Type} [Keyword α] (value : α) :
    canonical (Keyword.toJson value) = Keyword.toJson value :=
  canonical_str _

@[simp] theorem str?_str (value : String) : str? (.str value) = some value := rfl

@[simp] theorem bool?_bool (value : Bool) : bool? (.bool value) = some value := rfl

@[simp] theorem items?_arr (items : List Json) : items? (.arr items) = some items := rfl

@[simp] theorem str?_toJson {α : Type} [Keyword α] (value : α) :
    str? (Keyword.toJson value) = some (Keyword.spelling value) := rfl

/-- A member that is written under a condition is an optional one. -/
theorem ite_member (shown : Bool) (name : String) (value : Json) :
    (if shown then [(name, value)] else []) =
      optionalMember name id (if shown then some value else none) := by
  cases shown <;> rfl

/-- Putting members in order does not change what stands under a name. -/
@[simp] theorem field?_canonical_obj (members : List (String × Json)) (name : String) :
    (canonical (.obj members)).field? name =
      (Members.get? members.reverse name).map canonical := by
  simp only [canonical, field?, canonicalMembers_eq_map, Members.get?_ofList, ← List.map_reverse,
    Members.get?_map_value]

@[simp] theorem isObject_canonical_obj (members : List (String × Json)) :
    (canonical (.obj members)).isObject = true := by
  rw [canonical]
  rfl

end Json

end RichMessage
