import RichMessage.Json.Reader
import RichMessage.Proofs.Json.Scanning

set_option autoImplicit false

namespace RichMessage

namespace Written

mutual
/-- What is read of a value that stands inside so many open containers. -/
def within (depth : Nat) : Json → Written
  | .null => .null
  | .bool value => .bool value
  | .number value => .number value
  | .str value => .str value
  | .arr items =>
    if depth < Reader.maxDepth then .arr (itemsWithin (depth + 1) items) else .unreadable
  | .obj members =>
    if depth < Reader.maxDepth then .obj (membersWithin (depth + 1) members) else .unreadable

def itemsWithin (depth : Nat) : List Json → List Written
  | [] => []
  | v :: vs => within depth v :: itemsWithin depth vs

def membersWithin (depth : Nat) : List (String × Json) → List (Option String × Written)
  | [] => []
  | (name, v) :: ms => (some name, within depth v) :: membersWithin depth ms
end

mutual
/-- A value has been read if the containers around it and inside it are not too many. -/
theorem toJson?_within (depth : Nat) (shallow : depth ≤ Reader.maxDepth) :
    (node : Json) → (within depth node).toJson? =
      if depth + node.depth ≤ Reader.maxDepth then some node.canonical else none
  | .null => by simp [within, toJson?, Json.depth, Json.canonical, shallow]
  | .bool value => by simp [within, toJson?, Json.depth, Json.canonical, shallow]
  | .number value => by simp [within, toJson?, Json.depth, Json.canonical, shallow]
  | .str value => by simp [within, toJson?, Json.depth, Json.canonical, shallow]
  | .arr items => by
      rw [within, Json.depth]
      by_cases inside : depth < Reader.maxDepth
      · have parts := itemsToJson?_within (depth + 1) inside items
        have same : depth + (Json.itemsDepth items + 1) = depth + 1 + Json.itemsDepth items := by
          omega
        rw [if_pos inside, toJson?, parts, same, Json.canonical, apply_ite (Option.map Json.arr)]
        rfl
      · rw [if_neg inside, if_neg (by omega), toJson?]
  | .obj members => by
      rw [within, Json.depth]
      by_cases inside : depth < Reader.maxDepth
      · have parts := membersToJson?_within (depth + 1) inside members
        have same :
            depth + (Json.membersDepth members + 1) = depth + 1 + Json.membersDepth members := by
          omega
        rw [if_pos inside, toJson?, parts, same, Json.canonical, apply_ite (Option.map _)]
        rfl
      · rw [if_neg inside, if_neg (by omega), toJson?]

/-- The elements have been read if every one has. -/
theorem itemsToJson?_within (depth : Nat) (shallow : depth ≤ Reader.maxDepth) :
    (items : List Json) → itemsToJson? (itemsWithin depth items) =
      if depth + Json.itemsDepth items ≤ Reader.maxDepth then some (Json.canonicalItems items)
      else none
  | [] => by simp [itemsWithin, itemsToJson?, Json.itemsDepth, Json.canonicalItems, shallow]
  | v :: vs => by
      have first := toJson?_within depth shallow v
      have later := itemsToJson?_within depth shallow vs
      rw [itemsWithin, itemsToJson?, first, later, Json.itemsDepth, Json.canonicalItems]
      split <;> split <;> simp <;> omega

/-- The members have been read if every value has. -/
theorem membersToJson?_within (depth : Nat) (shallow : depth ≤ Reader.maxDepth) :
    (members : List (String × Json)) → membersToJson? (membersWithin depth members) =
      if depth + Json.membersDepth members ≤ Reader.maxDepth then
        some (Json.canonicalMembers members)
      else none
  | [] => by simp [membersWithin, membersToJson?, Json.membersDepth, Json.canonicalMembers, shallow]
  | (name, v) :: ms => by
      have first := toJson?_within depth shallow v
      have later := membersToJson?_within depth shallow ms
      rw [membersWithin, membersToJson?, first, later, Json.membersDepth, Json.canonicalMembers]
      split <;> split <;> simp <;> omega
end

end Written

/-- No value starts with the end of an array. -/
theorem Json.exists_tokens_eq_cons {node : Json} (integral : node.Integral) :
    ∃ token tokens, node.tokens = token :: tokens ∧ token ≠ .closeArray := by
  cases node with
  | null | bool b | str text => exact ⟨_, _, rfl, by simp⟩
  | number n =>
      cases n with
      | int value fits => exact ⟨_, _, by rw [tokens, Number.ofWord?_render]; rfl, by simp⟩
      | float x => exact integral.elim
  | arr items => cases items <;> exact ⟨_, _, rfl, by simp⟩
  | obj members => cases members <;> exact ⟨_, _, rfl, by simp⟩

namespace Reader

/-- In an array that has just been opened a value is read as anywhere else. -/
theorem step_firstItem {frames : List Frame} {token : Token} (starts : token ≠ .closeArray) :
    step ⟨frames, .firstItem⟩ token = value frames token := by
  cases token with
  | closeArray => exact absurd rfl starts
  | openArray | openObject | closeObject | comma | colon | null | bool b | number numeral
  | text content => rfl

theorem foldlM_firstItem {node : Json} (integral : node.Integral) (frames : List Frame)
    (rest : List Token) :
    (node.tokens ++ rest).foldlM step ⟨frames, .firstItem⟩ =
      (node.tokens ++ rest).foldlM step ⟨frames, .value⟩ := by
  obtain ⟨token, tokens, shape, starts⟩ := Json.exists_tokens_eq_cons integral
  rw [shape, List.cons_append, List.foldlM_cons, List.foldlM_cons, step_firstItem starts]
  rfl

mutual
/-- The tokens of a value put the value where it belongs. -/
theorem foldlM_tokens (frames : List Frame) (rest : List Token) :
    (node : Json) → node.Integral →
      (node.tokens ++ rest).foldlM step ⟨frames, .value⟩ =
        (put (Written.within frames.length node) frames).bind (rest.foldlM step)
  | .null, _ => rfl
  | .bool _, _ => rfl
  | .number (.int value fits), _ => by
      have known := Number.ofWord?_render fits
      have denoted := Number.value?_numeralOf fits
      rw [Json.tokens, known, Option.toList_some, List.singleton_append, List.foldlM_cons]
      change ((put (((Number.numeralOf value).value?.map Written.number).getD .unreadable)
        frames).bind _) = _
      rw [denoted, Written.within, Option.map_some, Option.getD_some]
  | .number (.float _), integral => integral.elim
  | .str _, _ => rfl
  | .arr [], _ => rfl
  | .arr (v :: vs), integral => by
      have first := foldlM_tokens (.array [] :: frames) (Json.itemTokens vs ++ .closeArray :: rest)
        v integral.1
      have later := foldlM_itemTokens frames rest vs [Written.within (frames.length + 1) v]
        integral.2
      have opened := foldlM_firstItem integral.1 (.array [] :: frames)
        (Json.itemTokens vs ++ .closeArray :: rest)
      rw [Json.tokens, List.cons_append, List.append_assoc, List.append_assoc, List.foldlM_cons]
      exact opened.trans (first.trans later)
  | .obj [], _ => rfl
  | .obj ((name, v) :: ms), integral => by
      have first := foldlM_tokens (.member [] (some name) :: frames)
        (Json.memberTokens ms ++ .closeObject :: rest) v integral.1
      have later := foldlM_memberTokens frames rest ms
        [(some name, Written.within (frames.length + 1) v)] integral.2
      rw [Json.tokens, List.cons_append, List.cons_append, List.cons_append, List.append_assoc,
        List.append_assoc, List.foldlM_cons]
      exact first.trans later

/-- The tokens of the further elements end an array. -/
theorem foldlM_itemTokens (outer : List Frame) (rest : List Token) :
    (items : List Json) → (read : List Written) → Json.IntegralItems items →
      (Json.itemTokens items ++ .closeArray :: rest).foldlM step
          ⟨.array read :: outer, .separator⟩ =
        (close (.arr (read.reverse ++ Written.itemsWithin (outer.length + 1) items)) outer).bind
          (rest.foldlM step)
  | [], read, _ => by
      rw [Written.itemsWithin, List.append_nil]
      rfl
  | v :: vs, read, integral => by
      have first := foldlM_tokens (.array read :: outer) (Json.itemTokens vs ++ .closeArray :: rest)
        v integral.1
      have later := foldlM_itemTokens outer rest vs
        (Written.within (outer.length + 1) v :: read) integral.2
      rw [List.reverse_cons, List.append_assoc] at later
      rw [Json.itemTokens, List.cons_append, List.append_assoc, List.foldlM_cons]
      exact first.trans later

/-- The tokens of the further members end an object. -/
theorem foldlM_memberTokens (outer : List Frame) (rest : List Token) :
    (members : List (String × Json)) → (read : List (Option String × Written)) →
      Json.IntegralMembers members →
      (Json.memberTokens members ++ .closeObject :: rest).foldlM step
          ⟨.object read :: outer, .separator⟩ =
        (close (.obj (read.reverse ++ Written.membersWithin (outer.length + 1) members)) outer).bind
          (rest.foldlM step)
  | [], read, _ => by
      rw [Written.membersWithin, List.append_nil]
      rfl
  | (name, v) :: ms, read, integral => by
      have first := foldlM_tokens (.member read (some name) :: outer)
        (Json.memberTokens ms ++ .closeObject :: rest) v integral.1
      have later := foldlM_memberTokens outer rest ms
        ((some name, Written.within (outer.length + 1) v) :: read) integral.2
      rw [List.reverse_cons, List.append_assoc] at later
      rw [Json.memberTokens, List.cons_append, List.cons_append, List.cons_append,
        List.append_assoc, List.foldlM_cons]
      exact first.trans later
end

end Reader

/-- The tokens of a value are read as the value. -/
theorem Written.ofTokens?_tokens {node : Json} (integral : node.Integral) :
    Written.ofTokens? node.tokens = some (Written.within 0 node) := by
  have read := Reader.foldlM_tokens [] [] node integral
  rw [List.append_nil] at read
  rw [Written.ofTokens?, Reader.start, read]
  rfl

namespace Json

/-- A printed value is read again, with the members of its objects in order, exactly when its
containers are not nested too deep. -/
theorem parse?_print {node : Json} (layout : Layout) (integral : node.Integral) :
    parse? (node.print layout) =
      if node.depth ≤ Reader.maxDepth then some node.canonical else none := by
  have value := Written.toJson?_within 0 (Nat.zero_le _) node
  rw [Nat.zero_add] at value
  rw [parse?, Written.parse?, Token.scan?_print layout integral, Option.bind_some,
    Written.ofTokens?_tokens integral, Option.bind_some, value]

end Json

end RichMessage
