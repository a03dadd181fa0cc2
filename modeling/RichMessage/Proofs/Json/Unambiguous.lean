import RichMessage.Proofs.Json.Order
import RichMessage.Proofs.Json.Reading

set_option autoImplicit false

namespace RichMessage

namespace Json

/-- A value without the parts of a container. -/
def emptied : Json → Json
  | .arr _ => .arr []
  | .obj _ => .obj []
  | node => node

/-- The value that a token starts, without the parts of a container. -/
def startedBy? : Token → Option Json
  | .null => some .null
  | .bool value => some (.bool value)
  | .number numeral => numeral.value?.map .number
  | .text content => content.map .str
  | .openArray => some (.arr [])
  | .openObject => some (.obj [])
  | _ => none

theorem startedBy?_of_tokens {node : Json} (integral : node.Integral) :
    node.tokens.head?.bind startedBy? = some node.emptied := by
  cases node with
  | null | bool value | str value => rfl
  | number n =>
      cases n with
      | int value fits =>
          rw [tokens, Number.ofWord?_render, Option.toList_some, List.head?_cons, Option.bind_some,
            startedBy?, Number.value?_numeralOf fits]
          rfl
      | float x => exact integral.elim
  | arr items => cases items <;> rfl
  | obj members => cases members <;> rfl

/-- Values whose texts start alike are the same but for the parts of a container. -/
theorem emptied_eq {node other : Json} {rest otherRest : List Token} (integral : node.Integral)
    (otherIntegral : other.Integral) (same : node.tokens ++ rest = other.tokens ++ otherRest) :
    node.emptied = other.emptied := by
  have starts {v : Json} (integral : v.Integral) (behind : List Token) :
      (v.tokens ++ behind).head? = v.tokens.head? := by
    obtain ⟨token, tokens, shape, _⟩ := exists_tokens_eq_cons integral
    rw [shape]
    rfl
  have heads : node.tokens.head? = other.tokens.head? := by
    rw [← starts integral rest, same, starts otherIntegral otherRest]
  have values := startedBy?_of_tokens integral
  rw [heads, startedBy?_of_tokens otherIntegral] at values
  exact (Option.some.inj values).symm

theorem exists_arr_of_emptied {items : List Json} {other : Json}
    (same : (arr items).emptied = other.emptied) : ∃ otherItems, other = arr otherItems := by
  cases other with
  | arr otherItems => exact ⟨otherItems, rfl⟩
  | null | bool value | number value | str value | obj members => cases same

theorem exists_obj_of_emptied {members : List (String × Json)} {other : Json}
    (same : (obj members).emptied = other.emptied) :
    ∃ otherMembers, other = obj otherMembers := by
  cases other with
  | obj otherMembers => exact ⟨otherMembers, rfl⟩
  | null | bool value | number value | str value | arr items => cases same

/-- A value without parts is told by its first token, which is its only one. -/
theorem eq_of_tokens_of_atom {node other : Json} {rest otherRest : List Token}
    (atom : node.emptied = node) (flat : node.depth = 0) (integral : node.Integral)
    (otherIntegral : other.Integral) (same : node.tokens ++ rest = other.tokens ++ otherRest) :
    node = other ∧ rest = otherRest := by
  have equal : node = other := by
    have alike := emptied_eq integral otherIntegral same
    rw [atom] at alike
    cases other with
    | null | bool value | number value | str value => exact alike
    | arr items | obj members =>
        rw [alike] at flat
        cases flat
  subst equal
  exact ⟨rfl, List.append_cancel_left same⟩

theorem closeArray_ne_tokens {node : Json} (integral : node.Integral) (rest behind : List Token) :
    .closeArray :: rest ≠ node.tokens ++ behind := by
  obtain ⟨token, tokens, shape, starts⟩ := exists_tokens_eq_cons integral
  intro same
  rw [shape, List.cons_append] at same
  exact starts (List.cons.inj same).1.symm

theorem tokens_arr_append (v : Json) (vs : List Json) (rest : List Token) :
    (arr (v :: vs)).tokens ++ rest =
      .openArray :: (v.tokens ++ (itemTokens vs ++ .closeArray :: rest)) := by
  simp [tokens]

theorem tokens_obj_append (name : String) (v : Json) (ms : List (String × Json))
    (rest : List Token) :
    (obj ((name, v) :: ms)).tokens ++ rest =
      .openObject :: .text (some name) :: .colon ::
        (v.tokens ++ (memberTokens ms ++ .closeObject :: rest)) := by
  simp [tokens]

theorem itemTokens_append (v : Json) (vs : List Json) (rest : List Token) :
    itemTokens (v :: vs) ++ rest = .comma :: (v.tokens ++ (itemTokens vs ++ rest)) := by
  simp [itemTokens]

theorem memberTokens_append (name : String) (v : Json) (ms : List (String × Json))
    (rest : List Token) :
    memberTokens ((name, v) :: ms) ++ rest =
      .comma :: .text (some name) :: .colon :: (v.tokens ++ (memberTokens ms ++ rest)) := by
  simp [memberTokens]

theorem named_inj {name otherName : String} {rest otherRest : List Token}
    (same : Token.text (some name) :: .colon :: rest =
      .text (some otherName) :: .colon :: otherRest) : name = otherName ∧ rest = otherRest := by
  injection same with text same
  injection same with _ same
  cases text
  exact ⟨rfl, same⟩

mutual
/-- The tokens of a value tell the value and where they end. -/
theorem tokens_unambiguous : (node other : Json) → node.Integral → other.Integral →
    {rest otherRest : List Token} → node.tokens ++ rest = other.tokens ++ otherRest →
      node = other ∧ rest = otherRest
  | .null, _, integral, otherIntegral, _, _, same =>
      eq_of_tokens_of_atom rfl rfl integral otherIntegral same
  | .bool _, _, integral, otherIntegral, _, _, same =>
      eq_of_tokens_of_atom rfl rfl integral otherIntegral same
  | .number _, _, integral, otherIntegral, _, _, same =>
      eq_of_tokens_of_atom rfl rfl integral otherIntegral same
  | .str _, _, integral, otherIntegral, _, _, same =>
      eq_of_tokens_of_atom rfl rfl integral otherIntegral same
  | .arr items, other, integral, otherIntegral, _, _, same => by
      obtain ⟨otherItems, rfl⟩ := exists_arr_of_emptied (emptied_eq integral otherIntegral same)
      match items, otherItems with
      | [], [] => exact ⟨rfl, List.append_cancel_left same⟩
      | [], w :: ws =>
          rw [tokens_arr_append] at same
          exact absurd (List.cons.inj same).2 (closeArray_ne_tokens otherIntegral.1 _ _)
      | v :: vs, [] =>
          rw [tokens_arr_append] at same
          exact absurd (List.cons.inj same).2.symm (closeArray_ne_tokens integral.1 _ _)
      | v :: vs, w :: ws =>
          rw [tokens_arr_append, tokens_arr_append] at same
          obtain ⟨rfl, later⟩ :=
            tokens_unambiguous v w integral.1 otherIntegral.1 (List.cons.inj same).2
          obtain ⟨rfl, ends⟩ := itemTokens_unambiguous vs ws integral.2 otherIntegral.2 later
          exact ⟨rfl, ends⟩
  | .obj members, other, integral, otherIntegral, _, _, same => by
      obtain ⟨otherMembers, rfl⟩ := exists_obj_of_emptied (emptied_eq integral otherIntegral same)
      match members, otherMembers with
      | [], [] => exact ⟨rfl, List.append_cancel_left same⟩
      | [], (name, w) :: ws => cases (List.cons.inj same).2
      | (name, v) :: vs, [] => cases (List.cons.inj same).2
      | (name, v) :: vs, (otherName, w) :: ws =>
          rw [tokens_obj_append, tokens_obj_append] at same
          obtain ⟨rfl, inner⟩ := named_inj (List.cons.inj same).2
          obtain ⟨rfl, later⟩ := tokens_unambiguous v w integral.1 otherIntegral.1 inner
          obtain ⟨rfl, ends⟩ := memberTokens_unambiguous vs ws integral.2 otherIntegral.2 later
          exact ⟨rfl, ends⟩

/-- The tokens of the further elements tell them and where their array ends. -/
theorem itemTokens_unambiguous : (items others : List Json) → IntegralItems items →
    IntegralItems others → {rest otherRest : List Token} →
      itemTokens items ++ .closeArray :: rest = itemTokens others ++ .closeArray :: otherRest →
      items = others ∧ rest = otherRest
  | [], [], _, _, _, _, same => ⟨rfl, (List.cons.inj same).2⟩
  | [], _ :: _, _, _, _, _, same => by cases (List.cons.inj same).1
  | _ :: _, [], _, _, _, _, same => by cases (List.cons.inj same).1
  | v :: vs, w :: ws, integral, otherIntegral, _, _, same => by
      rw [itemTokens_append, itemTokens_append] at same
      obtain ⟨rfl, later⟩ :=
        tokens_unambiguous v w integral.1 otherIntegral.1 (List.cons.inj same).2
      obtain ⟨rfl, ends⟩ := itemTokens_unambiguous vs ws integral.2 otherIntegral.2 later
      exact ⟨rfl, ends⟩

/-- The tokens of the further members tell them and where their object ends. -/
theorem memberTokens_unambiguous : (members others : List (String × Json)) →
    IntegralMembers members → IntegralMembers others → {rest otherRest : List Token} →
      memberTokens members ++ .closeObject :: rest =
        memberTokens others ++ .closeObject :: otherRest →
      members = others ∧ rest = otherRest
  | [], [], _, _, _, _, same => ⟨rfl, (List.cons.inj same).2⟩
  | [], _ :: _, _, _, _, _, same => by cases (List.cons.inj same).1
  | _ :: _, [], _, _, _, _, same => by cases (List.cons.inj same).1
  | (name, v) :: vs, (otherName, w) :: ws, integral, otherIntegral, _, _, same => by
      rw [memberTokens_append, memberTokens_append] at same
      obtain ⟨rfl, inner⟩ := named_inj (List.cons.inj same).2
      obtain ⟨rfl, later⟩ := tokens_unambiguous v w integral.1 otherIntegral.1 inner
      obtain ⟨rfl, ends⟩ := memberTokens_unambiguous vs ws integral.2 otherIntegral.2 later
      exact ⟨rfl, ends⟩
end

/-- No two values have one text, in the same layout or in different ones. -/
theorem eq_of_print_eq {node other : Json} {layout otherLayout : Layout} (integral : node.Integral)
    (otherIntegral : other.Integral) (same : node.print layout = other.print otherLayout) :
    node = other := by
  have scanned := Token.scan?_print layout integral
  rw [same, Token.scan?_print otherLayout otherIntegral] at scanned
  have alike : node.tokens ++ [] = other.tokens ++ [] :=
    congrArg (· ++ []) (Option.some.inj scanned).symm
  exact (tokens_unambiguous node other integral otherIntegral alike).1

/-- The text of a value with integers tells the value. If no more than 127 arrays and objects are
nested in it the text is read as the value again, compact or indented, and if more are it is not
read at all; the text of a sorted copy is the same text; and however deep they are nested, no two
values have one text. -/
theorem text_determines_value {node : Json} (ordered : node.Ordered) (integral : node.Integral) :
    (node.depth ≤ 127 → parse? node.compact = some node ∧ parse? node.pretty = some node) ∧
      (127 < node.depth → parse? node.compact = none ∧ parse? node.pretty = none) ∧
      (node.canonical.compact = node.compact ∧ node.canonical.pretty = node.pretty) ∧
      ∀ (other : Json) (layout otherLayout : Layout), other.Integral →
        other.print otherLayout = node.print layout → other = node := by
  have sorted := canonical_of_ordered node ordered
  have read (layout : Layout) :
      parse? (node.print layout) = if node.depth ≤ 127 then some node else none := by
    have whole := parse?_print layout integral
    rw [sorted] at whole
    exact whole
  refine ⟨fun shallow => ?_, fun deep => ?_, ?_, fun other layout otherLayout otherIntegral =>
    eq_of_print_eq otherIntegral integral⟩
  · rw [compact, pretty, read, read, if_pos shallow]
    exact ⟨rfl, rfl⟩
  · rw [compact, pretty, read, read, if_neg (by omega)]
    exact ⟨rfl, rfl⟩
  · rw [sorted]
    exact ⟨rfl, rfl⟩

/-- An object with a bullet, an escape and the greatest number in so many arrays, each of which also
holds the least number. -/
def nested : Nat → Json
  | 0 =>
    .obj [("", .str "●\n\""), ("a.b", .number (.int 18446744073709551615 (by decide)))]
  | n + 1 => .arr [nested n, .number (.int (-9223372036854775808) (by decide))]

theorem nested_spec (n : Nat) :
    (nested n).depth = n + 1 ∧ (nested n).Ordered ∧ (nested n).Integral := by
  induction n with
  | zero =>
      have rising : "" < "a.b" := by decide
      exact ⟨rfl, ⟨List.pairwise_pair.mpr rising, trivial, trivial, trivial⟩, trivial, trivial,
        trivial⟩
  | succ n ih =>
      obtain ⟨depth, ordered, integral⟩ := ih
      refine ⟨?_, ⟨ordered, trivial, trivial⟩, integral, trivial, trivial⟩
      simp [nested, Json.depth, itemsDepth, depth]

/-- With 127 containers the text is read, with 128 it is not, and even then it is a text of its
own. -/
theorem text_of_128_containers_is_not_read :
    (nested 126).Ordered ∧ (nested 126).Integral ∧ (nested 126).depth ≤ 127 ∧
      parse? (nested 126).compact = some (nested 126) ∧
      parse? (nested 126).pretty = some (nested 126) ∧
      (nested 127).Ordered ∧ (nested 127).Integral ∧ 127 < (nested 127).depth ∧
      parse? (nested 127).compact = none ∧ parse? (nested 127).pretty = none ∧
      (nested 127).canonical.compact = (nested 127).compact ∧
      (nested 128).Integral ∧ (nested 128).compact ≠ (nested 127).compact := by
  obtain ⟨depth, ordered, integral⟩ := nested_spec 126
  obtain ⟨deepDepth, deepOrdered, deepIntegral⟩ := nested_spec 127
  obtain ⟨deeper, _, deeperIntegral⟩ := nested_spec 128
  have shallow : (nested 126).depth ≤ 127 := Nat.le_of_eq depth
  have deep : 127 < (nested 127).depth := by omega
  obtain ⟨read, _⟩ := text_determines_value ordered integral
  obtain ⟨_, unread, sorted, alone⟩ := text_determines_value deepOrdered deepIntegral
  refine ⟨ordered, integral, shallow, (read shallow).1, (read shallow).2, deepOrdered, deepIntegral,
    deep, (unread deep).1, (unread deep).2, sorted.1, deeperIntegral, fun same => ?_⟩
  have equal := congrArg Json.depth (alone (nested 128) .compact .compact deeperIntegral same)
  omega

end Json

end RichMessage
