import RichMessage.Json.Printer
import RichMessage.Proofs.Json.Numeral
import RichMessage.Proofs.Json.Quoted

set_option autoImplicit false

/- A printed value is scanned into its own tokens, whatever its layout is. A word has no end of its
own, so the scanner may still stand in the last word of a value when the value is over. It is
settled then: the next blank or mark, or the end of the text, makes that word a token. -/
namespace RichMessage

namespace Json

mutual
def tokens : Json → List Token
  | .null => [.null]
  | .bool value => [.bool value]
  | .number value => (Token.ofWord? value.render).toList
  | .str value => [.text (some value)]
  | .arr [] => [.openArray, .closeArray]
  | .arr (v :: vs) => .openArray :: (v.tokens ++ (itemTokens vs ++ [.closeArray]))
  | .obj [] => [.openObject, .closeObject]
  | .obj ((name, v) :: ms) =>
    .openObject :: .text (some name) :: .colon :: (v.tokens ++ (memberTokens ms ++ [.closeObject]))

/-- The tokens of the elements after the first one. -/
def itemTokens : List Json → List Token
  | [] => []
  | v :: vs => .comma :: (v.tokens ++ itemTokens vs)

/-- The tokens of the members after the first one. -/
def memberTokens : List (String × Json) → List Token
  | [] => []
  | (name, v) :: ms => .comma :: .text (some name) :: .colon :: (v.tokens ++ memberTokens ms)
end

end Json

namespace Token

theorem mem_of_punctuation? {c : Char} {token : Token} (mark : punctuation? c = some token) :
    c ∈ ['[', ']', '{', '}', ',', ':'] := by
  by_contra other
  simp only [List.mem_cons, List.not_mem_nil, or_false, not_or] at other
  obtain ⟨h1, h2, h3, h4, h5, h6⟩ := other
  rw [punctuation?, if_neg h1, if_neg h2, if_neg h3, if_neg h4, if_neg h5, if_neg h6] at mark
  cases mark

/-- A blank is no part of a word. -/
theorem isBlank_of_isWordChar {c : Char} (letter : isWordChar c = true) : isBlank c = false := by
  have blanks : ∀ other ∈ [' ', '\t', '\n', '\r'], (!isWordChar other) = true :=
    List.all_eq_true.mp rfl
  by_contra blank
  have among : c ∈ [' ', '\t', '\n', '\r'] := by
    simp only [isBlank, Bool.not_eq_false, Bool.or_eq_true, beq_iff_eq, or_assoc] at blank
    simpa only [List.mem_cons, List.not_mem_nil, or_false] using blank
  have apart := blanks c among
  rw [letter] at apart
  cases apart

namespace Scanner

/-- The tokens read, latest first, if the scanner is inside of nothing but perhaps a word that may
end here. -/
def settled? (s : Scanner) : Option (List Token) :=
  match s.mode with
  | .between => some s.tokens
  | .word read => (ofWord? read.reverse).map fun token => token :: s.tokens
  | _ => none

theorem finish?_eq (s : Scanner) : s.finish? = s.settled?.map List.reverse := by
  unfold finish? settled?
  cases s.mode with
  | word read => rw [Option.map_map]; rfl
  | between | string read | escape read | digits read due code => rfl

/-- A scanner that is settled takes what ends a word as if it stood between two tokens. -/
theorem step_of_settled {s : Scanner} {tokens : List Token} {c : Char}
    (settled : s.settled? = some tokens) (ends : isWordChar c = false) :
    s.step c = begin tokens c := by
  obtain ⟨before, mode⟩ := s
  cases mode with
  | between =>
      cases settled
      rfl
  | word read =>
      obtain ⟨token, last, rfl⟩ := Option.map_eq_some_iff.mp settled
      have through : ¬ isWordChar c = true := by simp [ends]
      rw [step]
      dsimp only
      rw [if_neg through, last, Option.bind_some]
  | string read | escape read | digits read due code => cases settled

/-- A mark is a token whatever stands before it. -/
theorem step_mark {s : Scanner} {tokens : List Token} {c : Char} {token : Token}
    (settled : s.settled? = some tokens) (mark : punctuation? c = some token) :
    s.step c = some ⟨token :: tokens, .between⟩ := by
  have ends : ∀ other ∈ ['[', ']', '{', '}', ',', ':'],
      (!isWordChar other && !isBlank other && other != '"') = true := List.all_eq_true.mp rfl
  have apart := ends c (mem_of_punctuation? mark)
  simp only [Bool.and_eq_true, Bool.not_eq_true', bne_iff_ne] at apart
  obtain ⟨⟨noWord, noBlank⟩, noQuote⟩ := apart
  rw [step_of_settled settled noWord, begin, noBlank, noWord, if_neg Bool.false_ne_true,
    if_neg noQuote, if_neg Bool.false_ne_true, mark, Option.map_some]

theorem step_blank {s : Scanner} {tokens : List Token} {c : Char}
    (settled : s.settled? = some tokens) (blank : isBlank c = true) (ends : isWordChar c = false) :
    s.step c = some ⟨tokens, .between⟩ := by
  rw [step_of_settled settled ends, begin, if_pos blank]

/-- The scanner comes to the end of a text and is settled there with these tokens. -/
def Reaches (s : Scanner) (text : List Char) (tokens : List Token) : Prop :=
  ∃ last, text.foldlM step s = some last ∧ last.settled? = some tokens

theorem Reaches.append {s : Scanner} {front rest : List Char} {tokens later : List Token}
    (first : s.Reaches front tokens)
    (second : ∀ middle : Scanner, middle.settled? = some tokens → middle.Reaches rest later) :
    s.Reaches (front ++ rest) later := by
  obtain ⟨middle, read, settled⟩ := first
  obtain ⟨last, readOn, after⟩ := second middle settled
  refine ⟨last, ?_, after⟩
  rw [List.foldlM_append, read]
  exact readOn

/-- A text that leads exactly to a place between two tokens is followed from there. -/
theorem Reaches.of_between {s : Scanner} {front rest : List Char} {tokens later : List Token}
    (read : front.foldlM step s = some ⟨tokens, .between⟩)
    (second : (⟨tokens, .between⟩ : Scanner).Reaches rest later) :
    s.Reaches (front ++ rest) later := by
  obtain ⟨last, readOn, after⟩ := second
  refine ⟨last, ?_, after⟩
  rw [List.foldlM_append, read]
  exact readOn

theorem foldlM_blanks (tokens : List Token) (n : Nat) :
    (List.replicate n ' ').foldlM step ⟨tokens, .between⟩ = some ⟨tokens, .between⟩ := by
  induction n with
  | zero => rfl
  | succ n ih =>
      have first : step ⟨tokens, .between⟩ ' ' = some ⟨tokens, .between⟩ :=
        step_blank rfl (by decide) (by decide)
      rw [List.replicate_succ, List.foldlM_cons, first]
      exact ih

theorem foldlM_lineBreak (tokens : List Token) (layout : Json.Layout) (depth : Nat) :
    (layout.lineBreak depth).foldlM step ⟨tokens, .between⟩ = some ⟨tokens, .between⟩ := by
  cases layout with
  | compact => rfl
  | indented =>
      have first : step ⟨tokens, .between⟩ '\n' = some ⟨tokens, .between⟩ :=
        step_blank rfl (by decide) (by decide)
      rw [Json.Layout.lineBreak, List.foldlM_cons, first]
      exact foldlM_blanks tokens (2 * depth)

theorem reaches_lineBreak {s : Scanner} {tokens : List Token} (settled : s.settled? = some tokens)
    (layout : Json.Layout) (depth : Nat) : s.Reaches (layout.lineBreak depth) tokens := by
  cases layout with
  | compact => exact ⟨s, rfl, settled⟩
  | indented =>
      have first : s.step '\n' = some ⟨tokens, .between⟩ :=
        step_blank settled (by decide) (by decide)
      refine ⟨⟨tokens, .between⟩, ?_, rfl⟩
      rw [Json.Layout.lineBreak, List.foldlM_cons, first]
      exact foldlM_blanks tokens (2 * depth)

theorem reaches_mark {s : Scanner} {tokens : List Token} {c : Char} {token : Token}
    (settled : s.settled? = some tokens) (mark : punctuation? c = some token) :
    s.Reaches [c] (token :: tokens) := by
  refine ⟨⟨token :: tokens, .between⟩, ?_, rfl⟩
  rw [List.foldlM_cons, step_mark settled mark]
  rfl

theorem foldlM_colon (tokens : List Token) (layout : Json.Layout) :
    layout.colon.foldlM step ⟨tokens, .between⟩ = some ⟨.colon :: tokens, .between⟩ := by
  cases layout with
  | compact | indented => rfl

theorem foldlM_word (tokens : List Token) (read word : List Char)
    (letters : ∀ c ∈ word, isWordChar c = true) :
    word.foldlM step ⟨tokens, .word read⟩ = some ⟨tokens, .word (word.reverse ++ read)⟩ := by
  induction word generalizing read with
  | nil => rfl
  | cons c rest ih =>
      have first : step ⟨tokens, .word read⟩ c = some ⟨tokens, .word (c :: read)⟩ :=
        if_pos (letters c (by simp))
      have later := ih (c :: read) fun other member => letters other (List.mem_cons_of_mem c member)
      rw [List.foldlM_cons, first, List.reverse_cons, List.append_assoc]
      exact later

/-- A word is one token, which the scanner may not have finished yet. -/
theorem reaches_word {word : List Char} {token : Token} (tokens : List Token)
    (known : ofWord? word = some token) (nonempty : word ≠ [])
    (letters : ∀ c ∈ word, isWordChar c = true) :
    (⟨tokens, .between⟩ : Scanner).Reaches word (token :: tokens) := by
  cases word with
  | nil => exact absurd rfl nonempty
  | cons c rest =>
      have letter := letters c (by simp)
      have begins : step ⟨tokens, .between⟩ c = some ⟨tokens, .word [c]⟩ := by
        have noBlank := isBlank_of_isWordChar letter
        have noQuote : c ≠ '"' := by
          rintro rfl
          exact absurd letter (by decide)
        change begin tokens c = _
        rw [begin, noBlank, if_neg Bool.false_ne_true, if_neg noQuote, if_pos letter]
      have goesOn := foldlM_word tokens [c] rest fun other member =>
        letters other (List.mem_cons_of_mem c member)
      refine ⟨⟨tokens, .word (rest.reverse ++ [c])⟩, ?_, ?_⟩
      · rw [List.foldlM_cons, begins]
        exact goesOn
      · change (ofWord? (rest.reverse ++ [c]).reverse).map _ = _
        rw [List.reverse_append, List.reverse_reverse]
        change (ofWord? (c :: rest)).map _ = _
        rw [known, Option.map_some]

/-- The written form of a character is read as its piece. -/
theorem foldlM_encodeChar (tokens : List Token) (read : List Quoted.Piece) (c : Char) :
    (Quoted.encodeChar c).foldlM step ⟨tokens, .string read⟩ =
      some ⟨tokens, .string (Quoted.pieceOf c :: read)⟩ := by
  unfold Quoted.encodeChar Quoted.pieceOf Quoted.isSpelled
  cases short : Quoted.shortEscape? c with
  | some letter =>
      obtain ⟨plain, noDigits⟩ := Quoted.unescape?_of_shortEscape? short
      simp [step, plain, noDigits]
  | none =>
      obtain ⟨noQuote, noEscape⟩ := Quoted.plain_of_shortEscape? short
      by_cases spelled : c.toNat < 0x20
      · have high := Quoted.hexValue?_hexDigit (n := c.toNat / 16) (by omega)
        have low := Quoted.hexValue?_hexDigit (n := c.toNat % 16) (by omega)
        have zero : Quoted.hexValue? '0' = some 0 := by decide
        have code : c.toNat / 16 * 16 + c.toNat % 16 = c.toNat := by omega
        simp [step, spelled, high, low, zero, code]
      · simp [step, spelled, noQuote, noEscape]

theorem foldlM_body (tokens : List Token) (read : List Quoted.Piece) (text : List Char) :
    (text.flatMap Quoted.encodeChar).foldlM step ⟨tokens, .string read⟩ =
      some ⟨tokens, .string ((text.map Quoted.pieceOf).reverse ++ read)⟩ := by
  induction text generalizing read with
  | nil => rfl
  | cons c rest ih =>
      have later := ih (Quoted.pieceOf c :: read)
      rw [List.flatMap_cons, List.foldlM_append, foldlM_encodeChar, List.map_cons,
        List.reverse_cons, List.append_assoc]
      exact later

/-- A quoted text is the token of that text. -/
theorem foldlM_encode (tokens : List Token) (text : String) :
    (Quoted.encode text.toList).foldlM step ⟨tokens, .between⟩ =
      some ⟨.text (some text) :: tokens, .between⟩ := by
  have opened : step ⟨tokens, .between⟩ '"' = some ⟨tokens, .string []⟩ := rfl
  have pieces := Quoted.resolve?_map_pieceOf text.toList
  have closed : step ⟨tokens, .string (text.toList.map Quoted.pieceOf).reverse⟩ '"' =
      some ⟨.text (some text) :: tokens, .between⟩ := by
    simp [step, ofPieces, pieces]
  rw [Quoted.encode, List.cons_append, List.foldlM_cons, opened]
  change (text.toList.flatMap Quoted.encodeChar ++ ['"']).foldlM step _ = _
  rw [List.foldlM_append, foldlM_body, List.append_nil, Option.bind_eq_bind, Option.bind_some,
    List.foldlM_cons, closed]
  rfl

/-- A mark with the blanks behind it. -/
theorem foldlM_mark {s : Scanner} {tokens : List Token} {c : Char} {token : Token}
    (settled : s.settled? = some tokens) (mark : punctuation? c = some token)
    (layout : Json.Layout) (depth : Nat) :
    (c :: layout.lineBreak depth).foldlM step s = some ⟨token :: tokens, .between⟩ := by
  rw [List.foldlM_cons, step_mark settled mark]
  exact foldlM_lineBreak (token :: tokens) layout depth

/-- A mark with the blanks in front of it. -/
theorem reaches_close {s : Scanner} {tokens : List Token} {c : Char} {token : Token}
    (settled : s.settled? = some tokens) (mark : punctuation? c = some token)
    (layout : Json.Layout) (depth : Nat) :
    s.Reaches (layout.lineBreak depth ++ [c]) (token :: tokens) :=
  (reaches_lineBreak settled layout depth).append fun _ after => reaches_mark after mark

/-- A name with its colon. -/
theorem foldlM_name (tokens : List Token) (layout : Json.Layout) (name : String) :
    (Quoted.encode name.toList ++ layout.colon).foldlM step ⟨tokens, .between⟩ =
      some ⟨.colon :: .text (some name) :: tokens, .between⟩ := by
  rw [List.foldlM_append, foldlM_encode]
  exact foldlM_colon (.text (some name) :: tokens) layout

mutual
/-- The text of a value is scanned into the tokens of the value. -/
theorem reaches_render (layout : Json.Layout) (depth : Nat) (tokens : List Token) :
    (node : Json) → node.Integral →
      (⟨tokens, .between⟩ : Scanner).Reaches (node.render layout depth)
        (node.tokens.reverse ++ tokens)
  | .null, _ => by
      have known : ofWord? ['n', 'u', 'l', 'l'] = some .null := rfl
      have reaches := reaches_word tokens known (List.cons_ne_nil _ _)
        (List.all_eq_true.mp rfl)
      exact reaches
  | .bool true, _ => by
      have known : ofWord? ['t', 'r', 'u', 'e'] = some (.bool true) := rfl
      have reaches := reaches_word tokens known (List.cons_ne_nil _ _)
        (List.all_eq_true.mp rfl)
      exact reaches
  | .bool false, _ => by
      have known : ofWord? ['f', 'a', 'l', 's', 'e'] = some (.bool false) := rfl
      have reaches := reaches_word tokens known (List.cons_ne_nil _ _)
        (List.all_eq_true.mp rfl)
      exact reaches
  | .number (.int value fits), _ => by
      have known := Number.ofWord?_render fits
      have reaches := reaches_word tokens known (Number.render_ne_nil fits)
        fun _ => Number.isWordChar_of_mem_render
      simpa [Json.render, Json.tokens, known] using reaches
  | .number (.float _), integral => integral.elim
  | .str value, _ => ⟨_, foldlM_encode tokens value, rfl⟩
  | .arr [], _ => ⟨_, rfl, rfl⟩
  | .arr (v :: vs), integral => by
      have opened := foldlM_mark (s := ⟨tokens, .between⟩) rfl (c := '[') rfl layout (depth + 1)
      have first := reaches_render layout (depth + 1) (.openArray :: tokens) v integral.1
      have whole := Reaches.of_between opened (first.append fun middle here =>
        (reaches_renderItems layout (depth + 1) vs middle _ integral.2 here).append
          fun last there => reaches_close there (c := ']') rfl layout depth)
      simpa [Json.render, Json.tokens] using whole
  | .obj [], _ => ⟨_, rfl, rfl⟩
  | .obj ((name, v) :: ms), integral => by
      have opened := foldlM_mark (s := ⟨tokens, .between⟩) rfl (c := '{') rfl layout (depth + 1)
      have named := foldlM_name (.openObject :: tokens) layout name
      have first := reaches_render layout (depth + 1)
        (.colon :: .text (some name) :: .openObject :: tokens) v integral.1
      have whole := Reaches.of_between opened (Reaches.of_between named (first.append
        fun middle here => (reaches_renderMembers layout (depth + 1) ms middle _ integral.2
          here).append fun last there => reaches_close there (c := '}') rfl layout depth))
      simpa [Json.render, Json.tokens] using whole

/-- The texts of the further elements are scanned into their tokens. -/
theorem reaches_renderItems (layout : Json.Layout) (depth : Nat) :
    (items : List Json) → (s : Scanner) → (tokens : List Token) → Json.IntegralItems items →
      s.settled? = some tokens →
      s.Reaches (Json.renderItems layout depth items) ((Json.itemTokens items).reverse ++ tokens)
  | [], s, _, _, settled => ⟨s, rfl, settled⟩
  | v :: vs, s, tokens, integral, settled => by
      have comma := foldlM_mark settled (c := ',') rfl layout depth
      have first := reaches_render layout depth (.comma :: tokens) v integral.1
      have whole := Reaches.of_between comma (first.append fun middle here =>
        reaches_renderItems layout depth vs middle _ integral.2 here)
      simpa [Json.renderItems, Json.itemTokens] using whole

/-- The texts of the further members are scanned into their tokens. -/
theorem reaches_renderMembers (layout : Json.Layout) (depth : Nat) :
    (members : List (String × Json)) → (s : Scanner) → (tokens : List Token) →
      Json.IntegralMembers members → s.settled? = some tokens →
      s.Reaches (Json.renderMembers layout depth members)
        ((Json.memberTokens members).reverse ++ tokens)
  | [], s, _, _, settled => ⟨s, rfl, settled⟩
  | (name, v) :: ms, s, tokens, integral, settled => by
      have comma := foldlM_mark settled (c := ',') rfl layout depth
      have named := foldlM_name (.comma :: tokens) layout name
      have first := reaches_render layout depth
        (.colon :: .text (some name) :: .comma :: tokens) v integral.1
      have whole := Reaches.of_between comma (Reaches.of_between named (first.append
        fun middle here => reaches_renderMembers layout depth ms middle _ integral.2 here))
      simpa [Json.renderMembers, Json.memberTokens] using whole
end

end Scanner

/-- A printed value is scanned into its own tokens. -/
theorem scan?_print {node : Json} (layout : Json.Layout) (integral : node.Integral) :
    scan? (node.print layout).toList = some node.tokens := by
  obtain ⟨last, read, settled⟩ := Scanner.reaches_render layout 0 [] node integral
  rw [scan?, Json.print, String.toList_ofList]
  change (List.foldlM Scanner.step ⟨[], .between⟩ _).bind _ = _
  rw [read, Option.bind_some, Scanner.finish?_eq, settled, Option.map_some, List.append_nil,
    List.reverse_reverse]

end Token

end RichMessage
