import Mathlib.Data.List.Basic
import RichMessage.Panel.Sections

set_option autoImplicit false

namespace RichMessage.Sections

variable {α : Type}

/-- How many blocks the header takes behind its first title: one, if it is a title or a text. -/
def followers : List BlockKind → Nat
  | .title :: _ => 1
  | .text :: _ => 1
  | _ => 0

/-- How many blocks the header takes: none, unless the first one is a title. -/
def headerLength : List BlockKind → Nat
  | .title :: rest => followers rest + 1
  | _ => 0

def others (kind : α → BlockKind) (blocks : List α) : List α :=
  blocks.filter fun block => kind block ≠ .button

def buttons (kind : α → BlockKind) (blocks : List α) : List α :=
  blocks.filter fun block => kind block = .button

theorem routeFrom_closed (kind : α → BlockKind) (blocks : List α) :
    routeFrom kind .closed blocks = ⟨[], others kind blocks, buttons kind blocks⟩ := by
  induction blocks with
  | nil => rfl
  | cons block rest ih =>
      simp only [routeFrom, HeaderState.take?, ih, others, buttons, List.filter_cons]
      by_cases button : kind block = .button
      · simp [button]
      · simp [button]

/-- A header that takes the first block goes on with the next one. -/
theorem routeFrom_of_taken {kind : α → BlockKind} {state : HeaderState} {block : α}
    (next : HeaderState) (taken : state.take? (kind block) = some next) (rest : List α) :
    routeFrom kind state (block :: rest) =
      { routeFrom kind next rest with header := block :: (routeFrom kind next rest).header } := by
  rw [routeFrom, taken]

/-- A header that does not take the first block takes none at all. -/
theorem routeFrom_of_refused {kind : α → BlockKind} {state : HeaderState} {blocks : List α}
    (refused : ∀ block ∈ blocks.head?, state.take? (kind block) = none) :
    routeFrom kind state blocks = ⟨[], others kind blocks, buttons kind blocks⟩ := by
  rw [← routeFrom_closed]
  cases blocks with
  | nil => rfl
  | cons block rest =>
      have first : state.take? (kind block) = none := refused block (by simp)
      rw [routeFrom, first, routeFrom, HeaderState.take?]

theorem take?_full (titleSeen textTaken : Bool) (kind : BlockKind) :
    (HeaderState.open 2 titleSeen textTaken).take? kind = none := rfl

/-- Behind a first title the header takes one more title or one text. -/
theorem routeFrom_titled (kind : α → BlockKind) (blocks : List α) :
    routeFrom kind (.open 1 true false) blocks =
      let taken := followers (blocks.map kind)
      ⟨blocks.take taken, others kind (blocks.drop taken), buttons kind (blocks.drop taken)⟩ := by
  cases blocks with
  | nil => rfl
  | cons block rest =>
      have full (titleSeen textTaken : Bool) : routeFrom kind (.open 2 titleSeen textTaken) rest =
          ⟨[], others kind rest, buttons kind rest⟩ :=
        routeFrom_of_refused fun _ _ => take?_full titleSeen textTaken _
      cases next : kind block with
      | title =>
          rw [routeFrom_of_taken (.open 2 true false) (by rw [next]; rfl), full]
          simp [followers, next]
      | text =>
          rw [routeFrom_of_taken (.open 2 true true) (by rw [next]; rfl), full]
          simp [followers, next]
      | image | button | separator =>
          rw [routeFrom_of_refused (by simp [next, HeaderState.take?])]
          simp [followers, next]

/-- The header is a prefix of the blocks; of what is left the body has all but the buttons. -/
theorem route_eq (kind : α → BlockKind) (blocks : List α) :
    route kind blocks =
      let taken := headerLength (blocks.map kind)
      ⟨blocks.take taken, others kind (blocks.drop taken), buttons kind (blocks.drop taken)⟩ := by
  cases blocks with
  | nil => rfl
  | cons block rest =>
      rw [route]
      cases first : kind block with
      | title =>
          rw [routeFrom_of_taken (.open 1 true false) (by rw [first]; rfl),
            routeFrom_titled, List.map_cons, first]
          rfl
      | text | image | button | separator =>
          rw [routeFrom_of_refused (by simp [first, HeaderState.take?, HeaderState.start])]
          simp [headerLength, first]

/-- Blocks are routed by their kinds alone. -/
theorem route_map {β : Type} (f : β → α) (kind : α → BlockKind) (blocks : List β) :
    route kind (blocks.map f) =
      let sections := route (fun block => kind (f block)) blocks
      ⟨sections.header.map f, sections.body.map f, sections.footer.map f⟩ := by
  simp only [route_eq, others, buttons, List.map_map, List.map_take, ← List.map_drop,
    List.filter_map]
  rfl

theorem headerLength_le_length (kinds : List BlockKind) : headerLength kinds ≤ kinds.length := by
  fun_cases headerLength kinds with
  | case1 rest =>
      have behind : followers rest ≤ rest.length := by
        fun_cases followers rest <;> simp
      simpa using behind
  | case2 => exact Nat.zero_le _

theorem headerLength_le_capacity (kinds : List BlockKind) :
    headerLength kinds ≤ HeaderState.capacity := by
  fun_cases headerLength kinds with
  | case1 rest => fun_cases followers rest <;> decide
  | case2 => exact Nat.zero_le _

/-- The header never takes a button. -/
theorem kind_ne_button_of_mem_header {kind : α → BlockKind} {blocks : List α} {block : α}
    (member : block ∈ (route kind blocks).header) : kind block ≠ .button := by
  rw [route_eq] at member
  rcases blocks with _ | ⟨first, _ | ⟨second, rest⟩⟩
  · cases member
  · cases kindOfFirst : kind first <;> simp_all [headerLength, followers]
  · cases kindOfFirst : kind first <;> cases kindOfSecond : kind second <;>
      simp_all [headerLength, followers]
    all_goals rcases member with rfl | rfl <;> simp_all

theorem kind_ne_button_of_mem_body {kind : α → BlockKind} {blocks : List α} {block : α}
    (member : block ∈ (route kind blocks).body) : kind block ≠ .button := by
  rw [route_eq] at member
  simpa using (List.mem_filter.mp member).2

theorem kind_eq_button_of_mem_footer {kind : α → BlockKind} {blocks : List α} {block : α}
    (member : block ∈ (route kind blocks).footer) : kind block = .button := by
  rw [route_eq] at member
  simpa using (List.mem_filter.mp member).2

/-- Header and body together are the blocks without the buttons. -/
theorem header_append_body (kind : α → BlockKind) (blocks : List α) :
    (route kind blocks).header ++ (route kind blocks).body = others kind blocks := by
  have kept : others kind (route kind blocks).header = (route kind blocks).header :=
    List.filter_eq_self.mpr fun block member => by
      simpa using kind_ne_button_of_mem_header member
  rw [← kept, route_eq]
  simp only [others, ← List.filter_append, List.take_append_drop]

/-- The footer has all the buttons. -/
theorem footer_eq_buttons (kind : α → BlockKind) (blocks : List α) :
    (route kind blocks).footer = buttons kind blocks := by
  have dropped : buttons kind (route kind blocks).header = [] :=
    List.filter_eq_nil_iff.mpr fun block member => by
      simpa using kind_ne_button_of_mem_header member
  rw [← List.nil_append (route kind blocks).footer, ← dropped, route_eq]
  simp only [buttons, ← List.filter_append, List.take_append_drop]

/-- Buttons behind the other blocks do not lengthen the header. -/
theorem headerLength_append_buttons (front back : List BlockKind)
    (last : ∀ kind ∈ back, kind = .button) :
    headerLength (front ++ back) = headerLength front := by
  have next : back = [] ∨ ∃ rest, back = .button :: rest := by
    cases back with
    | nil => exact Or.inl rfl
    | cons kind rest => exact Or.inr ⟨rest, by rw [last kind (by simp)]⟩
  rcases next with rfl | ⟨rest, rfl⟩
  · rw [List.append_nil]
  · rcases front with _ | ⟨first, _ | ⟨second, others⟩⟩
    · rfl
    · cases first <;> rfl
    · cases first <;> cases second <;> rfl

/-- Taking the buttons out of a list that has them last leaves its front. -/
theorem others_append_buttons {kind : α → BlockKind} {front back : List α}
    (first : ∀ block ∈ front, kind block ≠ .button) (last : ∀ block ∈ back, kind block = .button) :
    others kind (front ++ back) = front := by
  rw [others, List.filter_append, List.filter_eq_self.mpr (by simpa using first),
    List.filter_eq_nil_iff.mpr (by simpa using last), List.append_nil]

theorem buttons_append_buttons {kind : α → BlockKind} {front back : List α}
    (first : ∀ block ∈ front, kind block ≠ .button) (last : ∀ block ∈ back, kind block = .button) :
    buttons kind (front ++ back) = back := by
  rw [buttons, List.filter_append, List.filter_eq_nil_iff.mpr (by simpa using first),
    List.filter_eq_self.mpr (by simpa using last), List.nil_append]

/-- Where the buttons stand last already, the three sections one after the other are the blocks. -/
theorem route_append_buttons {kind : α → BlockKind} {front back : List α}
    (first : ∀ block ∈ front, kind block ≠ .button) (last : ∀ block ∈ back, kind block = .button) :
    route kind (front ++ back) =
      ⟨front.take (headerLength (front.map kind)), front.drop (headerLength (front.map kind)),
        back⟩ := by
  have length : headerLength ((front ++ back).map kind) = headerLength (front.map kind) := by
    rw [List.map_append]
    exact headerLength_append_buttons _ _ (by simpa using last)
  have short : headerLength (front.map kind) ≤ front.length := by
    simpa using headerLength_le_length (front.map kind)
  have dropped : ∀ block ∈ front.drop (headerLength (front.map kind)), kind block ≠ .button :=
    fun block member => first block (List.mem_of_mem_drop member)
  rw [route_eq, length]
  simp only [List.take_append_of_le_length short, List.drop_append_of_le_length short,
    others_append_buttons dropped last, buttons_append_buttons dropped last]

theorem length_header (kind : α → BlockKind) (blocks : List α) :
    (route kind blocks).header.length = headerLength (blocks.map kind) := by
  rw [route_eq]
  have short : headerLength (blocks.map kind) ≤ blocks.length := by
    simpa using headerLength_le_length (blocks.map kind)
  exact List.length_take.trans (Nat.min_eq_left short)

theorem mem_of_mem_header {kind : α → BlockKind} {blocks : List α} {block : α}
    (member : block ∈ (route kind blocks).header) : block ∈ blocks := by
  rw [route_eq] at member
  exact List.mem_of_mem_take member

theorem mem_of_mem_body {kind : α → BlockKind} {blocks : List α} {block : α}
    (member : block ∈ (route kind blocks).body) : block ∈ blocks := by
  rw [route_eq] at member
  exact List.mem_of_mem_drop (List.mem_of_mem_filter member)

theorem mem_of_mem_footer {kind : α → BlockKind} {blocks : List α} {block : α}
    (member : block ∈ (route kind blocks).footer) : block ∈ blocks := by
  rw [route_eq] at member
  exact List.mem_of_mem_drop (List.mem_of_mem_filter member)

theorem followers_map (kind : α → BlockKind) (blocks : List α) :
    followers (blocks.map kind) =
      if blocks[0]?.map kind = some .title ∨ blocks[0]?.map kind = some .text then 1 else 0 := by
  cases blocks with
  | nil => rfl
  | cons first rest => cases kindOfFirst : kind first <;> simp [followers, kindOfFirst]

theorem headerLength_map (kind : α → BlockKind) (blocks : List α) :
    headerLength (blocks.map kind) =
      if blocks[0]?.map kind = some .title then
        if blocks[1]?.map kind = some .title ∨ blocks[1]?.map kind = some .text then 2 else 1
      else 0 := by
  cases blocks with
  | nil => rfl
  | cons first rest =>
      cases kindOfFirst : kind first with
      | title =>
          simp only [List.map_cons, kindOfFirst, headerLength, followers_map]
          simp [kindOfFirst, apply_ite (· + 1)]
      | text | image | button | separator => simp [headerLength, kindOfFirst]

/-- The three sections share the blocks among them. -/
theorem perm_sections (kind : α → BlockKind) (blocks : List α) :
    ((route kind blocks).header ++ (route kind blocks).body ++ (route kind blocks).footer).Perm
      blocks := by
  rw [header_append_body, footer_eq_buttons, others, buttons]
  simpa using List.filter_append_perm (fun block => decide (kind block ≠ .button)) blocks

/-- The header takes two blocks from the top when a title is followed by a title or a text, one when
it is followed by anything else, and none when the first block is no title. Of the blocks behind
them the footer has the buttons and the body has all others. So every block is in one section, once,
and no section changes the order of its blocks. -/
theorem route_holds_every_block_once (kind : α → BlockKind) (blocks : List α) :
    let sections := route kind blocks
    (∃ taken,
      (taken = if blocks[0]?.map kind = some .title then
          if blocks[1]?.map kind = some .title ∨ blocks[1]?.map kind = some .text then 2 else 1
        else 0) ∧
      taken ≤ blocks.length ∧
      sections.header = blocks.take taken ∧
      sections.body = (blocks.drop taken).filter (fun block => kind block ≠ .button) ∧
      sections.footer = (blocks.drop taken).filter (fun block => kind block = .button)) ∧
    (sections.header ++ sections.body ++ sections.footer).Perm blocks ∧
    sections.header.Sublist blocks ∧ sections.body.Sublist blocks ∧
    sections.footer.Sublist blocks := by
  intro sections
  have routed := route_eq kind blocks
  have short : headerLength (blocks.map kind) ≤ blocks.length := by
    simpa using headerLength_le_length (blocks.map kind)
  have top : sections.header = blocks.take _ := congrArg header routed
  have middle : sections.body = (blocks.drop _).filter _ := congrArg body routed
  have bottom : sections.footer = (blocks.drop _).filter _ := congrArg footer routed
  refine ⟨⟨headerLength (blocks.map kind), headerLength_map kind blocks, short, top, middle,
    bottom⟩, perm_sections kind blocks, ?_, ?_, ?_⟩
  · rw [top]
    exact List.take_sublist _ blocks
  · rw [middle]
    exact List.filter_sublist.trans (List.drop_sublist _ blocks)
  · rw [bottom]
    exact List.filter_sublist.trans (List.drop_sublist _ blocks)

end RichMessage.Sections
