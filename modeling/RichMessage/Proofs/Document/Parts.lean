import Mathlib.Data.List.Basic
import RichMessage.Document.Flattening

set_option autoImplicit false

namespace RichMessage

namespace Json

/-- Whether two elements are a bullet and a label to go with it. -/
def isLine (first second : Json) : Bool :=
  first.hasType "text" && second.hasType "text" && Bullet.isBullet first.shownText &&
    Bullet.isLabel second.shownText

/-- Whether the item with a number and the next one are a bullet and a label. -/
def lineAt (items : List Json) (i : Nat) : Bool :=
  match items[i]?, items[i + 1]? with
  | some first, some second => first.isLine second
  | _, _ => false

/-- Whether the item with a number and the next one are taken together when lines are taken from the
first item on and no item twice. -/
def takenAt (items : List Json) : Nat → Bool
  | 0 => lineAt items 0
  | i + 1 => lineAt items (i + 1) && !takenAt items i

/-- Whether the child of a box with a number and the next one are read as one line. A box without a
known layout is neither a row nor a column. -/
def PairsAt (box : Json) (i : Nat) : Prop :=
  match (box.keywordField? "layout" : Option BoxLayout) with
  | some .vertical => takenAt box.contents i = true
  | some _ => box.contents.length = 2 ∧ i = 0 ∧ lineAt box.contents 0 = true
  | none => False

/-- Two children of a box that are read as one line, the first of them with a number. -/
structure Paired (box : Json) (i : Nat) (bullet label : Json) : Prop where
  taken : box.PairsAt i
  bullet : box.contents[i]? = some bullet
  label : box.contents[i + 1]? = some label

theorem isLine_iff {first second : Json} :
    first.isLine second = true ↔
      first.textField? "type" = some "text" ∧ second.textField? "type" = some "text" ∧
        Bullet.isBullet first.shownText = true ∧ Bullet.isLabel second.shownText = true := by
  simp only [isLine, hasType, Bool.and_eq_true, beq_iff_eq, and_assoc]

theorem lineAt_drop (items : List Json) (k i : Nat) :
    lineAt (items.drop k) i = lineAt items (k + i) := by
  rw [lineAt, lineAt, List.getElem?_drop, List.getElem?_drop, Nat.add_assoc]

theorem lineAt_of_takenAt {items : List Json} {i : Nat} (taken : takenAt items i = true) :
    lineAt items i = true := by
  cases i with
  | zero => exact taken
  | succ i => exact (Bool.and_eq_true_iff.mp taken).1

/-- What is read as one line is a bullet and a label. -/
theorem Paired.isLine {box bullet label : Json} {i : Nat} (pair : box.Paired i bullet label) :
    bullet.isLine label = true := by
  obtain ⟨taken, here, next⟩ := pair
  have line : lineAt box.contents i = true := by
    unfold PairsAt at taken
    split at taken
    · exact lineAt_of_takenAt taken
    · obtain ⟨_, rfl, line⟩ := taken
      exact line
    · exact taken.elim
  rwa [lineAt, here, next] at line

/-- Lines are taken from behind an item that is not the bullet of one as if nothing were before. -/
theorem takenAt_drop {items : List Json} {k : Nat} (free : takenAt items k = false) (i : Nat) :
    takenAt (items.drop (k + 1)) i = takenAt items (k + 1 + i) := by
  induction i with
  | zero => rw [takenAt, Nat.add_zero, takenAt, free, Bool.not_false, Bool.and_true, lineAt_drop,
      Nat.add_zero]
  | succ i ih => rw [takenAt, ih, lineAt_drop, ← Nat.add_assoc, takenAt]

end Json

/-- What is read of a box at a time: one child, or two that are a line. -/
inductive BoxPart where
  | alone (i : Nat) (child : Json)
  | line (i : Nat) (bullet label : Json) (pair : bullet.isLine label = true)

namespace BoxPart

def children : BoxPart → List (Json × Nat)
  | .alone i child => [(child, i)]
  | .line i bullet label _ => [(bullet, i), (label, i + 1)]

/-- The parts of a column, its children numbered from `i`. -/
def inColumn (i : Nat) : List Json → List BoxPart
  | [] => []
  | [last] => [.alone i last]
  | first :: second :: rest =>
    if pair : first.isLine second = true then .line i first second pair :: inColumn (i + 2) rest
    else .alone i first :: inColumn (i + 1) (second :: rest)

def apart (items : List Json) : List BoxPart :=
  items.zipIdx.map fun (child, i) => .alone i child

theorem children_inColumn (i : Nat) (items : List Json) :
    (inColumn i items).flatMap children = items.zipIdx i := by
  induction i, items using inColumn.induct with
  | case1 => rfl
  | case2 => rfl
  | case3 i first second rest pair ih =>
      rw [inColumn, dif_pos pair, List.flatMap_cons, ih]
      rfl
  | case4 i first second rest other ih =>
      rw [inColumn, dif_neg other, List.flatMap_cons, ih]
      rfl

/-- The lines of a column are where lines are taken from the top on. -/
theorem line_mem_inColumn {k i : Nat} {items : List Json} {bullet label : Json}
    (pair : bullet.isLine label = true) :
    .line k bullet label pair ∈ inColumn i items ↔
      ∃ j, k = i + j ∧ items[j]? = some bullet ∧ items[j + 1]? = some label ∧
        Json.takenAt items j = true := by
  induction i, items using inColumn.induct with
  | case1 i => simp [inColumn]
  | case2 i last => simp [inColumn]
  | case3 i first second rest line ih =>
      have taken_first : Json.takenAt (first :: second :: rest) 0 = true := line
      have free : Json.takenAt (first :: second :: rest) 1 = false := by
        rw [Json.takenAt, taken_first, Bool.not_true, Bool.and_false]
      have further (j : Nat) :
          Json.takenAt rest j = Json.takenAt (first :: second :: rest) (j + 2) := by
        rw [Nat.add_comm j 2]
        exact Json.takenAt_drop free j
      rw [inColumn, dif_pos line, List.mem_cons, ih]
      constructor
      · rintro (same | ⟨j, rfl, here, next, taken⟩)
        · cases same
          exact ⟨0, rfl, rfl, rfl, line⟩
        · exact ⟨j + 2, by omega, here, next, further j ▸ taken⟩
      · rintro ⟨j, rfl, here, next, taken⟩
        match j with
        | 0 =>
            cases here
            cases next
            exact .inl rfl
        | 1 =>
            rw [free] at taken
            cases taken
        | j + 2 => exact .inr ⟨j, by omega, here, next, further j ▸ taken⟩
  | case4 i first second rest other ih =>
      have free : Json.takenAt (first :: second :: rest) 0 = false := Bool.of_not_eq_true other
      have further (j : Nat) :
          Json.takenAt (second :: rest) j = Json.takenAt (first :: second :: rest) (j + 1) := by
        rw [Nat.add_comm j 1]
        exact Json.takenAt_drop free j
      rw [inColumn, dif_neg other, List.mem_cons, ih]
      constructor
      · rintro (same | ⟨j, rfl, here, next, taken⟩)
        · cases same
        · exact ⟨j + 1, by omega, here, next, further j ▸ taken⟩
      · rintro ⟨j, rfl, here, next, taken⟩
        cases j with
        | zero =>
            rw [free] at taken
            cases taken
        | succ j => exact .inr ⟨j, by omega, here, next, further j ▸ taken⟩

theorem children_apart (items : List Json) : (apart items).flatMap children = items.zipIdx := by
  rw [apart, List.flatMap_map]
  exact List.flatMap_singleton' _

theorem line_not_mem_apart {k : Nat} {items : List Json} {bullet label : Json}
    (pair : bullet.isLine label = true) : .line k bullet label pair ∉ apart items := by
  simp [apart]

end BoxPart

namespace Json

/-- The parts of a box, in the order of its children. -/
def parts (box : Json) : List BoxPart :=
  match (box.keywordField? "layout" : Option BoxLayout) with
  | some .vertical => BoxPart.inColumn 0 box.contents
  | some _ =>
    if box.contents.length = 2 then BoxPart.inColumn 0 box.contents else BoxPart.apart box.contents
  | none => BoxPart.apart box.contents

/-- Every child is in one part, and in order. -/
theorem children_parts (box : Json) : box.parts.flatMap BoxPart.children = box.contents.zipIdx := by
  unfold parts
  split
  · exact BoxPart.children_inColumn 0 box.contents
  · split
    · exact BoxPart.children_inColumn 0 box.contents
    · exact BoxPart.children_apart box.contents
  · exact BoxPart.children_apart box.contents

theorem contents_of_mem_parts {box child : Json} {part : BoxPart} {i : Nat}
    (listed : part ∈ box.parts) (inside : (child, i) ∈ part.children) :
    box.contents[i]? = some child := by
  have numbered : (child, i) ∈ box.contents.zipIdx := by
    rw [← children_parts]
    exact List.mem_flatMap_of_mem listed inside
  exact List.mem_zipIdx_iff_getElem?.mp numbered

/-- The lines among the parts of a box are its pairs. -/
theorem line_mem_parts_iff {box bullet label : Json} {i : Nat}
    (pair : bullet.isLine label = true) :
    .line i bullet label pair ∈ box.parts ↔ box.Paired i bullet label := by
  have column : .line i bullet label pair ∈ BoxPart.inColumn 0 box.contents ↔
      box.contents[i]? = some bullet ∧ box.contents[i + 1]? = some label ∧
        takenAt box.contents i = true := by
    rw [BoxPart.line_mem_inColumn pair]
    simp only [Nat.zero_add, exists_eq_left']
  have paired_iff : box.Paired i bullet label ↔
      box.contents[i]? = some bullet ∧ box.contents[i + 1]? = some label ∧ box.PairsAt i :=
    ⟨fun ⟨taken, here, next⟩ => ⟨here, next, taken⟩, fun ⟨here, next, taken⟩ => ⟨taken, here, next⟩⟩
  rw [paired_iff]
  unfold parts PairsAt
  split
  · exact column
  · split
    · rename_i two
      rw [column]
      constructor
      · rintro ⟨here, next, taken⟩
        obtain ⟨short, _⟩ := List.getElem?_eq_some_iff.mp next
        obtain rfl : i = 0 := by omega
        exact ⟨here, next, two, rfl, taken⟩
      · rintro ⟨here, next, _, rfl, taken⟩
        exact ⟨here, next, taken⟩
    · rename_i many
      simp only [BoxPart.line_not_mem_apart, many, false_and, and_false]
  · simp only [BoxPart.line_not_mem_apart, and_false]

end Json

namespace Content

/-- The text that a bullet and the label beside it become. -/
def ofLine (inHeader : Bool) (bullet label : Json) : Content :=
  .text
    { text := Bullet.join bullet.shownText label.shownText
      size := label.keywordField? "size"
      color := colorOfNode inHeader label
      wrap := wrapOfNode label }

/-- The contents of a part of a box, single children read by `inner`. -/
def ofPart (inHeader : Bool) (inner : Json → List Content) : BoxPart → List Content
  | .alone _ child => inner child
  | .line _ bullet label _ => [ofLine inHeader bullet label]

variable {inHeader : Bool} {inner : Json → List Content}

theorem ofPair?_eq (first second : Json) :
    ofPair? inHeader first second =
      if first.isLine second = true then some (ofLine inHeader first second) else none :=
  rfl

theorem ofColumn_eq (i : Nat) (items : List Json) :
    ofColumn inHeader inner items = (BoxPart.inColumn i items).flatMap (ofPart inHeader inner) := by
  induction i, items using BoxPart.inColumn.induct with
  | case1 => rfl
  | case2 => exact (List.append_nil _).symm
  | case3 i first second rest pair ih =>
      rw [ofColumn, ofPair?_eq, if_pos pair, ih, BoxPart.inColumn, dif_pos pair,
        List.flatMap_cons]
      rfl
  | case4 i first second rest other ih =>
      rw [ofColumn, ofPair?_eq, if_neg other, ih, BoxPart.inColumn, dif_neg other,
        List.flatMap_cons]
      rfl

theorem flatMap_apart (items : List Json) :
    (BoxPart.apart items).flatMap (ofPart inHeader inner) = items.flatMap inner := by
  have single : (fun pair : Json × Nat => inner pair.1) =
      fun pair => ofPart inHeader inner (.alone pair.2 pair.1) := rfl
  rw [BoxPart.apart, List.flatMap_map, ← single, ← List.flatMap_map, List.zipIdx_map_fst]

theorem ofRow?_of_length_ne {items : List Json} (other : items.length ≠ 2) :
    ofRow? inHeader items = none := by
  match items with
  | [] => rfl
  | [_] => rfl
  | [_, _] => exact absurd rfl other
  | _ :: _ :: _ :: _ => rfl

/-- A row of two is a line, or has both of them one after the other, as a column of two. -/
theorem ofRow?_of_length_eq {items : List Json} (two : items.length = 2) :
    (match ofRow? inHeader items with
      | some line => [line]
      | none => items.flatMap inner) = ofColumn inHeader inner items := by
  obtain ⟨first, second, rfl⟩ := List.length_eq_two.mp two
  rw [ofRow?, ofPair?_eq]
  by_cases pair : first.isLine second = true
  · simp only [if_pos pair, ofColumn, ofPair?_eq]
  · simp only [if_neg pair, ofColumn, ofPair?_eq, List.flatMap_cons, List.flatMap_nil,
      List.append_nil]

/-- A box is read part by part. -/
theorem ofBox_eq (box : Json) :
    ofBox inHeader inner box = box.parts.flatMap (ofPart inHeader inner) := by
  have row : (match ofRow? inHeader box.contents with
        | some line => [line]
        | none => box.contents.flatMap inner) =
      (if box.contents.length = 2 then BoxPart.inColumn 0 box.contents
        else BoxPart.apart box.contents).flatMap (ofPart inHeader inner) := by
    by_cases two : box.contents.length = 2
    · rw [if_pos two, ← ofColumn_eq 0 box.contents]
      exact ofRow?_of_length_eq two
    · rw [if_neg two, ofRow?_of_length_ne two, flatMap_apart]
  unfold ofBox Json.parts
  cases (box.keywordField? "layout" : Option BoxLayout) with
  | none => exact (flatMap_apart box.contents).symm
  | some layout =>
      cases layout with
      | vertical => exact ofColumn_eq 0 box.contents
      | horizontal => exact row
      | baseline => exact row

end Content

end RichMessage
