import Mathlib.Data.List.Nodup
import Mathlib.Data.List.TakeWhile
import RichMessage.Text.Bullet

set_option autoImplicit false

namespace RichMessage.Bullet

theorem trimmed_of_mem_glyphs {glyph : String} (listed : glyph ∈ glyphs) :
    trimmed glyph = glyph := by
  have each : ∀ other ∈ glyphs, trimmed other = other := by decide +kernel
  exact each glyph listed

theorem isBullet_of_mem_glyphs {glyph : String} (listed : glyph ∈ glyphs) :
    isBullet glyph = true := by
  rw [isBullet, trimmed_of_mem_glyphs listed]
  exact List.contains_iff_mem.mpr listed

/-- What follows a glyph is a label, and the text is the glyph, one space and that label. -/
theorem labelAfter?_eq_some_iff {glyph text label : String} :
    labelAfter? glyph text = some label ↔
      isLabel label = true ∧ text = glyph ++ " " ++ label := by
  have spelled : text = glyph ++ " " ++ label ↔
      (glyph.toList ++ [' ']) ++ label.toList = text.toList := by
    rw [← String.toList_inj, String.toList_append, String.toList_append, eq_comm]
    rfl
  simp only [labelAfter?, Option.bind_eq_some_iff, List.isPrefixOf?_eq_some_iff_append_eq, spelled]
  constructor
  · rintro ⟨rest, parts, found⟩
    split at found
    · rename_i shown
      cases found
      exact ⟨shown, by rw [String.toList_ofList]; exact parts⟩
    · cases found
  · rintro ⟨shown, parts⟩
    exact ⟨label.toList, parts, by rw [String.ofList_toList, if_pos shown]⟩

/-- No two glyphs have one first character, so a text starts with at most one of them. -/
theorem glyph_unique {text : List Char} {first second : String} (listed : first ∈ glyphs)
    (otherListed : second ∈ glyphs) (starts : first.toList <+: text)
    (otherStarts : second.toList <+: text) : first = second := by
  have apart : (glyphs.map fun glyph => glyph.toList.head?).Nodup := by decide
  have nonempty : ∀ glyph ∈ glyphs, glyph.toList ≠ [] := by decide
  have head {glyph : String} (listed : glyph ∈ glyphs) (starts : glyph.toList <+: text) :
      glyph.toList.head? = text.head? := by
    obtain ⟨rest, rfl⟩ := starts
    rw [List.head?_append_of_ne_nil _ (nonempty glyph listed)]
  exact List.inj_on_of_nodup_map apart listed otherListed
    ((head listed starts).trans (head otherListed otherStarts).symm)

theorem prefix_of_labelAfter? {glyph text label : String}
    (after : labelAfter? glyph text = some label) : glyph.toList <+: text.toList := by
  rw [(labelAfter?_eq_some_iff.mp after).2, String.toList_append, String.toList_append,
    List.append_assoc]
  exact List.prefix_append _ _

/-- The bullet and the label of a line by another table of glyphs, tried from its front. -/
def splitBy (table : List String) (text : String) : Option (String × String) :=
  table.findSome? fun glyph => (labelAfter? glyph text).map fun label => (glyph, label)

theorem labelAfter?_of_splitBy {table : List String} {text glyph label : String}
    (parts : splitBy table text = some (glyph, label)) :
    glyph ∈ table ∧ labelAfter? glyph text = some label := by
  obtain ⟨other, listed, found⟩ := List.exists_of_findSome?_eq_some parts
  obtain ⟨rest, after, same⟩ := Option.map_eq_some_iff.mp found
  cases same
  exact ⟨listed, after⟩

/-- Which of its glyphs a table tries first does not matter: only one of them can fit. -/
theorem splitBy_eq_some_iff {table : List String} (known : ∀ glyph ∈ table, glyph ∈ glyphs)
    {text glyph label : String} :
    splitBy table text = some (glyph, label) ↔
      glyph ∈ table ∧ isLabel label = true ∧ text = glyph ++ " " ++ label := by
  constructor
  · intro parts
    obtain ⟨listed, after⟩ := labelAfter?_of_splitBy parts
    exact ⟨listed, labelAfter?_eq_some_iff.mp after⟩
  · rintro ⟨listed, fits⟩
    have after := labelAfter?_eq_some_iff.mpr fits
    have splits : (splitBy table text).isSome = true := by
      refine List.findSome?_isSome_iff.mpr ⟨glyph, listed, ?_⟩
      rw [after]
      rfl
    obtain ⟨⟨other, rest⟩, parts⟩ := Option.isSome_iff_exists.mp splits
    obtain ⟨otherListed, otherAfter⟩ := labelAfter?_of_splitBy parts
    have same : other = glyph :=
      glyph_unique (known other otherListed) (known glyph listed)
        (prefix_of_labelAfter? otherAfter) (prefix_of_labelAfter? after)
    subst same
    rw [parts, ← Option.some.inj (otherAfter.symm.trans after)]

/-- A line splits into a glyph and a label in exactly the way in which it is put together. -/
theorem split_eq_some_iff {text glyph label : String} :
    split text = some (glyph, label) ↔
      glyph ∈ glyphs ∧ isLabel label = true ∧ text = glyph ++ " " ++ label :=
  splitBy_eq_some_iff fun _ listed => listed

/-- The parts of a line that splits are a bullet and a label. -/
theorem split_eq_some {text glyph label : String} (parts : split text = some (glyph, label)) :
    glyph ∈ glyphs ∧ isLabel label = true ∧ text = glyph ++ " " ++ label :=
  split_eq_some_iff.mp parts

theorem splitBy_of_perm {table : List String} (perm : table.Perm glyphs) (text : String) :
    splitBy table text = split text := by
  apply Option.ext
  rintro ⟨glyph, label⟩
  rw [splitBy_eq_some_iff fun other listed => perm.mem_iff.mp listed, split_eq_some_iff,
    perm.mem_iff]

/-- Joining takes back what splitting has done. -/
theorem join_of_split {text glyph label : String} (parts : split text = some (glyph, label)) :
    join glyph label = text := by
  obtain ⟨listed, -, spelled⟩ := split_eq_some parts
  rw [join, trimmed_of_mem_glyphs listed, spelled]

/-- Splitting takes back what joining has done, but for the white space around the bullet. -/
theorem split_join {bullet label : String} (marked : isBullet bullet = true)
    (shown : isLabel label = true) : split (join bullet label) = some (trimmed bullet, label) := by
  have listed : trimmed bullet ∈ glyphs := List.contains_iff_mem.mp marked
  exact split_eq_some_iff.mpr ⟨listed, shown, rfl⟩

/-- Trimming keeps what stands between two characters that show something. -/
theorem mem_trim_between {front back : List Char} {first last c : Char}
    (starts : Blank.isBlank first = false) (shown : last ∈ back)
    (ends : Blank.isBlank last = false) : c ∈ Blank.trim (first :: front ++ c :: back) := by
  have left : (first :: front ++ c :: back).dropWhile Blank.isBlank =
      first :: front ++ c :: back := by
    rw [List.cons_append, List.dropWhile_cons, starts, if_neg Bool.false_ne_true]
  have right : (back.reverse.dropWhile Blank.isBlank).isEmpty = false := by
    rw [List.isEmpty_eq_false_iff, Ne, List.dropWhile_eq_nil_iff]
    intro blank
    have hidden := blank last (List.mem_reverse.mpr shown)
    rw [ends] at hidden
    cases hidden
  rw [Blank.trim, left, List.reverse_append, List.reverse_cons, List.append_assoc,
    List.dropWhile_append, right, if_neg Bool.false_ne_true]
  simp

/-- A line that splits is more than a bullet: the space inside of it is not trimmed away. -/
theorem isBullet_of_split {text glyph label : String} (parts : split text = some (glyph, label)) :
    isBullet text = false := by
  have marks : ∀ other ∈ glyphs, ' ' ∉ other.toList ∧
      (other.toList.head?.any fun first => !Blank.isBlank first) = true := by decide +kernel
  obtain ⟨listed, shown, rfl⟩ := split_eq_some parts
  obtain ⟨first, head, visible⟩ := (Option.any_eq_true _ _).mp (marks glyph listed).2
  have starts : Blank.isBlank first = false := by simpa using visible
  obtain ⟨front, spelled⟩ : ∃ front, glyph.toList = first :: front :=
    List.head?_eq_some_iff.mp head
  obtain ⟨last, inside, ends⟩ : ∃ last ∈ label.toList, Blank.isBlank last = false := by
    simpa [isLabel, Blank.isBlankText] using shown
  have whole : (glyph ++ " " ++ label).toList = first :: front ++ ' ' :: label.toList := by
    rw [String.toList_append, String.toList_append, spelled]
    exact List.append_cons _ _ _ |>.symm
  have space : ' ' ∈ (trimmed (glyph ++ " " ++ label)).toList := by
    rw [trimmed, String.toList_ofList, whole]
    exact mem_trim_between starts inside ends
  cases bullet : isBullet (glyph ++ " " ++ label) with
  | false => rfl
  | true =>
      have listed : trimmed (glyph ++ " " ++ label) ∈ glyphs := List.contains_iff_mem.mp bullet
      exact absurd space (marks _ listed).1

theorem split_of_isBullet {text : String} (bullet : isBullet text = true) : split text = none := by
  cases parts : split text with
  | none => rfl
  | some found =>
      obtain ⟨glyph, label⟩ := found
      have line := isBullet_of_split parts
      rw [bullet] at line
      cases line

/-- A line is put together from the parts into which it splits, and these are a bullet and a label;
a bullet and a label that are joined are found again, the bullet without the white space around it
and the label as it is. A text starts with at most one of the glyphs, so it does not matter in which
order they are tried, and a bullet alone does not split. -/
theorem splitting_and_joining_are_inverse :
    (∀ text glyph label, split text = some (glyph, label) →
      join glyph label = text ∧ isLabel label = true ∧ isBullet glyph = true) ∧
    (∀ bullet label, isBullet bullet = true → isLabel label = true →
      split (join bullet label) = some (trimmed bullet, label)) ∧
    (∀ text : String, ∀ first ∈ glyphs, ∀ second ∈ glyphs, first.toList <+: text.toList →
      second.toList <+: text.toList → first = second) ∧
    (∀ table, table.Perm glyphs → ∀ text, splitBy table text = split text) ∧
    (∀ text, isBullet text = true → split text = none) := by
  refine ⟨?_, fun _ _ marked shown => split_join marked shown, ?_,
    fun _ perm text => splitBy_of_perm perm text, fun _ bullet => split_of_isBullet bullet⟩
  · intro text glyph label parts
    obtain ⟨listed, shown, _⟩ := split_eq_some parts
    exact ⟨join_of_split parts, shown, isBullet_of_mem_glyphs listed⟩
  · intro text first listed second otherListed
    exact glyph_unique listed otherListed

/-- A label that starts with a space and a glyph stays whole, also behind the glyph of two
characters. -/
theorem label_with_glyph_stays_whole :
    isBullet " ⚫︎\t" = true ∧ isLabel " ● both" = true ∧
      split (join " ⚫︎\t" " ● both") = some ("⚫︎", " ● both") ∧
      split "⚫︎  ● both" = some ("⚫︎", " ● both") ∧
      join "⚫︎" " ● both" = "⚫︎  ● both" ∧
      glyphs.reverse.Perm glyphs ∧
      splitBy glyphs.reverse "⚫︎  ● both" = some ("⚫︎", " ● both") ∧ split " ⚫︎\t" = none := by
  obtain ⟨splits, joins, _, order, alone⟩ := splitting_and_joining_are_inverse
  have marked : isBullet " ⚫︎\t" = true := rfl
  have shown : isLabel " ● both" = true := rfl
  have line : join " ⚫︎\t" " ● both" = "⚫︎  ● both" := rfl
  have bullet : trimmed " ⚫︎\t" = "⚫︎" := rfl
  have found := joins " ⚫︎\t" " ● both" marked shown
  rw [bullet] at found
  have whole : split "⚫︎  ● both" = some ("⚫︎", " ● both") := line ▸ found
  have perm : glyphs.reverse.Perm glyphs := List.reverse_perm glyphs
  exact ⟨marked, shown, found, whole, (splits _ _ _ whole).1, perm, (order _ perm _).trans whole,
    alone _ marked⟩

end RichMessage.Bullet
