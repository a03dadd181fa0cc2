import RichMessage.Text.Blank

set_option autoImplicit false

namespace RichMessage.Bullet

/-- The bullets. The black circle carries its variation selector, so it has two characters. -/
def glyphs : List String :=
  ["●", "・", "▶", "★", "◆", "■", "□", "◇", "▷", "►", "☆", "✓", "✔", "⚫︎", "○", "◎", "▪",
    "▸", "•"]

def trimmed (text : String) : String :=
  String.ofList (Blank.trim text.toList)

/-- Whether a text is a bullet, perhaps with white space around it. -/
def isBullet (text : String) : Bool :=
  glyphs.contains (trimmed text)

/-- Whether a text has something to show beside a bullet. -/
def isLabel (text : String) : Bool :=
  !Blank.isBlankText text.toList

def join (bullet label : String) : String :=
  trimmed bullet ++ " " ++ label

/-- What follows a glyph and one space, if that is a label. -/
def labelAfter? (glyph text : String) : Option String :=
  ((glyph.toList ++ [' ']).isPrefixOf? text.toList).bind fun rest =>
    let label := String.ofList rest
    if isLabel label then some label else none

def split (text : String) : Option (String × String) :=
  glyphs.findSome? fun glyph => (labelAfter? glyph text).map fun label => (glyph, label)

end RichMessage.Bullet
