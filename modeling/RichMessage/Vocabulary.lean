import RichMessage.Keyword

set_option autoImplicit false

namespace RichMessage

inductive FontSize where
  | xxs | xs | sm | md | lg | xl | xxl | xl3 | xl4 | xl5
  deriving Repr, DecidableEq

namespace FontSize

instance : Inhabited FontSize := ⟨.md⟩

instance : Keyword FontSize where
  all := [.xxs, .xs, .sm, .md, .lg, .xl, .xxl, .xl3, .xl4, .xl5]
  spelling
    | .xxs => "xxs"
    | .xs => "xs"
    | .sm => "sm"
    | .md => "md"
    | .lg => "lg"
    | .xl => "xl"
    | .xxl => "xxl"
    | .xl3 => "3xl"
    | .xl4 => "4xl"
    | .xl5 => "5xl"
  all_complete a := by cases a <;> decide
  spelling_injective a b := by cases a <;> cases b <;> decide

/-- Sizes that make a bold text a heading. -/
def isLarge : FontSize → Bool
  | .xl | .xxl | .xl3 | .xl4 | .xl5 => true
  | _ => false

end FontSize

inductive ButtonStyle where
  | primary | secondary | link
  deriving Repr, DecidableEq

instance : Inhabited ButtonStyle := ⟨.primary⟩

instance : Keyword ButtonStyle where
  all := [.primary, .secondary, .link]
  spelling
    | .primary => "primary"
    | .secondary => "secondary"
    | .link => "link"
  all_complete a := by cases a <;> decide
  spelling_injective a b := by cases a <;> cases b <;> decide

inductive BubbleSize where
  | nano | micro | deca | hecto | kilo | mega | giga
  deriving Repr, DecidableEq

instance : Inhabited BubbleSize := ⟨.mega⟩

instance : Keyword BubbleSize where
  all := [.nano, .micro, .deca, .hecto, .kilo, .mega, .giga]
  spelling
    | .nano => "nano"
    | .micro => "micro"
    | .deca => "deca"
    | .hecto => "hecto"
    | .kilo => "kilo"
    | .mega => "mega"
    | .giga => "giga"
  all_complete a := by cases a <;> decide
  spelling_injective a b := by cases a <;> cases b <;> decide

inductive AspectRatio where
  | square | wide151 | wide191 | fourThree | sixteenNine | twentyThirteen | twoOne | threeOne
  | threeFour | nineSixteen | oneTwo | oneThree
  deriving Repr, DecidableEq

instance : Inhabited AspectRatio := ⟨.twentyThirteen⟩

instance : Keyword AspectRatio where
  all := [.square, .wide151, .wide191, .fourThree, .sixteenNine, .twentyThirteen, .twoOne,
    .threeOne, .threeFour, .nineSixteen, .oneTwo, .oneThree]
  spelling
    | .square => "1:1"
    | .wide151 => "1.51:1"
    | .wide191 => "1.91:1"
    | .fourThree => "4:3"
    | .sixteenNine => "16:9"
    | .twentyThirteen => "20:13"
    | .twoOne => "2:1"
    | .threeOne => "3:1"
    | .threeFour => "3:4"
    | .nineSixteen => "9:16"
    | .oneTwo => "1:2"
    | .oneThree => "1:3"
  all_complete a := by cases a <;> decide
  spelling_injective a b := by cases a <;> cases b <;> decide

/-- The direction in which a box lays out its parts. -/
inductive BoxLayout where
  | vertical | horizontal | baseline
  deriving Repr, DecidableEq

namespace BoxLayout

instance : Inhabited BoxLayout := ⟨.vertical⟩

instance : Keyword BoxLayout where
  all := [.vertical, .horizontal, .baseline]
  spelling
    | .vertical => "vertical"
    | .horizontal => "horizontal"
    | .baseline => "baseline"
  all_complete a := by cases a <;> decide
  spelling_injective a b := by cases a <;> cases b <;> decide

/-- Layouts that put their parts on one line. -/
def isInline : BoxLayout → Bool
  | .horizontal | .baseline => true
  | .vertical => false

end BoxLayout

inductive BlockKind where
  | title | text | image | button | separator
  deriving Repr, DecidableEq

namespace BlockKind

instance : Keyword BlockKind where
  all := [.title, .text, .image, .button, .separator]
  spelling
    | .title => "title"
    | .text => "text"
    | .image => "image"
    | .button => "button"
    | .separator => "separator"
  all_complete a := by cases a <;> decide
  spelling_injective a b := by cases a <;> cases b <;> decide

/-- The name of a kind in messages to the user. -/
def label : BlockKind → String
  | .title => "Title"
  | .text => "Text"
  | .image => "Image"
  | .button => "Button"
  | .separator => "Separator"

end BlockKind

end RichMessage
