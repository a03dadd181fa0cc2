set_option autoImplicit false

namespace RichMessage

/-- A source of identifiers: drawing one gives the source for the next. -/
class IdSource (σ : Type) where
  draw : σ → String × σ

/-- The identifiers `seed-1`, `seed-2`, and so on. The count is a 32-bit word. -/
structure Sequence where
  seed : String
  drawn : UInt32 := 0
  deriving Repr, DecidableEq

namespace Sequence

def ident (seed : String) (count : UInt32) : String :=
  seed ++ "-" ++ count.toNat.repr

instance : IdSource Sequence where
  draw source := (ident source.seed (source.drawn + 1), { source with drawn := source.drawn + 1 })

end Sequence

end RichMessage
