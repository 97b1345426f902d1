import ProposalBoard.Decimal.Shortest
import ProposalBoard.Text.Numeral

/-!
# Decimal layout

How a decimal is written: with a plain point while its leading digit is neither too large nor too
small, and with an exponent otherwise.
-/

namespace ProposalBoard.Decimal

/-- The exponents of the leading digit that are written with a plain point. -/
structure Layout where
  plainFrom : Int
  plainTo : Int

/-- A decimal with a plain point, which has a digit on either side. -/
def plain (d : Decimal) : List Char :=
  let ds := Text.digits d.coefficient
  let before := ds.length + d.exponent
  if 0 ≤ d.exponent then ds ++ List.replicate d.exponent.toNat '0' ++ ['.', '0']
  else if 0 < before then ds.take before.toNat ++ '.' :: ds.drop before.toNat
  else '0' :: '.' :: List.replicate (-before).toNat '0' ++ ds

/-- A decimal with one digit before the point and a signed exponent behind. A point without
digits after it is left out. -/
def scientific (d : Decimal) : List Char :=
  let ds := Text.digits d.coefficient
  let e := ds.length - 1 + d.exponent
  let fraction := if ds.length = 1 then [] else '.' :: ds.drop 1
  ds.take 1 ++ fraction ++ 'e' :: (if e < 0 then '-' else '+') :: Text.digits e.natAbs

namespace Layout

/-- A decimal in the given layout. -/
def write (layout : Layout) (d : Decimal) : List Char :=
  let leading := (Text.digits d.coefficient).length - 1 + d.exponent
  if layout.plainFrom ≤ leading ∧ leading ≤ layout.plainTo then d.plain else d.scientific

/-- A finite double in the given layout, with the fewest digits that are read as the double. -/
def writeFloat (layout : Layout) (x : Float) : List Char :=
  let bits := x.toBits
  let sign := if bits >>> 63 = 1 then ['-'] else []
  let magnitude := bits &&& 0x7FFFFFFFFFFFFFFF
  sign ++ layout.write (if magnitude = 0 then ⟨0, 0⟩ else (Binary.ofBits magnitude).shortest)

end Layout

end ProposalBoard.Decimal
