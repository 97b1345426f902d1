/-!
# Shortest decimals

The decimal with the fewest digits that reads back as a given double, and among those of that
length the one nearest to it. Everything is decided by exact integer arithmetic on the bits of the
double: a decimal reads back if it lies between the midpoints to the two neighbouring doubles.
-/

namespace ProposalBoard

/-- The number `coefficient * 10 ^ exponent`. -/
structure Decimal where
  coefficient : Nat
  exponent : Int
deriving DecidableEq, Repr

/-- The positive finite double `significand * 2 ^ exponent`. -/
structure Binary where
  significand : Nat
  exponent : Int
  /-- The double below is only half as far away as the double above. -/
  narrowBelow : Bool

/-- The magnitude with the given bits. Infinities and NaN are no such magnitude. -/
def Binary.ofBits (bits : UInt64) : Binary :=
  let field := ((bits >>> 52) &&& 0x7FF).toNat
  let fraction := (bits &&& 0xFFFFFFFFFFFFF).toNat
  if field = 0 then ⟨fraction, -1074, false⟩
  else ⟨0x10000000000000 + fraction, field - 1075, fraction = 0 ∧ 1 < field⟩

namespace Binary

/-- The factor that turns quarters of the last place into numerators over `gridDenominator`. -/
def gridFactor (b : Binary) (k : Int) : Nat :=
  Nat.pow 2 (b.exponent - 2).toNat * Nat.pow 10 (-k).toNat

/-- The common denominator of magnitudes measured in units of `10 ^ k`. -/
def gridDenominator (b : Binary) (k : Int) : Nat :=
  Nat.pow 2 (2 - b.exponent).toNat * Nat.pow 10 k.toNat

/-- Whether `n * 10 ^ k` is read as this double: it lies between the two midpoints, which
themselves belong to the double with the even significand. -/
def readsBack (b : Binary) (k : Int) (n : Nat) : Bool :=
  let below := (4 * b.significand - if b.narrowBelow then 1 else 2) * b.gridFactor k
  let above := (4 * b.significand + 2) * b.gridFactor k
  let place := n * b.gridDenominator k
  if b.significand % 2 = 0 then below ≤ place ∧ place ≤ above
  else below < place ∧ place < above

/-- The multiple of `10 ^ k` next to the double that is read as the double. Of two such
neighbours the nearer is taken, and of two equally near ones the even. -/
def onGrid? (b : Binary) (k : Int) : Option Decimal :=
  let value := 4 * b.significand * b.gridFactor k
  let unit := b.gridDenominator k
  let n := value / unit
  let upperIsBetter := 2 * value > (2 * n + 1) * unit ∨ (2 * value = (2 * n + 1) * unit ∧ n % 2 = 1)
  match b.readsBack k n, b.readsBack k (n + 1) with
  | true, true => some ⟨if upperIsBetter then n + 1 else n, k⟩
  | true, false => some ⟨n, k⟩
  | false, true => some ⟨n + 1, k⟩
  | false, false => none

/-- An exponent whose power of ten lies above the double, by the logarithm of two to five places. -/
def topExponent (b : Binary) : Int :=
  (b.significand.log2 + 1 + b.exponent) * 30103 / 100000 + 2

/-- All digits of the double. -/
def exact (b : Binary) : Decimal :=
  if 0 ≤ b.exponent then ⟨b.significand * Nat.pow 2 b.exponent.toNat, 0⟩
  else ⟨b.significand * Nat.pow 5 (-b.exponent).toNat, b.exponent⟩

/-- The shortest decimal that is read as the double: the first hit on ever finer grids. Seventeen
significant digits always suffice, so twenty-four grids below the top are enough. -/
def shortest (b : Binary) : Decimal :=
  ((List.range 24).findSome? fun (i : Nat) => b.onGrid? (b.topExponent - i)).getD b.exact

end Binary

end ProposalBoard
