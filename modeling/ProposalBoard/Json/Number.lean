import ProposalBoard.Json.Basic
import ProposalBoard.Text.Numeral

/-!
# Numbers in JSON

The numbers that literals denote. An integer whose digits fit an unsigned 64-bit word is exact,
except that minus zero is a double. Every other number is a double: its leading digits, as many as
fit a word, times a power of ten. Digits and product are rounded one after the other, so the
double is near the number that is written but not always the nearest.
-/

namespace ProposalBoard.Json

/-- Takes digits into a word behind those of a value as long as they fit. The digits left over are
the first one that does not fit and all behind it. -/
def takeDigits (value : Nat) : List Char → Nat × List Char
  | [] => (value, [])
  | d :: rest =>
    let next := value * 10 + Text.digitsValue [d]
    if next < UInt64.size then takeDigits next rest else (value, d :: rest)

/-- The double nearest to a power of ten. -/
def powerOfTen (exponent : Nat) : Float :=
  Float.ofScientific 1 false exponent

/-- The greatest exponent of a power of ten that is a double. -/
def greatestPower : Nat := 308

/-- The double for a word times a power of ten. It is infinite above the greatest power, even if
the product would be a double, and below the least one the division is done in two steps. -/
def scaled (word : Nat) (exponent : Int) : Float :=
  let x := Float.ofNat word
  let size := exponent.natAbs
  if word = 0 then 0
  else if 0 ≤ exponent then
    if size ≤ greatestPower then x * powerOfTen size else 1 / 0
  else if size ≤ greatestPower then x / powerOfTen size
  else if size ≤ 2 * greatestPower then
    x / powerOfTen greatestPower / powerOfTen (size - greatestPower)
  else 0

/-- The number with the given sign, digits before and behind the point, and exponent. Digits
before the point that do not fit the word count as powers of ten, and those behind it are left
out; but a word that has no room for a digit before the point may have room for one behind it. -/
def number (negative : Bool) (whole : List Char) (fraction : Option (List Char))
    (exponent : Option Int) : Json :=
  let (word, dropped) := takeDigits 0 whole
  match fraction, exponent, dropped, negative with
  | none, none, [], false => .int word
  | none, none, [], true => if word = 0 then .real (-0.0) else .int (-word)
  | _, _, _, _ =>
    let behind := fraction.getD []
    let (word, cut) := takeDigits word behind
    let places : Int := behind.length - cut.length
    let x := scaled word (dropped.length - places + exponent.getD 0)
    .real (if negative then -x else x)

end ProposalBoard.Json
