import Mathlib.Tactic.Lemma
import ProposalBoard.Proofs.BlockTime

/-!
# Checked words

Arithmetic on signed 64-bit words in which no result is wrong in silence. An operation computes with
words, as a machine does, and gives its result only if that is the exact one, so that nothing stands
for a number that no word holds. Every operation computes its exact result in this sense
(`CheckedWord.Computes`), from which a chain of operations is read as one on integers.
-/

namespace ProposalBoard.CheckedWord

open ChainClock (FitsWord signedWord? signedWord?_eq_some_iff)

variable {a b w : Int64} {n : Int} {o : Option Int64}

/-- The word computed for a number, if it is that number. -/
def checked (exact : Int) (word : Int64) : Option Int64 :=
  if word.toInt = exact then some word else none

/-- The sum. -/
def add? (a b : Int64) : Option Int64 :=
  checked (a.toInt + b.toInt) (a + b)

/-- The difference. -/
def sub? (a b : Int64) : Option Int64 :=
  checked (a.toInt - b.toInt) (a - b)

/-- The product. -/
def mul? (a b : Int64) : Option Int64 :=
  checked (a.toInt * b.toInt) (a * b)

/-- The opposite. The least word has none. -/
def neg? (a : Int64) : Option Int64 :=
  checked (-a.toInt) (-a)

/-- The quotient rounded toward zero. There is none by zero. -/
def div? (a b : Int64) : Option Int64 :=
  if b = 0 then none else checked (a.toInt.tdiv b.toInt) (a / b)

/-- The absolute value. The least word has none. -/
def abs? (a : Int64) : Option Int64 :=
  if a < 0 then neg? a else some a

/-- The word for an integer. -/
def ofInt? (n : Int) : Option Int64 :=
  checked n (.ofInt n)

/-- The signed word for an unsigned one. -/
def ofUnsigned? (n : UInt64) : Option Int64 :=
  checked n.toNat n.toInt64

/-- A computation gives the word for a number if there is one, and nothing otherwise. -/
def Computes (o : Option Int64) (n : Int) : Prop :=
  ∀ w, o = some w ↔ w.toInt = n

/-- A word that is right up to the size of words is computed exactly by checking it. -/
lemma computes_checked (hw : w = .ofInt n) : Computes (checked n w) n := by
  intro v
  unfold checked
  split
  · next heq =>
    rw [Option.some_inj]
    exact ⟨fun h => h ▸ heq, fun h => Int64.toInt_inj.mp (heq.trans h.symm)⟩
  · next hne =>
    refine iff_of_false nofun fun h => hne ?_
    rw [hw, ← h, Int64.ofInt_toInt]

/-! ## Operations -/

/-- Sums are computed exactly. -/
lemma computes_add? (a b : Int64) : Computes (add? a b) (a.toInt + b.toInt) :=
  computes_checked (by rw [Int64.ofInt_add, Int64.ofInt_toInt, Int64.ofInt_toInt])

/-- Differences are computed exactly. -/
lemma computes_sub? (a b : Int64) : Computes (sub? a b) (a.toInt - b.toInt) :=
  computes_checked (by rw [Int64.ofInt_sub, Int64.ofInt_toInt, Int64.ofInt_toInt])

/-- Products are computed exactly. -/
lemma computes_mul? (a b : Int64) : Computes (mul? a b) (a.toInt * b.toInt) :=
  computes_checked (by rw [Int64.ofInt_mul, Int64.ofInt_toInt, Int64.ofInt_toInt])

/-- Opposites are computed exactly. -/
lemma computes_neg? (a : Int64) : Computes (neg? a) (-a.toInt) :=
  computes_checked (by rw [Int64.ofInt_neg, Int64.ofInt_toInt])

/-- The words for integers are computed exactly. -/
lemma computes_ofInt? (n : Int) : Computes (ofInt? n) n :=
  computes_checked rfl

/-- The signed words for unsigned ones are computed exactly. -/
lemma computes_ofUnsigned? (n : UInt64) : Computes (ofUnsigned? n) n.toNat := by
  apply computes_checked
  rw [Int64.ofInt_eq_ofNat, ← UInt64.toInt64_ofNat', UInt64.ofNat_toNat]

/-- Quotients are computed exactly, but for those by zero. -/
lemma computes_div? (hb : b.toInt ≠ 0) : Computes (div? a b) (a.toInt.tdiv b.toInt) := by
  have hzero : b ≠ 0 := by
    rintro rfl
    exact hb Int64.toInt_zero
  unfold div?
  rw [if_neg hzero]
  apply computes_checked
  rw [Int64.ofInt_tdiv a.minValue_le_toInt a.toInt_le b.minValue_le_toInt b.toInt_le,
    Int64.ofInt_toInt, Int64.ofInt_toInt]

/-- Absolute values are computed exactly. -/
lemma computes_abs? (a : Int64) : Computes (abs? a) a.toInt.natAbs := by
  unfold abs?
  split
  · next h =>
    have hneg : a.toInt < 0 := Int64.lt_iff_toInt_lt.mp h
    rw [Int.ofNat_natAbs_of_nonpos (Int.le_of_lt hneg)]
    exact computes_neg? a
  · next h =>
    have hpos : (0 : Int64).toInt ≤ a.toInt := Int.not_lt.mp (mt Int64.lt_iff_toInt_lt.mpr h)
    intro w
    rw [Int.natAbs_of_nonneg hpos, Option.some_inj, Int64.toInt_inj, eq_comm]

/-! ## Chains of operations -/

/-- The number that a word stands for fits a word. -/
lemma fitsWord_toInt (w : Int64) : FitsWord w.toInt :=
  ⟨w.minValue_le_toInt, w.toInt_le⟩

/-- A number that fits has its word computed. -/
lemma Computes.exists (h : Computes o n) (hfits : FitsWord n) : ∃ w, o = some w ∧ w.toInt = n := by
  have hword : (Int64.ofIntLE n hfits.1 hfits.2).toInt = n := Int64.toInt_ofIntLE
  exact ⟨_, (h _).mpr hword, hword⟩

/-- Only for a number that does not fit, nothing is computed. -/
lemma Computes.not_fitsWord (h : Computes none n) : ¬FitsWord n := by
  intro hfits
  obtain ⟨w, hw, -⟩ := h.exists hfits
  cases hw

/-- To go on with a computed word is to go on with its number, if that fits. -/
lemma Computes.bind_eq {α : Type} {f : Int64 → Option α} {g : Int → Option α} (h : Computes o n)
    (hfg : ∀ w : Int64, w.toInt = n → f w = g n) : o.bind f = (signedWord? n).bind g := by
  cases o with
  | some w =>
    have hw : w.toInt = n := (h w).mp rfl
    have hfits : signedWord? n = some n := signedWord?_eq_some_iff.mpr ⟨hw ▸ fitsWord_toInt w, rfl⟩
    rw [hfits]
    exact hfg w hw
  | none =>
    have hnone : signedWord? n = none := if_neg h.not_fitsWord
    rw [hnone, Option.bind_none, Option.bind_none]

end ProposalBoard.CheckedWord
