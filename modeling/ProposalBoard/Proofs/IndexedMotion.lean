import Mathlib.Tactic.SplitIfs
import ProposalBoard.Motion.Indexed
import ProposalBoard.Proofs.Correlation
import ProposalBoard.Proofs.Numeral

/-!
# Motions from the index

All numbers of an entry of the index are texts, and a text that stands for no number of the size of
a word is taken in two ways: as zero where something is counted, and as no id at all where the
primary proposal is named. The main statement `toMotion_converts` says what becomes of the two: an
entry is correlated with the proposal that its text stands for and with no other, an entry with an
unreadable id is passed over by proposals and by the threshold, and all counts and blocks are the
numbers of their texts or zero. The status of a motion that comes from the index has the final
flags in it already.
-/

namespace ProposalBoard

/-- A motion about no proposal does not tell from which proposal on the federation votes. -/
lemma Config.threshold?_insert_of_eq_none {config : Config} {ms ns : List Motion} {m : Motion}
    (hm : m.externalId = none) :
    config.threshold? (ms ++ m :: ns) = config.threshold? (ms ++ ns) := by
  have hfilter : (ms ++ m :: ns).filter (·.externalId.isSome) =
      (ms ++ ns).filter (·.externalId.isSome) := by
    rw [List.filter_append, List.filter_append, List.filter_cons_of_neg (by simp [hm])]
  unfold threshold?
  rw [hfilter]

namespace IndexedMotion

variable {e : IndexedMotion} {text : String} {w : UInt64} {status : Motion.Status}

/-! ## Numbers -/

/-- A text stands for no number that fits a word. -/
def Unreadable (text : String) : Prop :=
  ∀ w : UInt64, ¬Text.Numeral text.toList w.toNat

/-- A text counts as the number that it stands for, or else as zero. -/
inductive CountsAs (text : String) : UInt64 → Prop where
  | numeral {w : UInt64} :
    Text.Numeral text.toList w.toNat →
    CountsAs text w
  | unreadable :
    Unreadable text →
    CountsAs text 0

/-- A text is read as the number that it stands for. -/
lemma number?_eq_some_iff : number? text = some w ↔ Text.Numeral text.toList w.toNat :=
  Text.readWord?_trim_eq_some_iff

/-- Nothing is read from a text that stands for no number. -/
lemma number?_eq_none_iff : number? text = none ↔ Unreadable text := by
  rw [Option.eq_none_iff_forall_ne_some]
  exact forall_congr' fun w => not_congr number?_eq_some_iff

/-- Every text counts as its number or as zero. -/
lemma countsAs_count (text : String) : CountsAs text (count text) := by
  unfold count
  cases h : number? text with
  | some w => exact .numeral (number?_eq_some_iff.mp h)
  | none => exact .unreadable (number?_eq_none_iff.mp h)

/-! ## Status -/

/-- Where an entry stands by its two flags and the name of its status. -/
def StandsAs (e : IndexedMotion) : Motion.Status → Prop
  | .vetoed => e.vetoed = true
  | .executed => e.vetoed = false ∧ e.executed = true
  | .expired => e.vetoed = false ∧ e.executed = false ∧ e.status = "EXPIRED"
  | .active => e.vetoed = false ∧ e.executed = false ∧ e.status = "ACTIVE"
  | .undetermined =>
    e.vetoed = false ∧ e.executed = false ∧ e.status ≠ "EXPIRED" ∧ e.status ≠ "ACTIVE"

/-- The status of an entry is the one that its flags and the name of its status tell. -/
lemma motionStatus_eq_iff : e.motionStatus = status ↔ e.StandsAs status := by
  unfold motionStatus
  cases hv : e.vetoed <;> cases he : e.executed <;> cases status <;>
    simp only [StandsAs, hv, he] <;> grind

/-- Looking at the flags once more changes nothing. -/
lemma effectiveStatus_toMotion (e : IndexedMotion) :
    e.toMotion.effectiveStatus = e.toMotion.status := by
  show (if e.vetoed = true then _ else if e.executed = true then _ else e.motionStatus) = _
  unfold toMotion motionStatus
  split_ifs <;> rfl

/-! ## Entries -/

/-- A motion is what an entry of the index describes. -/
structure Converts (e : IndexedMotion) (m : Motion) : Prop where
  /-- Only the proposal that the entry names by its id has the motion. -/
  isSome_motion?_iff : ∀ p : Proposal,
    (p.motion? [m]).isSome = true ↔ Text.Numeral e.externalId.toList p.id.toNat
  /-- An entry that names no proposal is passed over, wherever it stands among motions. -/
  motion?_eq : Unreadable e.externalId → ∀ (p : Proposal) (ms ns : List Motion),
    p.motion? (ms ++ m :: ns) = p.motion? (ms ++ ns)
  threshold?_eq : Unreadable e.externalId → ∀ (config : Config) (ms ns : List Motion),
    config.threshold? (ms ++ m :: ns) = config.threshold? (ms ++ ns)
  id : CountsAs e.id m.id
  quorumVotes : CountsAs e.quorumVotes m.quorumVotes
  startBlock : CountsAs e.startBlock m.startBlock
  endBlock : CountsAs e.endBlock m.endBlock
  forCount : CountsAs e.forVotes m.forCount
  againstCount : CountsAs e.againstVotes m.againstCount
  abstainCount : CountsAs e.abstainVotes m.abstainCount
  effectiveStatus_eq : m.effectiveStatus = m.status
  effectiveStatus_iff : ∀ status, m.effectiveStatus = status ↔ e.StandsAs status

/-- An entry that names no readable id is about no proposal. -/
lemma externalId_toMotion_of_unreadable (h : Unreadable e.externalId) :
    e.toMotion.externalId = none :=
  number?_eq_none_iff.mpr h

/-- Every entry of the index is converted into what it describes. -/
theorem toMotion_converts (e : IndexedMotion) : e.Converts e.toMotion where
  isSome_motion?_iff p := by
    rw [Proposal.motion?, List.find?_singleton, ← number?_eq_some_iff]
    simp [toMotion]
  motion?_eq h p ms ns := by
    apply Proposal.motion?_insert
    rw [externalId_toMotion_of_unreadable h]
    nofun
  threshold?_eq h _ _ _ :=
    Config.threshold?_insert_of_eq_none (externalId_toMotion_of_unreadable h)
  id := countsAs_count _
  quorumVotes := countsAs_count _
  startBlock := countsAs_count _
  endBlock := countsAs_count _
  forCount := countsAs_count _
  againstCount := countsAs_count _
  abstainCount := countsAs_count _
  effectiveStatus_eq := effectiveStatus_toMotion e
  effectiveStatus_iff status := by
    rw [effectiveStatus_toMotion]
    exact motionStatus_eq_iff

/-- One plus sign and zeros in front are read over, and a number past the greatest word is none. -/
example : number? " +007" = some 7 ∧ number? "++7" = none ∧
    number? "18446744073709551615" = some 18446744073709551615 ∧
    number? "18446744073709551616" = none := by
  decide

end IndexedMotion

end ProposalBoard
