import Mathlib.Data.List.Chain
import ProposalBoard.Proofs.Defaults
import ProposalBoard.Proofs.Resolution

/-!
# The course of a motion

While a motion runs its course, blocks are added to the chain, votes in favour come in, the motion
is executed or vetoed, and the primary vote opens, in any order and any number of times. The
statuses shown on the way are ranked by stages (`DisplayStatus.stage?`). The main statement
`stages_ascend` says that no such course falls back to an earlier stage: what is ready to execute
is not voted on again, what has expired does not reopen, and a veto stands.

The stage of a moment depends on the flags of the motion, its phase and its quorum alone
(`Course.stage`). Each step keeps it or raises it, since later blocks are in later phases and votes
in favour are never taken back.
-/

namespace ProposalBoard

/-- The stage that a status stands for, if it is one of those shown in the course of a motion. -/
def DisplayStatus.stage? : DisplayStatus → Option Nat
  | metagovActive => some 0
  | metagovAwaitingExecution => some 1
  | metagovExpired => some 2
  | pending | metagovClosed => some 3
  | metagovVetoed => some 4
  | _ => none

/-- A moment in the course of a motion on a proposal. -/
structure Course where
  block : UInt64
  proposal : Proposal
  motion : Motion

namespace Course
open DisplayStatus

/-- What happens from one moment to the next. -/
inductive Step : Course → Course → Prop where
  | advance {c : Course} {block : UInt64} :
    c.block < block →
    Step c { c with block := block }
  | gain {c : Course} {forCount : UInt64} :
    c.motion.forCount < forCount →
    Step c { c with motion := { c.motion with forCount := forCount } }
  | execute {c : Course} :
    Step c { c with motion := { c.motion with executed := true } }
  | veto {c : Course} :
    Step c { c with motion := { c.motion with vetoed := true } }
  | activate {c : Course} :
    c.proposal.status = .pending →
    Step c { c with proposal := { c.proposal with status := .active } }

/-- The chain has been read, the primary vote has not closed, and the motion is active on
record. -/
structure Underway (c : Course) : Prop where
  loaded : 1 ≤ c.block.toNat
  isOpen : c.proposal.IsOpen
  active : c.motion.status = .active

/-- The status shown at a moment. -/
def shown (c : Course) (poll : Option Poll) (config : Config) : DisplayStatus :=
  .resolve c.proposal c.block poll (some c.motion) config

/-- The stage of a motion without a final flag. -/
def phaseStage (quorumMet : Bool) : Motion.Phase → Nat
  | .notStarted | .voting => 0
  | .executionWindow => if quorumMet then 1 else 0
  | .ended => 2

/-- The stage of a moment. -/
def stage (c : Course) (config : Config) : Nat :=
  if c.motion.vetoed then 4
  else if c.motion.executed then 3
  else phaseStage c.motion.quorumMet ((c.motion.window config).phase c.block)

variable {c d : Course} {poll : Option Poll} {config : Config}

/-- The status of each phase is of the stage of the phase. -/
lemma stage?_ofPhase (quorumMet : Bool) (phase : Motion.Phase) :
    (DisplayStatus.ofPhase quorumMet phase).stage? = some (phaseStage quorumMet phase) := by
  cases phase <;> cases quorumMet <;> rfl

/-- No phase is of a later stage than the end. -/
lemma phaseStage_le (quorumMet : Bool) (phase : Motion.Phase) : phaseStage quorumMet phase ≤ 2 := by
  cases phase <;> cases quorumMet <;> decide

/-- A later phase and a quorum are no earlier stage. -/
lemma phaseStage_mono {q r : Bool} {a b : Motion.Phase} (hquorum : q = true → r = true)
    (hrank : a.rank ≤ b.rank) : phaseStage q a ≤ phaseStage r b := by
  cases a <;> cases b <;> cases q <;> cases r <;>
    simp_all [phaseStage, Motion.Phase.rank]

/-- A motion underway is shown with a status of its stage. -/
lemma Underway.stage?_shown (h : c.Underway) :
    (c.shown poll config).stage? = some (c.stage config) := by
  obtain ⟨hloaded, hopen, hactive⟩ := h
  unfold shown stage
  rw [resolve_some]
  cases hvetoed : c.motion.vetoed with
  | true =>
    rw [ofMotion_eq_metagovVetoed_iff.mpr ⟨hopen, .inl hvetoed⟩]
    rfl
  | false =>
    cases hexecuted : c.motion.executed with
    | true =>
      have hmotion : c.motion.Effectively .executed := ⟨hvetoed, .inl hexecuted⟩
      -- the primary vote is waited for, so a pending proposal is shown as it is
      rcases hopen with hpending | hprimary
      · have hshown : ofMotion c.proposal.status c.block c.motion config = .pending :=
          (ofMotion_eq_primary_iff rfl).mpr ⟨hpending, .inr (.inl ⟨hmotion, nofun⟩)⟩
        rw [hshown]
        rfl
      · rw [ofMotion_eq_metagovClosed_iff.mpr ⟨hprimary, hmotion⟩]
        rfl
    | false =>
      have hblock : c.block ≠ 0 := by
        rw [ne_eq, block_eq_zero_iff]
        omega
      have hshown : ofMotion c.proposal.status c.block c.motion config =
          ofPhase c.motion.quorumMet ((c.motion.window config).phase c.block) :=
        (ofMotion_eq_metagov_iff (primary?_ofPhase _ _)).mpr
          (.inl ⟨⟨hvetoed, hexecuted, hactive⟩, hblock, hopen, rfl⟩)
      rw [hshown]
      exact stage?_ofPhase _ _

/-- No step stops a motion that is underway. -/
lemma Step.underway (hstep : Step c d) (h : c.Underway) : d.Underway := by
  obtain ⟨hloaded, hopen, hactive⟩ := h
  cases hstep with
  | @advance block hlt =>
    rw [UInt64.lt_iff_toNat_lt] at hlt
    exact ⟨by show 1 ≤ block.toNat; omega, hopen, hactive⟩
  | gain _ => exact ⟨hloaded, hopen, hactive⟩
  | execute => exact ⟨hloaded, hopen, hactive⟩
  | veto => exact ⟨hloaded, hopen, hactive⟩
  | activate _ => exact ⟨hloaded, .inr rfl, hactive⟩

/-- A moment with no flag taken back and no earlier phase is of no earlier stage. -/
lemma stage_mono (hvetoed : c.motion.vetoed = true → d.motion.vetoed = true)
    (hexecuted : c.motion.executed = true → d.motion.executed = true)
    (hphase : phaseStage c.motion.quorumMet ((c.motion.window config).phase c.block) ≤
      phaseStage d.motion.quorumMet ((d.motion.window config).phase d.block)) :
    c.stage config ≤ d.stage config := by
  have hle := phaseStage_le c.motion.quorumMet ((c.motion.window config).phase c.block)
  unfold stage
  by_cases hcv : c.motion.vetoed = true
  · rw [if_pos hcv, if_pos (hvetoed hcv)]
  · rw [if_neg hcv]
    by_cases hce : c.motion.executed = true
    · rw [if_pos hce, if_pos (hexecuted hce)]
      split <;> omega
    · -- neither flag yet: the flags of the later moment can only raise its stage
      rw [if_neg hce]
      split_ifs <;> omega

/-- No step leads back to an earlier stage. -/
lemma Step.stage_le (hstep : Step c d) : c.stage config ≤ d.stage config := by
  cases hstep with
  | @advance block hlt =>
    have hle : c.block ≤ block := by
      rw [UInt64.le_iff_toNat_le]
      exact Nat.le_of_lt (UInt64.lt_iff_toNat_lt.mp hlt)
    exact stage_mono id id (phaseStage_mono id (Motion.phase_rank_mono hle))
  | @gain forCount hlt =>
    have hquorum : c.motion.quorumMet = true →
        { c.motion with forCount := forCount }.quorumMet = true := by
      rw [Motion.quorumMet_iff, Motion.quorumMet_iff]
      rw [UInt64.lt_iff_toNat_lt] at hlt
      intro h
      show c.motion.quorumVotes.toNat ≤ forCount.toNat
      omega
    exact stage_mono id id (phaseStage_mono hquorum (Nat.le_refl _))
  | execute => exact stage_mono id (fun _ => rfl) (Nat.le_refl _)
  | veto => exact stage_mono (fun _ => rfl) id (Nat.le_refl _)
  | activate _ => exact Nat.le_refl _

/-! ## Whole courses -/

/-- A motion that is underway stays so all along its course. -/
lemma underway_of_mem {run : List Course} (hc : c.Underway)
    (hrun : List.IsChain Step (c :: run)) : ∀ d ∈ c :: run, d.Underway := by
  induction run generalizing c with
  | nil => simpa using hc
  | cons e run ih =>
    obtain ⟨hstep, hrest⟩ := List.isChain_cons_cons.mp hrun
    intro d hd
    rcases List.mem_cons.mp hd with rfl | hd
    · exact hc
    · exact ih (hstep.underway hc) hrest d hd

/-- The stages along a course never go down. -/
lemma pairwise_stage {run : List Course} (hrun : List.IsChain Step run) :
    (run.map (stage · config)).Pairwise (· ≤ ·) := by
  rw [← List.isChain_iff_pairwise, List.isChain_map]
  exact hrun.imp fun _ _ hstep => hstep.stage_le

/-- Along a course that starts with a motion underway, every status shown is of a stage, and the
stages never go down. -/
theorem stages_ascend (poll : Option Poll) (config : Config) {start : Course} {run : List Course}
    (hstart : start.Underway) (hrun : List.IsChain Step (start :: run)) :
    ∃ stages : List Nat,
      ((start :: run).map fun c => (c.shown poll config).stage?) = stages.map some ∧
        stages.Pairwise (· ≤ ·) := by
  refine ⟨(start :: run).map (stage · config), ?_, pairwise_stage hrun⟩
  rw [List.map_map]
  apply List.map_congr_left
  intro c hc
  exact (underway_of_mem hstart hrun c hc).stage?_shown

/-- A moment of a vote that ends at block 10000 and takes ten votes. -/
def moment (status : Proposal.Status) (block forCount : UInt64) (executed vetoed : Bool) :
    Course where
  block := block
  proposal := { Proposal.blank 1 with status := status }
  motion :=
    { Motion.blank 1 with
      quorumVotes := 10
      endBlock := 10000
      forCount := forCount
      vetoed := vetoed
      executed := executed
      status := .active }

/-- A course through all stages. -/
def fullCourse : List Course :=
  [moment .pending 5000 0 false false, moment .pending 7500 0 false false,
    moment .pending 7500 10 false false, moment .active 7500 10 false false,
    moment .active 10000 10 false false, moment .active 10000 10 true false,
    moment .active 10000 10 true true]

/-- The full course begins with a motion underway, and its stages are the ranks of the statuses
that it shows. -/
theorem stages_ascend_fullCourse :
    (moment .pending 5000 0 false false).Underway ∧ List.IsChain Step fullCourse ∧
      (fullCourse.map fun c => (c.shown none {}).stage?) = [0, 0, 1, 1, 2, 3, 4].map some ∧
        ∃ stages : List Nat,
          (fullCourse.map fun c => (c.shown none {}).stage?) = stages.map some ∧
            stages.Pairwise (· ≤ ·) := by
  have hstart : (moment .pending 5000 0 false false).Underway := ⟨by decide, .inl rfl, rfl⟩
  have hrun : List.IsChain Step fullCourse :=
    .cons_cons (.advance (by decide)) <| .cons_cons (.gain (by decide)) <|
      .cons_cons (.activate rfl) <| .cons_cons (.advance (by decide)) <|
        .cons_cons .execute <| .cons_cons .veto <| .singleton _
  exact ⟨hstart, hrun, by decide, stages_ascend none {} hstart hrun⟩

end Course

end ProposalBoard
