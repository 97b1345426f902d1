import ProposalBoard.Proofs.Resolution

/-!
# Meaning of the display statuses

For each display status the circumstances in which it is shown, told from the records alone with
block numbers and counts as natural numbers (`DisplayStatus.Applies`). The main statement
`resolve_eq_iff_applies` says that the resolution shows a status in exactly these circumstances,
so that for all records one status applies and no other.
-/

namespace ProposalBoard.DisplayStatus

variable {p : Proposal} {block : UInt64} {poll : Option Poll} {motion : Option Motion}
  {config : Config} {primary : Proposal.Status} {status : DisplayStatus}

/-- The circumstances in which each status is shown. -/
def Applies (p : Proposal) (block : UInt64) (poll : Option Poll) (motion : Option Motion)
    (config : Config) : DisplayStatus → Prop
  | metagovAwaitingExecution =>
    p.IsOpen ∧ ∃ m ∈ motion, m.Effectively .active ∧ 1 ≤ block.toNat ∧
      m.endBlock.toNat ≤ block.toNat + m.executionBlocks config ∧
      block.toNat < m.endBlock.toNat ∧ m.quorumVotes.toNat ≤ m.forCount.toNat
  | metagovExpired =>
    p.IsOpen ∧ ∃ m ∈ motion, m.Effectively .expired ∨
      (m.Effectively .active ∧ 1 ≤ block.toNat ∧ m.endBlock.toNat ≤ block.toNat)
  | metagovVetoed => p.IsOpen ∧ ∃ m ∈ motion, m.Effectively .vetoed
  | metagovClosed =>
    p.status = .active ∧
      ((∃ m ∈ motion, m.Effectively .executed) ∨ p.PolledIn poll motion config .closed)
  | metagovAwaitingInitiation =>
    p.IsOpen ∧
      ((∃ m ∈ motion, m.Effectively .undetermined) ∨ (motion = none ∧ p.IsManaged config))
  | metagovPending => p.status = .active ∧ motion = none ∧ ¬p.IsManaged config ∧ poll = none
  | metagovActive =>
    p.IsOpen ∧
      ((∃ m ∈ motion, m.Effectively .active ∧ 1 ≤ block.toNat ∧ block.toNat < m.endBlock.toNat ∧
          (block.toNat + m.executionBlocks config < m.endBlock.toNat ∨
            m.forCount.toNat < m.quorumVotes.toNat)) ∨
        p.PolledIn poll motion config .active)
  | pending =>
    (p.status = .pending ∧
      ((∃ m ∈ motion, m.Effectively .executed ∨ (m.Effectively .active ∧ block.toNat = 0)) ∨
        p.PolledIn poll motion config .closed ∨ p.PolledIn poll motion config .unknown ∨
        (motion = none ∧ ¬p.IsManaged config ∧ poll = none))) ∨
      p.PolledIn poll motion config .pending
  | active =>
    p.status = .active ∧
      ((∃ m ∈ motion, m.Effectively .active ∧ block.toNat = 0) ∨
        p.PolledIn poll motion config .unknown)
  | succeeded => p.status = .succeeded ∧ ¬p.PolledIn poll motion config .pending
  | executed => p.status = .executed ∧ ¬p.PolledIn poll motion config .pending
  | defeated => p.status = .defeated ∧ ¬p.PolledIn poll motion config .pending
  | queued => p.status = .queued ∧ ¬p.PolledIn poll motion config .pending
  | cancelled => p.status = .canceled ∧ ¬p.PolledIn poll motion config .pending
  | vetoed => p.status = .vetoed ∧ ¬p.PolledIn poll motion config .pending
  | expired => p.status = .expired ∧ ¬p.PolledIn poll motion config .pending
  | undetermined => p.status = .undetermined ∧ ¬p.PolledIn poll motion config .pending

/-! ## Statuses of the second community -/

/-- Ready to execute: an active motion in its execution window with a quorum. -/
lemma resolve_eq_metagovAwaitingExecution_iff :
    resolve p block poll motion config = metagovAwaitingExecution ↔
      Applies p block poll motion config metagovAwaitingExecution := by
  rw [resolve_eq_metagov_iff rfl]
  simp only [ofMotion_eq_metagovAwaitingExecution_iff, Motion.phase_eq_executionWindow_iff,
    Motion.quorumMet_iff, ne_eq, block_eq_zero_iff, ← Nat.one_le_iff_ne_zero]
  by_cases hopen : p.IsOpen <;> simp [Applies, hopen, and_assoc]

/-- Expired: a motion that expired, or an active one at or after its end block. -/
lemma resolve_eq_metagovExpired_iff :
    resolve p block poll motion config = metagovExpired ↔
      Applies p block poll motion config metagovExpired := by
  rw [resolve_eq_metagov_iff rfl]
  simp only [ofMotion_eq_metagovExpired_iff, Motion.phase_eq_ended_iff, ne_eq, block_eq_zero_iff,
    ← Nat.one_le_iff_ne_zero]
  by_cases hopen : p.IsOpen <;> simp [Applies, hopen]

/-- Vetoed: a motion that was vetoed. -/
lemma resolve_eq_metagovVetoed_iff :
    resolve p block poll motion config = metagovVetoed ↔
      Applies p block poll motion config metagovVetoed := by
  rw [resolve_eq_metagov_iff rfl]
  simp only [ofMotion_eq_metagovVetoed_iff]
  by_cases hopen : p.IsOpen <;> simp [Applies, hopen]

/-- Awaiting the primary vote: a motion that was executed, or a closed poll. -/
lemma resolve_eq_metagovClosed_iff :
    resolve p block poll motion config = metagovClosed ↔
      Applies p block poll motion config metagovClosed := by
  rw [resolve_eq_metagov_iff rfl]
  simp only [ofMotion_eq_metagovClosed_iff]
  by_cases hactive : p.status = .active <;> simp [Applies, hactive]

/-- Ready to start: a motion in no known state, or a managed proposal without one. -/
lemma resolve_eq_metagovAwaitingInitiation_iff :
    resolve p block poll motion config = metagovAwaitingInitiation ↔
      Applies p block poll motion config metagovAwaitingInitiation := by
  rw [resolve_eq_metagov_iff rfl]
  simp only [ofMotion_eq_metagovAwaitingInitiation_iff]
  by_cases hopen : p.IsOpen <;> simp [Applies, hopen]

/-- Pending in the second community: an active proposal that it has no record of. -/
lemma resolve_eq_metagovPending_iff :
    resolve p block poll motion config = metagovPending ↔
      Applies p block poll motion config metagovPending := by
  rw [resolve_eq_metagov_iff rfl]
  simp only [ofMotion_eq_metagovPending_iff]
  by_cases hactive : p.status = .active <;> simp [Applies, hactive]

/-- Active in the second community: a motion that is voted on, or an active poll. -/
lemma resolve_eq_metagovActive_iff :
    resolve p block poll motion config = metagovActive ↔
      Applies p block poll motion config metagovActive := by
  rw [resolve_eq_metagov_iff rfl]
  simp only [ofMotion_eq_metagovActive_iff, Motion.phase_voting_iff, ne_eq, block_eq_zero_iff,
    ← Nat.one_le_iff_ne_zero]
  by_cases hopen : p.IsOpen <;> simp [Applies, hopen]

/-! ## Statuses of the primary DAO -/

/-- Pending, also in place of any other primary status while a poll is pending. -/
lemma resolve_eq_pending_iff :
    resolve p block poll motion config = pending ↔ Applies p block poll motion config pending := by
  rw [resolve_eq_primary_iff rfl]
  simp [Applies, Proposal.Status.isOpen, block_eq_zero_iff]

/-- Active, when no record of the second community tells more. -/
lemma resolve_eq_active_iff :
    resolve p block poll motion config = active ↔ Applies p block poll motion config active := by
  rw [resolve_eq_primary_iff rfl]
  simp [Applies, Proposal.Status.isOpen, block_eq_zero_iff]

/-- The status of a proposal whose primary vote has closed is kept, unless a pending poll is in
front of it. -/
lemma resolve_eq_closed_iff (hstatus : status.primary? = some primary)
    (hclosed : primary.isOpen = false) :
    resolve p block poll motion config = status ↔
      p.status = primary ∧ ¬p.PolledIn poll motion config .pending := by
  have hinactive : primary ≠ .active := by
    rintro rfl
    cases hclosed
  have hpending : pending ≠ status := by
    rintro rfl
    cases hstatus
    cases hclosed
  rw [resolve_eq_primary_iff hstatus, Proposal.not_polledIn_pending_iff]
  simp [hclosed, hinactive, hpending, Option.isSome_iff_exists]

/-! ## All statuses -/

/-- A status is shown in exactly the circumstances in which it applies. -/
theorem resolve_eq_iff_applies (p : Proposal) (block : UInt64) (poll : Option Poll)
    (motion : Option Motion) (config : Config) (status : DisplayStatus) :
    resolve p block poll motion config = status ↔ Applies p block poll motion config status := by
  cases status with
  | pending => exact resolve_eq_pending_iff
  | active => exact resolve_eq_active_iff
  | succeeded => exact resolve_eq_closed_iff rfl rfl
  | executed => exact resolve_eq_closed_iff rfl rfl
  | defeated => exact resolve_eq_closed_iff rfl rfl
  | queued => exact resolve_eq_closed_iff rfl rfl
  | cancelled => exact resolve_eq_closed_iff rfl rfl
  | vetoed => exact resolve_eq_closed_iff rfl rfl
  | expired => exact resolve_eq_closed_iff rfl rfl
  | undetermined => exact resolve_eq_closed_iff rfl rfl
  | metagovActive => exact resolve_eq_metagovActive_iff
  | metagovClosed => exact resolve_eq_metagovClosed_iff
  | metagovPending => exact resolve_eq_metagovPending_iff
  | metagovAwaitingInitiation => exact resolve_eq_metagovAwaitingInitiation_iff
  | metagovAwaitingExecution => exact resolve_eq_metagovAwaitingExecution_iff
  | metagovExpired => exact resolve_eq_metagovExpired_iff
  | metagovVetoed => exact resolve_eq_metagovVetoed_iff

end ProposalBoard.DisplayStatus
