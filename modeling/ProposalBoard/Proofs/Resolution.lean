import ProposalBoard.DisplayStatus.Resolution
import ProposalBoard.Proofs.Motion

/-!
# Inversion of the resolution

How the resolution comes to a display status: for a status of the second community, which of the
records led to it (`resolve_eq_metagov_iff`), and for a status of the primary DAO, why it was kept
(`resolve_eq_primary_iff`). Proofs about the resolution go through these and do not open its
definition.
-/

namespace ProposalBoard

/-- The primary vote has not closed yet. -/
def Proposal.IsOpen (p : Proposal) : Prop :=
  p.status = .pending ∨ p.status = .active

/-- The proposal is the first one that the federation votes on, or comes after it. -/
def Proposal.IsManaged (p : Proposal) (config : Config) : Prop :=
  ∃ threshold ∈ config.federationThreshold, threshold.toNat ≤ p.id.toNat

/-- The second community votes on the proposal by a poll, which is in the given state. -/
def Proposal.PolledIn (p : Proposal) (poll : Option Poll) (motion : Option Motion)
    (config : Config) (state : Poll.State) : Prop :=
  motion = none ∧ ¬p.IsManaged config ∧ ∃ q ∈ poll, q.state = state

/-- The status of a proposal tells whether its primary vote has closed. -/
lemma Proposal.isOpen_status_iff {p : Proposal} : p.status.isOpen = true ↔ p.IsOpen := by
  unfold IsOpen
  cases p.status <;> simp [Status.isOpen]

/-- Managed proposals are told by comparing their ids. -/
lemma Proposal.isFederationManaged_iff {p : Proposal} {config : Config} :
    p.isFederationManaged config = true ↔ p.IsManaged config := by
  unfold isFederationManaged IsManaged
  cases config.federationThreshold <;> simp [UInt64.le_iff_toNat_le]

/-- A block is block zero if its number is. -/
lemma block_eq_zero_iff {block : UInt64} : block = 0 ↔ block.toNat = 0 := by
  rw [← UInt64.toNat_inj, UInt64.toNat_zero]

/-- What the second community has on a proposal other than a pending poll. -/
lemma Proposal.not_polledIn_pending_iff {p : Proposal} {poll : Option Poll}
    {motion : Option Motion} {config : Config} :
    ¬p.PolledIn poll motion config .pending ↔
      motion.isSome = true ∨ (motion = none ∧ p.IsManaged config) ∨
        p.PolledIn poll motion config .active ∨ p.PolledIn poll motion config .closed ∨
        p.PolledIn poll motion config .unknown ∨
        (motion = none ∧ ¬p.IsManaged config ∧ poll = none) := by
  unfold PolledIn
  rcases motion with _ | m
  · by_cases hmanaged : p.IsManaged config
    · simp [hmanaged]
    · rcases poll with _ | q
      · simp [hmanaged]
      · cases hstate : q.state <;> simp [hmanaged, hstate]
  · simp

namespace DisplayStatus

variable {p : Proposal} {block : UInt64} {poll : Option Poll} {motion : Option Motion}
  {config : Config} {m : Motion} {primary : Proposal.Status} {status : DisplayStatus}

/-! ## Statuses of the primary DAO -/

/-- The status of the primary DAO that is shown as a status, for those that it has. -/
def primary? : DisplayStatus → Option Proposal.Status
  | pending => some .pending
  | active => some .active
  | succeeded => some .succeeded
  | executed => some .executed
  | defeated => some .defeated
  | queued => some .queued
  | cancelled => some .canceled
  | vetoed => some .vetoed
  | expired => some .expired
  | undetermined => some .undetermined
  | metagovActive | metagovClosed | metagovPending | metagovAwaitingInitiation
  | metagovAwaitingExecution | metagovExpired | metagovVetoed => none

/-- What is shown for the primary DAO tells its status. -/
lemma ofPrimary_eq_iff : ofPrimary primary = status ↔ status.primary? = some primary := by
  cases primary <;> cases status <;> simp [ofPrimary, primary?]

/-- A status of the second community is shown if the condition for it holds. -/
lemma ite_eq_metagov_iff {c : Prop} [Decidable c] {s : DisplayStatus}
    (hstatus : status.primary? = none) :
    (if c then s else ofPrimary primary) = status ↔ c ∧ s = status := by
  split
  · next h => simp [h]
  · next h => simp [h, ofPrimary_eq_iff, hstatus]

/-- The primary status is kept if the condition for one of the second community fails. -/
lemma ite_eq_primary_iff {c : Prop} [Decidable c] {s : DisplayStatus} {kept : Proposal.Status}
    (hs : s.primary? = none) (hstatus : status.primary? = some kept) :
    (if c then s else ofPrimary primary) = status ↔ primary = kept ∧ ¬c := by
  split
  · next h =>
    refine ⟨?_, fun hkept => absurd h hkept.2⟩
    rintro rfl
    rw [hs] at hstatus
    cases hstatus
  · next h =>
    rw [ofPrimary_eq_iff, hstatus, Option.some.injEq]
    exact ⟨fun heq => ⟨heq.symm, h⟩, fun hkept => hkept.1.symm⟩

/-- A status of the second community is shown in place of the primary one while the primary vote
has not closed. -/
lemma whenOpen_eq_metagov_iff {s : DisplayStatus} (hstatus : status.primary? = none) :
    whenOpen p.status s = status ↔ p.IsOpen ∧ s = status := by
  rw [← Proposal.isOpen_status_iff]
  exact ite_eq_metagov_iff hstatus

/-- A status of the second community is shown in place of the primary one during the primary
vote. -/
lemma whenActive_eq_metagov_iff {s : DisplayStatus} (hstatus : status.primary? = none) :
    whenActive p.status s = status ↔ p.status = .active ∧ s = status :=
  ite_eq_metagov_iff hstatus

/-- The primary status is kept when the primary vote has closed. -/
lemma whenOpen_eq_primary_iff {s : DisplayStatus} (hs : s.primary? = none)
    (hstatus : status.primary? = some primary) :
    whenOpen p.status s = status ↔ p.status = primary ∧ primary.isOpen = false := by
  unfold whenOpen
  rw [ite_eq_primary_iff hs hstatus, Bool.not_eq_true]
  exact and_congr_right fun hprimary => by rw [hprimary]

/-- The primary status is kept when the primary vote is not under way. -/
lemma whenActive_eq_primary_iff {s : DisplayStatus} (hs : s.primary? = none)
    (hstatus : status.primary? = some primary) :
    whenActive p.status s = status ↔ p.status = primary ∧ primary ≠ .active := by
  unfold whenActive
  rw [ite_eq_primary_iff hs hstatus]
  exact and_congr_right fun hprimary => by rw [hprimary]

/-! ## Proposals with a motion -/

/-- What the phases show: the vote until the motion ends, except in the execution window with a
quorum, and then that it has expired. -/
lemma ofPhase_eq_iff {quorumMet : Bool} {phase : Motion.Phase} :
    ofPhase quorumMet phase = status ↔
      (metagovActive = status ∧ phase ≠ .ended ∧
        (phase = .executionWindow → quorumMet = false)) ∨
      (metagovAwaitingExecution = status ∧ phase = .executionWindow ∧ quorumMet = true) ∨
      (metagovExpired = status ∧ phase = .ended) := by
  cases phase <;> cases quorumMet <;> simp [ofPhase]

/-- No phase shows a status of the primary DAO. -/
lemma primary?_ofPhase (quorumMet : Bool) (phase : Motion.Phase) :
    (ofPhase quorumMet phase).primary? = none := by
  cases phase <;> cases quorumMet <;> rfl

/-- How a motion leads to a status of the second community. -/
lemma ofMotion_eq_metagov_iff (hstatus : status.primary? = none) :
    ofMotion p.status block m config = status ↔
      (m.Effectively .active ∧ block ≠ 0 ∧ p.IsOpen ∧
        ofPhase m.quorumMet ((m.window config).phase block) = status) ∨
      (m.Effectively .executed ∧ p.status = .active ∧ metagovClosed = status) ∨
      (m.Effectively .expired ∧ p.IsOpen ∧ metagovExpired = status) ∨
      (m.Effectively .vetoed ∧ p.IsOpen ∧ metagovVetoed = status) ∨
      (m.Effectively .undetermined ∧ p.IsOpen ∧ metagovAwaitingInitiation = status) := by
  simp only [← Motion.effectiveStatus_eq_iff]
  unfold ofMotion
  cases m.effectiveStatus with
  | active =>
    by_cases hblock : block = 0
    · simp [hblock, ofPrimary_eq_iff, hstatus]
    · simp [hblock, whenOpen_eq_metagov_iff hstatus]
  | executed => simp [whenActive_eq_metagov_iff hstatus]
  | expired => simp [whenOpen_eq_metagov_iff hstatus]
  | vetoed => simp [whenOpen_eq_metagov_iff hstatus]
  | undetermined => simp [whenOpen_eq_metagov_iff hstatus]

/-- An active motion is ready to execute in its execution window with a quorum. -/
lemma ofMotion_eq_metagovAwaitingExecution_iff :
    ofMotion p.status block m config = metagovAwaitingExecution ↔
      p.IsOpen ∧ m.Effectively .active ∧ block ≠ 0 ∧
        (m.window config).phase block = .executionWindow ∧ m.quorumMet = true := by
  rw [ofMotion_eq_metagov_iff rfl, ofPhase_eq_iff]
  simp [and_left_comm]

/-- An active motion is voted on until it ends, in the execution window only without a quorum. -/
lemma ofMotion_eq_metagovActive_iff :
    ofMotion p.status block m config = metagovActive ↔
      p.IsOpen ∧ m.Effectively .active ∧ block ≠ 0 ∧
        (m.window config).phase block ≠ .ended ∧
          ((m.window config).phase block = .executionWindow → m.quorumMet = false) := by
  rw [ofMotion_eq_metagov_iff rfl, ofPhase_eq_iff]
  simp [and_left_comm]

/-- A motion has expired by its record or by its end block. -/
lemma ofMotion_eq_metagovExpired_iff :
    ofMotion p.status block m config = metagovExpired ↔
      p.IsOpen ∧ (m.Effectively .expired ∨
        (m.Effectively .active ∧ block ≠ 0 ∧ (m.window config).phase block = .ended)) := by
  rw [ofMotion_eq_metagov_iff rfl, ofPhase_eq_iff]
  simp [and_left_comm, and_comm, or_comm, and_or_left]

/-- An executed motion shows during the primary vote only. -/
lemma ofMotion_eq_metagovClosed_iff :
    ofMotion p.status block m config = metagovClosed ↔
      p.status = .active ∧ m.Effectively .executed := by
  rw [ofMotion_eq_metagov_iff rfl, ofPhase_eq_iff]
  simp [and_comm]

/-- A veto shows until the primary vote closes. -/
lemma ofMotion_eq_metagovVetoed_iff :
    ofMotion p.status block m config = metagovVetoed ↔ p.IsOpen ∧ m.Effectively .vetoed := by
  rw [ofMotion_eq_metagov_iff rfl, ofPhase_eq_iff]
  simp [and_comm]

/-- A motion in no known state is as good as none. -/
lemma ofMotion_eq_metagovAwaitingInitiation_iff :
    ofMotion p.status block m config = metagovAwaitingInitiation ↔
      p.IsOpen ∧ m.Effectively .undetermined := by
  rw [ofMotion_eq_metagov_iff rfl, ofPhase_eq_iff]
  simp [and_comm]

/-- A motion is never a reason to wait for one. -/
lemma ofMotion_eq_metagovPending_iff :
    ofMotion p.status block m config = metagovPending ↔ False := by
  rw [ofMotion_eq_metagov_iff rfl, ofPhase_eq_iff]
  simp

/-- When the primary status is kept in spite of a motion. -/
lemma ofMotion_eq_primary_iff (hstatus : status.primary? = some primary) :
    ofMotion p.status block m config = status ↔
      p.status = primary ∧
        (primary.isOpen = false ∨ (m.Effectively .executed ∧ primary ≠ .active) ∨
          (m.Effectively .active ∧ block = 0)) := by
  simp only [← Motion.effectiveStatus_eq_iff]
  unfold ofMotion
  cases m.effectiveStatus with
  | active =>
    by_cases hblock : block = 0
    · simp [hblock, ofPrimary_eq_iff, hstatus, eq_comm (a := primary)]
    · simp [hblock, whenOpen_eq_primary_iff (primary?_ofPhase _ _) hstatus]
  | executed =>
    -- an active primary vote has not closed, so one of the two reasons is enough
    have hclosed : primary.isOpen = false → primary ≠ .active := by
      rintro h rfl
      cases h
    rw [whenActive_eq_primary_iff (s := metagovClosed) rfl hstatus]
    simpa using fun _ => hclosed
  | expired => simp [whenOpen_eq_primary_iff (s := metagovExpired) rfl hstatus]
  | vetoed => simp [whenOpen_eq_primary_iff (s := metagovVetoed) rfl hstatus]
  | undetermined => simp [whenOpen_eq_primary_iff (s := metagovAwaitingInitiation) rfl hstatus]

/-! ## Proposals at large -/

/-- A motion decides alone. -/
lemma resolve_some :
    resolve p block poll (some m) config = ofMotion p.status block m config :=
  rfl

/-- How the resolution comes to a status, one line for each branch that it can take. -/
lemma resolve_eq_iff :
    resolve p block poll motion config = status ↔
      (∃ m ∈ motion, ofMotion p.status block m config = status) ∨
      (motion = none ∧ p.IsManaged config ∧
        whenOpen p.status metagovAwaitingInitiation = status) ∨
      (p.PolledIn poll motion config .active ∧ whenOpen p.status metagovActive = status) ∨
      (p.PolledIn poll motion config .closed ∧ whenActive p.status metagovClosed = status) ∨
      (p.PolledIn poll motion config .unknown ∧ ofPrimary p.status = status) ∨
      (motion = none ∧ ¬p.IsManaged config ∧ poll = none ∧
        whenActive p.status metagovPending = status) ∨
      (p.PolledIn poll motion config .pending ∧ pending = status) := by
  unfold resolve Proposal.PolledIn
  rcases motion with _ | m
  · by_cases hmanaged : p.IsManaged config
    · simp [Proposal.isFederationManaged_iff.mpr hmanaged, hmanaged]
    · have hunmanaged : p.isFederationManaged config = false := by
        rwa [← Bool.not_eq_true, Proposal.isFederationManaged_iff]
      rcases poll with _ | q
      · simp [hunmanaged, hmanaged]
      · cases hstate : q.state <;> simp [hunmanaged, hmanaged, hstate, ofPoll]
  · simp

/-- How the resolution comes to a status of the second community. -/
lemma resolve_eq_metagov_iff (hstatus : status.primary? = none) :
    resolve p block poll motion config = status ↔
      (∃ m ∈ motion, ofMotion p.status block m config = status) ∨
      (motion = none ∧ p.IsManaged config ∧ p.IsOpen ∧ metagovAwaitingInitiation = status) ∨
      (p.PolledIn poll motion config .active ∧ p.IsOpen ∧ metagovActive = status) ∨
      (p.PolledIn poll motion config .closed ∧ p.status = .active ∧ metagovClosed = status) ∨
      (motion = none ∧ ¬p.IsManaged config ∧ poll = none ∧ p.status = .active ∧
        metagovPending = status) := by
  -- the status of a pending poll is one of the primary DAO
  have hpending : pending ≠ status := by
    rintro rfl
    cases hstatus
  rw [resolve_eq_iff]
  simp [whenOpen_eq_metagov_iff hstatus, whenActive_eq_metagov_iff hstatus, ofPrimary_eq_iff,
    hstatus, hpending]

/-- How the resolution comes to a status of the primary DAO. -/
lemma resolve_eq_primary_iff (hstatus : status.primary? = some primary) :
    resolve p block poll motion config = status ↔
      (p.status = primary ∧
        ((∃ m ∈ motion, primary.isOpen = false ∨ (m.Effectively .executed ∧ primary ≠ .active) ∨
            (m.Effectively .active ∧ block = 0)) ∨
          (motion = none ∧ p.IsManaged config ∧ primary.isOpen = false) ∨
          (p.PolledIn poll motion config .active ∧ primary.isOpen = false) ∨
          (p.PolledIn poll motion config .closed ∧ primary ≠ .active) ∨
          p.PolledIn poll motion config .unknown ∨
          (motion = none ∧ ¬p.IsManaged config ∧ poll = none ∧ primary ≠ .active))) ∨
      (p.PolledIn poll motion config .pending ∧ pending = status) := by
  have hkept : ofPrimary p.status = status ↔ p.status = primary := by
    rw [ofPrimary_eq_iff, hstatus, Option.some.injEq, eq_comm]
  rw [resolve_eq_iff, whenOpen_eq_primary_iff (s := metagovAwaitingInitiation) rfl hstatus,
    whenOpen_eq_primary_iff (s := metagovActive) rfl hstatus,
    whenActive_eq_primary_iff (s := metagovClosed) rfl hstatus,
    whenActive_eq_primary_iff (s := metagovPending) rfl hstatus, hkept]
  simp only [ofMotion_eq_primary_iff hstatus]
  by_cases hprimary : p.status = primary
  · simp only [hprimary, true_and, and_true, or_assoc]
  · simp [hprimary]

end DisplayStatus

end ProposalBoard
