import ProposalBoard.Proofs.RowRecords
import ProposalBoard.Proofs.StatusMeaning

/-!
# The action on a row

A row offers an action by its display status and the time alone. What the action does depends on
the records: a vote can be cast into the primary DAO only in the last blocks of a motion with a
quorum, and a proposal can be executed only after its eta. The main statement
`action_shownRow_iff_possible` tells from the records in which circumstances each action is
offered (`Board.Possible`), and that there is none in all others.
-/

namespace ProposalBoard

/-! ## Actions by status -/

/-- The display status and the time at which an action is offered. -/
def NextAction.WaitsFor (p : Proposal) (status : DisplayStatus) (now : Instant) :
    NextAction → Prop
  | queue => status = .succeeded
  | execute => status = .queued ∧ ∃ eta ∈ p.eta, eta ≤ now
  | startMetagovVote => status = .metagovAwaitingInitiation
  | castMetagovVote => status = .metagovAwaitingExecution

/-- An action is offered for the status and the time that it waits for. -/
lemma NextAction.ofStatus_eq_some_iff {p : Proposal} {status : DisplayStatus} {now : Instant}
    {action : NextAction} :
    ofStatus p status now = some action ↔ action.WaitsFor p status now := by
  cases status with
  | queued =>
    cases heta : p.eta with
    | none => cases action <;> simp [ofStatus, WaitsFor, heta]
    | some eta =>
      by_cases hle : eta ≤ now <;> cases action <;> simp [ofStatus, WaitsFor, heta, hle]
  | _ => cases action <;> simp [ofStatus, WaitsFor]

namespace Board

variable {board : Board} {config : Config} {phrasing : TimePhrasing} {present now : Instant}
  {p : Proposal}

/-! ## Actions by records -/

/-- A pending poll is shown in place of the status of the primary DAO: the proposal has no motion,
the federation does not vote on it, and the poll that mentions it is pending. -/
def Masked (board : Board) (config : Config) (p : Proposal) : Prop :=
  p.PolledIn (p.poll? board.polls) (p.motion? board.motions) (board.effectiveConfig config) .pending

/-- The circumstances in which each action is possible at an instant. -/
def Possible (board : Board) (config : Config) (now : Instant) (p : Proposal) :
    NextAction → Prop
  | .castMetagovVote =>
    p.IsOpen ∧ ∃ m ∈ p.motion? board.motions, m.Effectively .active ∧
      1 ≤ board.currentBlock.toNat ∧
      m.endBlock.toNat ≤ board.currentBlock.toNat + m.executionBlocks config ∧
      board.currentBlock.toNat < m.endBlock.toNat ∧ m.quorumVotes.toNat ≤ m.forCount.toNat
  | .startMetagovVote =>
    p.IsOpen ∧
      ((∃ m ∈ p.motion? board.motions, m.Effectively .undetermined) ∨
        (p.motion? board.motions = none ∧ p.IsManaged (board.effectiveConfig config)))
  | .execute => p.status = .queued ∧ (∃ eta ∈ p.eta, eta ≤ now) ∧ ¬board.Masked config p
  | .queue => p.status = .succeeded ∧ ¬board.Masked config p

/-- A board leaves out polls only where the federation votes. -/
lemma polledIn_pollOn?_iff {motion : Option Motion} {state : Poll.State} :
    p.PolledIn (board.pollOn? config p) motion config state ↔
      p.PolledIn (p.poll? board.polls) motion config state := by
  unfold Proposal.PolledIn
  simp only [mem_pollOn?_iff]
  by_cases hmanaged : p.IsManaged config <;> simp [hmanaged]

/-- The status on a row is that of a primary vote that has closed, unless a pending poll is shown
in place of it. -/
lemma status_shownRow_eq_closed_iff {status : DisplayStatus} {primary : Proposal.Status}
    (hstatus : status.primary? = some primary) (hclosed : primary.isOpen = false) :
    (board.shownRow config phrasing present p).status = status ↔
      p.status = primary ∧ ¬board.Masked config p := by
  have hrow : (board.shownRow config phrasing present p).status = status ↔
      p.status = primary ∧ ¬p.PolledIn (board.pollOn? (board.effectiveConfig config) p)
        (p.motion? board.motions) (board.effectiveConfig config) .pending :=
    DisplayStatus.resolve_eq_closed_iff hstatus hclosed
  rw [hrow, polledIn_pollOn?_iff, Masked]

/-- An action waits for the status and the time at which it is possible. -/
lemma waitsFor_shownRow_iff {action : NextAction} :
    action.WaitsFor p (board.shownRow config phrasing present p).status now ↔
      board.Possible config now p action := by
  cases action with
  | castMetagovVote => exact DisplayStatus.resolve_eq_metagovAwaitingExecution_iff
  | startMetagovVote => exact DisplayStatus.resolve_eq_metagovAwaitingInitiation_iff
  | queue => exact status_shownRow_eq_closed_iff rfl rfl
  | execute =>
    have hqueued : (board.shownRow config phrasing present p).status = .queued ↔
        p.status = .queued ∧ ¬board.Masked config p :=
      status_shownRow_eq_closed_iff rfl rfl
    simp only [NextAction.WaitsFor, Possible]
    rw [hqueued]
    exact and_right_comm.trans and_assoc

/-- Each proposal has its row, and the row offers an action exactly when it is possible. -/
theorem action_shownRow_iff_possible (board : Board) (config : Config) (phrasing : TimePhrasing)
    (present : Instant) :
    (∃ order : List Proposal, order.Perm board.proposals ∧
      board.rows config phrasing present =
        order.map (board.shownRow config phrasing present)) ∧
    ∀ p,
      (∀ action, (board.shownRow config phrasing present p).action = some action ↔
        board.Possible config (board.clock present).now p action) ∧
      ((board.shownRow config phrasing present p).action = none ↔
        ∀ action, ¬board.Possible config (board.clock present).now p action) := by
  have haction : ∀ p action, (board.shownRow config phrasing present p).action = some action ↔
      board.Possible config (board.clock present).now p action := by
    intro p action
    have hwaits : action.WaitsFor p (board.shownRow config phrasing present p).status
        (board.clock present).now ↔ board.Possible config (board.clock present).now p action :=
      waitsFor_shownRow_iff
    exact NextAction.ofStatus_eq_some_iff.trans hwaits
  refine ⟨⟨board.sortedProposals, perm_sortedProposals board, rows_eq_map⟩, fun p => ?_⟩
  refine ⟨haction p, ?_⟩
  rw [Option.eq_none_iff_forall_ne_some]
  exact forall_congr' fun action => not_congr (haction p action)

end Board

end ProposalBoard
