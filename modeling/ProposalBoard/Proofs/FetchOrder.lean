import ProposalBoard.Proofs.Correlation
import ProposalBoard.Proofs.RowRecords

/-!
# Order in which records are fetched

Proposals, polls, motions and delegates come from services that promise no order. The main
statement `rows_eq_of_sameRecords` says that the rows do not depend on it, as long as the records
are unambiguous: the proposals are sorted by ids that all differ, at most one record passes each of
the look-ups, and only one motion can be the earliest.
-/

namespace ProposalBoard

variable {ds es : List Delegate}

/-! ## Delegates in any order -/

/-- If no two delegates share an address, the tokens behind a contract vote are the same in any
order. -/
lemma attribute_eq_of_perm (hperm : es.Perm ds) (hids : (ds.map Delegate.id).Nodup) :
    Receipt.attribute es = Receipt.attribute ds := by
  have hreverse : es.reverse.Perm ds.reverse :=
    (List.reverse_perm es).trans (hperm.trans (List.reverse_perm ds).symm)
  have hidsReverse : (ds.reverse.map Delegate.id).Nodup := by
    rw [List.map_reverse, List.nodup_reverse]
    exact hids
  funext r
  unfold Receipt.attribute tokensOfDelegate
  rw [find?_eq_of_perm hreverse (pairwise_key hidsReverse r.voter)]

/-- If no two delegates share an address, the tokens behind a ballot are the same in any order. -/
lemma pollVoters_eq_of_perm (hperm : es.Perm ds) (hids : (ds.map Delegate.id).Nodup)
    (ballots : List Ballot) : pollVoters ballots es = pollVoters ballots ds := by
  have hballot : Ballot.attribute es = Ballot.attribute ds := by
    funext b
    unfold Ballot.attribute tokensOfAddress
    rw [filter_eq_of_perm hperm (pairwise_key hids (Text.lowercase b.voter))]
  unfold pollVoters
  rw [hballot]

namespace Board

variable {board other : Board} {config : Config} {phrasing : TimePhrasing} {clock : ChainClock}
  {p : Proposal}

/-! ## Boards with the same records -/

/-- Another board has the records of a board in any order. -/
structure SameRecords (board other : Board) : Prop where
  currentBlock : other.currentBlock = board.currentBlock
  now : other.now = board.now
  proposals : other.proposals.Perm board.proposals
  polls : other.polls.Perm board.polls
  motions : other.motions.Perm board.motions
  delegates : other.delegates.Perm board.delegates
  proposalVotes : other.proposalVotes = board.proposalVotes
  pollVotes : other.pollVotes = board.pollVotes
  motionVotes : other.motionVotes = board.motionVotes

/-- No two records of a board stand for the same thing. -/
structure Unambiguous (board : Board) : Prop where
  proposals : (board.proposals.map Proposal.id).Nodup
  /-- No two polls mention the transaction that created a proposal. -/
  polls : ∀ p ∈ board.proposals, Text.trim p.transactionHash.toList ≠ [] →
    board.polls.Pairwise fun q r =>
      ¬(Text.trim p.transactionHash.toList <:+: q.body.toList ∧
        Text.trim p.transactionHash.toList <:+: r.body.toList)
  motions : (board.motions.map Motion.id).Nodup
  /-- No two motions are about the same proposal. -/
  subjects : (board.motions.filterMap Motion.externalId).Nodup
  delegates : (board.delegates.map Delegate.id).Nodup

section
variable (hsame : board.SameRecords other) (hboard : board.Unambiguous)
include hsame hboard

/-- The proposals are sorted into the same order. -/
lemma SameRecords.sortedProposals_eq : other.sortedProposals = board.sortedProposals := by
  have hperm : other.sortedProposals.Perm board.sortedProposals :=
    (perm_sortedProposals other).trans (hsame.proposals.trans (perm_sortedProposals board).symm)
  refine List.Perm.eq_of_pairwise ?_ pairwise_sortedProposals pairwise_sortedProposals hperm
  intro p q hp hq hqp hpq
  have hp' : p ∈ board.proposals := (perm_sortedProposals board).mem_iff.mp (hperm.mem_iff.mp hp)
  have hq' : q ∈ board.proposals := (perm_sortedProposals board).mem_iff.mp hq
  exact List.inj_on_of_nodup_map hboard.proposals hp' hq' (UInt64.le_antisymm hpq hqp)

/-- The federation votes from the same proposal on. -/
lemma SameRecords.effectiveConfig_eq :
    other.effectiveConfig config = board.effectiveConfig config := by
  unfold effectiveConfig
  rw [Config.threshold?_eq_of_perm hsame.motions hboard.motions]

/-- A proposal has the same motion. -/
lemma SameRecords.motion?_eq : p.motion? other.motions = p.motion? board.motions :=
  find?_eq_of_perm hsame.motions (pairwise_externalId hboard.subjects p.id)

/-- A proposal has the same poll. -/
lemma SameRecords.pollOn?_eq (hp : p ∈ board.proposals) :
    other.pollOn? config p = board.pollOn? config p := by
  have hone : board.polls.Pairwise fun q r => ¬(q.mentions p = true ∧ r.mentions p = true) := by
    simp only [Poll.mentions_iff]
    by_cases hhash : Text.trim p.transactionHash.toList = []
    · simp [hhash, List.pairwise_of_forall]
    · apply (hboard.polls p hp hhash).imp
      intro q r hnot hboth
      exact hnot ⟨hboth.1.2, hboth.2.2⟩
  have hpoll : p.poll? other.polls = p.poll? board.polls := find?_eq_of_perm hsame.polls hone
  unfold pollOn?
  rw [hpoll]

/-- The votes of contracts have the same tokens behind them. -/
lemma SameRecords.attributed_eq {votes : Table UInt64 (List Receipt)} {key : UInt64} :
    other.attributed votes key = board.attributed votes key := by
  unfold attributed
  rw [attribute_eq_of_perm hsame.delegates hboard.delegates]

/-- The vote of the second community is split in the same way. -/
lemma SameRecords.metagovBreakdown_eq {poll : Option Poll} {motion : Option Motion} :
    other.metagovBreakdown poll motion = board.metagovBreakdown poll motion := by
  cases motion with
  | some m =>
    simp only [metagovBreakdown]
    rw [hsame.motionVotes, hsame.attributed_eq hboard]
  | none =>
    cases poll with
    | some q =>
      simp only [metagovBreakdown]
      rw [hsame.pollVotes, pollVoters_eq_of_perm hsame.delegates hboard.delegates]
    | none => rfl

/-- A proposal of the board has the same row. -/
lemma SameRecords.rowOf_eq (hp : p ∈ board.proposals) :
    other.rowOf config phrasing clock p = board.rowOf config phrasing clock p := by
  apply rowOf_congr (hsame.motion?_eq hboard) (hsame.pollOn?_eq hboard hp)
  · rw [hsame.proposalVotes, hsame.attributed_eq hboard]
  · exact hsame.metagovBreakdown_eq hboard

end

/-- The rows of a board whose records are unambiguous are the same in whichever order the records
were fetched. -/
theorem rows_eq_of_sameRecords (hsame : board.SameRecords other) (hboard : board.Unambiguous)
    (hnow : board.now.isSome = true) (config : Config) (phrasing : TimePhrasing)
    (present present' : Instant) :
    other.rows config phrasing present' = board.rows config phrasing present := by
  have hclock : other.clock present' = board.clock present := by
    rw [← clock_eq_of_now present present' hnow]
    unfold Board.clock
    rw [hsame.currentBlock, hsame.now]
  unfold rows
  rw [hsame.sortedProposals_eq hboard, hsame.effectiveConfig_eq hboard, hclock]
  apply List.map_congr_left
  intro p hp
  exact hsame.rowOf_eq hboard ((perm_sortedProposals board).mem_iff.mp hp)

/-- A board on which one proposal has a poll and another a motion. -/
def polledAndMoved : Board :=
  { Board.blank 100 with
    now := some .epoch
    proposals := [{ Proposal.blank 1 with status := .active, transactionHash := " 0xfeed " },
      { Proposal.blank 2 with status := .active }]
    polls := [.blank "other", { Poll.blank "poll" with body := "on 0xfeed", state := .active }]
    motions := [{ Motion.blank 7 with externalId := some 2 }, .blank 3]
    delegates := [⟨"0xa", ["11", "12"]⟩, ⟨"0xb", ["13"]⟩]
    proposalVotes := .ofList [(1, [⟨"0xb", 0⟩, ⟨"0xa", 1⟩])] }

/-- The same board with its records in reverse. -/
def polledAndMovedBackwards : Board :=
  { polledAndMoved with
    proposals := polledAndMoved.proposals.reverse
    polls := polledAndMoved.polls.reverse
    motions := polledAndMoved.motions.reverse
    delegates := polledAndMoved.delegates.reverse }

/-- The rows of a board with its records in reverse, each with its poll or motion. -/
theorem rows_eq_of_sameRecords_backwards :
    polledAndMoved.SameRecords polledAndMovedBackwards ∧ polledAndMoved.Unambiguous ∧
      polledAndMoved.now.isSome = true ∧
      (polledAndMoved.proposals.map (polledAndMoved.shownRow {} humanized .epoch)).map
        (fun r => (r.pollId, r.motionId)) = [(some "poll", none), (none, some 7)] ∧
      polledAndMovedBackwards.rows {} humanized .epoch =
        polledAndMoved.rows {} humanized .epoch := by
  have hsame : polledAndMoved.SameRecords polledAndMovedBackwards :=
    ⟨rfl, rfl, List.reverse_perm _, List.reverse_perm _, List.reverse_perm _,
      List.reverse_perm _, rfl, rfl, rfl⟩
  have hboard : polledAndMoved.Unambiguous :=
    ⟨by decide, by decide +kernel, by decide, by decide, by decide⟩
  exact ⟨hsame, hboard, rfl, by decide +kernel,
    rows_eq_of_sameRecords hsame hboard rfl {} humanized .epoch .epoch⟩

end Board

end ProposalBoard
