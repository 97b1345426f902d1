import ProposalBoard.Proofs.BoardOrder
import ProposalBoard.Proofs.Resolution

/-!
# Records behind a row

A board keeps the records of all proposals together: motions, polls and delegates in lists, votes in
tables by proposal, poll and motion. The row of a proposal reads the lists through the look-ups for
that proposal, and each table at one key (`rowOf_congr`). The main statement `row_eq_of_agreeOn`
says what follows for two boards that differ in all other proposals and votes: they show the same
row.
-/

namespace ProposalBoard.Board

variable {board other : Board} {config : Config} {phrasing : TimePhrasing} {clock : ChainClock}
  {present present' : Instant} {p : Proposal} {poll : Option Poll} {motion : Option Motion}

/-! ## What a row reads -/

/-- Two boards show the same row for a proposal if they have the same motion, poll and votes for
it. -/
lemma rowOf_congr (hmotion : p.motion? other.motions = p.motion? board.motions)
    (hpoll : other.pollOn? config p = board.pollOn? config p)
    (hvotes : other.attributed other.proposalVotes p.id =
      board.attributed board.proposalVotes p.id)
    (hmetagov : other.metagovBreakdown (board.pollOn? config p) (p.motion? board.motions) =
      board.metagovBreakdown (board.pollOn? config p) (p.motion? board.motions)) :
    other.rowOf config phrasing clock p = board.rowOf config phrasing clock p := by
  simp only [rowOf, hmotion, hpoll, hvotes, hmetagov]

/-- The poll on a proposal is the one that mentions it, unless the federation votes on it. -/
lemma mem_pollOn?_iff {q : Poll} :
    q ∈ board.pollOn? config p ↔ ¬p.IsManaged config ∧ q ∈ p.poll? board.polls := by
  unfold pollOn?
  rw [← Proposal.isFederationManaged_iff]
  split
  · next hmanaged => simp [hmanaged]
  · next hmanaged => simp [hmanaged]

/-- The votes of contracts are read at one key. -/
lemma attributed_congr {votes votes' : Table UInt64 (List Receipt)} {key : UInt64}
    (hdelegates : other.delegates = board.delegates)
    (hvotes : votes'.find? key = votes.find? key) :
    other.attributed votes' key = board.attributed votes key := by
  unfold attributed
  rw [hdelegates, hvotes]

/-- The vote of the second community is read at the id of the motion, or else of the poll. -/
lemma metagovBreakdown_congr (hdelegates : other.delegates = board.delegates)
    (hmotion : ∀ m ∈ motion, other.motionVotes.find? m.id = board.motionVotes.find? m.id)
    (hpoll : ∀ q ∈ poll, other.pollVotes.find? q.id = board.pollVotes.find? q.id) :
    other.metagovBreakdown poll motion = board.metagovBreakdown poll motion := by
  cases motion with
  | some m =>
    have hvotes : other.attributed other.motionVotes m.id =
        board.attributed board.motionVotes m.id :=
      attributed_congr hdelegates (hmotion m rfl)
    simp only [metagovBreakdown, hvotes]
  | none =>
    cases poll with
    | some q => simp only [metagovBreakdown, hdelegates, hpoll q rfl]
    | none => rfl

/-! ## Boards that agree on a proposal -/

/-- Two boards agree on a proposal: they are of the same moment and have the same polls, motions and
delegates, the proposal comes first with its id on both, and the votes on it, on the poll that
mentions it and on the motion about it are the same. -/
structure AgreeOn (board other : Board) (p : Proposal) : Prop where
  currentBlock : other.currentBlock = board.currentBlock
  now : other.now = board.now
  polls : other.polls = board.polls
  motions : other.motions = board.motions
  delegates : other.delegates = board.delegates
  first : board.proposals.find? (·.id = p.id) = some p
  firstOfOther : other.proposals.find? (·.id = p.id) = some p
  proposalVotes : other.proposalVotes.find? p.id = board.proposalVotes.find? p.id
  motionVotes : ∀ m ∈ p.motion? board.motions,
    other.motionVotes.find? m.id = board.motionVotes.find? m.id
  pollVotes : ∀ q ∈ p.poll? board.polls, other.pollVotes.find? q.id = board.pollVotes.find? q.id

namespace AgreeOn

/-- The clocks are the same, at the same present instant if the boards do not tell one. -/
lemma clock_eq (hagree : board.AgreeOn other p) (hpresent : board.now = none → present' = present) :
    other.clock present' = board.clock present := by
  unfold Board.clock
  rw [hagree.currentBlock, hagree.now]
  cases hnow : board.now with
  | some now => rfl
  | none => rw [hpresent hnow]

/-- The federation votes from the same proposal on. -/
lemma effectiveConfig_eq (hagree : board.AgreeOn other p) :
    other.effectiveConfig config = board.effectiveConfig config := by
  unfold effectiveConfig
  rw [hagree.motions]

/-- The proposal has the same row. -/
lemma shownRow_eq (hagree : board.AgreeOn other p)
    (hpresent : board.now = none → present' = present) :
    other.shownRow config phrasing present' p = board.shownRow config phrasing present p := by
  unfold shownRow
  rw [hagree.effectiveConfig_eq, hagree.clock_eq hpresent]
  apply rowOf_congr
  · rw [hagree.motions]
  · unfold pollOn?
    rw [hagree.polls]
  · exact attributed_congr hagree.delegates hagree.proposalVotes
  · apply metagovBreakdown_congr hagree.delegates hagree.motionVotes
    intro q hq
    exact hagree.pollVotes q (mem_pollOn?_iff.mp hq).2

end AgreeOn

/-- The row of an id is that of the first proposal with it. -/
lemma row_eq_ok {id : UInt64} (hfirst : board.proposals.find? (·.id = id) = some p) :
    board.row id config phrasing present = .ok (board.shownRow config phrasing present p) := by
  unfold row
  rw [hfirst]
  rfl

/-- The first of all rows with an id is that of the first proposal with it. -/
lemma find?_rows_eq_some {id : UInt64} (hfirst : board.proposals.find? (·.id = id) = some p) :
    (board.rows config phrasing present).find? (·.id = id) =
      some (board.shownRow config phrasing present p) := by
  rw [find?_rows, hfirst]
  rfl

/-- Boards that agree on a proposal show the same row for it, looked up by its id and among all
rows, however they differ in the other proposals and their votes. -/
theorem row_eq_of_agreeOn (hagree : board.AgreeOn other p)
    (hpresent : board.now = none → present' = present) (config : Config)
    (phrasing : TimePhrasing) :
    ∃ r, board.row p.id config phrasing present = .ok r ∧
      other.row p.id config phrasing present' = .ok r ∧
      (board.rows config phrasing present).find? (·.id = p.id) = some r ∧
      (other.rows config phrasing present').find? (·.id = p.id) = some r := by
  have hrow : other.shownRow config phrasing present' p =
      board.shownRow config phrasing present p :=
    hagree.shownRow_eq hpresent
  refine ⟨board.shownRow config phrasing present p, ?_, ?_, ?_, ?_⟩
  · exact row_eq_ok hagree.first
  · rw [row_eq_ok hagree.firstOfOther, hrow]
  · exact find?_rows_eq_some hagree.first
  · rw [find?_rows_eq_some hagree.firstOfOther, hrow]

/-- An active proposal with a poll and a motion on it. -/
def debated : Proposal :=
  { Proposal.blank 1 with status := .active, transactionHash := "0xfeed" }

/-- A board with that proposal alone. -/
def quiet : Board :=
  { Board.blank 100 with
    proposals := [debated]
    polls := [{ Poll.blank "poll" with body := "on 0xfeed", state := .active }]
    motions := [{ Motion.blank 7 with externalId := some 1 }]
    delegates := [⟨"0xa", ["11", "12"]⟩]
    proposalVotes := .ofList [(1, [⟨"0xa", 1⟩])]
    pollVotes := .ofList [("poll", [⟨"0xa", 1, 1⟩])]
    motionVotes := .ofList [(7, [⟨"0xa", 0⟩])] }

/-- The same board among other proposals and votes. Some of these are cast under the numbers of the
proposal and of the motion, but into other tables. -/
def crowded : Board :=
  { quiet with
    proposals := [.blank 7, debated, { Proposal.blank 1 with title := "twin" }]
    proposalVotes := .ofList [(7, [⟨"0xa", 2⟩]), (1, [⟨"0xa", 1⟩])]
    pollVotes := .ofList [("poll", [⟨"0xa", 1, 1⟩]), ("other", [⟨"0xa", 1, 2⟩])]
    motionVotes := .ofList [(1, [⟨"0xa", 1⟩]), (7, [⟨"0xa", 0⟩])] }

/-- The row of a proposal on a board of its own and among others. -/
theorem row_eq_of_agreeOn_crowded :
    quiet.AgreeOn crowded debated ∧ (quiet.now = none → Instant.epoch = Instant.epoch) ∧
      ∃ r, quiet.row 1 {} humanized .epoch = .ok r ∧ crowded.row 1 {} humanized .epoch = .ok r ∧
        (quiet.rows {} humanized .epoch).find? (·.id = 1) = some r ∧
        (crowded.rows {} humanized .epoch).find? (·.id = 1) = some r := by
  have hmotion : debated.motion? quiet.motions =
      some { Motion.blank 7 with externalId := some 1 } := by
    decide
  have hagree : quiet.AgreeOn crowded debated := by
    refine ⟨rfl, rfl, rfl, rfl, rfl, by decide, by decide, by decide, ?_, ?_⟩
    · intro m hm
      rw [hmotion] at hm
      cases hm
      decide
    · intro q hq
      have hmem := List.mem_of_find?_eq_some hq
      cases List.mem_singleton.mp hmem
      rfl
  exact ⟨hagree, fun _ => rfl, row_eq_of_agreeOn hagree (fun _ => rfl) {} humanized⟩

end ProposalBoard.Board
