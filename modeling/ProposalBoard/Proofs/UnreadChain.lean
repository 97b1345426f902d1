import ProposalBoard.Proofs.Action
import ProposalBoard.Proofs.CountdownTimeLine
import ProposalBoard.Proofs.MotionStart
import ProposalBoard.Proofs.RowCoherence
import ProposalBoard.Proofs.UnreadPoll

/-!
# Boards before the chain is read

A board whose latest block is zero has not read the chain yet. Zero is a block number like any other
to the window of a motion, which would place it in a phase, often the execution window. Nothing on a
row may come from there (`Row.Unplaced`): no block is placed in time, no motion is ready to execute,
and none has expired by its end block. The times of a poll are instants and need no block, so its
countdown remains. The main statement `unplaced_of_mem_rows` says that this holds for every row of
such a board.
-/

namespace ProposalBoard

variable {p : Proposal} {clock : ChainClock} {poll : Option Poll} {m : Motion} {q : Poll}
  {config : Config} {status : DisplayStatus} {c : Countdown}

/-- While the chain has not been read, no block has a time. -/
lemma ChainClock.blockTime?_of_unread (hunread : clock.block = 0) (block seconds : UInt64) :
    clock.blockTime? block seconds = none := by
  have hloaded : clock.isLoaded = false := by
    unfold isLoaded
    rw [hunread]
    rfl
  unfold blockTime?
  rw [hloaded]
  rfl

/-! ## Time lines -/

namespace TimeLine

/-- The time line of a vote of which neither start nor end is known. -/
def untold : TimeLine := ⟨.starts, none⟩

/-- While the chain has not been read, the time line of the primary vote tells no instant. -/
lemma ofProposal_of_unread (hunread : clock.block = 0) : ofProposal p clock config = untold := by
  simp only [ofProposal, ChainClock.blockTime?_of_unread hunread]
  rfl

/-- While the chain has not been read, the time line of a motion tells no instant. -/
lemma ofMotion_of_unread (hunread : clock.block = 0) : ofMotion m clock config = untold := by
  simp only [ofMotion, ChainClock.blockTime?_of_unread hunread]
  rfl

end TimeLine

/-! ## Countdowns -/

namespace Countdown

/-- The countdown announces the start or the end of the poll. -/
def IsAboutPoll (c : Countdown) (q : Poll) : Prop :=
  (c.kind = .metagovStarts ∧ q.startTime? = some c.instant) ∨
    (c.kind = .metagovEnds ∧ q.endTime? = some c.instant)

/-- While the chain has not been read, the primary vote has no countdown. -/
lemma ofPrimary_of_unread (hunread : clock.block = 0) : ofPrimary p clock config = none := by
  simp only [ofPrimary, ChainClock.blockTime?_of_unread hunread]
  rfl

/-- Whatever the phase of a motion, its countdown goes to a block. -/
lemma ofMotion_of_unread (hunread : clock.block = 0) : ofMotion m clock none config = none := by
  simp only [ofMotion, ChainClock.blockTime?_of_unread hunread]
  split
  case h_2 => split <;> rfl
  all_goals rfl

/-- While the chain has not been read, a proposal with a motion has no countdown. -/
lemma select_of_unread_of_motion (hunread : clock.block = 0) :
    select p clock status poll (some m) config = none := by
  rw [select_motion, ChainClock.blockTime?_of_unread hunread]
  split
  · exact ofMotion_of_unread hunread
  · exact ofPrimary_of_unread hunread

/-- Without the end of the primary vote, the countdown of a poll is about the poll. -/
lemma isAboutPoll_of_mem_ofPoll {now : Instant} (hc : c ∈ ofPoll q now none) : c.IsAboutPoll q := by
  unfold ofPoll at hc
  split at hc
  · exact .inr (mem_toward_iff.mp hc)
  · split at hc
    · cases hc
    · exact .inl (mem_toward_iff.mp hc)

/-- While the chain has not been read, there is a countdown only for a poll without a motion, under
a status that reads the poll. -/
lemma mem_select_of_unread {motion : Option Motion} (hunread : clock.block = 0)
    (hc : c ∈ select p clock status poll motion config) :
    motion = none ∧ readsPoll status = true ∧ ∃ q ∈ poll, c.IsAboutPoll q := by
  cases motion with
  | some m =>
    rw [select_of_unread_of_motion hunread] at hc
    cases hc
  | none =>
    cases poll with
    | none =>
      rw [select_none, ofPrimary_of_unread hunread] at hc
      cases hc
    | some q =>
      rw [select_poll, ChainClock.blockTime?_of_unread hunread] at hc
      split at hc
      · next hreads => exact ⟨rfl, hreads, q, rfl, isAboutPoll_of_mem_ofPoll hc⟩
      · rw [ofPrimary_of_unread hunread] at hc
        cases hc

/-- A poll is read under the statuses of a vote of the second community that is open or closed. -/
lemma readsPoll_iff :
    readsPoll status = true ↔ status = .metagovActive ∨ status = .metagovClosed := by
  cases status <;> simp [readsPoll]

end Countdown

/-! ## Rows -/

/-- Nothing on the row of a proposal is placed in time by a block. -/
structure Row.Unplaced (r : Row) (board : Board) (config : Config) (phrasing : TimePhrasing)
    (clock : ChainClock) (p : Proposal) : Prop where
  timeLine : r.timeLine = .untold
  ofMotion : r.motionId.isSome = true → r.metagovTimeLine = some .untold ∧ r.countdown = none
  countdown : ∀ text ∈ r.countdown,
    r.motionId = none ∧ (r.status = .metagovActive ∨ r.status = .metagovClosed) ∧
      ∃ q ∈ board.pollOn? (board.effectiveConfig config) p, r.pollId = some q.id ∧
        ∃ c ∈ Countdown.beside p clock (some q) none (board.effectiveConfig config),
          c.IsAboutPoll q ∧ text = c.text config.names phrasing clock.now
  status : r.status ≠ .metagovAwaitingExecution
  action : r.action ≠ some .castMetagovVote
  expired : r.status = .metagovExpired →
    ∃ m ∈ p.motion? board.motions, r.motionId = some m.id ∧ m.Effectively .expired

namespace Board

variable {board : Board} {phrasing : TimePhrasing} {present : Instant}

/-- The countdown on a row is the one beside its status, in words. -/
lemma mem_countdown_shownRow {text : String}
    (h : text ∈ (board.shownRow config phrasing present p).countdown) :
    ∃ c ∈ Countdown.beside p (board.clock present) (board.pollOn? (board.effectiveConfig config) p)
        (p.motion? board.motions) (board.effectiveConfig config),
      text = c.text config.names phrasing (board.clock present).now := by
  simp only [shownRow, rowOf] at h
  obtain ⟨c, hc, rfl⟩ := Option.map_eq_some_iff.mp h
  split at hc
  · exact ⟨c, hc, rfl⟩
  · cases hc

/-- While the chain has not been read, no motion is shown as ready to execute. -/
lemma status_shownRow_ne_of_unread (hunread : board.currentBlock = 0) :
    (board.shownRow config phrasing present p).status ≠ .metagovAwaitingExecution := by
  intro hstatus
  obtain ⟨-, m, -, -, hread, -⟩ := DisplayStatus.resolve_eq_metagovAwaitingExecution_iff.mp hstatus
  have hzero : (board.clock present).block.toNat = 0 := block_eq_zero_iff.mp hunread
  omega

/-- While the chain has not been read, only a motion that has expired on record is shown as such. -/
lemma expired_of_unread (hunread : board.currentBlock = 0)
    (hstatus : (board.shownRow config phrasing present p).status = .metagovExpired) :
    ∃ m ∈ p.motion? board.motions, m.Effectively .expired := by
  obtain ⟨-, m, hm, hexpired | ⟨-, hread, -⟩⟩ :=
    DisplayStatus.resolve_eq_metagovExpired_iff.mp hstatus
  · exact ⟨m, hm, hexpired⟩
  · have hzero : (board.clock present).block.toNat = 0 := block_eq_zero_iff.mp hunread
    omega

/-- While the chain has not been read, the row of a proposal with a motion has no countdown, and its
time line tells no instant. -/
lemma ofMotion_shownRow_of_unread (hunread : board.currentBlock = 0)
    (hmotion : (board.shownRow config phrasing present p).motionId.isSome = true) :
    (board.shownRow config phrasing present p).metagovTimeLine = some .untold ∧
      (board.shownRow config phrasing present p).countdown = none := by
  rw [motionId_shownRow, Option.isSome_map] at hmotion
  obtain ⟨m, hm⟩ := Option.isSome_iff_exists.mp hmotion
  constructor
  · simp only [shownRow, rowOf, hm, TimeLine.ofMetagov]
    exact congrArg some (TimeLine.ofMotion_of_unread hunread)
  · apply Option.eq_none_iff_forall_not_mem.mpr
    intro text htext
    obtain ⟨c, hc, -⟩ := mem_countdown_shownRow htext
    obtain ⟨hnone, -⟩ := Countdown.mem_select_of_unread hunread hc
    rw [hm] at hnone
    cases hnone

/-- While the chain has not been read, nothing on the row of a proposal is placed in time by a
block. -/
lemma unplaced_shownRow (hunread : board.currentBlock = 0) :
    (board.shownRow config phrasing present p).Unplaced board config phrasing
      (board.clock present) p where
  timeLine := TimeLine.ofProposal_of_unread hunread
  ofMotion := ofMotion_shownRow_of_unread hunread
  countdown text htext := by
    obtain ⟨c, hc, rfl⟩ := mem_countdown_shownRow htext
    obtain ⟨hmotion, hreads, q, hq, habout⟩ := Countdown.mem_select_of_unread hunread hc
    have hpoll : board.pollOn? (board.effectiveConfig config) p = some q := hq
    refine ⟨?_, Countdown.readsPoll_iff.mp hreads, q, hq, ?_, c, ?_, habout, rfl⟩
    · rw [motionId_shownRow, hmotion]
      rfl
    · rw [pollId_shownRow, hpoll]
      rfl
    · rwa [hmotion, hpoll] at hc
  status := status_shownRow_ne_of_unread hunread
  action haction := by
    have hwaits : NextAction.castMetagovVote.WaitsFor p
        (board.shownRow config phrasing present p).status (board.clock present).now :=
      NextAction.ofStatus_eq_some_iff.mp haction
    exact status_shownRow_ne_of_unread hunread hwaits
  expired hstatus := by
    obtain ⟨m, hm, hexpired⟩ := expired_of_unread hunread hstatus
    refine ⟨m, hm, ?_, hexpired⟩
    rw [motionId_shownRow, Option.mem_def.mp hm]
    rfl

/-- On a board that has not read the chain, each row is that of a proposal and nothing on it is
placed in time by a block. -/
theorem unplaced_of_mem_rows (board : Board) (config : Config) (phrasing : TimePhrasing)
    (present : Instant) (hunread : board.currentBlock = 0) :
    ∀ r ∈ board.rows config phrasing present, ∃ p ∈ board.proposals,
      r = board.shownRow config phrasing present p ∧
        r.Unplaced board config phrasing (board.clock present) p := by
  intro r hr
  obtain ⟨p, hp, rfl⟩ := mem_rows_iff.mp hr
  exact ⟨p, hp, rfl, unplaced_shownRow hunread⟩

/-- A board that has not read the chain, with a proposal on which a poll is open and one on which
there is a motion. -/
def unreadBoard : Board :=
  { Board.blank 0 with
    now := some .epoch
    proposals := [contested, Countdown.moved]
    polls := [openPoll]
    motions := [Countdown.upcoming] }

/-- The open poll is counted down to, and the motion is not, although its window places block zero
in the execution window. -/
theorem unplaced_of_mem_rows_openPoll :
    unreadBoard.currentBlock = 0 ∧ (Countdown.upcoming.window {}).phase 0 = .executionWindow ∧
      (∃ r ∈ unreadBoard.rows {} humanized .epoch,
        r.countdown = some "Lil Nouns Voting Ends in 2 hours" ∧ ∃ p ∈ unreadBoard.proposals,
          r = unreadBoard.shownRow {} humanized .epoch p ∧
            r.Unplaced unreadBoard {} humanized (unreadBoard.clock .epoch) p) ∧
      ∃ r ∈ unreadBoard.rows {} humanized .epoch,
        r.motionId = some 1 ∧ ∃ p ∈ unreadBoard.proposals,
          r = unreadBoard.shownRow {} humanized .epoch p ∧
            r.Unplaced unreadBoard {} humanized (unreadBoard.clock .epoch) p := by
  have hunread : unreadBoard.currentBlock = 0 := rfl
  have hpolled : unreadBoard.shownRow {} humanized .epoch contested ∈
      unreadBoard.rows {} humanized .epoch :=
    mem_rows_iff.mpr ⟨contested, List.mem_cons_self, rfl⟩
  have hmoved : unreadBoard.shownRow {} humanized .epoch Countdown.moved ∈
      unreadBoard.rows {} humanized .epoch :=
    mem_rows_iff.mpr ⟨Countdown.moved, List.mem_cons_of_mem _ List.mem_cons_self, rfl⟩
  exact ⟨hunread, by decide, ⟨_, hpolled, by decide +kernel,
    unplaced_of_mem_rows unreadBoard {} humanized .epoch hunread _ hpolled⟩, _, hmoved, by decide,
    unplaced_of_mem_rows unreadBoard {} humanized .epoch hunread _ hmoved⟩

end Board

end ProposalBoard
