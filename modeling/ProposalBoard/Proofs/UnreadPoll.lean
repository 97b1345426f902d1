import ProposalBoard.Proofs.BoardOrder
import ProposalBoard.Proofs.CountdownAhead

/-!
# Polls that are not read

A proposal that the federation handles is shown by its motion, or as one that waits for a motion.
The resolution leaves its poll aside. The countdown does not know from which proposal on the
federation votes; it leaves the poll aside because the status of such a proposal never asks for one
(`Countdown.readsPoll_resolve_of_isManaged`). The main statement `resolve_beside_unread` says that
no poll changes status or countdown of such a proposal, so that a row can go without it.
-/

namespace ProposalBoard

variable {p : Proposal} {block : UInt64} {clock : ChainClock} {poll poll' : Option Poll}
  {motion : Option Motion} {config : Config} {status : DisplayStatus}

/-- The federation handles the proposal: there is a motion on it, or it is one of those that the
federation votes on. -/
def Proposal.IsHandled (p : Proposal) (motion : Option Motion) (config : Config) : Prop :=
  motion.isSome = true ∨ p.IsManaged config

/-- Without a motion, the federation handles the proposals that it votes on. -/
lemma Proposal.isHandled_none_iff : p.IsHandled none config ↔ p.IsManaged config := by
  simp [IsHandled]

/-! ## Status -/

/-- Without a motion, a proposal that the federation votes on waits for one until the primary vote
closes. -/
lemma DisplayStatus.resolve_of_isManaged (hmanaged : p.IsManaged config) :
    resolve p block poll none config = whenOpen p.status metagovAwaitingInitiation := by
  have hmanages : p.isFederationManaged config = true :=
    Proposal.isFederationManaged_iff.mpr hmanaged
  simp only [resolve, hmanages, if_true]

/-- No poll changes the status of a proposal that the federation handles. -/
lemma DisplayStatus.resolve_unread (h : p.IsHandled motion config) :
    resolve p block poll' motion config = resolve p block poll motion config := by
  cases motion with
  | some m => rfl
  | none =>
    have hmanaged : p.IsManaged config := Proposal.isHandled_none_iff.mp h
    rw [resolve_of_isManaged hmanaged, resolve_of_isManaged hmanaged]

/-! ## Countdown -/

namespace Countdown

/-- Without a motion, the status of a proposal that the federation votes on asks for no poll. -/
lemma readsPoll_resolve_of_isManaged (hmanaged : p.IsManaged config) :
    readsPoll (.resolve p block poll none config) = false := by
  rw [DisplayStatus.resolve_of_isManaged hmanaged]
  cases p.status <;> rfl

/-- No poll changes the countdown of a proposal that the federation handles. -/
lemma beside_unread (h : p.IsHandled motion config) :
    beside p clock poll' motion config = beside p clock poll motion config := by
  unfold beside
  cases motion with
  | some m =>
    rw [select_motion, select_motion]
    rfl
  | none =>
    have hmanaged : p.IsManaged config := Proposal.isHandled_none_iff.mp h
    have hselect : ∀ q, select p clock (.resolve p clock.block q none config) q none config =
        ofPrimary p clock config :=
      fun q => select_of_not_readsPoll (readsPoll_resolve_of_isManaged hmanaged)
    rw [hselect, hselect]

end Countdown

/-! ## Rows -/

/-- The status and the countdown that a row of the board would show with the given poll on the
proposal, where the configuration is the effective one. -/
def Board.statusWith (board : Board) (config : Config) (phrasing : TimePhrasing)
    (clock : ChainClock) (p : Proposal) (poll : Option Poll) : DisplayStatus × Option String :=
  let motion := p.motion? board.motions
  let status := DisplayStatus.resolve p clock.block poll motion config
  let countdown := if status.hasCountdown then Countdown.beside p clock poll motion config else none
  (status, countdown.map (·.text config.names phrasing clock.now))

/-- Whichever poll is on a proposal that the federation handles, a row would show the same status
and countdown. -/
lemma Board.statusWith_unread {board : Board} {phrasing : TimePhrasing}
    (h : p.IsHandled (p.motion? board.motions) config) :
    board.statusWith config phrasing clock p poll' =
      board.statusWith config phrasing clock p poll := by
  have hstatus : DisplayStatus.resolve p clock.block poll' (p.motion? board.motions) config =
      DisplayStatus.resolve p clock.block poll (p.motion? board.motions) config :=
    DisplayStatus.resolve_unread h
  have hcountdown : Countdown.beside p clock poll' (p.motion? board.motions) config =
      Countdown.beside p clock poll (p.motion? board.motions) config :=
    Countdown.beside_unread h
  simp only [statusWith, hstatus, hcountdown]

/-- Whichever poll is on a proposal that the federation handles, or none, the status is the same and
so is the countdown beside it. Hence the row shows them as it would with any poll. -/
theorem resolve_beside_unread :
    (∀ (p : Proposal) (clock : ChainClock) (motion : Option Motion) (config : Config),
      p.IsHandled motion config → ∀ poll poll' : Option Poll,
        DisplayStatus.resolve p clock.block poll' motion config =
            DisplayStatus.resolve p clock.block poll motion config ∧
          Countdown.beside p clock poll' motion config =
            Countdown.beside p clock poll motion config) ∧
    ∀ (board : Board) (config : Config) (phrasing : TimePhrasing) (present : Instant)
      (p : Proposal),
      p.IsHandled (p.motion? board.motions) (board.effectiveConfig config) →
        ∀ poll : Option Poll,
          ((board.shownRow config phrasing present p).status,
              (board.shownRow config phrasing present p).countdown) =
            board.statusWith (board.effectiveConfig config) phrasing (board.clock present) p
              poll := by
  constructor
  · intro p clock motion config h poll poll'
    exact ⟨DisplayStatus.resolve_unread h, Countdown.beside_unread h⟩
  · intro board config phrasing present p h poll
    -- the row has the status and the countdown with the poll that the board leaves to it
    have hrow : ((board.shownRow config phrasing present p).status,
          (board.shownRow config phrasing present p).countdown) =
        board.statusWith (board.effectiveConfig config) phrasing (board.clock present) p
          (board.pollOn? (board.effectiveConfig config) p) := rfl
    rw [hrow]
    exact Board.statusWith_unread h

/-- An active proposal. -/
def contested : Proposal :=
  { Proposal.blank 5 with status := .active, endBlock := 400, transactionHash := "0xfeed" }

/-- An open poll that mentions the proposal. -/
def openPoll : Poll :=
  { Poll.blank "poll" with body := "on 0xfeed", state := .active, start := -60, close := 7200 }

/-- The federation votes on the proposal. -/
def managing : Config := { federationThreshold := some 5 }

/-- A board with the proposal and the poll. -/
def contestedBoard : Board :=
  { Board.blank 100 with now := some .epoch, proposals := [contested], polls := [openPoll] }

/-- Where the federation votes on the proposal, the open poll is as good as none, on its own and on
the board. Where it does not, the poll tells the status. -/
theorem resolve_beside_unread_openPoll :
    (contested.IsHandled none managing ∧
      DisplayStatus.resolve contested 100 none none managing =
        DisplayStatus.resolve contested 100 (some openPoll) none managing ∧
      Countdown.beside contested ⟨100, .epoch⟩ none none managing =
        Countdown.beside contested ⟨100, .epoch⟩ (some openPoll) none managing ∧
      DisplayStatus.resolve contested 100 none none {} ≠
        DisplayStatus.resolve contested 100 (some openPoll) none {}) ∧
    contested.IsHandled (contested.motion? contestedBoard.motions)
        (contestedBoard.effectiveConfig managing) ∧
      ((contestedBoard.shownRow managing humanized .epoch contested).status,
          (contestedBoard.shownRow managing humanized .epoch contested).countdown) =
        contestedBoard.statusWith (contestedBoard.effectiveConfig managing) humanized
          (contestedBoard.clock .epoch) contested (some openPoll) := by
  have hmanaged : contested.IsHandled none managing := .inr ⟨5, rfl, by decide⟩
  have hboard : contested.IsHandled (contested.motion? contestedBoard.motions)
      (contestedBoard.effectiveConfig managing) :=
    .inr ⟨5, rfl, by decide⟩
  obtain ⟨hpair, hrow⟩ := resolve_beside_unread
  obtain ⟨hstatus, hcountdown⟩ :=
    hpair contested ⟨100, .epoch⟩ none managing hmanaged (some openPoll) none
  exact ⟨⟨hmanaged, hstatus, hcountdown, by decide⟩, hboard,
    hrow contestedBoard managing humanized .epoch contested hboard (some openPoll)⟩

end ProposalBoard
