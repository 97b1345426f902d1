import ProposalBoard.Proofs.MotionTimeLine

/-!
# Captions and instants of time lines

A time line chooses its caption and its instant by two separate chains of comparisons. The caption
should fit the instant: a start that is not past, the end of a vote that is open, or an end that is
past (`TimeLine.Pairs`). For known instants in their order there are four positions of now, and one
lemma for each says what the time line is (`between_of_le_start`, `between_of_open`,
`between_of_closing`, `between_of_over`). The main statement `pairs_iff_not_closesNow` says that
caption and instant fit in all positions but one, the very instant of the end, where the end is
captioned as a start. That this is so for a primary vote, a motion and a poll is shown by
`closing_pairs_start_with_end`.
-/

namespace ProposalBoard

namespace TimeLine

variable {start close now : Instant} {whileOpen : Caption} {line : TimeLine}

/-- The caption of a time line goes with its instant and with the present one. -/
def Pairs (start close now : Instant) (line : TimeLine) : Prop :=
  match line.caption with
  | .starts => now ≤ start ∧ line.instant = some start
  | .ends | .pollEnds => start < now ∧ now < close ∧ line.instant = some close
  | .ended => close ≤ now ∧ line.instant = some close

/-- A vote that has been open ends at this very instant. -/
def ClosesNow (start close now : Instant) : Prop :=
  start < now ∧ now = close

/-- Caption and instant go together unless the vote ends now. In this case a start is captioned that
is the end. -/
structure PairsUnlessClosing (start close now : Instant) (line : TimeLine) : Prop where
  pairs_iff : Pairs start close now line ↔ ¬ClosesNow start close now
  closing : ClosesNow start close now → line = ⟨.starts, some close⟩
  starts_iff : line.caption = .starts ↔ now ≤ start ∨ ClosesNow start close now

/-! ## Positions of now -/

/-- Until a vote opens, its start is told. -/
lemma between_of_le_start (hnow : now ≤ start) (horder : start ≤ close) :
    between (some start) (some close) now whileOpen = ⟨.starts, some start⟩ := by
  have hstart : ¬start < now := Instant.not_lt_of_le hnow
  have hclose : ¬close < now := Instant.not_lt_of_le (Instant.le_trans hnow horder)
  simp [between, isPast, hstart, hclose]

/-- While a vote is open, its end is told. -/
lemma between_of_open (hstart : start < now) (hclose : now < close) :
    between (some start) (some close) now whileOpen = ⟨whileOpen, some close⟩ := by
  simp [between, isPast, isAhead, hstart, hclose]

/-- When a vote closes, its end is told under the caption of a start, since it is neither past nor
ahead. -/
lemma between_of_closing (hstart : start < now) :
    between (some start) (some now) now whileOpen = ⟨.starts, some now⟩ := by
  simp [between, isPast, isAhead, hstart, Instant.lt_irrefl]

/-- When a vote is over, its end is told. -/
lemma between_of_over (horder : start ≤ close) (hclose : close < now) :
    between (some start) (some close) now whileOpen = ⟨.ended, some close⟩ := by
  have hstart : start < now := Instant.lt_of_le_of_lt horder hclose
  have hahead : ¬now < close := Instant.lt_asymm hclose
  simp [between, isPast, isAhead, hstart, hclose, hahead]

/-- There is no other position of now. -/
lemma position (start close now : Instant) :
    now ≤ start ∨ (start < now ∧ now < close) ∨ ClosesNow start close now ∨ close < now := by
  by_cases hstart : start < now
  · by_cases hahead : now < close
    · exact .inr (.inl ⟨hstart, hahead⟩)
    · by_cases hover : close < now
      · exact .inr (.inr (.inr hover))
      · exact .inr (.inr (.inl ⟨hstart, Instant.eq_of_not_lt hahead hover⟩))
  · exact .inl (Instant.le_of_not_lt hstart)

/-- Unless the vote ends now, the caption of a time line goes with its instant. -/
lemma pairs_between (hopen : whileOpen = .ends ∨ whileOpen = .pollEnds) (horder : start ≤ close)
    (hclosing : ¬ClosesNow start close now) :
    Pairs start close now (between (some start) (some close) now whileOpen) := by
  rcases position start close now with hnow | ⟨hstart, hclose⟩ | hnow | hover
  · rw [between_of_le_start hnow horder]
    exact ⟨hnow, rfl⟩
  · rw [between_of_open hstart hclose]
    rcases hopen with rfl | rfl <;> exact ⟨hstart, hclose, rfl⟩
  · exact absurd hnow hclosing
  · rw [between_of_over horder hover]
    exact ⟨Instant.le_of_not_lt (Instant.lt_asymm hover), rfl⟩

/-- A start is captioned until the vote opens, and once more when it closes. -/
lemma caption_between_eq_starts_iff (hopen : whileOpen = .ends ∨ whileOpen = .pollEnds)
    (horder : start ≤ close) :
    (between (some start) (some close) now whileOpen).caption = .starts ↔
      now ≤ start ∨ ClosesNow start close now := by
  rcases position start close now with hnow | ⟨hstart, hclose⟩ | hnow | hover
  · rw [between_of_le_start hnow horder]
    exact iff_of_true rfl (.inl hnow)
  · rw [between_of_open hstart hclose]
    refine iff_of_false ?_ ?_
    · rcases hopen with rfl | rfl <;> nofun
    · rintro (hnow | ⟨-, rfl⟩)
      · exact Instant.not_lt_of_le hnow hstart
      · exact Instant.lt_irrefl _ hclose
  · obtain ⟨hstart, rfl⟩ := hnow
    rw [between_of_closing hstart]
    exact iff_of_true rfl (.inr ⟨hstart, rfl⟩)
  · rw [between_of_over horder hover]
    refine iff_of_false nofun ?_
    rintro (hnow | ⟨-, rfl⟩)
    · exact Instant.not_lt_of_le (Instant.le_trans hnow horder) hover
    · exact Instant.lt_irrefl _ hover

/-- The time line of a vote between two known instants pairs caption and instant unless the vote
ends now. -/
lemma pairsUnlessClosing_between (hopen : whileOpen = .ends ∨ whileOpen = .pollEnds)
    (horder : start ≤ close) :
    PairsUnlessClosing start close now (between (some start) (some close) now whileOpen) := by
  have hline : ClosesNow start close now →
      between (some start) (some close) now whileOpen = ⟨.starts, some close⟩ := by
    rintro ⟨hstart, rfl⟩
    exact between_of_closing hstart
  refine ⟨⟨?_, pairs_between hopen horder⟩, hline, caption_between_eq_starts_iff hopen horder⟩
  intro hpairs hclosing
  rw [hline hclosing] at hpairs
  exact Instant.not_lt_of_le hpairs.1 hclosing.1

/-! ## Votes -/

/-- For known instants of start and end, in this order, the caption of a time line goes with its
instant exactly if the vote, when it has been open, does not end now. This holds for the time line
of the primary vote, for that of a motion with whatever poll, and for that of a poll. -/
theorem pairs_iff_not_closesNow (clock : ChainClock) (config : Config) (start close : Instant)
    (horder : start ≤ close) :
    (∀ p : Proposal, clock.blockTime? p.startBlock config.averageBlockSeconds = some start →
      clock.blockTime? p.endBlock config.averageBlockSeconds = some close →
        PairsUnlessClosing start close clock.now (ofProposal p clock config)) ∧
    (∀ (m : Motion) (poll : Option Poll),
      clock.blockTime? m.startBlock config.averageBlockSeconds = some start →
      clock.blockTime? m.endBlock config.averageBlockSeconds = some close →
        ∃ line, ofMetagov clock poll (some m) config = some line ∧
          PairsUnlessClosing start close clock.now line) ∧
    ∀ q : Poll, q.startTime? = some start → q.endTime? = some close →
      ∃ line, ofMetagov clock (some q) none config = some line ∧
        PairsUnlessClosing start close clock.now line := by
  refine ⟨?_, ?_, ?_⟩
  · intro p hstart hclose
    simp only [ofProposal, hstart, hclose]
    exact pairsUnlessClosing_between (.inl rfl) horder
  · intro m poll hstart hclose
    refine ⟨ofMotion m clock config, rfl, ?_⟩
    simp only [ofMotion, hstart, hclose]
    exact pairsUnlessClosing_between (.inl rfl) horder
  · intro q hstart hclose
    refine ⟨ofPoll q clock.now, rfl, ?_⟩
    simp only [ofPoll, hstart, hclose]
    exact pairsUnlessClosing_between (.inr rfl) horder

open Countdown (closing closingClock closingPoll)

/-- In the midst of a primary vote its end is captioned as one to come, and a minute after a poll
its end as past. -/
theorem pairs_iff_not_closesNow_midway :
    (∃ start close : Instant,
      (⟨900, .epoch⟩ : ChainClock).blockTime? closing.startBlock 12 = some start ∧
      (⟨900, .epoch⟩ : ChainClock).blockTime? closing.endBlock 12 = some close ∧ start ≤ close ∧
      Pairs start close .epoch (ofProposal closing ⟨900, .epoch⟩ {}) ∧
      (ofProposal closing ⟨900, .epoch⟩ {}).caption = .ends) ∧
    ∃ (start close now : Instant) (line : TimeLine), closingPoll.startTime? = some start ∧
      closingPoll.endTime? = some close ∧ start ≤ close ∧
      ofMetagov ⟨900, now⟩ (some closingPoll) none {} = some line ∧
      Pairs start close now line ∧ line.caption = .ended := by
  constructor
  · have horder : (⟨-2400, 0, by decide, by decide, by decide⟩ : Instant) ≤
        ⟨1200, 0, by decide, by decide, by decide⟩ := by decide
    obtain ⟨hprimary, -, -⟩ := pairs_iff_not_closesNow ⟨900, .epoch⟩ {} _ _ horder
    refine ⟨_, _, by decide, by decide, horder, ?_, by decide⟩
    apply (hprimary closing (by decide) (by decide)).pairs_iff.mpr
    unfold ClosesNow
    decide
  · have horder : (⟨-3600, 0, by decide, by decide, by decide⟩ : Instant) ≤ .epoch := by decide
    obtain ⟨-, -, hpoll⟩ := pairs_iff_not_closesNow
      ⟨900, ⟨60, 0, by decide, by decide, by decide⟩⟩ {} _ _ horder
    obtain ⟨line, hline, hpairs⟩ := hpoll closingPoll (by decide) (by decide)
    refine ⟨_, _, _, line, by decide, by decide, horder, hline, hpairs.pairs_iff.mpr ?_, ?_⟩
    · unfold ClosesNow
      decide
    · cases hline
      decide

/-- In the last block of a primary vote and of a motion, and in the last second of a poll, the end
of the vote is captioned as its start although the vote was open before. -/
theorem closing_pairs_start_with_end :
    ∃ start : Instant, start < .epoch ∧
      (closingClock.blockTime? closing.startBlock 12 = some start ∧
        closingClock.blockTime? closing.endBlock 12 = some .epoch ∧
        ofProposal closing closingClock {} = ⟨.starts, some .epoch⟩) ∧
      ((⟨1300, .epoch⟩ : ChainClock).blockTime? plainMotion.endBlock 12 = some .epoch ∧
        ofMetagov ⟨1300, .epoch⟩ none (some plainMotion) {} = some ⟨.starts, some .epoch⟩) ∧
      (closingPoll.startTime? = some start ∧ closingPoll.endTime? = some .epoch ∧
        ofMetagov closingClock (some closingPoll) none {} = some ⟨.starts, some .epoch⟩) ∧
      ¬Pairs start .epoch .epoch ⟨.starts, some .epoch⟩ := by
  refine ⟨⟨-3600, 0, by decide, by decide, by decide⟩, by decide, by decide, by decide, by decide,
    ?_⟩
  rintro ⟨hnow, -⟩
  revert hnow
  decide

end TimeLine

end ProposalBoard
