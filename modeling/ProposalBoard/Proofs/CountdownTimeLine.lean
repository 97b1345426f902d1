import ProposalBoard.Proofs.CountdownAhead
import ProposalBoard.TimeLine

/-!
# Countdowns beside time lines

The list of proposals shows a countdown and the page of a proposal a time line. Both tell where a
vote between two instants stands, each by a chain of comparisons of its own. The main statement
`select_agrees_timeLine` says that they agree (`Countdown.Agrees`): under the statuses that read no
motion, the countdown agrees with the time line of the primary vote, and under those that read a
poll, with the time line of the poll. It also says what makes the one instant unknown that the time
lines do not show, the one at which a queued proposal expires.
-/

namespace ProposalBoard.Countdown

variable {p : Proposal} {clock : ChainClock} {poll : Option Poll} {motion : Option Motion}
  {q : Poll} {config : Config} {status : DisplayStatus} {start close later : Option Instant}
  {now : Instant} {before during after : Kind} {whileOpen : TimeLine.Caption}

/-- A countdown agrees with the time line of the same vote. It is of one kind before the vote, of
another while it is open and of a third after it. While the vote is open both tell the same
instant; before it the countdown goes to the start, and after it to a later instant. -/
structure Agrees (countdown : Option Countdown) (line : TimeLine) (before during after : Kind)
    (whileOpen : TimeLine.Caption) (start later : Option Instant) : Prop where
  kind : ∀ c ∈ countdown, c.kind = before ∨ c.kind = during ∨ c.kind = after
  during_iff : (∃ c ∈ countdown, c.kind = during) ↔ line.caption = whileOpen
  during : ∀ c ∈ countdown, c.kind = during → line.instant = some c.instant
  before : ∀ c ∈ countdown, c.kind = before →
    line.caption = .starts ∧ start = some c.instant
  after : ∀ c ∈ countdown, c.kind = after → line.caption = .ended ∧ later = some c.instant
  none_iff : countdown = none ↔
    (line.caption = .starts ∧ start = none) ∨ (line.caption = .ended ∧ later = none)

/-- Where a vote between two instants stands, by its countdown and by its time line. -/
inductive Stands (start close later : Option Instant) (before during after : Kind)
    (whileOpen : TimeLine.Caption) : Option Countdown → TimeLine → Prop where
  | isOpen {t : Instant} :
    Stands start close later before during after whileOpen
      (some ⟨during, t⟩) ⟨whileOpen, some t⟩
  | isOver {instant : Option Instant} :
    Stands start close later before during after whileOpen
      (toward after later) ⟨.ended, instant⟩
  | isAwaited {instant : Option Instant} :
    Stands start close later before during after whileOpen
      (toward before start) ⟨.starts, instant⟩

/-- The two chains of comparisons take the same turns. -/
lemma stands_ofVote :
    Stands start close later before during after whileOpen
      (ofVote start close later now before during after)
      (.between start close now whileOpen) := by
  unfold ofVote TimeLine.between
  by_cases hopen : (isPast start now && isAhead close now) = true
  · rw [if_pos hopen, if_pos hopen]
    obtain ⟨hpast, hahead⟩ := Bool.and_eq_true_iff.mp hopen
    rw [if_pos hpast]
    cases close with
    | none => cases hahead
    | some t => exact .isOpen
  · rw [if_neg hopen, if_neg hopen]
    by_cases hover : isPast close now = true
    · rw [if_pos hover, if_pos hover]
      exact .isOver
    · rw [if_neg hover, if_neg hover]
      exact .isAwaited

/-- A countdown toward an instant is of its kind, and it is missing when the instant is. -/
lemma mem_toward_iff {kind : Kind} {instant : Option Instant} {c : Countdown} :
    c ∈ toward kind instant ↔ c.kind = kind ∧ instant = some c.instant := by
  cases instant with
  | none => simp [toward]
  | some t => cases c; simp [toward, eq_comm]

/-- There is no countdown toward an instant exactly if it is unknown. -/
lemma toward_eq_none_iff {kind : Kind} {instant : Option Instant} :
    toward kind instant = none ↔ instant = none := by
  cases instant <;> simp [toward]

/-- Where the kinds and the captions of before, during and after are different ones, countdown and
time line agree. -/
lemma Stands.agrees {countdown : Option Countdown} {line : TimeLine}
    (h : Stands start close later before during after whileOpen countdown line)
    (hbefore : before ≠ during) (hafter : after ≠ during) (hapart : before ≠ after)
    (hstarts : TimeLine.Caption.starts ≠ whileOpen) (hended : TimeLine.Caption.ended ≠ whileOpen) :
    Agrees countdown line before during after whileOpen start later := by
  cases h with
  | @isOpen t =>
    refine ⟨?_, ?_, ?_, ?_, ?_, ?_⟩
    · rintro c ⟨⟩
      exact .inr (.inl rfl)
    · exact iff_of_true ⟨_, rfl, rfl⟩ rfl
    · rintro c ⟨⟩ -
      rfl
    · rintro c ⟨⟩ hkind
      exact absurd hkind.symm hbefore
    · rintro c ⟨⟩ hkind
      exact absurd hkind.symm hafter
    · refine iff_of_false nofun ?_
      rintro (⟨hcaption, -⟩ | ⟨hcaption, -⟩)
      · exact hstarts hcaption.symm
      · exact hended hcaption.symm
  | isOver =>
    refine ⟨?_, ?_, ?_, ?_, ?_, ?_⟩
    · intro c hc
      exact .inr (.inr (mem_toward_iff.mp hc).1)
    · refine iff_of_false ?_ hended
      rintro ⟨c, hc, hkind⟩
      exact hafter ((mem_toward_iff.mp hc).1.symm.trans hkind)
    · intro c hc hkind
      exact absurd ((mem_toward_iff.mp hc).1.symm.trans hkind) hafter
    · intro c hc hkind
      exact absurd (hkind.symm.trans (mem_toward_iff.mp hc).1) hapart
    · intro c hc _
      exact ⟨rfl, (mem_toward_iff.mp hc).2⟩
    · simp [toward_eq_none_iff]
  | isAwaited =>
    refine ⟨?_, ?_, ?_, ?_, ?_, ?_⟩
    · intro c hc
      exact .inl (mem_toward_iff.mp hc).1
    · refine iff_of_false ?_ hstarts
      rintro ⟨c, hc, hkind⟩
      exact hbefore ((mem_toward_iff.mp hc).1.symm.trans hkind)
    · intro c hc hkind
      exact absurd ((mem_toward_iff.mp hc).1.symm.trans hkind) hbefore
    · intro c hc _
      exact ⟨rfl, (mem_toward_iff.mp hc).2⟩
    · intro c hc hkind
      exact absurd ((mem_toward_iff.mp hc).1.symm.trans hkind) hapart
    · simp [toward_eq_none_iff]

/-! ## Selection -/

/-- A status that reads no motion reads no poll. -/
lemma readsPoll_of_not_readsMotion : readsMotion status = false → readsPoll status = false := by
  cases status <;> decide

/-- Under a status that reads no motion, the selection asks for the countdown of the primary
vote. -/
lemma select_of_not_readsMotion (hreads : readsMotion status = false) :
    select p clock status poll motion config = ofPrimary p clock config := by
  cases motion with
  | some m =>
    rw [select_motion, hreads]
    exact if_neg Bool.false_ne_true
  | none => exact select_of_not_readsPoll (readsPoll_of_not_readsMotion hreads)

/-- Countdown and time line of the primary vote agree. -/
lemma agrees_ofPrimary :
    Agrees (ofPrimary p clock config) (.ofProposal p clock config) .starts .ends .expires .ends
      (clock.blockTime? p.startBlock config.averageBlockSeconds) (expiry? p config) :=
  stands_ofVote.agrees nofun nofun nofun nofun nofun

/-- Countdown and time line of a poll agree. -/
lemma agrees_ofPoll :
    Agrees (ofPoll q now later) (.ofPoll q now) .metagovStarts .metagovEnds .primaryEnds .pollEnds
      q.startTime? later :=
  stands_ofVote.agrees nofun nofun nofun nofun nofun

/-- The instant at which a queued proposal expires is unknown if it has no eta or the days of grace
lead out of range. -/
lemma expiry?_eq_none_iff :
    expiry? p config = none ↔
      p.eta = none ∨ ∃ eta ∈ p.eta, eta.OutOfReach (config.expiryGraceDays.toInt * 86400) := by
  unfold expiry?
  cases p.eta with
  | none => simp
  | some eta => simp [Instant.addSeconds?_eq_none_iff]

/-- Under every status that reads no motion, the countdown agrees with the time line of the primary
vote, and goes to the instant days of grace behind the eta when that vote is over. For a poll
without a motion and under every status that reads it, the countdown agrees with the time line of
the poll, and goes to the end of the primary vote when the poll is over. -/
theorem select_agrees_timeLine :
    (∀ (p : Proposal) (clock : ChainClock) (status : DisplayStatus) (poll : Option Poll)
      (motion : Option Motion) (config : Config), readsMotion status = false →
        Agrees (select p clock status poll motion config) (.ofProposal p clock config)
          .starts .ends .expires .ends
          (clock.blockTime? p.startBlock config.averageBlockSeconds) (expiry? p config)) ∧
    (∀ (p : Proposal) (config : Config),
      (expiry? p config = none ↔
        p.eta = none ∨ ∃ eta ∈ p.eta, eta.OutOfReach (config.expiryGraceDays.toInt * 86400)) ∧
      ∀ t, expiry? p config = some t ↔
        ∃ eta ∈ p.eta, eta.addSeconds? (config.expiryGraceDays.toInt * 86400) = some t) ∧
    (∀ (p : Proposal) (clock : ChainClock) (status : DisplayStatus) (q : Poll) (config : Config),
      readsPoll status = true →
        ∃ line, TimeLine.ofMetagov clock (some q) none config = some line ∧
          Agrees (select p clock status (some q) none config) line
            .metagovStarts .metagovEnds .primaryEnds .pollEnds
            q.startTime? (clock.blockTime? p.endBlock config.averageBlockSeconds)) := by
  refine ⟨?_, ?_, ?_⟩
  · intro p clock status poll motion config hreads
    rw [select_of_not_readsMotion hreads]
    exact agrees_ofPrimary
  · intro p config
    exact ⟨expiry?_eq_none_iff, fun t => Option.bind_eq_some_iff⟩
  · intro p clock status q config hreads
    rw [select_poll, hreads, if_pos rfl]
    exact ⟨_, rfl, agrees_ofPoll⟩

/-- In the last block of a vote and in the last second of a poll, countdown and time line agree that
the vote has yet to start. -/
theorem select_agrees_timeLine_closing :
    (readsMotion .active = false ∧
      Agrees (select closing closingClock .active none none {})
        (.ofProposal closing closingClock {}) .starts .ends .expires .ends
        (closingClock.blockTime? 700 12) none ∧
      (select closing closingClock .active none none {}).isSome = true) ∧
    readsPoll .metagovActive = true ∧
      ∃ line, TimeLine.ofMetagov closingClock (some closingPoll) none {} = some line ∧
        Agrees (select closing closingClock .metagovActive (some closingPoll) none {}) line
          .metagovStarts .metagovEnds .primaryEnds .pollEnds closingPoll.startTime?
          (closingClock.blockTime? 1000 12) ∧
        line.caption = .starts := by
  obtain ⟨hprimary, -, hpoll⟩ := select_agrees_timeLine
  obtain ⟨line, hline, hagrees⟩ := hpoll closing closingClock .metagovActive closingPoll {} rfl
  refine ⟨⟨rfl, hprimary closing closingClock .active none none {} rfl, by decide⟩, rfl, line,
    hline, hagrees, ?_⟩
  cases hline
  decide

end ProposalBoard.Countdown
