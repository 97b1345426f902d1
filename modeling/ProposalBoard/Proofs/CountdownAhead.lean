import ProposalBoard.Proofs.BlockTime
import ProposalBoard.Proofs.Defaults
import ProposalBoard.Proofs.StatusCountdown

/-!
# Countdowns to the future

A countdown to the start or the end of a vote should announce something that is still to come. The
countdown of the primary vote and that of a poll know three cases: the vote is open, it is over,
and otherwise it has not started. The last one also takes a vote that has started but ends at this
very instant, or at an unknown one (`Countdown.Overlooked`). The main statement
`beside_startsAhead_iff` says that a countdown beside a resolved status announces a past start in
this case only, and never a past end. The case does occur (`beside_closing`): a vote in its last
block is said to have started in the past.
-/

namespace ProposalBoard.Countdown

variable {p : Proposal} {clock : ChainClock} {poll : Option Poll} {motion : Option Motion}
  {m : Motion} {q : Poll} {config : Config} {status : DisplayStatus}
  {start close later instant : Option Instant} {now : Instant} {countdown : Option Countdown}
  {kind before during after : Kind}

/-- The kinds that announce the start of a vote. -/
def Kind.isStart : Kind → Bool
  | starts | metagovStarts => true
  | _ => false

/-- The kinds that announce the end of a vote that is open. -/
def Kind.isEnd : Kind → Bool
  | ends | metagovEnds => true
  | _ => false

/-- No start is announced that is past. -/
def StartsAhead (now : Instant) (countdown : Option Countdown) : Prop :=
  ∀ c ∈ countdown, c.kind.isStart = true → ¬c.instant < now

/-- No end is announced that is not after now. -/
def EndsAhead (now : Instant) (countdown : Option Countdown) : Prop :=
  ∀ c ∈ countdown, c.kind.isEnd = true → now < c.instant

/-- A vote has started, and it ends now or at an instant that is not known. -/
def Overlooked (start close : Option Instant) (now : Instant) : Prop :=
  (∃ t ∈ start, t < now) ∧ (close = none ∨ close = some now)

/-! ## Votes between two instants -/

/-- The countdown of a vote between two instants: of one kind while it is open, of another toward
a later instant when it is over, and otherwise of a third toward its start. -/
def ofVote (start close later : Option Instant) (now : Instant) (before during after : Kind) :
    Option Countdown :=
  if isPast start now && isAhead close now then toward during close
  else if isPast close now then toward after later
  else toward before start

/-- The countdown of the primary vote is that of a vote between two blocks. -/
lemma ofPrimary_eq_ofVote :
    ofPrimary p clock config =
      ofVote (clock.blockTime? p.startBlock config.averageBlockSeconds)
        (clock.blockTime? p.endBlock config.averageBlockSeconds) (expiry? p config) clock.now
        .starts .ends .expires :=
  rfl

/-- The countdown of a poll is that of a vote between two instants. -/
lemma ofPoll_eq_ofVote :
    ofPoll q now later =
      ofVote q.startTime? q.endTime? later now .metagovStarts .metagovEnds .primaryEnds :=
  rfl

/-- An instant is past if it is known and before now. -/
lemma isPast_iff : isPast instant now = true ↔ ∃ t ∈ instant, t < now := by
  cases instant <;> simp [isPast]

/-- An instant is ahead if it is known and after now. -/
lemma isAhead_iff : isAhead instant now = true ↔ ∃ t ∈ instant, now < t := by
  cases instant <;> simp [isAhead]

/-- What is past is not ahead. -/
lemma isAhead_eq_false_of_isPast (hpast : isPast instant now = true) :
    isAhead instant now = false := by
  obtain ⟨t, rfl, hlt⟩ := isPast_iff.mp hpast
  exact decide_eq_false (Instant.lt_asymm hlt)

/-- An instant that is neither ahead nor past is unknown or now. -/
lemma none_or_now_iff :
    isAhead instant now = false ∧ isPast instant now = false ↔
      instant = none ∨ instant = some now := by
  cases instant with
  | none => simp [isAhead, isPast]
  | some t =>
    simp only [isAhead, isPast, Option.any_some, decide_eq_false_iff_not, reduceCtorEq,
      Option.some.injEq, false_or]
    constructor
    · rintro ⟨hahead, hpast⟩
      exact Instant.eq_of_not_lt hpast hahead
    · rintro rfl
      exact ⟨Instant.lt_irrefl t, Instant.lt_irrefl t⟩

/-- A vote is overlooked if its start is past and its end neither ahead nor past. -/
lemma overlooked_iff :
    Overlooked start close now ↔
      isPast start now = true ∧ isAhead close now = false ∧ isPast close now = false := by
  unfold Overlooked
  rw [none_or_now_iff, isPast_iff]

/-- A countdown toward an instant announces no past start if it announces none or the instant is
not past. -/
lemma startsAhead_toward_iff :
    StartsAhead now (toward kind instant) ↔ (kind.isStart = true → isPast instant now = false) := by
  cases instant <;> simp [StartsAhead, toward, isPast]

/-- A countdown toward an instant announces no past end if it announces none or the instant is
ahead, as far as it is known. -/
lemma endsAhead_toward_iff :
    EndsAhead now (toward kind instant) ↔
      (kind.isEnd = true → instant.isSome = true → isAhead instant now = true) := by
  cases instant <;> simp [EndsAhead, toward, isAhead]

/-- The countdown of a vote announces the end while that is ahead only. -/
lemma endsAhead_ofVote (hbefore : before.isEnd = false) (hafter : after.isEnd = false) :
    EndsAhead now (ofVote start close later now before during after) := by
  unfold ofVote
  split
  · next hopen =>
    rw [Bool.and_eq_true] at hopen
    rw [endsAhead_toward_iff]
    exact fun _ _ => hopen.2
  · split
    · rw [endsAhead_toward_iff, hafter]
      nofun
    · rw [endsAhead_toward_iff, hbefore]
      nofun

/-- The countdown of a vote announces a past start only if the vote is overlooked. -/
lemma startsAhead_ofVote_iff (hbefore : before.isStart = true) (hduring : during.isStart = false)
    (hafter : after.isStart = false) :
    StartsAhead now (ofVote start close later now before during after) ↔
      ¬Overlooked start close now := by
  rw [overlooked_iff]
  unfold ofVote
  by_cases hopen : (isPast start now && isAhead close now) = true
  · rw [if_pos hopen, startsAhead_toward_iff, hduring]
    rw [Bool.and_eq_true] at hopen
    exact iff_of_true nofun (fun hoverlooked => by simp [hoverlooked.2.1] at hopen)
  · rw [if_neg hopen]
    by_cases hclosed : isPast close now = true
    · rw [if_pos hclosed, startsAhead_toward_iff, hafter]
      exact iff_of_true nofun (fun hoverlooked => by simp [hoverlooked.2.2] at hclosed)
    · rw [if_neg hclosed, startsAhead_toward_iff, hbefore]
      rw [Bool.not_eq_true] at hopen hclosed
      -- the vote is neither open nor over, so a past start is what makes it overlooked
      cases hpast : isPast start now with
      | false => simp
      | true =>
        rw [hpast, Bool.true_and] at hopen
        simp [hopen, hclosed]

/-! ## Votes on motions -/

/-- Blocks take time under a configuration without a fault. -/
lemma averageBlockSeconds_pos (hvalid : config.fault? = none) :
    0 < config.averageBlockSeconds.toNat := by
  unfold Config.fault? at hvalid
  split at hvalid
  · cases hvalid
  · next hzero =>
    rw [← UInt64.toNat_inj, UInt64.toNat_zero] at hzero
    omega

/-- A countdown to a block to come announces nothing that is past. -/
lemma Announces.ahead {block : UInt64}
    (h : Announces countdown kind (clock.blockTime? block config.averageBlockSeconds))
    (hvalid : config.fault? = none) (hblock : clock.block.toNat < block.toNat) :
    StartsAhead clock.now countdown ∧ EndsAhead clock.now countdown := by
  have hlt : ∀ c ∈ countdown, clock.now < c.instant := by
    intro c hc
    exact ChainClock.now_lt_blockTime? (h.2 c hc).2 (averageBlockSeconds_pos hvalid) hblock
  exact ⟨fun c hc _ => Instant.lt_asymm (hlt c hc), fun c hc _ => hlt c hc⟩

/-- A countdown to something other than the start of a vote or its end announces neither. -/
lemma Announces.ahead_of_kind (h : Announces countdown kind instant)
    (hstart : kind.isStart = false) (hend : kind.isEnd = false) :
    StartsAhead now countdown ∧ EndsAhead now countdown := by
  constructor
  · intro c hc hkind
    rw [(h.2 c hc).1, hstart] at hkind
    cases hkind
  · intro c hc hkind
    rw [(h.2 c hc).1, hend] at hkind
    cases hkind

/-- A countdown that fits the vote on a motion announces nothing that is past, since each phase
waits for a later block. -/
lemma FitsVote.ahead
    (h : FitsVote m clock config countdown ((m.window config).phase clock.block))
    (hvalid : config.fault? = none) :
    StartsAhead clock.now countdown ∧ EndsAhead clock.now countdown := by
  cases hphase : (m.window config).phase clock.block with
  | notStarted =>
    rw [hphase] at h
    exact Announces.ahead h hvalid (Motion.phase_eq_notStarted_iff.mp hphase).2
  | voting =>
    rw [hphase] at h
    refine Announces.ahead h hvalid ?_
    have hbefore := (Motion.phase_eq_voting_iff.mp hphase).1
    rw [Motion.toNat_executionStartBlock]
    omega
  | executionWindow =>
    rw [hphase] at h
    exact Announces.ahead h.2 hvalid (Motion.phase_eq_executionWindow_iff.mp hphase).2
  | ended =>
    rw [hphase] at h
    exact h.elim

/-- Under the statuses that read a motion, its countdown announces nothing that is past. -/
lemma ahead_of_readsMotion (hvalid : config.fault? = none)
    (hreads : readsMotion (.resolve p clock.block poll (some m) config) = true) :
    StartsAhead clock.now (beside p clock poll (some m) config) ∧
      EndsAhead clock.now (beside p clock poll (some m) config) := by
  have hfits : Fits p m clock config (beside p clock poll (some m) config)
      (.resolve p clock.block poll (some m) config) := fits_beside
  cases hstatus : DisplayStatus.resolve p clock.block poll (some m) config with
  | metagovActive =>
    rw [hstatus] at hfits
    exact hfits.1.ahead hvalid
  | metagovClosed =>
    rw [hstatus] at hfits
    exact Announces.ahead_of_kind hfits rfl rfl
  | metagovAwaitingExecution =>
    rw [hstatus] at hfits
    exact Announces.ahead_of_kind hfits rfl rfl
  | _ =>
    rw [hstatus] at hreads
    cases hreads

/-! ## Countdowns beside resolved statuses -/

/-- Whether the countdown of a poll is asked for under a status. -/
def readsPoll : DisplayStatus → Bool
  | .metagovActive | .metagovClosed => true
  | _ => false

/-- The selection asks for the countdown of a poll under two statuses, and otherwise for that of
the primary vote. -/
lemma select_poll :
    select p clock status (some q) none config =
      if readsPoll status then
        ofPoll q clock.now (clock.blockTime? p.endBlock config.averageBlockSeconds)
      else ofPrimary p clock config := by
  cases status <;> rfl

/-- Without the second community the selection asks for the countdown of the primary vote. -/
lemma select_none : select p clock status none none config = ofPrimary p clock config := by
  cases status <;> rfl

/-- Under a status that does not ask for the countdown of a poll, the primary vote is counted down
to. -/
lemma select_of_not_readsPoll (hunread : readsPoll status = false) :
    select p clock status poll none config = ofPrimary p clock config := by
  cases poll with
  | none => exact select_none
  | some q =>
    rw [select_poll, hunread]
    exact if_neg Bool.false_ne_true

/-- The primary vote is overlooked. -/
def OverlooksPrimary (p : Proposal) (clock : ChainClock) (config : Config) : Prop :=
  Overlooked (clock.blockTime? p.startBlock config.averageBlockSeconds)
    (clock.blockTime? p.endBlock config.averageBlockSeconds) clock.now

/-- The vote that is counted down to beside the status of a proposal is overlooked. Votes on motions
never are. -/
def Overlooks (p : Proposal) (clock : ChainClock) (poll : Option Poll) (motion : Option Motion)
    (config : Config) : Prop :=
  let status := DisplayStatus.resolve p clock.block poll motion config
  match motion, poll with
  | some _, _ => readsMotion status = false ∧ OverlooksPrimary p clock config
  | none, some q =>
    if readsPoll status then Overlooked q.startTime? q.endTime? clock.now
    else OverlooksPrimary p clock config
  | none, none => OverlooksPrimary p clock config

/-- The countdown of the primary vote announces no past end, and a past start only if the vote is
overlooked. -/
lemma ofPrimary_ahead :
    EndsAhead clock.now (ofPrimary p clock config) ∧
      (StartsAhead clock.now (ofPrimary p clock config) ↔ ¬OverlooksPrimary p clock config) := by
  rw [ofPrimary_eq_ofVote]
  exact ⟨endsAhead_ofVote rfl rfl, startsAhead_ofVote_iff rfl rfl rfl⟩

/-- The countdown of a poll announces no past end, and a past start only if the vote is
overlooked. -/
lemma ofPoll_ahead :
    EndsAhead now (ofPoll q now later) ∧
      (StartsAhead now (ofPoll q now later) ↔ ¬Overlooked q.startTime? q.endTime? now) := by
  rw [ofPoll_eq_ofVote]
  exact ⟨endsAhead_ofVote rfl rfl, startsAhead_ofVote_iff rfl rfl rfl⟩

/-- Under a configuration without a fault, the countdown beside a resolved status never announces
an end that is not after now. It announces a start that is past exactly if the vote that it counts
down to is overlooked. -/
theorem beside_startsAhead_iff (p : Proposal) (clock : ChainClock) (poll : Option Poll)
    (motion : Option Motion) {config : Config} (hvalid : config.fault? = none) :
    EndsAhead clock.now (beside p clock poll motion config) ∧
      (StartsAhead clock.now (beside p clock poll motion config) ↔
        ¬Overlooks p clock poll motion config) := by
  unfold Overlooks
  rcases motion with _ | m
  · unfold beside
    rcases poll with _ | q
    · rw [select_none]
      exact ofPrimary_ahead
    · rw [select_poll]
      simp only
      split
      · exact ofPoll_ahead
      · exact ofPrimary_ahead
  · cases hreads : readsMotion (.resolve p clock.block poll (some m) config) with
    | true =>
      obtain ⟨hstarts, hends⟩ := ahead_of_readsMotion hvalid hreads
      refine ⟨hends, iff_of_true hstarts ?_⟩
      rintro ⟨hnot, -⟩
      rw [hreads] at hnot
      cases hnot
    | false =>
      unfold beside
      rw [select_motion, hreads, if_neg Bool.false_ne_true]
      simp only [hreads, true_and]
      exact ofPrimary_ahead

/-- A proposal in the last block of its vote, an hour after the first one. -/
def closing : Proposal :=
  { Proposal.blank 1 with status := .active, startBlock := 700, endBlock := 1000 }

/-- The clock at the last block of the vote. -/
def closingClock : ChainClock := ⟨1000, .epoch⟩

/-- A poll in its last second, an hour after the first one. -/
def closingPoll : Poll :=
  { Poll.blank "poll" with state := .active, start := -3600 }

/-- In the block before the last one nothing is overlooked, and the countdown is about the end. -/
theorem beside_startsAhead_iff_open :
    ({} : Config).fault? = none ∧
      ¬Overlooks closing ⟨999, .epoch⟩ none none {} ∧
      StartsAhead .epoch (beside closing ⟨999, .epoch⟩ none none {}) ∧
      (beside closing ⟨999, .epoch⟩ none none {}).map Countdown.kind = some .ends := by
  have hvalid : ({} : Config).fault? = none := rfl
  have hopen : ¬Overlooks closing ⟨999, .epoch⟩ none none {} := by
    rintro ⟨-, hclose⟩
    revert hclose
    decide
  exact ⟨hvalid, hopen,
    (beside_startsAhead_iff closing ⟨999, .epoch⟩ none none hvalid).2.mpr hopen, by decide⟩

/-- In the last block of a vote beside a poll in no known state, and in the last second of a poll,
the start is announced although it is an hour ago. -/
theorem beside_closing :
    ({} : Config).fault? = none ∧
      (∃ c ∈ beside closing closingClock (some (.blank "poll")) none {}, c.kind = .starts ∧
        c.instant < closingClock.now ∧
        c.text {} humanized closingClock.now = "Starts an hour ago") ∧
      ∃ c ∈ beside closing closingClock (some closingPoll) none {}, c.kind = .metagovStarts ∧
        c.instant < closingClock.now ∧
        c.text {} humanized closingClock.now = "Lil Nouns Voting Starts an hour ago" := by
  refine ⟨rfl, ⟨⟨.starts, ⟨-3600, 0, by decide, by decide, by decide⟩⟩, ?_, ?_⟩,
    ⟨⟨.metagovStarts, ⟨-3600, 0, by decide, by decide, by decide⟩⟩, ?_, ?_⟩⟩
  · decide
  · decide
  · decide
  · decide

end ProposalBoard.Countdown
