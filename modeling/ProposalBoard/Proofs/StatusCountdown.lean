import ProposalBoard.Countdown
import ProposalBoard.Proofs.Resolution

/-!
# The countdown beside the status of a motion

The resolution and the countdown place a motion in its phases separately. For a proposal with a
motion the main statement `beside_motion` says that they agree: the countdown beside a status
announces the event that the status waits for (`Countdown.Fits`), and the countdown of a motion is
only ever asked for while the motion is voted on or after its execution.
-/

namespace ProposalBoard.Countdown

variable {p : Proposal} {clock : ChainClock} {poll : Option Poll} {m : Motion} {config : Config}
  {status : DisplayStatus}

/-- The countdown beside the status that is shown for a proposal. -/
def beside (p : Proposal) (clock : ChainClock) (poll : Option Poll) (motion : Option Motion)
    (config : Config) : Option Countdown :=
  select p clock (.resolve p clock.block poll motion config) poll motion config

/-- A countdown of a kind to an instant, and none when the instant is not known. -/
def Announces (countdown : Option Countdown) (kind : Kind) (instant : Option Instant) : Prop :=
  (countdown = none ↔ instant = none) ∧ ∀ c ∈ countdown, c.kind = kind ∧ instant = some c.instant

/-- A countdown announces what comes next in the vote on a motion in a phase. -/
def FitsVote (m : Motion) (clock : ChainClock) (config : Config) (countdown : Option Countdown) :
    Motion.Phase → Prop
  | .notStarted =>
    Announces countdown .metagovStarts (clock.blockTime? m.startBlock config.averageBlockSeconds)
  | .voting =>
    Announces countdown .metagovEnds
      (clock.blockTime? (m.window config).executionStartBlock config.averageBlockSeconds)
  | .executionWindow =>
    m.forCount.toNat < m.quorumVotes.toNat ∧
      Announces countdown .metagovEnds (clock.blockTime? m.endBlock config.averageBlockSeconds)
  | .ended => False

/-- A countdown announces what a status of a proposal with a motion waits for. -/
def Fits (p : Proposal) (m : Motion) (clock : ChainClock) (config : Config)
    (countdown : Option Countdown) : DisplayStatus → Prop
  | .metagovAwaitingExecution =>
    Announces countdown .expires (clock.blockTime? p.endBlock config.averageBlockSeconds)
  | .metagovClosed =>
    Announces countdown .primaryEnds (clock.blockTime? p.endBlock config.averageBlockSeconds)
  | .metagovActive =>
    FitsVote m clock config countdown ((m.window config).phase clock.block) ∧
      ∀ c ∈ countdown, c.kind ≠ .expires ∧ c.kind ≠ .primaryEnds
  | _ => True

/-- Whether the countdown of a motion is asked for under a status. -/
def readsMotion : DisplayStatus → Bool
  | .metagovActive | .metagovClosed | .metagovAwaitingExecution => true
  | _ => false

/-- The selection asks for the countdown of a motion under three statuses, and otherwise for that
of the primary vote. -/
lemma select_motion :
    select p clock status poll (some m) config =
      if readsMotion status then
        ofMotion m clock (clock.blockTime? p.endBlock config.averageBlockSeconds) config
      else ofPrimary p clock config := by
  cases status <;> cases poll <;> rfl

/-- A countdown toward an instant announces it. -/
lemma announces_toward (kind : Kind) (instant : Option Instant) :
    Announces (toward kind instant) kind instant := by
  cases instant <;> simp [Announces, toward]

/-! ## Countdown of a motion -/

variable {primaryEnd : Option Instant}

/-- An executed motion leaves the primary vote to be waited for. -/
lemma ofMotion_executed (h : m.Effectively .executed) :
    Announces (ofMotion m clock primaryEnd config) .primaryEnds primaryEnd := by
  have hstatus := Motion.effectiveStatus_eq_iff.mpr h
  simp only [ofMotion, hstatus]
  exact announces_toward _ _

/-- An active motion with a quorum in its execution window can be executed until the primary vote
ends. -/
lemma ofMotion_ready (h : m.Effectively .active)
    (hphase : (m.window config).phase clock.block = .executionWindow)
    (hquorum : m.quorumMet = true) :
    Announces (ofMotion m clock primaryEnd config) .expires primaryEnd := by
  have hstatus := Motion.effectiveStatus_eq_iff.mpr h
  simp only [ofMotion, hstatus, hphase, hquorum, if_true]
  exact announces_toward _ _

/-- The countdown of an active motion that is voted on fits its phase. -/
lemma ofMotion_voted (h : m.Effectively .active)
    (hended : (m.window config).phase clock.block ≠ .ended)
    (hquorum : (m.window config).phase clock.block = .executionWindow → m.quorumMet = false) :
    FitsVote m clock config (ofMotion m clock primaryEnd config)
      ((m.window config).phase clock.block) := by
  have hstatus := Motion.effectiveStatus_eq_iff.mpr h
  cases hphase : (m.window config).phase clock.block with
  | notStarted =>
    simp only [ofMotion, hstatus, hphase]
    exact announces_toward _ _
  | voting =>
    simp only [ofMotion, hstatus, hphase]
    exact announces_toward _ _
  | executionWindow =>
    -- with a quorum it would be ready to execute
    have hunmet := hquorum hphase
    constructor
    · rw [← Bool.not_eq_true, Motion.quorumMet_iff] at hunmet
      omega
    · simp only [ofMotion, hstatus, hphase, hunmet]
      exact announces_toward _ _
  | ended => exact hended hphase

/-- A countdown that fits the vote on a motion is about that vote. -/
lemma FitsVote.kind_ne {countdown : Option Countdown} {phase : Motion.Phase}
    (h : FitsVote m clock config countdown phase) :
    ∀ c ∈ countdown, c.kind ≠ .expires ∧ c.kind ≠ .primaryEnds := by
  intro c hc
  have hkind : c.kind = .metagovStarts ∨ c.kind = .metagovEnds := by
    cases phase with
    | notStarted => exact .inl (h.2 c hc).1
    | voting => exact .inr (h.2 c hc).1
    | executionWindow => exact .inr (h.2.2 c hc).1
    | ended => exact h.elim
  rcases hkind with hkind | hkind <;> simp [hkind]

/-! ## Statuses of a proposal with a motion -/

/-- Under the statuses that ask for the countdown of a motion, the motion has been executed or
has not ended. -/
lemma effectively_of_readsMotion {s : Motion.Status}
    (h : readsMotion (.resolve p clock.block poll (some m) config) = true)
    (hs : m.Effectively s) :
    s = .executed ∨ (s = .active ∧ (m.window config).phase clock.block ≠ .ended) := by
  rw [← Motion.effectiveStatus_eq_iff] at hs
  cases hstatus : DisplayStatus.resolve p clock.block poll (some m) config with
  | metagovAwaitingExecution =>
    obtain ⟨_, hactive, _, hphase, _⟩ :=
      DisplayStatus.ofMotion_eq_metagovAwaitingExecution_iff.mp hstatus
    rw [Motion.effectiveStatus_eq_iff.mpr hactive] at hs
    refine .inr ⟨hs.symm, ?_⟩
    rw [hphase]
    nofun
  | metagovClosed =>
    obtain ⟨_, hexecuted⟩ := DisplayStatus.ofMotion_eq_metagovClosed_iff.mp hstatus
    rw [Motion.effectiveStatus_eq_iff.mpr hexecuted] at hs
    exact .inl hs.symm
  | metagovActive =>
    obtain ⟨_, hactive, _, hended, _⟩ := DisplayStatus.ofMotion_eq_metagovActive_iff.mp hstatus
    rw [Motion.effectiveStatus_eq_iff.mpr hactive] at hs
    exact .inr ⟨hs.symm, hended⟩
  | _ =>
    -- the other statuses do not read the motion
    rw [hstatus] at h
    cases h

/-- The countdown beside a status fits it. -/
lemma fits_beside :
    Fits p m clock config (beside p clock poll (some m) config)
      (.resolve p clock.block poll (some m) config) := by
  unfold beside
  rw [select_motion]
  cases hstatus : DisplayStatus.resolve p clock.block poll (some m) config with
  | metagovAwaitingExecution =>
    obtain ⟨_, hactive, _, hphase, hquorum⟩ :=
      DisplayStatus.ofMotion_eq_metagovAwaitingExecution_iff.mp hstatus
    exact ofMotion_ready hactive hphase hquorum
  | metagovClosed =>
    obtain ⟨_, hexecuted⟩ := DisplayStatus.ofMotion_eq_metagovClosed_iff.mp hstatus
    exact ofMotion_executed hexecuted
  | metagovActive =>
    obtain ⟨_, hactive, _, hended, hquorum⟩ :=
      DisplayStatus.ofMotion_eq_metagovActive_iff.mp hstatus
    have hvote : FitsVote m clock config
        (ofMotion m clock (clock.blockTime? p.endBlock config.averageBlockSeconds) config)
        ((m.window config).phase clock.block) :=
      ofMotion_voted hactive hended hquorum
    exact ⟨hvote, hvote.kind_ne⟩
  | _ => trivial

/-- For a proposal with a motion, the countdown beside the status fits it. It is the countdown of
the motion under the statuses that read it, and then the motion has been executed or has not
ended. -/
theorem beside_motion (p : Proposal) (clock : ChainClock) (poll : Option Poll) (m : Motion)
    (config : Config) :
    Fits p m clock config (beside p clock poll (some m) config)
        (.resolve p clock.block poll (some m) config) ∧
      beside p clock poll (some m) config =
        (if readsMotion (.resolve p clock.block poll (some m) config) then
          ofMotion m clock (clock.blockTime? p.endBlock config.averageBlockSeconds) config
        else ofPrimary p clock config) ∧
      (readsMotion (.resolve p clock.block poll (some m) config) = true →
        ∀ s, m.Effectively s →
          s = .executed ∨ (s = .active ∧ (m.window config).phase clock.block ≠ .ended)) :=
  ⟨fits_beside, select_motion, fun h _ hs => effectively_of_readsMotion h hs⟩

end ProposalBoard.Countdown
