import ProposalBoard.Proofs.Breakdown
import ProposalBoard.Proofs.Correlation
import ProposalBoard.Proofs.MotionTimeLine
import ProposalBoard.Proofs.RowRecords
import ProposalBoard.Proofs.StatusMeaning

/-!
# Coherence of a row

What a row tells about the vote of the second community is found in six separate ways: motion and
poll by look-up, the status by resolution, vote and time line each by a case distinction of its own,
and the poll is dropped by the threshold. `Row.Coherent` collects how these parts of one row have to
fit together, and the main statement `coherent_of_mem_rows` says that on every row of a board they
do.
-/

namespace ProposalBoard

variable {board : Board} {config : Config} {phrasing : TimePhrasing} {present : Instant}
  {p : Proposal} {m : Motion}

namespace Row

/-- A record of the second community is named on the row. -/
def HasRecord (r : Row) : Prop :=
  r.motionId.isSome = true ∨ r.pollId.isSome = true

/-- The federation votes on the proposal of the row. -/
def IsManaged (r : Row) (board : Board) (config : Config) : Prop :=
  ∃ threshold ∈ config.threshold? board.motions, threshold.toNat ≤ r.id.toNat

/-- The row names the records that a status is about. -/
def Backs (r : Row) (board : Board) (config : Config) : DisplayStatus → Prop
  | .metagovPending => ¬r.HasRecord
  | .metagovAwaitingExecution | .metagovExpired | .metagovVetoed => r.motionId.isSome = true
  | .metagovActive | .metagovClosed => r.HasRecord
  | .metagovAwaitingInitiation => r.motionId.isSome = true ∨ r.IsManaged board config
  | _ => True

/-- The parts of a row fit together. -/
structure Coherent (r : Row) (board : Board) (config : Config) (clock : ChainClock) : Prop where
  votes : r.metagovVotes.isSome = true ↔ r.HasRecord
  timeLine : r.metagovTimeLine.isSome = true ↔ r.HasRecord
  unpolled : r.IsManaged board config → r.pollId = none
  status : r.Backs board config r.status
  motion : ∀ id ∈ r.motionId, ∃ m : Motion, m.IsFirstAbout board.motions r.id ∧ m.id = id
  /-- Vote and time line are those of the motion, whether or not there is a poll as well: each
  choice got what the motion counts for it, with the tokens of the votes on the motion, and the time
  line goes from the time of the motion's start block to that of its end block. -/
  ofMotion : ∀ m : Motion, m.IsFirstAbout board.motions r.id →
    r.motionId = some m.id ∧
      r.metagovVotes = some (.ofMotion m (board.attributed board.motionVotes m.id)) ∧
      r.metagovTimeLine = some (.ofMotion m clock config) ∧
      (∀ votes ∈ r.metagovVotes, ∀ choice : Choice,
        (votes.tally choice).count = (m.countOf choice).toFloat ∧
          (votes.tally choice).tokens =
            tokensFor (board.attributed board.motionVotes m.id) choice.supportCode) ∧
      ∀ line ∈ r.metagovTimeLine,
        line.Spans (clock.blockTime? m.startBlock config.averageBlockSeconds)
          (clock.blockTime? m.endBlock config.averageBlockSeconds) clock.now

end Row

namespace Board

/-! ## Records on a row -/

/-- The row of a proposal names the motion on it. -/
lemma motionId_shownRow :
    (board.shownRow config phrasing present p).motionId =
      (p.motion? board.motions).map Motion.id :=
  rfl

/-- The row of a proposal names the poll that the board leaves to it. -/
lemma pollId_shownRow :
    (board.shownRow config phrasing present p).pollId =
      (board.pollOn? (board.effectiveConfig config) p).map Poll.id :=
  rfl

/-- By its row, the federation votes on a proposal exactly if it does by the effective
configuration. -/
lemma isManaged_shownRow_iff :
    (board.shownRow config phrasing present p).IsManaged board config ↔
      p.IsManaged (board.effectiveConfig config) :=
  Iff.rfl

/-- The row of a proposal names a record exactly if there is a motion or a poll on it. -/
lemma hasRecord_shownRow_iff :
    (board.shownRow config phrasing present p).HasRecord ↔
      (p.motion? board.motions).isSome = true ∨
        (board.pollOn? (board.effectiveConfig config) p).isSome = true := by
  unfold Row.HasRecord
  rw [motionId_shownRow, pollId_shownRow, Option.isSome_map, Option.isSome_map]

/-- The second community has a vote exactly if there is a motion or a poll. -/
lemma isSome_metagovBreakdown_iff {poll : Option Poll} {motion : Option Motion} :
    (board.metagovBreakdown poll motion).isSome = true ↔
      motion.isSome = true ∨ poll.isSome = true := by
  cases motion <;> cases poll <;> simp [metagovBreakdown]

/-- The vote of the second community has a time line exactly if there is a motion or a poll. -/
lemma isSome_ofMetagov_iff {clock : ChainClock} {poll : Option Poll} {motion : Option Motion} :
    (TimeLine.ofMetagov clock poll motion config).isSome = true ↔
      motion.isSome = true ∨ poll.isSome = true := by
  cases motion <;> cases poll <;> simp [TimeLine.ofMetagov]

/-- The board leaves no poll to a proposal that the federation votes on. -/
lemma pollOn?_eq_none_of_isManaged (hmanaged : p.IsManaged config) :
    board.pollOn? config p = none := by
  apply Option.eq_none_iff_forall_not_mem.mpr
  intro q hq
  exact (mem_pollOn?_iff.mp hq).1 hmanaged

/-! ## Status of a row -/

/-- Where there is a motion on a proposal, its row names one. -/
lemma motionId_isSome_of_mem (hm : m ∈ p.motion? board.motions) :
    (board.shownRow config phrasing present p).motionId.isSome = true := by
  rw [motionId_shownRow, Option.isSome_map, Option.mem_def.mp hm]
  rfl

/-- Where a poll tells the status of a proposal, its row names a record. -/
lemma hasRecord_of_polledIn {motion : Option Motion} {state : Poll.State}
    (hpolled : p.PolledIn (board.pollOn? (board.effectiveConfig config) p) motion
      (board.effectiveConfig config) state) :
    (board.shownRow config phrasing present p).HasRecord := by
  obtain ⟨-, -, q, hq, -⟩ := hpolled
  rw [hasRecord_shownRow_iff, Option.mem_def.mp hq]
  exact .inr rfl

/-- Each status of the second community applies only with the records that it is about. -/
lemma backs_shownRow :
    (board.shownRow config phrasing present p).Backs board config
      (board.shownRow config phrasing present p).status := by
  cases hstatus : (board.shownRow config phrasing present p).status with
  | metagovPending =>
    obtain ⟨-, hmotion, -, hpoll⟩ := DisplayStatus.resolve_eq_metagovPending_iff.mp hstatus
    show ¬Row.HasRecord _
    rw [hasRecord_shownRow_iff, hmotion, hpoll]
    simp
  | metagovAwaitingExecution =>
    obtain ⟨-, m, hm, -⟩ := DisplayStatus.resolve_eq_metagovAwaitingExecution_iff.mp hstatus
    exact motionId_isSome_of_mem hm
  | metagovExpired =>
    obtain ⟨-, m, hm, -⟩ := DisplayStatus.resolve_eq_metagovExpired_iff.mp hstatus
    exact motionId_isSome_of_mem hm
  | metagovVetoed =>
    obtain ⟨-, m, hm, -⟩ := DisplayStatus.resolve_eq_metagovVetoed_iff.mp hstatus
    exact motionId_isSome_of_mem hm
  | metagovActive =>
    obtain ⟨-, ⟨m, hm, -⟩ | hpolled⟩ := DisplayStatus.resolve_eq_metagovActive_iff.mp hstatus
    · exact .inl (motionId_isSome_of_mem hm)
    · exact hasRecord_of_polledIn hpolled
  | metagovClosed =>
    obtain ⟨-, ⟨m, hm, -⟩ | hpolled⟩ := DisplayStatus.resolve_eq_metagovClosed_iff.mp hstatus
    · exact .inl (motionId_isSome_of_mem hm)
    · exact hasRecord_of_polledIn hpolled
  | metagovAwaitingInitiation =>
    obtain ⟨-, ⟨m, hm, -⟩ | ⟨-, hmanaged⟩⟩ :=
      DisplayStatus.resolve_eq_metagovAwaitingInitiation_iff.mp hstatus
    · exact .inl (motionId_isSome_of_mem hm)
    · exact .inr hmanaged
  | _ => trivial

/-! ## Rows of a board -/

/-- The parts of the row of a proposal fit together. -/
lemma coherent_shownRow :
    (board.shownRow config phrasing present p).Coherent board config (board.clock present) where
  votes := isSome_metagovBreakdown_iff.trans hasRecord_shownRow_iff.symm
  timeLine := isSome_ofMetagov_iff.trans hasRecord_shownRow_iff.symm
  unpolled hmanaged := by
    rw [pollId_shownRow, pollOn?_eq_none_of_isManaged (isManaged_shownRow_iff.mp hmanaged)]
    rfl
  status := backs_shownRow
  motion id hid := by
    obtain ⟨m, hm, rfl⟩ := Option.map_eq_some_iff.mp hid
    exact ⟨m, Proposal.motion?_eq_some_iff.mp hm, rfl⟩
  ofMotion m hm := by
    have hmotion : p.motion? board.motions = some m := Proposal.motion?_eq_some_iff.mpr hm
    simp only [shownRow, rowOf, hmotion]
    refine ⟨rfl, rfl, rfl, ?_, ?_⟩
    · rintro votes ⟨⟩ choice
      rw [Breakdown.tally_ofMotion]
      exact ⟨rfl, rfl⟩
    · rintro line ⟨⟩
      exact TimeLine.spans_ofMotion

/-- On every row of a board the parts about the second community fit together. -/
theorem coherent_of_mem_rows (board : Board) (config : Config) (phrasing : TimePhrasing)
    (present : Instant) :
    ∀ r ∈ board.rows config phrasing present, r.Coherent board config (board.clock present) := by
  intro r hr
  obtain ⟨p, -, rfl⟩ := mem_rows_iff.mp hr
  exact coherent_shownRow

/-- A board on which a proposal has a poll and two motions. -/
def twiceMoved : Board :=
  { quiet with
    now := some .epoch
    motions := [.blank 3, { Motion.blank 7 with externalId := some 1, status := .active },
      { Motion.blank 8 with externalId := some 1 }] }

/-- The row of a proposal with a poll and two motions is about the first of the motions. -/
theorem coherent_of_mem_rows_twiceMoved :
    ∃ r ∈ twiceMoved.rows { federationThreshold := some 100 } humanized .epoch,
      r.pollId = some "poll" ∧ r.motionId = some 7 ∧ r.status = .metagovExpired ∧
      r.Coherent twiceMoved { federationThreshold := some 100 } (twiceMoved.clock .epoch) := by
  have hmem : twiceMoved.shownRow { federationThreshold := some 100 } humanized .epoch debated ∈
      twiceMoved.rows { federationThreshold := some 100 } humanized .epoch :=
    mem_rows_iff.mpr ⟨debated, List.mem_cons_self, rfl⟩
  exact ⟨_, hmem, by decide +kernel, by decide, by decide,
    coherent_of_mem_rows twiceMoved _ _ _ _ hmem⟩

end Board

end ProposalBoard
