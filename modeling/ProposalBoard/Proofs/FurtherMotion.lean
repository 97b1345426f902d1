import Mathlib.Data.List.Forall2
import ProposalBoard.Proofs.Correlation
import ProposalBoard.Proofs.RowRecords

/-!
# A further motion

Each motion counts twice: for the proposal that it is about, and, if it is the earliest, for all
others, since it tells from which proposal on the federation votes. The main statement
`rows_withMotion` says that a motion later than those on the board changes the row of its own
proposal at most, and not even that one if the proposal had a motion and the new one comes last.
-/

namespace ProposalBoard.Board

variable {board : Board} {config : Config} {phrasing : TimePhrasing} {present present' : Instant}
  {m : Motion} {place : Nat} {p : Proposal}

/-- The board with a further motion, put in behind the given number of others. -/
def withMotion (board : Board) (m : Motion) (place : Nat) : Board :=
  { board with motions := board.motions.take place ++ m :: board.motions.drop place }

/-- A motion is later than those of the board that are about a proposal, and from which proposal on
the federation votes is known without it. -/
structure Precedes (board : Board) (config : Config) (m : Motion) : Prop where
  threshold : config.federationThreshold.isSome = true ∨
    ∃ n ∈ board.motions, n.externalId.isSome = true
  later : ∀ n ∈ board.motions, n.externalId.isSome = true → n.id < m.id

/-! ## One row -/

/-- With a later motion, the federation votes from the same proposal on. -/
lemma effectiveConfig_withMotion (hm : board.Precedes config m) :
    (board.withMotion m place).effectiveConfig config = board.effectiveConfig config := by
  have hsplit : board.motions.take place ++ board.motions.drop place = board.motions :=
    List.take_append_drop place board.motions
  have hthreshold : config.threshold? (board.withMotion m place).motions =
      config.threshold? (board.motions.take place ++ board.motions.drop place) := by
    apply Config.threshold?_insert
    · rw [hsplit]
      exact hm.threshold
    · rw [hsplit]
      exact hm.later
  unfold effectiveConfig
  rw [hthreshold, hsplit]

/-- A motion about another proposal is passed over. -/
lemma motion?_withMotion_of_ne (hne : m.externalId ≠ some p.id) :
    p.motion? (board.withMotion m place).motions = p.motion? board.motions := by
  have hinsert : p.motion? (board.withMotion m place).motions =
      p.motion? (board.motions.take place ++ board.motions.drop place) :=
    Proposal.motion?_insert hne
  rw [hinsert, List.take_append_drop]

/-- A motion behind all others is not reached if one of them is about the proposal. -/
lemma motion?_withMotion_of_isSome (hplace : board.motions.length ≤ place)
    (hsome : (p.motion? board.motions).isSome = true) :
    p.motion? (board.withMotion m place).motions = p.motion? board.motions := by
  have hmotions : (board.withMotion m place).motions = board.motions ++ [m] := by
    unfold withMotion
    rw [List.take_of_length_le hplace, List.drop_of_length_le hplace]
  rw [hmotions, Proposal.motion?_append hsome]

/-- A proposal whose motion stays the same keeps its row. -/
lemma shownRow_withMotion (hm : board.Precedes config m) (hnow : board.now.isSome = true)
    (hmotion : p.motion? (board.withMotion m place).motions = p.motion? board.motions) :
    (board.withMotion m place).shownRow config phrasing present' p =
      board.shownRow config phrasing present p := by
  have hclock : (board.withMotion m place).clock present' = board.clock present :=
    clock_eq_of_now present present' hnow
  unfold shownRow
  rw [effectiveConfig_withMotion hm, hclock]
  -- polls and votes are those of the board
  exact rowOf_congr hmotion rfl rfl rfl

/-! ## All rows -/

/-- The rows of both boards stand in the same order, so that they are compared proposal by
proposal. -/
lemma forall₂_rows_withMotion {related : Row → Row → Prop}
    (hrows : ∀ p, related (board.shownRow config phrasing present p)
      ((board.withMotion m place).shownRow config phrasing present' p)) :
    List.Forall₂ related (board.rows config phrasing present)
      ((board.withMotion m place).rows config phrasing present') := by
  have horder : (board.withMotion m place).sortedProposals = board.sortedProposals := rfl
  rw [rows_eq_map, rows_eq_map, horder, List.forall₂_map_left_iff, List.forall₂_map_right_iff,
    List.forall₂_same]
  intro p _
  exact hrows p

/-- A later motion, wherever it is put in, leaves each row as it was except that of the proposal
that it is about. Behind all others it leaves also the row of that proposal as it was, if it had a
motion. -/
theorem rows_withMotion (hm : board.Precedes config m) (hnow : board.now.isSome = true)
    (place : Nat) (phrasing : TimePhrasing) (present present' : Instant) :
    List.Forall₂ (fun r s => s.id = r.id ∧ (m.externalId ≠ some r.id → s = r))
        (board.rows config phrasing present)
        ((board.withMotion m place).rows config phrasing present') ∧
      (board.motions.length ≤ place →
        List.Forall₂ (fun r s => r.motionId.isSome = true → s = r)
          (board.rows config phrasing present)
          ((board.withMotion m place).rows config phrasing present')) := by
  constructor
  · apply forall₂_rows_withMotion
    intro p
    refine ⟨rfl, fun hne => ?_⟩
    exact shownRow_withMotion hm hnow (motion?_withMotion_of_ne hne)
  · intro hplace
    apply forall₂_rows_withMotion
    intro p hsome
    have hmotion : (p.motion? board.motions).isSome = true := by
      rwa [shownRow, rowOf, Option.isSome_map] at hsome
    exact shownRow_withMotion hm hnow (motion?_withMotion_of_isSome hplace hmotion)

/-- A board with a motion on one of its two proposals, and another motion about none. -/
def federated : Board :=
  { Board.blank 100 with
    now := some .epoch
    proposals := [{ Proposal.blank 2 with status := .active },
      { Proposal.blank 3 with status := .active }]
    motions := [{ Motion.blank 4 with externalId := some 2 }, .blank 9] }

/-- A later motion about the proposal that has one already. -/
def rival : Motion := { Motion.blank 5 with externalId := some 2 }

/-- In front of the others a rival motion takes over the row of its proposal and leaves the other
row. Behind the others it leaves both. -/
theorem rows_withMotion_rival :
    federated.Precedes {} rival ∧ federated.now.isSome = true ∧ federated.motions.length ≤ 2 ∧
      federated.proposals.map (fun p =>
        ((federated.withMotion rival 0).shownRow {} humanized .epoch p).motionId) =
          [some 5, none] ∧
      List.Forall₂ (fun r s => s.id = r.id ∧ (rival.externalId ≠ some r.id → s = r))
        (federated.rows {} humanized .epoch)
        ((federated.withMotion rival 0).rows {} humanized .epoch) ∧
      List.Forall₂ (fun r s => r.motionId.isSome = true → s = r)
        (federated.rows {} humanized .epoch)
        ((federated.withMotion rival 2).rows {} humanized .epoch) := by
  have hm : federated.Precedes {} rival := ⟨by decide, by decide⟩
  have hplace : federated.motions.length ≤ 2 := by decide
  obtain ⟨hfront, -⟩ := rows_withMotion hm rfl 0 humanized .epoch .epoch
  obtain ⟨-, hbehind⟩ := rows_withMotion hm rfl 2 humanized .epoch .epoch
  exact ⟨hm, rfl, hplace, by decide +kernel, hfront, hbehind hplace⟩

end ProposalBoard.Board
