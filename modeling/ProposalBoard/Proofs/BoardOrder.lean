import Mathlib.Data.List.Basic
import Mathlib.Tactic.Lemma
import ProposalBoard.Board.Row
import ProposalBoard.Proofs.Defaults

/-!
# Order of the rows

The rows of a board and the row of one proposal are found on two ways: the rows by sorting the
proposals, the single row by looking through them as they come. The main statement `rows_row` says
that both show the same. It rests on the sorting being stable: for each id the sorted proposals
have those of the board in their order (`filter_sortedProposals`), and so the same first one.
-/

namespace ProposalBoard.Board

variable {board : Board} {config : Config} {phrasing : TimePhrasing} {present : Instant}

/-- The row of a proposal of the board. -/
def shownRow (board : Board) (config : Config) (phrasing : TimePhrasing) (present : Instant)
    (p : Proposal) : Row :=
  board.rowOf (board.effectiveConfig config) phrasing (board.clock present) p

/-- The rows are those of the sorted proposals. -/
lemma rows_eq_map : board.rows config phrasing present =
    board.sortedProposals.map (board.shownRow config phrasing present) :=
  rfl

/-! ## Sorted proposals -/

/-- Sorting loses no proposal and makes up none. -/
lemma perm_sortedProposals (board : Board) : board.sortedProposals.Perm board.proposals :=
  List.mergeSort_perm _ _

/-- The order of the proposals is transitive. -/
lemma newer_trans (p q r : Proposal) (hpq : decide (q.id ≤ p.id) = true)
    (hqr : decide (r.id ≤ q.id) = true) : decide (r.id ≤ p.id) = true := by
  rw [decide_eq_true_eq, UInt64.le_iff_toNat_le] at *
  omega

/-- Of two proposals one is at least as new as the other. -/
lemma newer_total (p q : Proposal) : (decide (q.id ≤ p.id) || decide (p.id ≤ q.id)) = true := by
  rw [Bool.or_eq_true, decide_eq_true_eq, decide_eq_true_eq, UInt64.le_iff_toNat_le,
    UInt64.le_iff_toNat_le]
  omega

/-- The sorted proposals have descending ids. -/
lemma pairwise_sortedProposals : board.sortedProposals.Pairwise fun p q => q.id ≤ p.id := by
  have h := List.pairwise_mergeSort newer_trans newer_total board.proposals
  exact h.imp fun hpq => of_decide_eq_true hpq

/-- Proposals with the same id keep their order. -/
lemma filter_sortedProposals (id : UInt64) :
    board.sortedProposals.filter (·.id = id) = board.proposals.filter (·.id = id) := by
  have hsorted : (board.proposals.filter (·.id = id)).Pairwise
      fun p q => decide (q.id ≤ p.id) = true := by
    apply List.pairwise_of_forall_mem_list
    intro p hp q hq
    have hpid : p.id = id := of_decide_eq_true (List.mem_filter.mp hp).2
    have hqid : q.id = id := of_decide_eq_true (List.mem_filter.mp hq).2
    rw [hpid, hqid]
    exact decide_eq_true (UInt64.le_refl id)
  have hsub : (board.proposals.filter (·.id = id)).Sublist board.sortedProposals :=
    List.sublist_mergeSort newer_trans newer_total hsorted List.filter_sublist
  have hfilter := hsub.filter (·.id = id)
  rw [List.filter_filter] at hfilter
  simp only [Bool.and_self] at hfilter
  -- both keep as many proposals, so the sublist is all of them
  have hlength := ((perm_sortedProposals board).filter (·.id = id)).length_eq
  exact (hfilter.eq_of_length hlength.symm).symm

/-- The first proposal with an id is the same before and after sorting. -/
lemma find?_sortedProposals (id : UInt64) :
    board.sortedProposals.find? (·.id = id) = board.proposals.find? (·.id = id) := by
  rw [← List.head?_filter, filter_sortedProposals, List.head?_filter]

/-! ## Rows -/

/-- The rows are those of the proposals of the board. -/
lemma mem_rows_iff {r : Row} :
    r ∈ board.rows config phrasing present ↔
      ∃ p ∈ board.proposals, board.shownRow config phrasing present p = r := by
  rw [rows_eq_map, List.mem_map]
  simp only [(perm_sortedProposals board).mem_iff]

/-- The rows with an id, in the order in which the proposals came. -/
lemma filter_rows (id : UInt64) :
    (board.rows config phrasing present).filter (·.id = id) =
      (board.proposals.filter (·.id = id)).map (board.shownRow config phrasing present) := by
  rw [rows_eq_map, List.filter_map, ← filter_sortedProposals]
  rfl

/-- The first row with an id is that of the first proposal with it. -/
lemma find?_rows (id : UInt64) :
    (board.rows config phrasing present).find? (·.id = id) =
      (board.proposals.find? (·.id = id)).map (board.shownRow config phrasing present) := by
  rw [rows_eq_map, List.find?_map, ← find?_sortedProposals]
  rfl

/-- The rows have descending ids. -/
lemma pairwise_rows :
    (board.rows config phrasing present).Pairwise fun r s => s.id ≤ r.id := by
  rw [rows_eq_map, List.pairwise_map]
  exact pairwise_sortedProposals

/-- While the instant of a board is set, the present instant does not matter. -/
lemma clock_eq_of_now (present present' : Instant) (hnow : board.now.isSome = true) :
    board.clock present' = board.clock present := by
  obtain ⟨now, hnow⟩ := Option.isSome_iff_exists.mp hnow
  unfold clock
  rw [hnow]
  rfl

/-- The row of one proposal is the first of all rows with its id. -/
lemma row_eq_find?_rows (id : UInt64) (config : Config) (phrasing : TimePhrasing)
    (present present' : Instant) (hnow : board.now.isSome = true) :
    board.row id config phrasing present' =
      ((board.rows config phrasing present).find? (·.id = id)).elim
        (.error (.proposalNotFound id)) .ok := by
  rw [find?_rows]
  unfold row
  rw [clock_eq_of_now present present' hnow]
  cases board.proposals.find? (·.id = id) <;> rfl

/-- There is a row for each proposal, by descending ids and for one id as the proposals came. The
row of one proposal, looked up at any instant, is the first with its id, and missing exactly when
there is none. -/
theorem rows_row (board : Board) (config : Config) (phrasing : TimePhrasing)
    (present present' : Instant) (hnow : board.now.isSome = true) :
    (∃ order : List Proposal, order.Perm board.proposals ∧
      board.rows config phrasing present =
        order.map (board.shownRow config phrasing present)) ∧
    (board.rows config phrasing present).Pairwise (fun r s => s.id ≤ r.id) ∧
    (∀ id, (board.rows config phrasing present).filter (·.id = id) =
      (board.proposals.filter (·.id = id)).map (board.shownRow config phrasing present)) ∧
    ∀ id,
      (board.row id config phrasing present' = .error (.proposalNotFound id) ↔
        ∀ r ∈ board.rows config phrasing present, r.id ≠ id) ∧
      ∀ r, (board.rows config phrasing present).find? (·.id = id) = some r →
        board.row id config phrasing present' = .ok r := by
  refine ⟨⟨board.sortedProposals, perm_sortedProposals board, rows_eq_map⟩, pairwise_rows,
    filter_rows, fun id => ?_⟩
  rw [row_eq_find?_rows id config phrasing present present' hnow]
  cases hfind : (board.rows config phrasing present).find? (·.id = id) with
  | none =>
    have habsent : ∀ r ∈ board.rows config phrasing present, r.id ≠ id := by
      rw [List.find?_eq_none] at hfind
      intro r hr
      simpa using hfind r hr
    refine ⟨⟨fun _ => habsent, fun _ => rfl⟩, ?_⟩
    rintro r ⟨⟩
  | some first =>
    have hmem := List.mem_of_find?_eq_some hfind
    have hid := List.find?_some hfind
    rw [decide_eq_true_eq] at hid
    refine ⟨⟨nofun, fun habsent => absurd hid (habsent first hmem)⟩, ?_⟩
    rintro r ⟨⟩
    rfl

/-- A board on which two of the proposals share an id. -/
def twins : Board :=
  { Board.blank 100 with
    now := some .epoch
    proposals := [.blank 1, { Proposal.blank 3 with title := "first" },
      { Proposal.blank 3 with title := "second" }, .blank 2] }

/-- Of two proposals with the same id, the one that came first is looked up. -/
theorem rows_row_twins :
    twins.now.isSome = true ∧
      ∃ r, (twins.rows {} humanized .epoch).find? (·.id = 3) = some r ∧ r.title = "first" ∧
        twins.row 3 {} humanized ⟨60, 0, by decide, by decide, by decide⟩ = .ok r := by
  have hnow : twins.now.isSome = true := rfl
  obtain ⟨_, _, _, hrow⟩ :=
    rows_row twins {} humanized .epoch ⟨60, 0, by decide, by decide, by decide⟩ hnow
  have hfind : (twins.rows {} humanized .epoch).find? (·.id = 3) =
      some (twins.shownRow {} humanized .epoch { Proposal.blank 3 with title := "first" }) :=
    find?_rows 3
  exact ⟨hnow, _, hfind, rfl, (hrow 3).2 _ hfind⟩

end ProposalBoard.Board
