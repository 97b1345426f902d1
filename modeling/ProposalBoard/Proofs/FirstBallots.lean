import Mathlib.Data.List.Basic
import Mathlib.Tactic.Lemma
import ProposalBoard.Vote.Attribution

/-!
# First ballots

Of several ballots under one spelling of an address the first counts. The relation `Kept` is the
single pass that remembers which voters it has seen; `Kept.eq` says what it keeps when some voters
have been seen before. The main statement `first_ballot_wins` says that the voters of a poll are
those on its ballots in the order of their first ballots, each with the power and the choice of that
ballot, that further ballots only add entries behind those that are there, and that the entries
taken as ballots yield themselves.
-/

namespace ProposalBoard

/-- One pass over ballots keeps those of voters that have not been seen before. -/
inductive Kept : List String → List Ballot → List Ballot → Prop where
  | nil {seen} :
    Kept seen [] []
  | first {seen b rest kept} :
    b.voter ∉ seen →
    Kept (b.voter :: seen) rest kept →
    Kept seen (b :: rest) (b :: kept)
  | again {seen b rest kept} :
    b.voter ∈ seen →
    Kept seen rest kept →
    Kept seen (b :: rest) kept

variable {ballots xs ys kept : List Ballot} {ds : List Delegate} {seen : List String} {b : Ballot}

/-! ## First ballots -/

/-- The first ballots are ballots. -/
lemma mem_of_mem_firstBallots (h : b ∈ firstBallots ballots) : b ∈ ballots := by
  induction ballots with
  | nil => cases h
  | cons first rest ih =>
    rcases List.mem_cons.mp h with rfl | h
    · exact List.mem_cons_self
    · exact List.mem_cons_of_mem _ (ih (List.mem_filter.mp h).1)

/-- No two first ballots are cast under the same spelling. -/
lemma pairwise_firstBallots (ballots : List Ballot) :
    (firstBallots ballots).Pairwise fun b c => b.voter ≠ c.voter := by
  induction ballots with
  | nil => exact .nil
  | cons first rest ih =>
    refine List.pairwise_cons.mpr ⟨?_, ih.filter _⟩
    intro c hc
    exact (of_decide_eq_true (List.mem_filter.mp hc).2).symm

/-- Every spelling has its first ballot. -/
lemma exists_firstBallot (h : b ∈ ballots) : ∃ c ∈ firstBallots ballots, c.voter = b.voter := by
  induction ballots with
  | nil => cases h
  | cons first rest ih =>
    by_cases hvoter : b.voter = first.voter
    · exact ⟨first, List.mem_cons_self, hvoter.symm⟩
    · rcases List.mem_cons.mp h with rfl | h
      · exact absurd rfl hvoter
      · obtain ⟨c, hc, hcb⟩ := ih h
        refine ⟨c, List.mem_cons_of_mem _ (List.mem_filter.mpr ⟨hc, ?_⟩), hcb⟩
        rw [decide_eq_true_eq, hcb]
        exact hvoter

/-! ## A single pass -/

/-- Every list of ballots can be gone through, whoever has been seen before. -/
lemma exists_kept (seen : List String) (ballots : List Ballot) :
    ∃ kept, Kept seen ballots kept := by
  induction ballots generalizing seen with
  | nil => exact ⟨[], .nil⟩
  | cons b rest ih =>
    by_cases hseen : b.voter ∈ seen
    · obtain ⟨kept, h⟩ := ih seen
      exact ⟨kept, .again hseen h⟩
    · obtain ⟨kept, h⟩ := ih (b.voter :: seen)
      exact ⟨b :: kept, .first hseen h⟩

/-- Leaving out the ballots of some voters leaves out their first ballots. -/
lemma filter_firstBallots (keep : String → Bool) (ballots : List Ballot) :
    (firstBallots ballots).filter (fun b => keep b.voter) =
      firstBallots (ballots.filter fun b => keep b.voter) := by
  induction ballots with
  | nil => rfl
  | cons b rest ih =>
    rw [firstBallots, List.filter_cons, List.filter_cons]
    cases hb : keep b.voter with
    | true =>
      rw [if_pos rfl, if_pos rfl, firstBallots, ← ih, List.filter_filter, List.filter_filter]
      simp only [Bool.and_comm]
    | false =>
      rw [if_neg Bool.false_ne_true, if_neg Bool.false_ne_true, ← ih, List.filter_filter]
      apply List.filter_congr
      intro c _
      -- a voter that is kept is not the one who is left out
      by_cases hc : c.voter = b.voter
      · simp [hc, hb]
      · simp [hc]

/-- One more voter who has been seen is one more who is left out. -/
lemma filter_notMem_cons (name : String) (seen : List String) (ballots : List Ballot) :
    ballots.filter (·.voter ∉ name :: seen) =
      (ballots.filter (·.voter ∉ seen)).filter (·.voter ≠ name) := by
  rw [List.filter_filter]
  apply List.filter_congr
  intro b _
  simp [not_or]

/-- A pass keeps the first ballots of the voters that it has not seen before. -/
lemma Kept.eq (h : Kept seen ballots kept) :
    kept = firstBallots (ballots.filter (·.voter ∉ seen)) := by
  induction h with
  | nil => rfl
  | @first seen b rest kept hseen _ ih =>
    rw [List.filter_cons_of_pos (by simpa using hseen), firstBallots, ih, filter_notMem_cons,
      ← filter_firstBallots (· ≠ b.voter)]
  | again hseen _ ih => rw [List.filter_cons_of_neg (by simpa using hseen), ih]

/-- A pass that has seen nobody before keeps the first ballots. -/
lemma kept_firstBallots (ballots : List Ballot) : Kept [] ballots (firstBallots ballots) := by
  obtain ⟨kept, h⟩ := exists_kept [] ballots
  have heq := h.eq
  rw [List.filter_eq_self.mpr (by simp)] at heq
  exact heq ▸ h

/-! ## Further ballots -/

/-- Further ballots count if nobody has voted under their spelling before. -/
lemma firstBallots_append (xs ys : List Ballot) :
    firstBallots (xs ++ ys) =
      firstBallots xs ++ firstBallots (ys.filter (·.voter ∉ xs.map Ballot.voter)) := by
  induction xs with
  | nil => simp [firstBallots]
  | cons b rest ih =>
    rw [List.cons_append, firstBallots, firstBallots, ih, List.filter_append, List.map_cons,
      filter_notMem_cons, ← filter_firstBallots (· ≠ b.voter), List.cons_append]

/-- Ballots under different spellings are all first ballots. -/
lemma firstBallots_eq_self (h : ballots.Pairwise fun b c => b.voter ≠ c.voter) :
    firstBallots ballots = ballots := by
  induction h with
  | nil => rfl
  | @cons b rest hb _ ih =>
    rw [firstBallots, ih, List.filter_eq_self.mpr]
    intro c hc
    exact decide_eq_true (hb c hc).symm

/-! ## Places -/

/-- A first ballot is the one that is found under its spelling. -/
lemma find?_of_mem_firstBallots (h : b ∈ firstBallots ballots) :
    ballots.find? (·.voter = b.voter) = some b := by
  induction ballots with
  | nil => cases h
  | cons first rest ih =>
    rcases List.mem_cons.mp h with rfl | h
    · exact List.find?_cons_of_pos (decide_eq_true rfl)
    · obtain ⟨hb, hne⟩ := List.mem_filter.mp h
      rw [List.find?_cons_of_neg, ih hb]
      simpa using (of_decide_eq_true hne).symm

/-- First ballots come in the order in which their voters come first. -/
lemma ordered_firstBallots (ballots : List Ballot) :
    (firstBallots ballots).Pairwise fun b c =>
      (ballots.map Ballot.voter).idxOf b.voter < (ballots.map Ballot.voter).idxOf c.voter := by
  induction ballots with
  | nil => exact .nil
  | cons first rest ih =>
    have hplace : ∀ b ∈ (firstBallots rest).filter (·.voter ≠ first.voter),
        ((first :: rest).map Ballot.voter).idxOf b.voter =
          (rest.map Ballot.voter).idxOf b.voter + 1 := by
      intro b hb
      exact List.idxOf_cons_ne _ (of_decide_eq_true (List.mem_filter.mp hb).2).symm
    refine List.pairwise_cons.mpr ⟨?_, ?_⟩
    · intro b hb
      rw [hplace b hb, List.map_cons, List.idxOf_cons_self]
      exact Nat.succ_pos _
    · refine (ih.filter _).imp_of_mem ?_
      intro b c hb hc hlt
      rw [hplace b hb, hplace c hc]
      exact Nat.succ_lt_succ hlt

/-! ## Entries of a poll -/

/-- The ballot that an entry of a poll stands for. -/
def PollVoter.ballot (v : PollVoter) : Ballot :=
  ⟨v.voter, v.power, v.choice⟩

/-- The entries of a poll have the voters of the first ballots. -/
lemma map_voter_pollVoters :
    (pollVoters ballots ds).map PollVoter.voter = (firstBallots ballots).map Ballot.voter := by
  unfold pollVoters
  rw [List.map_map]
  rfl

/-- The entries of a poll stand for the first ballots. -/
lemma map_ballot_pollVoters :
    (pollVoters ballots ds).map PollVoter.ballot = firstBallots ballots := by
  unfold pollVoters
  rw [List.map_map]
  exact List.map_id _

/-- The entries of a poll are the voters on its ballots, each once and with the first ballot. -/
structure CountsFirstBallots (ds : List Delegate) (ballots : List Ballot)
    (voters : List PollVoter) : Prop where
  nodup : (voters.map PollVoter.voter).Nodup
  mem_iff : ∀ name, name ∈ voters.map PollVoter.voter ↔ name ∈ ballots.map Ballot.voter
  /-- The entries come in the order in which their voters come first. -/
  ordered : (voters.map PollVoter.voter).Pairwise fun name other =>
    (ballots.map Ballot.voter).idxOf name < (ballots.map Ballot.voter).idxOf other
  /-- The power and the choice of an entry are those on the first ballot of its voter. -/
  first : ∀ v ∈ voters, ballots.find? (·.voter = v.voter) = some v.ballot
  /-- A single pass that remembers the voters finds the entries. -/
  onePass : ∃ kept, Kept [] ballots kept ∧ voters = kept.map (Ballot.attribute ds)

/-- The entries that a poll yields count the first ballots. -/
lemma countsFirstBallots_pollVoters (ds : List Delegate) (ballots : List Ballot) :
    CountsFirstBallots ds ballots (pollVoters ballots ds) where
  nodup := by
    rw [map_voter_pollVoters]
    exact List.pairwise_map.mpr (pairwise_firstBallots ballots)
  mem_iff name := by
    rw [map_voter_pollVoters, List.mem_map, List.mem_map]
    constructor
    · rintro ⟨b, hb, rfl⟩
      exact ⟨b, mem_of_mem_firstBallots hb, rfl⟩
    · rintro ⟨b, hb, rfl⟩
      exact exists_firstBallot hb
  ordered := by
    rw [map_voter_pollVoters]
    exact List.pairwise_map.mpr (ordered_firstBallots ballots)
  first v hv := by
    obtain ⟨b, hb, rfl⟩ := List.mem_map.mp hv
    exact find?_of_mem_firstBallots hb
  onePass := ⟨firstBallots ballots, kept_firstBallots ballots, rfl⟩

/-- In a poll the first ballot under each spelling of an address counts. Further ballots only add
entries behind those that are there, for voters without one, and the entries of a poll taken as
ballots yield the same entries. -/
theorem first_ballot_wins (ds : List Delegate) :
    (∀ ballots, CountsFirstBallots ds ballots (pollVoters ballots ds)) ∧
    (∀ xs ys : List Ballot, pollVoters (xs ++ ys) ds =
      pollVoters xs ds ++ pollVoters (ys.filter (·.voter ∉ xs.map Ballot.voter)) ds) ∧
    (∀ xs ys : List Ballot, pollVoters xs ds <+: pollVoters (xs ++ ys) ds) ∧
    ∀ ballots : List Ballot,
      pollVoters ((pollVoters ballots ds).map PollVoter.ballot) ds = pollVoters ballots ds := by
  have happend : ∀ xs ys : List Ballot, pollVoters (xs ++ ys) ds =
      pollVoters xs ds ++ pollVoters (ys.filter (·.voter ∉ xs.map Ballot.voter)) ds := by
    intro xs ys
    unfold pollVoters
    rw [firstBallots_append, List.map_append]
  refine ⟨countsFirstBallots_pollVoters ds, happend, ?_, ?_⟩
  · intro xs ys
    rw [happend]
    exact List.prefix_append _ _
  · intro ballots
    rw [map_ballot_pollVoters]
    unfold pollVoters
    rw [firstBallots_eq_self (pairwise_firstBallots ballots)]

end ProposalBoard
