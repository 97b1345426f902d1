import Mathlib.Data.List.Nodup
import Mathlib.Data.List.Pairwise
import ProposalBoard.Proofs.Breakdown
import ProposalBoard.Proofs.Defaults
import ProposalBoard.Proofs.FirstBallots

/-!
# Voters of a poll

A voter of a poll counts once, with the first ballot. Ballots are told apart by the address as it is
spelled, while delegates are looked up under its lower-case form. So a voter whose address comes in
two spellings has two entries, and the tokens of its delegate are counted for each of them. The main
statement `nodup_tokens_ofPoll_iff` says that there is no other way for an address to have two
entries or for a token to be counted twice; `twoSpellings_counted_twice` is the least case of it.
-/

namespace ProposalBoard

variable {ballots : List Ballot} {ds : List Delegate} {b c : Ballot} {address other : String}

/-- The voters of a poll have different addresses exactly if no address comes in two spellings. -/
lemma nodup_addresses_iff :
    ((pollVoters ballots ds).map fun v => Text.lowercase v.voter).Nodup ↔
      ∀ b ∈ ballots, ∀ c ∈ ballots,
        Text.lowercase b.voter = Text.lowercase c.voter → b.voter = c.voter := by
  have hmap : ((pollVoters ballots ds).map fun v => Text.lowercase v.voter) =
      (firstBallots ballots).map fun b => Text.lowercase b.voter := by
    unfold pollVoters
    rw [List.map_map]
    rfl
  rw [hmap]
  constructor
  · intro hnodup b hb c hc hlower
    obtain ⟨b', hb', hbvoter⟩ := exists_firstBallot hb
    obtain ⟨c', hc', hcvoter⟩ := exists_firstBallot hc
    rw [← hbvoter, ← hcvoter] at hlower
    rw [← hbvoter, ← hcvoter, List.inj_on_of_nodup_map hnodup hb' hc' hlower]
  · intro hspelling
    refine List.pairwise_map.mpr ((pairwise_firstBallots ballots).imp_of_mem ?_)
    intro b c hb hc hne hlower
    exact hne (hspelling b (mem_of_mem_firstBallots hb) c (mem_of_mem_firstBallots hc) hlower)

/-! ## Tokens of addresses -/

/-- No token is delegated twice. -/
structure Delegate.TokensApart (ds : List Delegate) : Prop where
  nodup : ∀ d ∈ ds, d.tokens.Nodup
  disjoint : ds.Pairwise fun d e => d.tokens.Disjoint e.tokens

/-- The tokens of an address are those of the delegates with its lower-case form. -/
lemma mem_tokensOfAddress_iff {token : String} :
    token ∈ tokensOfAddress ds address ↔
      ∃ d ∈ ds, d.id = Text.lowercase address ∧ token ∈ d.tokens := by
  simp [tokensOfAddress, List.mem_flatMap, List.mem_filter, and_assoc]

/-- Two spellings of an address have the same tokens. -/
lemma tokensOfAddress_congr (h : Text.lowercase address = Text.lowercase other) :
    tokensOfAddress ds address = tokensOfAddress ds other := by
  unfold tokensOfAddress
  rw [h]

/-- If no token is delegated twice, none is behind an address twice. -/
lemma nodup_tokensOfAddress (hds : Delegate.TokensApart ds) (address : String) :
    (tokensOfAddress ds address).Nodup := by
  unfold tokensOfAddress
  rw [List.nodup_flatMap]
  refine ⟨fun d hd => hds.nodup d (List.mem_filter.mp hd).1, ?_⟩
  exact hds.disjoint.filter _

/-- If no token is delegated twice, none is behind two addresses. -/
lemma disjoint_tokensOfAddress (hds : Delegate.TokensApart ds)
    (h : Text.lowercase address ≠ Text.lowercase other) :
    (tokensOfAddress ds address).Disjoint (tokensOfAddress ds other) := by
  intro token haddress hother
  obtain ⟨d, hd, hid, htoken⟩ := mem_tokensOfAddress_iff.mp haddress
  obtain ⟨e, he, hie, htoken'⟩ := mem_tokensOfAddress_iff.mp hother
  by_cases hde : d = e
  · rw [← hid, ← hie, hde] at h
    exact h rfl
  · have hsymm : Std.Symm fun d e : Delegate => d.tokens.Disjoint e.tokens :=
      ⟨fun _ _ => List.disjoint_symm⟩
    exact hds.disjoint.forall hd he hde htoken htoken'

/-! ## Tokens of a poll -/

/-- A ballot counts if it carries the number of a choice. -/
def Ballot.Counts (b : Ballot) : Prop :=
  ∃ choice : Choice, b.choice = choice.pollCode

instance : DecidablePred Ballot.Counts :=
  fun _ => decidable_of_iff _ Choice.isNumber_iff

/-- The first ballots that count. -/
def countedBallots (ballots : List Ballot) : List Ballot :=
  (firstBallots ballots).filter fun b => Choice.isNumber Choice.pollCode b.choice

/-- The members of the list are the first ballots that count. -/
lemma mem_countedBallots_iff :
    b ∈ countedBallots ballots ↔ b ∈ firstBallots ballots ∧ b.Counts := by
  unfold countedBallots Ballot.Counts
  rw [List.mem_filter, Choice.isNumber_iff]

/-- The tokens behind the votes of a poll are those of the addresses on the ballots that count. -/
lemma perm_tokens_pollVoters {poll : Poll} :
    (Breakdown.ofPoll poll (pollVoters ballots ds)).tokens.Perm
      ((countedBallots ballots).flatMap fun b => tokensOfAddress ds b.voter) := by
  have hperm : (Breakdown.ofPoll poll (pollVoters ballots ds)).tokens.Perm
      (((pollVoters ballots ds).filter fun v => Choice.isNumber Choice.pollCode v.choice).flatMap
        PollVoter.tokens) :=
    Breakdown.perm_tokens_ofPoll
  refine hperm.trans (.of_eq ?_)
  unfold pollVoters countedBallots
  rw [List.filter_map, List.flatMap_map]
  rfl

/-- If no token is delegated twice, none is counted twice exactly if any two ballots that count
have different tokens behind them. -/
lemma nodup_tokens_iff_pairwise {poll : Poll} (hds : Delegate.TokensApart ds) :
    (Breakdown.ofPoll poll (pollVoters ballots ds)).tokens.Nodup ↔
      (countedBallots ballots).Pairwise fun b c =>
        (tokensOfAddress ds b.voter).Disjoint (tokensOfAddress ds c.voter) := by
  rw [perm_tokens_pollVoters.nodup_iff, List.nodup_flatMap]
  exact and_iff_right fun b _ => nodup_tokensOfAddress hds b.voter

/-- If no token is delegated twice, then the voters of a poll have different addresses exactly if
no address comes in two spellings, and no token is counted twice exactly if no two first ballots
that count spell the address of one delegate with tokens differently. -/
theorem nodup_tokens_ofPoll_iff (poll : Poll) (ballots : List Ballot) {ds : List Delegate}
    (hds : Delegate.TokensApart ds) :
    (((pollVoters ballots ds).map fun v => Text.lowercase v.voter).Nodup ↔
      ∀ b ∈ ballots, ∀ c ∈ ballots,
        Text.lowercase b.voter = Text.lowercase c.voter → b.voter = c.voter) ∧
    ((Breakdown.ofPoll poll (pollVoters ballots ds)).tokens.Nodup ↔
      ∀ b ∈ firstBallots ballots, ∀ c ∈ firstBallots ballots, b.Counts → c.Counts →
        b.voter ≠ c.voter → Text.lowercase b.voter = Text.lowercase c.voter →
          tokensOfAddress ds b.voter = []) := by
  refine ⟨nodup_addresses_iff, ?_⟩
  rw [nodup_tokens_iff_pairwise hds]
  constructor
  · intro hpairs b hb c hc hbcounts hccounts hne hlower
    have hsymm : Std.Symm fun b c : Ballot =>
        (tokensOfAddress ds b.voter).Disjoint (tokensOfAddress ds c.voter) :=
      ⟨fun _ _ => List.disjoint_symm⟩
    have hdisjoint := hpairs.forall (mem_countedBallots_iff.mpr ⟨hb, hbcounts⟩)
      (mem_countedBallots_iff.mpr ⟨hc, hccounts⟩) fun heq => hne (congrArg Ballot.voter heq)
    -- both spellings have the same tokens, which are then disjoint from themselves
    rw [← tokensOfAddress_congr hlower] at hdisjoint
    exact List.eq_nil_iff_forall_not_mem.mpr fun _ ht => hdisjoint ht ht
  · intro hspelling
    refine List.Pairwise.imp_of_mem ?_ ((pairwise_firstBallots ballots).filter _)
    intro b c hb hc hne
    obtain ⟨hbfirst, hbcounts⟩ := mem_countedBallots_iff.mp hb
    obtain ⟨hcfirst, hccounts⟩ := mem_countedBallots_iff.mp hc
    by_cases hlower : Text.lowercase b.voter = Text.lowercase c.voter
    · rw [hspelling b hbfirst c hcfirst hbcounts hccounts hne hlower]
      exact List.disjoint_nil_left _
    · exact disjoint_tokensOfAddress hds hlower

/-- A delegate with one token. -/
def loneDelegate : List Delegate := [⟨"0xabc", ["11"]⟩]

/-- Two ballots of the delegate under two spellings of its address. -/
def twoSpellings : List Ballot := [⟨"0xABC", 1, 1⟩, ⟨"0xabc", 1, 2⟩]

/-- With one spelling no token is counted twice, although there are two ballots. -/
theorem nodup_tokens_ofPoll_iff_oneSpelling :
    Delegate.TokensApart loneDelegate ∧
      (Breakdown.ofPoll (.blank "poll")
        (pollVoters [⟨"0xABC", 1, 1⟩, ⟨"0xABC", 1, 2⟩] loneDelegate)).tokens.Nodup := by
  have hds : Delegate.TokensApart loneDelegate := ⟨by decide, List.pairwise_singleton _ _⟩
  refine ⟨hds, (nodup_tokens_ofPoll_iff (.blank "poll") _ hds).2.mpr ?_⟩
  decide

/-- With two spellings the token is counted for the proposal and against it, for two voters with
one address. -/
theorem twoSpellings_counted_twice :
    Delegate.TokensApart loneDelegate ∧ (loneDelegate.map Delegate.id).Nodup ∧
      (Breakdown.ofPoll (.blank "poll") (pollVoters twoSpellings loneDelegate)).tokens =
        ["11", "11"] ∧
      ((pollVoters twoSpellings loneDelegate).map fun v => Text.lowercase v.voter) =
        ["0xabc", "0xabc"] := by
  refine ⟨⟨by decide, List.pairwise_singleton _ _⟩, by decide, ?_, ?_⟩
  · decide +kernel
  · decide +kernel

end ProposalBoard
