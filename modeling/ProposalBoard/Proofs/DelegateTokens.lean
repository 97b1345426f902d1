import ProposalBoard.Proofs.Correlation
import ProposalBoard.Proofs.PollVoters

/-!
# Tokens of a delegate

A voter is looked up among the delegates both for a contract vote and for a ballot, but a contract
vote takes the last delegate with the address and a ballot all of them. So the tokens behind a
ballot are those behind a contract vote, with the tokens of earlier delegates with the address in
front. The main statement `attributed_alike_iff` says that the two are the same exactly if the
earlier ones have no tokens; `repeated_delegate_attributed_apart` is the least case in which a token
is behind the ballot only.
-/

namespace ProposalBoard

variable {ds : List Delegate} {address : String}

/-- The delegates with an address, in their order. -/
def delegatesAt (ds : List Delegate) (address : String) : List Delegate :=
  ds.filter (·.id = address)

/-- A contract vote takes the last delegate with the address. -/
lemma tokensOfDelegate_eq (ds : List Delegate) (address : String) :
    tokensOfDelegate ds address =
      ((delegatesAt ds address).getLast?.map Delegate.tokens).getD [] := by
  unfold tokensOfDelegate delegatesAt
  rw [← List.head?_filter, List.filter_reverse, List.head?_reverse]

/-- A ballot takes all delegates with the address if it is spelled as theirs are. -/
lemma tokensOfAddress_eq (hlower : Text.lowercase address = address) :
    tokensOfAddress ds address = (delegatesAt ds address).flatMap Delegate.tokens := by
  unfold tokensOfAddress delegatesAt
  rw [hlower]

/-- A ballot has the tokens of a contract vote, and in front of them those of the earlier delegates
with the address. -/
lemma tokensOfAddress_eq_append (hlower : Text.lowercase address = address) :
    tokensOfAddress ds address =
      (delegatesAt ds address).dropLast.flatMap Delegate.tokens ++ tokensOfDelegate ds address := by
  rw [tokensOfAddress_eq hlower, tokensOfDelegate_eq]
  rcases List.eq_nil_or_concat' (delegatesAt ds address) with hnone | ⟨earlier, last, hsome⟩
  · rw [hnone]
    rfl
  · rw [hsome, List.dropLast_concat, List.getLast?_concat, List.flatMap_append]
    simp

/-- If no two delegates share an address, none comes before another with its address. -/
lemma dropLast_delegatesAt (hids : (ds.map Delegate.id).Nodup) (address : String) :
    (delegatesAt ds address).dropLast = [] := by
  have hid : ∀ d ∈ delegatesAt ds address, decide (d.id = address) = true :=
    fun d hd => (List.mem_filter.mp hd).2
  have hpairs : (delegatesAt ds address).Pairwise fun d e =>
      ¬(decide (d.id = address) = true ∧ decide (e.id = address) = true) :=
    (pairwise_key hids address).filter _
  rcases List.eq_nil_or_concat' (delegatesAt ds address) with hnone | ⟨earlier, last, hsome⟩
  · rw [hnone]
    rfl
  · rw [hsome] at hid hpairs ⊢
    rw [List.dropLast_concat]
    apply List.eq_nil_iff_forall_not_mem.mpr
    intro d hd
    have hlast : last ∈ earlier ++ [last] := List.mem_append_right _ (List.mem_singleton_self _)
    exact (List.pairwise_append.mp hpairs).2.2 d hd last (List.mem_singleton_self _)
      ⟨hid d (List.mem_append_left _ hd), hid last hlast⟩

/-- The tokens behind a contract vote and those behind a ballot of one voter, whose address is
spelled as those of delegates are. The ballot has in front the tokens of all but the last delegate
with the address. So the tokens are the same exactly if those delegates have none, and in particular
if no two delegates share an address. -/
theorem attributed_alike_iff (ds : List Delegate) (r : Receipt) (ballots : List Ballot)
    (hlower : Text.lowercase r.voter = r.voter) {v : PollVoter} (hv : v ∈ pollVoters ballots ds)
    (hvoter : v.voter = r.voter) :
    v.tokens = (delegatesAt ds r.voter).dropLast.flatMap Delegate.tokens ++
      (r.attribute ds).tokens ∧
    ((r.attribute ds).tokens = v.tokens ↔
      ∀ d ∈ (delegatesAt ds r.voter).dropLast, d.tokens = []) ∧
    ((ds.map Delegate.id).Nodup → (r.attribute ds).tokens = v.tokens) := by
  have htokens : v.tokens = (delegatesAt ds r.voter).dropLast.flatMap Delegate.tokens ++
      (r.attribute ds).tokens := by
    obtain ⟨b, -, rfl⟩ := List.mem_map.mp hv
    have hb : b.voter = r.voter := hvoter
    show tokensOfAddress ds b.voter = _ ++ tokensOfDelegate ds r.voter
    rw [hb, tokensOfAddress_eq_append hlower]
  refine ⟨htokens, ?_, ?_⟩
  · rw [htokens, List.self_eq_append_left, List.flatMap_eq_nil_iff]
  · intro hids
    rw [htokens, dropLast_delegatesAt hids, List.flatMap_nil, List.nil_append]

/-- A delegate that is listed twice, the first time without tokens. -/
def emptyFirst : List Delegate := [⟨"0xa", []⟩, ⟨"0xb", ["3"]⟩, ⟨"0xa", ["1", "2"]⟩]

/-- A contract vote and a ballot of the delegate have the same tokens. -/
theorem attributed_alike_iff_emptyFirst :
    Text.lowercase "0xa" = "0xa" ∧
      Ballot.attribute emptyFirst ⟨"0xa", 1, 2⟩ ∈ pollVoters [⟨"0xa", 1, 2⟩] emptyFirst ∧
      (Receipt.attribute emptyFirst ⟨"0xa", 1⟩).tokens = ["1", "2"] ∧
      (Receipt.attribute emptyFirst ⟨"0xa", 1⟩).tokens =
        (Ballot.attribute emptyFirst ⟨"0xa", 1, 2⟩).tokens := by
  have hlower : Text.lowercase "0xa" = "0xa" := by decide +kernel
  have hv : Ballot.attribute emptyFirst ⟨"0xa", 1, 2⟩ ∈
      pollVoters [⟨"0xa", 1, 2⟩] emptyFirst := List.mem_singleton_self _
  refine ⟨hlower, hv, by decide, ?_⟩
  exact (attributed_alike_iff emptyFirst ⟨"0xa", 1⟩ _ hlower hv rfl).2.1.mpr (by decide)

/-- A delegate that is listed twice. -/
def repeatedDelegate : List Delegate := [⟨"0xa", ["1"]⟩, ⟨"0xa", ["2"]⟩]

/-- A ballot of a delegate that is listed twice has a token that a contract vote of it has not. -/
theorem repeated_delegate_attributed_apart :
    Text.lowercase "0xa" = "0xa" ∧
      ((⟨"0xa", 1⟩ : Receipt).attribute repeatedDelegate).tokens = ["2"] ∧
      (pollVoters [⟨"0xa", 1, 1⟩] repeatedDelegate).map PollVoter.tokens = [["1", "2"]] := by
  decide +kernel

end ProposalBoard
