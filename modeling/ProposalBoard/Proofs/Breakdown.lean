import Mathlib.Data.List.Basic
import Mathlib.Logic.Function.Basic
import Mathlib.Tactic.Lemma
import ProposalBoard.Vote.Breakdown

/-!
# Counts and tokens of a breakdown

A breakdown has a count, a share and the tokens of each choice. What it takes from a motion is said
once for all choices: the motion's own count of the choice, and the tokens of the votes with the
number of the choice (`Breakdown.tally_ofMotion`).

A breakdown files the tokens of each vote under the choice with the number that the vote carries.
Since the choices have different numbers, the three lists together are the tokens of all votes
with a number that stands for a choice, up to their order (`Breakdown.perm_tokens_ofPoll`).
-/

namespace ProposalBoard

/-- Whether a code is the number of a choice. -/
def Choice.isNumber (number : Choice → UInt8) (code : UInt8) : Bool :=
  code = number .inFavour || code = number .against || code = number .abstain

/-- The numbers are those of the three choices. -/
lemma Choice.isNumber_iff {number : Choice → UInt8} {code : UInt8} :
    Choice.isNumber number code = true ↔ ∃ choice, code = number choice := by
  simp only [isNumber, Bool.or_eq_true, decide_eq_true_eq]
  constructor
  · rintro ((h | h) | h)
    · exact ⟨.inFavour, h⟩
    · exact ⟨.against, h⟩
    · exact ⟨.abstain, h⟩
  · rintro ⟨choice, h⟩
    cases choice with
    | inFavour => exact .inl (.inl h)
    | against => exact .inl (.inr h)
    | abstain => exact .inr h

/-- Different choices have different numbers in polls. -/
lemma Choice.pollCode_injective : Function.Injective Choice.pollCode := by
  intro c d
  cases c <;> cases d <;> decide

section
variable {α : Type} {l : List α}

/-- The elements that pass either of two tests are those that pass the one and those that pass
the other, if none passes both. -/
lemma perm_filter_append_filter {p q : α → Bool} (hpq : ∀ a ∈ l, p a = true → q a = false) :
    (l.filter p ++ l.filter q).Perm (l.filter fun a => p a || q a) := by
  have hperm := List.filter_append_perm p (l.filter fun a => p a || q a)
  rw [List.filter_filter, List.filter_filter] at hperm
  have hp : l.filter (fun a => p a && (p a || q a)) = l.filter p := by
    apply List.filter_congr
    intro a _
    cases p a <;> simp
  have hq : l.filter (fun a => !p a && (p a || q a)) = l.filter q := by
    apply List.filter_congr
    intro a ha
    cases hpa : p a with
    | true => simp [hpq a ha hpa]
    | false => simp
  rwa [hp, hq] at hperm

/-- The tokens filed under the three choices are those of all records with the number of a
choice. -/
lemma perm_tokens_of_choices {code : α → UInt8} {number : Choice → UInt8}
    {tokens : α → List String} (hnumber : Function.Injective number) :
    ((l.filter (code · = number .inFavour)).flatMap tokens ++
      (l.filter (code · = number .against)).flatMap tokens ++
      (l.filter (code · = number .abstain)).flatMap tokens).Perm
    ((l.filter fun a => Choice.isNumber number (code a)).flatMap tokens) := by
  have hne : ∀ {c d : Choice} {k : UInt8}, c ≠ d → k = number c → k ≠ number d := by
    rintro c d k hcd rfl heq
    exact hcd (hnumber heq)
  rw [← List.flatMap_append, ← List.flatMap_append]
  apply List.Perm.flatMap_right
  have htwo : (l.filter (code · = number .inFavour) ++ l.filter (code · = number .against)).Perm
      (l.filter fun a => decide (code a = number .inFavour) ||
        decide (code a = number .against)) := by
    apply perm_filter_append_filter
    intro a _ h
    exact decide_eq_false (hne (by decide) (of_decide_eq_true h))
  refine (htwo.append_right _).trans ?_
  apply perm_filter_append_filter
  intro a _ h
  rw [Bool.or_eq_true, decide_eq_true_eq, decide_eq_true_eq] at h
  rcases h with h | h
  · exact decide_eq_false (hne (by decide) h)
  · exact decide_eq_false (hne (by decide) h)

end

/-- How much a motion counts for a choice. -/
def Motion.countOf (m : Motion) : Choice → UInt64
  | .inFavour => m.forCount
  | .against => m.againstCount
  | .abstain => m.abstainCount

namespace Breakdown

variable {m : Motion} {votes : List CastVote} {count : Choice → Float}
  {lists : Choice → List String} {choice : Choice}

/-! ## What a choice got -/

/-- What a choice got by a breakdown. -/
def tally (b : Breakdown) : Choice → Tally
  | .inFavour => b.inFavour
  | .against => b.against
  | .abstain => b.abstain

/-- The tokens that a breakdown has under a choice. -/
def tokensUnder (b : Breakdown) : Choice → List String
  | .inFavour => b.inFavour.tokens
  | .against => b.against.tokens
  | .abstain => b.abstain.tokens

/-- What a choice got by given counts and tokens of the choices. -/
lemma tally_ofCounts :
    (ofCounts count lists).tally choice =
      { count := count choice
        percentage := percentage (count choice)
          (count .inFavour + count .against + count .abstain)
        tokens := lists choice } := by
  cases choice <;> rfl

/-- The tokens under a choice are among what the choice got. -/
lemma tokens_tally {b : Breakdown} : (b.tally choice).tokens = b.tokensUnder choice := by
  cases choice <;> rfl

/-- The tokens under a choice are the given ones. -/
lemma tokensUnder_ofCounts : (ofCounts count lists).tokensUnder choice = lists choice := by
  rw [← tokens_tally, tally_ofCounts]

/-- By the breakdown of a motion each choice got what the motion counts for it, its share of what
the motion counts for all, and the tokens of the votes with its number. -/
lemma tally_ofMotion :
    (ofMotion m votes).tally choice =
      { count := (m.countOf choice).toFloat
        percentage := percentage (m.countOf choice).toFloat
          ((m.countOf .inFavour).toFloat + (m.countOf .against).toFloat +
            (m.countOf .abstain).toFloat)
        tokens := tokensFor votes choice.supportCode } := by
  unfold ofMotion
  rw [tally_ofCounts]
  cases choice <;> rfl

/-! ## Tokens of all choices -/

/-- The tokens behind all votes of a breakdown. -/
def tokens (b : Breakdown) : List String :=
  b.inFavour.tokens ++ b.against.tokens ++ b.abstain.tokens

/-- The tokens of a breakdown of a poll are those of the voters who chose. -/
lemma perm_tokens_ofPoll {poll : Poll} {voters : List PollVoter} :
    (ofPoll poll voters).tokens.Perm
      ((voters.filter fun v => Choice.isNumber Choice.pollCode v.choice).flatMap
        PollVoter.tokens) :=
  perm_tokens_of_choices Choice.pollCode_injective

end Breakdown

end ProposalBoard
