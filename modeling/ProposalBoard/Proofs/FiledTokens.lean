import ProposalBoard.Proofs.Breakdown

/-!
# Filing of tokens

A breakdown files the tokens of each vote under the choice whose number the vote carries. Contracts
and polls number the choices differently, and a vote may carry any number at all. `Filed` goes
through the votes one by one and says for each where its tokens go. The main statement
`Breakdown.files_tokens` says that the breakdowns of primary votes, of motions and of polls are what
this yields with the numbers of contracts and of polls: no token is lost, invented or filed under
another choice, and the breakdown of some votes and then others puts the lists of tokens together.
-/

namespace ProposalBoard

namespace Choice

/-- The choices with the given numbers. -/
def numbered (inFavour against abstain : UInt8) : Choice → UInt8
  | .inFavour => inFavour
  | .against => against
  | .abstain => abstain

/-- Contracts number for, against and abstaining as 1, 0 and 2. -/
lemma supportCode_eq_numbered : supportCode = numbered 1 0 2 := by
  funext choice
  cases choice <;> rfl

/-- Polls number for, against and abstaining as 1, 2 and 3. -/
lemma pollCode_eq_numbered : pollCode = numbered 1 2 3 := by
  funext choice
  cases choice <;> rfl

/-- Different choices have different numbers in the contracts. -/
lemma supportCode_injective : Function.Injective supportCode := by
  intro c d
  cases c <;> cases d <;> decide

end Choice

section
variable {α : Type}

/-- The tokens of records are filed under choices, one record after another. -/
inductive Filed (code : α → UInt8) (tokens : α → List String) (number : Choice → UInt8) :
    List α → (Choice → List String) → Prop where
  | nil :
    Filed code tokens number [] fun _ => []
  | counted {a rest lists choice} :
    code a = number choice →
    Filed code tokens number rest lists →
    Filed code tokens number (a :: rest)
      (Function.update lists choice (tokens a ++ lists choice))
  | uncounted {a rest lists} :
    (∀ choice, code a ≠ number choice) →
    Filed code tokens number rest lists →
    Filed code tokens number (a :: rest) lists

variable {code : α → UInt8} {tokens : α → List String} {number : Choice → UInt8}
  {xs ys : List α} {lists others : Choice → List String}

/-- Whatever numbers the records carry, their tokens can be filed. -/
lemma exists_filed (code : α → UInt8) (tokens : α → List String) (number : Choice → UInt8)
    (xs : List α) : ∃ lists, Filed code tokens number xs lists := by
  induction xs with
  | nil => exact ⟨_, .nil⟩
  | cons a rest ih =>
    obtain ⟨lists, hrest⟩ := ih
    by_cases hcounted : ∃ choice, code a = number choice
    · obtain ⟨choice, hcode⟩ := hcounted
      exact ⟨_, .counted hcode hrest⟩
    · exact ⟨_, .uncounted (not_exists.mp hcounted) hrest⟩

/-- Where choices have different numbers, the tokens under a choice are those of the records with
its number. -/
lemma Filed.eq (hnumber : Function.Injective number) (h : Filed code tokens number xs lists)
    (choice : Choice) : lists choice = (xs.filter (code · = number choice)).flatMap tokens := by
  induction h with
  | nil => rfl
  | @counted a rest lists chosen hcode _ ih =>
    by_cases hchoice : choice = chosen
    · subst hchoice
      rw [Function.update_self, List.filter_cons_of_pos (by simpa using hcode),
        List.flatMap_cons, ih]
    · have hne : code a ≠ number choice := fun heq => hchoice (hnumber (heq.symm.trans hcode))
      rw [Function.update_of_ne hchoice, List.filter_cons_of_neg (by simpa using hne), ih]
  | uncounted hnone _ ih =>
    rw [List.filter_cons_of_neg (by simpa using hnone choice), ih]

/-- Filing some records and then others puts the lists together. -/
lemma Filed.append (hxs : Filed code tokens number xs lists)
    (hys : Filed code tokens number ys others) :
    Filed code tokens number (xs ++ ys) fun choice => lists choice ++ others choice := by
  induction hxs with
  | nil => exact hys
  | @counted a rest lists chosen hcode _ ih =>
    have hlists : (fun choice => Function.update lists chosen (tokens a ++ lists chosen) choice ++
        others choice) = Function.update (fun choice => lists choice ++ others choice) chosen
        (tokens a ++ (lists chosen ++ others chosen)) := by
      funext choice
      by_cases hchoice : choice = chosen
      · subst hchoice
        rw [Function.update_self, Function.update_self, List.append_assoc]
      · rw [Function.update_of_ne hchoice, Function.update_of_ne hchoice]
    rw [hlists]
    exact .counted hcode ih
  | uncounted hnone _ ih => exact .uncounted hnone ih

end

namespace Breakdown

section
variable {α : Type}

/-- Breakdowns of records have the tokens of each record under the choice with its number. -/
structure FilesTokens (code : α → UInt8) (tokens : α → List String) (number : Choice → UInt8)
    (split : List α → Breakdown) : Prop where
  /-- The lists of tokens are those that filing the records one after another ends with. -/
  filed_iff : ∀ records lists,
    Filed code tokens number records lists ↔ lists = (split records).tokensUnder
  /-- A list has the tokens of the records with the number of the choice, in their order. -/
  exact : ∀ records choice,
    (split records).tokensUnder choice =
      (records.filter (code · = number choice)).flatMap tokens
  /-- Together the lists have all tokens of records with the number of a choice, as often as these
  do. -/
  perm : ∀ records,
    (split records).tokens.Perm
      ((records.filter fun a => Choice.isNumber number (code a)).flatMap tokens)
  /-- A record with any other number changes nothing. -/
  ignored : ∀ xs a ys, (∀ choice, code a ≠ number choice) →
    (split (xs ++ a :: ys)).tokensUnder = (split (xs ++ ys)).tokensUnder
  append : ∀ xs ys choice,
    (split (xs ++ ys)).tokensUnder choice =
      (split xs).tokensUnder choice ++ (split ys).tokensUnder choice

variable {code : α → UInt8} {tokens : α → List String} {number : Choice → UInt8}
  {split : List α → Breakdown}

/-- Breakdowns that select the tokens of each choice by its number file all tokens. -/
lemma filesTokens_of_exact (hnumber : Function.Injective number)
    (hexact : ∀ records choice, (split records).tokensUnder choice =
      (records.filter (code · = number choice)).flatMap tokens) :
    FilesTokens code tokens number split := by
  have heq : ∀ {records lists}, Filed code tokens number records lists →
      lists = (split records).tokensUnder := by
    intro records lists h
    funext choice
    rw [h.eq hnumber choice, hexact]
  have hfiled : ∀ records, Filed code tokens number records (split records).tokensUnder := by
    intro records
    obtain ⟨lists, h⟩ := exists_filed code tokens number records
    exact heq h ▸ h
  refine ⟨?_, hexact, ?_, ?_, ?_⟩
  · intro records lists
    exact ⟨heq, fun h => h ▸ hfiled records⟩
  · intro records
    show ((split records).tokensUnder .inFavour ++ (split records).tokensUnder .against ++
      (split records).tokensUnder .abstain).Perm _
    rw [hexact, hexact, hexact]
    exact perm_tokens_of_choices hnumber
  · intro xs a ys hnone
    rw [← heq ((hfiled xs).append (.uncounted hnone (hfiled ys))),
      ← heq ((hfiled xs).append (hfiled ys))]
  · intro xs ys choice
    rw [← heq ((hfiled xs).append (hfiled ys))]

end

/-- Primary votes and motions file the tokens of votes that carry 1, 0 and 2 as for, against and
abstaining, polls those of voters that carry 1, 2 and 3. -/
theorem files_tokens :
    (∀ p : Proposal,
      FilesTokens CastVote.choice CastVote.tokens (Choice.numbered 1 0 2) (ofProposal p)) ∧
    (∀ m : Motion,
      FilesTokens CastVote.choice CastVote.tokens (Choice.numbered 1 0 2) (ofMotion m)) ∧
    ∀ poll : Poll,
      FilesTokens PollVoter.choice PollVoter.tokens (Choice.numbered 1 2 3) (ofPoll poll) := by
  rw [← Choice.supportCode_eq_numbered, ← Choice.pollCode_eq_numbered]
  refine ⟨fun p => ?_, fun m => ?_, fun poll => ?_⟩
  · apply filesTokens_of_exact Choice.supportCode_injective
    intro records choice
    exact tokensUnder_ofCounts
  · apply filesTokens_of_exact Choice.supportCode_injective
    intro records choice
    exact tokensUnder_ofCounts
  · apply filesTokens_of_exact Choice.pollCode_injective
    intro records choice
    exact tokensUnder_ofCounts

end Breakdown

end ProposalBoard
