/-!
# Search

Whether one text occurs in another.
-/

namespace ProposalBoard.Text

/-- Whether a text occurs anywhere in another. -/
def occursIn (needle : List Char) : List Char → Bool
  | [] => needle.isEmpty
  | c :: rest => needle.isPrefixOf (c :: rest) || occursIn needle rest

/-- A text occurs in another if the other continues it behind some beginning. -/
theorem occursIn_iff_isInfix {needle s : List Char} : occursIn needle s = true ↔ needle <:+: s := by
  induction s with
  | nil => simp [occursIn]
  | cons c rest ih =>
    simp only [occursIn, Bool.or_eq_true, List.isPrefixOf_iff_prefix, ih, List.infix_cons_iff]

end ProposalBoard.Text
