import Mathlib.Tactic.Lemma
import ProposalBoard.Board

/-!
# Records with nothing but an id

What a record holds when the service that delivers it leaves out all that may be left out. Boards
and records with a few fields of their own are told by what they change in a blank one.
-/

namespace ProposalBoard

/-- A word is read back from its written form. -/
lemma decode?_encode_word (n : UInt64) : decode? (encode n) = some n := by
  show (Json.intWithin? 0 (UInt64.size - 1) (.int n.toNat)).map (fun k => .ofNat k.toNat) = some n
  have h := n.toNat_lt_size
  simp only [UInt64.size] at h
  simp [Json.intWithin?]
  omega

/-- A proposal of which the id alone is known. -/
def Proposal.blank (id : UInt64) : Proposal where
  id := id
  title := ""
  proposer := ""
  startBlock := 0
  endBlock := 0
  createdBlock := 0
  eta := none
  quorumVotes := 0
  forCount := 0
  againstCount := 0
  abstainCount := 0
  status := .undetermined
  transactionHash := ""

/-- A poll of which the id alone is known. -/
def Poll.blank (id : String) : Poll where
  id := id
  body := ""
  state := .unknown
  start := 0
  close := 0
  powerBlock := 0
  scores := []
  scoresTotal := 0

/-- A motion of which the id alone is known. -/
def Motion.blank (id : UInt64) : Motion where
  id := id
  proposer := ""
  externalDao := ""
  externalId := none
  quorumVotes := 0
  startBlock := 0
  endBlock := 0
  forCount := 0
  againstCount := 0
  abstainCount := 0
  vetoed := false
  executed := false
  status := .undetermined
  executionWindow := none

/-- A board of which the latest block alone is known. -/
def Board.blank (currentBlock : UInt64) : Board where
  currentBlock := currentBlock
  now := none
  proposals := []
  polls := []
  motions := []
  delegates := []
  proposalVotes := ∅
  pollVotes := ∅
  motionVotes := ∅

end ProposalBoard
