import Mathlib.Tactic.Lemma
import ProposalBoard.Board
import ProposalBoard.Config
import ProposalBoard.Motion.Indexed
import ProposalBoard.Proofs.Defaults
import ProposalBoard.Proofs.Table
import ProposalBoard.Proofs.TimestampText

/-!
# Stored records are read back

The records that are kept in files or come from services, each with its fields and what is read for
those that are left out. All of them are read back from the object that they are written as and from
every other that spells them.
-/

namespace ProposalBoard

/-! ## Values of fields -/

instance : Forms UInt64 := .ofEncode decode?_encode_word

instance : Forms UInt8 := .ofEncode fun n => by
  have hrange : 0 ≤ (n.toNat : Int) ∧ (n.toNat : Int) ≤ UInt8.size - 1 := by
    have := n.toNat_lt_size
    omega
  show (Json.intWithin? 0 (UInt8.size - 1) (.int n.toNat)).map _ = some n
  rw [Json.intWithin?, if_pos hrange]
  simp

instance : Forms Int64 := .ofEncode fun n => by
  have hrange : Int64.minValue.toInt ≤ n.toInt ∧ n.toInt ≤ Int64.maxValue.toInt :=
    ⟨n.minValue_le_toInt, n.toInt_le⟩
  show (Json.intWithin? _ _ (.int n.toInt)).map _ = some n
  rw [Json.intWithin?, if_pos hrange]
  simp

instance : Forms Instant := .ofEncode Instant.ofText?_toText

instance : Forms Proposal.Status := .ofEncode fun s => by cases s <;> rfl

instance : Forms Poll.State := .ofEncode fun s => by cases s <;> rfl

instance : Forms Motion.Status := .ofEncode fun s => by cases s <;> rfl

instance : NeverNull UInt64 := ⟨nofun⟩

instance : NeverNull Instant := ⟨fun _ => Json.noConfusion⟩

instance : NeverNull IndexedAccount := ⟨nofun⟩

/-! ## Records -/

open Json.Field

instance : Record Proposal where
  fields p := [
    needed "id" p.id,
    defaulted "title" "" p.title,
    defaulted "proposer" "" p.proposer,
    defaulted "startBlock" 0 p.startBlock,
    defaulted "endBlock" 0 p.endBlock,
    defaulted "createdBlock" 0 p.createdBlock,
    defaulted "eta" none p.eta,
    defaulted "quorumVotes" 0 p.quorumVotes,
    defaulted "forCount" 0 p.forCount,
    defaulted "againstCount" 0 p.againstCount,
    defaulted "abstainCount" 0 p.abstainCount,
    defaulted "status" .undetermined p.status,
    defaulted "transactionHash" "" p.transactionHash]
  nodup_names _ := by simp
  encode_eq _ := rfl
  decode?_eq {_ _ found} hfound hread := by
    simp only [List.forall_mem_cons, isRead_needed_iff, isRead_defaulted_iff] at hread
    exact Option.bind_eq_some_iff.mpr ⟨found, hfound, by simp [hread]⟩

instance : Record Poll where
  fields p := [
    needed "id" p.id,
    defaulted "body" "" p.body,
    defaulted "state" .unknown p.state,
    defaulted "start" 0 p.start,
    defaulted "end" 0 p.close,
    defaulted "snapshot" 0 p.powerBlock,
    defaulted "scores" [] p.scores,
    defaulted "scores_total" 0 p.scoresTotal]
  nodup_names _ := by simp
  encode_eq _ := rfl
  decode?_eq {_ _ found} hfound hread := by
    simp only [List.forall_mem_cons, isRead_needed_iff, isRead_defaulted_iff] at hread
    exact Option.bind_eq_some_iff.mpr ⟨found, hfound, by simp [hread]⟩

instance : Record Motion where
  fields m := [
    needed "id" m.id,
    defaulted "proposer" "" m.proposer,
    defaulted "eDAO" "" m.externalDao,
    defaulted "eID" none m.externalId,
    defaulted "quorumVotes" 0 m.quorumVotes,
    defaulted "startBlock" 0 m.startBlock,
    defaulted "endBlock" 0 m.endBlock,
    defaulted "forCount" 0 m.forCount,
    defaulted "againstCount" 0 m.againstCount,
    defaulted "abstainCount" 0 m.abstainCount,
    defaulted "vetoed" false m.vetoed,
    defaulted "executed" false m.executed,
    defaulted "status" .undetermined m.status,
    defaulted "executionWindow" none m.executionWindow]
  nodup_names _ := by simp
  encode_eq _ := rfl
  decode?_eq {_ _ found} hfound hread := by
    simp only [List.forall_mem_cons, isRead_needed_iff, isRead_defaulted_iff] at hread
    exact Option.bind_eq_some_iff.mpr ⟨found, hfound, by simp [hread]⟩

instance : Record IndexedAccount where
  fields a := [
    needed "id" a.id]
  nodup_names _ := by simp
  encode_eq _ := rfl
  decode?_eq {_ _ found} hfound hread := by
    simp only [List.forall_mem_cons, isRead_needed_iff] at hread
    exact Option.bind_eq_some_iff.mpr ⟨found, hfound, by simp [hread]⟩

instance : Record IndexedMotion where
  fields m := [
    needed "id" m.id,
    defaulted "proposer" none m.proposer,
    defaulted "eDAO" "" m.externalDao,
    defaulted "eID" "" m.externalId,
    defaulted "quorumVotes" "" m.quorumVotes,
    defaulted "startBlock" "" m.startBlock,
    defaulted "endBlock" "" m.endBlock,
    defaulted "forVotes" "" m.forVotes,
    defaulted "againstVotes" "" m.againstVotes,
    defaulted "abstainVotes" "" m.abstainVotes,
    defaulted "vetoed" false m.vetoed,
    defaulted "executed" false m.executed,
    defaulted "status" "" m.status]
  nodup_names _ := by simp
  encode_eq _ := rfl
  decode?_eq {_ _ found} hfound hread := by
    simp only [List.forall_mem_cons, isRead_needed_iff, isRead_defaulted_iff] at hread
    exact Option.bind_eq_some_iff.mpr ⟨found, hfound, by simp [hread]⟩

instance : Record Delegate where
  fields d := [
    needed "id" d.id,
    defaulted "representedTokenIds" [] d.tokens]
  nodup_names _ := by simp
  encode_eq _ := rfl
  decode?_eq {_ _ found} hfound hread := by
    simp only [List.forall_mem_cons, isRead_needed_iff, isRead_defaulted_iff] at hread
    exact Option.bind_eq_some_iff.mpr ⟨found, hfound, by simp [hread]⟩

instance : Record Receipt where
  fields r := [
    needed "voter" r.voter,
    needed "supportDetailed" r.support]
  nodup_names _ := by simp
  encode_eq _ := rfl
  decode?_eq {_ _ found} hfound hread := by
    simp only [List.forall_mem_cons, isRead_needed_iff] at hread
    exact Option.bind_eq_some_iff.mpr ⟨found, hfound, by simp [hread]⟩

instance : Record CastVote where
  fields v := [
    needed "choice" v.choice,
    defaulted "representedTokenIds" [] v.tokens]
  nodup_names _ := by simp
  encode_eq _ := rfl
  decode?_eq {_ _ found} hfound hread := by
    simp only [List.forall_mem_cons, isRead_needed_iff, isRead_defaulted_iff] at hread
    exact Option.bind_eq_some_iff.mpr ⟨found, hfound, by simp [hread]⟩

instance : Record Ballot where
  fields b := [
    needed "voter" b.voter,
    defaulted "vp" 0 b.power,
    needed "choice" b.choice]
  nodup_names _ := by simp
  encode_eq _ := rfl
  decode?_eq {_ _ found} hfound hread := by
    simp only [List.forall_mem_cons, isRead_needed_iff, isRead_defaulted_iff] at hread
    exact Option.bind_eq_some_iff.mpr ⟨found, hfound, by simp [hread]⟩

instance : Record PollVoter where
  fields v := [
    needed "voter" v.voter,
    needed "vp" v.power,
    needed "choice" v.choice,
    needed "tokenIds" v.tokens]
  nodup_names _ := by simp
  encode_eq _ := rfl
  decode?_eq {_ _ found} hfound hread := by
    simp only [List.forall_mem_cons, isRead_needed_iff] at hread
    exact Option.bind_eq_some_iff.mpr ⟨found, hfound, by simp [hread]⟩

instance : Record ChainClock where
  fields c := [
    needed "current_block" c.block,
    needed "now" c.now]
  nodup_names _ := by simp
  encode_eq _ := rfl
  decode?_eq {_ _ found} hfound hread := by
    simp only [List.forall_mem_cons, isRead_needed_iff] at hread
    exact Option.bind_eq_some_iff.mpr ⟨found, hfound, by simp [hread]⟩

instance : Record Names where
  fields n := [
    defaulted "primary" ({} : Names).primary n.primary,
    defaulted "metagov" ({} : Names).metagov n.metagov]
  nodup_names _ := by simp
  encode_eq _ := rfl
  decode?_eq {_ _ found} hfound hread := by
    simp only [List.forall_mem_cons, isRead_defaulted_iff] at hread
    exact Option.bind_eq_some_iff.mpr ⟨found, hfound, by simp [hread]⟩

instance : Record Config where
  fields c := [
    defaulted "execution_window_blocks" ({} : Config).executionWindowBlocks c.executionWindowBlocks,
    defaulted "average_block_time_secs" ({} : Config).averageBlockSeconds c.averageBlockSeconds,
    defaulted "federation_id_threshold" ({} : Config).federationThreshold c.federationThreshold,
    defaulted "expiry_grace_days" ({} : Config).expiryGraceDays c.expiryGraceDays,
    defaulted "names" ({} : Config).names c.names]
  nodup_names _ := by simp
  encode_eq _ := rfl
  decode?_eq {_ _ found} hfound hread := by
    simp only [List.forall_mem_cons, isRead_defaulted_iff] at hread
    exact Option.bind_eq_some_iff.mpr ⟨found, hfound, by simp [hread]⟩

instance : Record Board where
  fields b := [
    needed "current_block" b.currentBlock,
    defaulted "now" none b.now,
    defaulted "proposals" [] b.proposals,
    defaulted "snapshot_proposals" [] b.polls,
    defaulted "federation_proposals" [] b.motions,
    defaulted "delegates" [] b.delegates,
    defaulted "proposal_votes" ∅ b.proposalVotes,
    defaulted "snapshot_votes" ∅ b.pollVotes,
    defaulted "federation_votes" ∅ b.motionVotes]
  nodup_names _ := by simp
  encode_eq _ := rfl
  decode?_eq {_ _ found} hfound hread := by
    simp only [List.forall_mem_cons, isRead_needed_iff, isRead_defaulted_iff] at hread
    exact Option.bind_eq_some_iff.mpr ⟨found, hfound, by simp [hread]⟩

/-! ## Reading back -/

/-- All records of a type whose doubles are finite are written as an object that spells them, and
are read from every such object, whether or not one of its keys is written with an escape. -/
def ReadsBack (α : Type) [Codec α] [Record α] : Prop :=
  ∀ a : α, FloatsFinite a →
    (∃ members, encode a = .obj members ∧ Json.Spells (Record.fields a) members) ∧
    decode? (encode a) = some a ∧
    ∀ members, Json.Spells (Record.fields a) members →
      decode? (.obj members) = some a ∧ decode? (.escapedObj members) = some a

/-- The records of every type that has its fields told are read back. -/
lemma readsBack (α : Type) [Codec α] [Record α] : ReadsBack α := by
  intro a h
  refine ⟨⟨_, Record.encode_eq a, Json.spells_map_member h⟩, ?_, ?_⟩
  · exact Forms.decode?_of_isForm (Forms.isForm_encode h)
  · intro members hspells
    exact ⟨Record.decode?_of_spells rfl hspells, Record.decode?_of_spells rfl hspells⟩

/-- Reading undoes writing for all stored records. It still does with the members of the object in
another order, with unknown members put in, and without fields that hold their default, which for a
configuration is the value in the default configuration. The same holds of the records inside. -/
theorem stored_records_read_back :
    ReadsBack Proposal ∧ ReadsBack Poll ∧ ReadsBack Motion ∧ ReadsBack IndexedMotion ∧
      ReadsBack Delegate ∧ ReadsBack Receipt ∧ ReadsBack CastVote ∧ ReadsBack Ballot ∧
      ReadsBack PollVoter ∧ ReadsBack ChainClock ∧ ReadsBack Config ∧ ReadsBack Board :=
  ⟨readsBack _, readsBack _, readsBack _, readsBack _, readsBack _, readsBack _, readsBack _,
    readsBack _, readsBack _, readsBack _, readsBack _, readsBack _⟩

/-- A vote without power, with the power left out, the choice in front and a remark. -/
theorem stored_records_read_back_ballot :
    FloatsFinite (⟨"0xa1", 0, 1⟩ : Ballot) ∧
      decode? (.obj [("remark", .arr []), ("choice", .int 1), ("voter", .str "0xa1")]) =
        some (⟨"0xa1", 0, 1⟩ : Ballot) := by
  have hfinite : FloatsFinite (⟨"0xa1", 0, 1⟩ : Ballot) := by
    refine List.forall_mem_cons.mpr ⟨trivial, List.forall_mem_cons.mpr ⟨?_, ?_⟩⟩
    · show (0 : Float).isFinite = true
      decide
    · exact List.forall_mem_cons.mpr ⟨trivial, nofun⟩
  obtain ⟨-, -, -, -, -, -, -, hballot, -⟩ := stored_records_read_back
  obtain ⟨⟨members, hwritten, hspells⟩, -, hread⟩ := hballot ⟨"0xa1", 0, 1⟩ hfinite
  cases hwritten
  have hmoved := hspells.reordered (@List.perm_append_comm _ [_] [_, _])
  have hshort := hmoved.defaultLeftOut (List.mem_cons_of_mem _ List.mem_cons_self) rfl rfl
  have hmore := hshort.unknownAdded (m := ("remark", .arr [])) (by simp [Record.fields])
  exact ⟨hfinite, (hread _ hmore).1⟩

end ProposalBoard
