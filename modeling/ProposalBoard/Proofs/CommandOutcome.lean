import ProposalBoard.Proofs.BoardOrder
import ProposalBoard.Proofs.ConfigFile
import ProposalBoard.Proofs.DiskWrites
import ProposalBoard.Session

/-!
# Outcomes of commands

What a command comes to is told by rules (`Session.Outcome`): one for each thing that can be wrong
with its files, in the order in which they are looked at, and one for what is printed when nothing
is. The rules leave no choice, and the carrying out of commands follows them
(`Session.execute_eq_iff`). The main statement `Session.faithful` draws the conclusions: a command
that fails prints nothing and leaves the disk as it was, no command changes a file that it does not
write, and the command for one proposal prints the first entry with its id of what the command for
the board prints.
-/

namespace ProposalBoard

variable {α : Type} [Codec α] {content : Option ByteArray} {path : String} {e : Error}

/-! ## Records in files -/

namespace Stored

/-- A file is missing, or it is no text. -/
def Unreadable (content : Option ByteArray) : Prop :=
  ∀ text : String, content ≠ some text.toUTF8

/-- A file has the text of a record. -/
def Holds (content : Option ByteArray) (a : α) : Prop :=
  ∃ text : String, content = some text.toUTF8 ∧ ∃ j, Json.parse? text = some j ∧ decode? j = some a

/-- A file has a text, but not that of a record. -/
def Malformed (α : Type) [Codec α] (content : Option ByteArray) : Prop :=
  ∃ text : String, content = some text.toUTF8 ∧
    ∀ j, Json.parse? text = some j → (decode? j : Option α) = none

/-- The record in a file at a path. -/
def load (α : Type) [Codec α] (path : String) (content : Option ByteArray) : Except Error α :=
  textOf path content >>= recordOf

/-- Loading from a file that is missing or no text ends with an error about the file. -/
lemma Unreadable.load_eq (h : Unreadable content) : load α path content = .error (.file path) := by
  have hnone : content.bind String.fromUTF8? = none := by
    rw [Option.bind_eq_none_iff]
    rintro bytes rfl
    exact dif_neg fun hvalid => h (String.fromUTF8 bytes hvalid) rfl
  rw [load, textOf, hnone]
  rfl

/-- Loading from a text that is not that of a record ends with an error about its form. -/
lemma Malformed.load_eq (h : Malformed α content) : load α path content = .error .malformed := by
  obtain ⟨text, rfl, hrecord⟩ := h
  have hnone : ((Json.parse? text).bind decode? : Option α) = none := by
    cases hparse : Json.parse? text with
    | none => rfl
    | some j => exact hrecord j hparse
  show textOf path (some text.toUTF8) >>= recordOf = _
  rw [textOf_toUTF8]
  show recordOf text = _
  rw [recordOf, hnone]

/-- From a file with the text of a record, the record is loaded. -/
lemma Holds.load_eq {a : α} (h : Holds content a) : load α path content = .ok a := by
  obtain ⟨text, rfl, j, hparse, hread⟩ := h
  show textOf path (some text.toUTF8) >>= recordOf = _
  rw [textOf_toUTF8]
  show recordOf text = _
  rw [recordOf, hparse, Option.bind_some, hread]

/-- A file cannot be read, has another text, or holds a record. -/
lemma unreadable_or_malformed_or_holds (α : Type) [Codec α] (content : Option ByteArray) :
    Unreadable content ∨ Malformed α content ∨ ∃ a : α, Holds content a := by
  by_cases hread : ∃ text : String, content = some text.toUTF8
  · obtain ⟨text, htext⟩ := hread
    cases hrecord : ((Json.parse? text).bind decode? : Option α) with
    | none =>
      refine .inr (.inl ⟨text, htext, fun j hparse => ?_⟩)
      rw [hparse] at hrecord
      exact hrecord
    | some a =>
      obtain ⟨j, hparse, hread⟩ := Option.bind_eq_some_iff.mp hrecord
      exact .inr (.inr ⟨a, text, htext, j, hparse, hread⟩)
  · exact .inl fun text htext => hread ⟨text, htext⟩

end Stored

open Stored (Unreadable Malformed Holds)

/-- A configuration is loaded as a record and then checked. -/
lemma Config.load_eq : Config.load path content = Stored.load Config path content >>= checked :=
  (bind_assoc _ _ _).symm

/-- A configuration in which blocks take no time is turned down for that. -/
lemma Config.checked_of_zeroBlockTime {c : Config} (h : c.averageBlockSeconds.toNat = 0) :
    c.checked = .error (.invalidConfig .zeroBlockTime) := by
  rcases c.checked_cases with ⟨-, hchecked⟩ | ⟨⟨hpos, -⟩, -⟩ | ⟨hvalid, -⟩
  · exact hchecked
  · omega
  · exact absurd hvalid.1 (by omega)

/-- A configuration in which blocks take time and the days of grace are negative is turned down for
the latter. -/
lemma Config.checked_of_negativeGrace {c : Config} (hpos : 1 ≤ c.averageBlockSeconds.toNat)
    (hneg : c.expiryGraceDays.toInt < 0) : c.checked = .error (.invalidConfig .negativeGrace) := by
  rcases c.checked_cases with ⟨hzero, -⟩ | ⟨-, hchecked⟩ | ⟨hvalid, -⟩
  · omega
  · exact hchecked
  · exact absurd hvalid.2 (by omega)

/-- A valid configuration passes the check unchanged. -/
lemma Config.IsValid.checked_eq {c : Config} (h : c.IsValid) : c.checked = .ok c := by
  rcases c.checked_cases with ⟨hzero, -⟩ | ⟨⟨-, hneg⟩, -⟩ | ⟨-, hchecked⟩
  · exact absurd h.1 (by omega)
  · exact absurd h.2 (by omega)
  · exact hchecked

/-- From a file that holds a configuration, loading ends as the check does. -/
lemma Stored.Holds.loadConfig_eq {c : Config} (h : Holds content c) :
    Config.load path content = c.checked := by
  rw [Config.load_eq, h.load_eq]
  rfl

/-- A board is loaded as a record, without a check. -/
lemma Board.load_eq : Board.load path content = Stored.load Board path content :=
  rfl

/-! ## Sources -/

namespace BoardSource

variable {s : BoardSource} {read : String → Option ByteArray} {c : Config} {b : Board}

/-- The configuration that a source asks for: a valid one in a file, or the default one. -/
inductive Configures (s : BoardSource) (read : String → Option ByteArray) : Config → Prop
  | default : s.config = none → Configures s read {}
  | file {path : String} {c : Config} :
    s.config = some path → Holds (read path) c → c.IsValid → Configures s read c

/-- The first thing that is wrong with the files of a source. -/
inductive Fails (s : BoardSource) (read : String → Option ByteArray) : Error → Prop
  | configUnreadable {path : String} :
    s.config = some path → Unreadable (read path) → Fails s read (.file path)
  | configMalformed {path : String} :
    s.config = some path → Malformed Config (read path) → Fails s read .malformed
  | zeroBlockTime {path : String} {c : Config} :
    s.config = some path → Holds (read path) c → c.averageBlockSeconds.toNat = 0 →
    Fails s read (.invalidConfig .zeroBlockTime)
  | negativeGrace {path : String} {c : Config} :
    s.config = some path → Holds (read path) c → 1 ≤ c.averageBlockSeconds.toNat →
    c.expiryGraceDays.toInt < 0 → Fails s read (.invalidConfig .negativeGrace)
  | boardUnreadable {c : Config} :
    s.Configures read c → Unreadable (read s.input) → Fails s read (.file s.input)
  | boardMalformed {c : Config} :
    s.Configures read c → Malformed Board (read s.input) → Fails s read .malformed

/-- Nothing is wrong with the files of a source. -/
structure Finds (s : BoardSource) (read : String → Option ByteArray) (c : Config) (b : Board) :
    Prop where
  config : s.Configures read c
  board : Holds (read s.input) b

/-- A board with the instant that a source gives, if it gives one. -/
def dated (s : BoardSource) (b : Board) : Board :=
  { b with now := s.now <|> b.now }

/-- A source that names a file has its configuration loaded from there. -/
lemma loadConfig_of_file (h : s.config = some path) :
    s.loadConfig read = Config.load path (read path) := by
  unfold loadConfig
  rw [h]

/-- The configuration that a source asks for is loaded. -/
lemma Configures.loadConfig_eq (h : s.Configures read c) : s.loadConfig read = .ok c := by
  cases h with
  | default hnone =>
    unfold loadConfig
    rw [hnone]
  | file hpath hholds hvalid =>
    rw [loadConfig_of_file hpath, hholds.loadConfig_eq, hvalid.checked_eq]

/-- An error in loading the configuration comes before any in loading the board. -/
lemma load_of_loadConfig (h : s.loadConfig read = .error e) : s.load read = .error e := by
  unfold load
  rw [h]
  rfl

/-- Once the configuration is loaded, loading ends as that of the board does. -/
lemma Configures.load_eq (h : s.Configures read c) :
    s.load read = (Stored.load Board s.input (read s.input)).map (c, s.dated ·) := by
  unfold load
  rw [h.loadConfig_eq, Board.load_eq]
  rfl

/-- What is wrong first is the error that loading ends with. -/
lemma Fails.load_eq (h : s.Fails read e) : s.load read = .error e := by
  cases h with
  | configUnreadable hpath hcontent =>
    apply load_of_loadConfig
    rw [loadConfig_of_file hpath, Config.load_eq, hcontent.load_eq]
    rfl
  | configMalformed hpath hcontent =>
    apply load_of_loadConfig
    rw [loadConfig_of_file hpath, Config.load_eq, hcontent.load_eq]
    rfl
  | zeroBlockTime hpath hholds hzero =>
    apply load_of_loadConfig
    rw [loadConfig_of_file hpath, hholds.loadConfig_eq, Config.checked_of_zeroBlockTime hzero]
  | negativeGrace hpath hholds hpos hneg =>
    apply load_of_loadConfig
    rw [loadConfig_of_file hpath, hholds.loadConfig_eq, Config.checked_of_negativeGrace hpos hneg]
  | boardUnreadable hconfig hcontent =>
    rw [hconfig.load_eq, hcontent.load_eq]
    rfl
  | boardMalformed hconfig hcontent =>
    rw [hconfig.load_eq, hcontent.load_eq]
    rfl

/-- Where nothing is wrong, the configuration and the board are loaded. -/
lemma Finds.load_eq (h : s.Finds read c b) : s.load read = .ok (c, s.dated b) := by
  rw [h.config.load_eq, h.board.load_eq]
  rfl

/-- Once the configuration is loaded, something is wrong with the board, or nothing is. -/
lemma Configures.fails_or_finds (h : s.Configures read c) :
    (∃ e, s.Fails read e) ∨ ∃ c b, s.Finds read c b := by
  rcases Stored.unreadable_or_malformed_or_holds Board (read s.input) with
    hcontent | hcontent | ⟨b, hcontent⟩
  · exact .inl ⟨_, .boardUnreadable h hcontent⟩
  · exact .inl ⟨_, .boardMalformed h hcontent⟩
  · exact .inr ⟨c, b, h, hcontent⟩

/-- Something is wrong with the files of a source, or nothing is. -/
lemma fails_or_finds (s : BoardSource) (read : String → Option ByteArray) :
    (∃ e, s.Fails read e) ∨ ∃ c b, s.Finds read c b := by
  cases hpath : s.config with
  | none => exact (Configures.default hpath).fails_or_finds
  | some path =>
    rcases Stored.unreadable_or_malformed_or_holds Config (read path) with
      hcontent | hcontent | ⟨c, hcontent⟩
    · exact .inl ⟨_, .configUnreadable hpath hcontent⟩
    · exact .inl ⟨_, .configMalformed hpath hcontent⟩
    · rcases c.checked_cases with ⟨hzero, -⟩ | ⟨⟨hpos, hneg⟩, -⟩ | ⟨hvalid, -⟩
      · exact .inl ⟨_, .zeroBlockTime hpath hcontent hzero⟩
      · exact .inl ⟨_, .negativeGrace hpath hcontent hpos hneg⟩
      · exact (Configures.file hpath hcontent hvalid).fails_or_finds

end BoardSource

/-! ## Commands -/

/-- There is no row for an id exactly if no proposal has it. -/
lemma Board.row_eq_error_iff {board : Board} {id : UInt64} {config : Config}
    {phrasing : TimePhrasing} {present : Instant} :
    board.row id config phrasing present = .error e ↔
      (∀ p ∈ board.proposals, p.id ≠ id) ∧ e = .proposalNotFound id := by
  unfold row
  cases hfirst : board.proposals.find? (·.id = id) with
  | none =>
    have hmissing : ∀ p ∈ board.proposals, p.id ≠ id := fun p hp =>
      mt decide_eq_true (List.find?_eq_none.mp hfirst p hp)
    exact ⟨fun h => ⟨hmissing, (Except.error.inj h).symm⟩, fun h => congrArg Except.error h.2.symm⟩
  | some p =>
    have hid := List.find?_some hfirst
    rw [decide_eq_true_eq] at hid
    exact ⟨nofun, fun h => absurd hid (h.1 p (List.mem_of_find?_eq_some hfirst))⟩

namespace Session

variable {disk : Disk} {present present' : Instant} {command : Command} {session : Session}
  {s : BoardSource} {c : Config} {b : Board} {id : UInt64}

/-- The line that is printed for a record. -/
def line (a : α) : String :=
  (encode a).pretty ++ "\n"

/-- The rules for what a command comes to on a disk. -/
inductive Outcome (disk : Disk) (present : Instant) : Command → Session → Prop
  | boardFails {s : BoardSource} {e : Error} :
    s.Fails disk.read? e → Outcome disk present (.board s) ⟨.failure e, "", disk⟩
  | boardPrints {s : BoardSource} {c : Config} {b : Board} :
    s.Finds disk.read? c b →
    Outcome disk present (.board s)
      ⟨.success, line ((s.dated b).rows c humanized present), disk⟩
  | statusFails {s : BoardSource} {id : UInt64} {e : Error} :
    s.Fails disk.read? e → Outcome disk present (.status s id) ⟨.failure e, "", disk⟩
  | statusMisses {s : BoardSource} {id : UInt64} {c : Config} {b : Board} :
    s.Finds disk.read? c b → (∀ p ∈ b.proposals, p.id ≠ id) →
    Outcome disk present (.status s id) ⟨.failure (.proposalNotFound id), "", disk⟩
  | statusPrints {s : BoardSource} {id : UInt64} {c : Config} {b : Board} {r : Row} :
    s.Finds disk.read? c b → (s.dated b).row id c humanized present = .ok r →
    Outcome disk present (.status s id) ⟨.success, line r, disk⟩
  | configRefused {out : String} :
    disk.write? out (Config.toText {}) = none →
    Outcome disk present (.initConfig out) ⟨.failure (.file out), "", disk⟩
  | configWritten {out printed : String} {after : Disk} :
    disk.write? out (Config.toText {}) = some (printed, after) →
    Outcome disk present (.initConfig out) ⟨.success, printed, after⟩

/-- There is no row for an id that no proposal has. -/
lemma row_dated_of_missing (h : ∀ p ∈ b.proposals, p.id ≠ id) :
    (s.dated b).row id c humanized present = .error (.proposalNotFound id) :=
  Board.row_eq_error_iff.mpr ⟨h, rfl⟩

/-- The rules tell what the carrying out of a command does. -/
lemma Outcome.execute_eq (h : Outcome disk present command session) :
    execute disk present command = session := by
  unfold execute
  cases h with
  | boardFails hfails =>
    rw [Command.effect, hfails.load_eq]
    rfl
  | boardPrints hfinds =>
    rw [Command.effect, hfinds.load_eq]
    rfl
  | statusFails hfails =>
    rw [Command.effect, hfails.load_eq]
    rfl
  | statusMisses hfinds hmissing =>
    rw [Command.effect, hfinds.load_eq]
    simp only [bind, Except.bind, row_dated_of_missing hmissing]
  | statusPrints hfinds hrow =>
    rw [Command.effect, hfinds.load_eq]
    simp only [bind, Except.bind, hrow]
    rfl
  | configRefused hwrite =>
    simp only [Command.effect, hwrite]
  | configWritten hwrite =>
    simp only [Command.effect, hwrite]

/-- There is a rule for every command. -/
lemma exists_outcome (disk : Disk) (present : Instant) (command : Command) :
    ∃ session, Outcome disk present command session := by
  cases command with
  | board s =>
    rcases s.fails_or_finds disk.read? with ⟨e, hfails⟩ | ⟨c, b, hfinds⟩
    · exact ⟨_, .boardFails hfails⟩
    · exact ⟨_, .boardPrints hfinds⟩
  | status s id =>
    rcases s.fails_or_finds disk.read? with ⟨e, hfails⟩ | ⟨c, b, hfinds⟩
    · exact ⟨_, .statusFails hfails⟩
    · cases hrow : (s.dated b).row id c humanized present with
      | ok r => exact ⟨_, .statusPrints hfinds hrow⟩
      | error e => exact ⟨_, .statusMisses hfinds (Board.row_eq_error_iff.mp hrow).1⟩
  | initConfig out =>
    cases hwrite : disk.write? out (Config.toText {}) with
    | none => exact ⟨_, .configRefused hwrite⟩
    | some written => exact ⟨_, .configWritten hwrite⟩

/-- The carrying out of a command follows the rules, which leave no choice. -/
lemma execute_eq_iff :
    execute disk present command = session ↔ Outcome disk present command session := by
  constructor
  · rintro rfl
    obtain ⟨session, h⟩ := exists_outcome disk present command
    rwa [h.execute_eq]
  · exact Outcome.execute_eq

/-! ## Traces -/

/-- A command that fails prints nothing and leaves the disk as it was. -/
lemma Outcome.traceless (h : Outcome disk present command session)
    (hend : session.ending ≠ .success) : session.printed = "" ∧ session.disk = disk := by
  cases h with
  | boardFails | statusFails | statusMisses | configRefused => exact ⟨rfl, rfl⟩
  | boardPrints | statusPrints | configWritten => exact absurd rfl hend

/-- The command for the board leaves the disk as it was. -/
lemma Outcome.disk_board (h : Outcome disk present (.board s) session) : session.disk = disk := by
  cases h <;> rfl

/-- The command for one proposal leaves the disk as it was. -/
lemma Outcome.disk_status (h : Outcome disk present (.status s id) session) :
    session.disk = disk := by
  cases h <;> rfl

/-- The default configuration is written to one file, and no other changes. -/
lemma Outcome.read?_initConfig {out path : String}
    (h : Outcome disk present (.initConfig out) session)
    (hpath : disk.locate? path ≠ disk.locate? out) :
    session.disk.read? path = disk.read? path := by
  cases h with
  | configRefused => rfl
  | configWritten hwrite => exact Disk.read?_of_write? hwrite hpath

/-- The default configuration is found where it was written, but for devices. -/
lemma Outcome.load_initConfig {out : String} (h : Outcome disk present (.initConfig out) session)
    (hend : session.ending = .success) (hdevice : ¬disk.IsDevice out) :
    Config.load out (session.disk.read? out) = .ok {} := by
  have hvalid : Config.IsValid {} := ⟨by decide, by decide⟩
  cases h with
  | configRefused => cases hend
  | configWritten hwrite =>
    show Config.load out (Disk.read? _ out) = _
    rw [Disk.read?_of_write?_self hwrite hdevice, Config.load_toText, hvalid.checked_eq]

/-- If the command for the board fails, it does so for what is wrong with its files. -/
lemma Outcome.fails_board (h : Outcome disk present (.board s) session)
    (hend : session.ending = .failure e) : s.Fails disk.read? e := by
  cases h with
  | boardFails hfails =>
    cases hend
    exact hfails
  | boardPrints => cases hend

/-- If the command for one proposal fails, it does so for what is wrong with its files, or because
no proposal has the id. -/
lemma Outcome.fails_status (h : Outcome disk present (.status s id) session)
    (hend : session.ending = .failure e) :
    s.Fails disk.read? e ∨ ∃ c b, s.Finds disk.read? c b ∧ (∀ p ∈ b.proposals, p.id ≠ id) ∧
      e = .proposalNotFound id := by
  cases h with
  | statusFails hfails =>
    cases hend
    exact .inl hfails
  | statusMisses hfinds hmissing =>
    cases hend
    exact .inr ⟨_, _, hfinds, hmissing, rfl⟩
  | statusPrints => cases hend

/-- The command for the board fails with an error exactly if that is the first thing wrong with its
files. -/
lemma board_failure_iff :
    (execute disk present (.board s)).ending = .failure e ↔ s.Fails disk.read? e := by
  constructor
  · exact (execute_eq_iff.mp rfl).fails_board
  · intro h
    rw [execute_eq_iff.mpr (.boardFails h)]

/-- The command for one proposal fails with an error exactly if that is the first thing wrong with
its files, or if nothing is and no proposal has the id. -/
lemma status_failure_iff :
    (execute disk present (.status s id)).ending = .failure e ↔
      s.Fails disk.read? e ∨ ∃ c b, s.Finds disk.read? c b ∧ (∀ p ∈ b.proposals, p.id ≠ id) ∧
        e = .proposalNotFound id := by
  constructor
  · exact (execute_eq_iff.mp rfl).fails_status
  · rintro (h | ⟨c, b, hfinds, hmissing, rfl⟩)
    · rw [execute_eq_iff.mpr (.statusFails h)]
    · rw [execute_eq_iff.mpr (.statusMisses hfinds hmissing)]

/-! ## Entries -/

/-- The id of an entry of what is printed for a board. -/
def entryId? (entry : Json) : Option UInt64 := do
  let members ← entry.members?
  let id ← members.lookup "id"
  decode? id

/-- The entry of a row has the id of the row. -/
lemma entryId?_encode (r : Row) : entryId? (encode r) = some r.id :=
  decode?_encode_word r.id

/-- What is printed for an entry, or the error where there is none. -/
def ofEntry (disk : Disk) (id : UInt64) : Option Json → Session
  | some entry => ⟨.success, entry.pretty ++ "\n", disk⟩
  | none => ⟨.failure (.proposalNotFound id), "", disk⟩

/-- At a known time, one proposal is looked up among the entries of the whole board. -/
lemma execute_status_eq (hfinds : s.Finds disk.read? c b) (hnow : (s.dated b).now.isSome = true) :
    execute disk present' (.status s id) =
      ofEntry disk id ((((s.dated b).rows c humanized present).map encode).find?
        (entryId? · = some id)) := by
  have hentry : (fun entry => decide (entryId? entry = some id)) ∘ encode =
      fun r : Row => decide (r.id = id) := by
    funext r
    rw [Function.comp_apply, entryId?_encode]
    simp only [Option.some_inj]
  have hrow := Board.row_eq_find?_rows id c humanized present present' hnow
  rw [List.find?_map, hentry]
  cases hfirst : ((s.dated b).rows c humanized present).find? (·.id = id) with
  | none =>
    rw [hfirst] at hrow
    exact execute_eq_iff.mpr (.statusMisses hfinds (Board.row_eq_error_iff.mp hrow).1)
  | some r =>
    rw [hfirst] at hrow
    exact execute_eq_iff.mpr (.statusPrints hfinds hrow)

/-- Commands on a disk do what they are asked for and nothing else. -/
structure Faithful (disk : Disk) (present : Instant) : Prop where
  outcome_iff : ∀ command session,
    execute disk present command = session ↔ Outcome disk present command session
  traceless : ∀ command, (execute disk present command).ending ≠ .success →
    (execute disk present command).printed = "" ∧ (execute disk present command).disk = disk
  disk_board : ∀ s, (execute disk present (.board s)).disk = disk
  disk_status : ∀ s id, (execute disk present (.status s id)).disk = disk
  /-- No file changes but the one at the place that the configuration is written to. -/
  read?_initConfig : ∀ out path, disk.locate? path ≠ disk.locate? out →
    (execute disk present (.initConfig out)).disk.read? path = disk.read? path
  /-- What is written is the default configuration, and is loaded as that. -/
  load_initConfig : ∀ out, (execute disk present (.initConfig out)).ending = .success →
    ¬disk.IsDevice out →
    Config.load out ((execute disk present (.initConfig out)).disk.read? out) = .ok {}
  board_failure_iff : ∀ s e,
    (execute disk present (.board s)).ending = .failure e ↔ s.Fails disk.read? e
  status_failure_iff : ∀ s id e,
    (execute disk present (.status s id)).ending = .failure e ↔
      s.Fails disk.read? e ∨ ∃ c b, s.Finds disk.read? c b ∧ (∀ p ∈ b.proposals, p.id ≠ id) ∧
        e = .proposalNotFound id
  /-- Where the time is known, what is printed for a board has an entry for each of its rows, and
  one proposal is shown, now or later, by the first entry with its id. -/
  entries : ∀ s c b, s.Finds disk.read? c b → (s.dated b).now.isSome = true →
    ∃ entries : List Json,
      (execute disk present (.board s)).printed = (Json.arr entries).pretty ++ "\n" ∧
      ∀ id present', execute disk present' (.status s id) =
        ofEntry disk id (entries.find? (entryId? · = some id))

/-- On every disk and at every instant, a command that fails leaves no trace, and the others leave
what they are asked for. -/
theorem faithful (disk : Disk) (present : Instant) : Faithful disk present where
  outcome_iff _ _ := execute_eq_iff
  traceless _ hend := (execute_eq_iff.mp rfl).traceless hend
  disk_board _ := (execute_eq_iff.mp rfl).disk_board
  disk_status _ _ := (execute_eq_iff.mp rfl).disk_status
  read?_initConfig _ _ hpath := (execute_eq_iff.mp rfl).read?_initConfig hpath
  load_initConfig _ hend hdevice := (execute_eq_iff.mp rfl).load_initConfig hend hdevice
  board_failure_iff _ _ := board_failure_iff
  status_failure_iff _ _ _ := status_failure_iff
  entries s c b hfinds hnow := by
    refine ⟨((s.dated b).rows c humanized present).map encode, ?_, fun id present' => ?_⟩
    · rw [execute_eq_iff.mpr (.boardPrints hfinds)]
      rfl
    · exact execute_status_eq hfinds hnow

/-- A board of one proposal, with only its block and the id of the proposal written. -/
def oneProposalTree : Json :=
  .arr [.int 7, .null, .arr [.arr [.int 3]]]

/-- A disk with the board. -/
def oneProposal : Disk :=
  ⟨[], [(["board.json"], oneProposalTree.pretty.toUTF8)], []⟩

/-- The board on the disk, as of the start of 1970. -/
def oneProposalSource : BoardSource :=
  ⟨"board.json", none, some .epoch⟩

/-- The one proposal is shown, and no other is found. -/
theorem faithful_oneProposal :
    ∃ b : Board, oneProposalSource.Finds oneProposal.read? {} b ∧
      (oneProposalSource.dated b).now.isSome = true ∧
      (execute oneProposal .epoch (.status oneProposalSource 3)).ending = .success ∧
      (execute oneProposal .epoch (.status oneProposalSource 9)).ending =
        .failure (.proposalNotFound 9) ∧
      (execute oneProposal .epoch (.status oneProposalSource 9)).printed = "" := by
  have hfaithful := faithful oneProposal .epoch
  have hids : ((decode? oneProposalTree : Option Board).map fun b => b.proposals.map (·.id)) =
      some [3] := by
    simp only [decode?]
    rfl
  obtain ⟨b, hboard, hids⟩ := Option.map_eq_some_iff.mp hids
  have hlossless : Json.Lossless oneProposalTree := by
    have hid : Json.Lossless (.arr [.int 3]) :=
      .arr (List.forall_mem_cons.mpr ⟨.int (by decide), List.forall_mem_nil _⟩)
    have hproposals : Json.Lossless (.arr [.arr [.int 3]]) :=
      .arr (List.forall_mem_cons.mpr ⟨hid, List.forall_mem_nil _⟩)
    exact .arr (List.forall_mem_cons.mpr ⟨.int (by decide), List.forall_mem_cons.mpr
      ⟨.null, List.forall_mem_cons.mpr ⟨hproposals, List.forall_mem_nil _⟩⟩⟩)
  have hfinds : oneProposalSource.Finds oneProposal.read? {} b :=
    ⟨.default rfl, oneProposalTree.pretty, rfl, _, hlossless.parse?_pretty, hboard⟩
  have honly : ∀ p ∈ b.proposals, p.id = 3 := fun p hp =>
    List.mem_singleton.mp (hids ▸ List.mem_map_of_mem hp)
  obtain ⟨p, hp, hpid⟩ : ∃ p ∈ b.proposals, p.id = 3 :=
    List.mem_map.mp (hids ▸ List.mem_singleton_self 3)
  have hmissing : (execute oneProposal .epoch (.status oneProposalSource 9)).ending =
      .failure (.proposalNotFound 9) :=
    (hfaithful.status_failure_iff _ _ _).mpr
      (.inr ⟨{}, b, hfinds, fun p hp => by rw [honly p hp]; decide, rfl⟩)
  refine ⟨b, hfinds, rfl, ?_, hmissing, (hfaithful.traceless _ ?_).1⟩
  · cases hrow : (oneProposalSource.dated b).row 3 {} humanized .epoch with
    | ok r => rw [(hfaithful.outcome_iff _ _).mpr (.statusPrints hfinds hrow)]
    | error e => exact absurd hpid ((Board.row_eq_error_iff.mp hrow).1 p hp)
  · rw [hmissing]
    nofun

/-- Where both files are missing, the configuration is missed first. -/
example : (execute ⟨[], [], []⟩ .epoch
    (.board ⟨"board.json", some "metagov.json", none⟩)).ending =
      .failure (.file "metagov.json") := by
  decide

end Session

end ProposalBoard
