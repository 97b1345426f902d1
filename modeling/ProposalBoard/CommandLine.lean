import ProposalBoard.Text.Numeral
import ProposalBoard.Time.Timestamp

/-!
# Command line

The commands and their options as they come out of the words of a command line.
-/

namespace ProposalBoard

/-- Where a command finds a board. -/
structure BoardSource where
  /-- The file of the board. -/
  input : String
  /-- The file of the configuration, the default one if there is none. -/
  config : Option String
  /-- The instant of the current block, in place of the one in the board. -/
  now : Option Instant
deriving DecidableEq

/-- A command. -/
inductive Command where
  /-- Print the rows of a board. -/
  | board (source : BoardSource)
  /-- Print the row of one proposal. -/
  | status (source : BoardSource) (id : UInt64)
  /-- Write the default configuration to a file. -/
  | initConfig (out : String)
deriving DecidableEq

/-- A whole command line. -/
structure CommandLine where
  /-- The file that the log is added to. -/
  logFile : Option String
  command : Command
deriving DecidableEq

/-- Why words are no command line, or a request for help. -/
inductive UsageError where
  | helpRequested
  /-- There are no words, or none that count. -/
  | nothingGiven
  | missingCommand
  | unknownCommand
  | unknownArgument
  | missingArgument
  | repeatedOption
  /-- An option without a value, or with the empty path. -/
  | missingValue
  /-- A value that is no instant or no id. -/
  | invalidValue
  /-- A value for an option that takes none. -/
  | surplusValue
deriving DecidableEq, Repr

namespace CommandLine

/-- The options that take a value. -/
inductive Opt where
  | logFile
  | input
  | config
  | now
  | id
  | out
deriving DecidableEq, Repr

/-- The names of the commands. -/
inductive CommandName where
  | board
  | status
  | initConfig
deriving DecidableEq, Repr

/-- The command with a name. -/
def CommandName.ofName? : String → Option CommandName
  | "board" => some board
  | "status" => some status
  | "init-config" => some initConfig
  | _ => none

/-- Whether an option may stand behind a command, or before any. -/
def Opt.allowed : Option CommandName → Opt → Bool
  | _, logFile => true
  | some .board, input | some .board, config | some .board, now => true
  | some .status, input | some .status, config | some .status, now | some .status, id => true
  | some .initConfig, out => true
  | _, _ => false

/-- The option with a long name. -/
def Opt.ofLong? : String → Option Opt
  | "log-file" => some logFile
  | "input" => some input
  | "config" => some config
  | "now" => some now
  | "id" => some id
  | "out" => some out
  | _ => none

/-- The option with a short name. -/
def Opt.ofShort? : Char → Option Opt
  | 'i' => some input
  | 'c' => some config
  | 'o' => some out
  | _ => none

/-- The values of the options found so far. -/
structure Values where
  logFile : Option String := none
  input : Option String := none
  config : Option String := none
  now : Option Instant := none
  id : Option UInt64 := none
  out : Option String := none

namespace Values

/-- Whether an option has a value. -/
def has (v : Values) : Opt → Bool
  | .logFile => v.logFile.isSome
  | .input => v.input.isSome
  | .config => v.config.isSome
  | .now => v.now.isSome
  | .id => v.id.isSome
  | .out => v.out.isSome

/-- A path, which must not be empty. -/
def path (raw : String) : Except UsageError String :=
  if raw = "" then .error .missingValue else .ok raw

/-- Gives an option its value. -/
def give (v : Values) (opt : Opt) (raw : String) : Except UsageError Values :=
  if v.has opt then .error .repeatedOption
  else match opt with
    | .logFile => return { v with logFile := ← path raw }
    | .input => return { v with input := ← path raw }
    | .config => return { v with config := ← path raw }
    | .out => return { v with out := ← path raw }
    | .now =>
      match Instant.ofText? raw with
      | some t => .ok { v with now := t }
      | none => .error .invalidValue
    | .id =>
      match Text.readWord? raw.toList with
      | some n => .ok { v with id := n }
      | none => .error .invalidValue

end Values

/-- What has been made of the words so far. -/
structure Progress where
  values : Values := {}
  /-- The latest option that stands apart from its value. It counts, and its value is looked at,
  only when another option follows or the words end. -/
  pending : Option (Opt × Option String) := none
  /-- Whether a double dash has ended the options. -/
  optionsEnded : Bool := false

namespace Progress

/-- Whether the next word is the value of an option, whatever it is. -/
def awaitsValue (p : Progress) : Bool :=
  match p.pending with
  | some (_, none) => true
  | _ => false

/-- Gives the pending option its value. -/
def settle (p : Progress) : Except UsageError Progress :=
  match p.pending with
  | none => .ok p
  | some (_, none) => .error .missingValue
  | some (opt, some raw) => return { p with values := ← p.values.give opt raw, pending := none }

/-- Takes up an option, with its value if that is part of the same word. -/
def take (p : Progress) (opt : Opt) (attached : Option String) : Except UsageError Progress := do
  let p ← p.settle
  match attached with
  | some raw => return { p with values := ← p.values.give opt raw }
  | none => return { p with pending := some (opt, none) }

/-- Asks for help, which is given if the pending option is in order. -/
def help (p : Progress) : Except UsageError Progress := do
  let _ ← p.settle
  .error .helpRequested

/-- Takes up a word that begins with two dashes, less these. An equals sign ends the name. -/
def takeLong (p : Progress) (command : Option CommandName) (word : List Char) :
    Except UsageError Progress :=
  let name := String.ofList (word.takeWhile (· ≠ '='))
  let attached := match word.dropWhile (· ≠ '=') with
    | _ :: value => some (String.ofList value)
    | [] => none
  if name = "help" then
    if attached.isSome then .error .surplusValue else p.help
  else match Opt.ofLong? name with
    | some opt => if opt.allowed command then p.take opt attached else .error .unknownArgument
    | none => .error .unknownArgument

/-- Takes up a word that begins with one dash, less this. What stands behind the letter is the
value, an equals sign between them being skipped. -/
def takeShort (p : Progress) (command : Option CommandName) (letter : Char) (rest : List Char) :
    Except UsageError Progress :=
  let attached := match rest with
    | [] => none
    | '=' :: value => some (String.ofList value)
    | value => some (String.ofList value)
  if letter = 'h' then p.help
  else match Opt.ofShort? letter with
    | some opt => if opt.allowed command then p.take opt attached else .error .unknownArgument
    | none => .error .unknownArgument

/-- Takes up a word that is not the name of a command. The error is for a word that is neither an
option nor the value of one. -/
def takeWord (p : Progress) (command : Option CommandName) (stray : UsageError) (word : String) :
    Except UsageError Progress :=
  if p.optionsEnded then .error stray
  else match word.toList with
    | ['-', '-'] => .ok { p with optionsEnded := true }
    | '-' :: '-' :: rest => p.takeLong command rest
    | '-' :: letter :: rest => p.takeShort command letter rest
    | _ =>
      match p.pending with
      | some (opt, none) => .ok { p with pending := some (opt, some word) }
      | _ => .error stray

end Progress

/-- The values of the options behind a command. -/
def readOptions (command : CommandName) (p : Progress) : List String → Except UsageError Values
  | [] => return (← p.settle).values
  | word :: rest => do
    let p ← p.takeWord (some command) .unknownArgument word
    readOptions command p rest

/-- A value that has to be there. -/
def need {α : Type} : Option α → Except UsageError α
  | some a => .ok a
  | none => .error .missingArgument

/-- The source of a board by the values of the options. -/
def sourceOf (v : Values) : Except UsageError BoardSource :=
  return { input := ← need v.input, config := v.config, now := v.now }

/-- The command with the given values of its options. -/
def commandOf (v : Values) : CommandName → Except UsageError Command
  | .board => return .board (← sourceOf v)
  | .status => return .status (← sourceOf v) (← need v.id)
  | .initConfig => .ok (.initConfig (v.out.getD "metagov.json"))

/-- What the command for help does with the words behind it: they name a command at most. -/
def helpOn : List String → UsageError
  | [] => .helpRequested
  | [name] =>
    if name = "help" ∨ (CommandName.ofName? name).isSome then .helpRequested else .unknownCommand
  | _ => .unknownCommand

/-- The command line of the words behind the name of a command. The options before the command
are in order only if the pending one is, which is looked at last. The log file that stands behind
the command counts before the other. -/
def readCommand (command : CommandName) (before : Progress) (words : List String) :
    Except UsageError CommandLine := do
  let values ← readOptions command {} words
  let command ← commandOf values command
  let before ← before.settle
  return { logFile := values.logFile <|> before.values.logFile, command }

/-- The command line of the words that follow some options. -/
def readWords (p : Progress) : List String → Except UsageError CommandLine
  | [] => do
    let p ← p.settle
    if p.values.logFile.isSome then .error .missingCommand else .error .nothingGiven
  | word :: rest =>
    let isHelp := word = "help"
    let name? := CommandName.ofName? word
    if p.optionsEnded then
      .error (if isHelp ∨ name?.isSome then .unknownArgument else .unknownCommand)
    else if p.awaitsValue then do
      let p ← p.takeWord none .unknownCommand word
      readWords p rest
    else if isHelp then .error (helpOn rest)
    else match name? with
      | some command => readCommand command p rest
      | none => do
        let p ← p.takeWord none .unknownCommand word
        readWords p rest

/-- The command line of the words behind the name of the program. -/
def ofWords (words : List String) : Except UsageError CommandLine :=
  readWords {} words

end CommandLine

end ProposalBoard
