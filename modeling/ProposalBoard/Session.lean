import ProposalBoard.CommandLine
import ProposalBoard.Disk
import ProposalBoard.Storage

/-!
# Session

What a command line does: the text that it prints, the error that it ends with, and the files that
it leaves. A command reads its files through a function from paths to contents and changes nothing
itself; it says what is to be printed or written.
-/

namespace ProposalBoard

/-- What a command comes to when nothing fails. -/
inductive Effect where
  /-- Print a text. -/
  | print (text : String)
  /-- Write a text to a file. -/
  | write (path text : String)
deriving DecidableEq

namespace BoardSource

/-- The configuration of a source. -/
def loadConfig (s : BoardSource) (read : String → Option ByteArray) : Except Error Config :=
  match s.config with
  | some path => Config.load path (read path)
  | none => .ok {}

/-- The configuration and the board of a source. The configuration is looked at first. -/
def load (s : BoardSource) (read : String → Option ByteArray) : Except Error (Config × Board) := do
  let config ← s.loadConfig read
  let board ← Board.load s.input (read s.input)
  return (config, { board with now := s.now <|> board.now })

end BoardSource

/-- A printed record: its text and the end of the line. -/
def printed {α : Type} [Codec α] (a : α) : Effect :=
  .print ((encode a).pretty ++ "\n")

/-- The files that a command reads. -/
def Command.inputs : Command → List String
  | .board source | .status source _ => source.config.toList ++ [source.input]
  | .initConfig _ => []

/-- What a command comes to, where `read` gives the contents of files and `present` is the present
instant. -/
def Command.effect (read : String → Option ByteArray) (present : Instant) :
    Command → Except Error Effect
  | .board source => do
    let (config, found) ← source.load read
    return printed (found.rows config humanized present)
  | .status source id => do
    let (config, found) ← source.load read
    return printed (← found.row id config humanized present)
  | .initConfig out => .ok (.write out (Config.toText {}))

/-- How a session ends. -/
inductive Ending where
  | success
  | failure (error : Error)
  | usage (error : UsageError)
  /-- The log file cannot be opened. Nothing else is tried. -/
  | noLog
deriving DecidableEq

/-- The exit code. A request for help is no failure. -/
def Ending.exitCode : Ending → UInt32
  | success => 0
  | failure _ => 1
  | usage .helpRequested => 0
  | usage _ => 2
  | noLog => 101

/-- What a session prints and leaves behind. -/
structure Session where
  ending : Ending
  printed : String
  disk : Disk

/-- A log file by its name and the path of its directory. -/
structure LogPlace where
  directory : String
  name : String
deriving DecidableEq

namespace LogPlace

/-- The names of a path up to the last one that leads on from where it stands. -/
def trim (names : List String) : List String :=
  (names.reverse.dropWhile fun name => name = "" ∨ name = ".").reverse

/-- The place of the log file that a path stands for. The directory is kept as it is written, up to
its end. Where the path ends in no name, the file has the usual one. -/
def ofPath (path : String) : LogPlace :=
  let names := trim (Disk.splitPath path)
  let directory := trim names.dropLast
  match names.getLast? with
  | none => { directory := ".", name := "metagov.log" }
  | some name =>
    { directory :=
        if directory ≠ [] then Disk.joinPath directory
        else if Disk.isAbsolute path then "/" else "."
      name := if name = ".." then "metagov.log" else name }

/-- The path of the log file. -/
def path (l : LogPlace) : String :=
  l.directory ++ "/" ++ l.name

/-- The disk with the log file opened. If that fails at first, all directories on the way to it are
made. -/
def openOn? (l : LogPlace) (disk : Disk) : Option Disk :=
  disk.openToAppend? l.path <|> (disk.makePath? l.directory).bind (·.openToAppend? l.path)

end LogPlace

namespace Session

/-- The disk with the log file opened, if one is asked for. -/
def openLog? (disk : Disk) : Option String → Option Disk
  | none => some disk
  | some path => (LogPlace.ofPath path).openOn? disk

/-- What a command does to a disk. -/
def execute (disk : Disk) (present : Instant) (command : Command) : Session :=
  match command.effect disk.read? present with
  | .error e => ⟨.failure e, "", disk⟩
  | .ok (.print text) => ⟨.success, text, disk⟩
  | .ok (.write path text) =>
    match disk.write? path text with
    | some (printed, disk) => ⟨.success, printed, disk⟩
    | none => ⟨.failure (.file path), "", disk⟩

/-- What the words of a command line do to a disk. The log file is opened first. -/
def run (disk : Disk) (present : Instant) (words : List String) : Session :=
  match CommandLine.ofWords words with
  | .error e => ⟨.usage e, "", disk⟩
  | .ok line =>
    match openLog? disk line.logFile with
    | some disk => execute disk present line.command
    | none => ⟨.noLog, "", disk⟩

end Session

end ProposalBoard
