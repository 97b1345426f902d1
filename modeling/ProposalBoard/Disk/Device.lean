/-!
# Devices

The files that are not kept on a disk. They stand at fixed places and differ in what is read from
them and in what becomes of what is written to them. Standard input is empty.
-/

namespace ProposalBoard

/-- A file that is not kept on a disk. -/
inductive Device where
  /-- Reads as empty and drops what is written. -/
  | null
  /-- Cannot be read to an end and drops what is written. -/
  | endless
  /-- Cannot be read to an end and has no room for what is written. -/
  | full
  /-- Cannot be read to an end and prints what is written. -/
  | output
deriving DecidableEq, Repr

namespace Device

/-- The device with a name in the directory of devices. -/
def named? : String → Option Device
  | "null" | "stdin" => some null
  | "zero" | "random" | "urandom" | "stderr" => some endless
  | "full" => some full
  | "stdout" => some output
  | _ => none

/-- The device with a number among the open files of a program. -/
def numbered? : String → Option Device
  | "0" => some null
  | "1" => some output
  | "2" => some endless
  | _ => none

/-- The directory of the open files of a program. -/
def openFiles : List String :=
  ["proc", "self", "fd"]

/-- The place that is meant by a place. The directory of devices has a link to the open files. -/
def followLink : List String → List String
  | ["dev", "fd"] => openFiles
  | place => place

/-- The device at a place. -/
def at? : List String → Option Device
  | ["dev", name] => named? name
  | ["proc", "self", "fd", number] => numbered? number
  | _ => none

/-- What is read from a device. -/
def content? : Device → Option ByteArray
  | null => some .empty
  | _ => none

/-- What is printed when a text is written to a device, if it has room. -/
def print? (device : Device) (text : String) : Option String :=
  match device with
  | output => some text
  | full => none
  | _ => some ""

end Device

end ProposalBoard
