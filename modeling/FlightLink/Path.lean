/-! Paths of a host, and why one cannot be used. A path is followed name by name, from
the root or from the working directory, so of several obstacles the first one on the way
counts. What the names lead to is the host's own affair. -/

namespace FlightLink

/-- Why a path cannot be used. -/
inductive PathFault
  | missing
  | denied
  /-- A name was looked up in something that has no names. -/
  | notDirectory
  | directory
  /-- The path contains the character that ends paths, or its end does not know what
  it is asked. -/
  | invalid
  | notTerminal
  | nameTooLong
  | other (text : String)
  deriving DecidableEq, Repr

namespace PathFault

def text : PathFault → String
  | missing => "No such file or directory"
  | denied => "Permission denied"
  | notDirectory => "Not a directory"
  | directory => "Is a directory"
  | invalid => "Invalid argument"
  | notTerminal => "Not a typewriter"
  | nameTooLong => "File name too long"
  | other text => text

/-- The number that the host's system gives to the cause. -/
def number? : PathFault → Option Nat
  | missing => some 2
  | denied => some 13
  | notDirectory => some 20
  | directory => some 21
  | invalid => some 22
  | notTerminal => some 25
  | nameTooLong => some 36
  | other _ => none

/-- The cause with its number, if it has one. -/
def message (fault : PathFault) : String :=
  match fault.number? with
  | some number => s!"{fault.text} (os error {number})"
  | none => fault.text

end PathFault

namespace Path

/-- What a path leads to. -/
inductive Place
  | directory
  /-- A device that is no terminal, with what it says to one who takes it for a terminal.
  There is nothing to read from it. -/
  | device (refusal : PathFault)
  | file (content : String)
  deriving DecidableEq, Repr

/-- The names that lead from the root to a place, the last one first. -/
abbrev Position := List String

/-- Bytes in the longest name of a directory's entry. -/
def nameLimit : Nat := 255

/-- Bytes in a path that is just too long. -/
def pathLimit : Nat := 4096

end Path

/-- What there is on a host, apart from its root. -/
structure Host where
  place? : Path.Position → Option Path.Place
  workingDirectory : Path.Position

namespace Host

/-- A host on which nothing but the root is known. -/
def bare : Host := ⟨fun _ => none, []⟩

/-- Goes on from a place. Empty names and single dots stay, double dots go up. -/
def follow (host : Host) : Path.Position → Path.Place → List String → Except PathFault Path.Place
  | _, place, [] => .ok place
  | position, .directory, name :: rest =>
    if name = "" ∨ name = "." then host.follow position .directory rest
    else if name = ".." then host.follow position.tail .directory rest
    else if Path.nameLimit < name.utf8ByteSize then .error .nameTooLong
    else
      match host.place? (name :: position) with
      | some place => host.follow (name :: position) place rest
      | none => .error .missing
  | _, _, _ :: _ => .error .notDirectory

/-- What a path leads to, or the first obstacle on the way. -/
def resolve (host : Host) (path : String) : Except PathFault Path.Place :=
  if '\x00' ∈ path.toList then .error .invalid
  else if path = "" then .error .missing
  else if Path.pathLimit ≤ path.utf8ByteSize then .error .nameTooLong
  else
    host.follow (if path.startsWith "/" then [] else host.workingDirectory) .directory
      (path.splitOn "/")

/-- Why no terminal can be opened at a path, if there is none. -/
def obstacle (host : Host) (path : String) : PathFault :=
  match host.resolve path with
  | .error fault => fault
  | .ok .directory => .directory
  | .ok (.device refusal) => refusal
  | .ok (.file _) => .notTerminal

/-- What can be read at a path. -/
def content (host : Host) (path : String) : Except PathFault ByteArray :=
  match host.resolve path with
  | .error fault => .error fault
  | .ok .directory => .error .directory
  | .ok (.device _) => .ok .empty
  | .ok (.file content) => .ok content.toUTF8

end Host
end FlightLink
