import CiMessage.Disk.Fault
import CiMessage.Path
import CiMessage.SortedMap

/-!
# Disks

A disk is a map from locations to what is there: directories, files, symbolic links and two devices. A location is the
list of names from the root; the root itself is always a directory. `Disk.find` walks along a path and follows links on
the way, forty at most.
-/

namespace CiMessage

namespace Disk

/-- A name in a directory. -/
abbrev Name := List UInt8

/-- The names from the root to a place. -/
abbrev Location := List Name

/-- What can be at a location. -/
inductive Node where
  | directory
  | file (content : ByteArray)
  | link (target : Path)
  /-- Takes everything that is written and keeps nothing. -/
  | sink
  /-- Takes nothing: writing to it fails for want of space. -/
  | full

end Disk

/-- A disk, and the working directory from which relative paths start. -/
structure Disk where
  nodes : SortedMap Disk.Location Disk.Node
  cwd : Disk.Location

namespace Disk

/-- Every part of the way to a location, from the outermost one. -/
def ways : Location → List Location
  | [] => []
  | n :: rest => [n] :: (ways rest).map (n :: ·)

/-- The names of devices. -/
def deviceDirectory : Name := Utf8.encode "dev"

/-- A disk with a working directory and the two devices and nothing else. -/
def ofWorkingDirectory (cwd : Location) : Disk where
  nodes := SortedMap.ofList ((ways cwd).map (·, Node.directory) ++
    [([deviceDirectory], Node.directory), ([deviceDirectory, Utf8.encode "null"], Node.sink),
      ([deviceDirectory, Utf8.encode "full"], Node.full)])
  cwd := cwd

/-- What is at a location. -/
def node? (d : Disk) (place : Location) : Option Node := if place = [] then some .directory else d.nodes.get? place

/-- Puts a node at a location. -/
def put (d : Disk) (place : Location) (node : Node) : Disk := { d with nodes := d.nodes.insert place node }

/-- Everything below a location in the order of the names; locations are given from there. -/
def below (d : Disk) (top : Location) : List (Location × Node) :=
  d.nodes.entries.filterMap fun e =>
    if top.isPrefixOf e.1 && top.length < e.1.length then some (e.1.drop top.length, e.2) else none

/-! ## Walking along a path -/

/-- What is done with the last name of a path. -/
inductive Last where
  /-- A link there is followed. -/
  | followed
  /-- A link there is meant itself. -/
  | itself
  /-- A link there is followed; a file is made if there is none, so a slash must not come after the name. -/
  | created
  deriving DecidableEq

/-- Where a path leads. -/
inductive Spot where
  /-- To something that is there. -/
  | taken (place : Location) (node : Node)
  /-- To a name that is free in a directory. -/
  | free (dir : Location) (name : Name)

/-- The greatest length of a name in bytes. -/
def nameLimit : Nat := 255

/-- The greatest length of a path in bytes. -/
def pathLimit : Nat := 4095

/-- How many links are followed along a path. -/
def linkLimit : Nat := 40

/-- The names on a path; empty ones, between slashes, do not count. -/
def names (p : Path) : List Name := (Path.split p.bytes).filter (!·.isEmpty)

/-- Does the path start at the root? -/
def isAbsolute (p : Path) : Bool := p.bytes.head? == some Path.slash

/-- Must the path lead to a directory? -/
def endsInSlash (p : Path) : Bool := p.bytes.getLast? == some Path.slash

/-- Walks from a directory along names; `slash` says whether a slash comes after the last one. -/
def walk (d : Disk) (last : Last) (links : Nat) (dir : Location) (parts : List Name) (slash : Bool) :
    Except Fault Spot :=
  match parts with
  | [] => .ok (.taken dir .directory)
  | part :: rest =>
    if part = [Path.dot] then walk d last links dir rest slash
    else if part = [Path.dot, Path.dot] then walk d last links dir.dropLast rest slash
    else if last = .created ∧ rest = [] ∧ slash = true then .error .isDirectory
    else if part.length > nameLimit then .error .nameTooLong
    else
      match d.node? (dir ++ [part]) with
      | none => if rest = [] then .ok (.free dir part) else .error .noEntry
      | some .directory => walk d last links (dir ++ [part]) rest slash
      | some (.link target) =>
        if last = .itself ∧ rest = [] ∧ slash = false then .ok (.taken (dir ++ [part]) (.link target))
        else
          match links with
          | 0 => .error .tooManyLinks
          | links + 1 =>
            walk d last links (if isAbsolute target then [] else dir) (names target ++ rest)
              (slash || rest.isEmpty && endsInSlash target)
      | some node => if rest = [] ∧ slash = false then .ok (.taken (dir ++ [part]) node) else .error .notDirectory
  termination_by (links, parts.length)

/-- Where a path leads. -/
def find (d : Disk) (last : Last) (p : Path) : Except Fault Spot :=
  if p.bytes.contains 0 then .error .nulInPath
  else if p.isEmpty then .error .noEntry
  else if p.bytes.length > pathLimit then .error .nameTooLong
  else walk d last linkLimit (if isAbsolute p then [] else d.cwd) (names p) (last != .itself && endsInSlash p)

end Disk

end CiMessage
