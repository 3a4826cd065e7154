import CiMessage.Disk.Basic

/-!
# Operations on disks

Making directories, writing, reading, linking and removing. An operation that fails changes nothing, except that
`makeDirectories` keeps the directories it has made before it failed.
-/

namespace CiMessage.Disk

/-! ## Directories -/

/-- Does the path lead to a directory? -/
def isDirectory (d : Disk) (p : Path) : Bool :=
  match d.find .followed p with
  | .ok (.taken _ .directory) => true
  | _ => false

/-- Makes a directory in one that is there. -/
def makeDirectory (d : Disk) (p : Path) : Except Fault Disk :=
  match d.find .itself p with
  | .error f => .error f
  | .ok (.taken ..) => .error .alreadyThere
  | .ok (.free dir name) => .ok (d.put (dir ++ [name]) .directory)

/-- Makes a directory if the path does not lead to one. -/
def ensureDirectory (d : Disk) (p : Path) : Disk × Option Fault :=
  match d.makeDirectory p with
  | .ok d' => (d', none)
  | .error f => (d, if d.isDirectory p then none else some f)

/-- Makes a directory and those around it that are not there; `around` holds the components of the one around it, the
last one first. The innermost directory is tried first, and only if its surroundings are missing they are made. -/
def makeWithin (d : Disk) (p : Path) (around : List Path.Component) : Disk × Option Fault :=
  match around with
  | [] => d.ensureDirectory p
  | c :: outer =>
    match d.makeDirectory p with
    | .ok d' => (d', none)
    | .error .noEntry =>
      match makeWithin d (Path.ofComponents (c :: outer).reverse) outer with
      | (d', some f) => (d', some f)
      | (d', none) => d'.ensureDirectory p
    | .error f => (d, if d.isDirectory p then none else some f)

/-- Makes a directory and those around it that are not there. -/
def makeDirectories (d : Disk) (p : Path) : Disk × Option Fault := d.makeWithin p p.components.reverse.tail

/-! ## Files -/

/-- Writes a file, over one that is there. -/
def write (d : Disk) (p : Path) (content : ByteArray) : Except Fault Disk :=
  match d.find .created p with
  | .error f => .error f
  | .ok (.free dir name) => .ok (d.put (dir ++ [name]) (.file content))
  | .ok (.taken place (.file _)) => .ok (d.put place (.file content))
  | .ok (.taken _ .sink) => .ok d
  | .ok (.taken _ .full) => if content.isEmpty then .ok d else .error .noSpace
  | .ok (.taken _ .directory) => .error .isDirectory
  | .ok (.taken _ (.link _)) => .error .tooManyLinks

/-- The size of the file at a path; none if there is something else. -/
def size? (d : Disk) (p : Path) : Except Fault (Option Nat) :=
  match d.find .followed p with
  | .error f => .error f
  | .ok (.free ..) => .error .noEntry
  | .ok (.taken _ (.file content)) => .ok (some content.size)
  | .ok (.taken ..) => .ok none

/-- The content of the file at a path. -/
def read (d : Disk) (p : Path) : Except Fault ByteArray :=
  match d.find .followed p with
  | .error f => .error f
  | .ok (.free ..) => .error .noEntry
  | .ok (.taken _ (.file content)) => .ok content
  | .ok (.taken _ .directory) => .error .isDirectory
  | .ok (.taken ..) => .ok .empty

/-! ## Links and removal -/

/-- Makes a symbolic link. -/
def link (d : Disk) (p target : Path) : Except Fault Disk :=
  match d.find .itself p with
  | .error f => .error f
  | .ok (.taken ..) => .error .alreadyThere
  | .ok (.free dir name) => .ok (d.put (dir ++ [name]) (.link target))

/-- Removes what is at a path, with all that is below it. -/
def remove (d : Disk) (p : Path) : Except Fault Disk :=
  match d.find .itself p with
  | .error f => .error f
  | .ok (.free ..) => .error .noEntry
  | .ok (.taken place _) => .ok { d with nodes := d.nodes.filter fun l _ => !place.isPrefixOf l }

end CiMessage.Disk
