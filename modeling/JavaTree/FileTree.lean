import JavaTree.Path

/-!
# File trees

Files and folders as a value.  A folder holds entries in the order in which they are listed.  Where
a path leads is found part by part; two points lead to the folder around the one that is reached.

## Main definitions

* `FileTree`, `Disk` — what is in a folder; a whole tree with the folder one is in.
* `Disk.place` — the parts that lead from the top to where a path leads.
* `Disk.entry?`, `Disk.isFile`, `Disk.isFolder` — what a path leads to.
* `Disk.write`, `Disk.remove`, `Disk.makeFolder`, `Disk.openFile?` — changes.
* `FileTree.files` — all files below a folder, with the parts that lead to them.
-/

namespace JavaTree

/-- A file with its content, or a folder with its entries. -/
inductive FileTree
  | file (content : ByteArray)
  | folder (entries : List (String × FileTree))
  deriving Inhabited

namespace FileTree

/-- The entries of a folder. -/
def entries : FileTree → List (String × FileTree)
  | file _ => []
  | folder es => es

/-- What a list of parts leads to. -/
def get? : FileTree → List String → Option FileTree
  | t, [] => some t
  | file _, _ :: _ => none
  | folder es, p :: ps => (es.lookup p).bind fun t => t.get? ps

/-- Entries in which a name stands for something else, or for nothing. -/
def setEntry (es : List (String × FileTree)) (name : String) (t : Option FileTree) :
    List (String × FileTree) :=
  match t with
  | none => es.filter (·.1 != name)
  | some t =>
    if es.any (·.1 == name) then es.map fun e => if e.1 == name then (name, t) else e
    else es ++ [(name, t)]

/-- A tree in which a list of parts leads to something else, or to nothing; folders on the way are
made. -/
def put (new : Option FileTree) : FileTree → List String → FileTree
  | t, [] => new.getD t
  | t, [p] => folder (setEntry t.entries p new)
  | t, p :: ps =>
    folder (setEntry t.entries p (some (put new ((t.entries.lookup p).getD (folder [])) ps)))

mutual

/-- The files of a tree, with the parts that lead to them. -/
def files : FileTree → List (List String × ByteArray)
  | file content => [([], content)]
  | folder es => filesIn es

/-- The files of entries, with the parts that lead to them. -/
def filesIn : List (String × FileTree) → List (List String × ByteArray)
  | [] => []
  | (name, t) :: es => ((files t).map fun f => (name :: f.1, f.2)) ++ filesIn es

end

end FileTree

/-- A tree of files from the top, and the parts that lead to the folder one is in. -/
structure Disk where
  top : FileTree
  current : List String

/-- Why a path leads nowhere. -/
inductive PathError
  | missing
  | notFolder
  deriving Repr, DecidableEq

namespace Disk

/-- The folder one is in, as a path. -/
def currentPath (d : Disk) : Path := ⟨.root, d.current⟩

/-- Follows parts from a folder, which is given by the parts that lead to it. -/
def follow (d : Disk) : List String → List String → Except PathError (List String)
  | reached, [] => .ok reached
  | reached, p :: ps =>
    match d.top.get? reached with
    | some (.folder es) =>
      if p == ".." then follow d reached.dropLast ps
      else if (es.lookup p).isSome then follow d (reached ++ [p]) ps
      else .error .missing
    | _ => .error .notFolder

/-- The parts that lead from the top to where a path leads. -/
def place (d : Disk) (p : Path) : Except PathError (List String) :=
  d.follow [] (p.under d.currentPath).parts

/-- What a path leads to. -/
def entry? (d : Disk) (p : Path) : Option FileTree :=
  match d.place p with
  | .ok parts => d.top.get? parts
  | .error _ => none

/-- The content of the file that a path leads to. -/
def content? (d : Disk) (p : Path) : Option ByteArray :=
  match d.entry? p with
  | some (.file content) => some content
  | _ => none

/-- Whether a path leads to a file. -/
def isFile (d : Disk) (p : Path) : Bool := (d.content? p).isSome

/-- Whether a path leads to a folder. -/
def isFolder (d : Disk) (p : Path) : Bool :=
  match d.entry? p with
  | some (.folder _) => true
  | _ => false

/-- The disk with something at the parts of a path; folders on the way are made. -/
def write (d : Disk) (p : Path) (t : FileTree) : Disk :=
  { d with top := d.top.put (some t) (p.under d.currentPath).parts }

/-- The disk without what a path leads to. -/
def remove (d : Disk) (p : Path) : Disk :=
  { d with top := d.top.put none (p.under d.currentPath).parts }

/-! ## Making folders -/

/-- Why a folder cannot be made, with the path that cannot be one. -/
inductive FolderError
  /-- Something else is there. -/
  | taken (path : Path)
  /-- What should hold it is no folder. -/
  | notFolder (path : Path)
  deriving Repr, DecidableEq

/-- The message for an error. -/
def FolderError.message : FolderError → String
  | taken path => "[Errno 17] File exists: " ++ quoted path.text
  | notFolder path => "[Errno 20] Not a directory: " ++ quoted path.text

/-- What happens when one folder is made in a folder that is there. -/
inductive MakeResult
  | made (d : Disk)
  | missing
  | taken
  | notFolder

/-- Makes one folder. -/
def makeOne (d : Disk) (p : Path) : MakeResult :=
  let parts := (p.under d.currentPath).parts
  match parts.getLast? with
  | none => .taken
  | some name =>
    match d.follow [] parts.dropLast with
    | .error .missing => .missing
    | .error .notFolder => .notFolder
    | .ok reached =>
      match d.top.get? reached with
      | some (.folder es) =>
        if name == ".." || (es.lookup name).isSome then .taken
        else .made { d with top := d.top.put (some (.folder [])) (reached ++ [name]) }
      | _ => .notFolder

/-- Makes a folder and those it is in, as far as they are not there. `fuel` bounds their number. -/
def makeWithin : Nat → Disk → Path → Except FolderError Disk
  | fuel, d, p =>
    match d.makeOne p with
    | .made d => .ok d
    | .taken => if d.isFolder p then .ok d else .error (.taken p)
    | .notFolder => .error (.notFolder p)
    | .missing =>
      match fuel with
      | 0 => .error (.notFolder p)
      | fuel + 1 =>
        match makeWithin fuel d p.parent with
        | .error e => .error e
        | .ok d =>
          match d.makeOne p with
          | .made d => .ok d
          | _ => if d.isFolder p then .ok d else .error (.taken p)

/-- Makes a folder and those it is in, as far as they are not there. -/
def makeFolder (d : Disk) (p : Path) : Except FolderError Disk :=
  d.makeWithin p.parts.length p

/-! ## Opening files -/

/-- The disk when a file in a folder is open, so that one can add to it: if nothing has its name, an
empty file is made.  A folder of this name cannot be opened. -/
def openFile? (d : Disk) (folder : Path) (name : String) : Option Disk :=
  match d.place folder with
  | .error _ => none
  | .ok reached =>
    match d.top.get? reached with
    | some (.folder es) =>
      match es.lookup name with
      | none => some { d with top := d.top.put (some (.file .empty)) (reached ++ [name]) }
      | some (.file _) => some d
      | some (.folder _) => none
    | _ => none

end Disk

end JavaTree
