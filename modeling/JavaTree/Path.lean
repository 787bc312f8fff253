import JavaTree.Text.Quoted

/-!
# Paths

A path is relative, or starts at the root, which is written with one slash or with two.  Empty parts
and parts that are a single point do not count; two points are kept.

## Main definitions

* `Path`, `Path.ofString`, `Path.text` — paths, how they are read and written.
* `Path.name`, `Path.suffix` — the last part, and its end from the last point on.
* `Path.under`, `Path.relativeTo?` — joining paths, and taking a path out of another.
* `relativePath` — a path below a root, as text.
-/

namespace JavaTree

/-- Where a path starts. -/
inductive Anchor
  | here
  | root
  | doubleRoot
  deriving Repr, DecidableEq, Inhabited

/-- A path. -/
structure Path where
  anchor : Anchor := .here
  parts : List String := []
  deriving Repr, DecidableEq, Inhabited

/-- Cuts characters at every slash; `part` holds what has been read of the current part, backwards.
-/
def splitSlashes (part : List Char) : List Char → List (List Char)
  | [] => [part.reverse]
  | c :: cs => if c == '/' then part.reverse :: splitSlashes [] cs else splitSlashes (c :: part) cs

/-- The characters of an anchor. -/
def Anchor.text : Anchor → String
  | here => ""
  | root => "/"
  | doubleRoot => "//"

/-- The anchor of a path as written: two slashes are kept, more are one. -/
def Anchor.ofChars : List Char → Anchor
  | '/' :: '/' :: '/' :: _ => .root
  | '/' :: '/' :: _ => .doubleRoot
  | '/' :: _ => .root
  | _ => .here

namespace Path

/-- Whether a part counts. -/
def counts (part : List Char) : Bool := !part.isEmpty && part != ['.']

/-- The path that a text describes. -/
def ofString (s : String) : Path :=
  ⟨Anchor.ofChars s.toList, ((splitSlashes [] s.toList).filter counts).map String.ofList⟩

/-- A path as written; the empty path is a point. -/
def text (p : Path) : String :=
  if p.anchor == .here && p.parts.isEmpty then "." else p.anchor.text ++ "/".intercalate p.parts

/-- Whether a path does not depend on where one is. -/
def isAbsolute (p : Path) : Bool := p.anchor != .here

/-- The last part, or nothing. -/
def name (p : Path) : String := p.parts.getLast?.getD ""

/-- The end of a name from its last point on, if there is something before and after the point. -/
def suffixOf (name : List Char) : List Char :=
  match name.reverse.span (· != '.') with
  | (after, '.' :: before) =>
    if after.isEmpty || before.isEmpty then [] else '.' :: after.reverse
  | _ => []

/-- The end of the last part from its last point on. -/
def suffix (p : Path) : String := String.ofList (suffixOf p.name.toList)

/-- A path seen from a folder: an absolute path stays what it is. -/
def under (p folder : Path) : Path :=
  if p.isAbsolute then p else ⟨folder.anchor, folder.parts ++ p.parts⟩

/-- What is left of a list after a beginning, if it begins so. -/
def dropStart? : List String → List String → Option (List String)
  | [], ps => some ps
  | _ :: _, [] => none
  | a :: as, p :: ps => if a == p then dropStart? as ps else none

/-- The path from a root to a path below it. -/
def relativeTo? (p root : Path) : Option Path :=
  if root.anchor == p.anchor then (dropStart? root.parts p.parts).map fun ps => ⟨.here, ps⟩
  else none

/-- The folder that a path is in. -/
def parent (p : Path) : Path := ⟨p.anchor, p.parts.dropLast⟩

/-- What has a name in a folder. -/
def child (p : Path) (name : String) : Path := ⟨p.anchor, p.parts ++ [name]⟩

end Path

/-- The message for a path that is not below a root. -/
def outsideMessage (root path : Path) : String :=
  quoted path.text ++ " is not in the subpath of " ++ quoted root.text ++
    " OR one path is relative and the other is absolute."

/-- The way from a root to a path, both seen from a folder; from a path to itself it is the last
part. -/
def relativePath (folder root path : Path) : Option String :=
  let root := root.under folder
  let path := path.under folder
  if path = root then some path.name else (path.relativeTo? root).map Path.text

end JavaTree
