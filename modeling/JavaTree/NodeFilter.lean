import JavaTree.Text.Blank

/-!
# Node filters

Which kinds of nodes are shown: a kind can be switched off by a flag, omitted, or shown as a leaf,
with its source text instead of what is below it.  Kinds that are not mentioned are shown.

## Main definitions

* `NodeFilter` — flags for kinds, omitted kinds, leaf kinds.
* `NodeFilter.includes`, `NodeFilter.isLeaf` — what the filter says of a kind.
* `NodeFilter.mentioned` — all kinds that the filter speaks of, each once, in code point order.
* `NodeFilter.unknownKinds` — those among them that no node has.
* `NodeFilter.splitKinds` — the kinds of a comma-separated list.
-/

namespace JavaTree

/-- A choice of node kinds. -/
structure NodeFilter where
  flags : List (String × Bool) := []
  omitted : List String := []
  leaves : List String := []
  deriving Repr, DecidableEq, Inhabited

namespace NodeFilter

/-- The flag of a kind, if it has one. -/
def flag? (f : NodeFilter) (kind : String) : Option Bool :=
  (f.flags.find? (·.1 == kind)).map (·.2)

/-- Whether nodes of a kind are shown: an omitted kind is not, another one as its flag says. -/
def includes (f : NodeFilter) (kind : String) : Bool :=
  if f.omitted.contains kind then false else (f.flag? kind).getD true

/-- Whether nodes of a kind are shown without what is below them. -/
def isLeaf (f : NodeFilter) (kind : String) : Bool := f.leaves.contains kind

/-- The kinds that the filter speaks of, each once, in code point order. -/
def mentioned (f : NodeFilter) : List String :=
  ((f.flags.map (·.1) ++ f.omitted ++ f.leaves).eraseDups).mergeSort (· ≤ ·)

/-- The mentioned kinds that are not among the known ones. -/
def unknownKinds (known : List String) (f : NodeFilter) : List String :=
  f.mentioned.filter fun k => !known.contains k

/-- Cuts a list of characters at every comma. -/
def splitCommas : List Char → List (List Char)
  | [] => [[]]
  | ',' :: cs => [] :: splitCommas cs
  | c :: cs =>
    match splitCommas cs with
    | [] => [[c]]
    | item :: items => (c :: item) :: items

/-- The kinds of a comma-separated list: its items without blanks around them, empty ones left
out. -/
def splitKinds (text : String) : List String :=
  ((splitCommas text.toList).map fun item => String.ofList (trimChars item)).filter (· != "")

end NodeFilter

end JavaTree
