import JavaTree.NodeFilter
import JavaTree.Text.Entries

/-!
# Checking data for node filters

A node filter is built from data of any shape, which is checked first.  All problems are found, in
the order of the data.

## Main definitions

* `Datum`, `FilterData` — data of any shape, and what a filter is built from.
* `flagWord?` — the words for yes and no.
* `Fault`, `Problem` — what is wrong, and where.
* `FilterData.check` — the filter, or all problems.
-/

namespace JavaTree

/-- A datum of any shape. -/
inductive Datum
  | null
  | flag (b : Bool)
  | whole (n : Int)
  | fraction
  | text (s : String)
  | list (items : List Datum)
  | map (entries : List (String × Datum))
  deriving Inhabited

/-- What a filter is built from; absent data stand for nothing switched, omitted or shown as a
leaf. -/
structure FilterData where
  kinds : Option Datum := none
  omitted : Option Datum := none
  leaves : Option Datum := none

/-- What can be wrong with a datum. -/
inductive Fault
  /-- A word or number that stands for neither yes nor no. -/
  | noTruthValue
  /-- Something that cannot be yes or no. -/
  | notBoolean
  | notText
  | notList
  | notMap
  deriving Repr, DecidableEq

/-- Something wrong at a place. -/
structure Problem where
  fault : Fault
  place : List String
  deriving Repr, DecidableEq

/-- The words for no. -/
def noWords : List String := ["0", "off", "f", "false", "n", "no"]

/-- The words for yes. -/
def yesWords : List String := ["1", "on", "t", "true", "y", "yes"]

/-- What a word stands for; capital letters do not matter. -/
def flagWord? (word : String) : Option Bool :=
  if yesWords.contains word.toLower then some true
  else if noWords.contains word.toLower then some false
  else none

/-- The smallest number that fits into a machine word. -/
def smallestWord : Int := -9223372036854775808

/-- The largest number that fits into a machine word. -/
def largestWord : Int := 9223372036854775807

/-- The truth value of a datum. -/
def Datum.toFlag : Datum → Except Fault Bool
  | flag b => .ok b
  | whole n =>
    if n == 0 then .ok false
    else if n == 1 then .ok true
    else if smallestWord ≤ n && n ≤ largestWord then .error .noTruthValue
    else .error .notBoolean
  | text s =>
    match flagWord? s with
    | some b => .ok b
    | none => .error .noTruthValue
  | _ => .error .notBoolean

/-- The flags of entries, and the problems among them. -/
def checkFlags (place : String) (entries : List (String × Datum)) :
    List (String × Bool) × List Problem :=
  (entries.filterMap fun (key, d) => d.toFlag.toOption.map fun b => (key, b),
    entries.filterMap fun (key, d) =>
      match d.toFlag with
      | .ok _ => none
      | .error fault => some ⟨fault, [place, key]⟩)

/-- The kinds of a list, and the problems among its items, which are counted from `n`. -/
def checkItems (place : String) (n : Nat) : List Datum → List String × List Problem
  | [] => ([], [])
  | d :: ds =>
    let (kinds, problems) := checkItems place (n + 1) ds
    match d with
    | .text s => (s :: kinds, problems)
    | _ => (kinds, ⟨.notText, [place, toString n]⟩ :: problems)

/-- The kinds that a datum lists: the items of a list, or those of a comma-separated text. -/
def checkKinds (place : String) : Option Datum → List String × List Problem
  | none => ([], [])
  | some (.text s) => (NodeFilter.splitKinds s, [])
  | some (.list items) => checkItems place 0 items
  | some _ => ([], [⟨.notList, [place]⟩])

/-- The flags that a datum gives. -/
def checkFlagMap (place : String) : Option Datum → List (String × Bool) × List Problem
  | none => ([], [])
  | some (.map entries) => checkFlags place (Entries.ofList entries)
  | some _ => ([], [⟨.notMap, [place]⟩])

namespace FilterData

/-- The name of the flags in places. -/
def kindsPlace : String := "node_kinds"

/-- The name of the omitted kinds in places. -/
def omitPlace : String := "omit"

/-- The name of the leaf kinds in places. -/
def leafPlace : String := "leaf"

/-- The filter that data describe, or all that is wrong with them. -/
def check (data : FilterData) : Except (List Problem) NodeFilter :=
  let (flags, ps) := checkFlagMap kindsPlace data.kinds
  let (omitted, qs) := checkKinds omitPlace data.omitted
  let (leaves, rs) := checkKinds leafPlace data.leaves
  if (ps ++ qs ++ rs).isEmpty then .ok ⟨flags, omitted, leaves⟩ else .error (ps ++ qs ++ rs)

end FilterData

end JavaTree
