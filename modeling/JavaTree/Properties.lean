import JavaTree.Text.Blank
import JavaTree.Text.Entries
import JavaTree.Text.Lines

/-!
# Properties

Keys and values in the lines of a text.  Blanks around a line do not matter; a line that begins with
`#` or `!` is a comment; a line that ends with a backslash goes on with the next one.

## Main definitions

* `PropertiesError` — why a text gives no properties.
* `splitEntry?` — key and value of a line.
* `PropertiesState`, `PropertiesState.step` — reading line by line.
* `parseProperties` — the properties of a text.
* `LogicalLine`, `logicalLines`, `readLogical` — physical lines put together, and lines that are put
  together cut into keys and values.
* `twoPhaseProperties` — the properties of a text, read in these two phases.
-/

namespace JavaTree

/-- Why a text gives no properties; lines are counted from one. -/
inductive PropertiesError
  /-- A line has no key or no sign between key and value. -/
  | malformed (line : Nat) (text : String)
  /-- The last line goes on. -/
  | unterminated (line : Nat)
  deriving Repr, DecidableEq

namespace PropertiesError

/-- The message for an error. -/
def message : PropertiesError → String
  | malformed line text =>
    "속성 파일 " ++ toString line ++ "번째 줄의 형식이 올바르지 않습니다: " ++ text
  | unterminated line =>
    "속성 파일 " ++ toString line ++ "번째 줄이 '\\'로 끝나 완결되지 않았습니다"

end PropertiesError

/-- Whether a character stands between key and value. -/
def isSeparator (c : Char) : Bool := c == '=' || c == ':'

/-- Key and value of a line, without the blanks around them. -/
def splitEntry? (line : List Char) : Option (String × String) :=
  match line.dropWhile fun c => !isSeparator c with
  | [] => none
  | _ :: value =>
    let key := trimChars (line.takeWhile fun c => !isSeparator c)
    if key.isEmpty then none else some (String.ofList key, String.ofList (trimChars value))

/-- Whether a line, without blanks around it, holds nothing to read. -/
def isIdle : List Char → Bool
  | [] => true
  | c :: _ => c == '#' || c == '!'

/-- A line without the backslash at its end, if it has one there. -/
def continued? (line : List Char) : Option (List Char) :=
  match line.reverse with
  | '\\' :: cs => some cs.reverse
  | _ => none

/-- What has been read: the entries, the beginning of a line that goes on, and where it began. -/
structure PropertiesState where
  entries : List (String × String) := []
  pending : List Char := []
  start : Nat := 0

namespace PropertiesState

/-- Takes in a line with its number. -/
def step (s : PropertiesState) (number : Nat) (raw : List Char) :
    Except PropertiesError PropertiesState :=
  let line := trimChars raw
  if s.pending.isEmpty && isIdle line then .ok s
  else
    let start := if s.pending.isEmpty then number else s.start
    match continued? line with
    | some part => .ok ⟨s.entries, s.pending ++ part, start⟩
    | none =>
      match splitEntry? (s.pending ++ line) with
      | some (key, value) => .ok ⟨Entries.set s.entries key value, [], start⟩
      | none => .error (.malformed start (String.ofList (s.pending ++ line)))

/-- Takes in lines, the first of which has the given number. -/
def run (s : PropertiesState) (number : Nat) : List (List Char) →
    Except PropertiesError PropertiesState
  | [] => .ok s
  | l :: ls =>
    match s.step number l with
    | .ok s => run s (number + 1) ls
    | .error e => .error e

/-- The entries, if no line is left that goes on. -/
def finish (s : PropertiesState) : Except PropertiesError (List (String × String)) :=
  if s.pending.isEmpty then .ok s.entries else .error (.unterminated s.start)

end PropertiesState

/-- The properties of a text. -/
def parseProperties (text : String) : Except PropertiesError (List (String × String)) :=
  match PropertiesState.run {} 1 (linesFrom [] text.toList) with
  | .ok s => s.finish
  | .error e => .error e

/-! ## Two phases -/

/-- A line put together from physical lines: the number of the first of them, what each of them
contributes, and whether the last of them is complete. -/
structure LogicalLine where
  number : Nat
  parts : List (List Char)
  complete : Bool
  deriving Repr, DecidableEq

/-- The text of a line. -/
def LogicalLine.text (l : LogicalLine) : List Char := l.parts.flatten

/-- The logical line that goes on with the first of some physical lines, and the lines after it. -/
def takeLogical (number : Nat) (parts : List (List Char)) :
    Nat → List (List Char) → LogicalLine × Nat × List (List Char)
  | next, [] => (⟨number, parts, false⟩, next, [])
  | next, l :: ls =>
    match continued? (trimChars l) with
    | some part => takeLogical number (parts ++ [part]) (next + 1) ls
    | none => (⟨number, parts ++ [trimChars l], true⟩, next + 1, ls)

/-- A logical line takes physical lines away, and adds none. -/
theorem length_takeLogical_le (number : Nat) (parts : List (List Char)) (next : Nat)
    (ls : List (List Char)) : (takeLogical number parts next ls).2.2.length ≤ ls.length := by
  induction ls generalizing parts next with
  | nil => simp [takeLogical]
  | cons l ls ih =>
    rw [takeLogical]
    split
    · exact Nat.le_succ_of_le (ih _ _)
    · simp

/-- The logical lines of physical lines, the first of which has the given number.  A physical line
for which `isVoid` holds does not begin a logical one. -/
def logicalLines (isVoid : List Char → Bool) (number : Nat) :
    List (List Char) → List LogicalLine
  | [] => []
  | l :: ls =>
    if isVoid (trimChars l) then logicalLines isVoid (number + 1) ls
    else
      match continued? (trimChars l) with
      | none => ⟨number, [trimChars l], true⟩ :: logicalLines isVoid (number + 1) ls
      | some part =>
        have := length_takeLogical_le number [part] (number + 1) ls
        let taken := takeLogical number [part] (number + 1) ls
        taken.1 :: logicalLines isVoid taken.2.1 taken.2.2
  termination_by ls => ls.length

/-- The entries after a logical line. -/
def readLine (entries : List (String × String)) (l : LogicalLine) :
    Except PropertiesError (List (String × String)) :=
  if !l.complete then .error (.unterminated l.number)
  else
    match splitEntry? l.text with
    | some (key, value) => .ok (Entries.set entries key value)
    | none => .error (.malformed l.number (String.ofList l.text))

/-- The entries of logical lines, after those read before. -/
def readLogical (entries : List (String × String)) :
    List LogicalLine → Except PropertiesError (List (String × String))
  | [] => .ok entries
  | l :: ls => (readLine entries l).bind fun entries => readLogical entries ls

/-- The properties of a text, read in two phases. -/
def twoPhaseProperties (text : String) : Except PropertiesError (List (String × String)) :=
  readLogical [] (logicalLines isIdle 1 (linesFrom [] text.toList))

end JavaTree
