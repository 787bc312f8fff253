import JavaTree.Json.Basic
import JavaTree.Text.Hex
import JavaTree.Text.Indent

/-!
# Writing JSON

Values over several lines: each entry of an object and each item of a list has a line of its own.
In texts only quotes, backslashes and control characters are escaped.

## Main definitions

* `Json.quote` — a text in quotes.
* `Json.write`, `Json.render` — the written form of a value.
-/

namespace JavaTree.Json

/-- A character of a text as written. -/
def escapeChar : Char → List Char
  | '"' => ['\\', '"']
  | '\\' => ['\\', '\\']
  | '\n' => ['\\', 'n']
  | '\r' => ['\\', 'r']
  | '\t' => ['\\', 't']
  | '\x08' => ['\\', 'b']
  | '\x0c' => ['\\', 'f']
  | c => if c.toNat < 0x20 then '\\' :: 'u' :: hexDigits 4 c.toNat else [c]

/-- A text in quotes. -/
def quote (s : String) : List Char := '"' :: s.toList.flatMap escapeChar ++ ['"']

mutual

/-- A value at a level as written. -/
def write (unit : List Char) (level : Nat) : Json → List Char
  | text s => quote s
  | list [] => "[]".toList
  | list (v :: vs) =>
    '[' :: lineStart unit (level + 1) ++ write unit (level + 1) v ++ writeItems unit level vs ++
      lineStart unit level ++ [']']
  | object [] => "\x7b\x7d".toList
  | object ((key, v) :: entries) =>
    '\x7b' :: lineStart unit (level + 1) ++ quote key ++ ": ".toList ++
      write unit (level + 1) v ++ writeEntries unit level entries ++ lineStart unit level ++
      ['\x7d']

/-- The items of a list at a level after the first. -/
def writeItems (unit : List Char) (level : Nat) : List Json → List Char
  | [] => []
  | v :: vs =>
    ',' :: lineStart unit (level + 1) ++ write unit (level + 1) v ++ writeItems unit level vs

/-- The entries of an object at a level after the first. -/
def writeEntries (unit : List Char) (level : Nat) : List (String × Json) → List Char
  | [] => []
  | (key, v) :: entries =>
    ',' :: lineStart unit (level + 1) ++ quote key ++ ": ".toList ++ write unit (level + 1) v ++
      writeEntries unit level entries

end

/-- A value as written. -/
def render (indent : Int) (v : Json) : String := String.ofList (v.write (indentation indent) 0)

end JavaTree.Json
