import JavaTree.Grammar.Automaton
import JavaTree.Text.Word

/-!
# The tokens of Java

The token classes of Java as lexical patterns.  Literal tokens (keywords, operators, brackets) are
written in the rules themselves.

## Main definitions

* `Java.blank` — the characters between tokens.
* `Java.identifier` — words, over the Unicode properties for identifiers.
* `Java.tokens` — all token classes.
-/

namespace JavaTree.Java

open JavaTree.Grammar Pattern

/-! ## Character classes -/

/-- The blanks between tokens: the space, and the control characters from tab to carriage return.
Other blanks of Unicode are no blanks here. -/
def blank : CharSet := (CharSet.range '\t' '\r').union (.ofString " ")

/-- A letter, an underscore, a dollar sign. -/
def identifierStart : CharSet := CharSet.wordStart.union (.ofString "_$")

/-- What may follow in an identifier. -/
def identifierPart : CharSet := CharSet.wordPart.union (.ofString "_$\u00A2")

/-- Decimal digits. -/
def digit : Pattern := .oneOf (.range '0' '9')

/-- Octal digits. -/
def octalDigit : Pattern := .oneOf (.range '0' '7')

/-- Hexadecimal digits. -/
def hexDigit : Pattern :=
  .oneOf (((CharSet.range '0' '9').union (.range 'a' 'f')).union (.range 'A' 'F'))

/-! ## Patterns -/

/-- A word. -/
def identifier : Pattern := .seq (.oneOf identifierStart) (.star (.oneOf identifierPart))

/-- Digits in groups with one underscore between two groups. -/
def grouped (d : Pattern) : Pattern := separated (char '_') (many1 d)

/-- A decimal number: zero, or digits in groups that do not start with zero. -/
def decimal : Pattern :=
  alts [char '0',
    .seq (.oneOf (.range '1' '9'))
      (optional (.seq (optional (char '_')) (separated (many1 (char '_')) (many1 digit))))]

/-- The mark of a long integer. -/
def longMark : Pattern := optional (anyOf "lL")

/-- The exponent of a number, after one of the given letters. -/
def exponent (letters : String) : Pattern :=
  seqs [anyOf letters, optional (anyOf "+-"), grouped digit]

/-- The mark of a floating-point number. -/
def floatMark : Pattern := anyOf "fFdD"

/-- A decimal floating-point number: a point, an exponent or a mark makes it one. -/
def decimalFloat : Pattern :=
  alts [
    seqs [grouped digit, char '.', optional (grouped digit), optional (exponent "eE"),
      optional floatMark],
    seqs [char '.', grouped digit, optional (exponent "eE"), optional floatMark],
    seqs [decimal, exponent "eE", optional floatMark],
    seqs [decimal, optional (exponent "eE"), floatMark]]

/-- The start of a hexadecimal number. -/
def hexStart : Pattern := alts [text "0x", text "0X"]

/-- A hexadecimal floating-point number. -/
def hexFloat : Pattern :=
  seqs [hexStart,
    alts [seqs [grouped hexDigit, optional (char '.')],
      seqs [optional (grouped hexDigit), char '.', grouped hexDigit]],
    optional (.seq (exponent "pP") (optional floatMark))]

/-- A character in single quotes; more than one passes. -/
def characterLiteral : Pattern :=
  seqs [char '\'',
    many1 (alts [.noneOf (.ofString "\\'\n"), .seq (char '\\') (.noneOf (.ofString "\n")),
      text "\\\n"]),
    char '\'']

/-- An escape sequence in a string. -/
def escapeSequence : Pattern :=
  .seq (char '\\') (alts [
    .noneOf ((CharSet.ofString "xu").union (.range '0' '7')),
    alts [octalDigit, times octalDigit 2, times octalDigit 3],
    .seq (char 'x') (times hexDigit 2),
    .seq (char 'u') (times hexDigit 4),
    seqs [text "u\x7b", many1 hexDigit, char '\x7d']])

/-- Characters of a string that are no quotes or backslashes. -/
def stringRun : Pattern := many1 (.noneOf (.ofString "\"\\"))

/-- A lone quote in a text block and what follows it. -/
def quoteRun : Pattern :=
  .seq (char '"') (.star (alts [.noneOf (.ofString "\"\\"), text "\\\""]))

/-- A comment to the end of the line. -/
def lineComment : Pattern := .seq (text "//") (.star (.noneOf (.ofString "\n\x00")))

/-- A comment in brackets. -/
def blockComment : Pattern :=
  let stars := many1 (char '*')
  seqs [text "/*", .star (.noneOf (.ofString "*\x00")), stars,
    .star (seqs [.noneOf (.ofString "/*\x00"), .star (.noneOf (.ofString "*\x00")), stars]),
    char '/']

/-! ## Token classes -/

/-- The token classes of Java. -/
def tokens : List TokenClass := [
  { name := "identifier", pattern := identifier },
  { name := "decimal_integer_literal", pattern := .seq decimal longMark },
  { name := "hex_integer_literal", pattern := seqs [hexStart, grouped hexDigit, longMark] },
  { name := "octal_integer_literal",
    pattern := seqs [alts [text "0o", text "0O", char '0'], grouped octalDigit, longMark] },
  { name := "binary_integer_literal",
    pattern := seqs [alts [text "0b", text "0B"], grouped (anyOf "01"), longMark] },
  { name := "decimal_floating_point_literal", pattern := decimalFloat },
  { name := "hex_floating_point_literal", pattern := hexFloat },
  { name := "character_literal", pattern := characterLiteral },
  { name := "string_fragment", pattern := stringRun, rank := 1, immediate := true },
  { name := "text_block_run", pattern := stringRun, visible := false },
  { name := "text_block_quote_run", pattern := quoteRun, visible := false },
  { name := "escape_sequence", pattern := escapeSequence, immediate := true },
  { name := "line_comment", pattern := lineComment },
  { name := "block_comment", pattern := blockComment }]

end JavaTree.Java
