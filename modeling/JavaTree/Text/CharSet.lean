/-!
# Character sets

A character set is a table of code-point ranges.  Sets are data, so that a character class of a
standard is written down as its table and a lexical pattern can carry it.

## Main definitions

* `CharSet` — a table of ranges; `CharSet.contains` — membership of a character.
* `CharSet.ofString`, `CharSet.single` — the set of the characters of a text, of one character.
-/

namespace JavaTree

/-- A set of characters: each pair holds the first and the last code point of a range. -/
structure CharSet where
  ranges : Array (Nat × Nat)
  deriving Repr, DecidableEq, Inhabited

namespace CharSet

/-- A character is in the set when its code point lies in one of the ranges. -/
def contains (s : CharSet) (c : Char) : Bool :=
  s.ranges.any fun r => r.1 ≤ c.toNat && c.toNat ≤ r.2

/-- The set that holds one character. -/
def single (c : Char) : CharSet := ⟨#[(c.toNat, c.toNat)]⟩

/-- The characters of a text, as a set. -/
def ofString (text : String) : CharSet :=
  ⟨(text.toList.map fun c => (c.toNat, c.toNat)).toArray⟩

/-- The characters from `a` to `b`. -/
def range (a b : Char) : CharSet := ⟨#[(a.toNat, b.toNat)]⟩

/-- The characters that are in one of two sets. -/
def union (s t : CharSet) : CharSet := ⟨s.ranges ++ t.ranges⟩

end CharSet

end JavaTree
