import Mathlib.Tactic.Lemma
import JavaTree.Xml.Char

/-!
# Texts as documents spell them

A document holds every character but some control characters and two that are none.  Texts with such
characters are spelled: each of them is replaced by a backslash, `u`, and the four hexadecimal
digits of its code point.  The spelling is given by code points here, and compared with the text
that the element of a node gets.

## Main definitions

* `Xml.Barred` — the code points of the characters that no document holds.
* `Xml.spelling`, `Xml.spelled` — a character, and a text, as documents spell it.

## Main results

* `Xml.isChar_iff` — a document holds all other characters.
* `Xml.legible_eq_spelled` — the text that an element gets is the spelling of the source text.
-/

namespace JavaTree.Xml

/-- The code points of the characters that no document holds: the control characters but for the
tabulator, the line feed and the carriage return, and the last two of the plane. -/
def Barred (n : Nat) : Prop :=
  n ≤ 0x8 ∨ n = 0xB ∨ n = 0xC ∨ (0xE ≤ n ∧ n ≤ 0x1F) ∨ n = 0xFFFE ∨ n = 0xFFFF

instance (n : Nat) : Decidable (Barred n) := inferInstanceAs (Decidable (_ ∨ _))

/-- A hexadecimal digit, in lower case. -/
def hexDigit (n : Nat) : Char := "0123456789abcdef".toList.getD n '0'

/-- A character as documents spell it: itself, unless no document holds it; then a backslash, `u`
and the four digits of its code point. -/
def spelling (c : Char) : List Char :=
  if Barred c.toNat then
    ['\\', 'u', hexDigit (c.toNat / 0x1000), hexDigit (c.toNat / 0x100 % 0x10),
      hexDigit (c.toNat / 0x10 % 0x10), hexDigit (c.toNat % 0x10)]
  else [c]

/-- A text as documents spell it: the spellings of its characters, one after the other. -/
def spelled (s : String) : String := String.ofList (s.toList.flatMap spelling)

/-- A document holds a character if and only if its code point is not barred. -/
lemma isChar_iff (c : Char) : isChar c = true ↔ ¬ Barred c.toNat := by
  simp only [isChar, Barred, Bool.or_eq_true, Bool.and_eq_true, beq_iff_eq, bne_iff_ne,
    decide_eq_true_eq]
  omega

/-- The digits of numbers below sixteen. -/
lemma digitChar_eq_hexDigit : ∀ n < 16, Nat.digitChar n = hexDigit n := by decide

/-- Four digits are enough for the code points that are barred. -/
lemma hexDigits_of_lt {n : Nat} (h : n < 0x10000) :
    hexDigits 4 n = [hexDigit (n / 0x1000), hexDigit (n / 0x100 % 0x10),
      hexDigit (n / 0x10 % 0x10), hexDigit (n % 0x10)] := by
  have hfirst : n / 16 / 16 / 16 % 16 = n / 0x1000 := by omega
  have hsecond : n / 16 / 16 % 16 = n / 0x100 % 0x10 := by omega
  simp only [hexDigits, List.nil_append, List.cons_append, hfirst, hsecond]
  rw [digitChar_eq_hexDigit _ (by omega), digitChar_eq_hexDigit _ (by omega),
    digitChar_eq_hexDigit _ (by omega), digitChar_eq_hexDigit _ (by omega)]

/-- A character is made legible by its spelling. -/
lemma legibleChar_eq_spelling (c : Char) : legibleChar c = spelling c := by
  unfold legibleChar spelling
  by_cases h : Barred c.toNat
  · have hnot : ¬ isChar c = true := fun hc => (isChar_iff c).1 hc h
    have hlt : c.toNat < 0x10000 := by
      simp only [Barred] at h
      omega
    rw [if_neg hnot, if_pos h, hexDigits_of_lt hlt]
  · rw [if_pos ((isChar_iff c).2 h), if_neg h]

/-- **A legible text is the spelling of the text**: every character that no document holds is
replaced by its code point, and all others are kept. -/
theorem legible_eq_spelled (s : String) : legible s = spelled s := by
  have hchar : legibleChar = spelling := funext legibleChar_eq_spelling
  rw [legible, spelled, hchar]

example : spelled "a\x00\t\r\n\uFFFE\uFFFD" = "a\\u0000\t\r\n\\ufffe\uFFFD" := by decide +kernel

end JavaTree.Xml
