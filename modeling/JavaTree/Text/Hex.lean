/-!
# Hexadecimal digits

The code of a character in a fixed number of digits.

## Main definitions

* `hexDigits` — a number in a given number of hexadecimal digits, small letters.
-/

namespace JavaTree

/-- The last `width` hexadecimal digits of a number. -/
def hexDigits : Nat → Nat → List Char
  | 0, _ => []
  | width + 1, n => hexDigits width (n / 16) ++ [Nat.digitChar (n % 16)]

end JavaTree
