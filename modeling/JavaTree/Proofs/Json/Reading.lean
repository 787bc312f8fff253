import Mathlib.Data.List.Basic
import JavaTree.Json.Write
import JavaTree.Xml.Reference

/-!
# Reading JSON

A reader for the values that describe documents.  What has been written is read as it was, whatever
characters its texts hold, so no two values are written in the same way.

## Main definitions

* `Json.readText` — a text, up to the quote that ends it.
* `Json.readValue`, `Json.read?` — a value at the start of a text, and a text that is a value.

## Main results

* `Json.readText_quote` — a text in quotes is read as it was.
* `Json.readValue_write` — so is a value that has been written, at any level.
* `Json.read?_render` — a rendered value is read back.
-/

namespace JavaTree.Json

/-! ## The reader -/

/-- The blanks between the tokens of a value. -/
def isSpace (c : Char) : Bool := c == ' ' || c == '\t' || c == '\n' || c == '\r'

/-- The text after the blanks at its start. -/
def skip (cs : List Char) : List Char := cs.dropWhile isSpace

/-- The character that a letter after a backslash stands for. -/
def unescape? : Char → Option Char
  | '"' => some '"'
  | '\\' => some '\\'
  | '/' => some '/'
  | 'n' => some '\n'
  | 'r' => some '\r'
  | 't' => some '\t'
  | 'b' => some '\x08'
  | 'f' => some '\x0c'
  | _ => none

/-- The character with a code in hexadecimal digits; halves of a pair are no characters. -/
def charOfDigits? (digits : List Char) : Option Char :=
  (Xml.readNumber 16 digits).bind fun n => if n.isValidChar then some (Char.ofNat n) else none

/-- Reads a text, after the quote at its start. -/
def readText : List Char → Option (List Char × List Char)
  | [] => none
  | '"' :: cs => some ([], cs)
  | '\\' :: 'u' :: d₁ :: d₂ :: d₃ :: d₄ :: cs =>
    (charOfDigits? [d₁, d₂, d₃, d₄]).bind fun c => (readText cs).map fun (s, rest) => (c :: s, rest)
  | '\\' :: e :: cs =>
    (unescape? e).bind fun c => (readText cs).map fun (s, rest) => (c :: s, rest)
  | c :: cs =>
    if c.toNat < 0x20 then none else (readText cs).map fun (s, rest) => (c :: s, rest)

mutual

/-- Reads a value; the number bounds how deep and how long it is. -/
def readValue : Nat → List Char → Option (Json × List Char)
  | 0, _ => none
  | fuel + 1, cs =>
    match skip cs with
    | '"' :: cs => do
      let (s, cs) ← readText cs
      pure (text (String.ofList s), cs)
    | '[' :: cs =>
      match skip cs with
      | ']' :: cs => some (list [], cs)
      | cs => do
        let (v, cs) ← readValue fuel cs
        let (vs, cs) ← readItems fuel cs
        pure (list (v :: vs), cs)
    | '\x7b' :: cs =>
      match skip cs with
      | '\x7d' :: cs => some (object [], cs)
      | cs => do
        let (entry, cs) ← readEntry fuel cs
        let (entries, cs) ← readEntries fuel cs
        pure (object (entry :: entries), cs)
    | _ => none

/-- Reads the items of a list after the first, and its end. -/
def readItems : Nat → List Char → Option (List Json × List Char)
  | 0, _ => none
  | fuel + 1, cs =>
    match skip cs with
    | ']' :: cs => some ([], cs)
    | ',' :: cs => do
      let (v, cs) ← readValue fuel cs
      let (vs, cs) ← readItems fuel cs
      pure (v :: vs, cs)
    | _ => none

/-- Reads an entry of an object. -/
def readEntry : Nat → List Char → Option ((String × Json) × List Char)
  | 0, _ => none
  | fuel + 1, cs =>
    match skip cs with
    | '"' :: cs => do
      let (key, cs) ← readText cs
      match skip cs with
      | ':' :: cs =>
        let (v, cs) ← readValue fuel cs
        pure ((String.ofList key, v), cs)
      | _ => none
    | _ => none

/-- Reads the entries of an object after the first, and its end. -/
def readEntries : Nat → List Char → Option (List (String × Json) × List Char)
  | 0, _ => none
  | fuel + 1, cs =>
    match skip cs with
    | '\x7d' :: cs => some ([], cs)
    | ',' :: cs => do
      let (entry, cs) ← readEntry fuel cs
      let (entries, cs) ← readEntries fuel cs
      pure (entry :: entries, cs)
    | _ => none

end

/-- The value that a text is. -/
def read? (s : String) : Option Json := do
  let (v, rest) ← readValue s.toList.length s.toList
  if (skip rest).isEmpty then some v else none

/-! ## Texts -/

/-- Four digits are read as the code they spell. -/
lemma charOfDigits?_hexDigits {c : Char} (h : c.toNat < 0x20) :
    charOfDigits? (hexDigits 4 c.toNat) = some c := by
  have hcodes : ∀ n < 0x20, charOfDigits? (hexDigits 4 n) = some (Char.ofNat n) := by decide
  rw [hcodes c.toNat h, Char.ofNat_toNat]

/-- An escaped character is read as the character.

**Proof sketch.** By the way in which the character is escaped: a mark of its own, four digits, or
as it is. -/
lemma readText_escapeChar (c : Char) (cs : List Char) :
    readText (escapeChar c ++ cs) = (readText cs).map fun (s, rest) => (c :: s, rest) := by
  unfold escapeChar
  split
  · rfl
  · rfl
  · rfl
  · rfl
  · rfl
  · rfl
  · rfl
  · rename_i hquote hbackslash _ _ _ _ _
    split
    · rename_i hcontrol
      change (charOfDigits? (hexDigits 4 c.toNat)).bind _ = _
      rw [charOfDigits?_hexDigits hcontrol]
      rfl
    · rename_i hcontrol
      rw [List.singleton_append, readText, if_neg hcontrol]
      · exact hquote
      · exact fun _ _ _ _ _ hc _ => hbackslash hc
      · exact fun _ _ hc _ => hbackslash hc

/-- **A text in quotes is read as it was.** -/
theorem readText_quote (s : String) (cs : List Char) :
    ∃ body, quote s ++ cs = '"' :: body ∧ readText body = some (s.toList, cs) := by
  refine ⟨s.toList.flatMap escapeChar ++ '"' :: cs, by simp [quote], ?_⟩
  induction s.toList with
  | nil => rfl
  | cons c s ih =>
    rw [List.flatMap_cons, List.append_assoc, readText_escapeChar, ih]
    rfl

/-! ## Values -/

section

variable {unit : List Char} {n : Nat} {c : Char} {cs ds rest : List Char} {v : Json}

/-- Nothing is skipped before a character that is no blank. -/
lemma skip_of_not_isSpace (h : isSpace c = false) : skip (c :: cs) = c :: cs := by
  rw [skip, List.dropWhile_cons, h]
  rfl

/-- A line break and the blanks after it are blanks. -/
lemma skip_lineStart (hunit : unit.all isSpace = true) (level : Nat) (cs : List Char) :
    skip (lineStart unit level ++ cs) = skip cs := by
  refine List.dropWhile_append_of_pos fun c hc => ?_
  rcases List.mem_cons.1 hc with rfl | hc
  · rfl
  · obtain ⟨blanks, hblanks, hc⟩ := List.mem_flatten.1 hc
    rw [List.eq_of_mem_replicate hblanks] at hc
    exact List.all_eq_true.1 hunit c hc

/-- Blanks before a value do not matter. -/
lemma readValue_of_skip_eq (h : skip cs = skip ds) : readValue n cs = readValue n ds := by
  cases n with
  | zero => rfl
  | succ n => rw [readValue, readValue, h]

/-- Blanks before an entry do not matter. -/
lemma readEntry_of_skip_eq (h : skip cs = skip ds) : readEntry n cs = readEntry n ds := by
  cases n with
  | zero => rfl
  | succ n => rw [readEntry, readEntry, h]

/-- A value begins with a quote or an opening bracket. -/
lemma exists_write_eq (unit : List Char) (level : Nat) (v : Json) : ∃ c cs,
    v.write unit level = c :: cs ∧ (c = '"' ∨ c = '[' ∨ c = '\x7b') := by
  rcases v with s | (_ | ⟨v, vs⟩) | (_ | ⟨⟨key, v⟩, entries⟩)
  · exact ⟨_, _, rfl, .inl rfl⟩
  · exact ⟨_, _, rfl, .inr (.inl rfl)⟩
  · exact ⟨_, _, by rw [write]; rfl, .inr (.inl rfl)⟩
  · exact ⟨_, _, rfl, .inr (.inr rfl)⟩
  · exact ⟨_, _, by rw [write]; rfl, .inr (.inr rfl)⟩

/-- A value is written with no blank before it, and does not begin as a list ends. -/
lemma skip_write (unit : List Char) (level : Nat) (v : Json) (rest : List Char) :
    ∃ c cs, skip (v.write unit level ++ rest) = c :: cs ∧ v.write unit level ++ rest = c :: cs ∧
      c ≠ ']' := by
  obtain ⟨c, cs, hwrite, hc⟩ := exists_write_eq unit level v
  refine ⟨c, cs ++ rest, ?_, by rw [hwrite]; rfl, ?_⟩
  · rw [hwrite]
    exact skip_of_not_isSpace (by rcases hc with rfl | rfl | rfl <;> rfl)
  · rcases hc with rfl | rfl | rfl <;> decide

/-- An entry is read as its key and its value. -/
lemma readEntry_of_readValue (key : String) (h : readValue n (cs ++ rest) = some (v, rest)) :
    readEntry (n + 1) (quote key ++ ": ".toList ++ cs ++ rest) = some ((key, v), rest) := by
  obtain ⟨body, hbody, hread⟩ := readText_quote key (": ".toList ++ (cs ++ rest))
  have hvalue : readValue n (' ' :: (cs ++ rest)) = some (v, rest) := by
    rw [← h]
    exact readValue_of_skip_eq rfl
  have hcolon : skip (": ".toList ++ (cs ++ rest)) = ':' :: ' ' :: (cs ++ rest) := rfl
  rw [List.append_assoc, List.append_assoc, hbody, readEntry, skip_of_not_isSpace rfl]
  simp only [hread, Option.bind_eq_bind, Option.bind_some, hcolon, hvalue, String.ofList_toList]
  rfl

mutual

/-- **A value that has been written is read as it was**, whatever follows it.

**Proof sketch.** Structural induction on the value, together with the items of lists and the
entries of objects. A value is written from its first character on, so nothing is skipped before it,
and the bound covers the characters written. -/
theorem readValue_write (hunit : unit.all isSpace = true) : ∀ (v : Json) (level n : Nat)
    (rest : List Char), (v.write unit level).length ≤ n →
    readValue n (v.write unit level ++ rest) = some (v, rest)
  | text s, level, 0, rest, hn => by simp [write, quote] at hn
  | text s, level, n + 1, rest, hn => by
    obtain ⟨body, hbody, hread⟩ := readText_quote s rest
    rw [write, hbody, readValue, skip_of_not_isSpace rfl]
    simp only [hread, Option.bind_eq_bind, Option.bind_some, String.ofList_toList]
    rfl
  | list [], level, 0, rest, hn => by simp [write] at hn
  | list [], level, n + 1, rest, hn => by
    rw [write, readValue]
    rfl
  | list (v :: vs), level, 0, rest, hn => by simp [write] at hn
  | list (v :: vs), level, n + 1, rest, hn => by
    simp only [write, List.length_append, List.length_cons, List.length_nil] at hn
    have hv := readValue_write hunit v (level + 1) n
      (writeItems unit level vs ++ (lineStart unit level ++ ']' :: rest)) (by omega)
    have hvs := readItems_writeItems hunit vs level n rest (by omega)
    obtain ⟨c, cs, hskip, hcs, hc⟩ := skip_write unit (level + 1) v
      (writeItems unit level vs ++ (lineStart unit level ++ ']' :: rest))
    rw [write, readValue]
    simp only [List.cons_append, List.append_assoc, List.nil_append,
      skip_of_not_isSpace (c := '[') rfl, skip_lineStart hunit, hskip]
    split
    · rename_i heq
      exact absurd (List.cons.inj heq).1 hc
    · rw [← hcs]
      simp only [hv, hvs, Option.bind_eq_bind, Option.bind_some]
      rfl
  | object [], level, 0, rest, hn => by simp [write] at hn
  | object [], level, n + 1, rest, hn => by
    rw [write, readValue]
    rfl
  | object ((key, v) :: entries), level, 0, rest, hn => by simp [write] at hn
  | object ((key, v) :: entries), level, 1, rest, hn => by simp [write] at hn
  | object ((key, v) :: entries), level, n + 2, rest, hn => by
    simp only [write, List.length_append, List.length_cons, List.length_nil] at hn
    have hv := readValue_write hunit v (level + 1) n
      (writeEntries unit level entries ++ (lineStart unit level ++ '\x7d' :: rest)) (by omega)
    have hentry := readEntry_of_readValue key hv
    have hentries := readEntries_writeEntries hunit entries level (n + 1) rest (by omega)
    obtain ⟨body, hbody, -⟩ := readText_quote key (": ".toList ++ (v.write unit (level + 1) ++
      (writeEntries unit level entries ++ (lineStart unit level ++ '\x7d' :: rest))))
    rw [write, readValue]
    simp only [List.cons_append, List.append_assoc, List.nil_append] at hentry ⊢
    simp only [skip_of_not_isSpace (c := '\x7b') rfl, skip_lineStart hunit, hbody,
      skip_of_not_isSpace (c := '"') rfl]
    rw [hbody] at hentry
    change (readEntry (n + 1) ('"' :: body)).bind _ = _
    simp only [hentry, hentries, Option.bind_eq_bind, Option.bind_some]
    rfl

/-- The items of a list after the first are read as they were.

**Proof sketch.** Structural induction on the items: a comma leads to the next value on a line of
its own, and the bracket to the end. -/
theorem readItems_writeItems (hunit : unit.all isSpace = true) : ∀ (vs : List Json) (level n : Nat)
    (rest : List Char), (writeItems unit level vs).length < n →
    readItems n (writeItems unit level vs ++ (lineStart unit level ++ ']' :: rest)) =
      some (vs, rest)
  | _, level, 0, rest, hn => absurd hn (Nat.not_lt_zero _)
  | [], level, n + 1, rest, hn => by
    rw [writeItems, List.nil_append, readItems, skip_lineStart hunit, skip_of_not_isSpace rfl]
    rfl
  | v :: vs, level, n + 1, rest, hn => by
    simp only [writeItems, List.length_append, List.length_cons] at hn
    have hv := readValue_write hunit v (level + 1) n
      (writeItems unit level vs ++ (lineStart unit level ++ ']' :: rest)) (by omega)
    have hvs := readItems_writeItems hunit vs level n rest (by omega)
    have hline := readValue_of_skip_eq (n := n) (skip_lineStart hunit (level + 1)
      (v.write unit (level + 1) ++
        (writeItems unit level vs ++ (lineStart unit level ++ ']' :: rest))))
    rw [writeItems, readItems]
    simp only [List.cons_append, List.append_assoc, skip_of_not_isSpace (c := ',') rfl, hline, hv,
      hvs, Option.bind_eq_bind, Option.bind_some]
    rfl

/-- The entries of an object after the first are read as they were.

**Proof sketch.** Structural induction on the entries: a comma leads to the next key on a line of
its own, and the brace to the end. -/
theorem readEntries_writeEntries (hunit : unit.all isSpace = true) :
    ∀ (entries : List (String × Json)) (level n : Nat) (rest : List Char),
    (writeEntries unit level entries).length < n →
    readEntries n (writeEntries unit level entries ++ (lineStart unit level ++ '\x7d' :: rest)) =
      some (entries, rest)
  | _, level, 0, rest, hn => absurd hn (Nat.not_lt_zero _)
  | [], level, n + 1, rest, hn => by
    rw [writeEntries, List.nil_append, readEntries, skip_lineStart hunit, skip_of_not_isSpace rfl]
    rfl
  | _ :: _, level, 1, rest, hn => by simp [writeEntries] at hn
  | (key, v) :: entries, level, n + 2, rest, hn => by
    simp only [writeEntries, List.length_append, List.length_cons] at hn
    have hv := readValue_write hunit v (level + 1) n
      (writeEntries unit level entries ++ (lineStart unit level ++ '\x7d' :: rest)) (by omega)
    have hentry := readEntry_of_readValue key hv
    have hentries := readEntries_writeEntries hunit entries level (n + 1) rest (by omega)
    have hline := readEntry_of_skip_eq (n := n + 1) (skip_lineStart hunit (level + 1)
      (quote key ++ (": ".toList ++ (v.write unit (level + 1) ++
        (writeEntries unit level entries ++ (lineStart unit level ++ '\x7d' :: rest))))))
    rw [writeEntries, readEntries]
    simp only [List.append_assoc] at hentry
    simp only [List.cons_append, List.append_assoc, skip_of_not_isSpace (c := ',') rfl, hline,
      hentry, hentries, Option.bind_eq_bind, Option.bind_some]
    rfl

end

end

/-- **A rendered value is read back.** -/
theorem read?_render (indent : Int) (v : Json) : read? (v.render indent) = some v := by
  have hunit : (indentation indent).all isSpace = true := by
    rw [indentation, List.all_replicate]
    simp [isSpace]
  have hread := readValue_write hunit v 0 _ [] (Nat.le_refl _)
  rw [List.append_nil] at hread
  rw [read?, render, String.toList_ofList, hread]
  rfl

end JavaTree.Json
