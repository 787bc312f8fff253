import JavaTree.Text.Korean

/-!
# Encodings

How bytes stand for characters.  Besides UTF-8 and the encodings of one byte per character there
are the two Korean ones: in the first, two bytes name a place in the Korean table, and a syllable
that the table lacks is spelt out by a filler and three of its letters; in the second, the lacking
syllables have places of their own, in the order of their code points.

## Main definitions

* `Encoding`, `Encoding.decode?` — encodings and what bytes mean in them.
* `Encoding.named?` — the encoding with a given name.
* `decodeSource` — the text of a file whose encoding is not known.

## Main results

* `decodeSource_toByteArray` — a text that is stored in UTF-8 is read back.
-/

namespace JavaTree

/-- An encoding of characters. -/
inductive Encoding
  | utf8
  | ascii
  | latin
  | western
  | korean
  | koreanExtended
  deriving Repr, DecidableEq

namespace Korean

/-- The character of two bytes in the table. -/
def charOfBytes? (a b : UInt8) : Option Char :=
  if 0xA1 ≤ a && 0xA1 ≤ b then charAt? (a.toNat - 0xA1) (b.toNat - 0xA1) else none

/-- The letter that begins a spelt syllable, by the order of syllables. -/
def initials : List Char := "ㄱㄲㄴㄷㄸㄹㅁㅂㅃㅅㅆㅇㅈㅉㅊㅋㅌㅍㅎ".toList

/-- The letters in the middle of syllables. -/
def vowels : List Char := "ㅏㅐㅑㅒㅓㅔㅕㅖㅗㅘㅙㅚㅛㅜㅝㅞㅟㅠㅡㅢㅣ".toList

/-- The mark that starts a spelt syllable, and that stands for an empty end. -/
def filler : Char := 'ㅤ'

/-- The letters that end syllables, the empty end first. -/
def finals : List Char := filler :: "ㄱㄲㄳㄴㄵㄶㄷㄹㄺㄻㄼㄽㄾㄿㅀㅁㅂㅄㅅㅆㅇㅈㅊㅋㅌㅍㅎ".toList

/-- The syllable that three letters spell. -/
def syllable? (initial vowel final : Char) : Option Char := do
  let i ← initials.idxOf? initial
  let v ← vowels.idxOf? vowel
  let f ← finals.idxOf? final
  pure (Char.ofNat (0xAC00 + (i * 21 + v) * 28 + f))

/-- Whether the table holds a syllable, by the number of the syllable. -/
def listed : Array Bool :=
  places.foldl (fun marks row => row.foldl (fun marks c =>
    if 0xAC00 ≤ c.toNat && c.toNat ≤ 0xD7A3 then marks.set! (c.toNat - 0xAC00) true else marks)
    marks) (Array.replicate 11172 false)

/-- The syllables that the table lacks. -/
def unlisted : Array Char :=
  (Array.range 11172).filterMap fun i =>
    if listed.getD i false then none else some (Char.ofNat (0xAC00 + i))

/-- The number of a second byte among those that an unlisted syllable can have. -/
def tailNumber? (b : UInt8) : Option Nat :=
  let n := b.toNat
  if 0x41 ≤ n && n ≤ 0x5A then some (n - 0x41)
  else if 0x61 ≤ n && n ≤ 0x7A then some (n - 0x61 + 26)
  else if 0x81 ≤ n && n ≤ 0xFE then some (n - 0x81 + 52)
  else none

/-- The unlisted syllable of two bytes.  Where the first byte is one of the table, the second is
smaller than those of the table. -/
def unlistedOfBytes? (a b : UInt8) : Option Char := do
  let t ← tailNumber? b
  let n := a.toNat
  if 0x81 ≤ n && n ≤ 0xA0 then unlisted[(n - 0x81) * 178 + t]?
  else if 0xA1 ≤ n && n ≤ 0xC6 && t < 84 then unlisted[32 * 178 + (n - 0xA1) * 84 + t]?
  else none

/-- Decodes bytes with spelt syllables; `read` holds the characters read so far, the last one
first. -/
def decodeSpelt (read : List Char) : List UInt8 → Option (List Char)
  | [] => some read.reverse
  | a :: bs =>
    if a < 0x80 then decodeSpelt (Char.ofUInt8 a :: read) bs
    else
      match bs with
      | 0xD4 :: cs =>
        if a == 0xA4 then
          match cs with
          | 0xA4 :: i :: 0xA4 :: v :: 0xA4 :: f :: rest =>
            match charOfBytes? 0xA4 i, charOfBytes? 0xA4 v, charOfBytes? 0xA4 f with
            | some i, some v, some f =>
              match syllable? i v f with
              | some c => decodeSpelt (c :: read) rest
              | none => none
            | _, _, _ => none
          | _ => none
        else
          match charOfBytes? a 0xD4 with
          | some c => decodeSpelt (c :: read) cs
          | none => none
      | b :: rest =>
        match charOfBytes? a b with
        | some c => decodeSpelt (c :: read) rest
        | none => none
      | [] => none

/-- Decodes bytes with places for all syllables; `read` is as above. -/
def decodeExtended (read : List Char) : List UInt8 → Option (List Char)
  | [] => some read.reverse
  | a :: bs =>
    if a < 0x80 then decodeExtended (Char.ofUInt8 a :: read) bs
    else
      match bs with
      | b :: rest =>
        match (charOfBytes? a b).orElse fun _ => unlistedOfBytes? a b with
        | some c => decodeExtended (c :: read) rest
        | none => none
      | [] => none

end Korean

namespace Encoding

/-- The characters of the bytes from 80 to 9F in the Western encoding; the five bytes without a
character are marked by a gap. -/
def westernRow : Array Char :=
  "€\uFFFD‚ƒ„…†‡ˆ‰Š‹Œ\uFFFDŽ\uFFFD\uFFFD‘’“”•–—˜™š›œ\uFFFDžŸ".toList.toArray

/-- The character of a byte in the Western encoding. -/
def westernChar? (b : UInt8) : Option Char :=
  if 0x80 ≤ b && b < 0xA0 then
    match westernRow[b.toNat - 0x80]? with
    | some c => if c == Korean.gap then none else some c
    | none => none
  else some (Char.ofUInt8 b)

/-- The text of which every byte is one character. -/
def decodeBytes (bytes : ByteArray) : String := String.ofList (bytes.toList.map Char.ofUInt8)

/-- The text that bytes stand for, if they stand for one. -/
def decode? (e : Encoding) (bytes : ByteArray) : Option String :=
  match e with
  | utf8 => String.fromUTF8? bytes
  | ascii => if bytes.toList.all (· < 0x80) then some (decodeBytes bytes) else none
  | latin => some (decodeBytes bytes)
  | western => (bytes.toList.mapM westernChar?).map String.ofList
  | korean => (Korean.decodeSpelt [] bytes.toList).map String.ofList
  | koreanExtended => (Korean.decodeExtended [] bytes.toList).map String.ofList

/-- The names of the encodings, in small letters. -/
def names : List (String × Encoding) :=
  [("utf-8", utf8), ("utf8", utf8), ("us-ascii", ascii), ("ascii", ascii), ("iso-8859-1", latin),
    ("iso-latin-1", latin), ("latin1", latin), ("l1", latin), ("windows-1252", western),
    ("cp1252", western), ("euc-kr", korean), ("euckr", korean), ("cp949", koreanExtended),
    ("uhc", koreanExtended)]

/-- The encoding with a name; capital letters do not matter. -/
def named? (name : String) : Option Encoding := names.lookup name.toLower

end Encoding

/-- The text of a source file: the first reading that is possible, in UTF-8, the two Korean
encodings, and one byte per character. -/
def decodeSource (bytes : ByteArray) : String :=
  (([.utf8, .korean, .koreanExtended] : List Encoding).findSome? fun e => e.decode? bytes).getD
    (Encoding.decodeBytes bytes)

/-- The text of a settings file: in UTF-8 if possible, else one byte per character. -/
def decodeSettings (bytes : ByteArray) : String :=
  (String.fromUTF8? bytes).getD (Encoding.decodeBytes bytes)

/-- The bytes of a text in UTF-8 stand for the text. -/
theorem Encoding.decode?_utf8_toByteArray (s : String) :
    Encoding.utf8.decode? s.toByteArray = some s := by
  have h : s.toByteArray.IsValidUTF8 := s.isValidUTF8
  simp only [Encoding.decode?, String.fromUTF8?, h, dite_true]
  rfl

/-- A text that is stored in UTF-8 is read back. -/
theorem decodeSource_toByteArray (s : String) : decodeSource s.toByteArray = s := by
  simp only [decodeSource, List.findSome?, Encoding.decode?_utf8_toByteArray, Option.getD_some]

end JavaTree
