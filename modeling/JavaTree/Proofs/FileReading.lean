import JavaTree.Extraction
import JavaTree.Proofs.Results

/-!
# Files and their texts

A file whose bytes are those of a text in UTF-8 is read as the text, though other encodings are
tried as well when UTF-8 fails.  So what comes of such a file is what comes of the text, but for the
name of the file before the message about a mistake.

## Main definitions

* `sourceEncodings` — the encodings in which a source file is read.
* `ExtractionError.inFile` — an error in a source as an error in a file.

## Main results

* `findSome?_sourceEncodings` — one of the encodings reads the file, whatever it holds.
* `parseFile_eq_mapError` — what comes of a file, by what comes of its text.
* `parseFile_of_text` — a file in UTF-8 and its text, and the reading of any file.
-/

namespace JavaTree

/-! ## Reading -/

/-- The encodings in which a source file is read, the first one that is possible. -/
def sourceEncodings : List Encoding := [.utf8, .korean, .koreanExtended, .latin]

/-- **One of the encodings reads a file**, whatever it holds: in the last one every byte is a
character. -/
theorem findSome?_sourceEncodings (bytes : ByteArray) :
    sourceEncodings.findSome? (fun e => e.decode? bytes) = some (decodeSource bytes) := by
  have hsplit : sourceEncodings = [.utf8, .korean, .koreanExtended] ++ [.latin] := rfl
  rw [hsplit, List.findSome?_append, decodeSource]
  cases ([.utf8, .korean, .koreanExtended] : List Encoding).findSome? fun e => e.decode? bytes
    <;> rfl

section

variable {d : Disk} {path : Path}

/-- The text of a file that is there is its content decoded. -/
lemma readSource_eq {bytes : ByteArray} (h : d.content? path = some bytes) :
    readSource d path = .ok (decodeSource bytes) := by
  rw [readSource, h]

/-- A file in UTF-8 is read as its text. -/
lemma readSource_of_text {source : String} (h : d.content? path = some source.toByteArray) :
    readSource d path = .ok source := by
  rw [readSource_eq h, decodeSource_toByteArray]

end

/-! ## Errors -/

namespace ExtractionError

/-- An error in a source as an error in a file: a mistake is told with the name of the file. -/
def inFile (name : String) : ExtractionError → ExtractionError
  | syntaxMistake _ m => syntaxMistake (some name) m
  | e => e

/-- The message about a mistake in a file is that about the source, after the name of the file. -/
lemma message_inFile (name : String) (m : SyntaxMistake) :
    ((syntaxMistake none m).inFile name).message =
      name ++ ": " ++ (syntaxMistake none m).message := rfl

end ExtractionError

section

variable {d : Disk} {f : NodeFilter} {asked : Asked} {name : String} {path : Path}
  {source : String} {e : ExtractionError}

/-- An element cannot be shown because of its conversion, if at all. -/
lemma exists_of_showElement_eq_error {n : Xml.Node} (h : showElement asked n = .error e) :
    ∃ c, e = .conversion c := by
  obtain ⟨c, -, rfl⟩ := mapError_eq_error_iff.1 h
  exact ⟨c, rfl⟩

/-- What stands in the way of showing a tree is a mistake in its source, or its conversion. -/
lemma cases_of_showTree_eq_error {t : SyntaxTree} (h : showTree f asked t = .error e) :
    (∃ m, e = .syntaxMistake none m) ∨ ∃ c, e = .conversion c := by
  unfold showTree at h
  split at h
  · exact .inr (exists_of_showElement_eq_error h)
  · exact .inl ⟨_, (Except.error.inj h).symm⟩

/-- An element is shown as in a file. -/
lemma showElement_eq_mapError (asked : Asked) (n : Xml.Node) (name : String) :
    (showElement asked n).mapError (.inFile name) = showElement asked n := by
  rw [showElement]
  cases convert n.render asked <;> rfl

/-- The element of a file whose text is read is that of the text, and a mistake in it is reported
with the name of the file. -/
lemma elementOfFile_eq_mapError (hread : readSource d path = .ok source) :
    elementOfFile d f name path =
      (elementOfTree f (Java.parse source)).mapError (.syntaxMistake (some name)) := by
  rw [elementOfFile, hread, Except.bind]

/-- **What comes of a file**, by what comes of the text that is read from it. -/
theorem parseFile_eq_mapError (hread : readSource d path = .ok source) :
    (parseFile d f asked name path).result =
      (parseString f asked source).mapError (.inFile name) := by
  rw [parseFile, elementOfFile_eq_mapError hread, parseString, showTree]
  -- The tree of the source is of no account, and it must not be computed.
  generalize elementOfTree f (Java.parse source) = element
  cases element with
  | ok n => exact (showElement_eq_mapError asked n name).symm
  | error m => rfl

end

/-- **A file in UTF-8 and its text**: the same comes of both, or both fail in the same way, but that
the message about a mistake in the file begins with the name of the file.  Whatever a file holds,
one of the encodings reads it. -/
theorem parseFile_of_text (d : Disk) (f : NodeFilter) (asked : Asked) (name : String) (path : Path)
    (source : String) (hcontent : d.content? path = some source.toByteArray) :
    (∀ out, (parseFile d f asked name path).result = .ok out ↔
      parseString f asked source = .ok out) ∧
    (∀ e, parseString f asked source = .error e →
      (∃ m, e = .syntaxMistake none m ∧
        (parseFile d f asked name path).result = .error (.syntaxMistake (some name) m) ∧
        (ExtractionError.syntaxMistake (some name) m).message = name ++ ": " ++ e.message) ∨
      ((∀ file m, e ≠ .syntaxMistake file m) ∧
        (parseFile d f asked name path).result = .error e)) ∧
    ∀ (other : Path) (bytes : ByteArray), d.content? other = some bytes →
      ∃ text, readSource d other = .ok text ∧
        sourceEncodings.findSome? (fun e => e.decode? bytes) = some text := by
  have hfile : (parseFile d f asked name path).result =
      (parseString f asked source).mapError (.inFile name) :=
    parseFile_eq_mapError (readSource_of_text hcontent)
  refine ⟨fun out => ?_, fun e he => ?_, fun other bytes hbytes => ?_⟩
  · rw [hfile, mapError_eq_ok_iff]
  · rw [hfile, he, mapError_error]
    rcases cases_of_showTree_eq_error he with ⟨m, rfl⟩ | ⟨c, rfl⟩
    · exact .inl ⟨m, rfl, rfl, ExtractionError.message_inFile name m⟩
    · exact .inr ⟨nofun, rfl⟩
  · exact ⟨decodeSource bytes, readSource_eq hbytes, findSome?_sourceEncodings bytes⟩

/-- A source with a byte order mark, letters that are no ASCII, and line ends of two characters. -/
def markedSource : String := "\uFEFF// 한글\r\nclass A {}"

/-- A disk with a file that holds the source, and one with bytes that are no UTF-8. -/
def markedDisk : Disk :=
  ⟨.folder [("A.java", .file markedSource.toByteArray), ("B.java", .file ⟨#[0xFF, 0xC7]⟩)], []⟩

/-- The file is parsed as the source that it holds, and the other file is read, too. -/
theorem parseFile_of_text_markedSource :
    markedDisk.content? ⟨.here, ["A.java"]⟩ = some markedSource.toByteArray ∧
      (∀ out,
        (parseFile markedDisk {} (.inl .json) "./A.java" ⟨.here, ["A.java"]⟩).result = .ok out ↔
          parseString {} (.inl .json) markedSource = .ok out) ∧
      ∃ text, readSource markedDisk ⟨.here, ["B.java"]⟩ = .ok text := by
  have hcontent : markedDisk.content? ⟨.here, ["A.java"]⟩ = some markedSource.toByteArray := rfl
  have hbytes : markedDisk.content? ⟨.here, ["B.java"]⟩ = some ⟨#[0xFF, 0xC7]⟩ := rfl
  obtain ⟨hok, -, hread⟩ := parseFile_of_text markedDisk {} (.inl .json) "./A.java"
    ⟨.here, ["A.java"]⟩ markedSource hcontent
  obtain ⟨text, htext, -⟩ := hread ⟨.here, ["B.java"]⟩ _ hbytes
  exact ⟨hcontent, hok, text, htext⟩

end JavaTree
