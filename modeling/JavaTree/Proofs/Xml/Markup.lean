import Mathlib.Data.List.Chain
import Mathlib.Data.List.TakeWhile
import Mathlib.Tactic.Lemma
import JavaTree.Xml.Token
import JavaTree.Xml.Write

/-!
# Markup is read back as it is written

The parts of a written document that stand between angle brackets: names, attributes with their
values, tags, comments and instructions.  Each reader returns what was written and leaves the
characters after it untouched.

## Main definitions

* `Xml.IsName` — the names without a colon.
* `Xml.Written.Valid` — names with a prefix or without one.
* `Xml.Stops` — what may follow so that a reader of repeated characters ends there.
* `Xml.Unbroken` — the texts in which, and at whose end, a mark of two characters does not occur.

## Main results

* `Xml.readWritten_append` — names.
* `Xml.readValue_append` — attribute values.
* `Xml.readAttributes_append`, `Xml.readTag_append`, `Xml.readClosing_append` — tags.
* `Xml.readComment_append`, `Xml.readInstruction_append` — comments and instructions.
-/

namespace JavaTree.Xml

/-! ## Repeated characters -/

/-- What follows does not begin with a character of the kind. -/
def Stops (p : Char → Bool) (rest : List Char) : Prop := ∀ c ∈ rest.head?, p c = false

/-- Reading stops at the end. -/
lemma stops_nil (p : Char → Bool) : Stops p [] := by
  simp [Stops]

/-- Reading stops at a character that does not pass. -/
lemma stops_cons {p : Char → Bool} {c : Char} {rest : List Char} (h : p c = false) :
    Stops p (c :: rest) := by
  simpa [Stops] using h

/-- The characters that pass are taken up to where reading stops. -/
lemma takeWhile_append_of_stops {p : Char → Bool} {cs rest : List Char} (h : ∀ c ∈ cs, p c = true)
    (hr : Stops p rest) : (cs ++ rest).takeWhile p = cs := by
  rw [List.takeWhile_append_of_pos h]
  cases rest with
  | nil => simp
  | cons c rest =>
    have hc : p c = false := hr c rfl
    rw [List.takeWhile_cons_of_neg (by simp [hc]), List.append_nil]

/-- What is left is what reading stops at. -/
lemma dropWhile_append_of_stops {p : Char → Bool} {cs rest : List Char} (h : ∀ c ∈ cs, p c = true)
    (hr : Stops p rest) : (cs ++ rest).dropWhile p = rest := by
  rw [List.dropWhile_append_of_pos h]
  cases rest with
  | nil => rfl
  | cons c rest =>
    have hc : p c = false := hr c rfl
    rw [List.dropWhile_cons_of_neg (by simp [hc])]

/-- No white space is skipped where there is none. -/
lemma skipSpace_of_stops {cs : List Char} (h : Stops isSpace cs) : skipSpace cs = cs := by
  have hnil : ∀ c ∈ ([] : List Char), isSpace c = true := by simp
  simpa [skipSpace] using dropWhile_append_of_stops hnil h

/-- Of two characters one of which is of a kind and the other is not, neither is the other. -/
lemma ne_of_kind {p : Char → Bool} {c d : Char} (hc : p c = true) (hd : p d = false) : c ≠ d := by
  rintro rfl
  rw [hc] at hd
  cases hd

/-! ## Names -/

/-- Whether a text is a name without a colon. -/
def IsName (s : String) : Prop :=
  ∃ c cs, s.toList = c :: cs ∧ isNameStart c = true ∧ ∀ d ∈ cs, isNameChar d = true

/-- A name without a prefix, or with one. -/
def Written.Valid (w : Written) : Prop := (w.label = "" ∨ IsName w.label) ∧ IsName w.part

/-- A name with its prefix as characters. -/
def Written.chars (w : Written) : List Char :=
  if w.label = "" then w.part.toList else w.label.toList ++ ':' :: w.part.toList

/-- The characters that can occur in a name with a prefix. -/
def isColonNameChar (c : Char) : Bool := isNameChar c || c == ':'

/-- Characters of markup that end a name. -/
def separators : List Char := [' ', '\t', '\n', '\r', '>', '/', '!', '?', '=', ';', '#']

/-- No separator can stand in a part of a name, nor can a colon. -/
lemma isNameChar_eq_false {c : Char} (h : c ∈ ':' :: separators) : isNameChar c = false := by
  have hall : (':' :: separators).all (fun d => !isNameChar d) = true := by decide +kernel
  simpa using List.all_eq_true.1 hall c h

/-- A name with its prefix stops at a separator. -/
lemma stops_separator {c : Char} (h : c ∈ separators) (rest : List Char) :
    Stops isColonNameChar (c :: rest) := by
  have hname := isNameChar_eq_false (List.mem_cons_of_mem _ h)
  have hcolon : (c == ':') = false := by
    rw [beq_eq_false_iff_ne]
    rintro rfl
    exact absurd h (by decide)
  exact stops_cons (by rw [isColonNameChar, hname, hcolon]; rfl)

/-- No name starts with a character that ends names. -/
lemma ne_separator {c d : Char} (hc : isNameStart c = true) (hd : d ∈ separators) : c ≠ d := by
  have hname : isNameChar c = true := by
    rw [isNameChar, show nameStart.contains c = true from hc, Bool.true_or]
  exact ne_of_kind hname (isNameChar_eq_false (List.mem_cons_of_mem _ hd))

/-- Whether a text is a name without a colon, as a test. -/
def isName (s : String) : Bool :=
  match s.toList with
  | [] => false
  | c :: cs => isNameStart c && cs.all isNameChar

/-- The check of names finds out whether a text is one. -/
lemma isName_iff {s : String} : isName s = true ↔ IsName s := by
  unfold isName IsName
  cases s.toList with
  | nil => simp
  | cons c cs => simp

instance (s : String) : Decidable (IsName s) := decidable_of_iff (isName s = true) isName_iff

/-- A name is not empty. -/
lemma IsName.ne_empty {s : String} (h : IsName s) : s ≠ "" := by
  rintro rfl
  obtain ⟨c, cs, he, -⟩ := h
  simp at he

/-- A name is written with its prefix, as it is in a tag. -/
lemma Name.written_toList (n : Name) : n.written.toList = (⟨n.label, n.part⟩ : Written).chars := by
  unfold Name.written Written.chars
  by_cases h : n.label = "" <;> simp [h]

/-- No name begins with white space. -/
lemma isSpace_of_isNameStart {c : Char} (h : isNameStart c = true) : isSpace c = false := by
  have hspace : c ≠ ' ' := ne_separator h (by decide)
  have htab : c ≠ '\t' := ne_separator h (by decide)
  have hlf : c ≠ '\n' := ne_separator h (by decide)
  have hcr : c ≠ '\r' := ne_separator h (by decide)
  simp [isSpace, hspace, htab, hlf, hcr]

/-- A name starts with a character that starts names. -/
lemma Written.Valid.chars_eq {w : Written} (h : w.Valid) :
    ∃ c cs, w.chars = c :: cs ∧ isNameStart c = true := by
  obtain ⟨hl, c, cs, hp, hc, -⟩ := h
  unfold Written.chars
  split
  · exact ⟨c, cs, hp, hc⟩
  · rename_i hne
    obtain ⟨d, ds, hd, hds, -⟩ := hl.resolve_left hne
    exact ⟨d, ds ++ ':' :: w.part.toList, by rw [hd]; rfl, hds⟩

/-- A name is read up to where it stops. -/
lemma readName_append {s : String} {rest : List Char} (h : IsName s) (hr : Stops isNameChar rest) :
    readName (s.toList ++ rest) = some (s, rest) := by
  obtain ⟨c, cs, he, hc, hcs⟩ := h
  rw [he, List.cons_append, readName, if_pos hc, takeWhile_append_of_stops hcs hr,
    dropWhile_append_of_stops hcs hr, ← he, String.ofList_toList]

/-- Where a name with a prefix stops, a part of it does too. -/
lemma Stops.isNameChar {rest : List Char} (h : Stops isColonNameChar rest) :
    Stops isNameChar rest := by
  intro c hc
  have := h c hc
  simp only [isColonNameChar, Bool.or_eq_false_iff] at this
  exact this.1

/-- What stops a name and its prefix is no colon. -/
lemma Stops.ne_colon {rest : List Char} (h : Stops isColonNameChar rest) (more : List Char) :
    rest ≠ ':' :: more := by
  rintro rfl
  have := h ':' rfl
  simp [isColonNameChar] at this

/-- **Names are read back**, whatever follows that does not go on with the name.

**Proof sketch.** By whether there is a prefix: the part is read up to where the name stops, and a
prefix up to the colon before the part. -/
lemma readWritten_append {w : Written} {rest : List Char} (h : w.Valid)
    (hr : Stops isColonNameChar rest) : readWritten (w.chars ++ rest) = some (w, rest) := by
  obtain ⟨label, part⟩ := w
  obtain ⟨hl, hp⟩ := h
  have hpart : readName (part.toList ++ rest) = some (part, rest) :=
    readName_append hp hr.isNameChar
  unfold Written.chars readWritten
  by_cases he : label = ""
  · subst he
    simp only [↓reduceIte, hpart]
    split
    · contradiction
    · rename_i h'
      simp only [Option.some.injEq, Prod.mk.injEq] at h'
      exact absurd h'.2 (hr.ne_colon _)
    · rename_i h'
      cases h'
      rfl
  · have hlabel : readName (label.toList ++ ':' :: (part.toList ++ rest)) =
        some (label, ':' :: (part.toList ++ rest)) :=
      readName_append (hl.resolve_left he)
        (stops_cons (isNameChar_eq_false List.mem_cons_self))
    simp only [if_neg he, List.append_assoc, List.cons_append, hlabel, hpart]
    split
    · contradiction
    · rename_i h'
      simp only [Option.some.injEq, Prod.mk.injEq] at h'
      exact absurd h'.2 (hr.ne_colon _)
    · rename_i h'
      cases h'
      rfl

/-! ## References -/

/-- The name of a character that every document knows stands for that character. -/
lemma readReference_name {s : String} {c : Char} (hs : IsName s) (hc : predefined? s = some c)
    (rest : List Char) : readReference (s.toList ++ ';' :: rest) = some (.char c, rest) := by
  have hn : readName (s.toList ++ ';' :: rest) = some (s, ';' :: rest) :=
    readName_append hs (stops_separator (by decide) rest).isNameChar
  obtain ⟨d, ds, he, hd, -⟩ := hs
  rw [he, List.cons_append] at hn ⊢
  have hsharp : d ≠ '#' := ne_separator hd (by decide)
  simp [readReference, hsharp, hn, hc]

/-- A code in decimal digits stands for the character with that code. -/
lemma readReference_code (digits : List Char) {n : Nat} {c : Char} (hne : digits ≠ [])
    (hd : digits.all (· != ';') = true) (hx : digits.head? ≠ some 'x')
    (hn : readNumber 10 digits = some n) (hc : charOfCode? n = some c) (rest : List Char) :
    readReference ('#' :: digits ++ ';' :: rest) = some (.char c, rest) := by
  obtain ⟨d, ds, rfl⟩ := List.exists_cons_of_ne_nil hne
  have hstop : Stops (· != ';') (';' :: rest) := stops_cons (by simp)
  have htake := takeWhile_append_of_stops (List.all_eq_true.1 hd) hstop
  have hdrop := dropWhile_append_of_stops (List.all_eq_true.1 hd) hstop
  have hdx : d ≠ 'x' := by simpa using hx
  simp only [List.cons_append] at htake hdrop ⊢
  simp [readReference, hdx, readCode, htake, hdrop, hn, hc]

/-- The characters after an ampersand that stand for a character. -/
def StandsFor (body : List Char) (c : Char) : Prop :=
  ∀ rest, readReference (body ++ rest) = some (.char c, rest)

/-- The references that are written have names. -/
lemma isName_of_predefined : ∀ s ∈ ["amp", "lt", "gt", "quot"], IsName s := by decide +kernel

/-- A reference that is written for an ampersand stands for it. -/
lemma standsFor_amp : StandsFor "amp;".toList '&' :=
  readReference_name (isName_of_predefined "amp" (by decide)) rfl

/-- A reference that is written for a less-than sign stands for it. -/
lemma standsFor_lt : StandsFor "lt;".toList '<' :=
  readReference_name (isName_of_predefined "lt" (by decide)) rfl

/-- A reference that is written for a greater-than sign stands for it. -/
lemma standsFor_gt : StandsFor "gt;".toList '>' :=
  readReference_name (isName_of_predefined "gt" (by decide)) rfl

/-- A reference that is written for a double quote stands for it. -/
lemma standsFor_quot : StandsFor "quot;".toList '"' :=
  readReference_name (isName_of_predefined "quot" (by decide)) rfl

/-- A reference that is written for a carriage return stands for it. -/
lemma standsFor_carriageReturn : StandsFor "#13;".toList '\r' :=
  readReference_code ['1', '3'] (by decide) (by decide) (by decide) rfl rfl

/-- A reference that is written for a line feed stands for it. -/
lemma standsFor_lineFeed : StandsFor "#10;".toList '\n' :=
  readReference_code ['1', '0'] (by decide) (by decide) (by decide) rfl rfl

/-- A reference that is written for a tab stands for it. -/
lemma standsFor_tab : StandsFor "#9;".toList '\t' :=
  readReference_code ['9'] (by decide) (by decide) (by decide) rfl rfl

/-- A character of a text is written as it is, or as a reference. -/
lemma escapeTextChar_cases (c : Char) :
    (escapeTextChar c = [c] ∧ c ≠ '&' ∧ c ≠ '<' ∧ c ≠ '>' ∧ c ≠ '\r') ∨
      ∃ body, escapeTextChar c = '&' :: body ∧ StandsFor body c := by
  unfold escapeTextChar
  split
  · exact .inr ⟨_, rfl, standsFor_amp⟩
  · exact .inr ⟨_, rfl, standsFor_lt⟩
  · exact .inr ⟨_, rfl, standsFor_gt⟩
  · exact .inr ⟨_, rfl, standsFor_carriageReturn⟩
  · rename_i hamp hlt hgt hcr
    exact .inl ⟨rfl, hamp, hlt, hgt, hcr⟩

/-- A character of an attribute value is written as it is, or as a reference.

**Proof sketch.** By the characters that have references of their own; among those that have none,
only the blank is white space. -/
lemma escapeValueChar_cases (c : Char) :
    (escapeValueChar c = [c] ∧ c ≠ '&' ∧ c ≠ '<' ∧ (isSpace c = true → c = ' ')) ∨
      ∃ body, escapeValueChar c = '&' :: body ∧ StandsFor body c := by
  unfold escapeValueChar
  split
  · exact .inr ⟨_, rfl, standsFor_amp⟩
  · exact .inr ⟨_, rfl, standsFor_lt⟩
  · exact .inr ⟨_, rfl, standsFor_gt⟩
  · exact .inr ⟨_, rfl, standsFor_quot⟩
  · exact .inr ⟨_, rfl, standsFor_lineFeed⟩
  · exact .inr ⟨_, rfl, standsFor_carriageReturn⟩
  · exact .inr ⟨_, rfl, standsFor_tab⟩
  · rename_i hamp hlt hgt hquot hlf hcr htab
    refine .inl ⟨rfl, hamp, hlt, fun hs => ?_⟩
    simp only [isSpace, Bool.or_eq_true, beq_iff_eq] at hs
    rcases hs with ((hs | hs) | hs) | hs
    · exact hs
    · exact absurd hs htab
    · exact absurd hs hlf
    · exact absurd hs hcr

/-! ## Attributes -/

/-- A written attribute value holds neither the quote that ends it nor a carriage return. -/
lemma ne_of_mem_escapeValue {value : String} {d : Char} (h : d ∈ escapeValue value) :
    d ≠ '"' ∧ d ≠ '\r' := by
  obtain ⟨c, -, hd⟩ := List.mem_flatMap.1 h
  unfold escapeValueChar at hd
  split at hd
  case h_8 hamp hlt hgt hquot hlf hcr htab =>
    rw [List.mem_singleton] at hd
    subst hd
    exact ⟨hquot, hcr⟩
  all_goals
    refine ⟨?_, ?_⟩ <;> rintro rfl <;> exact absurd hd (by decide)

/-- Line ends are left as they are where there is no carriage return. -/
lemma unifyLines_of_not_mem {cs : List Char} (h : '\r' ∉ cs) : unifyLines cs = cs := by
  simp [unifyLines, h]

/-- A reference in an attribute is read as the character that it stands for. -/
lemma attributeChars_go_reference {entities : Entities} {fuel n : Nat} {body rest : List Char}
    {c : Char} (h : readReference body = some (.char c, rest)) :
    attributeChars.go entities fuel ('&' :: body) (n + 1) =
      (attributeChars.go entities fuel rest n).map (c :: ·) := by
  rw [attributeChars.go.eq_def]
  simp [h]

/-- Any other character in an attribute is read as itself, if it is no white space but a blank. -/
lemma attributeChars_go_char {entities : Entities} {fuel n : Nat} {c : Char} {rest : List Char}
    (hamp : c ≠ '&') (hlt : c ≠ '<') (hc : isChar c = true) (hs : isSpace c = true → c = ' ') :
    attributeChars.go entities fuel (c :: rest) (n + 1) =
      (attributeChars.go entities fuel rest n).map (c :: ·) := by
  rw [attributeChars.go.eq_def]
  by_cases h : isSpace c = true
  · obtain rfl := hs h
    simp [isSpace]
  · simp [h, hc]

/-- **Attribute values are read back**, character by character.

**Proof sketch.** Induction on the characters: each of them is read as itself or from its reference,
and takes one of the bound at least. -/
lemma attributeChars_go_escape (entities : Entities) (fuel : Nat) :
    ∀ (value : List Char) (n : Nat), (∀ c ∈ value, isChar c = true) →
      (value.flatMap escapeValueChar).length ≤ n →
      attributeChars.go entities fuel (value.flatMap escapeValueChar) n = some value := by
  intro value
  induction value with
  | nil =>
    intro n _ _
    rw [List.flatMap_nil, attributeChars.go.eq_def]
  | cons c value ih =>
    intro n hv hn
    have hc := hv c List.mem_cons_self
    have hrest : ∀ d ∈ value, isChar d = true := fun d hd => hv d (List.mem_cons_of_mem _ hd)
    rw [List.flatMap_cons] at hn ⊢
    rw [List.length_append] at hn
    rcases escapeValueChar_cases c with ⟨he, hamp, hlt, hs⟩ | ⟨body, he, hbody⟩
    · rw [he, List.length_singleton] at hn
      obtain ⟨m, rfl⟩ : ∃ m, n = m + 1 := ⟨n - 1, by omega⟩
      rw [he, List.singleton_append, attributeChars_go_char hamp hlt hc hs, ih m hrest (by omega)]
      rfl
    · rw [he, List.length_cons] at hn
      obtain ⟨m, rfl⟩ : ∃ m, n = m + 1 := ⟨n - 1, by omega⟩
      rw [he, List.cons_append, attributeChars_go_reference (hbody _), ih m hrest (by omega)]
      rfl

/-- A written value in quotes is read back. -/
lemma readValue_append {value : String} (h : ∀ c ∈ value.toList, isChar c = true)
    (entities : Entities) (rest : List Char) :
    readValue entities ('"' :: (escapeValue value ++ '"' :: rest)) = some (value, rest) := by
  have hne : ∀ d ∈ escapeValue value, (d != '"') = true := fun d hd => by
    simpa using (ne_of_mem_escapeValue hd).1
  have hcr : '\r' ∉ escapeValue value := fun hd => (ne_of_mem_escapeValue hd).2 rfl
  have hstop : Stops (· != '"') ('"' :: rest) := stops_cons (by simp)
  have hgo := attributeChars_go_escape entities (entities.length + 1) value.toList _ h
    (Nat.le_refl _)
  rw [readValue]
  simp only [beq_self_eq_true, Bool.true_or, ↓reduceIte, takeWhile_append_of_stops hne hstop,
    dropWhile_append_of_stops hne hstop, unifyLines_of_not_mem hcr]
  rw [attributeChars, escapeValue, hgo]
  simp

/-- An attribute as written. -/
def assign (a : Written × String) : List Char :=
  ' ' :: a.1.chars ++ '=' :: '"' :: (escapeValue a.2 ++ ['"'])

/-- An attribute that can be written and read back. -/
def ValidAttribute (a : Written × String) : Prop :=
  a.1.Valid ∧ ∀ c ∈ a.2.toList, isChar c = true

/-- The end of an opening tag. -/
def tagEnd (empty : Bool) : List Char := if empty then ['/', '>'] else ['>']

/-- The name of a tag with its prefix. -/
def Tag.writtenName (t : Tag) : Written := ⟨t.name.label, t.name.part⟩

/-- The attribute that declares the namespace of a prefix. -/
def declaration (label : String) : Written := if label = "" then ⟨"", "xmlns"⟩ else ⟨"xmlns", label⟩

/-- The attributes that stand in a tag, declarations of namespaces among them. -/
def Tag.assignments (t : Tag) : List (Written × String) :=
  t.spaces.map (fun d => (declaration d.1, d.2)) ++
    t.attributes.map fun a => (⟨a.name.label, a.name.part⟩, a.value)

/-- A declared prefix is written as an attribute. -/
lemma writeSpace_eq (d : String × String) : writeSpace d = assign (declaration d.1, d.2) := by
  unfold writeSpace writeAssignment assign declaration Written.chars
  by_cases h : d.1 = ""
  · simp [h]
  · simp [h]

/-- An attribute is written with its name and its escaped value. -/
lemma writeAssignment_eq (n : Name) (value : String) :
    writeAssignment n.written value = assign (⟨n.label, n.part⟩, value) := by
  simp [writeAssignment, assign, Name.written_toList]

/-- A tag is written as its name and its attributes. -/
lemma Tag.write_eq (t : Tag) : t.write = t.writtenName.chars ++ t.assignments.flatMap assign := by
  simp only [Tag.write, Tag.assignments, Tag.writtenName, Name.written_toList, List.flatMap_append,
    List.flatMap_map, List.append_assoc]
  congr 2
  · congr 1
    funext d
    exact writeSpace_eq d
  · congr 1
    funext a
    exact writeAssignment_eq a.name a.value

/-- An attribute that is written is read. -/
lemma readAttribute_append {a : Written × String} (h : ValidAttribute a) (entities : Entities)
    (rest : List Char) :
    readAttribute entities (a.1.chars ++ '=' :: '"' :: (escapeValue a.2 ++ ['"']) ++ rest) =
      some (a, rest) := by
  obtain ⟨w, value⟩ := a
  have hname : readWritten (w.chars ++ '=' :: '"' :: (escapeValue value ++ '"' :: rest)) =
      some (w, '=' :: '"' :: (escapeValue value ++ '"' :: rest)) :=
    readWritten_append h.1 (stops_separator (by decide) _)
  have heq : skipSpace ('=' :: '"' :: (escapeValue value ++ '"' :: rest)) =
      '=' :: '"' :: (escapeValue value ++ '"' :: rest) := skipSpace_of_stops (stops_cons rfl)
  have hquote : skipSpace ('"' :: (escapeValue value ++ '"' :: rest)) =
      '"' :: (escapeValue value ++ '"' :: rest) := skipSpace_of_stops (stops_cons rfl)
  simp only [List.append_assoc, List.cons_append, List.nil_append]
  simp [readAttribute, hname, heq, hquote, readValue_append h.2]

/-- After an attribute there is a blank or the end of the tag. -/
lemma exists_assignments_head (as : List (Written × String)) (empty : Bool) (rest : List Char) :
    ∃ c cs, as.flatMap assign ++ tagEnd empty ++ rest = c :: cs ∧
      (isSpace c || c == '>' || c == '/') = true := by
  cases as with
  | nil => cases empty <;> exact ⟨_, _, rfl, rfl⟩
  | cons a as => exact ⟨' ', _, rfl, rfl⟩

/-- One attribute and then others make all attributes of a tag. -/
lemma readAttributes_cons {entities : Entities} {fuel : Nat} {cs cs' rest rest' : List Char}
    {c d : Char} {a : Written × String} {as : List (Written × String)} {empty : Bool}
    (hskip : skipSpace cs = c :: cs') (hgt : c ≠ '>') (hslash : c ≠ '/')
    (hfirst : readAttribute entities (c :: cs') = some (a, d :: rest))
    (hd : (isSpace d || d == '>' || d == '/') = true)
    (hothers : readAttributes entities fuel (d :: rest) = some (as, empty, rest')) :
    readAttributes entities (fuel + 1) cs = some (a :: as, empty, rest') := by
  have hd' : (isSpace d = true ∨ d = '>') ∨ d = '/' := by simpa using hd
  rw [readAttributes, hskip]
  simp [hgt, hslash, hfirst, hd', hothers]

/-- **Attributes are read back** up to the end of the tag.

**Proof sketch.** Induction on the attributes. Each begins with a blank, which is skipped; its name
does not begin as the end of a tag does; and what follows its closing quote is a blank or the end.
-/
lemma readAttributes_append (entities : Entities) (empty : Bool) (rest : List Char) :
    ∀ (as : List (Written × String)) (fuel : Nat), (∀ a ∈ as, ValidAttribute a) →
      as.length < fuel →
      readAttributes entities fuel (as.flatMap assign ++ tagEnd empty ++ rest) =
        some (as, empty, rest) := by
  intro as
  induction as with
  | nil =>
    intro fuel _ hf
    obtain ⟨n, rfl⟩ : ∃ n, fuel = n + 1 := ⟨fuel - 1, by simp at hf; omega⟩
    cases empty <;> rfl
  | cons a as ih =>
    intro fuel has hf
    obtain ⟨n, rfl⟩ : ∃ n, fuel = n + 1 := ⟨fuel - 1, by omega⟩
    have ha := has a List.mem_cons_self
    have hrest := ih n (fun b hb => has b (List.mem_cons_of_mem _ hb)) (by simp at hf; omega)
    obtain ⟨c, cs, hname, hc⟩ := ha.1.chars_eq
    have hread := readAttribute_append ha entities (as.flatMap assign ++ tagEnd empty ++ rest)
    obtain ⟨d, ds, hd, hend⟩ := exists_assignments_head as empty rest
    have hskip : skipSpace ((a :: as).flatMap assign ++ tagEnd empty ++ rest) =
        a.1.chars ++ '=' :: '"' :: (escapeValue a.2 ++ ['"']) ++
          (as.flatMap assign ++ tagEnd empty ++ rest) := by
      have hstart : Stops isSpace (a.1.chars ++ '=' :: '"' :: (escapeValue a.2 ++ ['"']) ++
          (as.flatMap assign ++ tagEnd empty ++ rest)) := by
        rw [hname]
        exact stops_cons (isSpace_of_isNameStart hc)
      rw [← skipSpace_of_stops hstart]
      simp [assign, skipSpace, isSpace]
    rw [hname, List.cons_append, List.cons_append] at hskip
    rw [hname, List.cons_append, List.cons_append, hd] at hread
    rw [hd] at hrest
    exact readAttributes_cons hskip (ne_separator hc (by decide)) (ne_separator hc (by decide))
      (hd ▸ hread) hend hrest

/-! ## Tags, comments, instructions -/

/-- Every attribute takes a character at least. -/
lemma length_le_length_assignments (as : List (Written × String)) :
    as.length ≤ (as.flatMap assign).length := by
  induction as with
  | nil => simp
  | cons a as ih =>
    simp only [List.flatMap_cons, List.length_append, List.length_cons, assign]
    omega

/-- **Opening tags are read back.** -/
lemma readTag_append {w : Written} {as : List (Written × String)} (hw : w.Valid)
    (has : ∀ a ∈ as, ValidAttribute a) (entities : Entities) (empty : Bool) (rest : List Char) :
    readTag entities (w.chars ++ (as.flatMap assign ++ tagEnd empty ++ rest)) =
      some (.opening w as empty, rest) := by
  obtain ⟨d, ds, hd, hend⟩ := exists_assignments_head as empty rest
  have hstop : Stops isColonNameChar (as.flatMap assign ++ tagEnd empty ++ rest) := by
    rw [hd]
    refine stops_separator ?_ ds
    simp only [isSpace, Bool.or_eq_true, beq_iff_eq] at hend
    rcases hend with ((((rfl | rfl) | rfl) | rfl) | rfl) | rfl <;> decide
  have hname := readWritten_append hw hstop
  have hlen := length_le_length_assignments as
  have hattributes := readAttributes_append entities empty rest as
    ((w.chars ++ (as.flatMap assign ++ tagEnd empty ++ rest)).length + 1) has
    (by simp only [List.length_append]; omega)
  simp only [readTag, hname, hattributes, Option.bind_eq_bind, Option.bind_some, Option.pure_def]

/-- **Closing tags are read back.** -/
lemma readClosing_append {w : Written} (hw : w.Valid) (rest : List Char) :
    readClosing (w.chars ++ '>' :: rest) = some (.closing w, rest) := by
  have hname : readWritten (w.chars ++ '>' :: rest) = some (w, '>' :: rest) :=
    readWritten_append hw (stops_separator (by decide) rest)
  have hgt : skipSpace ('>' :: rest) = '>' :: rest := skipSpace_of_stops (stops_cons rfl)
  simp [readClosing, hname, hgt]

/-- The text does not hold the mark of two characters, not even across its own end. -/
def Unbroken (a b : Char) (cs : List Char) : Prop :=
  (cs ++ [a]).IsChain fun c d => ¬ (c = a ∧ d = b)

/-- A text that does not hold the mark has no tail that does. -/
lemma Unbroken.tail {a b c : Char} {cs : List Char} (h : Unbroken a b (c :: cs)) :
    Unbroken a b cs := by
  unfold Unbroken at h ⊢
  rw [List.cons_append] at h
  exact h.tail

/-- The mark is not read where a text begins that does not hold it. -/
lemma Unbroken.readText {a b c : Char} {cs rest : List Char} (h : Unbroken a b (c :: cs)) :
    readText [a, b] (c :: (cs ++ a :: rest)) = none := by
  unfold Unbroken at h
  cases cs with
  | nil =>
    rw [List.singleton_append, List.isChain_pair] at h
    by_cases hac : a = c <;> by_cases hba : b = a <;> simp_all [Xml.readText]
  | cons d cs =>
    rw [List.cons_append, List.cons_append, List.isChain_cons_cons] at h
    by_cases hac : a = c <;> by_cases hbd : b = d <;> simp_all [Xml.readText]

/-- A text that does not hold the mark is read up to the mark. -/
lemma readUntil_append {a b : Char} (rest : List Char) :
    ∀ cs, Unbroken a b cs → readUntil [a, b] (cs ++ a :: b :: rest) = some (cs, rest) := by
  intro cs
  induction cs with
  | nil =>
    intro _
    simp [readUntil, readText]
  | cons c cs ih =>
    intro h
    rw [List.cons_append, readUntil, h.readText, ih h.tail]
    rfl

/-- The texts that can be written in a comment: two hyphens would end it. -/
def IsComment (s : String) : Prop :=
  Unbroken '-' '-' s.toList ∧ (∀ c ∈ s.toList, isChar c = true) ∧ '\r' ∉ s.toList

/-- The names that can be written as the target of an instruction. -/
def IsTarget (s : String) : Prop := IsName s ∧ s.toLower ≠ "xml"

/-- The texts that can be written in an instruction: blanks before them would be lost. -/
def IsInstruction (s : String) : Prop :=
  Stops isSpace s.toList ∧ Unbroken '?' '>' s.toList ∧ (∀ c ∈ s.toList, isChar c = true) ∧
    '\r' ∉ s.toList

/-- **Comments are read back.** -/
lemma readComment_append {s : String} (h : IsComment s) (rest : List Char) :
    readComment (s.toList ++ '-' :: '-' :: '>' :: rest) = some (.comment s, rest) := by
  obtain ⟨hfree, hchars, hcr⟩ := h
  rw [readComment, readUntil_append ('>' :: rest) s.toList hfree]
  simp only [Option.bind_eq_bind, Option.bind_some]
  rw [if_pos (List.all_eq_true.2 hchars), unifyLines_of_not_mem hcr, String.ofList_toList]
  rfl

/-- An instruction without its opening bracket as written. -/
def instructionChars (target : String) (text : Option String) : List Char :=
  target.toList ++ (match text with | none => [] | some t => ' ' :: t.toList) ++ ['?', '>']

/-- **Instructions are read back.**

**Proof sketch.** The target is read up to the mark or the blank behind it. The blank is skipped,
since the text does not begin with white space, and the text is read up to the mark, which is not in
it. -/
lemma readInstruction_append {target : String} {text : Option String} (ht : IsTarget target)
    (h : ∀ s ∈ text, IsInstruction s) (rest : List Char) :
    readInstruction (instructionChars target text ++ rest) =
      some (.instruction target text, rest) := by
  obtain ⟨hname, hxml⟩ := ht
  cases text with
  | none =>
    have hread : readName (target.toList ++ '?' :: '>' :: rest) =
        some (target, '?' :: '>' :: rest) :=
      readName_append hname (stops_separator (by decide) _).isNameChar
    simp [readInstruction, instructionChars, hread, hxml]
  | some s =>
    obtain ⟨hstart, hfree, hchars, hcr⟩ := h s rfl
    have hread : readName (target.toList ++ ' ' :: (s.toList ++ '?' :: '>' :: rest)) =
        some (target, ' ' :: (s.toList ++ '?' :: '>' :: rest)) :=
      readName_append hname (stops_separator (by decide) _).isNameChar
    have hskip : skipSpace (' ' :: (s.toList ++ '?' :: '>' :: rest)) =
        s.toList ++ '?' :: '>' :: rest := by
      have hblank : ∀ c ∈ [' '], isSpace c = true := by simp [isSpace]
      refine dropWhile_append_of_stops hblank ?_
      cases hs : s.toList with
      | nil => exact stops_cons rfl
      | cons c cs =>
        rw [hs] at hstart
        exact stops_cons (hstart c rfl)
    have hwritten : instructionChars target (some s) ++ rest =
        target.toList ++ ' ' :: (s.toList ++ '?' :: '>' :: rest) := by
      simp [instructionChars]
    rw [hwritten, readInstruction, hread]
    simp only [Option.bind_eq_bind, Option.bind_some, beq_iff_eq, hxml, ↓reduceIte, hskip,
      readUntil_append rest s.toList hfree]
    have hall : s.toList.all isChar = true := List.all_eq_true.2 hchars
    have hblank : isSpace ' ' = true := rfl
    split
    · rename_i he
      cases he
    · rename_i he
      cases he
      rw [if_pos hblank, if_pos hall, unifyLines_of_not_mem hcr, String.ofList_toList]
      rfl
    · rename_i he
      cases he

end JavaTree.Xml
