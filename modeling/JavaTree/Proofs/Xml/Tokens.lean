import Mathlib.Data.Char
import JavaTree.Proofs.Xml.Markup
import JavaTree.Xml.Document

/-!
# Tokens hold what documents can hold

Whatever is read as a token can be written again: names are names, texts and attribute values are
made of the characters that a document can hold, and comments and instructions do not hold the mark
that ends them.  This is so for the values that a document type declares, too.

## Main definitions

* `Xml.Token.Valid`, `Xml.Token.Own` — tokens that can be written, and those among them that are of
  the document itself.
* `Xml.Declared.Valid` — document types all of whose values can be written.

## Main results

* `Xml.valid_of_tokens?` — the tokens of a document can be written.
* `Xml.own_of_tokens?` — where no names are declared, they are all of the document itself.
* `Xml.valid_of_readProlog` — so can the values that its document type declares.
-/

namespace JavaTree.Xml

/-! ## Line ends -/

/-- What has been read is not touched again when line ends are unified. -/
lemma exists_unifyFrom_eq (read cs : List Char) :
    ∃ ds, unifyFrom read cs = read.reverse ++ ds := by
  fun_induction unifyFrom read cs with
  | case1 read => exact ⟨[], by simp⟩
  | case2 read cs ih =>
    obtain ⟨ds, hds⟩ := ih
    exact ⟨'\n' :: ds, by rw [hds]; simp⟩
  | case3 read cs _ ih =>
    obtain ⟨ds, hds⟩ := ih
    exact ⟨'\n' :: ds, by rw [hds]; simp⟩
  | case4 read c cs _ _ ih =>
    obtain ⟨ds, hds⟩ := ih
    exact ⟨c :: ds, by rw [hds]; simp⟩

/-- Apart from line feeds, only characters of the text are left, and no carriage return.

**Proof sketch.** Induction along the text; a line end becomes a line feed, and any other character
is kept. -/
lemma mem_unifyFrom {read cs : List Char} {c : Char} (h : c ∈ unifyFrom read cs) :
    c ∈ read ∨ c = '\n' ∨ (c ∈ cs ∧ c ≠ '\r') := by
  fun_induction unifyFrom read cs with
  | case1 read => exact .inl (List.mem_reverse.1 h)
  | case2 read cs ih =>
    rcases ih h with h | h | h
    · rcases List.mem_cons.1 h with rfl | h
      · exact .inr (.inl rfl)
      · exact .inl h
    · exact .inr (.inl h)
    · exact .inr (.inr ⟨by simp [h.1], h.2⟩)
  | case3 read cs _ ih =>
    rcases ih h with h | h | h
    · rcases List.mem_cons.1 h with rfl | h
      · exact .inr (.inl rfl)
      · exact .inl h
    · exact .inr (.inl h)
    · exact .inr (.inr ⟨by simp [h.1], h.2⟩)
  | case4 read d cs _ hd ih =>
    rcases ih h with h | h | h
    · rcases List.mem_cons.1 h with rfl | h
      · exact .inr (.inr ⟨List.mem_cons_self, hd⟩)
      · exact .inl h
    · exact .inr (.inl h)
    · exact .inr (.inr ⟨by simp [h.1], h.2⟩)

/-- Unified line ends add no character but line feeds, and leave no carriage return. -/
lemma mem_unifyLines {cs : List Char} {c : Char} (h : c ∈ unifyLines cs) :
    c = '\n' ∨ (c ∈ cs ∧ c ≠ '\r') := by
  unfold unifyLines at h
  split at h
  · simpa using mem_unifyFrom h
  · rename_i hcr
    refine .inr ⟨h, ?_⟩
    rintro rfl
    simp [h] at hcr

/-- Unified line ends are made of characters that a document can hold. -/
lemma isChar_of_mem_unifyLines {cs : List Char} (h : ∀ c ∈ cs, isChar c = true) :
    ∀ c ∈ unifyLines cs, isChar c = true := by
  intro c hc
  rcases mem_unifyLines hc with rfl | ⟨hc, -⟩
  · decide
  · exact h c hc

/-- No carriage return is left when line ends are unified. -/
lemma not_mem_unifyLines (cs : List Char) : '\r' ∉ unifyLines cs := by
  intro h
  rcases mem_unifyLines h with h | ⟨-, h⟩
  · exact absurd h (by decide)
  · exact h rfl

/-- What does not begin with a blank does not do so after line ends are unified. -/
lemma Stops.unifyLines {cs : List Char} (h : Stops isSpace cs) : Stops isSpace (unifyLines cs) := by
  unfold Xml.unifyLines
  split
  · cases cs with
    | nil => exact stops_nil isSpace
    | cons c cs =>
      have hc : isSpace c = false := h c rfl
      have hcr : c ≠ '\r' := fun hcr => by subst hcr; cases hc
      obtain ⟨ds, hds⟩ := exists_unifyFrom_eq [c] cs
      rw [unifyFrom.eq_4 _ _ _ (fun _ h => absurd h hcr) hcr, hds]
      exact stops_cons hc
  · exact h

/-- A line feed breaks every mark of two other characters. -/
lemma isChain_lineFeed {a b : Char} (ha : a ≠ '\n') (hb : b ≠ '\n') {l m : List Char}
    (hl : l.IsChain fun c d => ¬ (c = a ∧ d = b)) (hm : m.IsChain fun c d => ¬ (c = a ∧ d = b)) :
    (l ++ '\n' :: m).IsChain fun c d => ¬ (c = a ∧ d = b) := by
  rw [List.isChain_append]
  refine ⟨hl, ?_, ?_⟩
  · rw [List.isChain_cons]
    exact ⟨fun _ _ h => ha h.1.symm, hm⟩
  · rintro x _ y hy ⟨-, rfl⟩
    simp only [List.head?_cons, Option.mem_def, Option.some.injEq] at hy
    exact hb hy.symm

/-- Unified line ends make no mark out of two characters that are no line feeds.

**Proof sketch.** Induction along the text: a line end is replaced by a line feed, which begins and
ends no mark. -/
lemma Unbroken.unifyLines {a b : Char} (ha : a ≠ '\n') (hb : b ≠ '\n') {cs : List Char}
    (h : Unbroken a b cs) : Unbroken a b (unifyLines cs) := by
  have key : ∀ read cs : List Char,
      (read.reverse ++ (cs ++ [a])).IsChain (fun c d => ¬ (c = a ∧ d = b)) →
      (unifyFrom read cs ++ [a]).IsChain fun c d => ¬ (c = a ∧ d = b) := by
    intro read cs h
    fun_induction unifyFrom read cs with
    | case1 read => exact h
    | case2 read cs ih =>
      refine ih ?_
      have h' := List.isChain_append.1 h
      have := isChain_lineFeed ha hb h'.1 h'.2.1.tail.tail
      simpa using this
    | case3 read cs _ ih =>
      refine ih ?_
      have h' := List.isChain_append.1 h
      have := isChain_lineFeed ha hb h'.1 h'.2.1.tail
      simpa using this
    | case4 read c cs _ _ ih =>
      refine ih ?_
      simpa using h
  unfold Xml.unifyLines
  split
  · exact key [] cs h
  · exact h

/-! ## Names and references -/

/-- A name that is read is one. -/
lemma isName_of_readName {cs rest : List Char} {s : String} (h : readName cs = some (s, rest)) :
    IsName s := by
  cases cs with
  | nil => cases h
  | cons c cs =>
    rw [readName] at h
    split at h
    · rename_i hc
      cases h
      exact ⟨c, cs.takeWhile isNameChar, String.toList_ofList, hc, fun d hd =>
        List.all_eq_true.1 List.all_takeWhile d hd⟩
    · cases h

/-- A name with a prefix that is read is valid. -/
lemma valid_of_readWritten {cs rest : List Char} {w : Written}
    (h : readWritten cs = some (w, rest)) : w.Valid := by
  unfold readWritten at h
  split at h
  · cases h
  · rename_i hlabel
    split at h
    · cases h
    · cases h
    · rename_i hpart
      cases h
      exact ⟨.inr (isName_of_readName hlabel), isName_of_readName hpart⟩
  · rename_i hpart
    cases h
    exact ⟨.inl rfl, isName_of_readName hpart⟩

/-- The character with a code is one that a document can hold. -/
lemma isChar_of_charOfCode? {n : Nat} {c : Char} (h : charOfCode? n = some c) :
    isChar c = true := by
  by_cases hn : n.isValidChar
  · rw [charOfCode?, dif_pos hn] at h
    obtain ⟨hc, he⟩ := Option.ite_none_right_eq_some.1 h
    cases he
    exact hc
  · rw [charOfCode?, dif_neg hn] at h
    cases h

/-- A character with a predefined name is one that a document can hold. -/
lemma isChar_of_predefined? {s : String} {c : Char} (h : predefined? s = some c) :
    isChar c = true := by
  unfold predefined? at h
  split at h <;> cases h <;> decide

/-- A character that is read by its code is one that a document can hold. -/
lemma isChar_of_readCode {base : Nat} {cs rest : List Char} {c : Char}
    (h : readCode base cs = some (.char c, rest)) : isChar c = true := by
  unfold readCode at h
  split at h
  · cases h
  · simp only [Option.bind_eq_bind, Option.bind_eq_some_iff] at h
    obtain ⟨n, -, d, hd, he⟩ := h
    cases he
    exact isChar_of_charOfCode? hd
  · cases h

/-- A reference stands for a character that a document can hold. -/
lemma isChar_of_readReference {cs rest : List Char} {c : Char}
    (h : readReference cs = some (.char c, rest)) : isChar c = true := by
  unfold readReference at h
  split at h
  · exact isChar_of_readCode h
  · exact isChar_of_readCode h
  · split at h
    · split at h
      · rename_i hc
        cases h
        exact isChar_of_predefined? hc
      · cases h
    · cases h

/-! ## Attributes -/

/-- All characters of a list can stand in a document. -/
def AllChars (cs : List Char) : Prop := ∀ c ∈ cs, isChar c = true

/-- There is no other character in the empty list. -/
lemma AllChars.nil : AllChars [] := by
  intro c hc
  cases hc

/-- A character that a document can hold comes before others. -/
lemma AllChars.cons {c : Char} {cs : List Char} (hc : isChar c = true) (h : AllChars cs) :
    AllChars (c :: cs) := by
  intro d hd
  rcases List.mem_cons.1 hd with rfl | hd
  · exact hc
  · exact h d hd

/-- One such character makes such a list. -/
lemma AllChars.singleton {c : Char} (hc : isChar c = true) : AllChars [c] := .cons hc .nil

/-- Two such lists make one. -/
lemma AllChars.append {cs ds : List Char} (h : AllChars cs) (h' : AllChars ds) :
    AllChars (cs ++ ds) := by
  intro c hc
  rcases List.mem_append.1 hc with hc | hc
  · exact h c hc
  · exact h' c hc

/-- One layer of names in an attribute value, if what the names stand for is valid.

**Proof sketch.** Induction on the bound. A reference stands for a character that a document can
hold or for a text of such, white space becomes a blank, and any other character is checked. -/
lemma allChars_attributeChars_go {entities : Entities} {fuel : Nat}
    (hfuel : ∀ cs v, attributeChars entities fuel cs = some v → AllChars v) :
    ∀ (n : Nat) (cs v : List Char), attributeChars.go entities fuel cs n = some v → AllChars v := by
  intro n
  induction n with
  | zero =>
    intro cs v h
    rw [attributeChars.go.eq_def] at h
    cases cs with
    | nil =>
      cases h
      exact .nil
    | cons c cs => cases h
  | succ n ih =>
    intro cs v h
    rw [attributeChars.go.eq_def] at h
    split at h
    · cases h
      exact .nil
    · cases h
    · cases h
    · rename_i hm
      obtain rfl : n = _ := Nat.succ.inj hm
      split at h
      · rename_i hc
        obtain ⟨w, hw, rfl⟩ := Option.map_eq_some_iff.1 h
        exact (ih _ _ hw).cons (isChar_of_readReference hc)
      · simp only [Option.bind_eq_bind, Option.bind_eq_some_iff] at h
        obtain ⟨text, -, inner, hinner, after, hafter, he⟩ := h
        cases he
        exact (hfuel _ _ hinner).append (ih _ _ hafter)
      · cases h
    · rename_i hm
      obtain rfl : n = _ := Nat.succ.inj hm
      split at h
      · obtain ⟨w, hw, rfl⟩ := Option.map_eq_some_iff.1 h
        exact (ih _ _ hw).cons (by decide)
      · split at h
        · rename_i hc
          obtain ⟨w, hw, rfl⟩ := Option.map_eq_some_iff.1 h
          exact (ih _ _ hw).cons hc
        · cases h

/-- **Attribute values hold what documents can hold**, however deep names stand for texts. -/
lemma allChars_attributeChars (entities : Entities) :
    ∀ (fuel : Nat) (cs v : List Char), attributeChars entities fuel cs = some v → AllChars v := by
  intro fuel
  induction fuel with
  | zero =>
    intro cs v h
    rw [attributeChars] at h
    cases h
  | succ fuel ih =>
    intro cs v h
    rw [attributeChars] at h
    exact allChars_attributeChars_go ih _ _ _ h

/-- The value of an attribute is made of characters that a document can hold. -/
lemma allChars_of_readValue {entities : Entities} {cs rest : List Char} {v : String}
    (h : readValue entities cs = some (v, rest)) : AllChars v.toList := by
  unfold readValue at h
  split at h
  · split at h
    · split at h
      · obtain ⟨w, hw, he⟩ := Option.map_eq_some_iff.1 h
        cases he
        rw [String.toList_ofList]
        exact allChars_attributeChars entities _ _ _ hw
      · cases h
    · cases h
  · cases h

/-- An attribute that is read is valid. -/
lemma valid_of_readAttribute {entities : Entities} {cs rest : List Char} {a : Written × String}
    (h : readAttribute entities cs = some (a, rest)) : ValidAttribute a := by
  unfold readAttribute at h
  simp only [Option.bind_eq_bind, Option.bind_eq_some_iff] at h
  obtain ⟨⟨w, mid⟩, hw, h⟩ := h
  split at h
  · simp only [Option.bind_eq_some_iff] at h
    obtain ⟨⟨v, mid'⟩, hv, he⟩ := h
    cases he
    exact ⟨valid_of_readWritten hw, allChars_of_readValue hv⟩
  · cases h

/-- All attributes of a tag that is read are valid.

**Proof sketch.** Induction on the bound: the first attribute is read by itself, and the others
behind white space. -/
lemma valid_of_readAttributes {entities : Entities} :
    ∀ (fuel : Nat) (cs : List Char) (as : List (Written × String)) (empty : Bool)
      (rest : List Char), readAttributes entities fuel cs = some (as, empty, rest) →
      ∀ a ∈ as, ValidAttribute a := by
  intro fuel
  induction fuel with
  | zero =>
    intro cs as empty rest h
    cases h
  | succ fuel ih =>
    intro cs as empty rest h
    rw [readAttributes] at h
    split at h
    · cases h
      exact fun a ha => by cases ha
    · cases h
      exact fun a ha => by cases ha
    · simp only [Option.bind_eq_bind, Option.bind_eq_some_iff] at h
      obtain ⟨⟨first, mid⟩, hfirst, h⟩ := h
      split at h
      · split at h
        · simp only [Option.bind_eq_some_iff] at h
          obtain ⟨⟨others, empty', rest'⟩, hothers, he⟩ := h
          cases he
          intro a ha
          rcases List.mem_cons.1 ha with rfl | ha
          · exact valid_of_readAttribute hfirst
          · exact ih _ _ _ _ hothers a ha
        · cases h
      · cases h

/-! ## Tokens -/

/-- A token that can be written. -/
def Token.Valid : Token → Prop
  | .opening name attributes _ => name.Valid ∧ ∀ a ∈ attributes, ValidAttribute a
  | .closing name => name.Valid
  | .run text _ => AllChars text
  | .chars text => AllChars text
  | .comment text => IsComment text
  | .instruction target text => IsTarget target ∧ ∀ s ∈ text, IsInstruction s
  | .enter => True
  | .leave => True

/-- A token of the document itself that can be written: it does not begin or end what a declared
name stands for. -/
def Token.Own : Token → Prop
  | .enter | .leave => False
  | t => t.Valid

/-- Tokens of the document itself can be written. -/
lemma Token.Own.valid {t : Token} (h : t.Own) : t.Valid := by
  cases t with
  | enter | leave => exact trivial
  | _ => exact h

/-- What is read as an opening tag is a token of the document itself. -/
lemma own_of_readTag {entities : Entities} {cs rest : List Char} {t : Token}
    (h : readTag entities cs = some (t, rest)) : t.Own := by
  simp only [readTag, Option.bind_eq_bind, Option.bind_eq_some_iff] at h
  obtain ⟨⟨w, mid⟩, hw, ⟨as, empty, rest'⟩, has, he⟩ := h
  cases he
  exact ⟨valid_of_readWritten hw, valid_of_readAttributes _ _ _ _ _ has⟩

/-- What is read as a closing tag is a token of the document itself. -/
lemma own_of_readClosing {cs rest : List Char} {t : Token}
    (h : readClosing cs = some (t, rest)) : t.Own := by
  simp only [readClosing, Option.bind_eq_bind, Option.bind_eq_some_iff] at h
  obtain ⟨⟨w, mid⟩, hw, h⟩ := h
  split at h
  · cases h
    exact valid_of_readWritten hw
  · cases h

/-- A text that is read stands at the beginning.

**Proof sketch.** Induction on the text that is read. -/
lemma readText_eq_append :
    ∀ {e cs rest : List Char}, readText e cs = some rest → cs = e ++ rest := by
  intro e
  induction e with
  | nil =>
    intro cs rest h
    cases h
    rfl
  | cons d e ih =>
    intro cs rest h
    cases cs with
    | nil => cases h
    | cons c cs =>
      rw [readText] at h
      split at h
      · rename_i hd
        obtain rfl : d = c := by simpa using hd
        rw [ih h]
        rfl
      · cases h

/-- A text that is read up to a stop stands before it.

**Proof sketch.** Induction on the characters: the stop is found here or later. -/
lemma readUntil_eq_append {stop : List Char} :
    ∀ {cs text rest : List Char}, readUntil stop cs = some (text, rest) →
      cs = text ++ stop ++ rest := by
  intro cs
  induction cs with
  | nil =>
    intro text rest h
    cases h
  | cons c cs ih =>
    intro text rest h
    rw [readUntil] at h
    split at h
    · rename_i hread
      cases h
      exact readText_eq_append hread
    · obtain ⟨⟨before, rest'⟩, hbefore, he⟩ := Option.map_eq_some_iff.1 h
      cases he
      rw [ih hbefore]
      rfl

/-- What is read up to a mark does not hold the mark.

**Proof sketch.** Induction on the characters. If the first one and the next were the mark, the
reader would have stopped there; and what comes next is read up to the mark itself. -/
lemma unbroken_of_readUntil {a b : Char} :
    ∀ {cs text rest : List Char}, readUntil [a, b] cs = some (text, rest) → Unbroken a b text := by
  intro cs
  induction cs with
  | nil =>
    intro text rest h
    cases h
  | cons c cs ih =>
    intro text rest h
    rw [readUntil] at h
    split at h
    · cases h
      exact List.isChain_singleton a
    · rename_i hnone
      obtain ⟨⟨before, rest'⟩, hbefore, he⟩ := Option.map_eq_some_iff.1 h
      cases he
      have hcs := readUntil_eq_append hbefore
      unfold Unbroken
      rw [List.cons_append, List.isChain_cons]
      refine ⟨?_, ih hbefore⟩
      rintro d hd ⟨rfl, rfl⟩
      -- the reader would have stopped here, so it is enough to find the mark in what was read
      refine absurd hnone ?_
      obtain ⟨ds, hds⟩ : ∃ ds, cs = d :: ds := by
        cases before with
        | nil =>
          obtain rfl : c = d := by simpa using hd
          exact ⟨_, hcs⟩
        | cons x xs =>
          obtain rfl : x = d := by simpa using hd
          exact ⟨_, hcs⟩
      rw [hds]
      simp [readText]

/-- What is read as a comment is a token of the document itself. -/
lemma own_of_readComment {cs rest : List Char} {t : Token}
    (h : readComment cs = some (t, rest)) : t.Own := by
  simp only [readComment, Option.bind_eq_bind, Option.bind_eq_some_iff] at h
  obtain ⟨⟨text, mid⟩, htext, h⟩ := h
  split at h
  · split at h
    · rename_i hall
      cases h
      have hall' : AllChars text := List.all_eq_true.1 hall
      simp only [Token.Own, Token.Valid, IsComment, String.toList_ofList]
      exact ⟨(unbroken_of_readUntil htext).unifyLines (by decide) (by decide),
        isChar_of_mem_unifyLines hall', not_mem_unifyLines text⟩
    · cases h
  · cases h

/-- No white space is left when it has been skipped. -/
lemma stops_skipSpace (cs : List Char) : Stops isSpace (skipSpace cs) := by
  intro c hc
  have := List.head?_dropWhile_not isSpace cs
  rw [skipSpace] at hc
  rw [Option.mem_def.1 hc] at this
  simpa using this

/-- Reading that stops in a list stops at the beginning of it. -/
lemma Stops.of_append {p : Char → Bool} {cs ds : List Char} (h : Stops p (cs ++ ds)) :
    Stops p cs := by
  cases cs with
  | nil => exact stops_nil p
  | cons c cs => exact stops_cons (h c rfl)

/-- What is read as an instruction is a token of the document itself.

**Proof sketch.** The target is read as a name and is checked. The text begins behind white space,
is read up to the mark, which is not in it, is checked character by character, and has unified line
ends. -/
lemma own_of_readInstruction {cs rest : List Char} {t : Token}
    (h : readInstruction cs = some (t, rest)) : t.Own := by
  simp only [readInstruction, Option.bind_eq_bind, Option.bind_eq_some_iff] at h
  obtain ⟨⟨target, mid⟩, htarget, h⟩ := h
  split at h
  · cases h
  · rename_i hxml
    have ht : IsTarget target := ⟨isName_of_readName htarget, by simpa using hxml⟩
    split at h
    · cases h
      exact ⟨ht, fun s hs => by cases hs⟩
    · split at h
      · simp only [Option.bind_eq_some_iff] at h
        obtain ⟨⟨text, rest'⟩, htext, h⟩ := h
        split at h
        · rename_i hall
          cases h
          have hall' : AllChars text := List.all_eq_true.1 hall
          have hstart := stops_skipSpace mid
          refine ⟨ht, fun s hs => ?_⟩
          obtain rfl : String.ofList (unifyLines text) = s := Option.some.inj hs
          rw [IsInstruction, String.toList_ofList]
          refine ⟨Stops.unifyLines ?_,
            (unbroken_of_readUntil htext).unifyLines (by decide) (by decide),
            isChar_of_mem_unifyLines hall', not_mem_unifyLines text⟩
          rw [readUntil_eq_append htext, List.append_assoc] at hstart
          exact hstart.of_append
        · cases h
      · cases h
    · cases h

/-- What is read as a section of characters is a token of the document itself. -/
lemma own_of_readSection {cs rest : List Char} {t : Token}
    (h : readSection cs = some (t, rest)) : t.Own := by
  simp only [readSection, Option.bind_eq_bind, Option.bind_eq_some_iff] at h
  obtain ⟨⟨text, mid⟩, -, h⟩ := h
  split at h
  · rename_i hall
    cases h
    exact isChar_of_mem_unifyLines (List.all_eq_true.1 hall)
  · cases h

/-- The pieces of a run are tokens of the document itself: they hold only characters of the run.

**Proof sketch.** Induction along the run: what has been read since the last cut is a run, and what
is behind a carriage return has unified line ends. -/
lemma own_of_mem_pieces (follow : Follow) (piece cs : List Char) (hp : AllChars piece)
    (hcs : AllChars cs) : ∀ t ∈ pieces follow piece cs, t.Own := by
  have htail : ∀ {c : Char} {ds : List Char}, AllChars (c :: ds) → AllChars ds :=
    fun h d hd => h d (List.mem_cons_of_mem _ hd)
  have hlf : isChar '\n' = true := by decide
  have hreverse : ∀ {ds : List Char}, AllChars ds → AllChars ds.reverse :=
    fun h d hd => h d (List.mem_reverse.1 hd)
  -- what has been read since the last cut is a run of its own, unless it is empty
  have hrun : ∀ {ds : List Char} {f : Follow}, AllChars ds →
      ∀ t ∈ (if ds.isEmpty then [] else [Token.run ds.reverse f]), t.Own := by
    intro ds f hds
    split
    · exact List.forall_mem_nil _
    · exact List.forall_mem_singleton.2 (hreverse hds)
  fun_induction pieces follow piece cs with
  | case1 piece _ => exact List.forall_mem_nil _
  | case2 piece _ => exact List.forall_mem_singleton.2 (hreverse hp)
  | case3 piece cs ih =>
    have hrest : AllChars cs := htail (htail hcs)
    refine List.forall_mem_append.2 ⟨hrun hp, ?_⟩
    split
    · exact List.forall_mem_singleton.2 (isChar_of_mem_unifyLines (hrest.cons hlf))
    · exact ih (.singleton hlf) hrest
  | case4 piece c cs _ _ =>
    exact List.forall_mem_append.2
      ⟨hrun hp, List.forall_mem_singleton.2 (isChar_of_mem_unifyLines hcs)⟩
  | case5 piece c cs _ _ ih => exact ih (hp.cons (hcs c List.mem_cons_self)) (htail hcs)

/-- What is read as a run of text are tokens of the document itself. -/
lemma own_of_readRun {cs rest : List Char} {ts : List Token}
    (h : readRun cs = some (ts, rest)) : ∀ t ∈ ts, t.Own := by
  simp only [readRun] at h
  split at h
  · rename_i hall
    cases h
    exact own_of_mem_pieces _ [] _ .nil (List.all_eq_true.1 (Bool.and_eq_true_iff.1 hall).1)
  · cases h

/-- Where one token is read, it is the only one. -/
lemma forall_mem_of_map {p : Token → Prop} {read : Option (Token × List Char)} {ts : List Token}
    {rest : List Char} (h : (read.map fun (t, rest) => ([t], rest)) = some (ts, rest))
    (hp : ∀ t rest, read = some (t, rest) → p t) : ∀ t ∈ ts, p t := by
  obtain ⟨⟨t, rest'⟩, hread, he⟩ := Option.map_eq_some_iff.1 h
  cases he
  exact List.forall_mem_singleton.2 (hp t _ hread)

/-- **What is read at a place** is a token of the document itself, or the pieces of a run, or what a
declared name stands for between two marks.

**Proof sketch.** By the characters that the token begins with, which decide how it is read. -/
lemma forall_mem_of_readToken {entities : Entities} {expand : List Char → Option (List Token)}
    {p : Token → Prop} (hown : ∀ t : Token, t.Own → p t)
    (hexpand : ∀ name text ts, entities.lookup name = some text → expand text = some ts →
      p .enter ∧ (∀ t ∈ ts, p t) ∧ p .leave) {cs rest : List Char}
    {ts : List Token} (h : readToken entities expand cs = some (ts, rest)) : ∀ t ∈ ts, p t := by
  unfold readToken at h
  split at h
  · exact forall_mem_of_map h fun _ _ h => hown _ (own_of_readClosing h)
  · exact forall_mem_of_map h fun _ _ h => hown _ (own_of_readComment h)
  · simp only [Option.bind_eq_bind, Option.bind_eq_some_iff] at h
    obtain ⟨mid, -, h⟩ := h
    exact forall_mem_of_map h fun _ _ h => hown _ (own_of_readSection h)
  · exact forall_mem_of_map h fun _ _ h => hown _ (own_of_readInstruction h)
  · exact forall_mem_of_map h fun _ _ h => hown _ (own_of_readTag h)
  · split at h
    · rename_i hchar
      cases h
      exact List.forall_mem_singleton.2
        (hown _ (AllChars.singleton (isChar_of_readReference hchar)))
    · simp only [Option.bind_eq_bind, Option.bind_eq_some_iff] at h
      obtain ⟨text, htext, us, hus, he⟩ := h
      cases he
      obtain ⟨henter, hall, hleave⟩ := hexpand _ text us htext hus
      exact List.forall_mem_append.2
        ⟨List.forall_mem_cons.2 ⟨henter, hall⟩, List.forall_mem_singleton.2 hleave⟩
    · cases h
  · exact fun t ht => hown t (own_of_readRun h t ht)

/-- What holds of the tokens that are read one at a time holds of all that are read.

**Proof sketch.** Induction on the bound, with what has been read carried along. -/
lemma forall_mem_of_readTokens {entities : Entities} {expand : List Char → Option (List Token)}
    {p : Token → Prop}
    (hp : ∀ cs ts rest, readToken entities expand cs = some (ts, rest) → ∀ t ∈ ts, p t) :
    ∀ (n : Nat) (read : List Token) (cs : List Char) (ts : List Token), (∀ t ∈ read, p t) →
      readTokens entities expand n read cs = some ts → ∀ t ∈ ts, p t := by
  intro n
  induction n with
  | zero =>
    intro read cs ts hread h
    cases cs with
    | nil =>
      rw [readTokens] at h
      cases h
      exact fun t ht => hread t (List.mem_reverse.1 ht)
    | cons c cs => cases h
  | succ n ih =>
    intro read cs ts hread h
    cases cs with
    | nil =>
      rw [readTokens] at h
      cases h
      exact fun t ht => hread t (List.mem_reverse.1 ht)
    | cons c cs =>
      rw [readTokens] at h
      · split at h
        · rename_i us rest hus
          refine ih _ _ _ (fun t ht => ?_) h
          rcases List.mem_append.1 ht with ht | ht
          · exact hp _ _ _ hus t (List.mem_reverse.1 ht)
          · exact hread t ht
        · cases h
      · exact fun hc => by cases hc

/-- **The tokens of a document are valid**, however deep names stand for texts with names.

**Proof sketch.** Induction on the depth. What a declared name stands for is read one level deeper.
-/
theorem valid_of_tokens? {entities : Entities} {cs : List Char} {ts : List Token}
    (h : tokens? entities cs = some ts) : ∀ t ∈ ts, t.Valid := by
  have hreads : ∀ expand : List Char → Option (List Token),
      (∀ text us, expand text = some us → ∀ t ∈ us, t.Valid) → ∀ n cs ts,
        readTokens entities expand n [] cs = some ts → ∀ t ∈ ts, t.Valid := by
    intro expand hexpand n cs ts h
    refine forall_mem_of_readTokens (fun _ _ _ hread => ?_) n [] cs ts (List.forall_mem_nil _) h
    exact forall_mem_of_readToken (fun _ ht => ht.valid)
      (fun _ text us _ hus => ⟨trivial, hexpand text us hus, trivial⟩) hread
  have key : ∀ (fuel : Nat) (cs : List Char) (ts : List Token),
      tokensWithin entities fuel cs = some ts → ∀ t ∈ ts, t.Valid := by
    intro fuel
    induction fuel with
    | zero =>
      intro cs ts h
      exact hreads _ (fun _ _ h => by cases h) _ cs ts h
    | succ fuel ih =>
      intro cs ts h
      refine hreads _ (fun text us hus => ?_) _ cs ts h
      obtain ⟨vs, hvs, hus⟩ := Option.bind_eq_some_iff.1 hus
      split at hus
      · cases hus
        exact ih text _ hvs
      · cases hus
  exact key _ _ _ h

/-- **Where no names are declared**, all tokens are of the document itself. -/
theorem own_of_tokens? {cs : List Char} {ts : List Token} (h : tokens? [] cs = some ts) :
    ∀ t ∈ ts, t.Own :=
  forall_mem_of_readTokens (fun _ _ _ hread => forall_mem_of_readToken (fun _ ht => ht)
    (fun _ _ _ htext => by cases htext) hread) _ [] cs ts (List.forall_mem_nil _) h

/-! ## Declared values -/

/-- The attribute rules hold only values that can be written. -/
def ValidRules (rules : List AttributeRule) : Prop :=
  ∀ r ∈ rules, ∀ v ∈ r.preset, AllChars v.toList

/-- A document type all of whose values for attributes can be written. -/
def Declared.Valid (d : Declared) : Prop := ValidRules d.attributes

/-- Joined blanks are still characters that a document can hold.

**Proof sketch.** Induction on the characters: a blank is kept only once. -/
lemma allChars_joinSpaces {cs : List Char} (h : AllChars cs) : AllChars (joinSpaces cs) := by
  have hspace : isChar ' ' = true := by decide
  induction cs with
  | nil => exact h
  | cons c cs ih =>
    have hcs := ih fun d hd => h d (List.mem_cons_of_mem _ hd)
    rw [joinSpaces]
    split
    · split
      · exact .nil
      · rename_i hjoined
        rw [hjoined] at hcs
        split
        · exact hcs
        · exact hcs.cons hspace
    · exact hcs.cons (h c List.mem_cons_self)

/-- Joined words are still characters that a document can hold. -/
lemma allChars_joinWords {cs : List Char} (h : AllChars cs) : AllChars (joinWords cs) :=
  allChars_joinSpaces fun _ hc => h _ ((List.dropWhile_sublist _).subset hc)

/-- The declaration of a name for a text declares no attributes.

**Proof sketch.** By the ways to declare a name: each of them changes the names and not the
attributes. -/
lemma attributes_of_readEntity {d d' : Declared} {cs rest : List Char}
    (h : readEntity d cs = some (d', rest)) : d'.attributes = d.attributes := by
  simp only [readEntity, Option.bind_eq_bind, Option.bind_eq_some_iff] at h
  obtain ⟨_, -, ⟨parameter, _⟩, -, ⟨name, _⟩, -, _, -, h⟩ := h
  split at h
  · simp only [Option.bind_eq_some_iff] at h
    obtain ⟨_, -, _, -, h⟩ := h
    split at h <;> cases h <;> rfl
  · simp only [Option.bind_eq_some_iff] at h
    obtain ⟨_, -, h⟩ := h
    split at h
    · split at h
      · cases h
      · simp only [Option.bind_eq_some_iff] at h
        obtain ⟨_, -, _, -, _, -, h⟩ := h
        cases h
        rfl
    · simp only [Option.bind_eq_some_iff] at h
      obtain ⟨_, -, h⟩ := h
      cases h
      rfl

/-- The declaration of the content of an element declares no attributes. -/
lemma attributes_of_readElement {d d' : Declared} {cs rest : List Char}
    (h : readElement d cs = some (d', rest)) : d'.attributes = d.attributes := by
  simp only [readElement, Option.bind_eq_bind, Option.bind_eq_some_iff] at h
  obtain ⟨_, -, ⟨name, _⟩, -, _, -, ⟨content, _⟩, -, _, -, h⟩ := h
  split at h
  · split at h <;> cases h <;> rfl
  · cases h
    rfl

/-- A preset value is made of characters that a document can hold. -/
lemma allChars_of_readPreset {d : Declared} {cs rest : List Char} {preset : Option String}
    (h : readPreset d cs = some (preset, rest)) : ∀ v ∈ preset, AllChars v.toList := by
  unfold readPreset at h
  split at h
  · cases h
    exact fun v hv => by cases hv
  · cases h
    exact fun v hv => by cases hv
  · simp only [Option.bind_eq_bind, Option.bind_eq_some_iff] at h
    obtain ⟨_, -, ⟨value, _⟩, hvalue, he⟩ := h
    cases he
    intro v hv
    obtain rfl : value = v := Option.some.inj hv
    exact allChars_of_readValue hvalue

/-- A valid rule is added to valid ones. -/
lemma ValidRules.append_singleton {rules : List AttributeRule} {r : AttributeRule}
    (h : ValidRules rules) (hr : ∀ v ∈ r.preset, AllChars v.toList) :
    ValidRules (rules ++ [r]) := by
  intro r' hr'
  rcases List.mem_append.1 hr' with hr' | hr'
  · exact h r' hr'
  · rw [List.mem_singleton] at hr'
    rwa [hr']

/-- The rules that are read for the attributes of an element are valid.

**Proof sketch.** Induction on the bound. A rule is added with its preset value, or with the words
of it joined, unless one for the attribute is there. -/
lemma valid_of_readAttributeRules {element : String} :
    ∀ (n : Nat) (d : Declared) (cs : List Char) (d' : Declared) (rest : List Char), d.Valid →
      readAttributeRules element n d cs = some (d', rest) → d'.Valid := by
  intro n
  induction n with
  | zero =>
    intro d cs d' rest _ h
    cases h
  | succ n ih =>
    intro d cs d' rest hd h
    rw [readAttributeRules] at h
    split at h
    · cases h
      exact hd
    · simp only [Option.bind_eq_bind, Option.bind_eq_some_iff] at h
      obtain ⟨⟨name, _⟩, -, _, -, ⟨free, _⟩, -, _, -, ⟨preset, _⟩, hpreset, h⟩ := h
      have hvalues := allChars_of_readPreset hpreset
      refine ih _ _ _ _ ?_ h
      split
      · exact hd
      · refine ValidRules.append_singleton hd ?_
        simp only
        split
        · exact hvalues
        · intro v hv
          obtain ⟨w, hw, rfl⟩ := Option.map_eq_some_iff.1 hv
          rw [String.toList_ofList]
          exact allChars_joinWords (hvalues w hw)

/-- Whatever mark is read keeps what is declared valid.

**Proof sketch.** By the mark: only the rules for attributes add to what is declared about them. -/
lemma valid_of_readMark {d d' : Declared} {cs rest : List Char} (hd : d.Valid)
    (h : readMark d cs = some (d', rest)) : d'.Valid := by
  unfold readMark at h
  split at h
  · rw [Declared.Valid, attributes_of_readEntity h]
    exact hd
  · split at h
    · rw [Declared.Valid, attributes_of_readElement h]
      exact hd
    · split at h
      · simp only [Option.bind_eq_bind, Option.bind_eq_some_iff] at h
        obtain ⟨_, -, ⟨element, _⟩, -, h⟩ := h
        exact valid_of_readAttributeRules _ _ _ _ _ hd h
      · simp only [Option.bind_eq_bind, Option.bind_eq_some_iff] at h
        obtain ⟨_, -, _, -, h⟩ := h
        cases h
        exact hd

/-- The marks in a document type keep what is declared valid.

**Proof sketch.** Induction on the bound, by what comes next: the end, a name for marks, white
space, a comment, or a mark. -/
lemma valid_of_readSubset :
    ∀ (n : Nat) (d : Declared) (cs : List Char) (d' : Declared) (rest : List Char), d.Valid →
      readSubset n d cs = some (d', rest) → d'.Valid := by
  intro n
  induction n with
  | zero =>
    intro d cs d' rest _ h
    cases h
  | succ n ih =>
    intro d cs d' rest hd h
    rw [readSubset] at h
    split at h
    · cases h
      exact hd
    · cases h
      exact hd
    · split at h
      · simp only [Option.bind_eq_bind, Option.bind_eq_some_iff] at h
        obtain ⟨text, -, ⟨inner, left⟩, hinner, h⟩ := h
        split at h
        · exact ih _ _ _ _ (ih _ _ _ _ hd hinner) h
        · cases h
      · cases h
    · simp only [Option.bind_eq_bind, Option.bind_eq_some_iff] at h
      obtain ⟨_, -, h⟩ := h
      exact ih _ _ _ _ hd h
    · simp only [Option.bind_eq_bind, Option.bind_eq_some_iff] at h
      obtain ⟨_, -, h⟩ := h
      exact ih _ _ _ _ hd h
    · simp only [Option.bind_eq_bind, Option.bind_eq_some_iff] at h
      obtain ⟨⟨inner, _⟩, hinner, h⟩ := h
      exact ih _ _ _ _ (valid_of_readMark hd hinner) h
    · cases h

/-- What is declared is valid where nothing is. -/
lemma valid_empty : ({} : Declared).Valid := fun r hr => by cases hr

/-- What a document type declares is valid. -/
lemma valid_of_readDoctype {d : Declared} {cs rest : List Char}
    (h : readDoctype cs = some (d, rest)) : d.Valid := by
  simp only [readDoctype, Option.bind_eq_bind, Option.bind_eq_some_iff] at h
  obtain ⟨_, -, ⟨name, _⟩, -, h⟩ := h
  split at h
  · split at h
    · rename_i hsubset
      obtain ⟨_, -, he⟩ := Option.map_eq_some_iff.1 h
      cases he
      exact valid_of_readSubset _ _ _ _ _ valid_empty hsubset
    · cases h
  · cases h
    exact valid_empty
  · cases h

/-- **The values that a document declares can be written**, whatever stands before the root.

**Proof sketch.** Induction on the bound, by what comes next: only a document type declares
anything. -/
theorem valid_of_readProlog :
    ∀ (n : Nat) (found : Option Declared) (cs : List Char) (d : Declared) (rest : List Char),
      (∀ e ∈ found, e.Valid) → readProlog n found cs = some (d, rest) → d.Valid := by
  intro n
  induction n with
  | zero =>
    intro found cs d rest _ h
    cases h
  | succ n ih =>
    intro found cs d rest hfound h
    rw [readProlog] at h
    split at h
    · simp only [Option.bind_eq_bind, Option.bind_eq_some_iff] at h
      obtain ⟨_, -, h⟩ := h
      exact ih _ _ _ _ hfound h
    · simp only [Option.bind_eq_bind, Option.bind_eq_some_iff] at h
      obtain ⟨_, -, h⟩ := h
      exact ih _ _ _ _ hfound h
    · simp only [Option.bind_eq_bind, Option.bind_eq_some_iff] at h
      obtain ⟨_, -, h⟩ := h
      split at h
      · cases h
      · simp only [Option.bind_eq_some_iff] at h
        obtain ⟨⟨e, _⟩, he, h⟩ := h
        refine ih _ _ _ _ (fun e' he' => ?_) h
        obtain rfl : e = e' := Option.some.inj he'
        exact valid_of_readDoctype he
    · cases h
      cases found with
      | none => exact valid_empty
      | some e => exact hfound e rfl

/-- Declared defaults and lists of words leave a token valid.

**Proof sketch.** Attributes that are written keep their names, and their values or the words of
them joined; those that are added have the preset values of rules. -/
lemma Token.Valid.presetToken {rules : List AttributeRule} (hr : ValidRules rules) {t : Token}
    (h : t.Valid) : (presetToken rules t).Valid := by
  cases t with
  | opening name attributes empty =>
    refine ⟨h.1, fun a ha => ?_⟩
    rcases List.mem_append.1 ha with ha | ha
    · obtain ⟨⟨w, v⟩, hw, he⟩ := List.mem_map.1 ha
      obtain ⟨hname, hchars⟩ := h.2 _ hw
      subst he
      simp only
      split
      · split
        · exact ⟨hname, hchars⟩
        · refine ⟨hname, ?_⟩
          rw [String.toList_ofList]
          exact allChars_joinWords hchars
      · exact ⟨hname, hchars⟩
    · obtain ⟨r, hmem, he⟩ := List.mem_filterMap.1 ha
      split at he
      · cases he
      · split at he
        · rename_i hpreset hname
          cases he
          exact ⟨valid_of_readWritten hname, hr r (List.mem_of_mem_filter hmem) _ hpreset⟩
        · cases he
  | _ => exact h

/-- Declared defaults and lists of words leave a token one of the document itself. -/
lemma Token.Own.presetToken {rules : List AttributeRule} (hr : ValidRules rules) {t : Token}
    (h : t.Own) : (presetToken rules t).Own := by
  cases t with
  | opening name attributes empty => exact Token.Valid.presetToken hr h.valid
  | _ => exact h

/-- What declared defaults leave of a token, they leave of all. -/
lemma forall_mem_presetTokens {p : Token → Prop} {rules : List AttributeRule}
    (hp : ∀ t, p t → p (presetToken rules t)) {ts : List Token} (h : ∀ t ∈ ts, p t) :
    ∀ t ∈ presetTokens rules ts, p t := by
  unfold presetTokens
  split
  · exact h
  · exact List.forall_mem_map.2 fun t ht => hp t (h t ht)

end JavaTree.Xml
