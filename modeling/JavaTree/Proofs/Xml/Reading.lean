import JavaTree.Proofs.Xml.Markup
import JavaTree.Xml.Document

/-!
# Reading step by step

A document is cut into tokens first, and the tokens are put together afterwards.  For documents
that declare nothing the two can be followed at once: what has been put together, and the
characters that are left.  The texts between tags are followed here.

## Main definitions

* `Xml.Reads` — reading some characters takes one assembly to another.
* `Xml.Frame.withText` — an element with another text at its end.

## Main results

* `Xml.parse?_of_reads` — a document that is read up to its end is accepted.
* `Xml.Frame.reads_text` — a written text is read as it was, unless it is blank and stands between
  nodes; then it may be dropped.
-/

namespace JavaTree.Xml

/-! ## Reading -/

/-- Reading characters takes the assembly `a` to the assembly `c`; `rest` is left. -/
inductive Reads (expand : List Char → Option (List Token)) :
    Assembly → List Char → Assembly → List Char → Prop
  | done (a : Assembly) (cs : List Char) : Reads expand a cs a cs
  | token {a b c : Assembly} {cs mid rest : List Char} {ts : List Token}
      (hread : readToken [] expand cs = some (ts, mid)) (hlt : mid.length < cs.length)
      (hstep : Assembly.steps [] (some a) ts = some b) (hrest : Reads expand b mid c rest) :
      Reads expand a cs c rest

section Reads

variable {expand : List Char → Option (List Token)} {a b c : Assembly} {cs mid rest : List Char}

/-- Two stretches of characters are read one after the other. -/
lemma Reads.trans (h : Reads expand a cs b mid) (h' : Reads expand b mid c rest) :
    Reads expand a cs c rest := by
  induction h with
  | done => exact h'
  | token hread hlt hstep _ ih => exact .token hread hlt hstep (ih h')

/-- The tokens that are cut off first take the assembly one step on. -/
lemma Reads.single {ts : List Token} (hread : readToken [] expand cs = some (ts, rest))
    (hlt : rest.length < cs.length) (hstep : Assembly.steps [] (some a) ts = some b) :
    Reads expand a cs b rest :=
  .token hread hlt hstep (.done b rest)

/-- Tokens are put together one after the other. -/
lemma Assembly.steps_append (contents : Contents) (a : Option Assembly) (ts us : List Token) :
    steps contents a (ts ++ us) = steps contents (steps contents a ts) us := by
  simp [steps]

/-- The first token is put together first. -/
lemma Assembly.steps_cons (contents : Contents) (a : Assembly) (t : Token) (ts : List Token) :
    steps contents (some a) (t :: ts) = steps contents (a.step contents t) ts := rfl

/-- Tokens are read one after the other. -/
lemma readTokens_of_readToken {entities : Entities} {d : Char} {ds : List Char} {ts : List Token}
    (h : readToken entities expand (d :: ds) = some (ts, rest)) (n : Nat) (read : List Token) :
    readTokens entities expand (n + 1) read (d :: ds) =
      readTokens entities expand n (ts.reverse ++ read) rest := by
  simp only [readTokens, h]

/-- The tokens of characters that are read up to their end make what reading makes.

**Proof sketch.** Induction on the stretches that are read; each of them is one token, and takes one
of the bound at least. -/
lemma Reads.exists_readTokens {start : Assembly} (h : Reads expand a cs c rest)
    (hrest : rest = []) :
    ∀ (n : Nat) (read : List Token), cs.length ≤ n →
      Assembly.steps [] (some start) read.reverse = some a →
      ∃ ts, readTokens [] expand n read cs = some ts ∧
        Assembly.steps [] (some start) ts = some c := by
  induction h with
  | done a cs =>
    intro n read _ hread
    subst hrest
    exact ⟨read.reverse, by rw [readTokens.eq_def], hread⟩
  | @token a b c cs mid rest ts hread hlt hstep _ ih =>
    intro n read hn hread'
    obtain ⟨m, rfl⟩ : ∃ m, n = m + 1 := ⟨n - 1, by omega⟩
    have hsteps : Assembly.steps [] (some start) (ts.reverse ++ read).reverse = some b := by
      rw [List.reverse_append, List.reverse_reverse, Assembly.steps_append, hread', hstep]
    obtain ⟨us, hus, hc⟩ := ih hrest m (ts.reverse ++ read) (by omega) hsteps
    refine ⟨us, ?_, hc⟩
    cases cs with
    | nil => simp at hlt
    | cons d ds =>
      rw [readTokens_of_readToken hread]
      exact hus

end Reads

/-! ## Documents without declarations -/

/-- A document without declaration of its version is read in three steps: what stands before the
root, the tokens of the root, and the tree of these. -/
lemma parse?_of_steps {text : String} {d : Declared} {rest : List Char} {ts : List Token}
    (hstart : text.toList.head? = some '<')
    (hdeclared : readDeclared text.toList = some (none, text.toList))
    (hprolog : readProlog (text.toList.length + 1) none text.toList = some (d, rest))
    (htokens : tokens? d.entities rest = some ts) :
    parse? text = assemble? d.contents (presetTokens d.attributes ts) := by
  have hbody : readBody text.toList = assemble? d.contents (presetTokens d.attributes ts) := by
    rw [readBody, hprolog, Option.bind_eq_bind, Option.bind_some]
    dsimp only
    rw [htokens, Option.bind_eq_bind, Option.bind_some]
  unfold parse?
  split
  · rename_i hmark
    simp [hmark] at hstart
  · simp [hdeclared, recode, hbody]

/-- What stands before the root is empty if the document begins with the tag of the root. -/
lemma readProlog_of_tag {d : Char} (h : isNameStart d = true) (cs : List Char) (n : Nat) :
    readProlog (n + 1) none ('<' :: d :: cs) = some ({}, '<' :: d :: cs) := by
  have hskip : skipSpace ('<' :: d :: cs) = '<' :: d :: cs := skipSpace_of_stops (stops_cons rfl)
  have hquestion : d ≠ '?' := ne_separator h (by decide)
  have hmark : d ≠ '!' := ne_separator h (by decide)
  rw [readProlog, hskip]
  simp [hquestion, hmark]

/-- What names stand for in a document that declares none. -/
def noEntities (text : List Char) : Option (List Token) := do
  let ts ← tokensWithin [] 0 text
  if balanced [] ts then pure ts else none

/-- **A document is accepted** if it begins with the tag of its root and is read up to its end. -/
theorem parse?_of_reads {d : Char} {cs : List Char} {root : Node} (hd : isNameStart d = true)
    (h : Reads noEntities ⟨[], none⟩ ('<' :: d :: cs) ⟨[], some root⟩ []) :
    parse? (String.ofList ('<' :: d :: cs)) = some root := by
  have hquestion : d ≠ '?' := ne_separator hd (by decide)
  obtain ⟨ts, hts, hsteps⟩ := h.exists_readTokens rfl _ [] (Nat.le_refl _) rfl
  have htokens : tokens? ({} : Declared).entities ('<' :: d :: cs) = some ts := hts
  have hparse : parse? (String.ofList ('<' :: d :: cs)) =
      assemble? ({} : Declared).contents (presetTokens ({} : Declared).attributes ts) :=
    parse?_of_steps (by simp) (by simp [readDeclared, hquestion])
      (by rw [String.toList_ofList, readProlog_of_tag hd]) htokens
  rw [hparse]
  simp [presetTokens, assemble?, hsteps]

/-! ## Texts in an open element -/

namespace Frame

/-- An element with another text at its end: after its last child, or before the first one. -/
def withText (f : Frame) (t : Option String) : Frame :=
  match f.children with
  | [] => { f with text := t }
  | n :: ns => { f with children := n.withTail t :: ns }

/-- An element with another rule for blanks. -/
def withBlanks (f : Frame) (b : BlankRule) : Frame := { f with blanks := b }

variable {f : Frame}

/-- The rule for blanks has no part in the declared content of an element. -/
@[simp] lemma content_withBlanks (b : BlankRule) : (f.withBlanks b).content = f.content := rfl

/-- The rule for blanks has no part in whether an element ends in a text. -/
@[simp] lemma endsInText_withBlanks (b : BlankRule) :
    (f.withBlanks b).endsInText = f.endsInText := rfl

/-- The rule for blanks has no part in a text that is added. -/
lemma addText_withBlanks (b : BlankRule) (cs : List Char) :
    (f.withBlanks b).addText cs = (f.addText cs).withBlanks b := by
  obtain ⟨written, tag, scope, blanks, content, text, children⟩ := f
  cases children <;> rfl

/-- A text that is added leaves the declared content as it is. -/
@[simp] lemma content_addText (cs : List Char) : (f.addText cs).content = f.content := by
  obtain ⟨written, tag, scope, blanks, content, text, children⟩ := f
  cases children <;> rfl

/-- An element ends in a text once one has been added. -/
@[simp] lemma endsInText_addText (cs : List Char) : (f.addText cs).endsInText = true := by
  obtain ⟨written, tag, scope, blanks, content, text, children⟩ := f
  cases children with
  | nil => rfl
  | cons n ns => cases n <;> rfl

/-- Texts that are added in a row are added as one. -/
lemma addText_addText (cs ds : List Char) : (f.addText cs).addText ds = f.addText (cs ++ ds) := by
  obtain ⟨written, tag, scope, blanks, content, text, children⟩ := f
  cases children with
  | nil => simp [addText, joinText, String.append_assoc]
  | cons n ns =>
    cases n <;> simp [addText, joinText, Node.withTail, Node.tail, String.append_assoc]

/-- No text is put where there is none. -/
lemma withText_none (h : f.endsInText = false) : f.withText none = f := by
  obtain ⟨written, tag, scope, blanks, content, text, children⟩ := f
  cases children with
  | nil =>
    obtain rfl : text = none := by simpa [endsInText] using h
    rfl
  | cons n ns =>
    cases n <;> simp_all [endsInText, withText, Node.withTail, Node.tail]

/-- A text that is added where none is becomes the text there. -/
lemma addText_of_not_endsInText (h : f.endsInText = false) (cs : List Char) :
    f.addText cs = f.withText (some (String.ofList cs)) := by
  obtain ⟨written, tag, scope, blanks, content, text, children⟩ := f
  cases children with
  | nil =>
    obtain rfl : text = none := by simpa [endsInText] using h
    simp [addText, withText, joinText]
  | cons n ns =>
    have ht : n.tail = none := by simpa [endsInText] using h
    simp [addText, withText, joinText, ht]

end Frame

/-! ## Runs of text -/

/-- White space between markup is ASCII. -/
lemma toNat_lt_of_isSpace {c : Char} (h : isSpace c = true) : c.toNat < 0x80 := by
  simp only [isSpace, Bool.or_eq_true, beq_iff_eq] at h
  rcases h with ((rfl | rfl) | rfl) | rfl <;> decide

/-- The characters of a text that are written as they are. -/
def isPlain (c : Char) : Bool := c != '&' && c != '<' && c != '>' && c != '\r'

/-- Why a run of text in an element is kept: there is text before it or after it, it is not blank,
or it is all that the element holds. -/
def Frame.Keeps (f : Frame) (cs : List Char) (follow : Follow) : Prop :=
  f.endsInText = true ∨ follow = .text ∨ cs.all isSpace = false ∨
    (follow = .closing ∧ f.children = [])

namespace Frame

variable {f : Frame} {cs : List Char} {follow : Follow}

/-- A run of text that is kept is not dropped. -/
lemma drops_eq_false (hf : f.content = none) (h : f.Keeps cs follow) :
    f.drops cs follow = false := by
  unfold drops
  rw [hf]
  rcases h with h | rfl | h | ⟨rfl, h⟩
  · cases follow <;> simp [setsApart, h]
  · simp [setsApart]
  · simp [h]
  · simp [setsApart, h]

/-- A run of text that is kept is added, and tells how blanks go on. -/
lemma addRun_of_keeps (hf : f.content = none) (h : f.Keeps cs follow) :
    f.addRun cs follow = (f.addText cs).withBlanks f.blanks.afterText := by
  obtain ⟨written, tag, scope, blanks, content, text, children⟩ := f
  unfold addRun
  rw [drops_eq_false hf h]
  cases children <;> rfl

/-- A run of text is added, or it is white space that is left out. -/
lemma addRun_eq (hf : f.content = none) (cs : List Char) (follow : Follow) :
    (∃ b, f.addRun cs follow = (f.addText cs).withBlanks b) ∨
      f.addRun cs follow = f ∧ cs.all isSpace = true := by
  by_cases h : f.drops cs follow = true
  · refine .inr ⟨by rw [addRun, if_pos h], ?_⟩
    simp only [drops, Bool.and_eq_true] at h
    exact h.1.1
  · obtain ⟨written, tag, scope, blanks, content, text, children⟩ := f
    refine .inl ⟨blanks.afterText, ?_⟩
    rw [addRun, if_neg h]
    cases children <;> rfl

/-- **The pieces of a run that is kept make up the run.**

**Proof sketch.** Induction on the characters, for every piece read before them. The run is cut only
before a character beyond ASCII: what stands before the cut is followed by text, and what stands
after it is not blank. -/
lemma steps_pieces (fs : List Frame) (follow : Follow) :
    ∀ (cs piece : List Char) (f : Frame), '\r' ∉ cs → f.content = none →
      piece.reverse ++ cs ≠ [] → f.Keeps (piece.reverse ++ cs) follow →
      ∃ b, Assembly.steps [] (some ⟨f :: fs, none⟩) (pieces follow piece cs) =
        some ⟨(f.addText (piece.reverse ++ cs)).withBlanks b :: fs, none⟩ := by
  intro cs
  induction cs with
  | nil =>
    intro piece f _ hf hne hk
    rw [List.append_nil] at hne hk ⊢
    have hp : piece.isEmpty = false := by simpa using hne
    refine ⟨f.blanks.afterText, ?_⟩
    rw [pieces, hp, ← addRun_of_keeps hf hk]
    rfl
  | cons c cs ih =>
    intro piece f hcr hf hne hk
    have hc : c ≠ '\r' := fun h => hcr (h ▸ List.mem_cons_self)
    have hcs : '\r' ∉ cs := fun h => hcr (List.mem_cons_of_mem _ h)
    by_cases hascii : 0x80 ≤ c.toNat
    · have hpieces : pieces follow piece (c :: cs) =
          (if piece.isEmpty then [] else [.run piece.reverse .text]) ++
            [.run (c :: cs) follow] := by
        rw [pieces.eq_3 _ _ _ _ (by rintro _ rfl; exact absurd rfl hc)]
        simp [hc, hascii, unifyLines_of_not_mem hcr]
      have hspace : isSpace c = false := by
        by_contra h
        exact absurd (toNat_lt_of_isSpace (Bool.not_eq_false _ ▸ h)) (Nat.not_lt.2 hascii)
      have hblank : (c :: cs).all isSpace = false := by
        rw [List.all_cons, hspace, Bool.false_and]
      rw [hpieces]
      cases piece with
      | nil =>
        refine ⟨f.blanks.afterText, ?_⟩
        rw [List.reverse_nil, List.nil_append, ← addRun_of_keeps hf (.inr (.inr (.inl hblank)))]
        rfl
      | cons d ds =>
        have hk₁ : f.Keeps (d :: ds).reverse .text := .inr (.inl rfl)
        have h₁ := addRun_of_keeps hf hk₁
        set g := f.addText (d :: ds).reverse with hg
        have hk₂ : (g.withBlanks f.blanks.afterText).Keeps (c :: cs) follow := .inl (by simp [hg])
        have h₂ := addRun_of_keeps (by simp [hg, hf]) hk₂
        refine ⟨f.blanks.afterText.afterText, ?_⟩
        rw [addText_withBlanks, hg, addText_addText] at h₂
        simp only [List.isEmpty_cons, Bool.false_eq_true, ↓reduceIte, List.singleton_append,
          Assembly.steps_cons, Assembly.step, h₁, h₂, hg]
        rfl
    · -- within ASCII the piece goes on
      have hpieces : pieces follow piece (c :: cs) = pieces follow (c :: piece) cs := by
        rw [pieces.eq_3 _ _ _ _ (by rintro _ rfl; exact absurd rfl hc)]
        simp [hc, hascii]
      have happend : (c :: piece).reverse ++ cs = piece.reverse ++ c :: cs := by simp
      rw [hpieces, ← happend]
      exact ih (c :: piece) f hcs hf (by simp) (happend ▸ hk)

/-- A blank text without carriage returns is one run.

**Proof sketch.** Induction on the characters: none of them is one where a run is cut. -/
lemma pieces_of_isSpace (follow : Follow) :
    ∀ cs piece : List Char, (∀ c ∈ cs, isSpace c = true ∧ c ≠ '\r') → piece.reverse ++ cs ≠ [] →
      pieces follow piece cs = [.run (piece.reverse ++ cs) follow] := by
  intro cs
  induction cs with
  | nil =>
    intro piece _ hne
    rw [List.append_nil] at hne ⊢
    have hp : piece.isEmpty = false := by simpa using hne
    rw [pieces, hp]
    rfl
  | cons c cs ih =>
    intro piece hcs _
    obtain ⟨hspace, hcr⟩ := hcs c List.mem_cons_self
    have hascii : c.toNat < 0x80 := toNat_lt_of_isSpace hspace
    rw [pieces.eq_3 _ _ _ _ (by rintro _ rfl; exact absurd rfl hcr)]
    simp only [hcr, beq_iff_eq, Bool.or_eq_true, decide_eq_true_eq, Nat.not_le.2 hascii, or_false,
      ↓reduceIte]
    rw [ih (c :: piece) (fun d hd => hcs d (List.mem_cons_of_mem _ hd)) (by simp)]
    simp

end Frame

/-! ## Texts -/

/-- No plain character is one that has to be escaped. -/
lemma isPlain_ne {c : Char} (h : isPlain c = true) : c ≠ '&' ∧ c ≠ '<' ∧ c ≠ '>' ∧ c ≠ '\r' := by
  simpa [isPlain, and_assoc] using h

/-- A plain character is written as it is. -/
lemma escapeTextChar_of_isPlain {c : Char} (h : isPlain c = true) : escapeTextChar c = [c] := by
  obtain ⟨hamp, hlt, hgt, hcr⟩ := isPlain_ne h
  unfold escapeTextChar
  split <;> simp_all

/-- Plain characters are written as they are. -/
lemma flatMap_escapeTextChar_of_isPlain {cs : List Char} (h : ∀ c ∈ cs, isPlain c = true) :
    cs.flatMap escapeTextChar = cs := by
  induction cs with
  | nil => rfl
  | cons c cs ih =>
    rw [List.flatMap_cons, escapeTextChar_of_isPlain (h c List.mem_cons_self),
      ih fun d hd => h d (List.mem_cons_of_mem _ hd), List.singleton_append]

/-- No section ends within plain characters. -/
lemma hasSectionEnd_of_isPlain {cs : List Char} (h : ∀ c ∈ cs, isPlain c = true) :
    hasSectionEnd cs = false := by
  induction cs with
  | nil => rfl
  | cons c cs ih =>
    have hcs := ih fun d hd => h d (List.mem_cons_of_mem _ hd)
    rw [hasSectionEnd.eq_def]
    split
    · have := h '>' (by simp_all)
      simp [isPlain] at this
    · simp_all
    · rfl

/-- A run of plain characters is read up to the markup or the reference after it. -/
lemma readToken_of_isPlain {expand : List Char → Option (List Token)} {cs : List Char} {d : Char}
    {rest : List Char} (hne : cs ≠ []) (h : ∀ c ∈ cs, isPlain c = true)
    (hchar : ∀ c ∈ cs, isChar c = true) (hd : endsRun d = true) :
    readToken [] expand (cs ++ d :: rest) =
      some (pieces (followOf (d :: rest)) [] cs, d :: rest) := by
  have hruns : ∀ c ∈ cs, (!endsRun c) = true := fun c hc => by
    obtain ⟨hamp, hlt, -, -⟩ := isPlain_ne (h c hc)
    simp [endsRun, hamp, hlt]
  have hstop : Stops (fun c => !endsRun c) (d :: rest) := stops_cons (by simp [hd])
  have hrun : readRun (cs ++ d :: rest) =
      some (pieces (followOf (d :: rest)) [] cs, d :: rest) := by
    simp only [readRun, takeWhile_append_of_stops hruns hstop,
      dropWhile_append_of_stops hruns hstop, hasSectionEnd_of_isPlain h]
    simpa using hchar
  obtain ⟨c, cs, rfl⟩ := List.exists_cons_of_ne_nil hne
  obtain ⟨hamp, hlt, -, -⟩ := isPlain_ne (h c List.mem_cons_self)
  rw [← hrun, List.cons_append]
  simp [readToken, hamp, hlt]

/-- What the pieces of a run of plain characters make is made by reading the run. -/
lemma reads_of_isPlain {expand : List Char → Option (List Token)} {a b : Assembly} {cs : List Char}
    {d : Char} {rest : List Char} (hne : cs ≠ []) (h : ∀ c ∈ cs, isPlain c = true)
    (hchar : ∀ c ∈ cs, isChar c = true) (hd : endsRun d = true)
    (hsteps : Assembly.steps [] (some a) (pieces (followOf (d :: rest)) [] cs) = some b) :
    Reads expand a (cs ++ d :: rest) b (d :: rest) := by
  refine .single (readToken_of_isPlain hne h hchar hd) ?_ hsteps
  have hpos := List.length_pos_of_ne_nil hne
  simp only [List.length_append, List.length_cons]
  omega

/-- A reference is read as the character that it stands for. -/
lemma readToken_reference {expand : List Char → Option (List Token)} {body : List Char} {c : Char}
    (h : StandsFor body c) (rest : List Char) :
    readToken [] expand ('&' :: body ++ rest) = some ([.chars [c]], rest) := by
  simp [readToken, h rest]

/-- A reference to a declared name is read as the tokens of what the name stands for. -/
lemma readToken_declared {entities : Entities} {expand : List Char → Option (List Token)}
    {cs text rest : List Char} {name : String} {ts : List Token}
    (hcs : readReference cs = some (.entity name, rest))
    (htext : entities.lookup name = some text) (hts : expand text = some ts) :
    readToken entities expand ('&' :: cs) = some (.enter :: ts ++ [.leave], rest) := by
  simp only [readToken, hcs, htext, hts, Option.bind_eq_bind, Option.bind_some, Option.pure_def]

namespace Frame

section Texts

variable (expand : List Char → Option (List Token)) {f : Frame} (fs : List Frame)
  (more : List Char)

/-- Plain characters that are kept are read as they were written. -/
lemma exists_reads_run (hf : f.content = none) {cs : List Char} (hne : cs ≠ [])
    (h : ∀ c ∈ cs, isPlain c = true) (hchar : ∀ c ∈ cs, isChar c = true) {d : Char}
    (hd : endsRun d = true) (hk : f.Keeps cs (followOf (d :: more))) :
    ∃ b, Reads expand ⟨f :: fs, none⟩ (cs ++ d :: more) ⟨(f.addText cs).withBlanks b :: fs, none⟩
      (d :: more) := by
  have hcr : '\r' ∉ cs := fun hcr => (isPlain_ne (h _ hcr)).2.2.2 rfl
  obtain ⟨b, hb⟩ := steps_pieces fs (followOf (d :: more)) cs [] f hcr hf hne hk
  exact ⟨b, reads_of_isPlain hne h hchar hd hb⟩

/-- Plain characters before a reference are kept, whatever they are. -/
lemma reads_plain (hf : f.content = none) {cs : List Char} (h : ∀ c ∈ cs, isPlain c = true)
    (hchar : ∀ c ∈ cs, isChar c = true) :
    ∃ (g : Frame) (b : BlankRule),
      Reads expand ⟨f :: fs, none⟩ (cs ++ '&' :: more) ⟨g :: fs, none⟩ ('&' :: more) ∧
        g.content = none ∧ ∀ ds, g.addText ds = (f.addText (cs ++ ds)).withBlanks b := by
  by_cases hne : cs = []
  · subst hne
    refine ⟨f, f.blanks, .done _ _, hf, fun ds => ?_⟩
    obtain ⟨written, tag, scope, blanks, content, text, children⟩ := f
    cases children <;> rfl
  · have hk : f.Keeps cs (followOf ('&' :: more)) := .inr (.inl rfl)
    obtain ⟨b, hread⟩ := exists_reads_run expand fs more hf hne h hchar rfl hk
    refine ⟨(f.addText cs).withBlanks b, b, hread, by simp [hf], fun ds => ?_⟩
    rw [addText_withBlanks, addText_addText]

/-- A text consists of plain characters, or there is a first character that is not. -/
lemma exists_plain_split (cs : List Char) :
    (∀ c ∈ cs, isPlain c = true) ∨
      ∃ run c ds, cs = run ++ c :: ds ∧ (∀ d ∈ run, isPlain d = true) ∧ isPlain c = false := by
  induction cs with
  | nil => exact .inl (by simp)
  | cons c cs ih =>
    by_cases hc : isPlain c = true
    · rcases ih with h | ⟨run, d, ds, rfl, hrun, hd⟩
      · exact .inl (by simpa [hc] using h)
      · exact .inr ⟨c :: run, d, ds, rfl, by simpa [hc] using hrun, hd⟩
    · exact .inr ⟨[], c, cs, rfl, by simp, by simpa using hc⟩

/-- Any other character is written as a reference that stands for it. -/
lemma exists_standsFor {c : Char} (h : isPlain c = false) :
    ∃ body, escapeTextChar c = '&' :: body ∧ StandsFor body c := by
  rcases escapeTextChar_cases c with ⟨-, hamp, hlt, hgt, hcr⟩ | h'
  · simp [isPlain, hamp, hlt, hgt, hcr] at h
  · exact h'

/-- **A text that is kept is read as it was written.**

**Proof sketch.** Induction on the length of the text. It consists of plain characters only, which
are one run; or of plain characters, a character that is written as a reference, and a further
text, which is kept because there is text before it. -/
theorem reads_kept :
    ∀ (n : Nat) (cs : List Char) (f : Frame), cs.length = n → cs ≠ [] → f.content = none →
      (∀ c ∈ cs, isChar c = true) →
      ((∃ c ∈ cs, isPlain c = false) ∨ f.Keeps cs (followOf ('<' :: more))) →
      ∃ b, Reads expand ⟨f :: fs, none⟩ (cs.flatMap escapeTextChar ++ '<' :: more)
        ⟨(f.addText cs).withBlanks b :: fs, none⟩ ('<' :: more) := by
  intro n
  induction n using Nat.strong_induction_on with
  | _ n ih =>
    intro cs f hn hne hf hchar hk
    obtain hplain | ⟨run, c, ds, rfl, hrun, hc⟩ := exists_plain_split cs
    · have hk' : f.Keeps cs (followOf ('<' :: more)) := by
        rcases hk with ⟨c, hc, hcp⟩ | hk
        · rw [hplain c hc] at hcp
          cases hcp
        · exact hk
      rw [flatMap_escapeTextChar_of_isPlain hplain]
      exact exists_reads_run expand fs more hf hne hplain hchar rfl hk'
    · obtain ⟨body, hbody, hstands⟩ := exists_standsFor hc
      have hwritten : (run ++ c :: ds).flatMap escapeTextChar ++ '<' :: more =
          run ++ '&' :: (body ++ (ds.flatMap escapeTextChar ++ '<' :: more)) := by
        rw [List.flatMap_append, flatMap_escapeTextChar_of_isPlain hrun, List.flatMap_cons, hbody]
        simp
      obtain ⟨g, b, hread, hg, hadd⟩ := reads_plain expand fs
        (body ++ (ds.flatMap escapeTextChar ++ '<' :: more)) hf hrun
        (fun d hd => hchar d (by simp [hd]))
      have href : Reads expand ⟨g :: fs, none⟩
          ('&' :: (body ++ (ds.flatMap escapeTextChar ++ '<' :: more)))
          ⟨g.addText [c] :: fs, none⟩ (ds.flatMap escapeTextChar ++ '<' :: more) := by
        refine .single (readToken_reference hstands _) ?_ rfl
        simp only [List.length_cons, List.length_append]
        omega
      rw [hwritten]
      by_cases hds : ds = []
      · subst hds
        rw [hadd] at href
        exact ⟨b, hread.trans href⟩
      · -- what is left is kept because the character before it is text already
        have hlen : ds.length < n := by
          rw [← hn]
          simp only [List.length_append, List.length_cons]
          omega
        obtain ⟨b', hb'⟩ := ih ds.length hlen ds (g.addText [c]) rfl hds (by simp [hg])
          (fun d hd => hchar d (by simp [hd])) (.inr (.inl (by simp)))
        have hsum : (g.addText [c]).addText ds = (f.addText (run ++ c :: ds)).withBlanks b := by
          rw [addText_addText, hadd, List.singleton_append]
        rw [hsum] at hb'
        exact ⟨b', hread.trans (href.trans hb')⟩

end Texts

end Frame

/-- The characters of a text can stand in a document. -/
def ValidText (t : Option String) : Prop := ∀ c ∈ (t.getD "").toList, isChar c = true

/-- A text as it is read: an empty one is absent. -/
def solid (t : Option String) : Option String := t.filter (· != "")

/-- An empty text and an absent one hold the same characters. -/
lemma getD_solid (t : Option String) : (solid t).getD "" = t.getD "" := by
  rcases t with _ | s
  · rfl
  · by_cases hs : s = ""
    · subst hs
      rfl
    · rw [solid, Option.filter_some, if_pos (by simpa using hs)]

/-- A text without characters counts as absent. -/
lemma solid_of_getD_eq {t : Option String} (h : t.getD "" = "") : solid t = none := by
  cases t with
  | none => rfl
  | some s =>
    obtain rfl : s = "" := h
    rfl

/-- What reading makes of a text between nodes: the text, or nothing if it is blank. -/
inductive TextReread : Option String → Option String → Prop
  | kept (t : Option String) : TextReread t (solid t)
  | dropped {t : Option String} (h : (t.getD "").toList.all isSpace = true) : TextReread t none

/-- **A written text is read back** at the end of an element that does not end in text: as it was,
or not at all if it is blank. The only text of an element is always read back.

**Proof sketch.** An empty text leaves no characters. A text that is not blank, or holds a character
that is written as a reference, is kept. Another one is a single run, which may be dropped. -/
theorem Frame.reads_text (expand : List Char → Option (List Token)) {f : Frame} (fs : List Frame)
    (more : List Char) {t : Option String} (hf : f.content = none) (he : f.endsInText = false)
    (ht : ValidText t) :
    ∃ t' b, Reads expand ⟨f :: fs, none⟩ (writeText t ++ '<' :: more)
        ⟨(f.withText t').withBlanks b :: fs, none⟩ ('<' :: more) ∧ TextReread t t' ∧
      (followOf ('<' :: more) = .closing → f.children = [] → t' = solid t) := by
  by_cases hempty : t.getD "" = ""
  · have hwrite : writeText t = [] := by
      cases t with
      | none => rfl
      | some s =>
        obtain rfl : s = "" := hempty
        rfl
    have hsolid : solid t = none := solid_of_getD_eq hempty
    refine ⟨none, f.blanks, ?_, hsolid ▸ .kept t, fun _ _ => hsolid.symm⟩
    rw [hwrite, withText_none he]
    exact .done _ _
  · obtain ⟨s, rfl⟩ : ∃ s, t = some s := by
      cases t with
      | none => exact absurd rfl hempty
      | some s => exact ⟨s, rfl⟩
    have hs : s ≠ "" := hempty
    have hne : s.toList ≠ [] := by simpa using hs
    have hsolid : solid (some s) = some s := by simp [solid, hs]
    have hkept : TextReread (some s) (some s) := by
      have := TextReread.kept (some s)
      rwa [hsolid] at this
    have hadd : f.addText s.toList = f.withText (some s) := by
      rw [addText_of_not_endsInText he, String.ofList_toList]
    by_cases hk : (∃ c ∈ s.toList, isPlain c = false) ∨ f.Keeps s.toList (followOf ('<' :: more))
    · obtain ⟨b, hb⟩ := reads_kept expand fs more _ s.toList f rfl hne hf ht hk
      rw [hadd] at hb
      exact ⟨some s, b, hb, hkept, fun _ _ => hsolid.symm⟩
    · simp only [not_or, not_exists, not_and, Bool.not_eq_false] at hk
      obtain ⟨hplain, hk⟩ := hk
      have hspace : s.toList.all isSpace = true := by
        by_contra h
        exact hk (.inr (.inr (.inl (by simpa using h))))
      have hpieces := pieces_of_isSpace (followOf ('<' :: more)) s.toList []
        (fun c hc => ⟨List.all_eq_true.1 hspace c hc, (isPlain_ne (hplain c hc)).2.2.2⟩) hne
      have hread : ∀ g, f.addRun s.toList (followOf ('<' :: more)) = g →
          Reads expand ⟨f :: fs, none⟩ (s.toList ++ '<' :: more) ⟨g :: fs, none⟩ ('<' :: more) := by
        rintro g rfl
        refine reads_of_isPlain hne hplain ht rfl ?_
        rw [hpieces]
        rfl
      have hwrite : writeText (some s) = s.toList := flatMap_escapeTextChar_of_isPlain hplain
      rw [hwrite]
      rcases addRun_eq hf s.toList (followOf ('<' :: more)) with ⟨b, h⟩ | ⟨h, -⟩
      · rw [hadd] at h
        exact ⟨some s, b, hread _ h, hkept, fun _ _ => hsolid.symm⟩
      · refine ⟨none, f.blanks, ?_, .dropped hspace, fun hc hn => ?_⟩
        · rw [withText_none he]
          exact hread _ h
        · exact absurd (.inr (.inr (.inr ⟨hc, hn⟩))) hk

end JavaTree.Xml
