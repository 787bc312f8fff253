import Mathlib.Data.List.Basic
import JavaTree.Proofs.JoinedProperties

/-!
# Comments in properties

A comment may hold any characters but line feeds and carriage returns.  It can be put between the
logical lines of a text, and the text gives what it gave before, if none of its characters ends a
line in the sense in which texts are cut into lines; these are more than line feed and carriage
return.  A comment with such a character is taken for several lines, the first of which only is a
comment, and there is a text in which it changes what comes out.

## Main definitions

* `IsComment` — a line that is a comment.
* `Closes`, `EndsLogicalLine` — physical lines, and texts, after which no logical line is open.
* `WithLine` — a text with a line put between its logical lines.
* `WithIdle` — lines with one that holds nothing to read put before them.

## Main results

* `PropertiesState.pending_of_closes` — between logical lines nothing is pending.
* `parseProperties_of_withLine` — a comment in one line does not matter.
* `comment_inert_iff` — which comments do not matter in any text.

## Implementation notes

That a comment in several lines matters is shown by two texts.  If one of its lines adds something,
it does so in the empty text.  If none does, it moves a mistake further than by one line.
-/

namespace JavaTree

/-! ## Putting a line into a text -/

/-- A comment: a mark, with blanks before it and any characters of a line after it. -/
structure IsComment (cs : List Char) : Prop where
  exists_mark : ∃ gap mark rest, cs = gap ++ mark :: rest ∧ gap.all isBlank = true ∧
    IsCommentMark mark
  no_lineFeed : '\n' ∉ cs
  no_return : '\r' ∉ cs

/-- Physical lines after which no logical line is open: those that they make up are complete. -/
def Closes (isVoid : List Char → Bool) (ls : List (List Char)) : Prop :=
  ∀ l ∈ logicalLines isVoid 1 ls, l.complete = true

/-- A text after which no logical line is open, whether the logical lines are those of two phases or
those of one pass. -/
def EndsLogicalLine (text : String) : Prop :=
  Closes isIdle (linesFrom [] text.toList) ∨ Closes addsNothing (linesFrom [] text.toList)

/-- A text, and the text with a line put between its logical lines: where a physical line ends, or
at the end, where the last line is ended first if it is not ended yet, and the new line need not be
ended. -/
inductive WithLine (line : String) : String → String → Prop
  | between {before behind brk : String} (hclosed : EndsLogicalLine before)
      (hends : LineEndsBetween before.toList behind.toList) (hbrk : IsLineBreak brk.toList) :
      WithLine line (before ++ behind) (before ++ line ++ brk ++ behind)
  | atEnd {before opening closing : String} (hclosed : EndsLogicalLine before)
      (hopening : opening = "" ∧ LineEndsBetween before.toList [] ∨ IsLineBreak opening.toList)
      (hclosing : closing = "" ∨ IsLineBreak closing.toList) :
      WithLine line before (before ++ opening ++ line ++ closing)

/-! ## Between logical lines -/

namespace PropertiesState

variable {s s' : PropertiesState} {number next : Nat} {raw : List Char} {ls : List (List Char)}
  {parts : List (List Char)}

/-- After a line that does not go on nothing is pending. -/
lemma pending_of_complete (hraw : continued? (trimChars raw) = none)
    (h : s.step number raw = .ok s') : s'.pending = [] := by
  simp only [step, hraw] at h
  split at h
  · rename_i hidle
    obtain rfl := Except.ok.inj h
    exact List.isEmpty_iff.1 (Bool.and_eq_true_iff.1 hidle).1
  · split at h
    · obtain rfl := Except.ok.inj h
      rfl
    · cases h

/-- A line that adds nothing leaves nothing pending. -/
lemma pending_of_addsNothing (hs : s.pending = []) (hraw : addsNothing (trimChars raw) = true)
    (h : s.step number raw = .ok s') : s'.pending = [] := by
  cases hidle : isIdle (trimChars raw) with
  | true =>
    rw [step_of_isIdle hs hidle] at h
    obtain rfl := Except.ok.inj h
    exact hs
  | false =>
    have hmark : trimChars raw = [] ++ ['\\'] := by simpa [addsNothing, hidle] using hraw
    obtain ⟨start, hstep⟩ := step_of_continued number hmark (s := s) (by simp)
    rw [hstep] at h
    obtain rfl := Except.ok.inj h
    simpa using hs

/-- After a complete logical line nothing is pending, whatever was pending when it went on.

**Proof sketch.** Induction on the lines that follow. While a line is continued the logical line
goes on; the first one that is not leaves nothing pending. -/
lemma exists_run_takeLogical (hcomplete : (takeLogical number parts next ls).1.complete = true)
    (h : s.run next ls = .ok s') :
    ∃ t : PropertiesState, t.pending = [] ∧
      t.run (takeLogical number parts next ls).2.1 (takeLogical number parts next ls).2.2 =
        .ok s' := by
  induction ls generalizing s parts next with
  | nil => cases hcomplete
  | cons l ls ih =>
    obtain ⟨t, hstep, hrun⟩ := run_cons_eq_ok_iff.1 h
    rw [takeLogical] at hcomplete ⊢
    cases hl : continued? (trimChars l) with
    | some part =>
      simp only [hl] at hcomplete ⊢
      exact ih hcomplete hrun
    | none => exact ⟨t, pending_of_complete hl hstep, hrun⟩

/-- **Between logical lines nothing is pending.**

**Proof sketch.** Induction along the logical lines: a void line and a complete one leave nothing
pending, and a continued one is followed to its last line by `exists_run_takeLogical`. -/
theorem pending_of_closes {isVoid : List Char → Bool}
    (hvoid : ∀ line, isVoid line = true → addsNothing line = true) (hs : s.pending = [])
    (hclosed : ∀ l ∈ logicalLines isVoid number ls, l.complete = true)
    (h : s.run number ls = .ok s') : s'.pending = [] := by
  fun_induction logicalLines isVoid number ls generalizing s with
  | case1 number =>
    obtain rfl := Except.ok.inj h
    exact hs
  | case2 number raw ls hraw ih =>
    obtain ⟨t, hstep, hrun⟩ := run_cons_eq_ok_iff.1 h
    exact ih (pending_of_addsNothing hs (hvoid _ hraw) hstep) hclosed hrun
  | case3 number raw ls hraw hcontinued ih =>
    obtain ⟨t, hstep, hrun⟩ := run_cons_eq_ok_iff.1 h
    exact ih (pending_of_complete hcontinued hstep) (List.forall_mem_cons.1 hclosed).2 hrun
  | case4 number raw ls hraw part hcontinued hlength taken =>
    rename_i ih
    obtain ⟨hfirst, hrest⟩ := List.forall_mem_cons.1 hclosed
    obtain ⟨u, -, hlast⟩ := run_cons_eq_ok_iff.1 h
    obtain ⟨t, ht, hrun⟩ := exists_run_takeLogical hfirst hlast
    exact ih ht hrest hrun

end PropertiesState

/-- Where no logical line is open, further lines are read with nothing pending, or a mistake came
before them. -/
lemma EndsLogicalLine.cases_outcome {text : String} (h : EndsLogicalLine text) :
    (∃ (s : PropertiesState) (number : Nat), s.pending = [] ∧ ∀ ls,
      PropertiesState.outcome {} 1 (linesFrom [] text.toList ++ ls) = s.outcome number ls) ∨
      ∃ e, ∀ ls, PropertiesState.outcome {} 1 (linesFrom [] text.toList ++ ls) = .error e := by
  simp only [PropertiesState.outcome_append]
  cases hrun : PropertiesState.run {} 1 (linesFrom [] text.toList) with
  | error e => exact .inr ⟨e, fun ls => rfl⟩
  | ok s =>
    refine .inl ⟨s, _, ?_, fun ls => rfl⟩
    obtain hclosed | hclosed := h
    · have hvoid : ∀ line, isIdle line = true → addsNothing line = true := by
        intro line hline
        simp [addsNothing, hline]
      exact PropertiesState.pending_of_closes hvoid rfl hclosed hrun
    · exact PropertiesState.pending_of_closes (fun _ => id) rfl hclosed hrun

/-! ## Lines with nothing to read -/

/-- Lines, and the same lines with one that holds nothing to read before them or in the place of
such a line; or no lines, and some that hold nothing to read. -/
inductive WithIdle : List (List Char) → List (List Char) → Prop
  | before {l : List Char} {ls : List (List Char)} (hl : isIdle (trimChars l) = true) :
      WithIdle ls (l :: ls)
  | instead {l l' : List Char} {ls : List (List Char)} (hl : isIdle (trimChars l) = true)
      (hl' : isIdle (trimChars l') = true) : WithIdle (l :: ls) (l' :: ls)
  | only {ls : List (List Char)} (hls : ∀ l ∈ ls, isIdle (trimChars l) = true) : WithIdle [] ls

namespace PropertiesState

variable {s : PropertiesState} {number k : Nat} {ls ls' : List (List Char)}

/-- Where nothing is pending, lines come to the same at another place. -/
lemma outcome_add (hs : s.pending = []) (number k : Nat) (ls : List (List Char)) :
    s.outcome (number + k) ls = (s.outcome number ls).mapError (.later k) := by
  have hself : Follows Eq k s s := ⟨rfl, rfl, fun hne => absurd hs hne⟩
  have hboth := hself.outcome (fun _ _ he => he ▸ rfl) number ls
  generalize s.outcome number ls = here at hboth
  generalize s.outcome (number + k) ls = there at hboth
  cases hboth with
  | ok he => rw [he, mapError_ok]
  | error e => rfl

/-- **A line with nothing to read does not matter** where nothing is pending. -/
lemma outcome_of_withIdle (hs : s.pending = []) (h : WithIdle ls ls') (number : Nat) :
    ∃ k ≤ 1, s.outcome number ls' = (s.outcome number ls).mapError (.later k) := by
  cases h with
  | before hl =>
    refine ⟨1, le_rfl, ?_⟩
    rw [outcome_cons, step_of_isIdle hs hl]
    exact outcome_add hs number 1 ls
  | instead hl hl' =>
    refine ⟨0, Nat.zero_le 1, ?_⟩
    rw [outcome_cons, outcome_cons, step_of_isIdle hs hl, step_of_isIdle hs hl']
    exact outcome_add hs (number + 1) 0 _
  | only hls =>
    refine ⟨0, Nat.zero_le 1, ?_⟩
    rw [outcome, outcome, run_idle hs hls]
    exact outcome_add hs number 0 []

end PropertiesState

/-! ## Comments in one line -/

section

variable {comment text text' : String} {cs : List Char}

/-- A comment holds nothing to read. -/
lemma IsComment.isIdle (h : IsComment cs) : isIdle (trimChars cs) = true := by
  obtain ⟨gap, mark, rest, rfl, hgap, hmark⟩ := h.exists_mark
  have hsolid : isBlank mark = false := by obtain rfl | rfl := hmark <;> decide +kernel
  have htrimmed := trimEnd_append_cons [] hsolid rest
  rw [List.nil_append] at htrimmed
  rw [trimChars_eq, trimStart_append_of_blank hgap, trimStart_cons hsolid, htrimmed]
  exact isIdle_cons_iff.2 hmark

/-- A line ends between a text and a comment as it does between the text and what follows. -/
lemma IsComment.lineEndsBetween {before behind : List Char} (h : IsComment cs)
    (hends : LineEndsBetween before behind) (ds : List Char) :
    LineEndsBetween before (cs ++ ds) := by
  intro c hc
  refine ⟨(hends c hc).1, fun _ hfeed => ?_⟩
  obtain ⟨gap, mark, rest, rfl, -⟩ := h.exists_mark
  have hhead : '\n' ∈ (gap ++ mark :: rest).head? := by
    cases gap <;> simpa using hfeed
  exact h.no_lineFeed (List.mem_of_mem_head? hhead)

/-- A line that is put before a text is its first line; the break that ends it may go on with a line
feed of the text, which ended an empty line there.

**Proof sketch.** By the three line breaks. Only a carriage return joins with a line feed that comes
next, and then the line feed ended an empty line before. -/
lemma linesFrom_line_break {line brk : List Char} (hline : OneLine line) (hbrk : IsLineBreak brk)
    (cs : List Char) :
    linesFrom [] (line ++ (brk ++ cs)) = line :: linesFrom [] cs ∨
      ∃ ls, linesFrom [] cs = [] :: ls ∧ linesFrom [] (line ++ (brk ++ cs)) = line :: ls := by
  have hread : ∀ ds, linesFrom [] (line ++ ds) = linesFrom line.reverse ds := by
    intro ds
    rw [linesFrom_append hline, List.append_nil]
  rw [hread]
  obtain rfl | rfl | rfl := hbrk
  · refine .inl ?_
    rw [List.singleton_append, linesFrom_lineFeed, List.reverse_reverse]
  · by_cases hnext : cs.head? = some '\n'
    · obtain ⟨rest, rfl⟩ : ∃ rest, cs = '\n' :: rest := List.head?_eq_some_iff.1 hnext
      refine .inr ⟨linesFrom [] rest, linesFrom_lineFeed [] rest, ?_⟩
      rw [List.singleton_append, linesFrom, List.reverse_reverse]
    · refine .inl ?_
      rw [List.singleton_append, linesFrom_lineEnd rfl fun _ => hnext, List.reverse_reverse]
  · refine .inl ?_
    rw [List.cons_append, List.singleton_append, linesFrom, List.reverse_reverse]

/-- A comment alone, whether a break ends it or not, is one line with nothing to read. -/
lemma forall_isIdle_comment {closing : List Char} (h : IsComment cs) (hone : OneLine cs)
    (hclosing : closing = [] ∨ IsLineBreak closing) :
    ∀ l ∈ linesFrom [] (cs ++ closing), isIdle (trimChars l) = true := by
  have hread : linesFrom [] (cs ++ closing) = [cs] := by
    obtain rfl | hbrk := hclosing
    · have hne : cs ≠ [] := by
        obtain ⟨gap, mark, rest, rfl, -⟩ := h.exists_mark
        simp
      exact linesFrom_of_afterLine hone hne .nothing
    · rw [linesFrom_append hone, linesFrom_break hbrk]
      simp
  rw [hread]
  exact List.forall_mem_singleton.2 h.isIdle

/-- The lines of a text and of the text with a comment in one line.

**Proof sketch.** The lines before the comment are the same in both texts. Between two lines the
comment comes before the others or in place of an empty one; at the end it comes alone or after an
empty line. -/
lemma lines_of_withLine (hcomment : IsComment comment.toList) (hone : OneLine comment.toList)
    (h : WithLine comment text text') :
    ∃ (before : String) (ls ls' : List (List Char)), EndsLogicalLine before ∧ WithIdle ls ls' ∧
      linesFrom [] text.toList = linesFrom [] before.toList ++ ls ∧
      linesFrom [] text'.toList = linesFrom [] before.toList ++ ls' := by
  cases h with
  | @between before behind brk hclosed hends hbrk =>
    refine ⟨before, linesFrom [] behind.toList,
      linesFrom [] (comment.toList ++ (brk.toList ++ behind.toList)), hclosed, ?_, ?_, ?_⟩
    · obtain hline | ⟨ls, hbehind, hline⟩ := linesFrom_line_break hone hbrk behind.toList
      · rw [hline]
        exact .before hcomment.isIdle
      · rw [hline, hbehind]
        exact .instead isIdle_nil hcomment.isIdle
    · rw [String.toList_append, linesFrom_append_of_lineEndsBetween hends]
    · simp only [String.toList_append, List.append_assoc]
      exact linesFrom_append_of_lineEndsBetween (hcomment.lineEndsBetween hends _)
  | @atEnd before opening closing hclosed hopening hclosing =>
    have hidle : ∀ l ∈ linesFrom [] (comment.toList ++ closing.toList),
        isIdle (trimChars l) = true := by
      refine forall_isIdle_comment hcomment hone (hclosing.imp_left fun h => ?_)
      simp [h]
    obtain ⟨rfl, hends⟩ | hbrk := hopening
    · refine ⟨text, [], _, hclosed, .only hidle, by simp, ?_⟩
      simp only [String.toList_append, List.append_assoc]
      exact linesFrom_append_of_lineEndsBetween (hcomment.lineEndsBetween hends _)
    · have hends := lineEndsBetween_break hbrk text.toList
      have hcut := linesFrom_append_of_lineEndsBetween
        (hcomment.lineEndsBetween hends closing.toList)
      obtain hsame | hlonger := linesFrom_append_break hbrk [] text.toList
      · refine ⟨text, [], _, hclosed, .only hidle, by simp, ?_⟩
        simpa [hsame] using hcut
      · refine ⟨text, [], [] :: linesFrom [] (comment.toList ++ closing.toList), hclosed,
          .only (List.forall_mem_cons.2 ⟨isIdle_nil, hidle⟩), by simp, ?_⟩
        simpa [hlonger] using hcut

/-- **A comment in one line does not matter** where no logical line is open: what comes out is the
same, but that a mistake may come one line later. -/
theorem parseProperties_of_withLine (hcomment : IsComment comment.toList)
    (hone : OneLine comment.toList) (h : WithLine comment text text') :
    ∃ k ≤ 1, parseProperties text' = (parseProperties text).mapError (.later k) := by
  obtain ⟨before, ls, ls', hclosed, hidle, hlines, hlines'⟩ :=
    lines_of_withLine hcomment hone h
  rw [parseProperties_eq_outcome, parseProperties_eq_outcome, hlines, hlines']
  obtain ⟨s, number, hs, hread⟩ | ⟨e, hread⟩ := hclosed.cases_outcome
  · rw [hread, hread]
    exact PropertiesState.outcome_of_withIdle hs hidle number
  · refine ⟨0, Nat.zero_le 1, ?_⟩
    rw [hread, hread, mapError_error, PropertiesError.later_zero]

/-! ## Comments in several lines -/

/-- Lines that add nothing make up no logical lines. -/
lemma logicalLines_append_of_addsNothing {ls : List (List Char)}
    (h : ∀ l ∈ ls, addsNothing (trimChars l) = true) (number : Nat) (ms : List (List Char)) :
    logicalLines addsNothing number (ls ++ ms) =
      logicalLines addsNothing (number + ls.length) ms := by
  induction ls generalizing number with
  | nil => rfl
  | cons l ls ih =>
    obtain ⟨hl, hls⟩ := List.forall_mem_cons.1 h
    rw [List.cons_append, logicalLines, if_pos hl, ih hls, List.length_cons, Nat.add_right_comm]
    rfl

/-- Only lines that add nothing make up no logical lines. -/
lemma addsNothing_of_logicalLines_eq_nil {number : Nat} {ls : List (List Char)}
    (h : logicalLines addsNothing number ls = []) :
    ∀ l ∈ ls, addsNothing (trimChars l) = true := by
  induction ls generalizing number with
  | nil => exact List.forall_mem_nil _
  | cons l ls ih =>
    rw [logicalLines] at h
    split at h
    · rename_i hl
      exact List.forall_mem_cons.2 ⟨hl, ih h⟩
    · split at h <;> cases h

/-- Logical lines that are right give entries.

**Proof sketch.** Induction on the logical lines: each of them that is right sets an entry, and
entries are never taken away. -/
lemma readLogical_ne_nil {entries given : List (String × String)} {ls : List LogicalLine}
    (h : readLogical entries ls = .ok given) (hne : entries ≠ [] ∨ ls ≠ []) : given ≠ [] := by
  induction ls generalizing entries with
  | nil =>
    obtain rfl := Except.ok.inj h
    simpa using hne
  | cons l ls ih =>
    obtain ⟨next, hline, hrest⟩ := bind_eq_ok_iff.1 h
    refine ih hrest (.inl ?_)
    rw [readLine] at hline
    split at hline
    · cases hline
    · split at hline
      · obtain rfl := Except.ok.inj hline
        exact Entries.set_ne_nil _ _ _
      · cases hline

/-- A text that gives no entries is made of lines that add nothing. -/
lemma addsNothing_of_parseProperties (h : parseProperties text = .ok []) :
    ∀ l ∈ linesFrom [] text.toList, addsNothing (trimChars l) = true := by
  rw [parseProperties_eq_readLogical] at h
  apply addsNothing_of_logicalLines_eq_nil
  by_contra hne
  exact readLogical_ne_nil h (.inr hne) rfl

/-- No logical line is open before the first line. -/
lemma endsLogicalLine_empty : EndsLogicalLine "" := by
  refine .inl fun l hl => ?_
  simp [linesFrom, logicalLines] at hl

/-- Lines that add nothing move a mistake after them. -/
lemma parseProperties_of_addsNothing {ls : List (List Char)}
    (h : ∀ l ∈ ls, addsNothing (trimChars l) = true) {text : String}
    (htext : linesFrom [] text.toList = ls ++ [['=']]) :
    parseProperties text = .error (.malformed (1 + ls.length) "=") := by
  have hread : logicalLines addsNothing (1 + ls.length) [['=']] =
      [⟨1 + ls.length, [['=']], true⟩] := by
    have htrimmed : trimChars ['='] = ['='] := by decide +kernel
    have hadds : addsNothing ['='] = false := rfl
    have hcontinued : continued? ['='] = none := rfl
    simp [logicalLines, htrimmed, hadds, hcontinued]
  rw [parseProperties_eq_readLogical, htext, logicalLines_append_of_addsNothing h, hread]
  rfl

/-- A comment that does not matter in any text is one line.

**Proof sketch.** Put at the start of the empty text, the comment gives no entries, so each line of
it adds nothing. Put before a line without a key, it then moves the mistake by all of its lines,
which are two at least if it is not one line. -/
lemma oneLine_of_inert (hcomment : IsComment comment.toList)
    (h : ∀ text text', WithLine comment text text' →
      ∃ k ≤ 1, parseProperties text' = (parseProperties text).mapError (.later k)) :
    OneLine comment.toList := by
  by_contra hone
  -- Each line of the comment adds nothing, since the comment adds nothing to the empty text.
  have hnothing : ∀ l ∈ linesFrom [] comment.toList, addsNothing (trimChars l) = true := by
    have hend : WithLine comment "" ("" ++ "" ++ comment ++ "") :=
      .atEnd endsLogicalLine_empty (.inl ⟨rfl, .nil _⟩) (.inl rfl)
    obtain ⟨k, -, hempty⟩ := h _ _ hend
    have hnone : parseProperties "" = .ok [] := by decide +kernel
    rw [hnone, mapError_ok] at hempty
    exact addsNothing_of_parseProperties (by simpa using hempty)
  -- So the comment moves a mistake by as many lines as it has.
  have hbreak : IsLineBreak "\n".toList := .inl rfl
  have hbefore : WithLine comment ("" ++ "=") ("" ++ comment ++ "\n" ++ "=") :=
    .between endsLogicalLine_empty (.nil _) hbreak
  obtain ⟨k, hk, hmoved⟩ := h _ _ hbefore
  have hnothing' : ∀ l ∈ linesFrom [] (comment.toList ++ ['\n']),
      addsNothing (trimChars l) = true := by
    obtain hsame | hlonger := linesFrom_append_break (.inl rfl) [] comment.toList
    · rwa [hsame]
    · rw [hlonger]
      exact List.forall_mem_append.2 ⟨hnothing, List.forall_mem_singleton.2 rfl⟩
  have hlines : linesFrom [] ("" ++ comment ++ "\n" ++ "=").toList =
      linesFrom [] (comment.toList ++ ['\n']) ++ [['=']] := by
    have hequals : linesFrom [] ['='] = [['=']] := rfl
    simpa [hequals] using
      linesFrom_append_of_lineEndsBetween (lineEndsBetween_lineFeed comment.toList ['='])
  have hwrong : parseProperties ("" ++ "=") = .error (.malformed 1 "=") := by decide +kernel
  have hlong := one_lt_length_linesFrom hone hcomment.no_return []
  rw [parseProperties_of_addsNothing hnothing' hlines, hwrong, mapError_error] at hmoved
  have hsame := PropertiesError.malformed.inj (Except.error.inj hmoved)
  omega

/-- **Which comments do not matter.** A comment may hold any characters but line feeds and carriage
returns. It can be put between the logical lines of every text, with the same entries or the same
mistake, at most one line later, if and only if none of its characters ends a line for the reading
of properties. -/
theorem comment_inert_iff (hcomment : IsComment comment.toList) :
    (∀ text text', WithLine comment text text' →
      ∃ k ≤ 1, parseProperties text' = (parseProperties text).mapError (.later k)) ↔
      OneLine comment.toList :=
  ⟨oneLine_of_inert hcomment, fun hone _ _ h => parseProperties_of_withLine hcomment hone h⟩

end

/-- A comment that looks like a key with a value and ends with a backslash, between a key whose
value goes on over two lines and a line without a sign. -/
theorem comment_inert_iff_backslash :
    IsComment "  ! k=v\\".toList ∧ OneLine "  ! k=v\\".toList ∧
      WithLine "  ! k=v\\" ("x=1\\\r#2\n" ++ "\ny")
        ("x=1\\\r#2\n" ++ "  ! k=v\\" ++ "\r" ++ "\ny") ∧
      parseProperties ("x=1\\\r#2\n" ++ "\ny") = .error (.malformed 4 "y") ∧
      ∃ k ≤ 1, parseProperties ("x=1\\\r#2\n" ++ "  ! k=v\\" ++ "\r" ++ "\ny") =
        .error (.malformed (4 + k) "y") := by
  have hcomment : IsComment "  ! k=v\\".toList :=
    ⟨⟨"  ".toList, '!', " k=v\\".toList, rfl, by decide +kernel, .inr rfl⟩, by decide, by decide⟩
  have hone : OneLine "  ! k=v\\".toList := by decide
  have hlines : logicalLines isIdle 1 (linesFrom [] "x=1\\\r#2\n".toList) =
      [⟨1, ["x=1".toList, "#2".toList], true⟩] := by cbv
  have hclosed : EndsLogicalLine "x=1\\\r#2\n" := by
    refine .inl fun l hl => ?_
    rw [hlines] at hl
    rw [List.mem_singleton.1 hl]
  have hends : LineEndsBetween "x=1\\\r#2\n".toList "\ny".toList :=
    lineEndsBetween_lineFeed "x=1\\\r#2".toList _
  have hbreak : IsLineBreak "\r".toList := .inr (.inl rfl)
  have hwith : WithLine "  ! k=v\\" _ _ := .between hclosed hends hbreak
  have hwrong : parseProperties ("x=1\\\r#2\n" ++ "\ny") = .error (.malformed 4 "y") := by
    decide +kernel
  obtain ⟨k, hk, hmoved⟩ := (comment_inert_iff hcomment).2 hone _ _ hwith
  rw [hwrong] at hmoved
  exact ⟨hcomment, hone, hwith, hwrong, k, hk, hmoved⟩

/-- A comment that holds a next line character is taken for two lines, and the second is no
comment. -/
theorem parseProperties_brokenComment :
    IsComment "# a\u0085b".toList ∧
      WithLine "# a\u0085b" ("" ++ "x=1") ("" ++ "# a\u0085b" ++ "\n" ++ "x=1") ∧
      parseProperties ("" ++ "x=1") = .ok [("x", "1")] ∧
      parseProperties ("" ++ "# a\u0085b" ++ "\n" ++ "x=1") = .error (.malformed 2 "b") := by
  have hcomment : IsComment "# a\u0085b".toList :=
    ⟨⟨[], '#', " a\u0085b".toList, rfl, rfl, .inl rfl⟩, by decide, by decide⟩
  have hbreak : IsLineBreak "\n".toList := .inl rfl
  exact ⟨hcomment, .between endsLogicalLine_empty (.nil _) hbreak, by decide +kernel,
    by decide +kernel⟩

end JavaTree
