import Mathlib.Data.List.Basic
import JavaTree.Proofs.Properties
import JavaTree.Proofs.Results

/-!
# Properties in two phases

Properties are read line by line, in one pass.  The same comes out if physical lines are put
together first, and the lines that come of it are cut into keys and values then, except for one
thing: a line that holds only the mark that it goes on leaves nothing pending, so that in one pass
it does not begin a logical line.

## Main definitions

* `addsNothing` — the lines that do not begin a logical line when they are read in one pass.
* `PropertiesState.outcome` — what further lines come to.

## Main results

* `PropertiesState.outcome_of_pending` — how a logical line is completed.
* `PropertiesState.outcome_eq_readLogical` — what lines come to, by logical lines.
* `logicalLines_addsNothing_eq_iff` — when the logical lines are the same.
* `parseProperties_twoPhase` — one pass and two phases.
-/

namespace JavaTree

/-- Whether a line, without blanks around it, adds nothing where no logical line is open: it holds
nothing to read, or only the mark that it goes on. -/
def addsNothing (line : List Char) : Bool := isIdle line || line == ['\\']

/-- A line adds something if it is neither idle nor a lone backslash. -/
lemma addsNothing_eq_false_iff {line : List Char} :
    addsNothing line = false ↔ isIdle line = false ∧ line ≠ ['\\'] := by
  rw [addsNothing, Bool.or_eq_false_iff, beq_eq_false_iff_ne]

/-- A line that goes on contributes nothing if it is only the mark for it. -/
lemma continued?_eq_some_nil_iff {line : List Char} :
    continued? line = some [] ↔ line = ['\\'] := continued?_eq_some_iff

namespace PropertiesState

variable {entries : List (String × String)} {pending : List Char} {number start next : Nat}
  {raw : List Char} {ls : List (List Char)} {parts : List (List Char)}

/-- What further lines come to, the first of which has the given number. -/
def outcome (s : PropertiesState) (number : Nat) (ls : List (List Char)) :
    Except PropertiesError (List (String × String)) :=
  (s.run number ls).bind finish

/-- The outcome of lines is that of the first, then of the others. -/
lemma outcome_cons (s : PropertiesState) (number : Nat) (raw : List Char) (ls : List (List Char)) :
    s.outcome number (raw :: ls) =
      (s.step number raw).bind fun s' => s'.outcome (number + 1) ls := by
  rw [outcome, run]
  cases s.step number raw <;> rfl

/-! ## One line -/

/-- A line that begins a logical line or takes it further, and goes on. -/
lemma outcome_of_continued {part : List Char} (s : PropertiesState)
    (hread : s.pending = [] → isIdle (trimChars raw) = false)
    (hraw : continued? (trimChars raw) = some part) :
    s.outcome number (raw :: ls) =
      outcome ⟨s.entries, s.pending ++ part, if s.pending.isEmpty then number else s.start⟩
        (number + 1) ls := by
  have hread' : (s.pending.isEmpty && isIdle (trimChars raw)) = false := by
    rw [Bool.and_eq_false_imp, List.isEmpty_iff]
    exact hread
  rw [outcome_cons, step]
  simp only [hread', hraw]
  rfl

/-- A line that ends a logical line. -/
lemma outcome_of_complete (s : PropertiesState)
    (hread : s.pending = [] → isIdle (trimChars raw) = false)
    (hraw : continued? (trimChars raw) = none)
    (hpending : parts.flatten = s.pending) :
    s.outcome number (raw :: ls) =
      (readLine s.entries
        ⟨if s.pending.isEmpty then number else s.start, parts ++ [trimChars raw], true⟩).bind
        fun entries => outcome ⟨entries, [], if s.pending.isEmpty then number else s.start⟩
          (number + 1) ls := by
  have hread' : (s.pending.isEmpty && isIdle (trimChars raw)) = false := by
    rw [Bool.and_eq_false_imp, List.isEmpty_iff]
    exact hread
  have htext : (parts ++ [trimChars raw]).flatten = s.pending ++ trimChars raw := by
    rw [List.flatten_append, hpending, List.flatten_singleton]
  rw [outcome_cons, step, readLine]
  simp only [hread', hraw, LogicalLine.text, htext]
  cases splitEntry? (s.pending ++ trimChars raw) <;> rfl

/-! ## Logical lines -/

/-- **How a logical line is completed** of which something is pending.

**Proof sketch.** Induction on the lines that follow: each that is continued adds its part to what
is pending, and the first one that is not completes the logical line. -/
lemma outcome_of_pending (hne : parts.flatten ≠ []) (entries : List (String × String))
    (start next : Nat) (ls : List (List Char)) :
    outcome ⟨entries, parts.flatten, start⟩ next ls =
      (readLine entries (takeLogical start parts next ls).1).bind fun entries =>
        outcome ⟨entries, [], start⟩ (takeLogical start parts next ls).2.1
          (takeLogical start parts next ls).2.2 := by
  have hempty : parts.flatten.isEmpty = false := by rwa [List.isEmpty_eq_false_iff]
  induction ls generalizing parts next with
  | nil =>
    rw [outcome, run, takeLogical, readLine]
    simp only [Except.bind, finish, hempty]
    rfl
  | cons raw ls ih =>
    have hread : parts.flatten = [] → isIdle (trimChars raw) = false := fun h => absurd h hne
    rw [takeLogical]
    cases hraw : continued? (trimChars raw) with
    | some part =>
      have htext : (parts ++ [part]).flatten = parts.flatten ++ part := by
        rw [List.flatten_append, List.flatten_singleton]
      have hne' : (parts ++ [part]).flatten ≠ [] := by
        rw [htext]
        exact fun h => hne (List.append_eq_nil_iff.1 h).1
      rw [outcome_of_continued _ hread hraw]
      simp only [hempty, Bool.false_eq_true, if_false, ← htext]
      exact ih hne' (next + 1) (by rwa [List.isEmpty_eq_false_iff])
    | none =>
      rw [outcome_of_complete _ hread hraw rfl]
      simp only [hempty, Bool.false_eq_true, if_false]

/-- A line that adds nothing is passed over where nothing is pending. -/
lemma exists_outcome_of_addsNothing (h : addsNothing (trimChars raw) = true)
    (entries : List (String × String)) (start number : Nat) (ls : List (List Char)) :
    ∃ start', outcome ⟨entries, [], start⟩ number (raw :: ls) =
      outcome ⟨entries, [], start'⟩ (number + 1) ls := by
  cases hidle : isIdle (trimChars raw) with
  | true =>
    refine ⟨start, ?_⟩
    rw [outcome_cons, step_of_isIdle rfl hidle]
    rfl
  | false =>
    have hmark : trimChars raw = ['\\'] := by
      rw [addsNothing, hidle, Bool.false_or] at h
      exact beq_iff_eq.1 h
    exact ⟨number, outcome_of_continued _ (fun _ => hidle) (continued?_eq_some_nil_iff.2 hmark)⟩

/-- **What lines come to** where nothing is pending: they are put together to logical lines, and
these are read one after the other.

**Proof sketch.** Induction along the logical lines. A line that adds nothing is passed over, one
that is not continued is complete in itself, and one that is continued is completed by those taken
with it. -/
theorem outcome_eq_readLogical (entries : List (String × String)) (start number : Nat)
    (ls : List (List Char)) :
    outcome ⟨entries, [], start⟩ number ls =
      readLogical entries (logicalLines addsNothing number ls) := by
  fun_induction logicalLines addsNothing number ls generalizing entries start with
  | case1 number => rfl
  | case2 number raw ls hnothing ih =>
    obtain ⟨start', hpassed⟩ := exists_outcome_of_addsNothing hnothing entries start number ls
    rw [hpassed, ih]
  | case3 number raw ls hadds hraw ih =>
    obtain ⟨hread, -⟩ := addsNothing_eq_false_iff.1 (Bool.not_eq_true _ ▸ hadds)
    have hnone : ([] : List (List Char)).flatten = [] := rfl
    rw [outcome_of_complete ⟨entries, [], start⟩ (fun _ => hread) hraw hnone, readLogical]
    simp only [List.isEmpty_nil, if_true, List.nil_append, ih]
  | case4 number raw ls hadds part hraw hlength taken ih =>
    obtain ⟨hread, hmark⟩ := addsNothing_eq_false_iff.1 (Bool.not_eq_true _ ▸ hadds)
    have hpart : [part].flatten ≠ [] := by
      rw [List.flatten_singleton]
      rintro rfl
      exact hmark (continued?_eq_some_nil_iff.1 hraw)
    have htaken := outcome_of_pending hpart entries number (number + 1) ls
    rw [List.flatten_singleton] at htaken
    rw [outcome_of_continued _ (fun _ => hread) hraw, readLogical]
    simp only [taken] at ih ⊢
    simp only [List.isEmpty_nil, if_true, List.nil_append, htaken, ih]

end PropertiesState

/-- **One pass reads logical lines**, none of which begins with a line that holds only the mark that
it goes on. -/
theorem parseProperties_eq_readLogical (text : String) :
    parseProperties text =
      readLogical [] (logicalLines addsNothing 1 (linesFrom [] text.toList)) := by
  rw [← PropertiesState.outcome_eq_readLogical [] 0, PropertiesState.outcome, parseProperties]
  cases PropertiesState.run ⟨[], [], 0⟩ 1 (linesFrom [] text.toList) <;> rfl

/-! ## Where the logical lines are the same -/

/-- A logical line begins with a line that holds only the mark that it goes on: its first part is
empty. -/
def LogicalLine.BeginsBare (l : LogicalLine) : Prop := l.parts.head? = some []

instance : DecidablePred LogicalLine.BeginsBare :=
  fun l => inferInstanceAs (Decidable (l.parts.head? = some []))

section

variable {number : Nat} {ls : List (List Char)}

/-- The first part of a logical line is the line it begins with. -/
lemma head?_parts_takeLogical {part : List Char} (number : Nat) (parts : List (List Char))
    (next : Nat) (ls : List (List Char)) :
    (takeLogical number (part :: parts) next ls).1.parts.head? = some part := by
  induction ls generalizing parts next with
  | nil => rfl
  | cons l ls ih =>
    rw [takeLogical]
    split
    · exact ih _ _
    · rfl

/-- In one pass no logical line begins so. -/
lemma not_beginsBare_of_mem : ∀ l ∈ logicalLines addsNothing number ls, ¬ l.BeginsBare := by
  fun_induction logicalLines addsNothing number ls with
  | case1 number => exact List.forall_mem_nil _
  | case2 number raw ls hnothing ih => exact ih
  | case3 number raw ls hadds hraw ih =>
    refine List.forall_mem_cons.2 ⟨fun hbare => ?_, ih⟩
    have hnil : trimChars raw = [] := Option.some.inj hbare
    rw [hnil] at hadds
    exact hadds rfl
  | case4 number raw ls hadds part hraw hlength taken ih =>
    refine List.forall_mem_cons.2 ⟨fun hbare => ?_, ih⟩
    obtain rfl : part = [] := Option.some.inj ((head?_parts_takeLogical _ _ _ _).symm.trans hbare)
    rw [continued?_eq_some_nil_iff.1 hraw] at hadds
    exact hadds rfl

/-- **The logical lines of one pass are those of two phases** if and only if none of these begins
with a line that holds only the mark that it goes on.

**Proof sketch.** No logical line of one pass begins bare. If none of two phases does, then
induction along them: a line that adds nothing without being idle would begin one. -/
theorem logicalLines_addsNothing_eq_iff :
    logicalLines addsNothing number ls = logicalLines isIdle number ls ↔
      ∀ l ∈ logicalLines isIdle number ls, ¬ l.BeginsBare := by
  constructor
  · intro h
    rw [← h]
    exact not_beginsBare_of_mem
  · intro h
    fun_induction logicalLines isIdle number ls with
    | case1 number => rw [logicalLines]
    | case2 number raw ls hidle ih =>
      have hnothing : addsNothing (trimChars raw) = true := by rw [addsNothing, hidle, Bool.true_or]
      rw [logicalLines, if_pos hnothing, ih h]
    | case3 number raw ls hread hraw ih =>
      obtain ⟨-, hls⟩ := List.forall_mem_cons.1 h
      have hadds : addsNothing (trimChars raw) = false := by
        refine addsNothing_eq_false_iff.2 ⟨Bool.not_eq_true _ ▸ hread, fun hmark => ?_⟩
        rw [hmark] at hraw
        cases hraw
      rw [logicalLines, if_neg (by rw [hadds]; exact Bool.false_ne_true), hraw]
      simp only [ih hls]
    | case4 number raw ls hread part hraw hlength taken ih =>
      obtain ⟨hfirst, hls⟩ := List.forall_mem_cons.1 h
      have hadds : addsNothing (trimChars raw) = false := by
        refine addsNothing_eq_false_iff.2 ⟨Bool.not_eq_true _ ▸ hread, fun hmark => hfirst ?_⟩
        rw [hmark] at hraw
        obtain rfl : [] = part := Option.some.inj hraw
        exact head?_parts_takeLogical _ _ _ _
      rw [logicalLines, if_neg (by rw [hadds]; exact Bool.false_ne_true), hraw]
      simp only [taken] at ih hls ⊢
      simp only [ih hls]

end

/-- **One pass and two phases.**  One pass reads the logical lines of a text as two phases do, but
for a line that holds only the mark that it goes on: this does not begin a logical line.  The
logical lines are the same if and only if none of those of two phases begins with such a line, and
then the same comes out. -/
theorem parseProperties_twoPhase (text : String) :
    parseProperties text =
      readLogical [] (logicalLines addsNothing 1 (linesFrom [] text.toList)) ∧
    (logicalLines addsNothing 1 (linesFrom [] text.toList) =
        logicalLines isIdle 1 (linesFrom [] text.toList) ↔
      ∀ l ∈ logicalLines isIdle 1 (linesFrom [] text.toList), ¬ l.BeginsBare) ∧
    ((∀ l ∈ logicalLines isIdle 1 (linesFrom [] text.toList), ¬ l.BeginsBare) →
      parseProperties text = twoPhaseProperties text) := by
  refine ⟨parseProperties_eq_readLogical text, logicalLines_addsNothing_eq_iff, fun h => ?_⟩
  rw [parseProperties_eq_readLogical, logicalLines_addsNothing_eq_iff.2 h, twoPhaseProperties]

/-- A line that goes on takes in the next one, though it looks like a comment. -/
theorem parseProperties_twoPhase_continued :
    (∀ l ∈ logicalLines isIdle 1 (linesFrom [] "!\na = 1\\\n#2\nb:x".toList), ¬ l.BeginsBare) ∧
      parseProperties "!\na = 1\\\n#2\nb:x" = .ok [("a", "1#2"), ("b", "x")] ∧
      twoPhaseProperties "!\na = 1\\\n#2\nb:x" = .ok [("a", "1#2"), ("b", "x")] := by
  have hlines : logicalLines isIdle 1 (linesFrom [] "!\na = 1\\\n#2\nb:x".toList) =
      [⟨2, ["a = 1".toList, "#2".toList], true⟩, ⟨4, ["b:x".toList], true⟩] := by cbv
  have hbare : ∀ l ∈ logicalLines isIdle 1 (linesFrom [] "!\na = 1\\\n#2\nb:x".toList),
      ¬ l.BeginsBare := by
    rw [hlines]
    decide
  have hresult : parseProperties "!\na = 1\\\n#2\nb:x" = .ok [("a", "1#2"), ("b", "x")] := by
    decide +kernel
  obtain ⟨-, -, hsame⟩ := parseProperties_twoPhase "!\na = 1\\\n#2\nb:x"
  exact ⟨hbare, hresult, (hsame hbare).symm.trans hresult⟩

/-- A text that is only the mark that its line goes on is no mistake in one pass, and a comment
after such a line is passed over. -/
theorem parseProperties_bareLine :
    parseProperties "\\" = .ok [] ∧ twoPhaseProperties "\\" = .error (.unterminated 1) ∧
      parseProperties "\\\n#a=b" = .ok [] ∧ twoPhaseProperties "\\\n#a=b" = .ok [("#a", "b")] := by
  refine ⟨by decide +kernel, ?_, by decide +kernel, ?_⟩
  · cbv
  · cbv

end JavaTree
