import Mathlib.Data.List.Basic
import JavaTree.Proofs.LogicalLines

/-!
# Properties of texts put together

What is left of a text that gives properties does not matter to the text that follows it: nothing is
pending, and the entries that are read later take the place of those before them.  So the properties
of two texts, one after the other, are those of the first with those of the second.

The two readings of the second text, alone and after the first, go on in step.  What is pending is
the same in both, and line numbers differ by the lines before; how entries are related is left open,
so that this serves wherever lines are read in another place.

## Main definitions

* `PropertiesError.later` — the same error some lines further down.
* `PropertiesState.Follows` — states of two readings that go on in step.
* `OutcomesInStep` — what comes of such readings.

## Main results

* `PropertiesState.Follows.step`, `PropertiesState.Follows.outcome` — a line and lines, read in
  step.
* `PropertiesState.outcome_append` — lines after others.
* `parseProperties_joined` — the properties of two texts put together.
-/

namespace JavaTree

/-- The same error some lines further down. -/
def PropertiesError.later (k : Nat) : PropertiesError → PropertiesError
  | malformed line text => malformed (line + k) text
  | unterminated line => unterminated (line + k)

/-- An error that is moved by no lines stays where it is. -/
lemma PropertiesError.later_zero (e : PropertiesError) : e.later 0 = e := by cases e <;> rfl

namespace PropertiesState

variable {s : PropertiesState} {number : Nat} {ls : List (List Char)}

/-! ## Lines after others -/

/-- Lines are read one after the other, with their numbers going on. -/
lemma run_append (s : PropertiesState) (number : Nat) (ls ms : List (List Char)) :
    s.run number (ls ++ ms) =
      (s.run number ls).bind fun t => t.run (number + ls.length) ms := by
  induction ls generalizing s number with
  | nil => rfl
  | cons l ls ih =>
    rw [List.cons_append, run, run]
    cases s.step number l with
    | error e => rfl
    | ok t =>
      have hrest := ih t (number + 1)
      rw [Nat.add_right_comm] at hrest
      exact hrest

/-- **Lines after others** come to what they come to after these. -/
lemma outcome_append (s : PropertiesState) (number : Nat) (ls ms : List (List Char)) :
    s.outcome number (ls ++ ms) =
      (s.run number ls).bind fun t => t.outcome (number + ls.length) ms := by
  rw [outcome, run_append]
  cases s.run number ls <;> rfl

/-- Lines that hold nothing to read are passed over where nothing is pending. -/
lemma run_idle (hs : s.pending = []) (h : ∀ l ∈ ls, isIdle (trimChars l) = true) :
    s.run number ls = .ok s := by
  induction ls generalizing number with
  | nil => rfl
  | cons l ls ih =>
    obtain ⟨hl, hls⟩ := List.forall_mem_cons.1 h
    rw [run, step_of_isIdle hs hl]
    exact ih hls

/-- The lines end well if and only if none of them is left open. -/
lemma finish_eq_ok_iff {entries : List (String × String)} :
    s.finish = .ok entries ↔ s.pending = [] ∧ s.entries = entries := by
  rw [finish]
  split
  · rename_i hpending
    exact ⟨fun h => ⟨List.isEmpty_iff.1 hpending, Except.ok.inj h⟩, fun h => congrArg _ h.2⟩
  · rename_i hpending
    refine iff_of_false (fun h => ?_) fun h => hpending (List.isEmpty_iff.2 h.1)
    cases h

/-! ## Readings in step -/

/-- States of two readings that go on in step: their entries are related, the same is pending, and
what is pending began some lines further down. -/
structure Follows (R : List (String × String) → List (String × String) → Prop) (k : Nat)
    (s t : PropertiesState) : Prop where
  entries : R s.entries t.entries
  pending : t.pending = s.pending
  start : s.pending ≠ [] → t.start = s.start + k

end PropertiesState

/-- What comes of readings that go on in step: related entries, or the same error further down. -/
inductive OutcomesInStep (R : List (String × String) → List (String × String) → Prop) (k : Nat) :
    Except PropertiesError (List (String × String)) →
    Except PropertiesError (List (String × String)) → Prop
  | ok {entries entries' : List (String × String)} :
      R entries entries' → OutcomesInStep R k (.ok entries) (.ok entries')
  | error (e : PropertiesError) : OutcomesInStep R k (.error e) (.error (e.later k))

namespace PropertiesState

variable {R : List (String × String) → List (String × String) → Prop} {k : Nat}
  {s t : PropertiesState}

/-- **A line keeps readings in step**, or is wrong in both.

**Proof sketch.** What is pending is the same in both, so a line is idle, continued or complete in
both, or wrong in both; only what it completes is set in entries that are related before and after.
-/
lemma Follows.step
    (hR : ∀ {es es'} key value, R es es' → R (Entries.set es key value) (Entries.set es' key value))
    (h : Follows R k s t) (number : Nat) (raw : List Char) :
    (∃ s' t', s.step number raw = .ok s' ∧ t.step (number + k) raw = .ok t' ∧ Follows R k s' t') ∨
      ∃ e, s.step number raw = .error e ∧ t.step (number + k) raw = .error (e.later k) := by
  obtain ⟨entries, pending, start⟩ := s
  obtain ⟨entries', pending', start'⟩ := t
  obtain rfl : pending' = pending := h.pending
  have hstart : (if pending'.isEmpty then number + k else start') =
      (if pending'.isEmpty then number else start) + k := by
    split
    · rfl
    · rename_i hpending
      exact h.start fun hnil => hpending (List.isEmpty_iff.2 hnil)
  simp only [PropertiesState.step, hstart]
  split
  · exact .inl ⟨_, _, rfl, rfl, h⟩
  · cases continued? (trimChars raw) with
    | some part => exact .inl ⟨_, _, rfl, rfl, h.entries, rfl, fun _ => rfl⟩
    | none =>
      cases splitEntry? (pending' ++ trimChars raw) with
      | some entry =>
        exact .inl ⟨_, _, rfl, rfl, hR _ _ h.entries, rfl, fun hne => absurd rfl hne⟩
      | none => exact .inr ⟨_, rfl, rfl⟩

/-- **What lines come to** in two readings that are in step.

**Proof sketch.** Induction on the lines by `Follows.step`. Where a line is open in the end, it
began at lines that differ by the same number. -/
theorem Follows.outcome
    (hR : ∀ {es es'} key value, R es es' → R (Entries.set es key value) (Entries.set es' key value))
    (h : Follows R k s t) (number : Nat) (ls : List (List Char)) :
    OutcomesInStep R k (s.outcome number ls) (t.outcome (number + k) ls) := by
  induction ls generalizing s t number with
  | nil =>
    simp only [PropertiesState.outcome, run, Except.bind, finish, h.pending]
    split
    · exact .ok h.entries
    · rename_i hpending
      rw [h.start fun hnil => hpending (List.isEmpty_iff.2 hnil)]
      exact .error _
  | cons l ls ih =>
    rw [outcome_cons, outcome_cons]
    obtain ⟨s', t', hs, ht, h'⟩ | ⟨e, hs, ht⟩ := h.step hR number l
    · rw [hs, ht, Nat.add_right_comm]
      exact ih h' (number + 1)
    · rw [hs, ht]
      exact .error e

end PropertiesState

/-! ## Two texts -/

/-- A text is read by its lines from the first on, with nothing before it. -/
lemma parseProperties_eq_outcome (text : String) :
    parseProperties text = PropertiesState.outcome {} 1 (linesFrom [] text.toList) := by
  rw [PropertiesState.outcome, parseProperties]
  cases PropertiesState.run {} 1 (linesFrom [] text.toList) <;> rfl

/-- An empty line is idle. -/
lemma isIdle_nil : isIdle (trimChars []) = true := rfl

/-- A text that gives properties leaves nothing pending, also if a line feed ends it. -/
lemma exists_run_of_parseProperties {first : String} {entries : List (String × String)}
    (h : parseProperties first = .ok entries) :
    ∃ s : PropertiesState, s.pending = [] ∧ s.entries = entries ∧
      PropertiesState.run {} 1 (linesFrom [] (first ++ "\n").toList) = .ok s := by
  rw [parseProperties_eq_outcome, PropertiesState.outcome] at h
  obtain ⟨s, hrun, hfinish⟩ := bind_eq_ok_iff.1 h
  obtain ⟨hpending, hentries⟩ := PropertiesState.finish_eq_ok_iff.1 hfinish
  refine ⟨s, hpending, hentries, ?_⟩
  have hbreak : IsLineBreak "\n".toList := .inl rfl
  rw [String.toList_append]
  obtain hsame | hlonger := linesFrom_append_break hbreak [] first.toList
  · rwa [hsame]
  · rw [hlonger, PropertiesState.run_append, hrun]
    exact PropertiesState.run_idle hpending (List.forall_mem_singleton.2 isIdle_nil)

/-- A text after a line feed has lines of its own. -/
lemma linesFrom_lineFeed_append (first second : String) :
    linesFrom [] (first ++ "\n" ++ second).toList =
      linesFrom [] (first ++ "\n").toList ++ linesFrom [] second.toList := by
  have hends : LineEndsBetween (first ++ "\n").toList second.toList := by
    rw [String.toList_append]
    exact lineEndsBetween_lineFeed _ _
  rw [String.toList_append, linesFrom_append_of_lineEndsBetween hends]

/-- The readings of a text alone, and after one that gives properties, are in step: what is set in
the entries of the text alone is set in those of both.

**Proof sketch.** After the first text nothing is pending and its entries are set, which relates
them to none. A value that is set in the entries of the second text alone is set in the updated
ones, by `Entries.update_set`. -/
lemma inStep_joined {first : String} {entries : List (String × String)}
    (h : parseProperties first = .ok entries) (second : String) :
    OutcomesInStep (fun es es' => (es.map (·.1)).Nodup ∧ es' = Entries.update entries es)
      (lines (first ++ "\n")).length (parseProperties second)
      (parseProperties (first ++ "\n" ++ second)) := by
  obtain ⟨s, hpending, hentries, hrun⟩ := exists_run_of_parseProperties h
  have hstart : PropertiesState.Follows
      (fun es es' => (es.map (·.1)).Nodup ∧ es' = Entries.update entries es)
      (lines (first ++ "\n")).length {} s :=
    ⟨⟨List.nodup_nil, hentries⟩, hpending, fun hne => absurd rfl hne⟩
  have hboth : parseProperties (first ++ "\n" ++ second) =
      s.outcome (1 + (lines (first ++ "\n")).length) (linesFrom [] second.toList) := by
    rw [parseProperties_eq_outcome, linesFrom_lineFeed_append, PropertiesState.outcome_append, hrun,
      lines, List.length_map]
    rfl
  rw [hboth, parseProperties_eq_outcome second]
  refine hstart.outcome ?_ 1 (linesFrom [] second.toList)
  rintro es es' key value ⟨hes, rfl⟩
  exact ⟨Entries.nodup_set hes key value,
    (Entries.update_set (nodup_of_parseProperties h) hes key value).symm⟩

/-- **Properties of two texts put together.** If a text gives entries, and another one follows after
a line feed, the lines of both come one after the other.  If the second gives entries as well, then
both together give the entries of the first in their places, with the values that the second gives
to their keys, and after them what is new in the second, in order.  If the second is wrong, both
together are wrong for the same logical line.

**Proof sketch.** The readings of the second text alone and behind the first one are in step. If
they give entries, these are an update of those of the first text, which `Entries.update_eq_append`
takes apart. -/
theorem parseProperties_joined {first : String} {entries : List (String × String)}
    (h : parseProperties first = .ok entries) (second : String) :
    lines (first ++ "\n" ++ second) = lines (first ++ "\n") ++ lines second ∧
    (∀ more, parseProperties second = .ok more →
      parseProperties (first ++ "\n" ++ second) =
        .ok ((entries.map fun e => (e.1, (more.lookup e.1).getD e.2)) ++
          more.filter fun e => (entries.lookup e.1).isNone)) ∧
    ∀ e, parseProperties second = .error e →
      parseProperties (first ++ "\n" ++ second) =
        .error (e.later (lines (first ++ "\n")).length) := by
  have hstep := inStep_joined h second
  refine ⟨?_, fun more hmore => ?_, fun e he => ?_⟩
  · rw [lines, linesFrom_lineFeed_append, List.map_append]
    rfl
  · rw [hmore] at hstep
    generalize parseProperties (first ++ "\n" ++ second) = joined at hstep
    cases hstep with
    | ok hrelated =>
      obtain ⟨hnodup, rfl⟩ := hrelated
      rw [Entries.update_eq_append (nodup_of_parseProperties h) hnodup]
  · rw [he] at hstep
    generalize parseProperties (first ++ "\n" ++ second) = joined at hstep
    cases hstep with
    | error => rfl

/-- After a text that ends with a line which holds only the mark that it goes on, a second one gives
a key another value and adds a key; and a third one is wrong in its second line. -/
theorem parseProperties_joined_bareEnd :
    parseProperties "a=1\nb=2\r\n\\" = .ok [("a", "1"), ("b", "2")] ∧
      parseProperties "b:3\n#\nc=4" = .ok [("b", "3"), ("c", "4")] ∧
      parseProperties ("a=1\nb=2\r\n\\" ++ "\n" ++ "b:3\n#\nc=4") =
        .ok [("a", "1"), ("b", "3"), ("c", "4")] ∧
      parseProperties "c=4\nd\\" = .error (.unterminated 2) ∧
      parseProperties ("a=1\nb=2\r\n\\" ++ "\n" ++ "c=4\nd\\") = .error (.unterminated 5) := by
  have hfirst : parseProperties "a=1\nb=2\r\n\\" = .ok [("a", "1"), ("b", "2")] := by
    decide +kernel
  have hsecond : parseProperties "b:3\n#\nc=4" = .ok [("b", "3"), ("c", "4")] := by
    decide +kernel
  have hthird : parseProperties "c=4\nd\\" = .error (.unterminated 2) := by decide +kernel
  obtain ⟨-, hmore, -⟩ := parseProperties_joined hfirst "b:3\n#\nc=4"
  obtain ⟨-, -, hwrong⟩ := parseProperties_joined hfirst "c=4\nd\\"
  have hlength : (lines ("a=1\nb=2\r\n\\" ++ "\n")).length = 3 := by decide +kernel
  refine ⟨hfirst, hsecond, (hmore _ hsecond).trans ?_, hthird, (hwrong _ hthird).trans ?_⟩
  · decide +kernel
  · rw [hlength]
    rfl

end JavaTree
