import Mathlib.Data.List.Basic
import JavaTree.Path

/-!
# Paths and their texts

The text of a relative path is read as the path, and joining and taking apart are inverse: the way
from a root to a path below it leads from the root to the path.

## Main definitions

* `Path.IsPart` — texts that can be a part of a path.

## Main results

* `Path.ofString_text` — a relative path is read from its text.
* `relativePath_append` — the way from a root to a path below it.
-/

namespace JavaTree

namespace Path

/-- A text that can be a part of a path: it is not empty, not a single point, and holds no slash. -/
structure IsPart (part : String) : Prop where
  ne_empty : part ≠ ""
  ne_point : part ≠ "."
  no_slash : '/' ∉ part.toList

/-! ## Cutting at slashes -/

section

variable {part cs : List Char}

/-- A text without a slash is one part. -/
lemma splitSlashes_of_not_mem (h : '/' ∉ cs) : splitSlashes part cs = [part.reverse ++ cs] := by
  induction cs generalizing part with
  | nil => rw [splitSlashes, List.append_nil]
  | cons c cs ih =>
    have hc : c ≠ '/' := fun hc => h (hc ▸ List.mem_cons_self)
    have hcs : '/' ∉ cs := fun hcs => h (List.mem_cons_of_mem c hcs)
    rw [splitSlashes, if_neg (by simpa using hc), ih hcs, List.reverse_cons, List.append_assoc]
    rfl

/-- A part ends at the first slash. -/
lemma splitSlashes_append (h : '/' ∉ cs) (rest : List Char) :
    splitSlashes part (cs ++ '/' :: rest) = (part.reverse ++ cs) :: splitSlashes [] rest := by
  induction cs generalizing part with
  | nil => rw [List.nil_append, splitSlashes, if_pos (by rfl), List.append_nil]
  | cons c cs ih =>
    have hc : c ≠ '/' := fun hc => h (hc ▸ List.mem_cons_self)
    have hcs : '/' ∉ cs := fun hcs => h (List.mem_cons_of_mem c hcs)
    rw [List.cons_append, splitSlashes, if_neg (by simpa using hc), ih hcs, List.reverse_cons,
      List.append_assoc]
    rfl

/-- Texts without slashes that are joined by slashes are what the result is cut into. -/
lemma splitSlashes_intercalate {texts : List (List Char)} (hne : texts ≠ [])
    (h : ∀ text ∈ texts, '/' ∉ text) : splitSlashes [] (['/'].intercalate texts) = texts := by
  induction texts with
  | nil => exact absurd rfl hne
  | cons text texts ih =>
    have htext := h text List.mem_cons_self
    cases texts with
    | nil => rw [List.intercalate_singleton, splitSlashes_of_not_mem htext]; rfl
    | cons next texts =>
      have hrest := ih (List.cons_ne_nil next texts) fun t ht => h t (List.mem_cons_of_mem text ht)
      rw [List.intercalate_cons_cons, List.append_assoc, List.singleton_append,
        splitSlashes_append htext, hrest]
      rfl

/-- What is cut at slashes holds none. -/
lemma not_mem_of_mem_splitSlashes (h : '/' ∉ part) : ∀ text ∈ splitSlashes part cs, '/' ∉ text := by
  induction cs generalizing part with
  | nil =>
    rw [splitSlashes]
    exact List.forall_mem_singleton.2 (by simpa using h)
  | cons c cs ih =>
    rw [splitSlashes]
    split
    · exact List.forall_mem_cons.2 ⟨by simpa using h, ih List.not_mem_nil⟩
    · rename_i hc
      refine ih fun hmem => ?_
      rcases List.mem_cons.1 hmem with rfl | hmem
      · exact hc BEq.rfl
      · exact h hmem

end

/-! ## Texts of paths -/

section

variable {parts : List String}

/-- A part of a path is counted as one. -/
lemma IsPart.counts {part : String} (h : IsPart part) : Path.counts part.toList = true := by
  have hempty : part.toList ≠ [] := fun hnil => h.ne_empty (String.toList_injective hnil)
  have hpoint : part.toList ≠ ['.'] := fun heq => h.ne_point (String.toList_injective heq)
  simp [Path.counts, hempty, hpoint]

/-- The text of a path from here is its parts with slashes between them. -/
lemma toList_text (hne : parts ≠ []) :
    (Path.mk .here parts).text.toList = ['/'].intercalate (parts.map String.toList) := by
  have hparts : parts.isEmpty = false := by simpa using hne
  rw [text, hparts, Bool.and_false, if_neg Bool.false_ne_true, Anchor.text, String.empty_append,
    String.toList_intercalate]
  rfl

/-- A text of parts that are not empty begins with no slash, so its path is one from here. -/
lemma ofChars_intercalate {texts : List (List Char)} (h : ∀ text ∈ texts, '/' ∉ text)
    (hempty : ∀ text ∈ texts, text ≠ []) : Anchor.ofChars (['/'].intercalate texts) = .here := by
  rcases texts with _ | ⟨text, texts⟩
  · rfl
  · rcases text with _ | ⟨c, cs⟩
    · exact absurd rfl (hempty [] List.mem_cons_self)
    · have hc : c ≠ '/' := fun hc => h (c :: cs) List.mem_cons_self (hc ▸ List.mem_cons_self)
      have hhead : ∃ rest, ['/'].intercalate ((c :: cs) :: texts) = c :: rest := by
        cases texts with
        | nil => exact ⟨cs, List.intercalate_singleton⟩
        | cons next texts => exact ⟨_, List.intercalate_cons_cons⟩
      obtain ⟨rest, hrest⟩ := hhead
      rw [hrest]
      unfold Anchor.ofChars
      split <;> simp_all

/-- **A relative path is read from its text.**

**Proof sketch.** The text is the parts with slashes between them, and none of them holds a slash or
is left out, so splitting it gives them back. -/
theorem ofString_text (hne : parts ≠ []) (h : ∀ part ∈ parts, IsPart part) :
    ofString (Path.mk .here parts).text = ⟨.here, parts⟩ := by
  have hslash : ∀ text ∈ parts.map String.toList, '/' ∉ text := by
    intro text htext
    obtain ⟨part, hpart, rfl⟩ := List.mem_map.1 htext
    exact (h part hpart).no_slash
  have hempty : ∀ text ∈ parts.map String.toList, text ≠ [] := by
    intro text htext hnil
    obtain ⟨part, hpart, rfl⟩ := List.mem_map.1 htext
    exact (h part hpart).ne_empty (String.toList_injective hnil)
  have hcounts : (parts.map String.toList).filter counts = parts.map String.toList := by
    apply List.filter_eq_self.2
    intro text htext
    obtain ⟨part, hpart, rfl⟩ := List.mem_map.1 htext
    exact (h part hpart).counts
  have hmap : parts.map String.toList ≠ [] := by simpa using hne
  rw [ofString, toList_text hne, ofChars_intercalate hslash hempty,
    splitSlashes_intercalate hmap hslash, hcounts, List.map_map]
  congr 1
  simp [Function.comp_def]

/-- What a text is read as has proper parts. -/
lemma isPart_of_mem_ofString (s : String) : ∀ part ∈ (ofString s).parts, IsPart part := by
  refine List.forall_mem_map.2 fun text htext => ?_
  obtain ⟨hmem, hcounts⟩ := List.mem_filter.1 htext
  have hslash := not_mem_of_mem_splitSlashes List.not_mem_nil text hmem
  obtain ⟨hempty, hpoint⟩ := (Bool.and_eq_true _ _).mp hcounts
  refine ⟨fun h => ?_, fun h => ?_, by rwa [String.toList_ofList]⟩
  · have hnil := congrArg String.toList h
    rw [String.toList_ofList] at hnil
    simp [hnil] at hempty
  · have hpoint' := congrArg String.toList h
    rw [String.toList_ofList] at hpoint'
    simp [hpoint'] at hpoint

end

/-! ## Taking a path out of another -/

/-- The start of an appended list can be dropped. -/
lemma dropStart?_append (start parts : List String) :
    dropStart? start (start ++ parts) = some parts := by
  induction start with
  | nil => rfl
  | cons a start ih => rw [List.cons_append, dropStart?, if_pos BEq.rfl, ih]

/-- An absolute path is not moved under a folder. -/
lemma under_of_isAbsolute {p folder : Path} (h : p.isAbsolute = true) : p.under folder = p := by
  rw [under, if_pos h]

/-- A path seen from an absolute folder is absolute. -/
lemma isAbsolute_under {folder : Path} (p : Path) (h : folder.isAbsolute = true) :
    (p.under folder).isAbsolute = true := by
  unfold under
  split
  · assumption
  · exact h

end Path

/-- **The way from a root to a path below it** is the text of the parts between them. -/
theorem relativePath_append (folder root : Path) {parts : List String} (hne : parts ≠ [])
    (habsolute : (root.under folder).isAbsolute = true) :
    relativePath folder root ⟨(root.under folder).anchor, (root.under folder).parts ++ parts⟩ =
      some (Path.mk .here parts).text := by
  have hunder : ∀ ps, (Path.mk (root.under folder).anchor ps).under folder =
      ⟨(root.under folder).anchor, ps⟩ := fun ps => Path.under_of_isAbsolute habsolute
  have hparts : (root.under folder).parts ++ parts ≠ (root.under folder).parts := by
    intro h
    exact hne (List.append_right_eq_self.1 h)
  have hpath : (Path.mk (root.under folder).anchor ((root.under folder).parts ++ parts)) ≠
      root.under folder := fun h => hparts (congrArg Path.parts h)
  simp only [relativePath, hunder, if_neg hpath, Path.relativeTo?, BEq.rfl, ↓reduceIte,
    Path.dropStart?_append, Option.map_some]

end JavaTree
