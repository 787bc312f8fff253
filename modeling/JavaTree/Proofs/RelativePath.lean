import Mathlib.Data.List.Infix
import JavaTree.Proofs.Path

/-!
# The way from one path to another

The way from a root to a path is known by the parts of both, however they are written: there is one
if and only if the path begins with the parts of the root, from the same kind of start.  It is the
rest of the parts, and for the root itself the last part.

## Main definitions

* `Path.IsWithin`, `Path.IsBelow` — paths that begin as a root does, and those among them that go
  on.

## Main results

* `Path.dropStart?_eq_some_iff` — what is left of a list after a beginning.
* `isSome_relativePath_iff` — when there is a way.
* `relativePath_of_isBelow` — the way to a path below a root.
* `relativePath_laws` — acceptance, joining, the root itself, and ways put together.
-/

namespace JavaTree

namespace Path

/-- A path that begins with all parts of a root, and starts as the root does. -/
def IsWithin (p root : Path) : Prop := root.anchor = p.anchor ∧ root.parts <+: p.parts

/-- A path within a root that is not the root. -/
def IsBelow (p root : Path) : Prop := p.IsWithin root ∧ p ≠ root

instance (p root : Path) : Decidable (p.IsWithin root) :=
  inferInstanceAs (Decidable (root.anchor = p.anchor ∧ root.parts <+: p.parts))

instance (p root : Path) : Decidable (p.IsBelow root) :=
  inferInstanceAs (Decidable (p.IsWithin root ∧ p ≠ root))

variable {p root mid : Path} {start parts rest : List String}

/-- What is left of a list without its start is what comes after it.

**Proof sketch.** Induction on the start in one direction, as the definition goes; the other one is
`dropStart?_append`. -/
lemma dropStart?_eq_some_iff : dropStart? start parts = some rest ↔ parts = start ++ rest := by
  constructor
  · intro h
    induction start generalizing parts with
    | nil =>
      obtain rfl := Option.some.inj h
      rfl
    | cons a start ih =>
      cases parts with
      | nil => cases h
      | cons b parts =>
        rw [dropStart?] at h
        split at h
        · rename_i heq
          rw [← beq_iff_eq.1 heq, List.cons_append, ← ih h]
        · cases h
  · rintro rfl
    exact dropStart?_append start rest

/-- A path is relative to another one with the same anchor whose parts it begins with. -/
lemma relativeTo?_eq_some_iff {way : Path} :
    p.relativeTo? root = some way ↔
      root.anchor = p.anchor ∧ ∃ rest, p.parts = root.parts ++ rest ∧ way = ⟨.here, rest⟩ := by
  rw [relativeTo?]
  split
  · rename_i hanchor
    simp only [beq_iff_eq] at hanchor
    simp only [Option.map_eq_some_iff, dropStart?_eq_some_iff, hanchor, true_and]
    exact exists_congr fun rest => and_congr_right fun _ => eq_comm
  · rename_i hanchor
    exact iff_of_false (fun h => by cases h) fun h => hanchor (beq_iff_eq.2 h.1)

/-- A path below a root goes on with further parts. -/
lemma IsBelow.exists_parts (h : p.IsBelow root) :
    ∃ rest ≠ [], p = ⟨root.anchor, root.parts ++ rest⟩ := by
  obtain ⟨⟨hanchor, rest, hparts⟩, hne⟩ := h
  have hp : p = ⟨root.anchor, root.parts ++ rest⟩ := by rw [hanchor, hparts]
  refine ⟨rest, ?_, hp⟩
  rintro rfl
  rw [List.append_nil] at hp
  exact hne hp

/-- A path below an absolute one is absolute. -/
lemma IsBelow.isAbsolute (h : p.IsBelow root) (hroot : root.isAbsolute = true) :
    p.isAbsolute = true := by
  rwa [Path.isAbsolute, ← h.1.1]

/-- A path below one that is below a root is below the root. -/
lemma IsBelow.trans (h : p.IsBelow mid) (h' : mid.IsBelow root) : p.IsBelow root := by
  obtain ⟨lower, hlower, rfl⟩ := h.exists_parts
  obtain ⟨upper, hupper, rfl⟩ := h'.exists_parts
  refine ⟨⟨rfl, ?_⟩, fun hsame => ?_⟩
  · rw [List.append_assoc]
    exact List.prefix_append _ _
  · have hparts := congrArg Path.parts hsame
    simp [hupper] at hparts

/-- Two lists that are joined with a separator are joined with one more between them. -/
lemma intercalate_append {α : Type} {sep : α} {xs ys : List (List α)} (hxs : xs ≠ [])
    (hys : ys ≠ []) :
    [sep].intercalate (xs ++ ys) = [sep].intercalate xs ++ sep :: [sep].intercalate ys := by
  induction xs with
  | nil => exact absurd rfl hxs
  | cons x xs ih =>
    cases xs with
    | nil =>
      obtain ⟨y, ys, rfl⟩ := List.exists_cons_of_ne_nil hys
      simp [List.intercalate_cons_cons]
    | cons x' xs =>
      have hrest := ih (List.cons_ne_nil x' xs)
      rw [List.cons_append] at hrest
      rw [List.cons_append, List.cons_append, List.intercalate_cons_cons,
        List.intercalate_cons_cons, hrest, List.append_assoc, List.append_assoc]
      simp

/-- The text of a relative path is put together from the texts of its parts. -/
lemma text_append (hparts : parts ≠ []) (hrest : rest ≠ []) :
    (Path.mk .here (parts ++ rest)).text =
      (Path.mk .here parts).text ++ "/" ++ (Path.mk .here rest).text := by
  apply String.toList_injective
  rw [String.toList_append, String.toList_append, toList_text (by simp [hparts]),
    toList_text hparts, toList_text hrest, List.map_append,
    intercalate_append (by simpa using hparts) (by simpa using hrest), List.append_assoc]
  rfl

end Path

section

variable {folder root path mid : Path}

/-- **There is a way** from a root to the paths within it, and to no others. -/
theorem isSome_relativePath_iff (folder : Path) (hroot : root.isAbsolute = true)
    (hpath : path.isAbsolute = true) :
    (relativePath folder root path).isSome = true ↔ path.IsWithin root := by
  simp only [relativePath, Path.under_of_isAbsolute hroot, Path.under_of_isAbsolute hpath]
  split
  · rename_i heq
    exact iff_of_true rfl ⟨by rw [heq], by rw [heq]⟩
  · rw [Option.isSome_map, Option.isSome_iff_exists]
    simp only [Path.relativeTo?_eq_some_iff, Path.IsWithin]
    constructor
    · rintro ⟨way, hanchor, rest, hparts, -⟩
      exact ⟨hanchor, rest, hparts.symm⟩
    · rintro ⟨hanchor, rest, hparts⟩
      exact ⟨_, hanchor, rest, hparts.symm, rfl⟩

/-- The way to a path below a root is the text of the parts that are left. -/
lemma relativePath_of_isBelow (folder : Path) (hroot : root.isAbsolute = true)
    (h : path.IsBelow root) :
    ∃ rest ≠ [], path.parts = root.parts ++ rest ∧
      relativePath folder root path = some (Path.mk .here rest).text := by
  obtain ⟨rest, hne, rfl⟩ := h.exists_parts
  have hway := relativePath_append folder root hne
    (by rwa [Path.under_of_isAbsolute hroot])
  rw [Path.under_of_isAbsolute hroot] at hway
  exact ⟨rest, hne, rfl, hway⟩

/-- **The way from a root to a path**, both absolute and written in any way. There is one if and
only if the path begins with the parts of the root and starts as it does. From a root to a path
strictly below it the way is relative, and joined to the root it gives the path. From a path to
itself it is the last part. The way over a path between the two is put together with a slash. There
is no way to a path beside the root whose name only begins in the same way.

**Proof sketch.** The way to a path below a root is the text of the parts that come after those of
the root, by `relativePath_of_isBelow`; it can be read off its text since the path itself was read
from a text. For the path between, the parts are appended. Beside the root, the names would have to
be the same. -/
theorem relativePath_laws (folder : Path) {text : String} (hread : Path.ofString text = path)
    (hroot : root.isAbsolute = true) (hpath : path.isAbsolute = true) :
    ((relativePath folder root path).isSome = true ↔ path.IsWithin root) ∧
    (path.IsBelow root → ∃ way, relativePath folder root path = some way ∧
      (Path.ofString way).isAbsolute = false ∧ (Path.ofString way).under root = path) ∧
    (path = root → relativePath folder root path = some (path.parts.getLast?.getD "")) ∧
    (∀ mid : Path, mid.IsBelow root → path.IsBelow mid →
      ∃ upper lower, relativePath folder root mid = some upper ∧
        relativePath folder mid path = some lower ∧
        relativePath folder root path = some (upper ++ "/" ++ lower)) ∧
    ∀ dir name more, root = Path.child dir name → path = dir.child (name ++ more) → more ≠ "" →
      relativePath folder root path = none := by
  refine ⟨isSome_relativePath_iff folder hroot hpath, fun hbelow => ?_,
    fun hsame => ?_, fun mid hmid hbelow => ?_, fun dir name more hdir hbeside hmore => ?_⟩
  · obtain ⟨rest, hne, hparts, hway⟩ := relativePath_of_isBelow folder hroot hbelow
    have hrest : ∀ part ∈ rest, Path.IsPart part := by
      intro part hpart
      refine Path.isPart_of_mem_ofString text part ?_
      rw [hread, hparts]
      exact List.mem_append_right _ hpart
    refine ⟨_, hway, ?_⟩
    rw [Path.ofString_text hne hrest]
    have hjoined : (Path.mk .here rest).under root = ⟨root.anchor, root.parts ++ rest⟩ := rfl
    refine ⟨rfl, ?_⟩
    rw [hjoined, ← hparts, hbelow.1.1]
  · subst hsame
    simp only [relativePath, if_pos]
    rw [Path.under_of_isAbsolute hpath]
    rfl
  · obtain ⟨upper, hupper, hmidParts, hupperWay⟩ :=
      relativePath_of_isBelow folder hroot hmid
    obtain ⟨lower, hlower, hpathParts, hlowerWay⟩ :=
      relativePath_of_isBelow folder (hmid.isAbsolute hroot) hbelow
    obtain ⟨rest, -, hparts, hway⟩ :=
      relativePath_of_isBelow folder hroot (hbelow.trans hmid)
    have hrest : rest = upper ++ lower := by
      rw [hpathParts, hmidParts, List.append_assoc] at hparts
      exact (List.append_cancel_left hparts).symm
    refine ⟨_, _, hupperWay, hlowerWay, ?_⟩
    rw [hway, hrest, Path.text_append hupper hlower]
  · rw [← Option.not_isSome_iff_eq_none, isSome_relativePath_iff folder hroot hpath,
      hdir, hbeside]
    rintro ⟨-, rest, hparts⟩
    rw [Path.child, Path.child, List.append_assoc, List.append_cancel_left_eq] at hparts
    have hname := congrArg String.toList (List.cons.inj hparts).1
    rw [String.toList_append, List.self_eq_append_right] at hname
    exact hmore (String.toList_injective hname)

/-- A path that is written with points and with more slashes than needed: the way from a root that
starts with two slashes goes over a path between them, and there is none from a root that starts
with three. -/
theorem relativePath_laws_looseText :
    Path.ofString "//a/.//b/c/../d.java" = ⟨.doubleRoot, ["a", "b", "c", "..", "d.java"]⟩ ∧
      Path.ofString "//a/./" = ⟨.doubleRoot, ["a"]⟩ ∧ Path.ofString "///a" = ⟨.root, ["a"]⟩ ∧
      (∃ way, relativePath ⟨.root, []⟩ ⟨.doubleRoot, ["a"]⟩
          ⟨.doubleRoot, ["a", "b", "c", "..", "d.java"]⟩ = some way ∧
        (Path.ofString way).isAbsolute = false ∧
        (Path.ofString way).under ⟨.doubleRoot, ["a"]⟩ =
          ⟨.doubleRoot, ["a", "b", "c", "..", "d.java"]⟩) ∧
      (∃ upper lower, relativePath ⟨.root, []⟩ ⟨.doubleRoot, ["a"]⟩
          ⟨.doubleRoot, ["a", "b", "c"]⟩ = some upper ∧
        relativePath ⟨.root, []⟩ ⟨.doubleRoot, ["a", "b", "c"]⟩
          ⟨.doubleRoot, ["a", "b", "c", "..", "d.java"]⟩ = some lower ∧
        relativePath ⟨.root, []⟩ ⟨.doubleRoot, ["a"]⟩
          ⟨.doubleRoot, ["a", "b", "c", "..", "d.java"]⟩ = some (upper ++ "/" ++ lower)) ∧
      (relativePath ⟨.root, []⟩ ⟨.root, ["a"]⟩
        ⟨.doubleRoot, ["a", "b", "c", "..", "d.java"]⟩).isSome = false := by
  have hread : Path.ofString "//a/.//b/c/../d.java" =
      ⟨.doubleRoot, ["a", "b", "c", "..", "d.java"]⟩ := by decide +kernel
  have hmid : (Path.mk .doubleRoot ["a", "b", "c"]).IsBelow ⟨.doubleRoot, ["a"]⟩ := by decide
  have hbelow : (Path.mk .doubleRoot ["a", "b", "c", "..", "d.java"]).IsBelow
      ⟨.doubleRoot, ["a", "b", "c"]⟩ := by decide
  obtain ⟨-, hway, -, hover, -⟩ :=
    @relativePath_laws ⟨.doubleRoot, ["a"]⟩ _ ⟨.root, []⟩ _ hread rfl rfl
  obtain ⟨hsome, -⟩ := @relativePath_laws ⟨.root, ["a"]⟩ _ ⟨.root, []⟩ _ hread rfl rfl
  refine ⟨hread, by decide +kernel, by decide +kernel, hway (hbelow.trans hmid),
    hover _ hmid hbelow, ?_⟩
  rw [Bool.eq_false_iff, Ne, hsome]
  decide

end

end JavaTree
