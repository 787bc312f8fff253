import Mathlib.Data.List.Infix
import JavaTree.Proofs.FileTree

/-!
# Making folders and files

Folders are made where nothing is, and a file is made where nothing is or the file is there already.
All that a disk holds elsewhere stays as it is: the same files with the same contents, and folders
that hold more at most.

## Main definitions

* `FileTree.outlineAt` — what stands at a place, without what it holds.
* `Disk.holds` — whether a path leads to something.
* `Disk.Sound` — a well-formed disk on which one is in a folder.
* `Disk.Grown` — a disk on which folders, and a file at one place, have been made.
* `Disk.overwrite` — a disk on which a file holds something else.

## Main results

* `FileTree.outlineAt_put` — what stands where after something has been put in a folder.
* `Disk.Grown.of_makeFolder`, `Disk.exists_grown_of_openFile?` — making folders, and opening a file.
* `Disk.Grown.place` — paths lead to where they led before.
-/

namespace JavaTree

namespace FileTree

/-! ## Outlines -/

/-- What a tree is, without what it holds: a file with its content, or a folder. -/
def outline : FileTree → FileTree
  | file content => file content
  | folder _ => folder []

/-- What parts lead to, without what it holds. -/
def outlineAt (t : FileTree) (parts : List String) : Option FileTree := (t.get? parts).map outline

section

variable {t u new : FileTree} {es fs : List (String × FileTree)} {name p : String}
  {ps qs reached : List String} {content : ByteArray}

/-- An outline shows a file as it is. -/
lemma outline_eq_file_iff : t.outline = file content ↔ t = file content := by
  cases t <;> simp [outline]

/-- An outline shows a folder as an empty one. -/
lemma outline_eq_folder_iff : t.outline = folder [] ↔ ∃ es, t = folder es := by
  cases t <;> simp [outline]

/-- If an outline shows a file, it is there. -/
lemma map_outline_eq_file_iff {o : Option FileTree} :
    o.map outline = some (file content) ↔ o = some (file content) := by
  cases o <;> simp [outline_eq_file_iff]

/-- If an outline shows a folder, there is one. -/
lemma map_outline_eq_folder_iff {o : Option FileTree} :
    o.map outline = some (folder []) ↔ ∃ es, o = some (folder es) := by
  cases o <;> simp [outline_eq_folder_iff]

/-- The outline at a path shows a file if and only if the file is there. -/
lemma outlineAt_eq_file_iff :
    t.outlineAt ps = some (file content) ↔ t.get? ps = some (file content) :=
  map_outline_eq_file_iff

/-- The outline at a path shows a folder if and only if there is one. -/
lemma outlineAt_eq_folder_iff :
    t.outlineAt ps = some (folder []) ↔ ∃ es, t.get? ps = some (folder es) :=
  map_outline_eq_folder_iff

/-- An outline shows something wherever there is something. -/
lemma isSome_outlineAt : (t.outlineAt ps).isSome = (t.get? ps).isSome := Option.isSome_map

/-- There is nothing, a folder, or a file. -/
lemma outlineAt_cases (t : FileTree) (ps : List String) : t.outlineAt ps = none ∨
    t.outlineAt ps = some (folder []) ∨ ∃ content, t.outlineAt ps = some (file content) := by
  unfold outlineAt
  cases t.get? ps with
  | none => exact .inl rfl
  | some u =>
    cases u with
    | file content => exact .inr (.inr ⟨content, rfl⟩)
    | folder es => exact .inr (.inl rfl)

/-- The outline at the top is the outline of the tree. -/
lemma outlineAt_nil (t : FileTree) : t.outlineAt [] = some t.outline := by rw [outlineAt, get?]; rfl

/-- The outline at a path is found in the entry that its first part names. -/
lemma outlineAt_cons (es : List (String × FileTree)) (p : String) (ps : List String) :
    (folder es).outlineAt (p :: ps) = (es.lookup p).bind fun u => u.outlineAt ps := by
  rw [outlineAt, get?, Option.map_bind]
  rfl

/-- A path is followed part by part. -/
lemma get?_append (t : FileTree) (ps qs : List String) :
    t.get? (ps ++ qs) = (t.get? ps).bind fun u => u.get? qs := by
  induction ps generalizing t with
  | nil => rw [List.nil_append, get?, Option.bind_some]
  | cons p ps ih =>
    cases t with
    | file content => rfl
    | folder es =>
      rw [List.cons_append, get?, get?, Option.bind_assoc]
      exact Option.bind_congr fun u _ => ih u

/-- A path of one part leads to the entry of that name. -/
lemma get?_singleton (es : List (String × FileTree)) (p : String) :
    (folder es).get? [p] = es.lookup p := by
  rw [get?]
  cases es.lookup p with
  | none => rfl
  | some u => rw [Option.bind_some, get?]

/-- Nothing is below a file or a folder that holds nothing. -/
lemma outlineAt_cons_of_outline (h : new.outline = new) (p : String) (ps : List String) :
    new.outlineAt (p :: ps) = none := by
  cases new with
  | file content => rfl
  | folder es =>
    obtain rfl := (FileTree.folder.inj h).symm
    rfl

/-! ## Putting something in a folder -/

/-- Among distinct names, one entry is put in place of another.

**Proof sketch.** Induction on the entries. Where the name is found the entries behind it have other
names, so nothing else is changed. -/
lemma setEntry_some (h : (es.map (·.1)).Nodup) (name : String) (t : FileTree) :
    setEntry es name (some t) = Entries.set es name t := by
  induction es with
  | nil => rfl
  | cons e es ih =>
    obtain ⟨key, u⟩ := e
    obtain ⟨hnot, hnodup⟩ := List.nodup_cons.1 h
    by_cases hkey : key = name
    · subst hkey
      have hrest : (es.map fun e => if e.1 == key then (key, t) else e) = es := by
        refine (List.map_congr_left fun e he => if_neg fun heq => ?_).trans (List.map_id es)
        exact hnot (List.mem_map.2 ⟨e, he, beq_iff_eq.1 heq⟩)
      simp only [setEntry, Entries.set, List.any_cons, List.map_cons, BEq.rfl, Bool.true_or,
        ↓reduceIte, hrest]
    · have hbeq : (key == name) = false := beq_eq_false_iff_ne.2 hkey
      rw [Entries.set, hbeq, if_neg Bool.false_ne_true, ← ih hnodup]
      simp only [setEntry, List.any_cons, hbeq, Bool.false_or, List.map_cons]
      split <;> rfl

/-- A folder in which a well-formed entry is set stays well-formed.

**Proof sketch.** Induction on the entries: in place of an entry the names stay the same, and behind
all of them the name is new. -/
lemma wellFormed_set (h : (folder es).WellFormed) (hname : IsEntryName name) (ht : t.WellFormed) :
    (folder (Entries.set es name t)).WellFormed := by
  obtain ⟨hnodup, hall⟩ := h
  induction es with
  | nil => exact ⟨List.nodup_singleton name, hname, ht, trivial⟩
  | cons e es ih =>
    obtain ⟨key, u⟩ := e
    obtain ⟨hnot, hnodup⟩ := List.nodup_cons.1 hnodup
    obtain ⟨hkey, hu, hall⟩ := hall
    rw [Entries.set]
    split
    · exact ⟨List.nodup_cons.2 ⟨hnot, hnodup⟩, hkey, ht, hall⟩
    · rename_i hne
      obtain ⟨hnodup', hall'⟩ := ih hnodup hall
      refine ⟨List.nodup_cons.2 ⟨fun hmem => ?_, hnodup'⟩, hkey, hu, hall'⟩
      rcases Entries.mem_map_fst_set_iff.1 hmem with rfl | hmem
      · exact hne (beq_self_eq_true key)
      · exact hnot hmem

/-- Something is put in the folder itself. -/
lemma put_here (h : (folder es).WellFormed) (new : FileTree) (name : String) :
    (folder es).put (some new) [name] = folder (Entries.set es name new) :=
  congrArg folder (setEntry_some h.1 name new)

/-- Something is put in a folder that is further below. -/
lemma put_below (h : (folder es).WellFormed) (hu : es.lookup p = some u) (new : FileTree)
    (reached : List String) (name : String) :
    (folder es).put (some new) (p :: (reached ++ [name])) =
      folder (Entries.set es p (u.put (some new) (reached ++ [name]))) := by
  have hcons : (folder es).put (some new) (p :: (reached ++ [name])) =
      folder (setEntry es p
        (some (put (some new) ((es.lookup p).getD (folder [])) (reached ++ [name])))) := by
    cases hparts : reached ++ [name] with
    | nil => simp at hparts
    | cons q qs => rfl
  rw [hcons, setEntry_some h.1, hu, Option.getD_some]

/-- A tree in which a well-formed entry is put into a folder stays well-formed. -/
lemma wellFormed_put (ht : t.WellFormed) (hreached : t.get? reached = some (folder es))
    (hname : IsEntryName name) (hnew : new.WellFormed) :
    (t.put (some new) (reached ++ [name])).WellFormed := by
  induction reached generalizing t with
  | nil =>
    obtain rfl := Option.some.inj hreached
    rw [List.nil_append, put_here ht]
    exact wellFormed_set ht hname hnew
  | cons p ps ih =>
    cases t with
    | file content => cases hreached
    | folder fs =>
      obtain ⟨u, hu, hps⟩ := Option.bind_eq_some_iff.1 hreached
      obtain ⟨hp, hwell⟩ := ht.of_lookup hu
      rw [List.cons_append, put_below ht hu]
      exact wellFormed_set ht hp (ih hwell hps)

/-- **What stands where after something has been put in a folder**: it stands there, and everything
else is what it was.  What is put there holds nothing, and does not take the place of a folder.

**Proof sketch.** Induction on the way to the folder. In the folder itself, what is looked up is new
under its name and the old one under any other; nothing stands below it, neither before nor after.
Above the folder only the entry on the way is changed, and there by induction. -/
theorem outlineAt_put (ht : t.WellFormed) (hreached : t.get? reached = some (folder es))
    (hlookup : ∀ fs, es.lookup name ≠ some (folder fs)) (hnew : new.outline = new)
    (ps : List String) :
    (t.put (some new) (reached ++ [name])).outlineAt ps =
      if ps = reached ++ [name] then some new else t.outlineAt ps := by
  induction reached generalizing t ps with
  | nil =>
    obtain rfl := Option.some.inj hreached
    rw [List.nil_append, put_here ht]
    cases ps with
    | nil => rfl
    | cons p ps =>
      rw [outlineAt_cons, outlineAt_cons, Entries.lookup_set]
      by_cases hp : p = name
      · subst hp
        rw [if_pos rfl, Option.bind_some]
        cases ps with
        | nil => rw [outlineAt_nil, hnew, if_pos rfl]
        | cons q qs =>
          rw [outlineAt_cons_of_outline hnew, if_neg (by simp)]
          cases hlook : es.lookup p with
          | none => rfl
          | some u =>
            cases u with
            | file content => rfl
            | folder fs => exact absurd hlook (hlookup fs)
      · rw [if_neg hp, if_neg (by simp [hp])]
  | cons r rs ih =>
    cases t with
    | file content => cases hreached
    | folder fs =>
      obtain ⟨u, hu, hrs⟩ := Option.bind_eq_some_iff.1 hreached
      rw [List.cons_append, put_below ht hu]
      cases ps with
      | nil => rfl
      | cons p ps =>
        rw [outlineAt_cons, outlineAt_cons, Entries.lookup_set]
        by_cases hp : p = r
        · subst hp
          rw [if_pos rfl, Option.bind_some, ih (ht.of_lookup hu).2 hrs, hu, Option.bind_some]
          simp only [List.cons.injEq, true_and]
        · rw [if_neg hp, if_neg (by simp [hp])]

/-- A file is there after it has been put in a folder. -/
lemma get?_put_file (ht : t.WellFormed) (hreached : t.get? reached = some (folder es))
    (hlookup : ∀ fs, es.lookup name ≠ some (folder fs)) (content : ByteArray) :
    (t.put (some (file content)) (reached ++ [name])).get? (reached ++ [name]) =
      some (file content) := by
  rw [← outlineAt_eq_file_iff, outlineAt_put ht hreached hlookup rfl, if_pos rfl]

end

end FileTree

/-! ## Following paths -/

namespace Disk

/-- Whether a path leads to something. -/
def holds (d : Disk) (p : Path) : Bool := (d.entry? p).isSome

section

variable {d d' : Disk} {p : String} {ps qs reached place : List String} {path : Path}

/-- A way goes on from a folder, upwards or to something that is there. -/
lemma follow_cons_eq_ok_iff :
    d.follow reached (p :: ps) = .ok place ↔ d.top.outlineAt reached = some (.folder []) ∧
      if p = ".." then d.follow reached.dropLast ps = .ok place
      else (d.top.outlineAt (reached ++ [p])).isSome ∧
        d.follow (reached ++ [p]) ps = .ok place := by
  rw [FileTree.isSome_outlineAt, FileTree.get?_append, FileTree.outlineAt, follow]
  cases d.top.get? reached with
  | none => simp
  | some t =>
    cases t with
    | file content => simp [FileTree.outline]
    | folder es =>
      rw [Option.bind_some, FileTree.get?_singleton]
      by_cases hp : p = ".."
      · simp [FileTree.outline, hp]
      · cases hlookup : es.lookup p <;> simp [FileTree.outline, hp, hlookup]

/-- If the same way can be followed on two disks, then to the same place.

**Proof sketch.** Induction on the parts: each of them leads up or down, which only its name
decides. -/
lemma follow_unique (h : d.follow reached ps = .ok place) {place' : List String}
    (h' : d'.follow reached ps = .ok place') : place = place' := by
  induction ps generalizing reached with
  | nil =>
    rw [follow] at h h'
    exact (Except.ok.inj h).symm.trans (Except.ok.inj h')
  | cons p ps ih =>
    obtain ⟨-, h⟩ := follow_cons_eq_ok_iff.1 h
    obtain ⟨-, h'⟩ := follow_cons_eq_ok_iff.1 h'
    split at h
    · rename_i hp
      rw [if_pos hp] at h'
      exact ih h h'
    · rename_i hp
      rw [if_neg hp] at h'
      exact ih h.2 h'.2

/-- Parts are followed from where the parts before them have led.

**Proof sketch.** Induction on the parts that come first, each of which leads from a folder to
something that is there. -/
lemma follow_append (h : d.follow reached ps = .ok place) (qs : List String) :
    d.follow reached (ps ++ qs) = d.follow place qs := by
  induction ps generalizing reached with
  | nil =>
    rw [follow] at h
    rw [List.nil_append, Except.ok.inj h]
  | cons p ps ih =>
    obtain ⟨hreached, h⟩ := follow_cons_eq_ok_iff.1 h
    obtain ⟨es, hes⟩ := FileTree.outlineAt_eq_folder_iff.1 hreached
    rw [List.cons_append, follow, hes]
    split at h
    · rename_i hp
      simpa [hp] using ih h
    · rename_i hp
      have hsome : (es.lookup p).isSome = true := by
        have hget := h.1
        rw [FileTree.isSome_outlineAt, FileTree.get?_append, hes, Option.bind_some,
          FileTree.get?] at hget
        cases hlookup : es.lookup p with
        | none => simp [hlookup] at hget
        | some u => rfl
      simpa [hp, hsome] using ih h.2

/-- Names of entries lead to what is there.

**Proof sketch.** Induction on the parts: something is found below each of them, so each leads from
a folder to an entry of it. -/
lemma follow_of_get? {t : FileTree} (h : d.top.get? (reached ++ ps) = some t)
    (hps : ∀ p ∈ ps, p ≠ "..") : d.follow reached ps = .ok (reached ++ ps) := by
  induction ps generalizing reached with
  | nil => rw [follow, List.append_nil]
  | cons p ps ih =>
    obtain ⟨hp, hps⟩ := List.forall_mem_cons.1 hps
    have hassoc : reached ++ p :: ps = reached ++ [p] ++ ps := by simp
    rw [hassoc] at h ⊢
    have hhere := h
    rw [FileTree.get?_append, FileTree.get?_append] at hhere
    obtain ⟨u, hu, -⟩ := Option.bind_eq_some_iff.1 hhere
    obtain ⟨v, hv, hvu⟩ := Option.bind_eq_some_iff.1 hu
    refine follow_cons_eq_ok_iff.2 ⟨?_, ?_⟩
    · cases v with
      | file content => cases hvu
      | folder es => exact FileTree.outlineAt_eq_folder_iff.2 ⟨es, hv⟩
    · rw [if_neg hp, FileTree.isSome_outlineAt, FileTree.get?_append, hv, Option.bind_some, hvu]
      exact ⟨rfl, ih h hps⟩

/-- If a path leads somewhere on two disks, then to the same place. -/
lemma place_unique (hcurrent : d.current = d'.current) (h : d.place path = .ok place)
    {place' : List String} (h' : d'.place path = .ok place') : place = place' := by
  rw [Disk.place, currentPath] at h h'
  rw [hcurrent] at h
  exact follow_unique h h'

/-- What a path leads to stands at a place of the tree. -/
lemma exists_place_of_entry? {t : FileTree} (h : d.entry? path = some t) :
    ∃ place, d.place path = .ok place ∧ d.top.get? place = some t := by
  unfold entry? at h
  split at h
  · exact ⟨_, ‹_›, h⟩
  · cases h

/-- The content of a file is found where there is a file. -/
lemma content?_eq_some_iff {content : ByteArray} :
    d.content? path = some content ↔ d.entry? path = some (.file content) := by
  unfold content?
  cases d.entry? path with
  | none => simp
  | some t => cases t <;> simp

/-- Something is at a path if and only if the path has a place and the outline shows something
there. -/
lemma holds_iff : d.holds path = true ↔
    ∃ place, d.place path = .ok place ∧ (d.top.outlineAt place).isSome := by
  simp only [FileTree.isSome_outlineAt, holds, entry?]
  cases d.place path <;> simp

/-- Nothing is at a path if and only if the path leads nowhere. -/
lemma holds_eq_false_iff : d.holds path = false ↔ d.entry? path = none := by
  rw [holds, Option.isSome_eq_false_iff, Option.isNone_iff_eq_none]

/-- What a path leads to is held by the disk. -/
lemma holds_of_eq_some {t : FileTree} (h : d.entry? path = some t) : d.holds path = true := by
  rw [holds, h, Option.isSome_some]

end

/-! ## Grown disks -/

/-- A disk as a program finds it: it is well-formed, and one is in a folder. -/
structure Sound (d : Disk) : Prop where
  wellFormed : d.top.WellFormed
  current : d.top.outlineAt d.current = some (.folder [])

/-- What becomes of what stands at a place when folders and a file are made.  The file may have
something added to it if it is there already. -/
inductive Grows (isFile : Prop) (old : Option FileTree) : Option FileTree → Prop
  | same : Grows isFile old old
  | folder (h : old = none) : Grows isFile old (some (.folder []))
  | file (h : isFile) (hold : old ≠ some (.folder [])) (content : ByteArray) :
      Grows isFile old (some (.file content))

/-- A disk on which folders, and a file at one place, have been made. -/
structure Grown (file : List String) (d d' : Disk) : Prop where
  current_eq : d'.current = d.current
  wellFormed : d'.top.WellFormed
  grows : ∀ ps, Grows (ps = file) (d.top.outlineAt ps) (d'.top.outlineAt ps)

section

variable {isFile : Prop} {a b c : Option FileTree} {content : ByteArray}

/-- An outline that grows twice has grown. -/
lemma Grows.trans (h : Grows isFile a b) (h' : Grows isFile b c) : Grows isFile a c := by
  cases h' with
  | same => exact h
  | folder hb =>
    subst hb
    cases h with
    | same => exact .folder rfl
  | file hfile hb content =>
    refine .file hfile ?_ content
    rintro rfl
    cases h with
    | same => exact hb rfl
    | folder ha => cases ha
    | file _ ha _ => exact ha rfl

/-- Folders stay folders. -/
lemma Grows.folder_eq (h : Grows isFile (some (.folder [])) b) : b = some (.folder []) := by
  cases h with
  | same => rfl
  | folder h => cases h
  | file _ hold _ => exact absurd rfl hold

/-- Nothing vanishes. -/
lemma Grows.isSome (h : Grows isFile a b) (ha : a.isSome) : b.isSome := by
  cases h with
  | same => exact ha
  | folder _ => rfl
  | file _ _ _ => rfl

/-- The files are the same elsewhere. -/
lemma Grows.eq_file_iff (h : Grows isFile a b) (hfile : ¬ isFile) :
    b = some (.file content) ↔ a = some (.file content) := by
  cases h with
  | same => rfl
  | folder h =>
    subst h
    simp
  | file h _ _ => exact absurd h hfile

end

section

variable {d d' d'' : Disk} {file reached ps : List String} {name : String} {p : Path}
  {es : List (String × FileTree)} {new : FileTree}

/-- The parts of the current folder are names of entries. -/
lemma Sound.isEntryName (hd : d.Sound) : ∀ p ∈ d.current, FileTree.IsEntryName p := by
  obtain ⟨es, hes⟩ := FileTree.outlineAt_eq_folder_iff.1 hd.current
  exact FileTree.isEntryName_of_get? hd.wellFormed hes

namespace Grown

/-- Nothing has grown at first. -/
lemma refl (hd : d.Sound) (file : List String) : d.Grown file d :=
  ⟨rfl, hd.wellFormed, fun _ => .same⟩

/-- A disk that grows twice has grown. -/
lemma trans (h : d.Grown file d') (h' : d'.Grown file d'') : d.Grown file d'' :=
  ⟨h'.current_eq.trans h.current_eq, h'.wellFormed, fun ps => (h.grows ps).trans (h'.grows ps)⟩

/-- A disk that grows stays sound. -/
lemma sound (h : d.Grown file d') (hd : d.Sound) : d'.Sound := by
  refine ⟨h.wellFormed, ?_⟩
  have hcurrent := h.grows d.current
  rw [hd.current] at hcurrent
  rw [h.current_eq, hcurrent.folder_eq]

/-- **Ways that can be followed can still be followed.**

**Proof sketch.** Induction on the parts. A folder stays a folder, and what is there stays there, so
each step that could be taken still can. -/
lemma follow (h : d.Grown file d') {place : List String}
    (hplace : d.follow reached ps = .ok place) : d'.follow reached ps = .ok place := by
  induction ps generalizing reached with
  | nil =>
    rw [Disk.follow] at hplace ⊢
    exact hplace
  | cons p ps ih =>
    obtain ⟨hreached, hrest⟩ := follow_cons_eq_ok_iff.1 hplace
    have hgrows := h.grows reached
    rw [hreached] at hgrows
    refine follow_cons_eq_ok_iff.2 ⟨hgrows.folder_eq, ?_⟩
    split
    · rename_i hp
      rw [if_pos hp] at hrest
      exact ih hrest
    · rename_i hp
      rw [if_neg hp] at hrest
      exact ⟨(h.grows (reached ++ [p])).isSome hrest.1, ih hrest.2⟩

/-- **Paths lead to where they led before.** -/
theorem place (h : d.Grown file d') {place : List String} (hplace : d.place p = .ok place) :
    d'.place p = .ok place := by
  rw [Disk.place, currentPath] at hplace ⊢
  rw [h.current_eq]
  exact h.follow hplace

/-- What a path leads to does not vanish. -/
lemma holds (h : d.Grown file d') (hp : d.holds p = true) : d'.holds p = true := by
  obtain ⟨place, hplace, hsome⟩ := holds_iff.1 hp
  exact holds_iff.2 ⟨place, h.place hplace, (h.grows place).isSome hsome⟩

/-- Something that holds nothing is put in a folder, but not in place of a folder. -/
lemma of_put (hd : d.Sound) (hreached : d.top.get? reached = some (.folder es))
    (hname : FileTree.IsEntryName name) (hlookup : ∀ fs, es.lookup name ≠ some (.folder fs))
    (hwell : new.WellFormed) (hnew : new.outline = new)
    (hgrows : Grows (reached ++ [name] = file) ((es.lookup name).map FileTree.outline) (some new)) :
    d.Grown file { d with top := d.top.put (some new) (reached ++ [name]) } := by
  refine ⟨rfl, FileTree.wellFormed_put hd.wellFormed hreached hname hwell, fun ps => ?_⟩
  rw [FileTree.outlineAt_put hd.wellFormed hreached hlookup hnew]
  split
  · rename_i hps
    rw [hps, FileTree.outlineAt, FileTree.get?_append, hreached, Option.bind_some,
      FileTree.get?_singleton]
    exact hgrows
  · exact .same

end Grown

/-! ## Making folders -/

/-- The parts of a path that is seen from the folder one is in. -/
lemma isPart_under (hd : d.Sound) (hp : ∀ part ∈ p.parts, Path.IsPart part) :
    ∀ part ∈ (p.under d.currentPath).parts, Path.IsPart part := by
  unfold Path.under
  split
  · exact hp
  · exact List.forall_mem_append.2 ⟨fun part hpart => (hd.isEntryName part hpart).toIsPart, hp⟩

/-- One folder is made.

**Proof sketch.** A folder is made only under the name of an entry, in a folder that has none of
this name, so this is a case of putting something where nothing was. -/
lemma grown_of_makeOne (hd : d.Sound) (hp : ∀ part ∈ p.parts, Path.IsPart part)
    (h : d.makeOne p = .made d') (file : List String) : d.Grown file d' := by
  simp only [makeOne] at h
  split at h
  · cases h
  · rename_i name hlast
    split at h
    · cases h
    · cases h
    · rename_i reached hfollow
      split at h
      · rename_i es hes
        split at h
        · cases h
        · rename_i hfree
          obtain rfl := MakeResult.made.inj h
          simp only [Bool.or_eq_true, beq_iff_eq, not_or, Bool.not_eq_true,
            Option.isSome_eq_false_iff, Option.isNone_iff_eq_none] at hfree
          obtain ⟨hupward, hnone⟩ := hfree
          have hpart := isPart_under hd hp name (List.mem_of_getLast? hlast)
          refine .of_put hd hes ⟨hpart, hupward⟩ ?_ ⟨List.nodup_nil, trivial⟩ rfl ?_
          · rw [hnone]
            exact nofun
          · rw [hnone]
            exact .folder rfl
      · cases h

/-- Several folders are made, one in the other.

**Proof sketch.** Induction on the fuel. A folder that is made or was there already is the end;
otherwise the folders around it have grown by induction, and it is tried once more. -/
lemma grown_of_makeWithin {fuel : Nat} (hd : d.Sound) (hp : ∀ part ∈ p.parts, Path.IsPart part)
    (h : d.makeWithin fuel p = .ok d') (file : List String) : d.Grown file d' := by
  induction fuel generalizing d d' p with
  | zero =>
    unfold makeWithin at h
    split at h
    · rename_i hmade
      obtain rfl := Except.ok.inj h
      exact grown_of_makeOne hd hp hmade file
    · split at h
      · obtain rfl := Except.ok.inj h
        exact .refl hd file
      · cases h
    · cases h
    · cases h
  | succ fuel ih =>
    unfold makeWithin at h
    split at h
    · rename_i hmade
      obtain rfl := Except.ok.inj h
      exact grown_of_makeOne hd hp hmade file
    · split at h
      · obtain rfl := Except.ok.inj h
        exact .refl hd file
      · cases h
    · cases h
    · simp only at h
      split at h
      · cases h
      · rename_i around haround
        have hparent := ih hd (fun part hpart => hp part (List.mem_of_mem_dropLast hpart)) haround
        split at h
        · rename_i hmade
          obtain rfl := Except.ok.inj h
          exact hparent.trans (grown_of_makeOne (hparent.sound hd) hp hmade file)
        · split at h
          · obtain rfl := Except.ok.inj h
            exact hparent
          · cases h

/-- **Making a folder** changes nothing but that folders are there where nothing was. -/
theorem Grown.of_makeFolder (hd : d.Sound) (hp : ∀ part ∈ p.parts, Path.IsPart part)
    (h : d.makeFolder p = .ok d') (file : List String) : d.Grown file d' :=
  grown_of_makeWithin hd hp h file

/-! ## Opening files -/

/-- The place of a file that is there in a folder. -/
lemma place_child {folder : Path} {t : FileTree} (hplace : d.place folder = .ok reached)
    (hname : name ≠ "..") (ht : d.top.get? (reached ++ [name]) = some t) :
    d.place (folder.child name) = .ok (reached ++ [name]) := by
  have hparts : ((folder.child name).under d.currentPath).parts =
      (folder.under d.currentPath).parts ++ [name] := by
    unfold Path.under Path.child Path.isAbsolute
    split <;> simp
  rw [Disk.place, hparts, follow_append hplace]
  exact follow_of_get? ht (List.forall_mem_singleton.2 hname)

/-- A file is put in a folder, in place of a file at most. -/
lemma grown_of_put_file (hd : d.Sound) (hreached : d.top.get? reached = some (.folder es))
    (hname : FileTree.IsEntryName name) (hlookup : ∀ fs, es.lookup name ≠ some (.folder fs))
    (content : ByteArray) :
    d.Grown (reached ++ [name])
      { d with top := d.top.put (some (.file content)) (reached ++ [name]) } := by
  refine .of_put hd hreached hname hlookup trivial rfl (.file rfl (fun hfolder => ?_) content)
  obtain ⟨fs, hfs⟩ := FileTree.map_outline_eq_folder_iff.1 hfolder
  exact hlookup fs hfs

/-- **Opening a file** changes nothing but that there is a file with this name in the folder.

**Proof sketch.** A file that is not there is put into its folder, where nothing of this name was; a
file that is there is left as it is. -/
theorem exists_grown_of_openFile? {folder : Path} (hd : d.Sound) (hname : FileTree.IsEntryName name)
    (h : d.openFile? folder name = some d') : ∃ reached content,
      d'.place (folder.child name) = .ok (reached ++ [name]) ∧
      d'.top.get? (reached ++ [name]) = some (.file content) ∧ d.Grown (reached ++ [name]) d' := by
  unfold openFile? at h
  split at h
  · cases h
  · rename_i reached hplace
    split at h
    · rename_i es hes
      split at h
      · rename_i hnone
        obtain rfl := Option.some.inj h
        have hlookup : ∀ fs, es.lookup name ≠ some (.folder fs) := by
          rw [hnone]
          exact nofun
        have hgrown := grown_of_put_file hd hes hname hlookup .empty
        have hget := FileTree.get?_put_file hd.wellFormed hes hlookup .empty
        have hplace' := place_child (hgrown.place hplace) hname.ne_upward hget
        exact ⟨reached, .empty, hplace', hget, hgrown⟩
      · rename_i content hfile
        obtain rfl := Option.some.inj h
        have hget : d.top.get? (reached ++ [name]) = some (.file content) := by
          rw [FileTree.get?_append, hes, Option.bind_some, FileTree.get?_singleton, hfile]
        exact ⟨reached, content, place_child hplace hname.ne_upward hget, hget, .refl hd _⟩
      · cases h
    · cases h

/-- The disk when the file that a path leads to holds something else. -/
def overwrite (d : Disk) (p : Path) (content : ByteArray) : Disk :=
  match d.place p with
  | .ok place => { d with top := d.top.put (some (.file content)) place }
  | .error _ => d

/-- What a file holds has nothing to do with what stands elsewhere, and it can be put back.

**Proof sketch.** The file stands in a folder that has been reached, so overwriting it puts a file
in the place of one. Everything else has the outline that it had, which also shows the way back. -/
lemma grown_overwrite (hd : d.Sound) {old : ByteArray}
    (hplace : d.place p = .ok (reached ++ [name]))
    (hget : d.top.get? (reached ++ [name]) = some (.file old)) (content : ByteArray) :
    d.Grown (reached ++ [name]) (d.overwrite p content) ∧
      (d.overwrite p content).Grown (reached ++ [name]) d := by
  rw [FileTree.get?_append] at hget
  obtain ⟨t, ht, hname⟩ := Option.bind_eq_some_iff.1 hget
  cases t with
  | file other => cases hname
  | folder es =>
    have hlookup : es.lookup name = some (.file old) := by rwa [FileTree.get?_singleton] at hname
    have hfile : ∀ fs, es.lookup name ≠ some (.folder fs) := by
      rw [hlookup]
      exact nofun
    have hentry := ((hd.wellFormed.of_get? ht).of_lookup hlookup).1
    have hgrown := grown_of_put_file hd ht hentry hfile content
    simp only [overwrite, hplace]
    refine ⟨hgrown, rfl, hd.wellFormed, fun ps => ?_⟩
    rw [FileTree.outlineAt_put hd.wellFormed ht hfile rfl]
    split
    · rename_i hps
      rw [hps, FileTree.outlineAt, FileTree.get?_append, ht, Option.bind_some, hname]
      refine .file rfl ?_ old
      exact nofun
    · exact .same

end

end Disk

end JavaTree
