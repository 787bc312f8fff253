import JavaTree.Proofs.Configuration

/-!
# Settings written to properties files

A line of a properties file can say something in many ways: blanks around keys, signs, commas and
kinds do not matter, a list of kinds may be broken after each comma, and lines that say nothing may
stand between others.

## Main definitions

* `IsKindName` — the kinds that can be written.
* `WritesItems`, `WritesList` — the ways to write a list of kinds.
* `Setting`, `Setting.Writes` — what a line says, and the ways to write it.
* `Layout` — the ways to write lines one after the other, with others between them.

## Main results

* `exists_joins_of_writesItems`, `Setting.exists_joins` — a line is put together again.
* `run_of_layout` — the lines of a layout give what they say.
-/

namespace JavaTree

/-! ## Names of kinds -/

/-- The letters, the digits and the underscore. -/
def isWordChar (c : Char) : Bool := c.isAlphanum || c == '_'

/-- The kinds that can be written: words. -/
def IsKindName (kind : String) : Prop := kind ≠ "" ∧ ∀ c ∈ kind.toList, isWordChar c = true

instance (kind : String) : Decidable (IsKindName kind) :=
  decidable_of_iff (kind ≠ "" ∧ kind.toList.all isWordChar = true)
    (and_congr Iff.rfl List.all_eq_true)

/-- A character without a meaning of its own in properties. -/
structure IsPlain (c : Char) : Prop where
  not_blank : isBlank c = false
  not_lineEnd : isLineEnd c = false
  not_separator : isSeparator c = false
  ne_comma : c ≠ ','
  ne_backslash : c ≠ '\\'
  not_mark : ¬ IsCommentMark c

/-- The characters of words are ASCII characters. -/
lemma isWordChar_lt {c : Char} (h : isWordChar c = true) : c.toNat < 128 := by
  rw [isWordChar, Bool.or_eq_true, beq_iff_eq] at h
  rcases h with h | rfl
  · exact isAlphanum_lt h
  · decide

/-- Letters, digits and the underscore have no other meaning. -/
lemma isPlain_of_isWordChar {c : Char} (h : isWordChar c = true) : IsPlain c := by
  have hall : ∀ n < 128, isWordChar (Char.ofNat n) = true →
      isBlank (Char.ofNat n) = false ∧ isLineEnd (Char.ofNat n) = false ∧
      isSeparator (Char.ofNat n) = false ∧ Char.ofNat n ≠ ',' ∧ Char.ofNat n ≠ '\\' ∧
      ¬ (Char.ofNat n = '#' ∨ Char.ofNat n = '!') := by decide +kernel
  have hc := hall c.toNat (isWordChar_lt h)
  rw [Char.ofNat_toNat] at hc
  obtain ⟨h₁, h₂, h₃, h₄, h₅, h₆⟩ := hc h
  exact ⟨h₁, h₂, h₃, h₄, h₅, h₆⟩

section

variable {name : String}

/-- The characters of the name of a kind are plain. -/
lemma IsKindName.isPlain (h : IsKindName name) : ∀ c ∈ name.toList, IsPlain c :=
  fun c hc => isPlain_of_isWordChar (h.2 c hc)

/-- The name of a kind is not empty. -/
lemma IsKindName.toList_ne_nil (h : IsKindName name) : name.toList ≠ [] :=
  fun hnil => h.1 (String.toList_eq_nil_iff.1 hnil)

/-- The name of a kind is on one line. -/
lemma IsKindName.oneLine (h : IsKindName name) : OneLine name.toList :=
  fun c hc => (h.isPlain c hc).not_lineEnd

/-- The words for yes and no are words. -/
lemma isKindName_of_flagWord? {b : Bool} (h : flagWord? name = some b) : IsKindName name := by
  have hwords : ∀ word ∈ yesWords ++ noWords,
      word.toList ≠ [] ∧ word.toList.all Char.isAlphanum = true := by decide +kernel
  have hmem : name.toLower ∈ yesWords ++ noWords := by
    cases b with
    | true => exact List.mem_append_left _ (flagWord?_eq_some_true.1 h)
    | false => exact List.mem_append_right _ (flagWord?_eq_some_false.1 h)
  obtain ⟨hne, hchars⟩ := hwords _ hmem
  rw [toList_toLower] at hne hchars
  refine ⟨fun hempty => hne (by rw [hempty]; rfl), fun c hc => ?_⟩
  have hlower := List.all_eq_true.1 hchars _ (List.mem_map_of_mem hc)
  rw [isWordChar, toLower_isAlphanum hlower, Bool.true_or]

end

/-! ## Layouts -/

/-- Spaces and tabs. -/
def IsGap (cs : List Char) : Prop := ∀ c ∈ cs, c = ' ' ∨ c = '\t'

instance (cs : List Char) : Decidable (IsGap cs) :=
  List.decidableBAll (fun c => c = ' ' ∨ c = '\t') cs

/-- **The ways to write some kinds**: with commas between them, each comma with the end of a line
and a new one after it if need be. -/
inductive WritesItems : List String → List Char → Prop
  | one {g kind h} : IsGap g → IsGap h → WritesItems [kind] (g ++ (kind.toList ++ h))
  | next {g kind h kinds cs} : IsGap g → IsGap h → WritesItems kinds cs →
      WritesItems (kind :: kinds) (g ++ (kind.toList ++ (h ++ ',' :: cs)))
  | broken {g kind h b kinds cs} : IsGap g → IsGap h → IsGap b → WritesItems kinds cs →
      WritesItems (kind :: kinds) (g ++ (kind.toList ++ (h ++ ',' :: (b ++ '\\' :: '\n' :: cs))))

/-- The ways to write a list of kinds, which can be empty. -/
inductive WritesList : List String → List Char → Prop
  | empty {g} : IsGap g → WritesList [] g
  | items {kinds cs} : WritesItems kinds cs → WritesList kinds cs

/-- What a line says. -/
inductive Setting
  | flag (kind : String) (b : Bool)
  | omitted (kinds : List String)
  | leaves (kinds : List String)

namespace Setting

/-- The key of a line. -/
def key : Setting → String
  | flag kind _ => kind
  | omitted _ => omitKey
  | leaves _ => leafKey

/-- The ways to write what stands after the sign. -/
inductive WritesValue : Setting → List Char → Prop
  | flag {kind b g word h} : IsGap g → flagWord? word = some b → IsGap h →
      WritesValue (flag kind b) (g ++ (word.toList ++ h))
  | omitted {kinds cs} : WritesList kinds cs → WritesValue (omitted kinds) cs
  | leaves {kinds cs} : WritesList kinds cs → WritesValue (leaves kinds) cs

/-- **The ways to write a line.** -/
inductive Writes (s : Setting) : List Char → Prop
  | mk {g h sign value} : IsGap g → IsGap h → sign = '=' ∨ sign = ':' → s.WritesValue value →
      Writes s (g ++ (s.key.toList ++ (h ++ sign :: value)))

/-- What a line says to a reader: its key, and a value with the same meaning. -/
def GivenAs : Setting → String × String → Prop
  | flag kind b, entry => entry.1 = kind ∧ flagWord? entry.2 = some b
  | omitted kinds, entry => entry.1 = omitKey ∧ NodeFilter.splitKinds entry.2 = kinds
  | leaves kinds, entry => entry.1 = leafKey ∧ NodeFilter.splitKinds entry.2 = kinds

/-- The kinds that a line speaks of are words. -/
def Named : Setting → Prop
  | flag kind _ => IsKindName kind
  | omitted kinds => ∀ kind ∈ kinds, IsKindName kind
  | leaves kinds => ∀ kind ∈ kinds, IsKindName kind

end Setting

/-- Lines that say nothing: blank ones and comments. -/
inductive WritesIdle : List Char → Prop
  | blank {g} : IsGap g → WritesIdle g
  | comment {g mark text} : IsGap g → IsCommentMark mark → OneLine text →
      WritesIdle (g ++ mark :: text)

/-- **The ways to write lines one after the other**, with blank lines and comments between them.
The last line need not be ended. -/
inductive Layout : List Setting → List Char → Prop
  | nil : Layout [] []
  | idle {cs} : WritesIdle cs → Layout [] cs
  | setting {s cs} : s.Writes cs → Layout [s] cs
  | idleLine {settings cs ds} : WritesIdle cs → Layout settings ds →
      Layout settings (cs ++ '\n' :: ds)
  | settingLine {s settings cs ds} : s.Writes cs → Layout settings ds →
      Layout (s :: settings) (cs ++ '\n' :: ds)

/-! ## Gaps -/

section

variable {g : List Char}

/-- A gap is blank. -/
lemma IsGap.all_isBlank (h : IsGap g) : g.all isBlank = true := by
  have hblank : isBlank ' ' = true ∧ isBlank '\t' = true := by decide +kernel
  refine List.all_eq_true.2 fun c hc => ?_
  rcases h c hc with rfl | rfl
  · exact hblank.1
  · exact hblank.2

/-- A gap is on one line. -/
lemma IsGap.oneLine (h : IsGap g) : OneLine g := fun c hc => by
  rcases h c hc with rfl | rfl <;> rfl

/-- No sign stands in a gap. -/
lemma IsGap.not_separator (h : IsGap g) : ∀ c ∈ g, isSeparator c = false := fun c hc => by
  rcases h c hc with rfl | rfl <;> rfl

/-- No comma stands in a gap. -/
lemma IsGap.not_mem_comma (h : IsGap g) : ',' ∉ g := fun hmem => by
  rcases h _ hmem with hc | hc <;> cases hc

end

/-! ## Words and gaps -/

section

variable {g h : List Char} {name : String}

/-- The name of a kind ends solidly. -/
lemma IsKindName.endsSolid (hname : IsKindName name) : EndsSolid name.toList := by
  have hne := hname.toList_ne_nil
  exact ⟨_, _, (List.dropLast_append_getLast hne).symm,
    (hname.isPlain _ (List.getLast_mem hne)).not_blank⟩

/-- A word is what is left of it and the gaps around it. -/
lemma IsKindName.trimStart_append (hname : IsKindName name) (hg : IsGap g) (more : List Char) :
    trimStart (g ++ (name.toList ++ more)) = name.toList ++ more := by
  rw [trimStart_append_of_blank hg.all_isBlank]
  cases hchars : name.toList with
  | nil => exact absurd hchars hname.toList_ne_nil
  | cons c cs =>
    rw [List.cons_append, trimStart_cons]
    exact (hname.isPlain c (by rw [hchars]; exact List.mem_cons_self)).not_blank

/-- Gaps around the name of a kind are trimmed off. -/
lemma IsKindName.trimChars_eq (hname : IsKindName name) (hg : IsGap g) (hh : IsGap h) :
    trimChars (g ++ (name.toList ++ h)) = name.toList := by
  rw [JavaTree.trimChars_eq, hname.trimStart_append hg,
    hname.endsSolid.trimEnd_append hh.all_isBlank]

end

/-! ## The items of a list -/

/-- The items of a list, without the blanks around them, empty ones too. -/
def itemsOf (cs : List Char) : List String :=
  (NodeFilter.splitCommas cs).map fun item => String.ofList (trimChars item)

/-- No comma is blank. -/
lemma not_mem_comma_of_all_isBlank {cs : List Char} (h : cs.all isBlank = true) : ',' ∉ cs := by
  have hcomma : isBlank ',' = false := by decide +kernel
  exact fun hmem => Bool.false_ne_true (hcomma.symm.trans (List.all_eq_true.1 h _ hmem))

/-- A text without a comma is one item. -/
lemma itemsOf_of_not_mem {cs : List Char} (h : ',' ∉ cs) :
    itemsOf cs = [String.ofList (trimChars cs)] := by
  rw [itemsOf, NodeFilter.splitCommas_eq_splitOn, List.splitOn_eq_singleton h, List.map_singleton]

/-- An item ends at the first comma. -/
lemma itemsOf_append_cons {cs : List Char} (h : ',' ∉ cs) (ds : List Char) :
    itemsOf (cs ++ ',' :: ds) = String.ofList (trimChars cs) :: itemsOf ds := by
  simp only [itemsOf, NodeFilter.splitCommas_eq_splitOn, List.splitOn_append_cons_self_of_not_mem h,
    List.map_cons]

/-- Blanks before the first item do not matter. -/
lemma itemsOf_append_of_blank {gap : List Char} (h : gap.all isBlank = true) (cs : List Char) :
    itemsOf (gap ++ cs) = itemsOf cs := by
  have htrim : ∀ item, trimChars (gap ++ item) = trimChars item := fun item => by
    rw [trimChars_eq, trimStart_append_of_blank h, ← trimChars_eq]
  have hcomma := not_mem_comma_of_all_isBlank h
  by_cases hcs : ',' ∈ cs
  · obtain ⟨item, ds, rfl, hitem⟩ := List.eq_append_cons_of_mem hcs
    rw [← List.append_assoc, itemsOf_append_cons hitem,
      itemsOf_append_cons (List.not_mem_append hcomma hitem), htrim]
  · rw [itemsOf_of_not_mem hcs, itemsOf_of_not_mem (List.not_mem_append hcomma hcs), htrim]

/-- Blanks before the first item do not matter. -/
lemma itemsOf_trimStart (cs : List Char) : itemsOf (trimStart cs) = itemsOf cs := by
  have hblank : (cs.takeWhile isBlank).all isBlank = true :=
    List.all_eq_true.2 fun _ hc => List.mem_takeWhile_imp hc
  rw [trimStart, ← itemsOf_append_of_blank hblank, List.takeWhile_append_dropWhile]

/-- The items of a list are its kinds, unless they are empty. -/
lemma splitKinds_trimChars {cs : List Char} {kinds : List String} (hcs : EndsSolid cs)
    (hitems : itemsOf cs = kinds) (hkinds : ∀ kind ∈ kinds, kind ≠ "") :
    NodeFilter.splitKinds (String.ofList (trimChars cs)) = kinds := by
  have htrim : trimChars cs = trimStart cs := hcs.trimStart.trimEnd_eq
  rw [NodeFilter.splitKinds, String.toList_ofList, ← itemsOf, htrim, itemsOf_trimStart, hitems,
    List.filter_eq_self]
  exact fun kind hkind => bne_iff_ne.2 (hkinds kind hkind)

/-! ## Lines that are put together again -/

/-- A line that ends in anything but a backslash is not continued. -/
lemma continued?_eq_none_of_concat {cs : List Char} {c : Char} (h : c ≠ '\\') :
    continued? (cs ++ [c]) = none := by
  rw [Option.eq_none_iff_forall_not_mem]
  intro part hpart
  exact h (List.append_inj_right' (continued?_eq_some_iff.1 hpart) rfl |> List.singleton_inj.1)

/-- A line that ends in the name of a kind is not continued. -/
lemma IsKindName.continued?_eq_none {name : String} (h : IsKindName name) (cs : List Char) :
    continued? (cs ++ name.toList) = none := by
  have hne := h.toList_ne_nil
  rw [← List.dropLast_append_getLast hne, ← List.append_assoc]
  exact continued?_eq_none_of_concat (h.isPlain _ (List.getLast_mem hne)).ne_backslash

/-- A text before a list: the line before it, or nothing. -/
def Begins (a : List Char) : Prop := OneLine a ∧ (a = [] ∨ EndsSolid a)

/-- At the beginning of a word the blanks before it are dropped or kept, whatever comes after it. -/
lemma Begins.exists_gap {a g : List Char} (ha : Begins a) (hg : IsGap g) {name : String}
    (hname : IsKindName name) : ∃ g', IsGap g' ∧ ∀ more,
      trimStart (a ++ (g ++ (name.toList ++ more))) =
        trimStart a ++ (g' ++ (name.toList ++ more)) := by
  rcases ha.2 with rfl | hsolid
  · exact ⟨[], fun _ hc => absurd hc List.not_mem_nil, fun more => hname.trimStart_append hg more⟩
  · exact ⟨g, hg, fun more => hsolid.trimStart_append _⟩

/-- A word at the end of a line.

**Proof sketch.** The line is trimmed to what stands in front, a gap and the word, which is no mark
that the line goes on; so it is the last one of the logical line. -/
lemma Begins.exists_joins_word {a g h : List Char} (ha : Begins a) (hg : IsGap g) (hh : IsGap h)
    {name : String} (hname : IsKindName name) : ∃ ls g', IsGap g' ∧
      Joins ls (trimStart a ++ (g' ++ name.toList)) ∧
      ∀ t ls', AfterLine t ls' →
        linesFrom [] (a ++ (g ++ (name.toList ++ h) ++ t)) = ls ++ ls' := by
  obtain ⟨g', hg', hstart⟩ := ha.exists_gap hg hname
  have hsolid : EndsSolid (trimStart a ++ (g' ++ name.toList)) :=
    (hname.endsSolid.append g').append _
  have htrim : trimChars (a ++ (g ++ (name.toList ++ h))) =
      trimStart a ++ (g' ++ name.toList) := by
    rw [trimChars_eq, hstart, ← hsolid.trimEnd_append hh.all_isBlank]
    simp only [List.append_assoc]
  have hlast : continued? (trimChars (a ++ (g ++ (name.toList ++ h)))) = none := by
    rw [htrim, ← List.append_assoc]
    exact hname.continued?_eq_none _
  have hline : OneLine (a ++ (g ++ (name.toList ++ h))) :=
    ha.1.append (hg.oneLine.append (hname.oneLine.append hh.oneLine))
  have hne : a ++ (g ++ (name.toList ++ h)) ≠ [] := by simp [hname.toList_ne_nil]
  refine ⟨[a ++ (g ++ (name.toList ++ h))], g', hg', htrim ▸ Joins.last hlast, fun t ls' ht => ?_⟩
  rw [← List.append_assoc, linesFrom_of_afterLine hline hne ht, List.singleton_append]

/-- No comma stands in the name of a kind. -/
lemma IsKindName.not_mem_comma {name : String} (h : IsKindName name) : ',' ∉ name.toList :=
  fun hmem => (h.isPlain _ hmem).ne_comma rfl

/-- The name of a kind behind a gap is one item. -/
lemma itemsOf_word {name : String} (hname : IsKindName name) {g : List Char} (hg : IsGap g) :
    itemsOf (g ++ name.toList) = [name] := by
  have hnil : IsGap [] := fun _ hc => absurd hc List.not_mem_nil
  have htrim := hname.trimChars_eq hg hnil
  rw [List.append_nil] at htrim
  rw [itemsOf_of_not_mem (List.not_mem_append hg.not_mem_comma hname.not_mem_comma), htrim,
    String.ofList_toList]

/-- The name of a kind between gaps is the item before a comma. -/
lemma itemsOf_word_cons {name : String} (hname : IsKindName name) {g h : List Char} (hg : IsGap g)
    (hh : IsGap h) (cs : List Char) :
    itemsOf (g ++ (name.toList ++ (h ++ ',' :: cs))) = name :: itemsOf cs := by
  have hcomma : ',' ∉ g ++ (name.toList ++ h) :=
    List.not_mem_append hg.not_mem_comma (List.not_mem_append hname.not_mem_comma hh.not_mem_comma)
  have hassoc : g ++ (name.toList ++ (h ++ ',' :: cs)) =
      (g ++ (name.toList ++ h)) ++ ',' :: cs := by
    simp only [List.append_assoc]
  rw [hassoc, itemsOf_append_cons hcomma, hname.trimChars_eq hg hh, String.ofList_toList]

/-- A comma is no blank. -/
lemma not_isBlank_comma : isBlank ',' = false := by decide +kernel

/-- A backslash is no blank. -/
lemma not_isBlank_backslash : isBlank '\\' = false := by decide +kernel

/-- **A list is put together again**: the lines in which it is written make up a text whose items
are its kinds.

**Proof sketch.** Induction on the ways to write the list. What has been written of the current line
stands in front; a break ends that line, and the rest of the list begins with nothing in front. -/
theorem exists_joins_of_writesItems {kinds : List String} {cs : List Char}
    (h : WritesItems kinds cs) (hkinds : ∀ kind ∈ kinds, IsKindName kind) {a : List Char}
    (ha : Begins a) : ∃ ls text, Joins ls (trimStart a ++ text) ∧ itemsOf text = kinds ∧
      EndsSolid text ∧
      ∀ t ls', AfterLine t ls' → linesFrom [] (a ++ (cs ++ t)) = ls ++ ls' := by
  induction h generalizing a with
  | @one g kind h hg hh =>
    have hkind := hkinds kind List.mem_cons_self
    obtain ⟨ls, g', hg', hjoins, hlines⟩ := ha.exists_joins_word hg hh hkind
    exact ⟨ls, g' ++ kind.toList, hjoins, itemsOf_word hkind hg', hkind.endsSolid.append g', hlines⟩
  | @next g kind h kinds cs hg hh _ ih =>
    obtain ⟨hkind, hkinds⟩ := List.forall_mem_cons.1 hkinds
    obtain ⟨g', hg', hstart⟩ := ha.exists_gap hg hkind
    -- the comma now stands in front of the rest, on the same line
    have hfront : Begins (a ++ (g ++ (kind.toList ++ (h ++ [','])))) := by
      refine ⟨ha.1.append (hg.oneLine.append (hkind.oneLine.append (hh.oneLine.append ?_))),
        .inr ?_⟩
      · exact .cons rfl .nil
      · simp only [← List.append_assoc]
        exact endsSolid_concat _ not_isBlank_comma
    obtain ⟨ls, text, hjoins, hitems, hsolid, hlines⟩ := ih hkinds hfront
    refine ⟨ls, g' ++ (kind.toList ++ (h ++ ',' :: text)), ?_, ?_, ?_, fun t ls' ht => ?_⟩
    · rw [hstart] at hjoins
      simpa only [List.append_assoc, List.singleton_append] using hjoins
    · rw [itemsOf_word_cons hkind hg' hh, hitems]
    · simpa only [List.append_assoc, List.singleton_append] using
        hsolid.append (g' ++ (kind.toList ++ (h ++ [','])))
    · simpa only [List.append_assoc, List.cons_append, List.nil_append] using hlines t ls' ht
  | @broken g kind h b kinds cs hg hh hb _ ih =>
    obtain ⟨hkind, hkinds⟩ := List.forall_mem_cons.1 hkinds
    obtain ⟨g', hg', hstart⟩ := ha.exists_gap hg hkind
    obtain ⟨ls, text, hjoins, hitems, hsolid, hlines⟩ := ih hkinds ⟨.nil, .inl rfl⟩
    have hline : OneLine (a ++ (g ++ (kind.toList ++ (h ++ ',' :: (b ++ ['\\']))))) :=
      ha.1.append (hg.oneLine.append (hkind.oneLine.append (hh.oneLine.append
        (.cons rfl (hb.oneLine.append (.cons rfl .nil))))))
    have htrim : trimChars (a ++ (g ++ (kind.toList ++ (h ++ ',' :: (b ++ ['\\']))))) =
        trimStart a ++ (g' ++ (kind.toList ++ (h ++ ',' :: b))) ++ ['\\'] := by
      have hend := endsSolid_concat (trimStart a ++ (g' ++ (kind.toList ++ (h ++ ',' :: b))))
        not_isBlank_backslash
      rw [trimChars_eq, hstart, ← hend.trimEnd_eq]
      simp only [List.append_assoc, List.cons_append]
    refine ⟨(a ++ (g ++ (kind.toList ++ (h ++ ',' :: (b ++ ['\\']))))) :: ls,
      g' ++ (kind.toList ++ (h ++ ',' :: (b ++ text))), ?_, ?_, ?_, fun t ls' ht => ?_⟩
    · simpa only [List.append_assoc, List.cons_append, trimStart, List.dropWhile_nil,
        List.nil_append] using Joins.more htrim hjoins
    · rw [itemsOf_word_cons hkind hg' hh, itemsOf_append_of_blank hb.all_isBlank, hitems]
    · simpa only [List.append_assoc, List.cons_append] using
        hsolid.append (g' ++ (kind.toList ++ (h ++ ',' :: b)))
    · have hrest := hlines t ls' ht
      rw [List.nil_append] at hrest
      have hfirst := linesFrom_append_lineFeed hline (cs ++ t)
      rw [hrest] at hfirst
      simpa only [List.append_assoc, List.cons_append, List.nil_append] using hfirst

namespace Setting

section

variable {s : Setting} {cs value before : List Char} {sign : Char}

/-- Neither sign is a blank. -/
lemma not_isBlank_sign (hsign : sign = '=' ∨ sign = ':') : isBlank sign = false := by
  rcases hsign with rfl | rfl <;> decide +kernel

/-- The text of an empty list is the sign before it. -/
lemma exists_joins_gap {g : List Char} (hg : IsGap g) (hbefore : OneLine before)
    (hsign : sign = '=' ∨ sign = ':') : ∃ ls, Joins ls (trimStart (before ++ [sign])) ∧
      ∀ t ls', AfterLine t ls' → linesFrom [] (before ++ [sign] ++ (g ++ t)) = ls ++ ls' := by
  have hend : isLineEnd sign = false ∧ sign ≠ '\\' := by
    rcases hsign with rfl | rfl <;> decide
  have hsolid := endsSolid_concat before (not_isBlank_sign hsign)
  have hline : OneLine (before ++ [sign] ++ g) :=
    (hbefore.append (.cons hend.1 .nil)).append hg.oneLine
  have htrim : trimChars (before ++ [sign] ++ g) = trimStart (before ++ [sign]) := by
    rw [trimChars_eq, hsolid.trimStart_append, hsolid.trimStart.trimEnd_append hg.all_isBlank]
  have hlast : continued? (trimChars (before ++ [sign] ++ g)) = none := by
    rw [htrim, trimStart_append_cons _ (not_isBlank_sign hsign)]
    exact continued?_eq_none_of_concat hend.2
  refine ⟨[before ++ [sign] ++ g], htrim ▸ Joins.last hlast, fun t ls' ht => ?_⟩
  rw [← List.append_assoc, linesFrom_of_afterLine hline (by simp) ht, List.singleton_append]

/-- A list after a sign is put together again. -/
lemma exists_joins_list {kinds : List String} (h : WritesList kinds cs)
    (hkinds : ∀ kind ∈ kinds, IsKindName kind) (hbefore : OneLine before)
    (hsign : sign = '=' ∨ sign = ':') :
    ∃ ls text, Joins ls (trimStart (before ++ [sign]) ++ text) ∧
      NodeFilter.splitKinds (String.ofList (trimChars text)) = kinds ∧
      ∀ t ls', AfterLine t ls' → linesFrom [] (before ++ [sign] ++ (cs ++ t)) = ls ++ ls' := by
  cases h with
  | empty hg =>
    obtain ⟨ls, hjoins, hlines⟩ := exists_joins_gap hg hbefore hsign
    refine ⟨ls, [], by rwa [List.append_nil], by decide +kernel, hlines⟩
  | items hitems =>
    have hend : isLineEnd sign = false := by rcases hsign with rfl | rfl <;> rfl
    obtain ⟨ls, text, hjoins, htext, hsolid, hlines⟩ := exists_joins_of_writesItems hitems hkinds
      ⟨hbefore.append (.cons hend .nil), .inr (endsSolid_concat _ (not_isBlank_sign hsign))⟩
    exact ⟨ls, text, hjoins,
      splitKinds_trimChars hsolid htext fun kind hkind => (hkinds kind hkind).1, hlines⟩

/-- What stands after the sign is put together again, and has its meaning.

**Proof sketch.** By the value: a word stands at the end of the line, and a list may go on over
several. -/
lemma exists_joins_value (h : s.WritesValue value) (hs : s.Named) (hbefore : OneLine before)
    (hsign : sign = '=' ∨ sign = ':') :
    ∃ ls text, Joins ls (trimStart (before ++ [sign]) ++ text) ∧
      s.GivenAs (s.key, String.ofList (trimChars text)) ∧
      ∀ t ls', AfterLine t ls' → linesFrom [] (before ++ [sign] ++ (value ++ t)) = ls ++ ls' := by
  cases h with
  | @flag kind b g word h hg hword hh =>
    have hname := isKindName_of_flagWord? hword
    have hend : isLineEnd sign = false := by rcases hsign with rfl | rfl <;> rfl
    have hbegins : Begins (before ++ [sign]) :=
      ⟨hbefore.append (.cons hend .nil), .inr (endsSolid_concat _ (not_isBlank_sign hsign))⟩
    obtain ⟨ls, g', hg', hjoins, hlines⟩ := hbegins.exists_joins_word hg hh hname
    have hnil : IsGap [] := fun _ hc => absurd hc List.not_mem_nil
    have htrim := hname.trimChars_eq hg' hnil
    rw [List.append_nil] at htrim
    refine ⟨ls, g' ++ word.toList, hjoins, ⟨rfl, ?_⟩, hlines⟩
    rwa [htrim, String.ofList_toList]
  | omitted hkinds =>
    obtain ⟨ls, text, hjoins, hvalue, hlines⟩ := exists_joins_list hkinds hs hbefore hsign
    exact ⟨ls, text, hjoins, ⟨rfl, hvalue⟩, hlines⟩
  | leaves hkinds =>
    obtain ⟨ls, text, hjoins, hvalue, hlines⟩ := exists_joins_list hkinds hs hbefore hsign
    exact ⟨ls, text, hjoins, ⟨rfl, hvalue⟩, hlines⟩

/-- The key of a named setting is written as the name of a kind is. -/
lemma isKindName_key (hs : s.Named) : IsKindName s.key := by
  have hkeys : ∀ key ∈ [omitKey, leafKey], IsKindName key := by decide +kernel
  cases s with
  | flag kind b => exact hs
  | omitted kinds => exact hkeys _ List.mem_cons_self
  | leaves kinds => exact hkeys _ (List.mem_cons_of_mem _ List.mem_cons_self)

/-- **A line is put together again**, and cut into its key and a value with its meaning.

**Proof sketch.** The value is joined with what stands before it. The first sign in the text is the
one after the key, so the text is cut there; and it begins with the key, which is no mark of a
comment. -/
theorem exists_joins (h : s.Writes cs) (hs : s.Named) : ∃ ls text entry, Joins ls text ∧
    splitEntry? text = some entry ∧ (∀ c ∈ text.head?, ¬ IsCommentMark c) ∧ s.GivenAs entry ∧
    ∀ t ls', AfterLine t ls' → linesFrom [] (cs ++ t) = ls ++ ls' := by
  obtain @⟨g, h, sign, value, hg, hh, hsign, hvalue⟩ := h
  have hkey := isKindName_key hs
  have hnil : IsGap [] := fun _ hc => absurd hc List.not_mem_nil
  have hbefore : OneLine (g ++ (s.key.toList ++ h)) :=
    hg.oneLine.append (hkey.oneLine.append hh.oneLine)
  obtain ⟨ls, text, hjoins, hgiven, hlines⟩ := exists_joins_value hvalue hs hbefore hsign
  have htext : trimStart (g ++ (s.key.toList ++ h) ++ [sign]) ++ text =
      (s.key.toList ++ h) ++ sign :: text := by
    have hstart := hkey.trimStart_append hg (h ++ [sign])
    simp only [List.append_assoc] at hstart ⊢
    rw [hstart]
    simp only [List.append_assoc, List.singleton_append]
  rw [htext] at hjoins
  have htrim : trimChars (s.key.toList ++ h) = s.key.toList := hkey.trimChars_eq hnil hh
  refine ⟨ls, _, _, hjoins, splitEntry?_append ?_ ?_ ?_, fun c hc => ?_, ?_, fun t ls' ht => ?_⟩
  · exact List.forall_mem_append.2 ⟨fun c hc => (hkey.isPlain c hc).not_separator, hh.not_separator⟩
  · rcases hsign with rfl | rfl <;> rfl
  · rw [htrim]
    exact hkey.toList_ne_nil
  · cases hchars : s.key.toList with
    | nil => exact absurd hchars hkey.toList_ne_nil
    | cons d ds =>
      rw [hchars] at hc
      obtain rfl := Option.some.inj hc
      exact (hkey.isPlain d (by rw [hchars]; exact List.mem_cons_self)).not_mark
  · rwa [htrim, String.ofList_toList]
  · simpa only [List.append_assoc, List.singleton_append, List.cons_append, List.nil_append] using
      hlines t ls' ht

end

end Setting

/-! ## The lines of a layout -/

/-- Blank lines and comments hold nothing to read. -/
lemma WritesIdle.isIdle {cs : List Char} (h : WritesIdle cs) :
    OneLine cs ∧ isIdle (trimChars cs) = true := by
  cases h with
  | blank hg =>
    refine ⟨hg.oneLine, ?_⟩
    rw [trimChars_eq_nil hg.all_isBlank]
    rfl
  | @comment g mark text hg hmark htext =>
    have hplain : isBlank mark = false ∧ isLineEnd mark = false := by
      rcases hmark with rfl | rfl <;> decide +kernel
    obtain ⟨hblank, hend⟩ := hplain
    refine ⟨hg.oneLine.append (.cons hend htext), ?_⟩
    have htrim : trimEnd (mark :: text) = mark :: trimEnd text := trimEnd_append_cons [] hblank text
    rw [trimChars_eq, trimStart_append_of_blank hg.all_isBlank, trimStart_cons hblank, htrim]
    exact isIdle_cons_iff.2 hmark

/-- **The lines of a layout give what they say**, one after the other, and nothing is left over.

**Proof sketch.** Induction on the layout. Idle lines change nothing; the lines of a setting are
joined, and set the entry that they give. -/
theorem run_of_layout {settings : List Setting} {cs : List Char} (h : Layout settings cs)
    (hnamed : ∀ s ∈ settings, s.Named) (state : PropertiesState) (hstate : state.pending = [])
    (number : Nat) : ∃ entries last, List.Forall₂ Setting.GivenAs settings entries ∧
      state.run number (linesFrom [] cs) = .ok last ∧ last.pending = [] ∧
      last.entries = Entries.update state.entries entries := by
  induction h generalizing state number with
  | nil => exact ⟨[], state, .nil, rfl, hstate, rfl⟩
  | @idle cs hidle =>
    obtain ⟨hline, htrim⟩ := hidle.isIdle
    refine ⟨[], state, .nil, ?_, hstate, rfl⟩
    by_cases hne : cs = []
    · rw [hne]
      rfl
    · have hlines := linesFrom_of_afterLine hline hne .nothing
      rw [List.append_nil] at hlines
      rw [hlines, PropertiesState.run, PropertiesState.step_of_isIdle hstate htrim]
      rfl
  | @setting s cs hs =>
    obtain ⟨ls, text, entry, hjoins, hentry, hmark, hgiven, hlines⟩ :=
      Setting.exists_joins hs (hnamed s List.mem_cons_self)
    obtain ⟨start, next, hrun⟩ := PropertiesState.run_of_joins (s := state) number hjoins
      (by rwa [hstate]) (fun _ => hmark) []
    rw [← hlines [] [] .nothing, List.append_nil] at hrun
    exact ⟨[entry], _, .cons hgiven .nil, hrun, rfl, rfl⟩
  | @idleLine settings cs ds hidle _ ih =>
    obtain ⟨hline, htrim⟩ := hidle.isIdle
    rw [linesFrom_append_lineFeed hline, PropertiesState.run,
      PropertiesState.step_of_isIdle hstate htrim]
    exact ih hnamed state hstate (number + 1)
  | @settingLine s settings cs ds hs _ ih =>
    obtain ⟨hs', hnamed⟩ := List.forall_mem_cons.1 hnamed
    obtain ⟨ls, text, entry, hjoins, hentry, hmark, hgiven, hlines⟩ := Setting.exists_joins hs hs'
    obtain ⟨start, next, hrun⟩ := PropertiesState.run_of_joins (s := state) number hjoins
      (by rwa [hstate]) (fun _ => hmark) (linesFrom [] ds)
    obtain ⟨entries, last, hentries, hlast, hpending, hupdate⟩ :=
      ih hnamed ⟨Entries.set state.entries entry.1 entry.2, [], start⟩ rfl next
    rw [hlines _ _ (.lineFeed ds), hrun]
    exact ⟨entry :: entries, last, .cons hgiven hentries, hlast, hpending, hupdate⟩

end JavaTree
