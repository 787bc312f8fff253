import JavaTree.Proofs.WrittenSettings

/-!
# Filters written to properties files

Every filter whose kinds are words can be written to a properties file, and is read back from it,
however the file is laid out: blanks, broken lists, blank lines and comments do not matter, nor does
the place of the two lists.

## Main definitions

* `NodeFilter.Writable` — the filters that can be written.
* `Describes` — lines describe a filter.

## Main results

* `filterOfText_of_layout` — a filter is read back from every layout.
* `loadFilter_of_layout` — this for the properties file of a project, and that there is a layout.
-/

namespace JavaTree

/-- A filter can be written if its kinds are words, and each of its flags has a kind of its own that
is neither of the keys of the two lists. -/
structure NodeFilter.Writable (f : NodeFilter) : Prop where
  nodup_keys : (f.flags.map (·.1)).Nodup
  isKindKey : ∀ flag ∈ f.flags, IsKindKey flag.1
  isKindName_key : ∀ flag ∈ f.flags, IsKindName flag.1
  isKindName_omitted : ∀ kind ∈ f.omitted, IsKindName kind
  isKindName_leaf : ∀ kind ∈ f.leaves, IsKindName kind

/-! ## The filter of a layout -/

namespace Setting

/-- The flag that a line sets. -/
def flag? : Setting → Option (String × Bool)
  | flag kind b => some (kind, b)
  | _ => none

/-- The kinds that a line omits. -/
def omitted? : Setting → Option (List String)
  | omitted kinds => some kinds
  | _ => none

/-- The kinds that a line makes leaves. -/
def leaves? : Setting → Option (List String)
  | leaves kinds => some kinds
  | _ => none

end Setting

/-- **Lines describe a filter** if they hold a line for each of its flags, in their order, and one
line for each of its lists, at any place among them. -/
structure Describes (settings : List Setting) (f : NodeFilter) : Prop where
  flags : settings.filterMap Setting.flag? = f.flags
  omitted : settings.filterMap Setting.omitted? = [f.omitted]
  leaves : settings.filterMap Setting.leaves? = [f.leaves]

section

variable {settings : List Setting} {entries : List (String × String)} {f : NodeFilter}

/-- A member of the first of two related lists is related to one of the second. -/
lemma exists_mem_of_forall₂ {α β : Type} {R : α → β → Prop} {as : List α} {bs : List β}
    (h : List.Forall₂ R as bs) {a : α} (ha : a ∈ as) : ∃ b ∈ bs, R a b := by
  induction h with
  | nil => cases ha
  | cons hab _ ih =>
    rcases List.mem_cons.1 ha with rfl | ha
    · exact ⟨_, List.mem_cons_self, hab⟩
    · obtain ⟨b, hb, hab'⟩ := ih ha
      exact ⟨b, List.mem_cons_of_mem _ hb, hab'⟩

/-- A setting is given under its key. -/
lemma Setting.GivenAs.fst_eq {s : Setting} {entry : String × String} (h : s.GivenAs entry) :
    entry.1 = s.key := by
  cases s <;> exact h.1

/-- Settings are given under their keys, in their order. -/
lemma map_fst_of_given (h : List.Forall₂ Setting.GivenAs settings entries) :
    entries.map (·.1) = settings.map Setting.key := by
  induction h with
  | nil => rfl
  | cons hgiven _ ih => rw [List.map_cons, List.map_cons, ih, hgiven.fst_eq]

/-- The keys of lines are the kinds of their flags, and the keys of their lists. -/
lemma perm_keys (settings : List Setting) : (settings.map Setting.key).Perm
    ((settings.filterMap Setting.flag?).map (·.1) ++
      ((settings.filterMap Setting.omitted?).map (fun _ => omitKey) ++
        (settings.filterMap Setting.leaves?).map fun _ => leafKey)) := by
  induction settings with
  | nil => exact .nil
  | cons s settings ih =>
    cases s with
    | flag kind b => exact ih.cons kind
    | omitted kinds => exact (ih.cons omitKey).trans List.perm_middle.symm
    | leaves kinds =>
      refine (ih.cons leafKey).trans ?_
      simp only [← List.append_assoc]
      exact List.perm_middle.symm

/-- The keys of the settings of a filter are distinct. -/
lemma nodup_keys (h : Describes settings f) (hf : f.Writable) :
    (settings.map Setting.key).Nodup := by
  have hkeys : omitKey ≠ leafKey := by decide +kernel
  rw [(perm_keys settings).nodup_iff, h.flags, h.omitted, h.leaves, List.nodup_append]
  refine ⟨hf.nodup_keys, by simpa using hkeys, fun key hkey other hother => ?_⟩
  obtain ⟨flag, hflag, rfl⟩ := List.mem_map.1 hkey
  obtain ⟨hne, hne'⟩ := hf.isKindKey flag hflag
  rcases List.mem_cons.1 hother with rfl | hother
  · exact hne
  · obtain rfl := List.mem_singleton.1 hother
    exact hne'

/-- The flags among the settings of a filter are its flags. -/
lemma Describes.flag_mem_iff {kind : String} {b : Bool} (h : Describes settings f) :
    .flag kind b ∈ settings ↔ (kind, b) ∈ f.flags := by
  rw [← h.flags, List.mem_filterMap]
  constructor
  · exact fun hs => ⟨_, hs, rfl⟩
  · rintro ⟨s, hs, hflag⟩
    cases s <;> cases hflag
    exact hs

/-- The list of omitted kinds among the settings of a filter is its list. -/
lemma Describes.omitted_mem_iff {kinds : List String} (h : Describes settings f) :
    .omitted kinds ∈ settings ↔ kinds = f.omitted := by
  rw [← List.mem_singleton, ← h.omitted, List.mem_filterMap]
  constructor
  · exact fun hs => ⟨_, hs, rfl⟩
  · rintro ⟨s, hs, hkinds⟩
    cases s <;> cases hkinds
    exact hs

/-- The list of leaf kinds among the settings of a filter is its list. -/
lemma Describes.leaves_mem_iff {kinds : List String} (h : Describes settings f) :
    .leaves kinds ∈ settings ↔ kinds = f.leaves := by
  rw [← List.mem_singleton, ← h.leaves, List.mem_filterMap]
  constructor
  · exact fun hs => ⟨_, hs, rfl⟩
  · rintro ⟨s, hs, hkinds⟩
    cases s <;> cases hkinds
    exact hs

/-- The entries of lines have the flags of these lines, and all of them are clear.

**Proof sketch.** Induction on the settings. A flag has a key about its kind and a word that gives
it; the two lists have keys of their own and are filtered out. -/
lemma flags_of_given (h : List.Forall₂ Setting.GivenAs settings entries)
    (hkinds : ∀ flag ∈ settings.filterMap Setting.flag?, IsKindKey flag.1) :
    flagsOf (kindEntries entries) = settings.filterMap Setting.flag? ∧
      unclear (kindEntries entries) = [] := by
  have hlists : ¬ IsKindKey omitKey ∧ ¬ IsKindKey leafKey :=
    ⟨fun hkey => hkey.1 rfl, fun hkey => hkey.2 rfl⟩
  rw [kindEntries_eq]
  induction h with
  | nil => exact ⟨rfl, rfl⟩
  | @cons s entry settings entries hgiven _ ih =>
    cases s with
    | flag kind b =>
      obtain ⟨hkey, hword⟩ := hgiven
      obtain ⟨hkind, hkinds⟩ := List.forall_mem_cons.1 hkinds
      obtain ⟨hflags, hunclear⟩ := ih hkinds
      have hclear : ¬ ¬ IsFlagWord entry.2 := by
        rw [← flagWord?_eq_none, hword]
        exact Option.some_ne_none b
      rw [List.filter_cons, hkey, if_pos (decide_eq_true hkind)]
      refine ⟨?_, ?_⟩
      · rw [flagsOf, List.filterMap_cons, hword, hkey, Option.map_some, ← flagsOf, hflags]
        rfl
      · rw [unclear, List.filter_cons, if_neg (by simpa using hclear)]
        exact hunclear
    | omitted kinds =>
      rw [List.filter_cons, hgiven.1, if_neg (by simpa using hlists.1)]
      exact ih hkinds
    | leaves kinds =>
      rw [List.filter_cons, hgiven.1, if_neg (by simpa using hlists.2)]
      exact ih hkinds

/-- **The entries of lines that describe a filter** give this filter.

**Proof sketch.** The keys of settings are distinct, so each entry is found under its key, the two
lists among them. The flags are those of the settings, and none of them is unclear. -/
theorem filterOfEntries_of_given (h : List.Forall₂ Setting.GivenAs settings entries)
    (hsettings : Describes settings f) (hf : f.Writable) :
    (entries.map (·.1)).Nodup ∧ filterOfEntries entries = .ok f := by
  have hnodup : (entries.map (·.1)).Nodup := by
    rw [map_fst_of_given h]
    exact nodup_keys hsettings hf
  have hlookup : ∀ s ∈ settings, ∃ value, entries.lookup s.key = some value ∧
      s.GivenAs (s.key, value) := by
    intro s hs
    obtain ⟨entry, hentry, hgiven⟩ := exists_mem_of_forall₂ h hs
    have hkey : (s.key, entry.2) = entry := Prod.ext hgiven.fst_eq.symm rfl
    exact ⟨entry.2, (Entries.lookup_eq_some_iff_mem hnodup).2 (hkey ▸ hentry), hkey ▸ hgiven⟩
  obtain ⟨value, hvalue, -, homit⟩ := hlookup _ (hsettings.omitted_mem_iff.2 rfl)
  obtain ⟨value', hvalue', -, hleaf⟩ := hlookup _ (hsettings.leaves_mem_iff.2 rfl)
  obtain ⟨hflags, hunclear⟩ := flags_of_given h (by rw [hsettings.flags]; exact hf.isKindKey)
  rw [filterOfEntries_eq hnodup, if_pos hunclear, hflags, hsettings.flags]
  refine ⟨hnodup, ?_⟩
  have homit' : entries.lookup omitKey = some value := hvalue
  have hleaf' : entries.lookup leafKey = some value' := hvalue'
  rw [homit', hleaf', Option.map_some, Option.map_some, Option.getD_some, Option.getD_some]
  simp only at homit hleaf
  rw [homit, hleaf]

end

/-! ## Carriage returns -/

/-- There is no carriage return on one line. -/
lemma OneLine.not_mem_return {cs : List Char} (h : OneLine cs) : '\r' ∉ cs :=
  fun hmem => absurd (h _ hmem) (by decide)

/-- The items of a list are laid out without a carriage return. -/
lemma WritesItems.not_mem_return {kinds : List String} {cs : List Char} (h : WritesItems kinds cs)
    (hkinds : ∀ kind ∈ kinds, IsKindName kind) : '\r' ∉ cs := by
  induction h with
  | one hg hh =>
    have hkind := (hkinds _ List.mem_cons_self).oneLine
    exact (hg.oneLine.append (hkind.append hh.oneLine)).not_mem_return
  | next hg hh _ ih =>
    obtain ⟨hkind, hkinds⟩ := List.forall_mem_cons.1 hkinds
    simp [hg.oneLine.not_mem_return, hh.oneLine.not_mem_return, hkind.oneLine.not_mem_return,
      ih hkinds]
  | broken hg hh hb _ ih =>
    obtain ⟨hkind, hkinds⟩ := List.forall_mem_cons.1 hkinds
    simp [hg.oneLine.not_mem_return, hh.oneLine.not_mem_return, hb.oneLine.not_mem_return,
      hkind.oneLine.not_mem_return, ih hkinds]

/-- A list is laid out without a carriage return. -/
lemma WritesList.not_mem_return {kinds : List String} {cs : List Char} (h : WritesList kinds cs)
    (hkinds : ∀ kind ∈ kinds, IsKindName kind) : '\r' ∉ cs := by
  cases h with
  | empty hg => exact hg.oneLine.not_mem_return
  | items hitems => exact hitems.not_mem_return hkinds

/-- A setting is laid out without a carriage return. -/
lemma Setting.Writes.not_mem_return {s : Setting} {cs : List Char} (h : s.Writes cs)
    (hs : s.Named) : '\r' ∉ cs := by
  obtain @⟨g, h, sign, value, hg, hh, hsign, hvalue⟩ := h
  have hreturn : '\r' ∉ value := by
    cases hvalue with
    | flag hg hword hh =>
      exact (hg.oneLine.append ((isKindName_of_flagWord? hword).oneLine.append
        hh.oneLine)).not_mem_return
    | omitted hlist => exact hlist.not_mem_return hs
    | leaves hlist => exact hlist.not_mem_return hs
  have hne : sign ≠ '\r' := by rcases hsign with rfl | rfl <;> decide
  simp [hg.oneLine.not_mem_return, hh.oneLine.not_mem_return, hreturn, Ne.symm hne,
    (Setting.isKindName_key hs).oneLine.not_mem_return]

/-- Settings are laid out without a carriage return. -/
lemma Layout.not_mem_return {settings : List Setting} {cs : List Char} (h : Layout settings cs)
    (hnamed : ∀ s ∈ settings, s.Named) : '\r' ∉ cs := by
  induction h with
  | nil => exact List.not_mem_nil
  | idle hidle => exact hidle.isIdle.1.not_mem_return
  | setting hs => exact hs.not_mem_return (hnamed _ List.mem_cons_self)
  | idleLine hidle _ ih => simp [hidle.isIdle.1.not_mem_return, ih hnamed]
  | settingLine hs _ ih =>
    obtain ⟨hs', hnamed⟩ := List.forall_mem_cons.1 hnamed
    simp [hs.not_mem_return hs', ih hnamed]

/-! ## The file of a layout -/

/-- Every setting of a filter that can be written is about a kind with a name.

**Proof sketch.** By the setting: its kinds are those of the filter. -/
lemma Describes.named {settings : List Setting} {f : NodeFilter} (h : Describes settings f)
    (hf : f.Writable) : ∀ s ∈ settings, s.Named := by
  intro s hs
  cases s with
  | flag kind b => exact hf.isKindName_key _ (h.flag_mem_iff.1 hs)
  | omitted kinds => exact h.omitted_mem_iff.1 hs ▸ hf.isKindName_omitted
  | leaves kinds => exact h.leaves_mem_iff.1 hs ▸ hf.isKindName_leaf

/-- The text of a properties file in UTF-8 without carriage returns is what it was written from. -/
lemma settingsText_toByteArray {text : String} (h : '\r' ∉ text.toList) :
    settingsText text.toByteArray = text := by
  have hdecode : String.fromUTF8? text.toByteArray = some text :=
    Encoding.decode?_utf8_toByteArray text
  rw [settingsText, decodeSettings, hdecode, Option.getD_some, unifyLineEnds_eq_self h]

/-- The text of a layout says what its lines say. -/
theorem filterOfText_of_layout {f : NodeFilter} (hf : f.Writable) {settings : List Setting}
    (hsettings : Describes settings f) {text : String} (hlayout : Layout settings text.toList) :
    filterOfText text = .ok f := by
  obtain ⟨entries, last, hgiven, hrun, hpending, hupdate⟩ :=
    run_of_layout hlayout (hsettings.named hf) {} rfl 1
  obtain ⟨hnodup, hfilter⟩ := filterOfEntries_of_given hgiven hsettings hf
  have hentries : last.entries = entries := hupdate.trans (Entries.ofList_eq_self hnodup)
  refine filterOfText_eq_ok_iff.2 ⟨entries, ?_, hfilter⟩
  rw [parseProperties, hrun]
  simp only [PropertiesState.finish, hpending, hentries, List.isEmpty_nil, if_true]

/-! ## Every filter has a layout -/

/-- Every list can be written. -/
lemma exists_writesList (kinds : List String) : ∃ cs, WritesList kinds cs := by
  have hnil : IsGap [] := fun _ hc => absurd hc List.not_mem_nil
  have hitems : ∀ kind kinds, ∃ cs, WritesItems (kind :: kinds) cs := by
    intro kind kinds
    induction kinds generalizing kind with
    | nil => exact ⟨_, .one hnil hnil⟩
    | cons other kinds ih =>
      obtain ⟨cs, hcs⟩ := ih other
      exact ⟨_, .next hnil hnil hcs⟩
  cases kinds with
  | nil => exact ⟨[], .empty hnil⟩
  | cons kind kinds =>
    obtain ⟨cs, hcs⟩ := hitems kind kinds
    exact ⟨cs, .items hcs⟩

/-- Every setting can be written.

**Proof sketch.** A setting is written without gaps, with a word for its flag or its list in one
line. -/
lemma Setting.exists_writes (s : Setting) : ∃ cs, s.Writes cs := by
  have hnil : IsGap [] := fun _ hc => absurd hc List.not_mem_nil
  have hvalue : ∃ value, s.WritesValue value := by
    cases s with
    | flag kind b =>
      have hword : flagWord? (if b then "true" else "false") = some b := by
        cases b <;> decide +kernel
      exact ⟨_, .flag hnil hword hnil⟩
    | omitted kinds =>
      obtain ⟨cs, hcs⟩ := exists_writesList kinds
      exact ⟨cs, .omitted hcs⟩
    | leaves kinds =>
      obtain ⟨cs, hcs⟩ := exists_writesList kinds
      exact ⟨cs, .leaves hcs⟩
  obtain ⟨value, hvalue⟩ := hvalue
  exact ⟨_, .mk hnil hnil (.inl rfl) hvalue⟩

/-- All settings can be laid out. -/
lemma exists_layout (settings : List Setting) : ∃ cs, Layout settings cs := by
  induction settings with
  | nil => exact ⟨[], .nil⟩
  | cons s settings ih =>
    obtain ⟨cs, hcs⟩ := s.exists_writes
    obtain ⟨ds, hds⟩ := ih
    exact ⟨_, .settingLine hcs hds⟩

/-- Every filter is described by settings.

**Proof sketch.** The flags in their order, and then the two lists. -/
lemma exists_describes (f : NodeFilter) : ∃ settings, Describes settings f := by
  have hflags : ∀ flags : List (String × Bool),
      (flags.map fun flag => Setting.flag flag.1 flag.2).filterMap Setting.flag? = flags ∧
      (flags.map fun flag => Setting.flag flag.1 flag.2).filterMap Setting.omitted? = [] ∧
      (flags.map fun flag => Setting.flag flag.1 flag.2).filterMap Setting.leaves? = [] := by
    intro flags
    simp [List.filterMap_map, Function.comp_def, Setting.flag?, Setting.omitted?, Setting.leaves?]
  obtain ⟨hflag, homitted, hleaves⟩ := hflags f.flags
  refine ⟨(f.flags.map fun flag => Setting.flag flag.1 flag.2) ++
    [.omitted f.omitted, .leaves f.leaves], ?_, ?_, ?_⟩
  · rw [List.filterMap_append, hflag]
    exact List.append_nil _
  · rw [List.filterMap_append, homitted]
    rfl
  · rw [List.filterMap_append, hleaves]
    rfl

/-- **Every filter can be written to a properties file, and is read back from it** under any layout:
there are lines that describe it, and a layout of them; and whatever lines describe it, in whatever
order and layout, the filter is what comes out of a file with them.

**Proof sketch.** The lines of a layout are read one after the other.  A blank line or a comment
leaves the entries alone.  A line for a kind or a list may be broken after commas; put together
again, it is cut at its sign, and what stands after the sign means what has been written, since
blanks around words and commas are trimmed.  So the entries that are read hold, in the order of the
lines, a clear word for each flag, and the two lists. -/
theorem loadFilter_of_layout (f : NodeFilter) (hf : f.Writable) :
    (∃ settings text, Describes settings f ∧ Layout settings (String.toList text)) ∧
    ∀ settings text, Describes settings f → Layout settings (String.toList text) →
      ∀ d path, Disk.content? d path = some text.toByteArray →
        (loadFilter d (some path)).result = .ok f := by
  constructor
  · obtain ⟨settings, hsettings⟩ := exists_describes f
    obtain ⟨cs, hcs⟩ := exists_layout settings
    exact ⟨settings, String.ofList cs, hsettings, by rwa [String.toList_ofList]⟩
  · intro settings text hsettings hlayout d path hfile
    rw [result_loadFilter hfile,
      settingsText_toByteArray (hlayout.not_mem_return (hsettings.named hf))]
    exact filterOfText_of_layout hf hsettings hlayout

/-- A file with a comment, a blank line, a broken list, an empty one, and gaps. -/
def looseSettings : String :=
  "! kinds\n block : OFF\t\nOMIT=modifiers , \\\n  block,modifiers\n \t\nexpr_1=yes\nLEAF ="

/-- The filter in this file. -/
def looseFilter : NodeFilter :=
  ⟨[("block", false), ("expr_1", true)], ["modifiers", "block", "modifiers"], []⟩

/-- The disk with this file alone. -/
def looseDisk : Disk := ⟨.folder [("a.properties", .file looseSettings.toByteArray)], []⟩

/-- The filter in the loose file is read back, with the list in its order and the kind that it holds
twice. -/
theorem loadFilter_of_layout_looseSettings : looseFilter.Writable ∧
    looseDisk.content? ⟨.here, ["a.properties"]⟩ = some looseSettings.toByteArray ∧
    (loadFilter looseDisk (some ⟨.here, ["a.properties"]⟩)).result = .ok looseFilter := by
  have hwritable : looseFilter.Writable := by
    constructor <;> decide +kernel
  have hdescribes : Describes [.flag "block" false, .omitted ["modifiers", "block", "modifiers"],
      .flag "expr_1" true, .leaves []] looseFilter := ⟨rfl, rfl, rfl⟩
  have hnil : IsGap [] := by decide
  have hspace : IsGap [' '] := by decide
  have htab : IsGap ['\t'] := by decide
  have hmargin : IsGap [' ', ' '] := by decide
  have hblank : IsGap [' ', '\t'] := by decide
  have hcomment : OneLine " kinds".toList := by decide +kernel
  have hoff : flagWord? "OFF" = some false := by decide +kernel
  have hyes : flagWord? "yes" = some true := by decide +kernel
  have hblock : Setting.Writes (.flag "block" false) _ :=
    .mk hspace hspace (.inr rfl) (.flag hspace hoff htab)
  have hitems : WritesItems ["modifiers", "block", "modifiers"] _ :=
    .broken hnil hspace hspace (.next hmargin hnil (.one hnil hnil))
  have homit : Setting.Writes (.omitted ["modifiers", "block", "modifiers"]) _ :=
    .mk hnil hnil (.inl rfl) (.omitted (.items hitems))
  have hexpr : Setting.Writes (.flag "expr_1" true) _ :=
    .mk hnil hnil (.inl rfl) (.flag hnil hyes hnil)
  have hleaf : Setting.Writes (.leaves []) _ := .mk hnil hspace (.inl rfl) (.leaves (.empty hnil))
  have hlayout := Layout.idleLine (.comment hnil (.inr rfl) hcomment)
    (.settingLine hblock (.settingLine homit (.idleLine (.blank hblank)
      (.settingLine hexpr (.setting hleaf)))))
  have hfile : looseDisk.content? ⟨.here, ["a.properties"]⟩ = some looseSettings.toByteArray := rfl
  refine ⟨hwritable, hfile, (loadFilter_of_layout looseFilter hwritable).2 _ looseSettings
    hdescribes ?_ looseDisk _ hfile⟩
  convert hlayout using 1
  decide +kernel

end JavaTree
