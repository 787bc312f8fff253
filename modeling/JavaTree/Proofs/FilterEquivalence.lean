import Mathlib.Data.List.Nodup
import Mathlib.Data.String.Basic
import JavaTree.Extraction
import JavaTree.Proofs.Java.Parse
import JavaTree.Proofs.NodeFilter
import JavaTree.Proofs.Syntax.Build

/-!
# Filters that cannot be told apart

What a filter does depends on what it says of each kind, and on which kinds it speaks of; how it
says so does not matter.  So a kind can be omitted or switched off by its flag, and the lists of
kinds can be put in any order, with any repetitions.

## Main definitions

* `NodeFilter.Mentions` — a filter speaks of a kind.
* `NodeFilter.Alike` — filters that say the same of each kind and speak of the same kinds.
* `NodeFilter.switchOff` — a filter in which a flag stands for an omitted kind.

## Main results

* `NodeFilter.mentioned_eq_iff` — filters speak of the same kinds, in code point order.
* `NodeFilter.Alike.build_eq`, `NodeFilter.Alike.warnings_eq` — filters that are alike give the same
  elements and warn of the same kinds.
* `NodeFilter.omitted_or_off` — an omitted kind and one that is switched off, lists of kinds in any
  order, and the warnings.
-/

namespace JavaTree

namespace NodeFilter

variable {f g : NodeFilter} {kind : String}

/-! ## The kinds that a filter speaks of -/

/-- A filter speaks of a kind: it has a flag for it, omits it, or shows it as a leaf. -/
def Mentions (f : NodeFilter) (kind : String) : Prop :=
  kind ∈ f.flags.map (·.1) ∨ kind ∈ f.omitted ∨ kind ∈ f.leaves

/-- The kinds listed as mentioned are those that the filter mentions. -/
lemma mem_mentioned_iff : kind ∈ f.mentioned ↔ f.Mentions kind := by
  rw [mentioned, List.mem_mergeSort, List.mem_eraseDups, List.mem_append, List.mem_append, or_assoc,
    Mentions]

/-- **The kinds that a filter speaks of are in code point order**, each of them once.

**Proof sketch.** The kinds are sorted, so they increase, and duplicates are erased, so they
increase strictly. -/
lemma pairwise_mentioned (f : NodeFilter) : f.mentioned.Pairwise (· < ·) := by
  have htrans : ∀ a b c : String, decide (a ≤ b) = true → decide (b ≤ c) = true →
      decide (a ≤ c) = true := by
    intro a b c
    simp only [decide_eq_true_eq]
    exact le_trans
  have htotal : ∀ a b : String, (decide (a ≤ b) || decide (b ≤ a)) = true := by
    intro a b
    simp only [Bool.or_eq_true, decide_eq_true_eq]
    exact le_total a b
  have hle : f.mentioned.Pairwise (· ≤ ·) :=
    (List.pairwise_mergeSort htrans htotal _).imp fun h => of_decide_eq_true h
  have hne : f.mentioned.Pairwise (· ≠ ·) :=
    (List.mergeSort_perm _ _).nodup_iff.2 (nodup_eraseDups _)
  exact hle.imp₂ (fun _ _ hle hne => lt_of_le_of_ne hle hne) hne

/-- Filters that speak of the same kinds list them in the same way. -/
theorem mentioned_eq_iff :
    f.mentioned = g.mentioned ↔ ∀ kind, f.Mentions kind ↔ g.Mentions kind := by
  constructor
  · intro h kind
    rw [← mem_mentioned_iff, ← mem_mentioned_iff, h]
  · intro h
    have hf := f.pairwise_mentioned
    have hg := g.pairwise_mentioned
    have hperm : f.mentioned.Perm g.mentioned := by
      refine (List.perm_ext_iff_of_nodup (hf.imp ne_of_lt) (hg.imp ne_of_lt)).2 fun kind => ?_
      rw [mem_mentioned_iff, mem_mentioned_iff, h]
    exact hperm.eq_of_pairwise (fun _ _ _ _ hlt hgt => absurd hlt (lt_asymm hgt)) hf hg

/-! ## Filters that are alike -/

/-- Filters that say the same of each kind, and that speak of the same kinds. -/
structure Alike (f g : NodeFilter) : Prop where
  includes_eq : ∀ kind, f.includes kind = g.includes kind
  isLeaf_eq : ∀ kind, f.isLeaf kind = g.isLeaf kind
  mentions_iff : ∀ kind, f.Mentions kind ↔ g.Mentions kind

namespace Alike

variable (h : f.Alike g)

include h

/-- A node is filled in the same way under filters that are alike. -/
lemma step_eq (b : Building) : b.step f = b.step g := by
  have hshows : SyntaxTree.shows f = SyntaxTree.shows g := by
    funext t
    rw [SyntaxTree.shows, SyntaxTree.shows, h.includes_eq]
  obtain ⟨pending, root⟩ := b
  cases pending with
  | nil => rfl
  | cons p rest =>
    obtain ⟨t, place⟩ := p
    rw [Building.step, Building.step, h.isLeaf_eq, hshows]

/-- What has been built is finished in the same way under filters that are alike. -/
lemma finish_eq (b : Building) : b.finish f = b.finish g := by
  fun_induction Building.finish f b with
  | case1 b hdone =>
    rw [h.step_eq] at hdone
    rw [Building.finish, hdone]
  | case2 b b' hstep ih =>
    rw [h.step_eq] at hstep
    rw [ih, Building.finish_of_step hstep]

/-- **Filters that are alike give the same elements.** -/
theorem build_eq (t : SyntaxTree) : t.build f = t.build g := h.finish_eq _

/-- The same element is made of a tree, and the same mistake found in it, for filters that are
alike. -/
lemma elementOfTree_eq (t : SyntaxTree) : elementOfTree f t = elementOfTree g t := by
  rw [elementOfTree, elementOfTree, h.build_eq]

/-- **Filters that are alike warn of the same kinds**, in the same order. -/
theorem warnings_eq : f.warnings = g.warnings := by
  rw [warnings, warnings, unknownKinds, unknownKinds, mentioned_eq_iff.2 h.mentions_iff]

end Alike

/-! ## Other ways to say the same -/

/-- A filter in which a flag stands for an omitted kind. -/
def switchOff (f : NodeFilter) (kind : String) : NodeFilter :=
  { f with flags := Entries.set f.flags kind false, omitted := f.omitted.filter (· != kind) }

/-- Switching off a kind that is omitted anyway changes what is included in nothing. -/
lemma includes_switchOff (f : NodeFilter) (hkind : kind ∈ f.omitted) (other : String) :
    (f.switchOff kind).includes other = f.includes other := by
  have hiff : (f.switchOff kind).includes other = false ↔ f.includes other = false := by
    rw [includes_eq_false_iff, includes_eq_false_iff, switchOff, Entries.lookup_set,
      List.mem_filter, bne_iff_ne]
    by_cases h : other = kind
    · subst h
      simp [hkind]
    · simp [h]
  cases hf : f.includes other with
  | false => exact hiff.2 hf
  | true => simpa [hf] using hiff

/-- **An omitted kind is a kind whose flag is off.** -/
theorem alike_switchOff (f : NodeFilter) (hkind : kind ∈ f.omitted) :
    (f.switchOff kind).Alike f where
  includes_eq := f.includes_switchOff hkind
  isLeaf_eq _ := rfl
  mentions_iff other := by
    have hflags : other ∈ (f.switchOff kind).flags.map (·.1) ↔
        other = kind ∨ other ∈ f.flags.map (·.1) := Entries.mem_map_fst_set_iff
    have homitted : other ∈ (f.switchOff kind).omitted ↔ other ∈ f.omitted ∧ other ≠ kind := by
      rw [switchOff, List.mem_filter, bne_iff_ne]
    have hleaves : (f.switchOff kind).leaves = f.leaves := rfl
    rw [Mentions, Mentions, hflags, homitted, hleaves]
    by_cases h : other = kind
    · subst h
      simp [hkind]
    · simp [h]

/-- **Only which kinds are listed matters**, not in which order, nor how often. -/
theorem alike_of_mem_iff (f : NodeFilter) {omitted leaves : List String}
    (homitted : ∀ kind, kind ∈ omitted ↔ kind ∈ f.omitted)
    (hleaves : ∀ kind, kind ∈ leaves ↔ kind ∈ f.leaves) :
    Alike { f with omitted := omitted, leaves := leaves } f where
  includes_eq kind := by
    rw [includes, includes, Bool.eq_iff_iff.2 (List.contains_iff_mem.trans
      ((homitted kind).trans List.contains_iff_mem.symm))]
    rfl
  isLeaf_eq kind := by
    rw [isLeaf, isLeaf, Bool.eq_iff_iff, List.contains_iff_mem, List.contains_iff_mem, hleaves]
  mentions_iff kind := by rw [Mentions, Mentions, homitted, hleaves]

/-- **An omitted kind and one that is switched off** cannot be told apart, whatever flag the kind
had before: the same kinds are warned of, and every tree gives the same mistake or the same element.
Nor does it matter in which order kinds are listed, or how often.  The kinds that are warned of are
those that the filter speaks of and that no node has, each once, in code point order. -/
theorem omitted_or_off (f : NodeFilter) :
    (∀ kind ∈ f.omitted,
      (f.switchOff kind).warnings = f.warnings ∧
        ∀ t, elementOfTree (f.switchOff kind) t = elementOfTree f t) ∧
    (∀ omitted leaves : List String,
      (∀ kind, kind ∈ omitted ↔ kind ∈ f.omitted) → (∀ kind, kind ∈ leaves ↔ kind ∈ f.leaves) →
        NodeFilter.warnings { f with omitted := omitted, leaves := leaves } = f.warnings ∧
          ∀ t, elementOfTree { f with omitted := omitted, leaves := leaves } t =
            elementOfTree f t) ∧
    ∃ kinds : List String, f.warnings = kinds.map unknownKindRecord ∧ kinds.Pairwise (· < ·) ∧
      ∀ kind, kind ∈ kinds ↔ f.Mentions kind ∧ kind ∉ Java.nodeKinds := by
  refine ⟨fun kind hkind => ?_, fun omitted leaves homitted hleaves => ?_,
    f.unknownKinds Java.nodeKinds, rfl, f.pairwise_mentioned.filter _, fun kind => ?_⟩
  · have h := f.alike_switchOff hkind
    exact ⟨h.warnings_eq, h.elementOfTree_eq⟩
  · have h := f.alike_of_mem_iff homitted hleaves
    exact ⟨h.warnings_eq, h.elementOfTree_eq⟩
  · rw [unknownKinds, List.mem_filter, mem_mentioned_iff, Bool.not_eq_true',
      ← Bool.not_eq_true, List.contains_iff_mem]

end NodeFilter

/-- A filter that omits a kind whose flag is on, and lists it twice. -/
def insistentFilter : NodeFilter :=
  ⟨[("identifier", true), ("blok", true)], ["identifier", "blok", "identifier"], ["blok", "block"]⟩

/-- In the filter the kind can be switched off as well, and its lists can be put in other orders.
Of the kinds that it speaks of only one is that of no node: it is warned of once, though it has a
flag, is omitted, and is listed as a leaf. -/
theorem NodeFilter.omitted_or_off_insistentFilter :
    "identifier" ∈ insistentFilter.omitted ∧
      insistentFilter.switchOff "identifier" =
        ⟨[("identifier", false), ("blok", true)], ["blok"], ["blok", "block"]⟩ ∧
      (insistentFilter.switchOff "identifier").warnings = insistentFilter.warnings ∧
      (∀ t, elementOfTree (insistentFilter.switchOff "identifier") t =
        elementOfTree insistentFilter t) ∧
      (∀ t, elementOfTree ⟨[("identifier", true), ("blok", true)], ["blok", "identifier"],
        ["block", "blok", "block"]⟩ t = elementOfTree insistentFilter t) ∧
      insistentFilter.warnings =
        [⟨.parsing, .warning, "알 수 없는 노드 종류가 속성 파일에 지정되었습니다: blok"⟩] := by
  have hmem : "identifier" ∈ insistentFilter.omitted := by decide
  obtain ⟨hoff, hlists, kinds, hrecords, hordered, hkinds⟩ :=
    NodeFilter.omitted_or_off insistentFilter
  obtain ⟨hwarnings, hsame⟩ := hoff "identifier" hmem
  obtain ⟨-, hreordered⟩ := hlists ["blok", "identifier"] ["block", "blok", "block"]
    (by simp [insistentFilter, or_comm]) (by simp [insistentFilter, or_comm])
  have hidentifier : "identifier" ∈ Java.nodeKinds :=
    Java.mem_nodeKinds_of_visible (.inl (by decide +kernel))
  have hblock : "block" ∈ Java.nodeKinds :=
    Java.mem_nodeKinds_of_visible (.inr (by decide +kernel))
  have hblok : "blok" ∉ Java.nodeKinds := fun h =>
    absurd (Java.mem_kinds_of_mem_nodeKinds h) (by decide +kernel)
  -- of the three kinds that the filter speaks of, only one is that of no node
  have hone : kinds = ["blok"] := by
    refine List.perm_singleton.1 ((List.perm_ext_iff_of_nodup (hordered.imp ne_of_lt)
      (List.nodup_singleton _)).2 fun kind => ?_)
    rw [hkinds, List.mem_singleton]
    constructor
    · rintro ⟨hmentions, hunknown⟩
      have hcases : kind = "identifier" ∨ kind = "blok" ∨ kind = "block" := by
        simp only [NodeFilter.Mentions, insistentFilter, List.map_cons, List.map_nil,
          List.mem_cons, List.not_mem_nil, or_false] at hmentions
        tauto
      rcases hcases with rfl | rfl | rfl
      · exact absurd hidentifier hunknown
      · rfl
      · exact absurd hblock hunknown
    · rintro rfl
      exact ⟨.inl (by decide), hblok⟩
  exact ⟨hmem, by decide, hwarnings, hsame, hreordered, by rw [hrecords, hone]; rfl⟩

end JavaTree
