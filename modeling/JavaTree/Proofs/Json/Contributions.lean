import JavaTree.Proofs.Json.Basic
import JavaTree.Proofs.Json.OfXml

/-!
# What an element contributes

The value of an element that has attributes or children is an object of its contributions: its
attributes, the text before its first node, and each child under its local name with the text after
it.  Contributions under one key stand in one entry, whether they come from attributes, children or
texts.

## Main definitions

* `Xml.contentItem` — what a text contributes.

## Main results

* `Json.lookup_group` — the value under a key: the only contribution, or the list of several.
* `Xml.Node.contributions_eq` — the contributions of an element, in order.
* `Xml.Node.isList_value` — no contribution is a list itself.
* `Xml.Node.value_eq_object` — the value of an element from its contributions.
-/

namespace JavaTree

namespace Json

variable {items : List (String × Json)} {key : String}

/-- The keys of grouped items are their keys, each once. -/
lemma map_fst_group (items : List (String × Json)) :
    (group items).map (·.1) = (items.map (·.1)).eraseDups := by
  rw [group, List.map_map]
  exact List.map_id _

/-- The value at a key of a list that is made from keys. -/
lemma lookup_map_pair (keys : List String) (value : String → Json) (key : String) :
    (keys.map fun k => (k, value k)).lookup key =
      if key ∈ keys then some (value key) else none := by
  induction keys with
  | nil => rfl
  | cons k keys ih =>
    rw [List.map_cons, Entries.lookup_cons_eq_ite, ih]
    by_cases hkey : key = k
    · rw [if_pos hkey, if_pos (List.mem_cons.2 (.inl hkey)), hkey]
    · simp only [hkey, if_false, List.mem_cons, false_or]

/-- **The value under a key** is the only contribution under it, or else the list of all of them. -/
theorem lookup_group (items : List (String × Json)) (key : String) :
    (group items).lookup key =
      match (items.filter (·.1 == key)).map (·.2) with
      | [] => none
      | [v] => some v
      | vs => some (list vs) := by
  rw [group, lookup_map_pair]
  by_cases hmem : key ∈ items.map (·.1)
  · rw [if_pos (List.mem_eraseDups.2 hmem)]
    have hne := values_ne_nil hmem
    generalize (items.filter (·.1 == key)).map (·.2) = values at hne ⊢
    rcases values with _ | ⟨v, _ | ⟨w, vs⟩⟩
    · exact absurd rfl hne
    · rfl
    · rfl
  · rw [if_neg fun h => hmem (List.mem_eraseDups.1 h), values_eq_nil hmem]

end Json

namespace Xml

open JavaTree.Json (text object)

/-- What a text contributes: itself without the blanks around it, unless it is blank. -/
def contentItem (t : Option String) : List (String × Json) :=
  if isVacant t then [] else [("content", text (trim (t.getD "")))]

/-- A text contributes its trimmed content, unless nothing is left of it. -/
lemma textItem_eq_contentItem (t : Option String) : textItem t = contentItem t := by
  have hvacant : trim (t.getD "") = "" ↔ isVacant t = true := by
    rw [trim_eq_empty_iff]
    cases t <;> simp [isVacant]
  rw [textItem, contentItem]
  by_cases h : isVacant t = true
  · rw [if_pos h, hvacant.2 h]
    rfl
  · rw [if_neg h, if_neg (by simpa using fun he => h (hvacant.1 he))]
    rfl

namespace Node

/-- Elements contribute their values and the texts after them, in their order. -/
lemma childItems_eq_flatMap (ns : List Node) :
    childItems ns =
      (ns.filter isElement).flatMap fun c => (c.localName, c.value) :: contentItem c.tail := by
  induction ns with
  | nil => rfl
  | cons n ns ih =>
    rw [childItems_cons, ih, List.filter_cons, textItem_eq_contentItem]
    split
    · rw [List.flatMap_cons]
    · rfl

/-- **The contributions of an element**: each attribute, then the text before the first node, and
then each child with the text after it. -/
lemma contributions_eq (tag : Tag) (content : Option String) (children : List Node)
    (tail : Option String) :
    (element tag content children tail).contributions =
      tag.attributes.map (fun a => (a.name.key, text a.value)) ++ contentItem content ++
        (children.filter isElement).flatMap fun c =>
          (c.localName, c.value) :: contentItem c.tail := by
  rw [contributions, childItems_eq_flatMap, textItem_eq_contentItem]
  rfl

/-- The value of an element is no list. -/
lemma isList_value (n : Node) : n.value.isList = false := by
  cases n with
  | element tag content children tail =>
    rw [value]
    split <;> rfl
  | comment _ _ => rfl
  | instruction _ _ _ => rfl

/-- What a text contributes is no list. -/
lemma isList_of_mem_contentItem {t : Option String} {item : String × Json}
    (h : item ∈ contentItem t) : item.2.isList = false := by
  unfold contentItem at h
  split at h
  · cases h
  · rw [List.mem_singleton.1 h]
    rfl

/-- No contribution is a list. -/
lemma isList_of_mem_contributions {n : Node} {item : String × Json}
    (h : item ∈ n.contributions) : item.2.isList = false := by
  cases n with
  | element tag content children tail =>
    rw [contributions_eq, List.mem_append, List.mem_append, List.mem_map, List.mem_flatMap] at h
    rcases h with (⟨a, -, rfl⟩ | h) | ⟨c, -, h⟩
    · rfl
    · exact isList_of_mem_contentItem h
    · rcases List.mem_cons.1 h with rfl | h
      · exact isList_value c
      · exact isList_of_mem_contentItem h
  | comment _ _ => cases h
  | instruction _ _ _ => cases h

/-- **The value of an element with attributes or children** is an object of its contributions. Its
keys are those of the contributions in order of first appearance; the value under a key is the only
contribution under it, or else the list of all of them in order, and none of these is a list.

**Proof sketch.** Contributions that are taken in one after the other are grouped by their keys,
since no value of an element is a list. -/
theorem value_eq_object (tag : Tag) (content : Option String) (children : List Node)
    (tail : Option String)
    (h : tag.attributes ≠ [] ∨ ∃ c ∈ children, c.isElement = true) :
    ∃ items entries,
      items = tag.attributes.map (fun a => (a.name.key, text a.value)) ++ contentItem content ++
        (children.filter isElement).flatMap (fun c =>
          (c.localName, c.value) :: contentItem c.tail) ∧
      (element tag content children tail).value = object entries ∧
      entries.map (·.1) = (items.map (·.1)).eraseDups ∧
      (∀ key, entries.lookup key =
        match (items.filter (·.1 == key)).map (·.2) with
        | [] => none
        | [v] => some v
        | vs => some (.list vs)) ∧
      ∀ item ∈ items, item.2.isList = false := by
  have hobject : (tag.attributes.isEmpty && !children.any isElement) = false := by
    rcases h with h | ⟨c, hc, hc'⟩
    · rw [List.isEmpty_eq_false_iff.2 h, Bool.false_and]
    · rw [List.any_eq_true.2 ⟨c, hc, hc'⟩, Bool.not_true, Bool.and_false]
  have hlists := @isList_of_mem_contributions (element tag content children tail)
  refine ⟨_, Json.group (element tag content children tail).contributions,
    contributions_eq tag content children tail, ?_, Json.map_fst_group _, Json.lookup_group _,
    fun item hitem => hlists hitem⟩
  rw [value, if_neg (by simpa using hobject), ← Json.collect_eq_group fun item => hlists]
  rfl

/-- A tag with attributes that are called like children and texts. -/
def crowdedTag : Tag :=
  { name := { part := "a" }
    attributes := [⟨{ part := "content" }, "1"⟩, ⟨{ part := "b" }, " 2"⟩] }

/-- Children under two names, with texts and comments among them. -/
def crowdedChildren : List Node :=
  [element ⟨{ part := "content" }, [], []⟩ (some "x") [.comment "c" none] (some "\tu "),
   .comment "b" (some "lost"),
   element ⟨{ space := some "s", label := "p", part := "b" }, [], []⟩ none [] (some " "),
   element ⟨{ part := "b" }, [], [⟨{ space := some "s", label := "p", part := "k" }, ""⟩]⟩ none []
    none]

/-- The value of a crowded element has two keys, with a list under each of them. -/
theorem value_eq_object_crowdedTag :
    crowdedTag.attributes ≠ [] ∧
    ∃ entries, (element crowdedTag (some " t\n") crowdedChildren none).value = object entries ∧
      entries.map (·.1) = ["content", "b"] ∧
      entries.lookup "content" = some (.list [text "1", text "t", text "x", text "u"]) ∧
      entries.lookup "b" = some (.list [text " 2", text "", object [("\x7bs\x7dk", text "")]]) := by
  have h : crowdedTag.attributes ≠ [] := List.cons_ne_nil _ _
  obtain ⟨items, entries, hitems, hvalue, hkeys, hlookup, -⟩ :=
    value_eq_object crowdedTag (some " t\n") crowdedChildren none (.inl h)
  refine ⟨h, entries, hvalue, ?_, ?_, ?_⟩
  · rw [hkeys, hitems]
    cbv
  · rw [hlookup, hitems]
    cbv
  · rw [hlookup, hitems]
    cbv

end Node

end Xml

end JavaTree
