import Mathlib.Data.List.Induction
import Mathlib.Data.List.Permutation
import JavaTree.Text.Entries

/-!
# Entries in order

Entries hold each key once, where it first appears, with the value that is given last.

## Main results

* `Entries.lookup_eq_some_iff_mem` — the value of a key among distinct keys.
* `Entries.map_fst_ofList`, `Entries.lookup_ofList` — the keys and the values of a list of pairs.
* `Entries.ofList_eq_self` — pairs with distinct keys are their own entries.
* `Entries.update_eq_append` — entries with those of others, written out.
* `Entries.update_set` — a key that is given a value in others is given it in all.
-/

namespace JavaTree

/-! ## Lists without repetition -/

section

variable {α : Type} [BEq α] [LawfulBEq α] {as : List α} {a : α}

/-- Nothing is added by what is there already. -/
lemma eraseDups_concat_of_mem (h : a ∈ as) : (as ++ [a]).eraseDups = as.eraseDups := by
  rw [List.eraseDups_append]
  simp [List.removeAll, h]

/-- What is new is added at the end. -/
lemma eraseDups_concat_of_not_mem (h : a ∉ as) : (as ++ [a]).eraseDups = as.eraseDups ++ [a] := by
  rw [List.eraseDups_append]
  simp [List.removeAll, h, List.eraseDups_cons]

/-- Nothing occurs twice when duplicates are erased. -/
lemma nodup_eraseDups (as : List α) : as.eraseDups.Nodup := by
  induction as using List.reverseRecOn with
  | nil => exact List.nodup_nil
  | append_singleton as a ih =>
    by_cases h : a ∈ as
    · rwa [eraseDups_concat_of_mem h]
    · rw [eraseDups_concat_of_not_mem h, List.nodup_append]
      refine ⟨ih, List.nodup_singleton a, fun b hb c hc => ?_⟩
      obtain rfl := List.mem_singleton.1 hc
      rintro rfl
      exact h (List.mem_eraseDups.1 hb)

end

namespace Entries

variable {α : Type} {entries pairs : List (String × α)} {key : String} {value : α}

/-- The first entry is looked at first. -/
lemma lookup_cons_eq_ite (e : String × α) (es : List (String × α)) (key : String) :
    (e :: es).lookup key = if key = e.1 then some e.2 else es.lookup key := by
  rw [List.lookup_cons]
  by_cases h : key = e.1
  · rw [if_pos h, beq_iff_eq.2 h]
  · rw [if_neg h, beq_eq_false_iff_ne.2 h]

/-- **The value of a key** among distinct keys is the one that it stands with. -/
lemma lookup_eq_some_iff_mem (h : (entries.map (·.1)).Nodup) :
    entries.lookup key = some value ↔ (key, value) ∈ entries := by
  induction entries with
  | nil => simp
  | cons e es ih =>
    obtain ⟨other, v⟩ := e
    rw [List.map_cons, List.nodup_cons] at h
    rw [lookup_cons_eq_ite, List.mem_cons, Prod.mk.injEq]
    by_cases heq : key = other
    · subst heq
      have hnot : (key, value) ∉ es := fun hmem => h.1 (List.mem_map.2 ⟨_, hmem, rfl⟩)
      simp only [if_true, Option.some.injEq, true_and, hnot, or_false]
      exact eq_comm
    · simp only [heq, if_false, false_and, false_or]
      exact ih h.2

/-- The order of entries with distinct keys does not matter. -/
lemma lookup_eq_of_perm {others : List (String × α)} (h : entries.Perm others)
    (hnodup : (entries.map (·.1)).Nodup) (key : String) :
    entries.lookup key = others.lookup key := by
  have hnodup' : (others.map (·.1)).Nodup := (h.map _).nodup_iff.1 hnodup
  apply Option.ext
  intro value
  rw [lookup_eq_some_iff_mem hnodup, lookup_eq_some_iff_mem hnodup', h.mem_iff]

/-- Nothing is found for a key that no entry has. -/
lemma lookup_eq_none_of_not_mem (h : key ∉ entries.map (·.1)) : entries.lookup key = none := by
  refine List.lookup_eq_none_iff.2 fun e he => bne_iff_ne.2 ?_
  rintro rfl
  exact h (List.mem_map_of_mem he)

/-- Keys that are kept keep their values.

**Proof sketch.** Induction on the entries, by whether the first one has the key and whether it is
kept. -/
lemma lookup_filter (p : String → Bool) (entries : List (String × α)) (key : String) :
    (entries.filter fun e => p e.1).lookup key = if p key then entries.lookup key else none := by
  induction entries with
  | nil => exact (ite_self _).symm
  | cons e es ih =>
    rw [List.filter_cons, lookup_cons_eq_ite]
    by_cases h : key = e.1
    · subst h
      split
      · rw [lookup_cons_eq_ite, if_pos rfl, if_pos rfl]
      · rename_i hp
        rw [ih, if_neg hp]
    · rw [if_neg h]
      split
      · rw [lookup_cons_eq_ite, if_neg h, ih]
      · exact ih

/-! ## Giving a key a value -/

/-- Setting a key that is there keeps the keys. -/
lemma map_fst_set_of_mem (h : key ∈ entries.map (·.1)) (value : α) :
    (set entries key value).map (·.1) = entries.map (·.1) := by
  induction entries with
  | nil => cases h
  | cons e es ih =>
    obtain ⟨k, v⟩ := e
    rw [set]
    by_cases hk : k = key
    · rw [if_pos (by simpa using hk)]
      rfl
    · have hmem : key ∈ es.map (·.1) := (List.mem_cons.1 h).resolve_left (Ne.symm hk)
      rw [if_neg (by simpa using hk), List.map_cons, List.map_cons, ih hmem]

/-- A key that there is not yet becomes a further entry. -/
lemma set_of_not_mem (h : key ∉ entries.map (·.1)) (value : α) :
    set entries key value = entries ++ [(key, value)] := by
  induction entries with
  | nil => rfl
  | cons e es ih =>
    obtain ⟨k, v⟩ := e
    obtain ⟨hk, hes⟩ := not_or.1 (mt List.mem_cons.2 h)
    rw [set, if_neg (by simpa using Ne.symm hk), ih hes, List.cons_append]

/-- The keys after setting one are that key and those before. -/
lemma mem_map_fst_set_iff {other : String} :
    other ∈ (set entries key value).map (·.1) ↔ other = key ∨ other ∈ entries.map (·.1) := by
  by_cases h : key ∈ entries.map (·.1)
  · rw [map_fst_set_of_mem h, or_iff_right_of_imp]
    rintro rfl
    exact h
  · rw [set_of_not_mem h, List.map_append, List.mem_append, List.map_singleton,
      List.mem_singleton, or_comm]

/-- There are entries after one has been set. -/
lemma set_ne_nil (entries : List (String × α)) (key : String) (value : α) :
    set entries key value ≠ [] := by
  cases entries with
  | nil => simp [set]
  | cons e es =>
    rw [set]
    split <;> simp

/-- **Giving a key a value changes the value of that key only.** -/
lemma lookup_set (entries : List (String × α)) (key other : String) (value : α) :
    (set entries key value).lookup other =
      if other = key then some value else entries.lookup other := by
  induction entries with
  | nil => exact lookup_cons_eq_ite (key, value) [] other
  | cons e es ih =>
    obtain ⟨k, v⟩ := e
    rw [set]
    by_cases hk : k = key
    · subst hk
      rw [if_pos (beq_self_eq_true k), lookup_cons_eq_ite, lookup_cons_eq_ite]
      split <;> rfl
    · rw [if_neg (by simpa using hk), lookup_cons_eq_ite, lookup_cons_eq_ite, ih]
      by_cases h : other = k
      · rw [if_pos h, if_pos h, if_neg fun he => hk (h.symm.trans he)]
      · rw [if_neg h, if_neg h]

/-! ## The entries of a list of pairs -/

/-- The last pair is set last. -/
lemma update_concat (entries pairs : List (String × α)) (pair : String × α) :
    update entries (pairs ++ [pair]) = set (update entries pairs) pair.1 pair.2 := by
  rw [update, List.foldl_append]
  rfl

/-- Pairs are set one after the other. -/
lemma update_append (entries pairs more : List (String × α)) :
    update entries (pairs ++ more) = update (update entries pairs) more := List.foldl_append

/-- **The keys of a list of pairs** are in the order in which they first appear. -/
theorem map_fst_ofList (pairs : List (String × α)) :
    (ofList pairs).map (·.1) = (pairs.map (·.1)).eraseDups := by
  induction pairs using List.reverseRecOn with
  | nil => rfl
  | append_singleton pairs pair ih =>
    rw [ofList, update_concat, ← ofList, List.map_append, List.map_singleton]
    by_cases h : pair.1 ∈ pairs.map (·.1)
    · have hmem : pair.1 ∈ (ofList pairs).map (·.1) := by rwa [ih, List.mem_eraseDups]
      rw [map_fst_set_of_mem hmem, ih, eraseDups_concat_of_mem h]
    · have hmem : pair.1 ∉ (ofList pairs).map (·.1) := by rwa [ih, List.mem_eraseDups]
      rw [set_of_not_mem hmem, List.map_append, ih, eraseDups_concat_of_not_mem h]
      rfl

/-- Entries that are made of pairs have each key once. -/
lemma nodup_ofList (pairs : List (String × α)) : ((ofList pairs).map (·.1)).Nodup := by
  rw [map_fst_ofList]
  exact nodup_eraseDups _

/-- **The value of a key in a list of pairs** is the one that is given last. -/
theorem lookup_ofList (pairs : List (String × α)) (key : String) :
    (ofList pairs).lookup key = pairs.reverse.lookup key := by
  induction pairs using List.reverseRecOn with
  | nil => rfl
  | append_singleton pairs pair ih =>
    rw [ofList, update_concat, ← ofList, lookup_set, ih, List.reverse_append,
      List.reverse_singleton, List.singleton_append, lookup_cons_eq_ite]

/-- **Pairs with distinct keys are their own entries.** -/
theorem ofList_eq_self (h : (pairs.map (·.1)).Nodup) : ofList pairs = pairs := by
  induction pairs using List.reverseRecOn with
  | nil => rfl
  | append_singleton pairs pair ih =>
    rw [List.map_append, List.nodup_append] at h
    obtain ⟨hpairs, -, hdisjoint⟩ := h
    have hnot : pair.1 ∉ pairs.map (·.1) := fun hmem =>
      hdisjoint pair.1 hmem pair.1 (List.mem_singleton_self _) rfl
    rw [ofList, update_concat, ← ofList, ih hpairs, set_of_not_mem hnot]

/-! ## Entries with those of others -/

section

variable {others : List (String × α)}

/-- Setting a key keeps distinct keys distinct. -/
lemma nodup_set (h : (entries.map (·.1)).Nodup) (key : String) (value : α) :
    ((set entries key value).map (·.1)).Nodup := by
  by_cases hkey : key ∈ entries.map (·.1)
  · rwa [map_fst_set_of_mem hkey]
  · rw [set_of_not_mem hkey, List.map_append, List.nodup_append]
    refine ⟨h, List.nodup_singleton key, fun other hother k hk => ?_⟩
    obtain rfl := List.mem_singleton.1 hk
    rintro rfl
    exact hkey hother

/-- Entries are known by their keys, in order, and by the value of each key.

**Proof sketch.** Induction on both lists: the first entries have the same key, and the same value
since the lookup stops there. -/
lemma eq_of_lookup_eq (hkeys : entries.map (·.1) = others.map (·.1))
    (hnodup : (entries.map (·.1)).Nodup)
    (hlookup : ∀ key, entries.lookup key = others.lookup key) : entries = others := by
  induction entries generalizing others with
  | nil => exact (List.map_eq_nil_iff.1 hkeys.symm).symm
  | cons e es ih =>
    cases others with
    | nil => cases hkeys
    | cons o os =>
      obtain ⟨hkey, hrest⟩ : e.1 = o.1 ∧ es.map (·.1) = os.map (·.1) := List.cons.inj hkeys
      obtain ⟨hnot, hnodup⟩ := List.nodup_cons.1 hnodup
      have hvalue := hlookup e.1
      rw [lookup_cons_eq_ite, lookup_cons_eq_ite, if_pos rfl, if_pos hkey] at hvalue
      have hes : es = os := by
        refine ih hrest hnodup fun key => ?_
        have hboth := hlookup key
        rw [lookup_cons_eq_ite, lookup_cons_eq_ite, ← hkey] at hboth
        by_cases he : key = e.1
        · subst he
          rw [lookup_eq_none_of_not_mem hnot, lookup_eq_none_of_not_mem (hrest ▸ hnot)]
        · rwa [if_neg he, if_neg he] at hboth
      rw [hes, Prod.ext hkey (Option.some.inj hvalue)]

/-- Distinct keys have no duplicates to erase. -/
lemma eraseDups_eq_self (h : (entries.map (·.1)).Nodup) :
    (entries.map (·.1)).eraseDups = entries.map (·.1) := by
  rw [← map_fst_ofList, ofList_eq_self h]

/-- Entries with those of others are the entries of all pairs. -/
lemma update_eq_ofList (h : (entries.map (·.1)).Nodup) (others : List (String × α)) :
    update entries others = ofList (entries ++ others) := by
  rw [ofList, update_append, ← ofList, ofList_eq_self h]

/-- New keys are added behind the old ones, in their order. -/
lemma map_fst_update (h : (entries.map (·.1)).Nodup) (hothers : (others.map (·.1)).Nodup) :
    (update entries others).map (·.1) =
      entries.map (·.1) ++ (others.map (·.1)).removeAll (entries.map (·.1)) := by
  have hremoved : ((others.map (·.1)).removeAll (entries.map (·.1))).Nodup := hothers.filter _
  have hself : (others.map (·.1)).removeAll (entries.map (·.1)) =
      ((others.filter fun e => !List.elem e.1 (entries.map (·.1))).map (·.1)) := by
    rw [List.removeAll, List.filter_map]
    rfl
  rw [update_eq_ofList h, map_fst_ofList, List.map_append, List.eraseDups_append,
    eraseDups_eq_self h]
  rw [hself] at hremoved ⊢
  rw [eraseDups_eq_self hremoved]

/-- The value of a key is the one in the others, if it has one there. -/
lemma lookup_update (h : (entries.map (·.1)).Nodup) (hothers : (others.map (·.1)).Nodup)
    (key : String) :
    (update entries others).lookup key = (others.lookup key).or (entries.lookup key) := by
  rw [update_eq_ofList h, lookup_ofList, List.reverse_append, List.lookup_append,
    ← lookup_eq_of_perm (List.reverse_perm others).symm hothers,
    ← lookup_eq_of_perm (List.reverse_perm entries).symm h]

/-- Values that are changed with their keys are looked up and changed. -/
lemma lookup_map (g : String → α → α) (entries : List (String × α)) (key : String) :
    (entries.map fun e => (e.1, g e.1 e.2)).lookup key = (entries.lookup key).map (g key) := by
  induction entries with
  | nil => rfl
  | cons e es ih =>
    rw [List.map_cons, lookup_cons_eq_ite, lookup_cons_eq_ite, ih]
    by_cases h : key = e.1
    · rw [if_pos h, if_pos h, h]
      rfl
    · rw [if_neg h, if_neg h]

/-- **Entries with those of others**: the entries in their places, with the values that the others
give to their keys; and after them what is new in the others.

**Proof sketch.** Both sides have the keys of the entries and then the new ones, and the same value
at each key, so `eq_of_lookup_eq` applies. -/
theorem update_eq_append (h : (entries.map (·.1)).Nodup) (hothers : (others.map (·.1)).Nodup) :
    update entries others =
      (entries.map fun e => (e.1, (others.lookup e.1).getD e.2)) ++
        others.filter fun e => (entries.lookup e.1).isNone := by
  have hnew : ∀ key, (entries.lookup key).isNone = !List.elem key (entries.map (·.1)) := by
    intro key
    rw [Bool.eq_iff_iff, Option.isNone_iff_eq_none, Bool.not_eq_true', ← Bool.not_eq_true,
      List.elem_iff]
    refine ⟨fun hnone hmem => ?_, lookup_eq_none_of_not_mem⟩
    obtain ⟨e, he, rfl⟩ := List.mem_map.1 hmem
    exact absurd rfl (bne_iff_ne.1 (List.lookup_eq_none_iff.1 hnone e he))
  have hkeys : (others.filter fun e => (entries.lookup e.1).isNone).map (·.1) =
      (others.map (·.1)).removeAll (entries.map (·.1)) := by
    simp only [hnew, List.removeAll, List.filter_map]
    rfl
  apply eq_of_lookup_eq
  · rw [map_fst_update h hothers, List.map_append, hkeys, List.map_map]
    rfl
  · rw [update_eq_ofList h]
    exact nodup_ofList _
  · intro key
    rw [lookup_update h hothers, List.lookup_append,
      lookup_map (fun key value => (others.lookup key).getD value),
      lookup_filter fun key => (entries.lookup key).isNone]
    cases entries.lookup key with
    | none => simp
    | some value => cases others.lookup key <;> rfl

/-- **A key that is given a value in others** is given it in all.

**Proof sketch.** If the key is new in the others it is set last. Otherwise both sides have the same
keys and the same values, so `eq_of_lookup_eq` applies. -/
theorem update_set (h : (entries.map (·.1)).Nodup) (hothers : (others.map (·.1)).Nodup)
    (key : String) (value : α) :
    update entries (set others key value) = set (update entries others) key value := by
  by_cases hkey : key ∈ others.map (·.1)
  · have hset := nodup_set hothers key value
    have hkeys := map_fst_set_of_mem hkey value
    have hmem : key ∈ (update entries others).map (·.1) := by
      rw [map_fst_update h hothers, List.mem_append, List.removeAll, List.mem_filter]
      by_cases hentries : key ∈ entries.map (·.1)
      · exact .inl hentries
      · exact .inr ⟨hkey, by simpa using hentries⟩
    apply eq_of_lookup_eq
    · rw [map_fst_set_of_mem hmem, map_fst_update h hset, map_fst_update h hothers, hkeys]
    · rw [update_eq_ofList h]
      exact nodup_ofList _
    · intro other
      rw [lookup_update h hset, lookup_set, lookup_set, lookup_update h hothers]
      split <;> rfl
  · rw [set_of_not_mem hkey, update_concat]

end

end Entries

end JavaTree
