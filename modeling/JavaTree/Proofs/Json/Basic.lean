import JavaTree.Json.Basic
import JavaTree.Proofs.Text.Entries

/-!
# Collecting contributions

Contributions to an object are taken in one after the other.  As long as none of them is a list
itself, the entries are the same as if they had been made key by key.

## Main results

* `Json.insert_map` — a further value under a key changes the entry of that key only.
* `Json.collect_eq_group` — the entries of an object key by key.

## Implementation notes

A list among the contributions would be taken for the values of its key so far, and further values
would be added to it.  This is why lists are excluded.
-/

namespace JavaTree

namespace Json

/-- Whether a value is a list. -/
def isList : Json → Bool
  | list _ => true
  | _ => false

variable {keys : List String} {key : String} {items : List (String × Json)}

/-- A value under a key that there is not yet becomes a further entry. -/
lemma insert_map_of_not_mem (value : String → Json) (h : key ∉ keys) (v : Json) :
    insert (keys.map fun k => (k, value k)) key v =
      (keys.map fun k => (k, value k)) ++ [(key, v)] := by
  induction keys with
  | nil => rfl
  | cons k keys ih =>
    have hk : k ≠ key := fun he => h (he ▸ List.mem_cons_self)
    have hkeys : key ∉ keys := fun hmem => h (List.mem_cons_of_mem k hmem)
    rw [List.map_cons, insert, if_neg (by simpa using hk), ih hkeys, List.cons_append]

/-- **A further value under a key changes the entry of that key only.**

**Proof sketch.** Induction on the keys: at the key the values are joined, and since keys are
distinct none behind it is the same. -/
lemma insert_map (value : String → Json) (hmem : key ∈ keys) (hnodup : keys.Nodup) (v : Json) :
    insert (keys.map fun k => (k, value k)) key v =
      keys.map fun k => (k, if k = key then join (value k) v else value k) := by
  induction keys with
  | nil => cases hmem
  | cons k keys ih =>
    obtain ⟨hk, hnodup⟩ := List.nodup_cons.1 hnodup
    rw [List.map_cons, List.map_cons, insert]
    by_cases he : k = key
    · subst he
      have hrest : (keys.map fun j => (j, if j = k then join (value j) v else value j)) =
          keys.map fun j => (j, value j) := by
        refine List.map_congr_left fun j hj => ?_
        have hjk : j ≠ k := fun he => hk (he ▸ hj)
        rw [if_neg hjk]
      rw [if_pos (beq_self_eq_true k), if_pos rfl, hrest]
    · have hmem' : key ∈ keys := (List.mem_cons.1 hmem).resolve_left (Ne.symm he)
      rw [if_neg (by simpa using he), if_neg he, ih hmem' hnodup]

/-- Values that are bundled are joined with a further one by bundling all of them. -/
lemma join_bundle {values : List Json} (hne : values ≠ [])
    (h : ∀ v ∈ values, v.isList = false) (v : Json) :
    join (bundle values) v = bundle (values ++ [v]) := by
  rcases values with _ | ⟨w, _ | ⟨w', values⟩⟩
  · exact absurd rfl hne
  · have hw := h w List.mem_cons_self
    cases w with
    | text s => rfl
    | list items => cases hw
    | object entries => rfl
  · rfl

/-- Contributions are taken in one after the other. -/
lemma collect_concat (items : List (String × Json)) (item : String × Json) :
    collect (items ++ [item]) = insert (collect items) item.1 item.2 := by
  rw [collect, List.foldl_append]
  rfl

/-- The values under a key after a further contribution. -/
lemma values_concat (items : List (String × Json)) (key k : String) (v : Json) :
    ((items ++ [(key, v)]).filter (·.1 == k)).map (·.2) =
      (items.filter (·.1 == k)).map (·.2) ++ if k = key then [v] else [] := by
  rw [List.filter_append, List.map_append]
  congr 1
  by_cases hk : k = key
  · simp [hk]
  · have hkey : key ≠ k := Ne.symm hk
    simp [hk, hkey]

/-- A key of a contribution has values. -/
lemma values_ne_nil (h : key ∈ items.map (·.1)) :
    (items.filter (·.1 == key)).map (·.2) ≠ [] := by
  obtain ⟨item, hitem, hkey⟩ := List.mem_map.1 h
  have hin : item.2 ∈ (items.filter (·.1 == key)).map (·.2) :=
    List.mem_map_of_mem (List.mem_filter.2 ⟨hitem, by simpa using hkey⟩)
  exact List.ne_nil_of_mem hin

/-- A key of no contribution has none. -/
lemma values_eq_nil (h : key ∉ items.map (·.1)) :
    (items.filter (·.1 == key)).map (·.2) = [] := by
  rw [List.map_eq_nil_iff, List.filter_eq_nil_iff]
  intro item hitem hkey
  exact h (List.mem_map.2 ⟨item, hitem, by simpa using hkey⟩)

/-- **Contributions that are taken in one after the other are grouped by their keys**, if none of
them is a list.

**Proof sketch.** Induction on the contributions from the end. The last one either has a new key,
which comes last, or it is joined with the values of its key so far. -/
theorem collect_eq_group (h : ∀ item ∈ items, item.2.isList = false) :
    collect items = group items := by
  induction items using List.reverseRecOn with
  | nil => rfl
  | append_singleton items item ih =>
    obtain ⟨key, v⟩ := item
    have hitems : ∀ item ∈ items, item.2.isList = false :=
      fun item hitem => h item (List.mem_append_left _ hitem)
    rw [collect_concat, ih hitems, group, group, List.map_append, List.map_cons, List.map_nil]
    by_cases hmem : key ∈ items.map (·.1)
    · -- the key is there already, so its entry keeps its place
      rw [insert_map _ (List.mem_eraseDups.2 hmem) (nodup_eraseDups _) v,
        eraseDups_concat_of_mem hmem]
      refine List.map_congr_left fun k hk => ?_
      rw [values_concat]
      by_cases hkey : k = key
      · subst hkey
        have hno : ∀ w ∈ (items.filter (·.1 == k)).map (·.2), w.isList = false := by
          intro w hw
          obtain ⟨item, hitem, rfl⟩ := List.mem_map.1 hw
          exact hitems item (List.mem_filter.1 hitem).1
        rw [if_pos rfl, if_pos rfl, join_bundle (values_ne_nil hmem) hno]
      · rw [if_neg hkey, if_neg hkey, List.append_nil]
    · have hold : ∀ k ∈ (items.map (·.1)).eraseDups,
          (k, bundle (((items ++ [(key, v)]).filter (·.1 == k)).map (·.2))) =
            (k, bundle ((items.filter (·.1 == k)).map (·.2))) := by
        intro k hk
        have hkey : k ≠ key := fun he => hmem (he ▸ List.mem_eraseDups.1 hk)
        rw [values_concat, if_neg hkey, List.append_nil]
      rw [insert_map_of_not_mem _ (fun hk => hmem (List.mem_eraseDups.1 hk)) v,
        eraseDups_concat_of_not_mem hmem, List.map_append, List.map_congr_left hold, List.map_cons,
        List.map_nil, values_concat, values_eq_nil hmem, if_pos rfl]
      rfl

/-- Values under one key only make one entry. -/
lemma collect_of_one_key (key : String) {values : List Json} (hne : values ≠ [])
    (h : ∀ v ∈ values, v.isList = false) :
    collect (values.map fun v => (key, v)) = [(key, bundle values)] := by
  induction values using List.reverseRecOn with
  | nil => exact absurd rfl hne
  | append_singleton values v ih =>
    have hvalues : ∀ w ∈ values, w.isList = false :=
      fun w hw => h w (List.mem_append_left _ hw)
    rw [List.map_append, List.map_cons, List.map_nil, collect_concat]
    by_cases hnil : values = []
    · subst hnil
      rfl
    · rw [ih hnil hvalues, ← join_bundle hnil hvalues]
      simp [insert]

end Json

end JavaTree
