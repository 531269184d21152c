import LinkWatch.Keyed

/-!
# Look-up in maps in key order

What the operations on a map do to a look-up. After this module nobody needs to open the entries of
a map: `get?_insert` and `get?_erase` say what a change does, `filter_entries_key` says that a map
holds at most one entry for a key, and `ext_get?` that look-ups tell all about a map.

A list of items can be collected under their keys by one `update` after another. What is then under
a key comes from the items with that key alone (`get?_collected`).
-/

namespace LinkWatch.Keyed

variable {α : Type}

@[simp] theorem get?_empty (k : String) : (empty : Keyed α).get? k = none := rfl

/-! ## Entries and look-up -/

/-- The first entry for a key is the one that is found. -/
theorem lookup_cons_if (k k' : String) (v : α) (r : List (String × α)) :
    ((k', v) :: r).lookup k = if k = k' then some v else r.lookup k := by
  by_cases h : k = k'
  · simp [h]
  · have hb : (k == k') = false := by simpa using h
    simp [List.lookup_cons, hb, h]

/-- A key that stands before every entry of a list is not found in it. -/
theorem lookup_eq_none_of_lt {k : String} {l : List (String × α)} (h : ∀ e ∈ l, k < e.1) :
    l.lookup k = none := by
  rw [List.lookup_eq_none_iff]
  intro e he
  have hne : k ≠ e.1 := by
    intro heq
    exact String.lt_irrefl _ (heq ▸ h e he)
  simpa using hne

/-- The entries under a key, among sorted entries: the one that a look-up finds. -/
theorem filter_key_of_sorted {l : List (String × α)} (k : String)
    (h : l.Pairwise fun x y => x.1 < y.1) :
    l.filter (·.1 == k) = (l.lookup k).toList.map fun v => (k, v) := by
  induction l with
  | nil => rfl
  | cons x r ih =>
    obtain ⟨k', v'⟩ := x
    obtain ⟨hx, hr⟩ := List.pairwise_cons.1 h
    by_cases hk : k' = k
    · -- the entry is at the head, and the keys behind it are greater
      subst hk
      have hnone := lookup_eq_none_of_lt hx
      have hrest := ih hr
      rw [hnone] at hrest
      simp [hrest]
    · have hk' : ¬ k = k' := fun heq => hk heq.symm
      simp [lookup_cons_if, hk, hk', ih hr]

/-- The entries of a map under a key. -/
theorem filter_entries_key (m : Keyed α) (k : String) :
    m.entries.filter (·.1 == k) = (m.get? k).toList.map fun v => (k, v) :=
  filter_key_of_sorted k m.sorted

/-- An entry is what a look-up finds. -/
theorem mem_entries_iff {m : Keyed α} {k : String} {v : α} :
    (k, v) ∈ m.entries ↔ m.get? k = some v := by
  have h : (k, v) ∈ m.entries ↔ (k, v) ∈ m.entries.filter (·.1 == k) := by simp
  rw [h, filter_entries_key]
  cases m.get? k <;> simp [eq_comm]

/-- The keys are those under which there is something. -/
theorem mem_keys_iff {m : Keyed α} {k : String} : k ∈ m.keys ↔ (m.get? k).isSome := by
  rw [keys, List.mem_map, Option.isSome_iff_exists]
  constructor
  · rintro ⟨⟨k, v⟩, he, rfl⟩
    exact ⟨v, mem_entries_iff.1 he⟩
  · rintro ⟨v, hv⟩
    exact ⟨(k, v), mem_entries_iff.2 hv, rfl⟩

/-- No key occurs twice. -/
theorem nodup_keys (m : Keyed α) : m.keys.Nodup := by
  rw [keys, List.nodup_iff_pairwise_ne, List.pairwise_map]
  refine m.sorted.imp ?_
  intro a b hlt heq
  exact String.lt_irrefl _ (heq ▸ hlt)

/-- Two maps with the same look-ups are the same. -/
theorem ext_get? {m m' : Keyed α} (h : ∀ k, m.get? k = m'.get? k) : m = m' := by
  have hnodup (m : Keyed α) : m.entries.Nodup := by
    have hkeys := List.pairwise_map.1 m.nodup_keys
    exact hkeys.imp fun hne heq => hne (congrArg Prod.fst heq)
  have hperm : m.entries.Perm m'.entries := by
    rw [List.perm_ext_iff_of_nodup (hnodup m) (hnodup m')]
    rintro ⟨k, v⟩
    rw [mem_entries_iff, mem_entries_iff, h]
  have hentries : m.entries = m'.entries :=
    hperm.eq_of_pairwise (fun _ _ _ _ hlt hlt' => absurd hlt' (String.lt_asymm hlt))
      m.sorted m'.sorted
  cases m
  cases m'
  cases hentries
  rfl

/-! ## Changes -/

theorem lookup_insertEntry (k k' : String) (v : α) (l : List (String × α)) :
    (insertEntry k v l).lookup k' = if k' = k then some v else l.lookup k' := by
  induction l with
  | nil => exact lookup_cons_if k' k v []
  | cons x r ih =>
    obtain ⟨k'', v''⟩ := x
    simp only [insertEntry]
    split
    · -- the new entry comes before the head
      rw [lookup_cons_if]
    · split
      · next heq =>
        -- it takes the place of the head
        subst heq
        rw [lookup_cons_if, lookup_cons_if]
        by_cases h : k' = k <;> simp [h]
      · next hne =>
        rw [lookup_cons_if, lookup_cons_if, ih]
        by_cases h : k' = k
        · subst h
          simp [hne]
        · simp [h]

/-- A new value is found under its key, and all others are where they were. -/
@[simp] theorem get?_insert (m : Keyed α) (k k' : String) (v : α) :
    (m.insert k v).get? k' = if k' = k then some v else m.get? k' :=
  lookup_insertEntry k k' v m.entries

theorem lookup_filter_ne (k k' : String) (l : List (String × α)) :
    (l.filter (·.1 != k)).lookup k' = if k' = k then none else l.lookup k' := by
  induction l with
  | nil => simp
  | cons x r ih =>
    obtain ⟨k'', v''⟩ := x
    by_cases h : k'' = k
    · -- the head is dropped, and a look-up for its key goes on behind it
      subst h
      rw [List.filter_cons_of_neg (by simp), ih, lookup_cons_if]
      by_cases h' : k' = k'' <;> simp [h']
    · rw [List.filter_cons_of_pos (by simpa using h), lookup_cons_if, lookup_cons_if, ih]
      by_cases h' : k' = k
      · subst h'
        have h'' : ¬ k' = k'' := fun heq => h heq.symm
        simp [h'']
      · simp [h']

/-- Nothing is found any more under the erased key, and all others are where they were. -/
@[simp] theorem get?_erase (m : Keyed α) (k k' : String) :
    (m.erase k).get? k' = if k' = k then none else m.get? k' :=
  lookup_filter_ne k k' m.entries

theorem lookup_map_values {β : Type} (f : String → α → β) (k : String) (l : List (String × α)) :
    (l.map fun e => (e.1, f e.1 e.2)).lookup k = (l.lookup k).map (f k) := by
  induction l with
  | nil => rfl
  | cons x r ih =>
    obtain ⟨k', v⟩ := x
    rw [List.map_cons, lookup_cons_if, lookup_cons_if, ih]
    by_cases h : k = k'
    · subst h
      simp
    · simp [h]

/-- Values are changed where they are. -/
theorem get?_mapValues {β : Type} (f : String → α → β) (m : Keyed α) (k : String) :
    (m.mapValues f).get? k = (m.get? k).map (f k) :=
  lookup_map_values f k m.entries

/-- A value is found if it was there and is kept. -/
theorem get?_filter (m : Keyed α) (keep : String → α → Bool) (k : String) :
    (m.filter keep).get? k = (m.get? k).filter (keep k) := by
  refine Option.ext fun v => ?_
  rw [← mem_entries_iff, filter, List.mem_filter, mem_entries_iff, Option.filter_eq_some_iff]

/-- An update changes the value under its key, or the one to start from. -/
theorem get?_update (m : Keyed α) (k k' : String) (start : α) (f : α → α) :
    (m.update k start f).get? k' =
      if k' = k then some (f ((m.get? k).getD start)) else m.get? k' :=
  get?_insert m k k' _

/-! ## Collecting items under their keys -/

section Collect

variable {β : Type} (key : β → Option String) (start : String → β → α) (f : β → α → α)

/-- Takes one item into the value under its key, which the first item of a key starts. -/
def collect (m : Keyed α) (x : β) : Keyed α :=
  match key x with
  | none => m
  | some k => m.update k (start k x) (f x)

/-- An item changes what is under its own key only. -/
theorem get?_collect (m : Keyed α) (x : β) (k : String) :
    (m.collect key start f x).get? k =
      if key x = some k then some (f x ((m.get? k).getD (start k x))) else m.get? k := by
  rw [collect]
  cases hkey : key x with
  | none => simp
  | some k' =>
    rw [get?_update]
    by_cases h : k = k'
    · subst h
      simp
    · have h' : ¬ k' = k := fun heq => h heq.symm
      simp [h, h']

/-- The items with a key. -/
def itemsOf (items : List β) (k : String) : List β := items.filter fun x => key x = some k

/-- Items with other keys pass a value by. -/
theorem get?_foldl_collect (items : List β) (m : Keyed α) (k : String) :
    (items.foldl (collect key start f) m).get? k =
      (itemsOf key items k).foldl (fun v x => some (f x (v.getD (start k x)))) (m.get? k) := by
  induction items generalizing m with
  | nil => rfl
  | cons x items ih =>
    rw [List.foldl_cons, ih, get?_collect]
    by_cases h : key x = some k <;> simp [itemsOf, h]

/-- The value under a key is started by the first item with that key and takes in all of them. -/
theorem get?_collected (items : List β) (k : String) :
    (items.foldl (collect key start f) empty).get? k =
      (itemsOf key items k).head?.map fun first =>
        (itemsOf key items k).foldl (fun v x => f x v) (start k first) := by
  rw [get?_foldl_collect, get?_empty]
  cases itemsOf key items k with
  | nil => rfl
  | cons first r =>
    -- once there is a value, no other item starts one
    have hrest (v : α) : r.foldl (fun v x => some (f x (v.getD (start k x)))) (some v) =
        some (r.foldl (fun v x => f x v) v) := by
      induction r generalizing v with
      | nil => rfl
      | cons x r ih => exact ih (f x v)
    exact hrest _

/-- Neighbours with different keys can change places. -/
theorem foldl_collect_swap {x y : β} (h : key x ≠ key y) (before after : List β) (m : Keyed α) :
    (before ++ x :: y :: after).foldl (collect key start f) m =
      (before ++ y :: x :: after).foldl (collect key start f) m := by
  refine ext_get? fun k => ?_
  have hitems : itemsOf key (before ++ x :: y :: after) k =
      itemsOf key (before ++ y :: x :: after) k := by
    simp only [itemsOf, List.filter_append, List.filter_cons]
    by_cases hx : key x = some k
    · have hy : ¬ key y = some k := fun hy => h (hx.trans hy.symm)
      simp [hx, hy]
    · simp [hx]
  rw [get?_foldl_collect, get?_foldl_collect, hitems]

end Collect

end LinkWatch.Keyed
