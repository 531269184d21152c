/-!
# Maps in key order

A finite map from texts to values, held as its entries in increasing key order. Texts compare by
their characters, which is also the order of their UTF-8 bytes.
-/

namespace LinkWatch

/-- A map from texts, as a list of entries with increasing keys. -/
structure Keyed (α : Type) where
  entries : List (String × α)
  sorted : entries.Pairwise fun x y => x.1 < y.1

namespace Keyed

variable {α : Type}

instance [DecidableEq α] : DecidableEq (Keyed α) := fun a b =>
  match decEq a.entries b.entries with
  | isTrue h => isTrue (by cases a; cases b; simp_all)
  | isFalse h => isFalse (by intro e; exact h (by rw [e]))

instance [Repr α] : Repr (Keyed α) := ⟨fun m n => reprPrec m.entries n⟩

/-- No entries. -/
def empty : Keyed α := ⟨[], .nil⟩

instance : Inhabited (Keyed α) := ⟨empty⟩

/-- The number of entries. -/
def size (m : Keyed α) : Nat := m.entries.length

/-- The keys in order. -/
def keys (m : Keyed α) : List String := m.entries.map (·.1)

/-- The values in key order. -/
def values (m : Keyed α) : List α := m.entries.map (·.2)

/-! ## Look-up -/

/-- The value under a key. -/
def get? (m : Keyed α) (k : String) : Option α := m.entries.lookup k

/-- True when there is an entry for the key. -/
def contains (m : Keyed α) (k : String) : Bool := (m.get? k).isSome

/-! ## Change -/

/-- Puts an entry in its place among sorted entries, or replaces the one with its key. -/
def insertEntry (k : String) (v : α) : List (String × α) → List (String × α)
  | [] => [(k, v)]
  | (k', v') :: r =>
    if k < k' then (k, v) :: (k', v') :: r
    else if k = k' then (k, v) :: r
    else (k', v') :: insertEntry k v r

/-- Every entry after an insertion is the new one or an old one. -/
theorem mem_insertEntry {k : String} {v : α} {l : List (String × α)} {e : String × α}
    (h : e ∈ insertEntry k v l) : e = (k, v) ∨ e ∈ l := by
  induction l with
  | nil => simpa [insertEntry] using h
  | cons x r ih =>
    obtain ⟨k', v'⟩ := x
    simp only [insertEntry] at h
    split at h
    · simpa using h
    · split at h
      · rcases List.mem_cons.1 h with h | h
        · exact .inl h
        · exact .inr (List.mem_cons_of_mem _ h)
      · rcases List.mem_cons.1 h with h | h
        · exact .inr (h ▸ List.mem_cons_self)
        · exact (ih h).imp id (List.mem_cons_of_mem _)

/-- An insertion keeps the entries sorted. -/
theorem insertEntry_sorted (k : String) (v : α) {l : List (String × α)}
    (h : l.Pairwise fun x y => x.1 < y.1) : (insertEntry k v l).Pairwise fun x y => x.1 < y.1 := by
  induction l with
  | nil => simp [insertEntry]
  | cons x r ih =>
    obtain ⟨k', v'⟩ := x
    rw [List.pairwise_cons] at h
    simp only [insertEntry]
    split
    · next hlt =>
      refine List.pairwise_cons.2 ⟨fun y hy => ?_, List.pairwise_cons.2 h⟩
      rcases List.mem_cons.1 hy with rfl | hy
      · exact hlt
      · exact String.lt_trans hlt (h.1 y hy)
    · next hnlt =>
      split
      · next heq => subst heq; exact List.pairwise_cons.2 ⟨h.1, h.2⟩
      · next hne =>
        refine List.pairwise_cons.2 ⟨fun y hy => ?_, ih h.2⟩
        rcases mem_insertEntry hy with rfl | hy
        · rcases String.le_total k k' with hle | hle
          · exact absurd (String.le_antisymm hle (String.not_lt.1 hnlt)) hne
          · exact (String.not_le.1 fun hle' => hne (String.le_antisymm hle' hle))
        · exact h.1 y hy

/-- Sets the value under a key. -/
def insert (m : Keyed α) (k : String) (v : α) : Keyed α :=
  ⟨insertEntry k v m.entries, insertEntry_sorted k v m.sorted⟩

/-- Removes the entry of a key. -/
def erase (m : Keyed α) (k : String) : Keyed α :=
  ⟨m.entries.filter (·.1 != k), m.sorted.filter _⟩

/-- The entries that pass a test. -/
def filter (m : Keyed α) (keep : String → α → Bool) : Keyed α :=
  ⟨m.entries.filter fun e => keep e.1 e.2, m.sorted.filter _⟩

/-- Replaces each value by one computed from its key and itself. -/
def mapValues {β : Type} (f : String → α → β) (m : Keyed α) : Keyed β :=
  ⟨m.entries.map fun e => (e.1, f e.1 e.2), by
    rw [List.pairwise_map]; exact m.sorted⟩

/-- Changes the value under a key, which is the given one when there was none. -/
def update (m : Keyed α) (k : String) (start : α) (f : α → α) : Keyed α :=
  m.insert k (f ((m.get? k).getD start))

/-- The map of a list of entries. A later entry replaces an earlier one with its key. -/
def ofList (l : List (String × α)) : Keyed α :=
  l.foldl (fun m e => m.insert e.1 e.2) empty

end Keyed
end LinkWatch
