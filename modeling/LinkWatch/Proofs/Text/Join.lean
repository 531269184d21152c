/-!
# Texts with separators between them

What a joined text is made of and how long it is, for a separator of one character. Splitting counts the
separators (`length_splitOn`), so that no piece has one in it and pieces are found exactly where they were
joined (`splitOn_eq_iff`).
-/

namespace LinkWatch.Text

theorem mem_of_mem_intercalate {c s : Char} {ts : List (List Char)} (h : c ∈ [s].intercalate ts) :
    c = s ∨ ∃ t ∈ ts, c ∈ t := by
  induction ts with
  | nil => cases h
  | cons t r ih =>
    cases r with
    | nil =>
      rw [List.intercalate_singleton] at h
      exact .inr ⟨t, List.mem_cons_self, h⟩
    | cons u r =>
      rw [List.intercalate_cons_cons, List.mem_append, List.mem_append, List.mem_singleton] at h
      rcases h with (h | h) | h
      · exact .inr ⟨t, List.mem_cons_self, h⟩
      · exact .inl h
      · rcases ih h with hs | ⟨v, hv, hc⟩
        · exact .inl hs
        · exact .inr ⟨v, List.mem_cons_of_mem _ hv, hc⟩

/-- A character that does not separate lies in one of the pieces. -/
theorem exists_mem_splitOn {c s : Char} {cs : List Char} (h : c ∈ cs) (hne : c ≠ s) :
    ∃ t ∈ cs.splitOn s, c ∈ t := by
  have hjoin : [s].intercalate (cs.splitOn s) = cs := List.intercalate_splitOn s
  rw [← hjoin] at h
  exact (mem_of_mem_intercalate h).resolve_left hne

/-- Several texts of bounded length have as many places for a separator, less one. -/
theorem length_intercalate_lt {s : Char} {k : Nat} {ts : List (List Char)} (hts : ts ≠ [])
    (h : ∀ t ∈ ts, t.length ≤ k) : ([s].intercalate ts).length < ts.length * (k + 1) := by
  induction ts with
  | nil => exact absurd rfl hts
  | cons t r ih =>
    have ht := h t List.mem_cons_self
    cases r with
    | nil =>
      rw [List.intercalate_singleton, List.length_singleton]
      omega
    | cons u r =>
      have hr := ih (List.cons_ne_nil u r) fun v hv => h v (List.mem_cons_of_mem _ hv)
      rw [List.intercalate_cons_cons, List.length_append, List.length_append,
        List.length_singleton, List.length_cons, Nat.succ_mul]
      omega

/-- Pieces that are written with a separator after each but the last make up the joined text. -/
theorem toList_join_intersperse (s : Char) (ts : List (List Char)) :
    (String.join ((ts.map String.ofList).intersperse (String.singleton s))).toList =
      [s].intercalate ts := by
  induction ts with
  | nil => rfl
  | cons t r ih =>
    cases r with
    | nil => simp
    | cons u r =>
      rw [List.map_cons, List.map_cons, List.intersperse_cons_cons, String.join_cons,
        String.join_cons, ← List.map_cons, String.toList_append, String.toList_append, ih,
        List.intercalate_cons_cons]
      simp

/-! ## Splitting -/

theorem length_splitOn (s : Char) (cs : List Char) :
    (cs.splitOn s).length = cs.count s + 1 := by
  induction cs with
  | nil => rfl
  | cons c cs ih =>
    rw [List.splitOn_cons_eq_if_modifyHead, List.count_cons]
    split
    · rw [List.length_cons, ih]
    · rw [List.length_modifyHead, ih, Nat.add_zero]

/-- Separators stand in the pieces and between them. -/
theorem count_intercalate (s : Char) {ts : List (List Char)} (hts : ts ≠ []) :
    ([s].intercalate ts).count s + 1 = ts.flatten.count s + ts.length := by
  induction ts with
  | nil => exact absurd rfl hts
  | cons t r ih =>
    cases r with
    | nil => simp
    | cons u r =>
      have hr := ih (List.cons_ne_nil u r)
      rw [List.intercalate_cons_cons, List.count_append, List.count_append,
        List.count_singleton_self, List.flatten_cons, List.count_append, List.length_cons]
      omega

theorem not_mem_of_mem_splitOn {s : Char} {cs t : List Char} (ht : t ∈ cs.splitOn s) : s ∉ t := by
  intro hs
  have hcount := count_intercalate s (List.splitOn_ne_nil s cs)
  rw [List.intercalate_splitOn, length_splitOn] at hcount
  -- all separators stand between the pieces
  have hnone : (cs.splitOn s).flatten.count s = 0 := by omega
  exact List.count_eq_zero.1 hnone (List.mem_flatten.2 ⟨t, ht, hs⟩)

theorem splitOn_eq_iff {s : Char} {cs : List Char} {ts : List (List Char)} (hts : ts ≠ []) :
    cs.splitOn s = ts ↔ (∀ t ∈ ts, s ∉ t) ∧ cs = [s].intercalate ts := by
  constructor
  · rintro rfl
    exact ⟨fun t ht => not_mem_of_mem_splitOn ht, (List.intercalate_splitOn s).symm⟩
  · rintro ⟨hpieces, rfl⟩
    exact List.splitOn_intercalate s hpieces hts

/-- Without a separator, pieces follow each other. -/
theorem nil_intercalate (ts : List (List Char)) : [].intercalate ts = ts.flatten := by
  induction ts with
  | nil => rfl
  | cons t r ih =>
    cases r with
    | nil => simp
    | cons u r =>
      rw [List.intercalate_cons_cons, ih, List.append_nil]
      rfl

end LinkWatch.Text
