import LinkWatch.Proofs.Difference.Patch

/-!
# Streams of events

A stream of events is well formed if every event fits what the events before it have left: nothing
comes that is known already, and nothing goes or changes that is not known (`Fits`). Whether an
event fits depends on the known ids alone, so a stream of differences stays well formed on any map
with the ids of the first snapshot (`applyEvents?_diffs`), and events that tell again what a
snapshot holds anyway fit only if they are changes (`fits_iff_of_current`).
-/

namespace LinkWatch

/-- True for a change of a field. -/
def Event.isChange : Event → Bool
  | changed .. => true
  | _ => false

namespace Snapshot

variable {m m' p s : Snapshot} {es fs : List Event}

/-- The events of snapshots that come one after another, from a first one on. -/
def diffs (p : Snapshot) : List Snapshot → List Event
  | [] => []
  | s :: r => diff p s ++ diffs s r

theorem diffs_concat (p s : Snapshot) (ss : List Snapshot) :
    diffs p (ss ++ [s]) = diffs p ss ++ diff (ss.getLastD p) s := by
  induction ss generalizing p with
  | nil => simp [diffs]
  | cons t ss ih =>
    rw [List.cons_append, diffs, diffs, ih, List.append_assoc, List.getLastD_cons]

/-- Every event in a list can happen to what the events before it have left of a snapshot. -/
def Fits (s : Snapshot) (es : List Event) : Prop := (s.applyEvents? es).isSome = true

instance (s : Snapshot) (es : List Event) : Decidable (s.Fits es) :=
  inferInstanceAs (Decidable ((s.applyEvents? es).isSome = true))

theorem applyEvents?_append (s : Snapshot) (es fs : List Event) :
    s.applyEvents? (es ++ fs) = (s.applyEvents? es).bind fun t => t.applyEvents? fs :=
  List.foldlM_append

/-- Where a list fits, so does every beginning of it. -/
theorem Fits.beginning (h : s.Fits fs) (hes : es <+: fs) : s.Fits es := by
  obtain ⟨rest, rfl⟩ := hes
  rw [Fits, applyEvents?_append] at h
  rw [Fits]
  cases hs : s.applyEvents? es with
  | none =>
    rw [hs] at h
    cases h
  | some t => rfl

/-! ## Known ids -/

/-- Two snapshots have the same ids. -/
def SameIds (s t : Snapshot) : Prop := ∀ k, s.contains k = t.contains k

theorem SameIds.admits (h : m.SameIds s) (e : Event) : m.admits e = s.admits e := by
  cases e <;> simp only [Snapshot.admits, h _]

theorem SameIds.applyEvent (h : m.SameIds s) (e : Event) :
    (m.applyEvent e).SameIds (s.applyEvent e) := by
  intro k
  rw [Keyed.contains, Keyed.contains, get?_applyEvent, get?_applyEvent]
  split
  · rfl
  · exact h k

/-- Events that apply to one snapshot apply to every other one with the same ids, which then still
has the same ids. -/
theorem SameIds.applyEvents? (h : m.SameIds s) {t : Snapshot} (ht : s.applyEvents? es = some t) :
    ∃ m', m.applyEvents? es = some m' ∧ m'.SameIds t := by
  induction es generalizing m s with
  | nil =>
    cases ht
    exact ⟨m, rfl, h⟩
  | cons e es ih =>
    obtain ⟨s₁, hs₁, hrest⟩ := Option.bind_eq_some_iff.1 ht
    rw [applyEvent?] at hs₁
    split at hs₁
    · next hfits =>
      cases hs₁
      obtain ⟨m', hm', hsame⟩ := ih (h.applyEvent e) hrest
      refine ⟨m', Option.bind_eq_some_iff.2 ⟨m.applyEvent e, ?_, hm'⟩, hsame⟩
      rw [applyEvent?, h.admits, if_pos hfits]
    · cases hs₁

/-! ## Differences -/

/-- A difference fits every map with the ids of the first snapshot, and leaves the ids of the
second. -/
theorem applyEvents?_diff (h : m.SameIds p) (hp : p.IsKeyed) (hs : s.IsKeyed) :
    ∃ m', m.applyEvents? (diff p s) = some m' ∧ m'.SameIds s := by
  have hpatch : p.applyEvents? (diff p s) = some (p.applyEvents (diff p s)) :=
    applyEvents?_eq_some fun _ _ _ hsplit => admits_of_split hp hs hsplit
  obtain ⟨m', hm', hsame⟩ := h.applyEvents? hpatch
  refine ⟨m', hm', fun k => ?_⟩
  rw [hsame k, Keyed.contains, Keyed.contains, get?_applyEvents_diff hp hs]
  cases p.get? k <;> cases s.get? k <;> rfl

theorem applyEvents?_diffs {ss : List Snapshot} (h : m.SameIds p) (hp : p.IsKeyed)
    (hss : ∀ s ∈ ss, s.IsKeyed) : m.Fits (diffs p ss) := by
  induction ss generalizing m p with
  | nil => rfl
  | cons s ss ih =>
    obtain ⟨hs, hrest⟩ := List.forall_mem_cons.1 hss
    obtain ⟨m', hm', hsame⟩ := applyEvents?_diff h hp hs
    rw [Fits, diffs, applyEvents?_append, hm']
    exact ih hsame hs hrest

/-! ## Events that tell nothing new -/

/-- An event that says what a snapshot holds anyway fits it only if it is a change. -/
theorem admits_of_current {e : Event} (h : s.get? e.interface.id = e.after) :
    s.admits e = e.isChange := by
  cases e with
  | removed i =>
    have hnone : s.get? i.id = none := h
    simp [admits, Keyed.contains, hnone, Event.isChange]
  | added i =>
    have hsome : s.get? i.id = some i := h
    simp [admits, Keyed.contains, hsome, Event.isChange]
  | changed i c =>
    have hsome : s.get? i.id = some i := h
    simp [admits, Keyed.contains, hsome, Event.isChange]

/-- Events that say what a snapshot holds anyway fit exactly if all of them are changes, and then
they leave the ids as they are. -/
theorem applyEvents?_of_current (h : m.SameIds s)
    (hes : ∀ e ∈ es, s.get? e.interface.id = e.after) :
    (∀ e ∈ es, e.isChange = true) ∧ (∃ m', m.applyEvents? es = some m' ∧ m'.SameIds s) ∨
      (∃ e ∈ es, e.isChange = false) ∧ m.applyEvents? es = none := by
  induction es generalizing m with
  | nil => exact .inl ⟨by simp, m, rfl, h⟩
  | cons e es ih =>
    obtain ⟨he, hrest⟩ := List.forall_mem_cons.1 hes
    have hfits : m.admits e = e.isChange := by rw [h.admits, admits_of_current he]
    have hcons : m.applyEvents? (e :: es) = (m.applyEvent? e).bind fun t => t.applyEvents? es := rfl
    rw [hcons, applyEvent?, hfits]
    cases hc : e.isChange with
    | false => exact .inr ⟨⟨e, List.mem_cons_self, hc⟩, rfl⟩
    | true =>
      -- a change to what is there already
      have hsame : (m.applyEvent e).SameIds s := by
        intro k
        rw [h.applyEvent e k, Keyed.contains, Keyed.contains, get?_applyEvent]
        split
        · next hk => rw [← hk, he]
        · rfl
      rcases ih hsame hrest with ⟨hall, hm'⟩ | ⟨⟨f, hf, hc'⟩, hnone⟩
      · exact .inl ⟨List.forall_mem_cons.2 ⟨hc, hall⟩, hm'⟩
      · exact .inr ⟨⟨f, List.mem_cons_of_mem _ hf, hc'⟩, hnone⟩

/-- A stream that tells again of things that a snapshot holds, and then of further snapshots: it is
well formed as far as what it tells again are changes. -/
theorem fits_again_iff {ss : List Snapshot} (h : m.SameIds s) (hs : s.IsKeyed)
    (hss : ∀ t ∈ ss, t.IsKeyed) (hes : ∀ e ∈ es, s.get? e.interface.id = e.after)
    (hfs : fs <+: es ++ diffs s ss) :
    m.Fits fs ↔ ∀ e ∈ es.take fs.length, e.isChange = true := by
  have htaken : fs = es.take fs.length ++ (diffs s ss).take (fs.length - es.length) := by
    have htake := List.prefix_iff_eq_take.1 hfs
    rwa [List.take_append] at htake
  have hagain : ∀ e ∈ es.take fs.length, s.get? e.interface.id = e.after :=
    fun e he => hes e (List.mem_of_mem_take he)
  rw [Fits, htaken, applyEvents?_append, ← htaken]
  rcases applyEvents?_of_current h hagain with ⟨hall, m', hm', hsame⟩ | ⟨⟨e, he, hc⟩, hnone⟩
  · have hfits : m'.Fits ((diffs s ss).take (fs.length - es.length)) :=
      (applyEvents?_diffs hsame hs hss).beginning (List.take_prefix _ _)
    rw [hm', Option.bind_some]
    exact ⟨fun _ => hall, fun _ => hfits⟩
  · rw [hnone, Option.bind_none]
    constructor
    · intro hfits
      cases hfits
    · intro hall
      rw [hall e he] at hc
      cases hc

/-- The same for a stream that first tells of the snapshot from nothing. -/
theorem fits_iff_of_current {ss : List Snapshot} {told : List Event} (hs : s.IsKeyed)
    (hss : ∀ t ∈ ss, t.IsKeyed) (hes : ∀ e ∈ es, s.get? e.interface.id = e.after)
    (htold : told <+: diff .empty s ++ es ++ diffs s ss) :
    Fits .empty told ↔ ∀ e ∈ es.take (told.length - s.size), e.isChange = true := by
  have hlength : (diff .empty s).length = s.size := by
    rw [diff_empty, List.length_map, Keyed.values, List.length_map, Keyed.size]
  obtain ⟨m, hm, hsame⟩ := applyEvents?_diff (fun _ => rfl) isKeyed_empty hs
  rw [List.append_assoc] at htold
  rcases List.prefix_or_prefix_of_prefix htold (List.prefix_append _ _) with hpart | ⟨fs, rfl⟩
  · -- only the snapshot was told, or a part of it
    have hnone : told.length - s.size = 0 := Nat.sub_eq_zero_of_le (hlength ▸ hpart.length_le)
    have hfits : Fits .empty (diff .empty s) := by
      rw [Fits, hm]
      rfl
    rw [hnone, List.take_zero]
    exact ⟨fun _ => List.forall_mem_nil _, fun _ => hfits.beginning hpart⟩
  · -- all of the snapshot was told, and perhaps some events after it
    have hfs : fs <+: es ++ diffs s ss := (List.prefix_append_right_inj _).1 htold
    rw [Fits, applyEvents?_append, hm, Option.bind_some, List.length_append, hlength,
      Nat.add_sub_cancel_left]
    exact fits_again_iff hsame hs hss hes hfs

end Snapshot
end LinkWatch
