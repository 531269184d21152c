import LinkWatch.Address.Canonical

/-!
# Buffers that are large enough

Texts that fit into a buffer together can be written one after another, and the buffer then holds
them as one text.
-/

namespace LinkWatch.Text

namespace Buffer

variable {capacity : Nat}

/-- A buffer that holds a text. -/
def Holds (b : Buffer capacity) (s : String) : Prop := b.bytes = s.toByteArray

theorem holds_empty : (empty : Buffer capacity).Holds "" := rfl

/-- What a buffer holds is valid UTF-8. -/
theorem Holds.fromUTF8?_eq {b : Buffer capacity} {s : String} (h : b.Holds s) :
    String.fromUTF8? b.bytes = some s := by
  have hvalid : b.bytes.IsValidUTF8 := h ▸ s.isValidUTF8
  rw [String.fromUTF8?, dif_pos hvalid, Option.some.injEq]
  exact String.toByteArray_inj.1 h

/-- The contents of a buffer are the text that it holds. -/
theorem Holds.contents_eq {b : Buffer capacity} {s : String} (h : b.Holds s) :
    b.contents = s := by
  rw [contents, h.fromUTF8?_eq, Option.getD_some]

theorem Holds.size_eq {b : Buffer capacity} {s : String} (h : b.Holds s) :
    b.bytes.size = s.utf8ByteSize := by
  rw [h, String.size_toByteArray]

/-- A text that fits is added to what the buffer holds. -/
theorem Holds.write {b : Buffer capacity} {s t : String} (h : b.Holds s)
    (hfits : (s ++ t).utf8ByteSize ≤ capacity) : ∃ b', b.write t = some b' ∧ b'.Holds (s ++ t) := by
  have hbytes : b.bytes ++ t.toByteArray = (s ++ t).toByteArray := by
    rw [h, String.toByteArray_append]
  have hsize : (b.bytes ++ t.toByteArray).size ≤ capacity := by
    rw [hbytes, String.size_toByteArray]
    exact hfits
  exact ⟨⟨b.bytes ++ t.toByteArray, hsize⟩, dif_pos hsize, hbytes⟩

/-- Pieces that fit together are added one after another. -/
theorem Holds.writeAll {b : Buffer capacity} {s : String} (h : b.Holds s) {l : List String}
    (hfits : (s ++ String.join l).utf8ByteSize ≤ capacity) :
    ∃ b', b.writeAll l = some b' ∧ b'.Holds (s ++ String.join l) := by
  induction l generalizing b s with
  | nil =>
    refine ⟨b, rfl, ?_⟩
    rwa [String.join_nil, String.append_empty]
  | cons t r ih =>
    rw [String.join_cons, ← String.append_assoc] at hfits ⊢
    have hfirst : (s ++ t).utf8ByteSize ≤ capacity := by
      rw [String.utf8ByteSize_append] at hfits
      omega
    obtain ⟨b1, h1, hb1⟩ := h.write hfirst
    obtain ⟨b2, h2, hb2⟩ := ih hb1 hfits
    refine ⟨b2, ?_, hb2⟩
    rw [Buffer.writeAll, h1]
    exact h2

/-- Texts that fit into a buffer together are all written to it. -/
theorem exists_writeAll_empty {l : List String} (hfits : (String.join l).utf8ByteSize ≤ capacity) :
    ∃ b, (empty : Buffer capacity).writeAll l = some b ∧ b.Holds (String.join l) := by
  have hempty : (empty : Buffer capacity).Holds "" := holds_empty
  rw [← String.empty_append (s := String.join l)] at hfits ⊢
  exact hempty.writeAll hfits

end Buffer

/-- A character that takes one byte. -/
def IsAscii (c : Char) : Prop := c.toNat < 128

instance (c : Char) : Decidable (IsAscii c) := inferInstanceAs (Decidable (c.toNat < 128))

theorem IsAscii.utf8Size_eq {c : Char} (h : IsAscii c) : c.utf8Size = 1 := by
  have hle : c.val ≤ 127 := Nat.le_of_lt_succ h
  exact Char.utf8Size_eq_one_iff.2 hle

/-- A text of such characters has as many bytes as characters. -/
theorem utf8ByteSize_of_forall {cs : List Char} (h : ∀ c ∈ cs, IsAscii c) :
    (String.ofList cs).utf8ByteSize = cs.length := by
  induction cs with
  | nil => rfl
  | cons c cs ih =>
    have hc := (h c List.mem_cons_self).utf8Size_eq
    have hcs := ih fun d hd => h d (List.mem_cons_of_mem _ hd)
    have hsplit : String.ofList (c :: cs) = String.singleton c ++ String.ofList cs := by
      rw [← String.toList_inj]
      simp
    rw [hsplit, String.utf8ByteSize_append, String.utf8ByteSize_singleton, hc, hcs,
      List.length_cons, Nat.add_comm]

/-- All bytes of such a text are below 128. -/
theorem lt_of_mem_toByteArray {s : String} (h : ∀ c ∈ s.toList, IsAscii c) :
    ∀ x ∈ s.toByteArray.data, x < 128 := by
  intro x hx
  rw [← String.ofList_toList (s := s), String.toByteArray_ofList, List.utf8Encode,
    List.data_toByteArray, List.mem_toArray, List.mem_flatMap] at hx
  obtain ⟨c, hc, hx⟩ := hx
  have hc' : c.toNat < 128 := h c hc
  rw [String.utf8EncodeChar_eq_singleton (h c hc).utf8Size_eq, List.mem_singleton] at hx
  subst hx
  rw [UInt8.lt_iff_toNat_lt, UInt32.toNat_toUInt8]
  exact Nat.lt_of_le_of_lt (Nat.mod_le _ _) hc'

end LinkWatch.Text
