import LinkWatch.Proofs.Address.Canonical

/-!
# Room for the text of an address

The text of an address is written into its buffer piece by piece. What has been written after any
number of pieces is the beginning of the whole text, and that is bounded for all shapes of text at
once (`pieces_size`), so every single write fits (`exists_writeAll_take`). The buffer has room for
one byte more than the longest text takes.
-/

namespace LinkWatch.IpAddress

/-- What was written after some pieces is the beginning of what is written in the end. -/
theorem join_take_prefix (a : IpAddress) (n : Nat) :
    (String.join (a.pieces.take n)).toList <+: (String.join a.pieces).toList := by
  have hsplit : String.join a.pieces =
      String.join (a.pieces.take n) ++ String.join (a.pieces.drop n) := by
    rw [← String.join_append, List.take_append_drop]
  rw [hsplit, String.toList_append]
  exact List.prefix_append _ _

theorem isAscii_of_mem_join_take (a : IpAddress) (n : Nat) :
    ∀ c ∈ (String.join (a.pieces.take n)).toList, Text.IsAscii c :=
  fun c hc => a.pieces_size.1 c ((a.join_take_prefix n).subset hc)

theorem utf8ByteSize_join_take_le (a : IpAddress) (n : Nat) :
    (String.join (a.pieces.take n)).utf8ByteSize ≤ 39 := by
  rw [← String.ofList_toList (s := String.join (a.pieces.take n)),
    Text.utf8ByteSize_of_forall (a.isAscii_of_mem_join_take n)]
  exact Nat.le_trans (a.join_take_prefix n).length_le a.pieces_size.2

/-- No write fails, and the buffer holds all that was written. -/
theorem exists_writeAll_take (a : IpAddress) (n : Nat) :
    ∃ b : Text.Buffer textCapacity, Text.Buffer.empty.writeAll (a.pieces.take n) = some b ∧
      b.Holds (String.join (a.pieces.take n)) :=
  Text.Buffer.exists_writeAll_empty (Nat.le_succ_of_le (a.utf8ByteSize_join_take_le n))

/-! ## Main result -/

/-- The buffer never overflows. However many of the pieces of an address have been written, all of
these writes have succeeded, and the buffer holds 39 bytes at most, all of them ASCII, which are the
UTF-8 bytes of the pieces one after another. So an address is always rendered, the contents of the
buffer are never the empty text that stands for bytes that are not UTF-8, and they are the text of
the address. -/
theorem writing_never_overflows (a : IpAddress) :
    (∀ n, ∃ b : Text.Buffer textCapacity,
      Text.Buffer.empty.writeAll (a.pieces.take n) = some b ∧
      b.bytes.size ≤ 39 ∧ (∀ x ∈ b.bytes.data, x < 128) ∧
      String.fromUTF8? b.bytes = some (String.join (a.pieces.take n))) ∧
    ∃ b, a.rendered = some b ∧ String.fromUTF8? b.bytes = some (String.join a.pieces) ∧
      b.contents = String.join a.pieces ∧ a.text = b.contents := by
  constructor
  · intro n
    obtain ⟨b, hb, hholds⟩ := a.exists_writeAll_take n
    have hsize : b.bytes.size ≤ 39 := hholds.size_eq ▸ a.utf8ByteSize_join_take_le n
    have hascii : ∀ x ∈ b.bytes.data, x < 128 := by
      rw [hholds]
      exact Text.lt_of_mem_toByteArray (a.isAscii_of_mem_join_take n)
    exact ⟨b, hb, hsize, hascii, hholds.fromUTF8?_eq⟩
  · -- all pieces are the first so many
    obtain ⟨b, hb, hholds⟩ := a.exists_writeAll_take a.pieces.length
    rw [List.take_length] at hb hholds
    refine ⟨b, hb, hholds.fromUTF8?_eq, hholds.contents_eq, ?_⟩
    rw [hholds.contents_eq, text_eq_join]

/-- The longest texts are those of eight groups of four digits. After three pieces two of the groups
and a colon are written. -/
theorem writing_never_overflows_widest :
    ∃ b b' : Text.Buffer textCapacity,
      Text.Buffer.empty.writeAll ["ffff", ":", "ffff"] = some b ∧ b.bytes.size ≤ 39 ∧
      (∀ x ∈ b.bytes.data, x < 128) ∧ String.fromUTF8? b.bytes = some "ffff:ffff" ∧
      (v6 (Vector.replicate 8 0xffff)).rendered = some b' ∧
      b'.contents = "ffff:ffff:ffff:ffff:ffff:ffff:ffff:ffff" ∧ b'.contents.utf8ByteSize = 39 := by
  have hpieces : (v6 (Vector.replicate 8 0xffff)).pieces.take 3 = ["ffff", ":", "ffff"] := by
    decide +kernel
  have hjoin : String.join (v6 (Vector.replicate 8 0xffff)).pieces =
      "ffff:ffff:ffff:ffff:ffff:ffff:ffff:ffff" := by
    decide +kernel
  obtain ⟨hwrites, b', hrendered, -, hcontents, -⟩ :=
    writing_never_overflows (v6 (Vector.replicate 8 0xffff))
  obtain ⟨b, hb, hsize, hascii, hread⟩ := hwrites 3
  rw [hpieces] at hb hread
  rw [hjoin] at hcontents
  exact ⟨b, b', hb, hsize, hascii, hread, hrendered, hcontents, hcontents ▸ rfl⟩

end LinkWatch.IpAddress
