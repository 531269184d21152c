import LinkWatch.Address.Assignment
import LinkWatch.Proofs.Address.Bitwise
import LinkWatch.Proofs.Address.Canonical
import LinkWatch.Proofs.Address.Netmask

/-!
# Prefix notation

An assignment is written as its address with the length of its netmask behind a slash, or with the netmask
itself where this has no length. Neither a slash nor the word between two addresses has a character in
common with address text, so that the text shows which of the two it is (`slash_mem_text_iff`) and where
its parts end. Each part is read back, and the address tells the family of the mask: the text of an
assignment within one family is that of no other (`text_reads_back`).
-/

namespace LinkWatch

/-- The mask of a family with so many one bits in front. -/
def Netmask.ofCount (f : AddressFamily) (count : UInt8) : IpAddress :=
  match f with
  | .none => .none
  | .v4 => .ofPackedV4 (v4 count)
  | .v6 => .ofPackedV6 (v6 count)

/-- A mask is made from its length. -/
theorem Netmask.HasLength.ofCount_eq {mask : IpAddress} {n : UInt8} (h : HasLength mask n) :
    ofCount mask.family n = mask := by
  cases h with
  | @v4 o _ _ _ hpack =>
    show IpAddress.v4 (Octets.unpack (Netmask.v4 n)) = .v4 o
    rw [← hpack, Octets.unpack_pack]
  | @v6 g _ _ hpack =>
    show IpAddress.v6 (Groups.unpack (Netmask.v6 n)) = .v6 g
    rw [← hpack, Groups.unpack_pack]

namespace IpAddress

theorem SameFamily.isValid {a b : IpAddress} (h : SameFamily a b) :
    a.isValid = true ∧ b.isValid = true := by
  cases h with
  | v4 x y => exact ⟨rfl, rfl⟩
  | v6 x y => exact ⟨rfl, rfl⟩

/-- The text of an address that is set is read as this address. -/
theorem parse_text {a : IpAddress} (ha : a.isValid = true) : parse a.text = .ok a := by
  cases a with
  | none => cases ha
  | v4 o => exact parse_text_v4 o
  | v6 g => exact parse_text_v6 g

/-- Valid addresses with the same text are the same. -/
theorem eq_of_toList_text_eq {a b : IpAddress} (ha : a.isValid = true) (hb : b.isValid = true)
    (h : a.text.toList = b.text.toList) : a = b := by
  have hread := parse_text ha
  rw [String.toList_inj.1 h, parse_text hb] at hread
  exact (Except.ok.inj hread).symm

/-- What is no digit and neither mark is not in the text of an address. -/
theorem not_mem_text {a : IpAddress} (ha : a.isValid = true) {x : Char}
    (hdigit : ∀ d < 16, d.digitChar ≠ x) (hdot : '.' ≠ x) (hcolon : ':' ≠ x) :
    x ∉ a.text.toList := by
  intro hmem
  have hne : x ≠ x := (isTextChar_text ha x hmem).elim (P := (· ≠ x)) hdigit hdot hcolon
  exact hne rfl

/-- The text of an address ends before the slash. -/
theorem slash_not_mem_text {a : IpAddress} (ha : a.isValid = true) : '/' ∉ a.text.toList :=
  not_mem_text ha (by decide) (by decide) (by decide)

/-- The word before a mask is not mistaken for a part of the address. -/
theorem letter_not_mem_text {a : IpAddress} (ha : a.isValid = true) : 'n' ∉ a.text.toList :=
  not_mem_text ha (by decide) (by decide) (by decide)

end IpAddress

namespace Assignment

open IpAddress Netmask

/-! ## The two shapes -/

/-- A mask with a prefix length is written as that length. -/
theorem text_of_hasLength {a : Assignment} {n : UInt8} (h : HasLength a.netmask n) :
    a.text = a.address.text ++ "/" ++ String.ofList (Text.decimal n.toNat) := by
  rw [text, maskLength, length_of_hasLength h]

/-- A mask without a prefix length is written as an address. -/
theorem text_of_no_length {a : Assignment} (h : ¬ ∃ n, HasLength a.netmask n) :
    a.text = a.address.text ++ " netmask " ++ a.netmask.text := by
  rw [text, maskLength, length_of_no_length h]

theorem toList_text_of_hasLength {a : Assignment} {n : UInt8} (h : HasLength a.netmask n) :
    a.text.toList = a.address.text.toList ++ '/' :: Text.decimal n.toNat := by
  simp [text_of_hasLength h]

/-- The word is cut at a letter that is no digit. -/
theorem toList_text_of_no_length {a : Assignment} (h : ¬ ∃ n, HasLength a.netmask n) :
    a.text.toList =
      (a.address.text.toList ++ [' ']) ++ 'n' :: ("etmask ".toList ++ a.netmask.text.toList) := by
  rw [text_of_no_length h, String.toList_append, String.toList_append, List.append_assoc,
    List.append_assoc]
  rfl

/-- A slash stands in the text of an assignment exactly if its netmask has a length. -/
theorem slash_mem_text_iff {a : Assignment} (ha : SameFamily a.address a.netmask) :
    '/' ∈ a.text.toList ↔ ∃ n, HasLength a.netmask n := by
  obtain ⟨haddress, hnetmask⟩ := ha.isValid
  by_cases h : ∃ n, HasLength a.netmask n
  · obtain ⟨n, hn⟩ := h
    rw [toList_text_of_hasLength hn]
    exact iff_of_true (by simp) ⟨n, hn⟩
  · refine iff_of_false ?_ h
    rw [toList_text_of_no_length h]
    simp [slash_not_mem_text haddress, slash_not_mem_text hnetmask]

/-! ## Reading back -/

/-- The address tells the family of the mask. -/
theorem ofCount_eq_netmask {a : Assignment} (ha : SameFamily a.address a.netmask) {n : UInt8}
    (hn : HasLength a.netmask n) : ofCount a.address.family n = a.netmask := by
  rw [(sameFamily_iff.1 ha).2]
  exact hn.ofCount_eq

/-- An assignment is its address and its mask. -/
theorem ext {a b : Assignment} (haddress : a.address = b.address)
    (hnetmask : a.netmask = b.netmask) : a = b := by
  cases a
  cases b
  cases haddress
  cases hnetmask
  rfl

theorem eq_of_decimal_eq {m n : UInt8} (h : Text.decimal m.toNat = Text.decimal n.toNat) :
    m = n := by
  have hvalue : ∀ k : UInt8, Text.numeralValue 10 (Text.decimal k.toNat) = k.toNat := fun _ =>
    Text.numeralValue_toDigits (by decide) (by decide)
  apply UInt8.toNat_inj.1
  rw [← hvalue m, h, hvalue n]

section Injectivity

variable {a b : Assignment} (ha : SameFamily a.address a.netmask)
  (hb : SameFamily b.address b.netmask)

include ha hb

/-- Two assignments whose masks have prefix lengths are the same if their texts are. -/
theorem eq_of_text_eq_of_hasLength {m n : UInt8} (hm : HasLength a.netmask m)
    (hn : HasLength b.netmask n) (h : a.text.toList = b.text.toList) : a = b := by
  have hslash : '/' ∉ a.address.text.toList := slash_not_mem_text ha.isValid.1
  have hdecimal : '/' ∉ Text.decimal m.toNat :=
    Text.not_mem_toDigits (by decide) (by decide) (by decide)
  -- both texts are cut at the slash
  rw [toList_text_of_hasLength hm, toList_text_of_hasLength hn,
    List.append_cons_inj_of_notMem hslash hdecimal] at h
  obtain ⟨haddress, -, hdigits⟩ := h
  have hsame : a.address = b.address := eq_of_toList_text_eq ha.isValid.1 hb.isValid.1 haddress
  have hmask : a.netmask = b.netmask := by
    rw [← ofCount_eq_netmask ha hm, ← ofCount_eq_netmask hb hn, hsame, eq_of_decimal_eq hdigits]
  exact ext hsame hmask

/-- Two assignments whose masks have no prefix lengths are the same if their texts are. -/
theorem eq_of_text_eq_of_no_length (hm : ¬ ∃ n, HasLength a.netmask n)
    (hn : ¬ ∃ n, HasLength b.netmask n) (h : a.text.toList = b.text.toList) : a = b := by
  have hleft : 'n' ∉ a.address.text.toList ++ [' '] := by
    simp [letter_not_mem_text ha.isValid.1]
  have hright : 'n' ∉ "etmask ".toList ++ a.netmask.text.toList := by
    simp [letter_not_mem_text ha.isValid.2]
  -- both texts are cut at the first letter of the word
  rw [toList_text_of_no_length hm, toList_text_of_no_length hn,
    List.append_cons_inj_of_notMem hleft hright] at h
  obtain ⟨haddress, -, hnetmask⟩ := h
  have hsame : a.address = b.address :=
    eq_of_toList_text_eq ha.isValid.1 hb.isValid.1 (List.append_cancel_right haddress)
  have hmask : a.netmask = b.netmask :=
    eq_of_toList_text_eq ha.isValid.2 hb.isValid.2 (List.append_cancel_left hnetmask)
  exact ext hsame hmask

/-- Within one family, an assignment is told by its text. -/
theorem eq_of_text_eq (h : a.text = b.text) : a = b := by
  have htext : a.text.toList = b.text.toList := congrArg String.toList h
  have hshape : (∃ n, HasLength a.netmask n) ↔ ∃ n, HasLength b.netmask n := by
    rw [← slash_mem_text_iff ha, htext, slash_mem_text_iff hb]
  by_cases hlength : ∃ n, HasLength a.netmask n
  · obtain ⟨m, hm⟩ := hlength
    obtain ⟨n, hn⟩ := hshape.1 ⟨m, hm⟩
    exact eq_of_text_eq_of_hasLength ha hb hm hn htext
  · exact eq_of_text_eq_of_no_length ha hb hlength (fun hn => hlength (hshape.2 hn)) htext

end Injectivity

/-- The text of an assignment within one family is a text of its address, then a slash and, in decimal,
the count that its netmask is made from, if the netmask is valid; otherwise texts of both with a word
between them. No other assignment within one family has the same text. -/
theorem text_reads_back {a : Assignment} (ha : SameFamily a.address a.netmask) :
    (check a.netmask = .ok () →
      ∃ (t ds : String) (n : UInt8), a.text = t ++ "/" ++ ds ∧ parse t = .ok a.address ∧
        Text.IsCanonical 10 ds.toList n.toNat ∧ ofCount a.address.family n = a.netmask) ∧
    (check a.netmask ≠ .ok () →
      ∃ t u : String, a.text = t ++ " netmask " ++ u ∧ parse t = .ok a.address ∧
        parse u = .ok a.netmask) ∧
    ∀ b : Assignment, SameFamily b.address b.netmask → b.text = a.text → b = a := by
  obtain ⟨haddress, hnetmask⟩ := ha.isValid
  refine ⟨?_, ?_, ?_⟩
  · intro hcheck
    obtain ⟨n, hn⟩ := (check_eq_ok_iff a.netmask).1 hcheck
    have hdecimal : Text.IsCanonical 10 (Text.decimal n.toNat) n.toNat :=
      (Text.isCanonical_iff (by decide) (by decide)).2 rfl
    refine ⟨_, _, n, text_of_hasLength hn, parse_text haddress, ?_, ofCount_eq_netmask ha hn⟩
    rwa [String.toList_ofList]
  · intro hcheck
    have hnone : ¬ ∃ n, HasLength a.netmask n := fun h => hcheck ((check_eq_ok_iff a.netmask).2 h)
    exact ⟨_, _, text_of_no_length hnone, parse_text haddress, parse_text hnetmask⟩
  · intro b hb h
    exact eq_of_text_eq hb ha h

/-- The empty mask is valid for IPv6 and not for IPv4. -/
theorem text_reads_back_empty :
    (SameFamily (.v6 #v[0xfe80, 0, 0, 0, 0, 0, 0, 1]) (.v6 #v[0, 0, 0, 0, 0, 0, 0, 0]) ∧
      check (.v6 #v[0, 0, 0, 0, 0, 0, 0, 0]) = .ok () ∧
      ∃ (t ds : String) (n : UInt8),
        text ⟨.v6 #v[0xfe80, 0, 0, 0, 0, 0, 0, 1], .v6 #v[0, 0, 0, 0, 0, 0, 0, 0]⟩ =
          t ++ "/" ++ ds ∧
        parse t = .ok (.v6 #v[0xfe80, 0, 0, 0, 0, 0, 0, 1]) ∧
        Text.IsCanonical 10 ds.toList n.toNat ∧
        ofCount .v6 n = .v6 #v[0, 0, 0, 0, 0, 0, 0, 0]) ∧
    (SameFamily (.v4 #v[10, 0, 0, 1]) (.v4 #v[0, 0, 0, 0]) ∧
      check (.v4 #v[0, 0, 0, 0]) ≠ .ok () ∧
      ∃ t u : String,
        text ⟨.v4 #v[10, 0, 0, 1], .v4 #v[0, 0, 0, 0]⟩ = t ++ " netmask " ++ u ∧
        parse t = .ok (.v4 #v[10, 0, 0, 1]) ∧ parse u = .ok (.v4 #v[0, 0, 0, 0])) := by
  have hv6 := text_reads_back (a := ⟨_, _⟩)
    (.v6 #v[0xfe80, 0, 0, 0, 0, 0, 0, 1] #v[0, 0, 0, 0, 0, 0, 0, 0])
  have hv4 := text_reads_back (a := ⟨_, _⟩) (.v4 #v[10, 0, 0, 1] #v[0, 0, 0, 0])
  have hvalid : check (.v6 #v[0, 0, 0, 0, 0, 0, 0, 0]) = .ok () :=
    check_of_hasLength (n := 0) (.v6 (by decide) (by decide))
  have hempty : check (.v4 #v[0, 0, 0, 0]) ≠ .ok () := by decide
  exact ⟨⟨.v6 _ _, hvalid, hv6.1 hvalid⟩, ⟨.v4 _ _, hempty, hv4.2.1 hempty⟩⟩

end Assignment
end LinkWatch
