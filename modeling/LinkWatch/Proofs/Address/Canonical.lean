import LinkWatch.Proofs.Address.Grammar
import LinkWatch.Proofs.Address.ZeroRun
import LinkWatch.Proofs.Text.Buffer

/-!
# Canonical texts

The canonical text of an address is its pieces one after another (`text_eq_join`), since they
always fit into the buffer. For IPv6 it has one of a few shapes (`Groups.Canonical`), and each of
them belongs to the grammar of address text, so that canonical text reads back as the address that
it was written for (`valid_text_round_trip`).
-/

namespace LinkWatch

/-! ## Octets and groups -/

/-- An IPv6 address is eight groups. -/
theorem Groups.exists_eq (g : Groups) :
    ∃ a b c d e f x y, g = #v[a, b, c, d, e, f, x, y] := by
  obtain ⟨⟨l⟩, hl⟩ := g
  match l, hl with
  | [a, b, c, d, e, f, x, y], _ => exact ⟨a, b, c, d, e, f, x, y, rfl⟩

/-- The two octets of a group. -/
theorem joinOctets_halves (x : UInt16) :
    joinOctets (UInt8.ofNat (x.toNat / 256)) (UInt8.ofNat x.toNat) = x := by
  have hlt : x.toNat < 65536 := x.toNat_lt
  have hvalue : x.toNat / 256 % 256 * 256 + x.toNat % 256 = x.toNat := by omega
  rw [joinOctets, UInt8.toNat_ofNat', UInt8.toNat_ofNat', hvalue, UInt16.ofNat_toNat]

@[simp] theorem Octets.length_asGroups (o : Octets) : o.asGroups.length = 2 := rfl

/-- The embedded IPv4 address is the last two groups. -/
theorem Groups.asGroups_embedded (g : Groups) : g.embedded.asGroups = g.toList.drop 6 := by
  obtain ⟨a, b, c, d, e, f, x, y, rfl⟩ := g.exists_eq
  have hx : (embedded #v[a, b, c, d, e, f, x, y]).upper = x := joinOctets_halves x
  have hy : (embedded #v[a, b, c, d, e, f, x, y]).lower = y := joinOctets_halves y
  rw [Octets.asGroups, hx, hy]
  rfl

/-- Groups that begin with zeros are these zeros and the rest. -/
theorem Groups.toList_of_zeros {g : Groups} {n : Nat} (hn : n ≤ 8)
    (h : (g.toList.take n).all (· == 0) = true) :
    g.toList = List.replicate n 0 ++ g.toList.drop n := by
  have hzeros : g.toList.take n = List.replicate n 0 := by
    rw [List.eq_replicate_iff, List.length_take, Vector.length_toList]
    exact ⟨Nat.min_eq_left hn, fun x hx => by simpa using List.all_eq_true.1 h x hx⟩
  rw [← hzeros, List.take_append_drop]

/-- Only the unspecified address has no group but zero. -/
theorem Groups.eq_zero_of_all {g : Groups} (h : g.toList.all (· == 0) = true) :
    g = #v[0, 0, 0, 0, 0, 0, 0, 0] := by
  apply Vector.toList_inj.1
  have hall : (g.toList.take 8).all (· == 0) = true := by
    rwa [List.take_of_length_le (by simp)]
  rw [toList_of_zeros (by decide) hall, List.drop_of_length_le (by simp)]
  rfl

/-- A compatible address is six zeros before the embedded one. -/
theorem Groups.toList_of_isCompatible {g : Groups} (h : g.isCompatible = true) :
    g.toList = List.replicate 6 0 ++ g.embedded.asGroups := by
  rw [asGroups_embedded]
  exact toList_of_zeros (by decide) h

/-- A mapped address is five zeros and a group of ones before the embedded one. -/
theorem Groups.toList_of_isMapped {g : Groups} (h : g.isMapped = true) :
    g.toList = List.replicate 5 0 ++ 0xffff :: g.embedded.asGroups := by
  simp only [isMapped, Bool.and_eq_true, beq_iff_eq] at h
  obtain ⟨hzeros, hones⟩ := h
  have hrest : g.toList.drop 5 = g[5] :: g.toList.drop 6 := by
    obtain ⟨a, b, c, d, e, f, x, y, rfl⟩ := g.exists_eq
    rfl
  rw [asGroups_embedded, ← hones, ← hrest]
  exact toList_of_zeros (by decide) hzeros

/-! ## Pieces -/

/-- Groups in hexadecimal, as tokens. -/
def hexTokens (gs : List UInt16) : List (List Char) := gs.map fun g => Text.hexadecimal g.toNat

theorem length_hexadecimal_le (g : UInt16) : (Text.hexadecimal g.toNat).length ≤ 4 :=
  (Nat.length_toDigits_le_iff (by decide) (by decide)).2 g.toNat_lt

/-- The text of a group is a group of the grammar. -/
theorem isHexGroup_hexadecimal (g : UInt16) : IsHexGroup (Text.hexadecimal g.toNat) g where
  ne_nil := Nat.toDigits_ne_nil
  length_le := length_hexadecimal_le g
  isDigit _ hc := Text.isDigit_of_mem_toDigits (by decide) (by decide) hc
  value_eq := Text.numeralValue_toDigits (by decide) (by decide)

/-- The texts of groups spell the groups, whether an address may be embedded at the end or not. -/
theorem spelled_hexTokens (embeds : Bool) (gs : List UInt16) :
    Spelled embeds (hexTokens gs) gs := by
  induction gs with
  | nil => exact .nil
  | cons g gs ih => exact .group (isHexGroup_hexadecimal g) ih

/-- The pieces of several groups are their texts with colons between them. -/
theorem toList_join_groupPieces (gs : List UInt16) :
    (String.join (groupPieces gs)).toList = colonJoin (hexTokens gs) := by
  have hjoin := Text.toList_join_intersperse ':' (hexTokens gs)
  rwa [hexTokens, List.map_map] at hjoin

/-- The pieces of an IPv4 address make its dotted text. -/
theorem Octets.toList_join_pieces (o : Octets) : (String.join o.pieces).toList = o.dotted := by
  have hjoin := Text.toList_join_intersperse '.' (o.toList.map fun b => Text.decimal b.toNat)
  rwa [List.map_map] at hjoin

/-- The shapes of canonical IPv6 text. No groups and `::1` are what is left when a run of eight or
of seven zeros is left out. -/
inductive Groups.Canonical (g : Groups) : List Char → Prop
  | full : g.Canonical (colonJoin (hexTokens g.toList))
  | run {i n : Nat} (h : IsZeroRun g.toList (i, n)) :
      g.Canonical (elide (hexTokens (g.toList.take i)) (hexTokens (g.toList.drop (i + n))))
  | compatible (h : g.isCompatible = true) : g.Canonical (elide [] [g.embedded.dotted])
  | mapped (h : g.isMapped = true) :
      g.Canonical (elide [] [['f', 'f', 'f', 'f'], g.embedded.dotted])

/-- The pieces of an IPv6 address make its canonical text, whichever shape that has. -/
theorem Groups.canonical_pieces (g : Groups) : g.Canonical (String.join g.pieces).toList := by
  unfold pieces
  -- `::` and `::1` come first, though they are compatible addresses as well
  split
  · next hzero =>
    -- the whole address is one run
    obtain rfl := eq_zero_of_all hzero
    exact .run (i := 0) (n := 8) ⟨by decide, rfl⟩
  · split
    · next hone =>
      -- all groups but the last are one run
      subst hone
      exact .run (i := 0) (n := 7) ⟨by decide, rfl⟩
    · split
      · next hcompatible =>
        have hcs : elide [] [g.embedded.dotted] = "::".toList ++ g.embedded.dotted := by
          simp [elide, colonJoin]
        rw [String.join_cons, String.toList_append, g.embedded.toList_join_pieces, ← hcs]
        exact .compatible hcompatible
      · split
        · next hmapped =>
          have hcs : elide [] [['f', 'f', 'f', 'f'], g.embedded.dotted] =
              "::ffff:".toList ++ g.embedded.dotted := by
            simp [elide, colonJoin, List.intercalate_cons_cons]
          rw [String.join_cons, String.toList_append, g.embedded.toList_join_pieces, ← hcs]
          exact .mapped hmapped
        · split
          · next i n hrun =>
            -- the groups before the run, the gap, and the groups after it
            rw [String.join_append, String.join_cons, String.toList_append, String.toList_append,
              toList_join_groupPieces, toList_join_groupPieces]
            exact .run (isZeroRun_of_longestZeroRun g.toList (i, n) hrun)
          · rw [toList_join_groupPieces]
            exact .full

/-- A run of zeros and the groups around it are all the groups. -/
theorem IsZeroRun.length_add {g : Groups} {i n : Nat} (h : IsZeroRun g.toList (i, n)) :
    (g.toList.take i).length + (g.toList.drop (i + n)).length + n = 8 := by
  have hlength := congrArg List.length (take_append_zeros_append_drop g.toList i)
  have hn : n = zerosFrom g.toList i := h.2
  rw [← hn, List.length_append, List.length_append, List.length_replicate, Vector.length_toList]
    at hlength
  omega

/-- The canonical shapes belong to the grammar. -/
theorem Groups.Canonical.writtenAs {g : Groups} {cs : List Char} (h : g.Canonical cs) :
    g.WrittenAs cs := by
  have hembedded : Spelled true [g.embedded.dotted] g.embedded.asGroups :=
    .embedded rfl (readOctets_dotted g.embedded)
  cases h with
  | full => exact .full (spelled_hexTokens true g.toList)
  | @run i n h =>
    -- the gap is read as as many zeros as are missing, which are the ones of the run
    have htwo : 2 ≤ n := h.1
    have hn : n = zerosFrom g.toList i := h.2
    have hlength := h.length_add
    have hcount : 8 - ((g.toList.take i).length + (g.toList.drop (i + n)).length) = n := by omega
    refine .elided (spelled_hexTokens false _) (spelled_hexTokens true _) (by omega) ?_
    rw [hcount, hn, take_append_zeros_append_drop]
  | compatible h => exact .elided .nil hembedded (by simp) (toList_of_isCompatible h)
  | mapped h =>
    have hffff : IsHexGroup ['f', 'f', 'f', 'f'] 0xffff := isHexGroup_hexadecimal 0xffff
    exact .elided .nil (.group hffff hembedded) (by simp) (toList_of_isMapped h)

/-! ## Characters -/

/-- The characters of address text: hexadecimal digits in lower case, and the marks between numbers. -/
def IsTextChar (c : Char) : Prop := (∃ d < 16, c = d.digitChar) ∨ c = '.' ∨ c = ':'

/-- The digits of a numeral occur in the texts of addresses. -/
theorem isTextChar_of_mem_toDigits {base n : Nat} (hbase : 1 < base) (hle : base ≤ 16) {c : Char}
    (h : c ∈ Nat.toDigits base n) : IsTextChar c := by
  obtain ⟨d, hd, rfl⟩ := Text.mem_toDigits hbase h
  exact .inl ⟨d, Nat.lt_of_lt_of_le hd hle, rfl⟩

/-- What is true of all sixteen digits and of both marks is true of the characters of address text. -/
theorem IsTextChar.elim {P : Char → Prop} (hdigit : ∀ d < 16, P d.digitChar) (hdot : P '.')
    (hcolon : P ':') {c : Char} (h : IsTextChar c) : P c := by
  rcases h with ⟨d, hd, rfl⟩ | rfl | rfl
  · exact hdigit d hd
  · exact hdot
  · exact hcolon

theorem IsTextChar.isAscii {c : Char} (h : IsTextChar c) : Text.IsAscii c :=
  h.elim (by decide) (by decide) (by decide)

/-- A dotted text holds digits and dots. -/
theorem isTextChar_dotted (o : Octets) : ∀ c ∈ o.dotted, IsTextChar c := by
  intro c hc
  rcases Text.mem_of_mem_intercalate hc with rfl | ⟨t, ht, hct⟩
  · exact .inr (.inl rfl)
  · obtain ⟨b, -, rfl⟩ := List.mem_map.1 ht
    exact isTextChar_of_mem_toDigits (by decide) (by decide) hct

theorem isTextChar_colonJoin {ts : List (List Char)} (h : ∀ t ∈ ts, ∀ c ∈ t, IsTextChar c) :
    ∀ c ∈ colonJoin ts, IsTextChar c := by
  intro c hc
  rcases Text.mem_of_mem_intercalate hc with rfl | ⟨t, ht, hct⟩
  · exact .inr (.inr rfl)
  · exact h t ht c hct

theorem isTextChar_elide {L R : List (List Char)} (hL : ∀ t ∈ L, ∀ c ∈ t, IsTextChar c)
    (hR : ∀ t ∈ R, ∀ c ∈ t, IsTextChar c) : ∀ c ∈ elide L R, IsTextChar c := by
  intro c hc
  simp only [elide, List.mem_append, List.mem_cons] at hc
  rcases hc with hc | rfl | rfl | hc
  · exact isTextChar_colonJoin hL c hc
  · exact .inr (.inr rfl)
  · exact .inr (.inr rfl)
  · exact isTextChar_colonJoin hR c hc

theorem isTextChar_hexTokens (gs : List UInt16) : ∀ t ∈ hexTokens gs, ∀ c ∈ t, IsTextChar c := by
  intro t ht c hc
  obtain ⟨g, -, rfl⟩ := List.mem_map.1 ht
  exact isTextChar_of_mem_toDigits (by decide) (by decide) hc

/-- A canonical text holds digits, dots and colons. -/
theorem Groups.Canonical.isTextChar {g : Groups} {cs : List Char} (h : g.Canonical cs) :
    ∀ c ∈ cs, IsTextChar c := by
  have hdotted : ∀ t ∈ [g.embedded.dotted], ∀ c ∈ t, IsTextChar c := by
    simpa using isTextChar_dotted g.embedded
  cases h with
  | full => exact isTextChar_colonJoin (isTextChar_hexTokens _)
  | run h => exact isTextChar_elide (isTextChar_hexTokens _) (isTextChar_hexTokens _)
  | compatible h => exact isTextChar_elide (by simp) hdotted
  | mapped h =>
    have hf : IsTextChar 'f' := .inl ⟨15, by decide, rfl⟩
    have hffff : ∀ c ∈ ['f', 'f', 'f', 'f'], IsTextChar c := by simpa using hf
    exact isTextChar_elide (by simp) (List.forall_mem_cons.2 ⟨hffff, hdotted⟩)

/-! ## Size -/

/-- Four octets of three digits, and three dots. -/
theorem length_dotted_le (o : Octets) : o.dotted.length ≤ 15 := by
  have hlt : o.dotted.length < (o.toList.map fun b => Text.decimal b.toNat).length * (3 + 1) := by
    refine Text.length_intercalate_lt (by simp) fun t ht => ?_
    obtain ⟨b, -, rfl⟩ := List.mem_map.1 ht
    have hb : b.toNat < 10 ^ 3 := Nat.lt_trans b.toNat_lt (by decide)
    exact (Nat.length_toDigits_le_iff (by decide) (by decide)).2 hb
  rw [List.length_map, Vector.length_toList] at hlt
  omega

/-- Each group takes four digits and a colon at most, and the last has no colon. -/
theorem length_colonJoin_hexTokens_le (gs : List UInt16) :
    (colonJoin (hexTokens gs)).length ≤ gs.length * 5 - 1 := by
  by_cases hgs : gs = []
  · -- no groups, no colons
    subst hgs
    exact Nat.le_refl _
  · have hlt : (colonJoin (hexTokens gs)).length < (hexTokens gs).length * (4 + 1) := by
      refine Text.length_intercalate_lt (by simpa [hexTokens] using hgs) fun t ht => ?_
      obtain ⟨g, -, rfl⟩ := List.mem_map.1 ht
      exact length_hexadecimal_le g
    rw [show (hexTokens gs).length = gs.length from List.length_map _] at hlt
    omega

theorem length_elide (L R : List (List Char)) :
    (elide L R).length = (colonJoin L).length + 2 + (colonJoin R).length := by
  rw [elide, List.length_append, List.length_cons, List.length_cons]
  omega

/-- No canonical text is longer than eight groups of four digits. -/
theorem Groups.Canonical.length_le {g : Groups} {cs : List Char} (h : g.Canonical cs) :
    cs.length ≤ 39 := by
  have hdotted := length_dotted_le g.embedded
  cases h with
  | full =>
    have hle := length_colonJoin_hexTokens_le g.toList
    rwa [Vector.length_toList] at hle
  | @run i n h =>
    -- two groups at least are left out, which makes room for both colons
    have htwo : 2 ≤ n := h.1
    have hlength := h.length_add
    have hL := length_colonJoin_hexTokens_le (g.toList.take i)
    have hR := length_colonJoin_hexTokens_le (g.toList.drop (i + n))
    rw [length_elide]
    omega
  | compatible h =>
    rw [length_elide, colonJoin, colonJoin, List.intercalate_singleton, List.intercalate_nil,
      List.length_nil]
    omega
  | mapped h =>
    rw [length_elide, colonJoin, colonJoin, List.intercalate_cons_cons,
      List.intercalate_singleton, List.intercalate_nil]
    simp only [List.length_append, List.length_cons, List.length_nil]
    omega

namespace IpAddress

/-- All that is written for an address takes one byte a character, and never more than 39 bytes. -/
theorem pieces_size (a : IpAddress) :
    (∀ c ∈ (String.join a.pieces).toList, Text.IsAscii c) ∧
      (String.join a.pieces).toList.length ≤ 39 := by
  cases a with
  | none =>
    have htext : (String.join none.pieces).toList = "Invalid IP".toList := rfl
    rw [htext]
    exact ⟨by simp [Text.IsAscii], by decide⟩
  | v4 o =>
    have htext : (String.join (v4 o).pieces).toList = o.dotted := o.toList_join_pieces
    have hle := length_dotted_le o
    rw [htext]
    exact ⟨fun c hc => (isTextChar_dotted o c hc).isAscii, by omega⟩
  | v6 g =>
    have hcanonical : g.Canonical (String.join (v6 g).pieces).toList := g.canonical_pieces
    exact ⟨fun c hc => (hcanonical.isTextChar c hc).isAscii, hcanonical.length_le⟩

/-- The canonical text is the pieces one after another. -/
theorem text_eq_join (a : IpAddress) : a.text = String.join a.pieces := by
  obtain ⟨hascii, hlength⟩ := a.pieces_size
  have hfits : (String.join a.pieces).utf8ByteSize ≤ textCapacity := by
    rw [← String.ofList_toList (s := String.join a.pieces), Text.utf8ByteSize_of_forall hascii]
    exact Nat.le_succ_of_le hlength
  obtain ⟨b, hb, hholds⟩ := Text.Buffer.exists_writeAll_empty hfits
  rw [text, rendered, hb, Option.map_some, Option.getD_some, hholds.contents_eq]

theorem toList_text_v4 (o : Octets) : (v4 o).text.toList = o.dotted := by
  rw [text_eq_join]
  exact o.toList_join_pieces

/-- The text of an IPv6 address is canonical. -/
theorem canonical_text (g : Groups) : g.Canonical (v6 g).text.toList := by
  rw [text_eq_join]
  exact g.canonical_pieces

/-- The text of a valid address holds digits, dots and colons only. -/
theorem isTextChar_text {a : IpAddress} (ha : a.isValid = true) :
    ∀ c ∈ a.text.toList, IsTextChar c := by
  cases a with
  | none => cases ha
  | v4 o =>
    rw [toList_text_v4]
    exact isTextChar_dotted o
  | v6 g => exact (canonical_text g).isTextChar

/-! ## Reading back -/

/-- IPv4 text is read as IPv4, since it has no colon. -/
theorem parse_of_readOctets {s : String} {o : Octets} (h : readOctets s.toList = .ok o) :
    parse s = .ok (.v4 o) := by
  have hcolon : ¬ s.toList.contains ':' = true := by simpa using colon_not_mem_of_readOctets h
  rw [parse, ofChars, if_neg hcolon, h]
  rfl

/-- Whatever an IPv6 address may be written as is read as that address. -/
theorem parse_of_writtenAs {s : String} {g : Groups} (h : g.WrittenAs s.toList) :
    parse s = .ok (.v6 g) := by
  have hcolon : s.toList.contains ':' = true := by simpa using h.colon_mem
  rw [parse, ofChars, if_pos hcolon, readGroups_of_writtenAs h]
  rfl

/-- An IPv4 address is read back from its text. -/
theorem parse_text_v4 (o : Octets) : parse (v4 o).text = .ok (.v4 o) := by
  apply parse_of_readOctets
  rw [toList_text_v4]
  exact readOctets_dotted o

/-- An IPv6 address is read back from its text. -/
theorem parse_text_v6 (g : Groups) : parse (v6 g).text = .ok (.v6 g) := by
  apply parse_of_writtenAs
  exact (canonical_text g).writtenAs

/-- The canonical text of every valid address reads back as this address, so that no other valid
address has the same text. -/
theorem valid_text_round_trip {a : IpAddress} (ha : a.isValid = true) :
    parse a.text = .ok a ∧ ∀ b : IpAddress, b.isValid = true → b.text = a.text → b = a := by
  have hparse : ∀ b : IpAddress, b.isValid = true → parse b.text = .ok b := by
    intro b hb
    cases b with
    | none => cases hb
    | v4 o => exact parse_text_v4 o
    | v6 g => exact parse_text_v6 g
  refine ⟨hparse a ha, fun b hb htext => ?_⟩
  have hab := hparse b hb
  rw [htext, hparse a ha] at hab
  exact (Except.ok.inj hab).symm

/-- An address with two runs of zeros, of which the longer one is elided. -/
theorem valid_text_round_trip_elided :
    (v6 #v[0x2001, 0xdb8, 0, 0, 1, 0, 0, 0]).isValid = true ∧
      parse (v6 #v[0x2001, 0xdb8, 0, 0, 1, 0, 0, 0]).text =
        .ok (v6 #v[0x2001, 0xdb8, 0, 0, 1, 0, 0, 0]) ∧
      ∀ b : IpAddress, b.isValid = true →
        b.text = (v6 #v[0x2001, 0xdb8, 0, 0, 1, 0, 0, 0]).text →
        b = v6 #v[0x2001, 0xdb8, 0, 0, 1, 0, 0, 0] :=
  ⟨rfl, valid_text_round_trip rfl⟩

end IpAddress
end LinkWatch
