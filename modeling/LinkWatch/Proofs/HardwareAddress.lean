import LinkWatch.HardwareAddress
import LinkWatch.Proofs.Outcome
import LinkWatch.Proofs.Text.Join
import LinkWatch.Proofs.Text.Numeral

/-!
# Texts of hardware addresses

The texts of an address are six pairs of hexadecimal digits with the separator between them, none of which
is the separator itself (`WrittenAs`). They are read as this address, and nothing else is
(`ofChars_eq_ok_iff`). What is written for an address is such a text unless the separator is one of the
digits that are written; then it is cut into too many pieces and refused (`text_round_trip`).
-/

namespace LinkWatch.HardwareAddress

/-! ## Pairs -/

/-- Two hexadecimal digits, of either case, and the byte that they stand for. -/
def IsPair (p : List Char) (b : UInt8) : Prop := p.length = 2 ∧ Text.IsNumeral 16 p b.toNat

/-- Two hexadecimal digits and nothing else are read as a byte. -/
theorem readPair_eq_some_iff {p : List Char} {b : UInt8} : readPair p = some b ↔ IsPair p b := by
  rw [readPair]
  constructor
  · intro h
    split at h
    · next hlength =>
      obtain ⟨n, hn, rfl⟩ := Option.map_eq_some_iff.1 h
      have hnumeral := Text.readNumeral_eq_some_iff.1 hn
      -- two digits do not reach beyond a byte
      have hlt : n < 256 := by
        have hvalue := Text.numeralValue_lt hnumeral.isDigit
        rwa [hnumeral.value_eq, hlength] at hvalue
      refine ⟨hlength, ?_⟩
      rwa [UInt8.toNat_ofNat_of_lt' hlt]
    · cases h
  · rintro ⟨hlength, hnumeral⟩
    rw [if_pos hlength, Text.readNumeral_eq_some_iff.2 hnumeral, Option.map_some,
      UInt8.ofNat_toNat]

/-- The text of a byte is one of its pairs, in either case. -/
theorem isPair_hexPair (upper : Bool) (b : UInt8) : IsPair (Text.hexPair upper b) b :=
  ⟨rfl, Text.isNumeral_hexPair upper b⟩

theorem IsPair.isAscii {p : List Char} {b : UInt8} (h : IsPair p b) : ∀ c ∈ p, c.toNat < 128 := by
  intro c hc
  have hrange := Text.toNat_of_isDigit (h.2.isDigit c hc)
  omega

/-- A hardware address is six bytes. -/
theorem exists_eq (m : HardwareAddress) : ∃ a b c d e f, m = ofSix a b c d e f := by
  obtain ⟨⟨⟨l⟩, hl⟩⟩ := m
  match l, hl with
  | [a, b, c, d, e, f], _ => exact ⟨a, b, c, d, e, f, rfl⟩

/-- Six pairs are read, one for each byte. -/
theorem ofPairs_eq_ok_iff {ps : List (List Char)} {m : HardwareAddress} :
    ofPairs ps = .ok m ↔ List.Forall₂ IsPair ps m.bytes.toList := by
  constructor
  · intro h
    unfold ofPairs at h
    split at h
    · split at h
      · next ha hb hc hd he hf =>
        cases h
        rw [readPair_eq_some_iff] at ha hb hc hd he hf
        exact .cons ha (.cons hb (.cons hc (.cons hd (.cons he (.cons hf .nil)))))
      · cases h
    · cases h
  · intro h
    obtain ⟨a, b, c, d, e, f, rfl⟩ := m.exists_eq
    -- six pairs for six bytes, neither more nor fewer
    rcases h with _ | ⟨ha, _ | ⟨hb, _ | ⟨hc, _ | ⟨hd, _ | ⟨he, _ | ⟨hf, _ | _⟩⟩⟩⟩⟩⟩
    rw [← readPair_eq_some_iff] at ha hb hc hd he hf
    simp only [ofPairs, ha, hb, hc, hd, he, hf]

/-- The number of pairs is looked at before any pair is read. -/
theorem ofPairs_of_length_ne {ps : List (List Char)} (h : ps.length ≠ 6) :
    ofPairs ps = .error .pairCount := by
  unfold ofPairs
  split
  · exact absurd rfl h
  · rfl

/-! ## Cutting without a separator -/

theorem flatten_cutPairs (cs : List Char) : (cutPairs cs).flatten = cs := by
  fun_induction cutPairs cs with
  | case1 a b r ih => rw [List.flatten_cons, ih, List.cons_append, List.singleton_append]
  | case2 a => rfl
  | case3 => rfl

/-- Pairs that are written without a separator are found again. -/
theorem cutPairs_flatten {ps : List (List Char)} (h : ∀ p ∈ ps, p.length = 2) :
    cutPairs ps.flatten = ps := by
  induction ps with
  | nil => rfl
  | cons p ps ih =>
    obtain ⟨a, b, rfl⟩ := List.length_eq_two.1 (h p List.mem_cons_self)
    rw [List.flatten_cons, List.cons_append, List.singleton_append, cutPairs,
      ih fun q hq => h q (List.mem_cons_of_mem _ hq)]

theorem length_flatten {ps : List (List Char)} (h : ∀ p ∈ ps, p.length = 2) :
    ps.flatten.length = 2 * ps.length := by
  induction ps with
  | nil => rfl
  | cons p ps ih =>
    have hp := h p List.mem_cons_self
    have hps := ih fun q hq => h q (List.mem_cons_of_mem _ hq)
    rw [List.flatten_cons, List.length_append, List.length_cons]
    omega

/-! ## Texts of an address -/

/-- Six pairs with the separator between them, no digit of which is the separator. -/
def WrittenAs (m : HardwareAddress) (separator : Option Char) (cs : List Char) : Prop :=
  ∃ ps, List.Forall₂ IsPair ps m.bytes.toList ∧ (∀ p ∈ ps, ∀ c ∈ p, separator ≠ some c) ∧
    cs = separator.toList.intercalate ps

theorem length_of_forall₂ {ps : List (List Char)} {m : HardwareAddress}
    (h : List.Forall₂ IsPair ps m.bytes.toList) : ps.length = 6 := by
  rw [h.length_eq, Vector.length_toList]

theorem exists_isPair_of_mem {ps : List (List Char)} {bs : List UInt8}
    (h : List.Forall₂ IsPair ps bs) {p : List Char} (hp : p ∈ ps) : ∃ b, IsPair p b := by
  induction h with
  | nil => cases hp
  | cons hpair _ ih =>
    rcases List.mem_cons.1 hp with rfl | hp
    · exact ⟨_, hpair⟩
    · exact ih hp

/-- Twelve digits are six pairs one after another. -/
theorem ofChars_none_eq_ok_iff {cs : List Char} {m : HardwareAddress} :
    ofChars none cs = .ok m ↔ m.WrittenAs none cs := by
  have hchars : ∀ ds : List Char, ofChars none ds =
      if ds.length = 12 && ds.all (·.toNat < 128) then ofPairs (cutPairs ds)
      else .error .compactLength := fun _ => rfl
  rw [hchars]
  constructor
  · intro h
    split at h
    · refine ⟨cutPairs cs, ofPairs_eq_ok_iff.1 h, nofun, ?_⟩
      exact ((Text.nil_intercalate _).trans (flatten_cutPairs cs)).symm
    · cases h
  · -- six pairs of digits have the length and the characters that are asked for
    rintro ⟨ps, hps, -, rfl⟩
    have hpair : ∀ p ∈ ps, ∃ b, IsPair p b := fun p hp => exists_isPair_of_mem hps hp
    have htwo : ∀ p ∈ ps, p.length = 2 := by
      intro p hp
      obtain ⟨b, hb⟩ := hpair p hp
      exact hb.1
    have hascii : ∀ c ∈ ps.flatten, c.toNat < 128 := by
      intro c hc
      obtain ⟨p, hp, hcp⟩ := List.mem_flatten.1 hc
      obtain ⟨b, hb⟩ := hpair p hp
      exact hb.isAscii c hcp
    have hlength : ps.flatten.length = 12 := by
      rw [length_flatten htwo, length_of_forall₂ hps]
    have hguard : (ps.flatten.length = 12 && ps.flatten.all (·.toNat < 128)) = true := by
      rw [hlength, Bool.and_eq_true, List.all_eq_true]
      exact ⟨rfl, fun c hc => decide_eq_true (hascii c hc)⟩
    have hcs : Option.none.toList.intercalate ps = ps.flatten := Text.nil_intercalate ps
    rw [hcs, if_pos hguard, cutPairs_flatten htwo]
    exact ofPairs_eq_ok_iff.2 hps

/-- With a separator, a text is read if it is six pairs with the separator between them. -/
theorem ofChars_some_eq_ok_iff {s : Char} {cs : List Char} {m : HardwareAddress} :
    ofChars (some s) cs = .ok m ↔ m.WrittenAs (some s) cs := by
  rw [ofChars, ofPairs_eq_ok_iff]
  constructor
  · intro h
    obtain ⟨hpieces, hcs⟩ := (Text.splitOn_eq_iff (List.splitOn_ne_nil s cs)).1 rfl
    refine ⟨cs.splitOn s, h, ?_, hcs⟩
    rintro p hp c hc heq
    cases heq
    exact hpieces p hp hc
  · rintro ⟨ps, hps, hdigits, hcs⟩
    have hne : ps ≠ [] := by
      rintro rfl
      cases length_of_forall₂ hps
    have hpieces : ∀ p ∈ ps, s ∉ p := fun p hp hs => hdigits p hp s hs rfl
    rwa [(Text.splitOn_eq_iff hne).2 ⟨hpieces, hcs⟩]

/-- A text is read as an address if and only if it is one of the texts of that address. -/
theorem ofChars_eq_ok_iff {separator : Option Char} {cs : List Char} {m : HardwareAddress} :
    ofChars separator cs = .ok m ↔ m.WrittenAs separator cs := by
  cases separator with
  | none => exact ofChars_none_eq_ok_iff
  | some s => exact ofChars_some_eq_ok_iff

/-- The strings that are read, and what they are read as. -/
theorem parse_eq_ok_iff {t : String} {separator : Option Char} {m : HardwareAddress} :
    parse t separator = .ok m ↔ m.WrittenAs separator t.toList := by
  rw [parse, Outcome.mapError_eq_ok_iff]
  exact ofChars_eq_ok_iff

/-! ## What is written -/

/-- The pairs that are written for an address. -/
def pairs (m : HardwareAddress) (upper : Bool) : List (List Char) :=
  m.bytes.toList.map (Text.hexPair upper)

/-- A rendered address is its pairs with the separator between them. -/
theorem toList_format (m : HardwareAddress) (upper : Bool) (separator : Option Char) :
    (m.format upper separator).toList = separator.toList.intercalate (m.pairs upper) :=
  String.toList_ofList

/-- The pairs that are rendered are pairs of the bytes. -/
theorem forall₂_pairs (m : HardwareAddress) (upper : Bool) :
    List.Forall₂ IsPair (m.pairs upper) m.bytes.toList := by
  rw [pairs, List.forall₂_map_left_iff, List.forall₂_same]
  intro b _
  exact isPair_hexPair upper b

/-- Without a separator, the digits are all that is written. -/
theorem toList_format_none (m : HardwareAddress) (upper : Bool) :
    (m.format upper none).toList = (m.pairs upper).flatten := by
  rw [toList_format]
  exact Text.nil_intercalate _

/-- A rendered address is a text of the address if the separator is none of its digits. -/
theorem writtenAs_format {m : HardwareAddress} {upper : Bool} {separator : Option Char}
    (h : ∀ c ∈ (m.format upper none).toList, separator ≠ some c) :
    m.WrittenAs separator (m.format upper separator).toList := by
  refine ⟨m.pairs upper, m.forall₂_pairs upper, ?_, m.toList_format upper separator⟩
  intro p hp c hc
  apply h
  rw [toList_format_none]
  exact List.mem_flatten.2 ⟨p, hp, hc⟩

/-- A separator among the digits cuts the text once more. -/
theorem parse_format_of_mem {m : HardwareAddress} {upper : Bool} {s : Char}
    (h : s ∈ (m.format upper none).toList) :
    parse (m.format upper (some s)) (some s) =
      .error (.malformed (m.format upper (some s)) .pairCount) := by
  have hsix : (m.pairs upper).length = 6 := length_of_forall₂ (m.forall₂_pairs upper)
  have hne : m.pairs upper ≠ [] := by
    intro hnil
    rw [hnil] at hsix
    cases hsix
  have hdigit : 0 < (m.pairs upper).flatten.count s := by
    rw [toList_format_none] at h
    exact List.count_pos_iff.2 h
  have hcount := Text.count_intercalate s hne
  have hpieces : ((m.format upper (some s)).toList.splitOn s).length ≠ 6 := by
    rw [Text.length_splitOn, toList_format]
    show ([s].intercalate (m.pairs upper)).count s + 1 ≠ 6
    omega
  rw [parse, ofChars, ofPairs_of_length_ne hpieces]
  rfl

/-- An address is read from its texts and from no others: from six pairs of hexadecimal digits with the
separator between them, none of which is the separator. What is written for an address is read as this
address, unless the separator is among the digits that are written: then it is refused. -/
theorem text_round_trip :
    (∀ (t : String) (separator : Option Char) (m : HardwareAddress),
      parse t separator = .ok m ↔ m.WrittenAs separator t.toList) ∧
    ∀ (m : HardwareAddress) (upper : Bool) (separator : Option Char),
      ((∀ c ∈ (m.format upper none).toList, separator ≠ some c) →
        parse (m.format upper separator) separator = .ok m) ∧
      ((∃ c ∈ (m.format upper none).toList, separator = some c) →
        parse (m.format upper separator) separator =
          .error (.malformed (m.format upper separator) .pairCount)) := by
  refine ⟨fun t separator m => parse_eq_ok_iff, ?_⟩
  intro m upper separator
  constructor
  · intro hnone
    exact parse_eq_ok_iff.2 (writtenAs_format hnone)
  · rintro ⟨c, hc, rfl⟩
    exact parse_format_of_mem hc

/-- Digits of the other case separate. -/
theorem text_round_trip_hex_separator :
    ((∀ c ∈ ((ofSix 0 27 44 61 78 175).format true none).toList, some 'a' ≠ some c) ∧
      parse ((ofSix 0 27 44 61 78 175).format true (some 'a')) (some 'a') =
        .ok (ofSix 0 27 44 61 78 175)) ∧
    ((∃ c ∈ ((ofSix 0 27 44 61 78 175).format true none).toList, some 'A' = some c) ∧
      parse ((ofSix 0 27 44 61 78 175).format true (some 'A')) (some 'A') =
        .error (.malformed ((ofSix 0 27 44 61 78 175).format true (some 'A')) .pairCount)) := by
  have hlower := text_round_trip.2 (ofSix 0 27 44 61 78 175) true (some 'a')
  have hupper := text_round_trip.2 (ofSix 0 27 44 61 78 175) true (some 'A')
  have hcase : 'a' ∉ ((ofSix 0 27 44 61 78 175).format true none).toList := by decide
  have habsent : ∀ c ∈ ((ofSix 0 27 44 61 78 175).format true none).toList, some 'a' ≠ some c := by
    intro c hc heq
    cases heq
    exact hcase hc
  have hpresent : ∃ c ∈ ((ofSix 0 27 44 61 78 175).format true none).toList,
      some 'A' = some c := ⟨'A', by decide, rfl⟩
  exact ⟨⟨habsent, hlower.1 habsent⟩, ⟨hpresent, hupper.2 hpresent⟩⟩

end LinkWatch.HardwareAddress
