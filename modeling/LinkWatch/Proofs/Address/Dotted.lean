import LinkWatch.Proofs.Address.Position
import Mathlib.Data.List.Forall2

/-!
# The grammar of IPv4 text

What is read as IPv4, said without the reader: a text whose pieces between the dots are four octets
(`Octets.WrittenAs`). An octet is a decimal, hexadecimal or binary numeral of any length that denotes a
number up to 255, with blanks around it (`IsOctet`). A text without a colon is read as an address
exactly if it is such a text of it (`parse_dotted_text`).
-/

namespace LinkWatch

/-! ## Octets -/

/-- A numeral of an octet, with a mark of its base in front unless it is decimal. -/
inductive IsOctetNumeral (b : UInt8) : List Char → Prop
  | decimal {cs : List Char} (h : Text.IsNumeral 10 cs b.toNat) : IsOctetNumeral b cs
  | hexadecimal {x : Char} {cs : List Char} (hx : x = 'x' ∨ x = 'X')
      (h : Text.IsNumeral 16 cs b.toNat) : IsOctetNumeral b ('0' :: x :: cs)
  | binary {cs : List Char} (h : Text.IsNumeral 2 cs b.toNat) : IsOctetNumeral b ('0' :: 'b' :: cs)

/-- A numeral of an octet between blanks. -/
def IsOctet (t : List Char) (b : UInt8) : Prop :=
  ∃ l cs r, t = l ++ cs ++ r ∧ (∀ c ∈ l, Text.isBlank c = true) ∧
    (∀ c ∈ r, Text.isBlank c = true) ∧ IsOctetNumeral b cs

namespace IsOctetNumeral

variable {b : UInt8} {cs : List Char}

/-- The numerals of an octet are told apart by their marks. -/
theorem iff_isNumeral_splitBase :
    IsOctetNumeral b cs ↔ Text.IsNumeral (splitBase cs).1 (splitBase cs).2 b.toNat := by
  constructor
  · intro h
    cases h with
    | decimal h =>
      rw [splitBase_of_forall h.isDigit]
      exact h
    | hexadecimal hx h =>
      rcases hx with rfl | rfl
      · exact h
      · exact h
    | binary h => exact h
  · intro h
    unfold splitBase at h
    split at h
    · exact .hexadecimal (.inl rfl) h
    · exact .hexadecimal (.inr rfl) h
    · exact .binary h
    · exact .decimal h

/-- Digits and marks are no blanks. -/
theorem isBlank_eq_false (h : IsOctetNumeral b cs) : ∀ c ∈ cs, Text.isBlank c = false := by
  cases h with
  | decimal h =>
    intro c hc
    exact Text.isBlank_of_isDigit (h.isDigit c hc)
  | @hexadecimal x cs hx h =>
    have hdigits : ∀ c ∈ cs, Text.isBlank c = false := fun c hc =>
      Text.isBlank_of_isDigit (h.isDigit c hc)
    have hmark : Text.isBlank x = false := by rcases hx with rfl | rfl <;> decide
    exact List.forall_mem_cons.2 ⟨by decide, List.forall_mem_cons.2 ⟨hmark, hdigits⟩⟩
  | @binary cs h =>
    have hdigits : ∀ c ∈ cs, Text.isBlank c = false := fun c hc =>
      Text.isBlank_of_isDigit (h.isDigit c hc)
    exact List.forall_mem_cons.2 ⟨by decide, List.forall_mem_cons.2 ⟨by decide, hdigits⟩⟩

end IsOctetNumeral

/-- A token is an octet if a numeral of it is left when blanks are trimmed. -/
theorem isOctet_iff_trim {t : List Char} {b : UInt8} :
    IsOctet t b ↔ IsOctetNumeral b (Text.trim t) := by
  constructor
  · rintro ⟨l, cs, r, rfl, hl, hr, hcs⟩
    rwa [Text.trim_of_blanks hl hcs.isBlank_eq_false hr]
  · intro h
    obtain ⟨l, r, ht, hl, hr⟩ := Text.exists_blanks_trim t
    exact ⟨l, Text.trim t, r, ht, hl, hr, h⟩

theorem readOctet_eq_some_iff {t : List Char} {b : UInt8} : readOctet t = some b ↔ IsOctet t b := by
  rw [isOctet_iff_trim, IsOctetNumeral.iff_isNumeral_splitBase, ← Text.readNumeral_eq_some_iff]
  show ((Text.readNumeral (splitBase (Text.trim t)).1 (splitBase (Text.trim t)).2).filter
    (· ≤ 255)).map UInt8.ofNat = some b ↔ _
  rw [Option.map_eq_some_iff]
  constructor
  · -- a number that passes the bound is kept as it is
    rintro ⟨n, hn, rfl⟩
    obtain ⟨hread, hle⟩ := Option.filter_eq_some_iff.1 hn
    have hlt : n < 256 := Nat.lt_succ_of_le (of_decide_eq_true hle)
    rw [hread, UInt8.toNat_ofNat_of_lt' hlt]
  · intro hread
    have hle : b.toNat ≤ 255 := Nat.le_of_lt_succ b.toNat_lt
    exact ⟨b.toNat, Option.filter_eq_some_iff.2 ⟨hread, decide_eq_true hle⟩, UInt8.ofNat_toNat⟩

/-! ## Four of them -/

/-- As many tokens are read as there are octets, each of which is one. -/
theorem readOctetTokens_eq_ok_iff {n : Nat} {ts : List (List Char)} {bs : List UInt8} :
    readOctetTokens n ts = .ok bs ↔ List.Forall₂ IsOctet ts bs ∧ bs.length = n := by
  induction n generalizing ts bs with
  | zero =>
    -- tokens that are left over are refused
    cases ts with
    | nil =>
      rw [readOctetTokens, Except.ok.injEq, List.forall₂_nil_left_iff, List.length_eq_zero_iff]
      constructor
      · rintro rfl
        exact ⟨rfl, rfl⟩
      · rintro ⟨rfl, -⟩
        rfl
    | cons t ts =>
      constructor
      · intro h
        cases h
      · rintro ⟨h, hlength⟩
        rw [List.length_eq_zero_iff] at hlength
        subst hlength
        cases h
  | succ n ih =>
    -- and so are too few
    cases ts with
    | nil =>
      constructor
      · intro h
        cases h
      · rintro ⟨h, hlength⟩
        cases h
        cases hlength
    | cons t ts =>
      constructor
      · intro h
        rw [readOctetTokens] at h
        split at h
        · cases h
        · next b hb =>
          obtain ⟨bs', hts, rfl⟩ := Outcome.map_eq_ok_iff.1 h
          obtain ⟨hforall, hlength⟩ := ih.1 hts
          exact ⟨.cons (readOctet_eq_some_iff.1 hb) hforall, by rw [List.length_cons, hlength]⟩
      · rintro ⟨h, hlength⟩
        cases h with
        | cons hb hrest =>
          have hts := ih.2 ⟨hrest, Nat.succ.inj hlength⟩
          rw [readOctetTokens, readOctet_eq_some_iff.2 hb]
          exact Outcome.map_eq_ok_iff.2 ⟨_, hts, rfl⟩

/-- The texts of octets: one octet in each of the four pieces between the dots. -/
def Octets.WrittenAs (o : Octets) (cs : List Char) : Prop :=
  List.Forall₂ IsOctet (cs.splitOn '.') o.toList

theorem readOctets_eq_ok_iff {cs : List Char} {o : Octets} :
    readOctets cs = .ok o ↔ o.WrittenAs cs := by
  have htokens : readOctetTokens 4 (cs.splitOn '.') = .ok o.toList ↔ o.WrittenAs cs := by
    rw [readOctetTokens_eq_ok_iff, Vector.length_toList]
    exact and_iff_left rfl
  rw [← htokens, readOctets]
  cases h : readOctetTokens 4 (cs.splitOn '.') with
  | error e => simp
  | ok bs =>
    obtain ⟨a, b, c, d, rfl⟩ := List.length_eq_four.1 (readOctetTokens_eq_ok_iff.1 h).2
    rw [Except.ok.injEq, Except.ok.injEq, ← Vector.toList_inj]
    exact Iff.rfl

namespace IpAddress

/-- A text without a colon is read as an address if it is a text of four octets that make up this
address, and only then. Any other is refused as a whole. By position the same is read, and no position
is out of range. -/
theorem parse_dotted_text {s : String} (hs : ':' ∉ s.toList) :
    (∀ a, parse s = .ok a ↔ ∃ o : Octets, a = .v4 o ∧ o.WrittenAs s.toList) ∧
      ((∀ o : Octets, ¬ o.WrittenAs s.toList) → ∃ flaw, parse s = .error (.malformed s flaw)) ∧
      ByPosition.readOctets s.toList =
        ByPosition.refusing ((readOctets s.toList).map (·.toList)) ∧
      ByPosition.readOctets s.toList ≠ .error .outOfRange := by
  have hcolon : ¬ s.toList.contains ':' = true := by simpa using hs
  have hparse : parse s = ((readOctets s.toList).map .v4).mapError (.malformed s) := by
    rw [parse, ofChars, if_neg hcolon]
  have hposition := ByPosition.readOctets_eq s.toList
  refine ⟨?_, ?_, hposition, ?_⟩
  · intro a
    rw [hparse]
    constructor
    · intro h
      cases hread : readOctets s.toList with
      | error flaw =>
        rw [hread] at h
        cases h
      | ok o =>
        rw [hread] at h
        cases h
        exact ⟨o, rfl, readOctets_eq_ok_iff.1 hread⟩
    · rintro ⟨o, rfl, ho⟩
      rw [readOctets_eq_ok_iff.2 ho]
      rfl
  · intro hnone
    rw [hparse]
    cases hread : readOctets s.toList with
    | error flaw => exact ⟨flaw, rfl⟩
    | ok o => exact absurd (readOctets_eq_ok_iff.1 hread) (hnone o)
  · rw [hposition]
    intro hrange
    cases hread : readOctets s.toList with
    | error flaw =>
      rw [hread] at hrange
      cases hrange
    | ok o =>
      rw [hread] at hrange
      cases hrange

/-- A text with blanks, prefixes and leading zeros is read, and it is one that the address may be
written as. -/
theorem parse_dotted_text_blanks :
    ':' ∉ "\u30000X00ff.0b0101 .0010. 7\t".toList ∧
      parse "\u30000X00ff.0b0101 .0010. 7\t" = .ok (.v4 #v[255, 5, 10, 7]) ∧
      Octets.WrittenAs #v[255, 5, 10, 7] "\u30000X00ff.0b0101 .0010. 7\t".toList ∧
      ((∀ o : Octets, ¬ o.WrittenAs "\u30000X00ff.0b0101 .0010. 7\t".toList) →
        ∃ flaw, parse "\u30000X00ff.0b0101 .0010. 7\t" =
          .error (.malformed "\u30000X00ff.0b0101 .0010. 7\t" flaw)) ∧
      ByPosition.readOctets "\u30000X00ff.0b0101 .0010. 7\t".toList =
        ByPosition.refusing
          ((readOctets "\u30000X00ff.0b0101 .0010. 7\t".toList).map (·.toList)) ∧
      ByPosition.readOctets "\u30000X00ff.0b0101 .0010. 7\t".toList ≠ .error .outOfRange := by
  have hcolon : ':' ∉ "\u30000X00ff.0b0101 .0010. 7\t".toList := by decide
  have hread : parse "\u30000X00ff.0b0101 .0010. 7\t" = .ok (.v4 #v[255, 5, 10, 7]) := rfl
  obtain ⟨haccepts, hrest⟩ := parse_dotted_text hcolon
  obtain ⟨o, ho, hwritten⟩ := (haccepts _).1 hread
  cases ho
  exact ⟨hcolon, hread, hwritten, hrest⟩

end IpAddress
end LinkWatch
