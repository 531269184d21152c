import LinkWatch.Address.Embedding
import LinkWatch.Proofs.Address.Reading
import LinkWatch.Proofs.Address.Rendering

/-!
# IPv4 addresses inside IPv6

The addresses of an embedding are told by their first six groups (`Selects`), and the octets behind these
are found again (`embedded_ofOctets`), so that extracting undoes embedding and the other way round
(`extract_eq_ok_iff`). The text behind a `::` at the beginning spells the last groups of an address
(`readGroups_elide_iff`); where `::ffff:` is in front, it spells the octets of a mapped address exactly if
it is read as these octets by itself (`parse_mapped_iff`). So the embeddings, the reader and the writer
agree (`embeddings_agree`).
-/

namespace LinkWatch

/-! ## Groups -/

/-- The two octets of a group that was joined from them. -/
theorem halves_joinOctets (a b : UInt8) :
    UInt8.ofNat ((joinOctets a b).toNat / 256) = a ∧ UInt8.ofNat (joinOctets a b).toNat = b := by
  have ha : a.toNat < 256 := a.toNat_lt
  have hb : b.toNat < 256 := b.toNat_lt
  have hjoin : (joinOctets a b).toNat = a.toNat * 256 + b.toNat := by
    rw [joinOctets, UInt16.toNat_ofNat']
    omega
  constructor
  · apply UInt8.toNat_inj.1
    rw [hjoin, UInt8.toNat_ofNat']
    omega
  · apply UInt8.toNat_inj.1
    rw [hjoin, UInt8.toNat_ofNat']
    omega

namespace Groups

/-- Five zero groups, a given group and octets. -/
def ofOctets (group : UInt16) (o : Octets) : Groups :=
  #v[0, 0, 0, 0, 0, group] ++ #v[o.upper, o.lower]

theorem toList_ofOctets (group : UInt16) (o : Octets) :
    (ofOctets group o).toList = (List.replicate 5 0 ++ [group]) ++ o.asGroups := rfl

/-- Octets are found where they were put. -/
@[simp] theorem embedded_ofOctets (group : UInt16) (o : Octets) :
    (ofOctets group o).embedded = o := by
  obtain ⟨a, b, c, d, rfl⟩ := o.exists_eq
  obtain ⟨ha, hb⟩ := halves_joinOctets a b
  obtain ⟨hc, hd⟩ := halves_joinOctets c d
  have hparts : (ofOctets group #v[a, b, c, d]).embedded =
      #v[UInt8.ofNat ((joinOctets a b).toNat / 256), UInt8.ofNat (joinOctets a b).toNat,
        UInt8.ofNat ((joinOctets c d).toNat / 256), UInt8.ofNat (joinOctets c d).toNat] := rfl
  rw [hparts, ha, hb, hc, hd]

theorem eq_ofOctets_iff {g : Groups} {group : UInt16} {o : Octets} :
    g = ofOctets group o ↔ g.toList.take 6 = List.replicate 5 0 ++ [group] ∧ g.embedded = o := by
  constructor
  · rintro rfl
    exact ⟨rfl, embedded_ofOctets group o⟩
  · rintro ⟨hfirst, rfl⟩
    apply Vector.toList_inj.1
    rw [toList_ofOctets, asGroups_embedded, ← hfirst, List.take_append_drop]

/-- A test that is passed by the groups of one embedding, and by no others. -/
def Selects (test : Groups → Bool) (group : UInt16) : Prop :=
  ∀ g : Groups, test g = true ↔ g.toList.take 6 = List.replicate 5 0 ++ [group]

theorem selects_isCompatible : Selects isCompatible 0 := by
  intro g
  obtain ⟨a, b, c, d, e, f, x, y, rfl⟩ := g.exists_eq
  simp [isCompatible, List.replicate]

theorem selects_isMapped : Selects isMapped 0xffff := by
  intro g
  obtain ⟨a, b, c, d, e, f, x, y, rfl⟩ := g.exists_eq
  simp [isMapped, List.replicate, and_assoc]

end Groups

namespace IpAddress

/-! ## Embedding and extracting -/

variable {group : UInt16}

theorem embed_eq (group : UInt16) (o : Octets) : embed group o = v6 (.ofOctets group o) := rfl

/-- The addresses of different embeddings differ. -/
theorem group_eq_of_embed_eq {group' : UInt16} {o o' : Octets}
    (h : embed group o = embed group' o') : group = group' := by
  rw [embed_eq, embed_eq, v6.injEq] at h
  have hfirst := (Groups.eq_ofOctets_iff.1 h).1
  simpa [Groups.toList_ofOctets, List.replicate] using hfirst

/-- Exactly the IPv4 addresses can be embedded. -/
theorem map_embed_eq_ok_iff {a x : IpAddress} :
    a.octets.map (embed group) = .ok x ↔ ∃ o, a = v4 o ∧ embed group o = x := by
  have hoctets : ∀ o, a.octets = .ok o ↔ a = v4 o := by
    cases a <;> simp [octets]
  simp only [Outcome.map_eq_ok_iff, hoctets]

/-- What is extracted from an address is what embedding makes this address of. -/
theorem extract_eq_ok_iff {test : Groups → Bool} (htest : Groups.Selects test group)
    {flaw : AddressFlaw} {a x : IpAddress} :
    extract test flaw x = .ok a ↔ a.octets.map (embed group) = .ok x := by
  rw [map_embed_eq_ok_iff]
  cases x with
  | none =>
    constructor
    · intro h
      cases h
    · rintro ⟨o, -, h⟩
      cases h
  | v4 o' =>
    constructor
    · intro h
      cases h
    · rintro ⟨o, -, h⟩
      cases h
  | v6 g =>
    have hextract : extract test flaw (v6 g) =
        if test g then .ok (v4 g.embedded) else .error (.malformed (v6 g).text flaw) := rfl
    rw [hextract]
    constructor
    · intro h
      split at h
      · next hpasses =>
        cases h
        have hg : g = .ofOctets group g.embedded :=
          Groups.eq_ofOctets_iff.2 ⟨(htest g).1 hpasses, rfl⟩
        exact ⟨g.embedded, rfl, congrArg v6 hg.symm⟩
      · cases h
    · rintro ⟨o, rfl, hembed⟩
      obtain rfl : .ofOctets group o = g := v6.inj hembed
      have hpasses : test (.ofOctets group o) = true := (htest _).2 rfl
      rw [if_pos hpasses, Groups.embedded_ofOctets]

/-! ## Texts of embedded addresses -/

theorem toList_text_v6 {g : Groups} {cs : List Char} (h : g.Rendered cs) :
    (v6 g).text.toList = cs := by
  rw [text_eq_join, h.eq_toList_join_pieces]
  rfl

/-- The last 32 bits of an embedded address are the octets. -/
theorem value_ofOctets (group : UInt16) (o : Octets) :
    o.value = (Groups.ofOctets group o).value % 2 ^ 32 := by
  rw [← Groups.value_embedded, Groups.embedded_ofOctets]

theorem text_mapped (o : Octets) : (embed 0xffff o).text = "::ffff:" ++ (v4 o).text := by
  have hzeros : (Groups.ofOctets 0xffff o).StartsWithZeros 5 := Groups.startsWithZeros_iff.2 rfl
  have hdotted : o.IsDotted o.dotted := Octets.isDotted_iff.2 rfl
  apply String.toList_inj.1
  rw [String.toList_append, toList_text_v4, embed_eq]
  exact toList_text_v6 (.mapped hzeros rfl (value_ofOctets 0xffff o) hdotted)

/-- All zeros and the loopback address have texts of their own. -/
theorem text_compatible (o : Octets) :
    (embed 0 o).text =
      if o = #v[0, 0, 0, 0] then "::" else if o = #v[0, 0, 0, 1] then "::1"
      else "::" ++ (v4 o).text := by
  by_cases hzero : o = #v[0, 0, 0, 0]
  · subst hzero
    decide
  by_cases hone : o = #v[0, 0, 0, 1]
  · subst hone
    decide
  have hzeros : (Groups.ofOctets 0 o).StartsWithZeros 6 := Groups.startsWithZeros_iff.2 rfl
  have hspecified : ¬ (Groups.ofOctets 0 o).StartsWithZeros 8 := by
    intro hall
    apply hzero
    rw [← Groups.embedded_ofOctets 0 o,
      Groups.eq_zero_of_all (Groups.startsWithZeros_eight_iff.1 hall)]
    rfl
  have hloopback : Groups.ofOctets 0 o ≠ #v[0, 0, 0, 0, 0, 0, 0, 1] := by
    intro heq
    apply hone
    rw [← Groups.embedded_ofOctets 0 o, heq]
    rfl
  have hdotted : o.IsDotted o.dotted := Octets.isDotted_iff.2 rfl
  rw [if_neg hzero, if_neg hone]
  apply String.toList_inj.1
  rw [String.toList_append, toList_text_v4, embed_eq]
  exact toList_text_v6 (.compatible hzeros hspecified hloopback (value_ofOctets 0 o) hdotted)

end IpAddress

/-! ## Texts with `::` in front -/

/-- The tokens behind a `::` at the beginning spell the last groups. -/
theorem readGroups_elide_iff {ts : List (List Char)} (hts : ∀ t ∈ ts, IsToken t) {g : Groups} :
    readGroups (elide [] ts) = .ok g ↔
      ∃ gs, Spelled true ts gs ∧ gs.length ≤ 7 ∧
        g.toList = List.replicate (8 - gs.length) 0 ++ gs := by
  constructor
  · intro h
    have htokens : groupTokens (elide [] ts) = .ok ([] :: ts) :=
      groupTokens_elide nofun (fun t ht => (hts t ht).2) nofun (fun t ht => (hts t ht).1)
    have helision : (ReadGroups.mk [] none).take ts.isEmpty [] = .ok ⟨[], some 0⟩ :=
      ReadGroups.take_elision rfl (by simp) _
    rw [readGroups, htokens] at h
    simp only [ReadGroups.takeAll, helision] at h
    split at h
    · cases h
    · next q hq =>
      obtain ⟨gs, hspelled, rfl⟩ := ReadGroups.spelled_of_takeAll rfl hq
      obtain ⟨hlength, hg⟩ := ReadGroups.toList_of_expand_elided (l := []) h
      simp only [List.length_nil, Nat.zero_add, List.nil_append] at hlength hg
      exact ⟨gs, hspelled, hlength, hg⟩
  · rintro ⟨gs, hspelled, hlength, hg⟩
    apply readGroups_of_writtenAs
    apply Groups.WrittenAs.elided .nil hspelled
    · simpa using hlength
    · simpa using hg

namespace IpAddress

/-- A text without a colon is read as IPv4. -/
theorem parse_eq_v4_iff {t : String} (ht : ':' ∉ t.toList) {o : Octets} :
    parse t = .ok (v4 o) ↔ readOctets t.toList = .ok o := by
  have hcolon : ¬ t.toList.contains ':' = true := by simpa using ht
  rw [parse, ofChars, if_neg hcolon, Outcome.mapError_eq_ok_iff, Outcome.map_eq_ok_iff]
  simp only [v4.injEq, exists_eq_right]

/-- A text with a colon is read as IPv6. -/
theorem parse_eq_v6_iff {t : String} (ht : ':' ∈ t.toList) {g : Groups} :
    parse t = .ok (v6 g) ↔ readGroups t.toList = .ok g := by
  have hcolon : t.toList.contains ':' = true := by simpa using ht
  rw [parse, ofChars, if_pos hcolon, Outcome.mapError_eq_ok_iff, Outcome.map_eq_ok_iff]
  simp only [v6.injEq, exists_eq_right]

/-- A text of octets behind `::ffff:` is a text of the mapped address, and nothing else is. -/
theorem parse_mapped_iff {t : String} (ht : ':' ∉ t.toList) (o : Octets) :
    parse ("::ffff:" ++ t) = .ok (embed 0xffff o) ↔ parse t = .ok (v4 o) := by
  have hcolon : ':' ∈ ("::ffff:" ++ t).toList := by simp
  have htext : ("::ffff:" ++ t).toList = elide [] [['f', 'f', 'f', 'f'], t.toList] := by
    simp [elide, colonJoin, List.intercalate_cons_cons]
  rw [embed_eq, parse_eq_v6_iff hcolon, parse_eq_v4_iff ht, htext]
  by_cases hempty : t.toList = []
  · -- a single colon would end the text
    have hleft : readGroups (elide [] [['f', 'f', 'f', 'f'], []]) = .error .trailingColon := rfl
    have hright : readOctets [] = .error .badToken := rfl
    rw [hempty, hleft, hright]
    constructor
    · intro h
      cases h
    · intro h
      cases h
  have htokens : ∀ u ∈ [['f', 'f', 'f', 'f'], t.toList], IsToken u := by
    simp [IsToken, hempty, ht]
  have hffff : IsHexGroup ['f', 'f', 'f', 'f'] 0xffff := isHexGroup_hexadecimal 0xffff
  rw [readGroups_elide_iff htokens]
  constructor
  · rintro ⟨gs, hspelled, -, hg⟩
    cases hspelled with
    | @group _ x _ _ _ hrest =>
      cases hrest with
      | group _ hnil =>
        -- two groups leave a zero where the mark of the embedding stands
        cases hnil
        simp [Groups.toList_ofOctets, List.replicate] at hg
      | @embedded _ o' _ ho =>
        have hsame : Groups.ofOctets 0xffff o = Groups.ofOctets x o' := Vector.toList_inj.1 hg
        rw [ho, ← Groups.embedded_ofOctets 0xffff o, hsame, Groups.embedded_ofOctets]
  · intro ho
    exact ⟨0xffff :: o.asGroups, .group hffff (.embedded rfl ho), by simp, rfl⟩

/-- A text of octets behind `::` is a text of the compatible address. -/
theorem parse_compatible {t : String} (ht : ':' ∉ t.toList) {o : Octets}
    (h : parse t = .ok (v4 o)) : parse ("::" ++ t) = .ok (embed 0 o) := by
  have hcolon : ':' ∈ ("::" ++ t).toList := by simp
  have htext : ("::" ++ t).toList = elide [] [t.toList] := by simp [elide, colonJoin]
  have ho : readOctets t.toList = .ok o := (parse_eq_v4_iff ht).1 h
  have htokens : ∀ u ∈ [t.toList], IsToken u := by
    simpa [IsToken, ht] using List.ne_nil_of_mem (dot_mem_of_readOctets ho)
  rw [embed_eq, parse_eq_v6_iff hcolon, htext, readGroups_elide_iff htokens]
  exact ⟨o.asGroups, .embedded rfl ho, by simp, rfl⟩

-- one hexadecimal group behind `::` is such a text, too
example : parse ("::" ++ "1") = compatible (v4 #v[0, 0, 0, 1]) ∧
    parse "1" = .error (.malformed "1" .tokenCount) := by decide

/-- A text without a colon is read as octets exactly if it is read as the address mapped from them when
`::ffff:` stands in front, and only if it is read as the compatible address when `::` does. Each embedding
takes all octets; what is extracted from an address is what the embedding makes this address of, and no
address is made by both. The text of an embedded address is that of the octets behind `::ffff:` or `::`,
but for the two compatible addresses that have texts of their own. -/
theorem embeddings_agree :
    (∀ t : String, ':' ∉ t.toList → ∀ o : Octets,
      (parse t = .ok (v4 o) ↔ parse ("::ffff:" ++ t) = mapped (v4 o)) ∧
      (parse t = .ok (v4 o) → parse ("::" ++ t) = compatible (v4 o))) ∧
    (∀ a x : IpAddress, fromMapped x = .ok a ↔ mapped a = .ok x) ∧
    (∀ a x : IpAddress, fromCompatible x = .ok a ↔ compatible a = .ok x) ∧
    (∀ a b x : IpAddress, ¬ (mapped a = .ok x ∧ compatible b = .ok x)) ∧
    (∀ o : Octets,
      (∃ x, mapped (v4 o) = .ok x ∧ x.text = "::ffff:" ++ (v4 o).text) ∧
      ∃ x, compatible (v4 o) = .ok x ∧
        x.text = if o = #v[0, 0, 0, 0] then "::" else if o = #v[0, 0, 0, 1] then "::1"
          else "::" ++ (v4 o).text) := by
  have hmapped : ∀ o : Octets, mapped (v4 o) = .ok (embed 0xffff o) := fun _ => rfl
  have hcompatible : ∀ o : Octets, compatible (v4 o) = .ok (embed 0 o) := fun _ => rfl
  refine ⟨?_, ?_, ?_, ?_, ?_⟩
  · intro t ht o
    rw [hmapped, hcompatible]
    exact ⟨(parse_mapped_iff ht o).symm, parse_compatible ht⟩
  · intro a x
    exact extract_eq_ok_iff Groups.selects_isMapped
  · intro a x
    exact extract_eq_ok_iff Groups.selects_isCompatible
  · rintro a b x ⟨ha, hb⟩
    obtain ⟨o, -, rfl⟩ := map_embed_eq_ok_iff.1 ha
    obtain ⟨o', -, h⟩ := map_embed_eq_ok_iff.1 hb
    -- the sixth group would be of both kinds
    exact absurd (group_eq_of_embed_eq h) (by decide)
  · intro o
    exact ⟨⟨_, hmapped o, text_mapped o⟩, ⟨_, hcompatible o, text_compatible o⟩⟩

theorem embeddings_agree_blanks :
    ':' ∉ "0x7f. 0 .0b0.001".toList ∧
      parse "0x7f. 0 .0b0.001" = .ok (v4 #v[127, 0, 0, 1]) ∧
      parse ("::ffff:" ++ "0x7f. 0 .0b0.001") = mapped (v4 #v[127, 0, 0, 1]) ∧
      parse ("::" ++ "0x7f. 0 .0b0.001") = compatible (v4 #v[127, 0, 0, 1]) := by
  have hcolon : ':' ∉ "0x7f. 0 .0b0.001".toList := by decide
  have hparse : parse "0x7f. 0 .0b0.001" = .ok (v4 #v[127, 0, 0, 1]) := by decide
  obtain ⟨hmapped, hcompatible⟩ := embeddings_agree.1 _ hcolon #v[127, 0, 0, 1]
  exact ⟨hcolon, hparse, hmapped.1 hparse, hcompatible hparse⟩

end IpAddress
end LinkWatch
