import LinkWatch.Proofs.Address.Canonical
import LinkWatch.Proofs.Address.Packing

/-!
# How IPv6 addresses are written

The canonical text of an IPv6 address, said without the writer (`Groups.Rendered`): which addresses
have a text of their own, which end in dotted decimal, and which of the zeros of all others are left
out. Every address has one such text, and it is the one written. The text has a `::` exactly if there
is a run of two zero groups or more, and then in one place (`text_v6_rendered`).
-/

namespace LinkWatch

/-! ## Colons -/

/-- Text between colons. -/
def IsToken (t : List Char) : Prop := t ≠ [] ∧ ':' ∉ t

/-- A colon in joined tokens stands between two of them. -/
theorem colonJoin_eq_append_cons {ts : List (List Char)} (hts : ∀ t ∈ ts, IsToken t)
    {A B : List Char} (h : colonJoin ts = A ++ ':' :: B) :
    ts = A.splitOn ':' ++ B.splitOn ':' := by
  have hne : ts ≠ [] := by
    rintro rfl
    have hlength := congrArg List.length h
    simp [colonJoin] at hlength
  have hsplit := splitOn_colonJoin fun t ht => (hts t ht).2
  rw [edge_of_ne_nil hne, h, List.splitOn_append_cons_self] at hsplit
  exact hsplit.symm

/-- Joined tokens do not begin with a colon. -/
theorem colonJoin_ne_cons {ts : List (List Char)} (hts : ∀ t ∈ ts, IsToken t) (B : List Char) :
    colonJoin ts ≠ ':' :: B := by
  intro h
  have hsplit := colonJoin_eq_append_cons (A := []) hts h
  exact (hts [] (by rw [hsplit]; exact List.mem_cons_self)).1 rfl

/-- Joined tokens do not end with a colon. -/
theorem colonJoin_ne_append_singleton {ts : List (List Char)} (hts : ∀ t ∈ ts, IsToken t)
    (A : List Char) : colonJoin ts ≠ A ++ [':'] := by
  intro h
  have hsplit := colonJoin_eq_append_cons hts h
  refine (hts [] ?_).1 rfl
  rw [hsplit]
  exact List.mem_append_right _ List.mem_cons_self

/-- Joined tokens have no `::`. -/
theorem colonJoin_ne_append_colons {ts : List (List Char)} (hts : ∀ t ∈ ts, IsToken t)
    (A B : List Char) : colonJoin ts ≠ A ++ ':' :: ':' :: B := by
  intro h
  have hsplit := colonJoin_eq_append_cons hts h
  have hempty : (':' :: B).splitOn ':' = [] :: B.splitOn ':' :=
    List.splitOn_append_cons_self [] B
  refine (hts [] ?_).1 rfl
  rw [hsplit, hempty]
  exact List.mem_append_right _ List.mem_cons_self

/-- Where tokens are left out, the `::` in their place is the only one. -/
theorem eq_of_elide_eq_append_colons {L R : List (List Char)} (hL : ∀ t ∈ L, IsToken t)
    (hR : ∀ t ∈ R, IsToken t) {A B : List Char} (h : elide L R = A ++ ':' :: ':' :: B) :
    A = colonJoin L := by
  rw [elide, List.append_eq_append_iff] at h
  rcases h with ⟨X, hA, hX⟩ | ⟨X, hjoin, hX⟩
  · -- it would begin behind the one in their place
    rcases X with _ | ⟨x, _ | ⟨y, X⟩⟩
    · rw [hA, List.append_nil]
    · simp only [List.cons_append, List.nil_append, List.cons.injEq, true_and] at hX
      exact absurd hX.2 (colonJoin_ne_cons hR B)
    · simp only [List.cons_append, List.cons.injEq] at hX
      exact absurd hX.2.2 (colonJoin_ne_append_colons hR X B)
  · -- it would begin in front of it
    rcases X with _ | ⟨x, _ | ⟨y, X⟩⟩
    · rw [hjoin, List.append_nil]
    · simp only [List.cons_append, List.cons.injEq] at hX
      rw [← hX.1] at hjoin
      exact absurd hjoin (colonJoin_ne_append_singleton hL A)
    · simp only [List.cons_append, List.cons.injEq] at hX
      rw [← hX.1, ← hX.2.1] at hjoin
      exact absurd hjoin (colonJoin_ne_append_colons hL A X)

/-! ## Parts of a text -/

/-- The text of octets: decimal without leading zeros, with dots between the four. -/
def Octets.IsDotted (o : Octets) (cs : List Char) : Prop :=
  ∃ ts, List.Forall₂ (Text.IsCanonical 10) ts (o.toList.map (·.toNat)) ∧ cs = ['.'].intercalate ts

/-- There is one dotted text of an IPv4 address. -/
theorem Octets.isDotted_iff {o : Octets} {cs : List Char} : o.IsDotted cs ↔ cs = o.dotted := by
  have htokens : ∀ ts, List.Forall₂ (Text.IsCanonical 10) ts (o.toList.map (·.toNat)) ↔
      ts = o.toList.map fun b => Text.decimal b.toNat := by
    intro ts
    rw [Text.forall₂_isCanonical_iff (by decide) (by decide), List.map_map]
    rfl
  constructor
  · rintro ⟨ts, hts, rfl⟩
    rw [(htokens ts).1 hts]
    rfl
  · rintro rfl
    exact ⟨_, (htokens _).2 rfl, rfl⟩

/-- The texts of groups: hexadecimal in lower case without leading zeros. -/
def AreGroupTexts (ts : List (List Char)) (gs : List UInt16) : Prop :=
  List.Forall₂ (Text.IsCanonical 16) ts (gs.map (·.toNat))

/-- There is one list of texts for a list of groups. -/
theorem areGroupTexts_iff {ts : List (List Char)} {gs : List UInt16} :
    AreGroupTexts ts gs ↔ ts = hexTokens gs := by
  rw [AreGroupTexts, Text.forall₂_isCanonical_iff (by decide) (by decide), List.map_map]
  rfl

theorem isToken_of_mem_hexTokens {gs : List UInt16} : ∀ t ∈ hexTokens gs, IsToken t := by
  have hspelled := spelled_hexTokens false gs
  intro t ht
  exact ⟨hspelled.ne_nil t ht, hspelled.colon_not_mem t ht⟩

theorem Octets.isToken_dotted (o : Octets) : IsToken o.dotted := by
  have hread := readOctets_dotted o
  exact ⟨List.ne_nil_of_mem (dot_mem_of_readOctets hread), colon_not_mem_of_readOctets hread⟩

namespace Groups

/-- The first groups of an address, as many as are asked for, are zero. -/
def StartsWithZeros (g : Groups) (n : Nat) : Prop := ∀ x ∈ g.toList.take n, x = 0

/-- Whether the first groups are zero can be computed. -/
theorem startsWithZeros_iff {g : Groups} {n : Nat} :
    g.StartsWithZeros n ↔ (g.toList.take n).all (· == 0) = true := by
  simp [StartsWithZeros]

theorem startsWithZeros_eight_iff {g : Groups} :
    g.StartsWithZeros 8 ↔ g.toList.all (· == 0) = true := by
  rw [startsWithZeros_iff, List.take_of_length_le (by simp)]

/-- A mapped address has five zeros and then a group of ones. -/
theorem isMapped_iff {g : Groups} :
    g.isMapped = true ↔ g.StartsWithZeros 5 ∧ g.toList[5]? = some 0xffff := by
  rw [startsWithZeros_iff, isMapped, Bool.and_eq_true, beq_iff_eq]
  simp

theorem StartsWithZeros.of_le {g : Groups} {m n : Nat} (h : g.StartsWithZeros n) (hmn : m ≤ n) :
    g.StartsWithZeros m := by
  intro x hx
  exact h x ((List.take_sublist_take_left hmn).subset hx)

/-- An address whose last 32 bits are an IPv4 address: of the first six groups all are zero, or all
but the last, which is `ffff`. -/
def Embeds (g : Groups) : Prop :=
  g.StartsWithZeros 6 ∨ (g.StartsWithZeros 5 ∧ g.toList[5]? = some 0xffff)

/-- The last 32 bits as octets. -/
theorem value_embedded (g : Groups) : g.embedded.value = g.value % 2 ^ 32 := by
  obtain ⟨a, b, c, d, e, f, x, y, rfl⟩ := g.exists_eq
  have hx : x.toNat < 65536 := x.toNat_lt
  have hy : y.toNat < 65536 := y.toNat_lt
  simp only [embedded, Octets.value, value, Text.Radix.value, Vector.getElem_mk,
    List.getElem_toArray, List.getElem_cons_succ, List.getElem_cons_zero, Vector.toList_mk,
    List.map_cons, List.map_nil, List.foldl_cons, List.foldl_nil, UInt8.toNat_ofNat', Nat.reducePow]
  omega

/-- How the groups of an address are written. -/
inductive Rendered (g : Groups) : List Char → Prop
  | unspecified (h : g.StartsWithZeros 8) : g.Rendered [':', ':']
  | loopback (h : g = #v[0, 0, 0, 0, 0, 0, 0, 1]) : g.Rendered [':', ':', '1']
  | compatible {o : Octets} {cs : List Char} (h : g.StartsWithZeros 6)
      (hspecified : ¬ g.StartsWithZeros 8) (hloopback : g ≠ #v[0, 0, 0, 0, 0, 0, 0, 1])
      (ho : o.value = g.value % 2 ^ 32) (hcs : o.IsDotted cs) : g.Rendered (':' :: ':' :: cs)
  | mapped {o : Octets} {cs : List Char} (h : g.StartsWithZeros 5)
      (hones : g.toList[5]? = some 0xffff) (ho : o.value = g.value % 2 ^ 32) (hcs : o.IsDotted cs) :
      g.Rendered (':' :: ':' :: 'f' :: 'f' :: 'f' :: 'f' :: ':' :: cs)
  | elided {l r : List UInt16} {n : Nat} {L R : List (List Char)} (hplain : ¬ g.Embeds)
      (h : IsElided g.toList l n r) (hL : AreGroupTexts L l) (hR : AreGroupTexts R r) :
      g.Rendered (elide L R)
  | full {ts : List (List Char)} (hplain : ¬ g.Embeds)
      (h : ∀ l n r, IsMaximalRun g.toList l n r → n < 2) (hts : AreGroupTexts ts g.toList) :
      g.Rendered (colonJoin ts)

/-! ## Every address has one text -/

/-- The special texts of compatible addresses are those of no others. -/
theorem pieces_of_not_compatible {g : Groups} (h : ¬ g.StartsWithZeros 6) :
    g.pieces = if g.isMapped then "::ffff:" :: g.embedded.pieces
      else match longestZeroRun g.toList with
        | some (start, length) =>
          groupPieces (g.toList.take start) ++ "::" :: groupPieces (g.toList.drop (start + length))
        | none => groupPieces g.toList := by
  have hzero : ¬ g.toList.all (· == 0) = true := by
    intro hall
    exact h ((startsWithZeros_eight_iff.2 hall).of_le (by decide))
  have hone : g ≠ #v[0, 0, 0, 0, 0, 0, 0, 1] := by
    rintro rfl
    exact h (startsWithZeros_iff.2 rfl)
  have hcompatible : ¬ g.isCompatible = true := by
    intro hzeros
    exact h (startsWithZeros_iff.2 hzeros)
  refine Eq.trans (if_neg hzero) ?_
  refine Eq.trans (if_neg hone) ?_
  exact if_neg hcompatible

/-- Addresses that embed no octets are written in hexadecimal throughout. -/
theorem pieces_of_not_embeds {g : Groups} (h : ¬ g.Embeds) :
    g.pieces = match longestZeroRun g.toList with
      | some (start, length) =>
        groupPieces (g.toList.take start) ++ "::" :: groupPieces (g.toList.drop (start + length))
      | none => groupPieces g.toList := by
  have hmapped : ¬ g.isMapped = true := by
    intro hmapped
    exact h (.inr (isMapped_iff.1 hmapped))
  rw [pieces_of_not_compatible fun hzeros => h (.inl hzeros), if_neg hmapped]

/-- A text that is as it should be is the one that is written. -/
theorem Rendered.eq_toList_join_pieces {g : Groups} {cs : List Char} (h : g.Rendered cs) :
    cs = (String.join g.pieces).toList := by
  -- the octets of a text are those that are written
  have hdotted : ∀ {o : Octets} {cs : List Char}, o.value = g.value % 2 ^ 32 → o.IsDotted cs →
      cs = (String.join g.embedded.pieces).toList := by
    intro o cs ho hcs
    rw [← value_embedded] at ho
    rw [Octets.toList_join_pieces, ← Octets.value_injective ho]
    exact Octets.isDotted_iff.1 hcs
  cases h with
  | unspecified h =>
    rw [pieces, if_pos (startsWithZeros_eight_iff.1 h)]
    rfl
  | loopback h =>
    subst h
    rfl
  | compatible h hspecified hloopback ho hcs =>
    have hzero := fun hall => hspecified (startsWithZeros_eight_iff.2 hall)
    have hcompatible : g.isCompatible = true := startsWithZeros_iff.1 h
    rw [pieces, if_neg hzero, if_neg hloopback, if_pos hcompatible, String.join_cons,
      String.toList_append, ← hdotted ho hcs]
    rfl
  | mapped h hones ho hcs =>
    have hsix : ¬ g.StartsWithZeros 6 := by
      intro hsix
      have hmem : (0xffff : UInt16) ∈ g.toList.take 6 :=
        List.mem_of_getElem? (i := 5) (by rw [List.getElem?_take_of_lt (by decide), hones])
      cases hsix _ hmem
    rw [pieces_of_not_compatible hsix, if_pos (isMapped_iff.2 ⟨h, hones⟩), String.join_cons,
      String.toList_append, ← hdotted ho hcs]
    rfl
  | @elided l r n L R hplain h hL hR =>
    rw [pieces_of_not_embeds hplain, h.longestZeroRun_eq, areGroupTexts_iff.1 hL,
      areGroupTexts_iff.1 hR]
    have htake : g.toList.take l.length = l := by
      rw [h.run.eq, List.append_assoc, List.take_left]
    have hdrop : g.toList.drop (l.length + n) = r := by
      rw [h.run.eq]
      exact List.drop_left' (by simp)
    simp only [htake, hdrop]
    rw [String.join_append, String.join_cons, String.toList_append, String.toList_append,
      toList_join_groupPieces, toList_join_groupPieces]
    rfl
  | full hplain h hts =>
    rw [pieces_of_not_embeds hplain, longestZeroRun_eq_none_iff.2 h, areGroupTexts_iff.1 hts]
    exact (toList_join_groupPieces g.toList).symm

/-- Every IPv6 address has a text that is as it should be. -/
theorem exists_rendered (g : Groups) : ∃ cs, g.Rendered cs := by
  have hvalue := g.value_embedded
  have hdotted : g.embedded.IsDotted g.embedded.dotted := Octets.isDotted_iff.2 rfl
  by_cases hzero : g.StartsWithZeros 8
  · exact ⟨_, .unspecified hzero⟩
  by_cases hone : g = #v[0, 0, 0, 0, 0, 0, 0, 1]
  · exact ⟨_, .loopback hone⟩
  by_cases hcompatible : g.StartsWithZeros 6
  · exact ⟨_, .compatible hcompatible hzero hone hvalue hdotted⟩
  by_cases hmapped : g.StartsWithZeros 5 ∧ g.toList[5]? = some 0xffff
  · exact ⟨_, .mapped hmapped.1 hmapped.2 hvalue hdotted⟩
  have hplain : ¬ g.Embeds := not_or.2 ⟨hcompatible, hmapped⟩
  cases hfound : longestZeroRun g.toList with
  | none =>
    have hshort := longestZeroRun_eq_none_iff.1 hfound
    exact ⟨_, .full hplain hshort (areGroupTexts_iff.2 rfl)⟩
  | some found =>
    have helided := (longestZeroRun_eq_some hfound).2
    exact ⟨_, .elided hplain helided (areGroupTexts_iff.2 rfl) (areGroupTexts_iff.2 rfl)⟩

/-- The text that is written is the only one that is as it should be. -/
theorem rendered_iff {g : Groups} {cs : List Char} :
    g.Rendered cs ↔ cs = (String.join g.pieces).toList := by
  constructor
  · intro h
    exact h.eq_toList_join_pieces
  · rintro rfl
    obtain ⟨cs, hcs⟩ := g.exists_rendered
    rwa [← hcs.eq_toList_join_pieces]

/-! ## Where zeros are left out -/

/-- Five zeros at the start are part of a run of zeros that can be elided. -/
theorem StartsWithZeros.exists_run {g : Groups} (h : g.StartsWithZeros 5) :
    ∃ l n r, 2 ≤ n ∧ IsMaximalRun g.toList l n r :=
  exists_isMaximalRun (n := 5) (by decide) (toList_of_zeros (by decide) (startsWithZeros_iff.1 h))

/-- Zeros are left out where there is a run of two or more, and nowhere else. -/
theorem Rendered.shape {g : Groups} {cs : List Char} (h : g.Rendered cs) :
    ((∃ l n r, 2 ≤ n ∧ IsMaximalRun g.toList l n r) ∧
        ∃ L R, (∀ t ∈ L, IsToken t) ∧ (∀ t ∈ R, IsToken t) ∧ cs = elide L R) ∨
      ((∀ l n r, IsMaximalRun g.toList l n r → n < 2) ∧
        ∃ ts, (∀ t ∈ ts, IsToken t) ∧ cs = colonJoin ts) := by
  cases h with
  | unspecified h => exact .inl ⟨(h.of_le (by decide)).exists_run, [], [], nofun, nofun, rfl⟩
  | loopback h =>
    have hzeros : g.StartsWithZeros 5 := by
      rw [h]
      exact startsWithZeros_iff.2 rfl
    have hone : ∀ t ∈ [['1']], IsToken t := by simp [IsToken]
    exact .inl ⟨hzeros.exists_run, [], [['1']], nofun, hone, rfl⟩
  | @compatible o cs h hspecified hloopback ho hcs =>
    have hdotted : ∀ t ∈ [cs], IsToken t := by
      rw [Octets.isDotted_iff.1 hcs]
      simpa using o.isToken_dotted
    refine .inl ⟨(h.of_le (by decide)).exists_run, [], [cs], nofun, hdotted, ?_⟩
    simp [elide, colonJoin]
  | @mapped o cs h hones ho hcs =>
    have htokens : ∀ t ∈ [['f', 'f', 'f', 'f'], cs], IsToken t := by
      rw [Octets.isDotted_iff.1 hcs]
      simpa [IsToken] using o.isToken_dotted
    refine .inl ⟨h.exists_run, [], _, nofun, htokens, ?_⟩
    simp [elide, colonJoin, List.intercalate_cons_cons]
  | @elided l r n L R hplain h hL hR =>
    rw [areGroupTexts_iff] at hL hR
    subst hL hR
    exact .inl ⟨⟨l, n, r, h.two_le, h.run⟩, _, _, isToken_of_mem_hexTokens,
      isToken_of_mem_hexTokens, rfl⟩
  | full hplain h hts =>
    rw [areGroupTexts_iff] at hts
    subst hts
    exact .inr ⟨h, _, isToken_of_mem_hexTokens, rfl⟩

end Groups

namespace IpAddress

/-- An IPv6 address is written in one way. Its text has a `::` exactly if there is a run of two
zero groups or more, and then in one place. -/
theorem text_v6_rendered (g : Groups) :
    (∀ s, (v6 g).text = s ↔ g.Rendered s.toList) ∧
      ((∃ A B, (v6 g).text.toList = A ++ ':' :: ':' :: B) ↔
        ∃ l n r, 2 ≤ n ∧ IsMaximalRun g.toList l n r) ∧
      ((∃! A, ∃ B, (v6 g).text.toList = A ++ ':' :: ':' :: B) ↔
        ∃ l n r, 2 ≤ n ∧ IsMaximalRun g.toList l n r) := by
  have htext : (v6 g).text.toList = (String.join g.pieces).toList := by
    rw [text_eq_join]
    rfl
  refine ⟨?_, ?_⟩
  · intro s
    rw [Groups.rendered_iff, ← htext, String.toList_inj]
    exact eq_comm
  · rcases (Groups.rendered_iff.2 htext).shape with ⟨hrun, L, R, hL, hR, hcs⟩ | ⟨hnone, ts, hts, hcs⟩
    · have hplace : (v6 g).text.toList = colonJoin L ++ ':' :: ':' :: colonJoin R := hcs
      refine ⟨iff_of_true ⟨_, _, hplace⟩ hrun, iff_of_true ?_ hrun⟩
      refine ⟨_, ⟨_, hplace⟩, ?_⟩
      rintro A ⟨B, hB⟩
      exact eq_of_elide_eq_append_colons hL hR (hcs.symm.trans hB)
    · have hrun : ¬ ∃ l n r, 2 ≤ n ∧ IsMaximalRun g.toList l n r := by
        rintro ⟨l, n, r, htwo, hmax⟩
        exact Nat.not_lt.2 htwo (hnone l n r hmax)
      have hcolons : ∀ A B, (v6 g).text.toList ≠ A ++ ':' :: ':' :: B := by
        intro A B
        rw [hcs]
        exact colonJoin_ne_append_colons hts A B
      refine ⟨iff_of_false ?_ hrun, iff_of_false ?_ hrun⟩
      · rintro ⟨A, B, hB⟩
        exact hcolons A B hB
      · rintro ⟨A, ⟨B, hB⟩, -⟩
        exact hcolons A B hB

example : (v6 #v[0x2001, 0, 0, 1, 1, 0, 0, 1]).text = "2001::1:1:0:0:1" := by decide

end IpAddress
end LinkWatch
