import LinkWatch.Proofs.Address.Grammar

/-!
# Nothing but the grammar is read as IPv6

The reader of IPv6 text merges the empty tokens at the edges, takes in the tokens one by one and
fills the gap that an elision leaves. Each of these is turned round here: from what comes out the
tokens are found again (`eq_edge_of_mergeEdge`, `Takes.of_take`, `toList_of_expand`). Together they
lead from the groups that were read back to the text (`writtenAs_of_readGroups`), so that the reader
accepts the texts of `Groups.WrittenAs` and no others.
-/

namespace LinkWatch

namespace ReadGroups

/-! ## Tokens -/

/-- What a token does to the groups that were read before it. -/
inductive Takes (p : ReadGroups) : Bool → List Char → ReadGroups → Prop
  /-- The elision is where the token is empty, and there is one at most. -/
  | elision {isLast : Bool} (he : p.elision = none) :
      Takes p isLast [] { p with elision := some p.groups.length }
  | group {isLast : Bool} {t : List Char} {g : UInt16} (hg : IsHexGroup t g) :
      Takes p isLast t { p with groups := p.groups ++ [g] }
  /-- Only the last token may be an IPv4 address. -/
  | embedded {t : List Char} {o : Octets} (ho : readOctets t = .ok o) :
      Takes p true t { p with groups := p.groups ++ o.asGroups }

theorem Takes.of_take {p q : ReadGroups} {isLast : Bool} {t : List Char}
    (h : p.take isLast t = .ok q) : p.Takes isLast t q ∧ q.groups.length ≤ 8 := by
  simp only [take] at h
  split at h
  · next q' hnext =>
    split at h
    · next hlength =>
      cases h
      refine ⟨?_, hlength⟩
      split at hnext
      · next hempty =>
        obtain rfl := List.isEmpty_iff.1 hempty
        split at hnext
        · cases hnext
        · next he =>
          cases hnext
          exact .elision he
      · split at hnext
        · split at hnext
          · next hlast =>
            subst hlast
            split at hnext
            · next o ho =>
              cases hnext
              exact .embedded ho
            · cases hnext
          · cases hnext
        · split at hnext
          · next g hg =>
            cases hnext
            exact .group (readGroup_eq_some_iff.1 hg)
          · cases hnext
    · cases h
  · cases h

/-- Tokens are taken one by one, and there is room for each. -/
theorem takeAll_cons_inv {p q : ReadGroups} {t : List Char} {ts : List (List Char)}
    (h : p.takeAll (t :: ts) = .ok q) :
    ∃ p', p.Takes ts.isEmpty t p' ∧ p'.groups.length ≤ 8 ∧ p'.takeAll ts = .ok q := by
  rw [takeAll] at h
  split at h
  · next p' ht =>
    obtain ⟨htakes, hlength⟩ := Takes.of_take ht
    exact ⟨p', htakes, hlength, h⟩
  · cases h

/-- No more groups are taken than an address has. -/
theorem length_le_of_takeAll {p q : ReadGroups} {ts : List (List Char)}
    (hp : p.groups.length ≤ 8) (h : p.takeAll ts = .ok q) : q.groups.length ≤ 8 := by
  induction ts generalizing p with
  | nil =>
    cases h
    exact hp
  | cons t ts ih =>
    obtain ⟨p', -, hlength, hrest⟩ := takeAll_cons_inv h
    exact ih hlength hrest

/-- Behind the elision every token spells groups. -/
theorem spelled_of_takeAll {p q : ReadGroups} {k : Nat} (hp : p.elision = some k)
    {ts : List (List Char)} (h : p.takeAll ts = .ok q) :
    ∃ gs, Spelled true ts gs ∧ q = { p with groups := p.groups ++ gs } := by
  induction ts generalizing p with
  | nil =>
    cases h
    exact ⟨[], .nil, by rw [List.append_nil]⟩
  | cons t ts ih =>
    obtain ⟨p', htakes, -, hrest⟩ := takeAll_cons_inv h
    generalize hlast : ts.isEmpty = isLast at htakes
    cases htakes with
    | elision he =>
      rw [hp] at he
      cases he
    | @group _ _ g hg =>
      obtain ⟨gs, hgs, rfl⟩ := ih (p := { p with groups := p.groups ++ [g] }) hp hrest
      exact ⟨g :: gs, .group hg hgs, by simp⟩
    | @embedded _ o ho =>
      -- nothing follows
      obtain rfl := List.isEmpty_iff.1 hlast
      cases hrest
      exact ⟨o.asGroups, .embedded rfl ho, rfl⟩

/-- All tokens spell groups, or all but one empty token, before which no IPv4 address stands. -/
theorem spelled_or_elided_of_takeAll {p q : ReadGroups} (hp : p.elision = none)
    {ts : List (List Char)} (h : p.takeAll ts = .ok q) :
    (∃ gs, Spelled true ts gs ∧ q = ⟨p.groups ++ gs, none⟩) ∨
      ∃ L R l r, ts = L ++ [] :: R ∧ Spelled false L l ∧ Spelled true R r ∧
        q = ⟨p.groups ++ l ++ r, some (p.groups ++ l).length⟩ := by
  induction ts generalizing p with
  | nil =>
    cases h
    exact .inl ⟨[], .nil, by rw [List.append_nil, ← hp]⟩
  | cons t ts ih =>
    obtain ⟨p', htakes, -, hrest⟩ := takeAll_cons_inv h
    generalize hlast : ts.isEmpty = isLast at htakes
    cases htakes with
    | elision _ =>
      obtain ⟨gs, hgs, rfl⟩ := spelled_of_takeAll rfl hrest
      exact .inr ⟨[], ts, [], gs, rfl, .nil, hgs, by simp⟩
    | @group _ _ g hg =>
      rcases ih (p := { p with groups := p.groups ++ [g] }) hp hrest with
        ⟨gs, hgs, rfl⟩ | ⟨L, R, l, r, rfl, hL, hR, rfl⟩
      · exact .inl ⟨g :: gs, .group hg hgs, by simp⟩
      · exact .inr ⟨t :: L, R, g :: l, r, rfl, .group hg hL, hR, by simp⟩
    | @embedded _ o ho =>
      obtain rfl := List.isEmpty_iff.1 hlast
      cases hrest
      exact .inl ⟨o.asGroups, .embedded rfl ho, by rw [hp]⟩

/-! ## Groups -/

/-- Without a gap the groups are the address. -/
theorem toList_of_expand {gs : List UInt16} {g : Groups} (h : expand ⟨gs, none⟩ = .ok g) :
    g.toList = gs := by
  simp only [expand] at h
  split at h
  · cases h
    rfl
  · cases h

/-- An elision stands for one group at least. -/
theorem toList_of_expand_elided {l r : List UInt16} {g : Groups}
    (h : expand ⟨l ++ r, some l.length⟩ = .ok g) :
    l.length + r.length ≤ 7 ∧
      g.toList = l ++ List.replicate (8 - (l.length + r.length)) 0 ++ r := by
  simp only [expand, List.take_left, List.drop_left, List.length_append] at h
  split at h
  · cases h
  · next hfull =>
    split at h
    · next hfilled =>
      cases h
      rw [List.length_replicate] at hfilled
      exact ⟨by omega, rfl⟩
    · cases h

end ReadGroups

/-! ## The text -/

/-- Where no empty token is left, none was merged. -/
theorem eq_of_mergeEdge {flaw : AddressFlaw} {tokens ts : List (List Char)}
    (h : mergeEdge flaw tokens = .ok ts) (hts : ∀ t ∈ ts, t ≠ []) : tokens = ts := by
  unfold mergeEdge at h
  split at h
  · cases h
    exact absurd rfl (hts [] List.mem_cons_self)
  · cases h
  · exact Except.ok.inj h

/-- Where the first empty token that is left stands at the edge, it was merged from two. -/
theorem eq_edge_of_mergeEdge {flaw : AddressFlaw} {tokens ts r : List (List Char)}
    (h : mergeEdge flaw tokens = .ok (ts ++ [] :: r)) (hts : ∀ t ∈ ts, t ≠ [])
    (hlength : 2 ≤ tokens.length) : tokens = edge ts ++ [] :: r := by
  cases ts with
  | nil =>
    unfold mergeEdge at h
    split at h
    · cases h
      rfl
    · cases h
    · next hone =>
      -- the only token would be empty
      obtain rfl := Except.ok.inj h
      cases r with
      | nil => simp at hlength
      | cons u r => exact absurd rfl (hone u r)
  | cons t ts =>
    unfold mergeEdge at h
    split at h
    · -- the empty token that is left would be `t`
      obtain ⟨ht, -⟩ := List.cons.inj (Except.ok.inj h)
      exact absurd ht.symm (hts t List.mem_cons_self)
    · cases h
    · exact Except.ok.inj h

/-- The tokens are the pieces between colons, after a colon at each edge was looked at. -/
theorem groupTokens_inv {cs : List Char} {ts : List (List Char)} (h : groupTokens cs = .ok ts) :
    ∃ us, 3 ≤ (cs.splitOn ':').length ∧ mergeEdge .leadingColon (cs.splitOn ':') = .ok us ∧
      mergeEdge .trailingColon us.reverse = .ok ts.reverse := by
  simp only [groupTokens] at h
  split at h
  · cases h
  · next henough =>
    split at h
    · cases h
    · next us hus =>
      obtain ⟨vs, hvs, rfl⟩ := Outcome.map_eq_ok_iff.1 h
      refine ⟨us, by omega, hus, ?_⟩
      rw [hvs, List.reverse_reverse]

/-- Merging shortens the tokens by one at most. -/
theorem length_le_of_mergeEdge {flaw : AddressFlaw} {tokens ts : List (List Char)}
    (h : mergeEdge flaw tokens = .ok ts) : tokens.length ≤ ts.length + 1 := by
  unfold mergeEdge at h
  split at h
  · cases h
    simp
  · cases h
  · cases h
    omega

/-- A text without an empty token is its tokens with colons between them. -/
theorem eq_colonJoin_of_groupTokens {cs : List Char} {ts : List (List Char)}
    (h : groupTokens cs = .ok ts) (hts : ∀ t ∈ ts, t ≠ []) : cs = colonJoin ts := by
  obtain ⟨us, -, hleading, htrailing⟩ := groupTokens_inv h
  have hus : us.reverse = ts.reverse := eq_of_mergeEdge htrailing (by simpa using hts)
  obtain rfl := List.reverse_inj.1 hus
  have hsplit := eq_of_mergeEdge hleading hts
  rw [colonJoin, ← hsplit]
  exact (List.intercalate_splitOn ':').symm

/-- A text with one empty token has its gap there. -/
theorem eq_elide_of_groupTokens {cs : List Char} {L R : List (List Char)}
    (h : groupTokens cs = .ok (L ++ [] :: R)) (hL : ∀ t ∈ L, t ≠ []) (hR : ∀ t ∈ R, t ≠ [])
    (hcolonL : ∀ t ∈ L, ':' ∉ t) (hcolonR : ∀ t ∈ R, ':' ∉ t) : cs = elide L R := by
  obtain ⟨us, hthree, hleading, htrailing⟩ := groupTokens_inv h
  have htwo : 2 ≤ us.reverse.length := by
    have hshort := length_le_of_mergeEdge hleading
    rw [List.length_reverse]
    omega
  have hreverse : (L ++ [] :: R).reverse = R.reverse ++ [] :: L.reverse := by simp
  rw [hreverse] at htrailing
  -- the right edge is the left edge of the reversed tokens
  have hus : us.reverse = edge R.reverse ++ [] :: L.reverse :=
    eq_edge_of_mergeEdge htrailing (by simpa using hR) htwo
  have hus' : us = L ++ [] :: edge R := by
    rw [← List.reverse_reverse us, hus, List.reverse_append, List.reverse_cons,
      List.reverse_reverse, reverse_edge, List.reverse_reverse, List.append_assoc]
    rfl
  rw [hus'] at hleading
  have hsplit : cs.splitOn ':' = (elide L R).splitOn ':' := by
    rw [splitOn_elide hcolonL hcolonR]
    exact eq_edge_of_mergeEdge hleading hL (by omega)
  calc
    cs = [':'].intercalate (cs.splitOn ':') := (List.intercalate_splitOn ':').symm
    _ = elide L R := by rw [hsplit, List.intercalate_splitOn]

/-- Text that is read as an address is a text of this address. -/
theorem writtenAs_of_readGroups {cs : List Char} {g : Groups} (h : readGroups cs = .ok g) :
    g.WrittenAs cs := by
  rw [readGroups] at h
  split at h
  · cases h
  · next ts hts =>
    split at h
    · cases h
    · next q hq =>
      rcases ReadGroups.spelled_or_elided_of_takeAll rfl hq with
        ⟨gs, hspelled, rfl⟩ | ⟨L, R, l, r, rfl, hL, hR, rfl⟩
      · obtain rfl := ReadGroups.toList_of_expand h
        rw [eq_colonJoin_of_groupTokens hts hspelled.ne_nil]
        exact .full hspelled
      · obtain ⟨hlength, hg⟩ := ReadGroups.toList_of_expand_elided h
        rw [eq_elide_of_groupTokens hts hL.ne_nil hR.ne_nil hL.colon_not_mem hR.colon_not_mem]
        exact .elided hL hR hlength hg

/-- A text is read as an address if and only if it is one of the texts of that address. -/
theorem readGroups_eq_ok_iff {cs : List Char} {g : Groups} :
    readGroups cs = .ok g ↔ g.WrittenAs cs :=
  ⟨writtenAs_of_readGroups, readGroups_of_writtenAs⟩

end LinkWatch
