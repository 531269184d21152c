import Mathlib.Data.List.TakeWhile
import Mathlib.Tactic.ByContra
import LinkWatch.Address.Reader
import LinkWatch.Proofs.Outcome
import LinkWatch.Proofs.Text.Join
import LinkWatch.Proofs.Text.Numeral

/-!
# The grammar of address text

What the readers of address text accept, said without the readers: octets in decimal with dots
between them, and for IPv6 the texts that `Groups.WrittenAs` gives, in which an embedded IPv4 address
is whatever is read as one. A text of this grammar is read as the address that it stands for
(`readOctets_dotted`, `readGroups_of_writtenAs`).
-/

namespace LinkWatch

/-! ## IPv4 -/

/-- An IPv4 address is four octets. -/
theorem Octets.exists_eq (o : Octets) : ∃ a b c d, o = #v[a, b, c, d] := by
  obtain ⟨⟨l⟩, hl⟩ := o
  match l, hl with
  | [a, b, c, d], _ => exact ⟨a, b, c, d, rfl⟩

/-- Octets in decimal with dots between them. -/
def Octets.dotted (o : Octets) : List Char :=
  ['.'].intercalate (o.toList.map fun b => Text.decimal b.toNat)

/-- Decimal digits carry no mark of another base. -/
theorem splitBase_of_forall {cs : List Char} (h : ∀ c ∈ cs, Text.isDigit 10 c = true) :
    splitBase cs = (10, cs) := by
  unfold splitBase
  -- `x`, `X` and `b` are no decimal digits
  split
  · exact absurd (h 'x' (by simp)) (by decide)
  · exact absurd (h 'X' (by simp)) (by decide)
  · exact absurd (h 'b' (by simp)) (by decide)
  · rfl

/-- A byte is read back from its decimal text. -/
theorem readOctet_decimal (b : UInt8) : readOctet (Text.decimal b.toNat) = some b := by
  have hdigits : ∀ c ∈ Text.decimal b.toNat, Text.isDigit 10 c = true := fun c hc =>
    Text.isDigit_of_mem_toDigits (by decide) (by decide) hc
  have htrim : Text.trim (Text.decimal b.toNat) = Text.decimal b.toNat :=
    Text.trim_toDigits (by decide) (by decide)
  have hread : Text.readNumeral 10 (Text.decimal b.toNat) = some b.toNat :=
    Text.readNumeral_toDigits (by decide) (by decide)
  have hlt : b.toNat ≤ 255 := Nat.le_of_lt_succ b.toNat_lt
  simp only [readOctet, htrim, splitBase_of_forall hdigits, hread]
  rw [Option.filter_some_pos (by simpa using hlt), Option.map_some, UInt8.ofNat_toNat]

/-- An IPv4 address is read back from its dotted text. -/
theorem readOctets_dotted (o : Octets) : readOctets o.dotted = .ok o := by
  obtain ⟨a, b, c, d, rfl⟩ := o.exists_eq
  have hdot : ∀ t ∈ [a, b, c, d].map (fun b => Text.decimal b.toNat), '.' ∉ t := by
    intro t ht
    obtain ⟨b, -, rfl⟩ := List.mem_map.1 ht
    exact Text.not_mem_toDigits (by decide) (by decide) rfl
  have hsplit : (Octets.dotted #v[a, b, c, d]).splitOn '.' =
      [a, b, c, d].map fun b => Text.decimal b.toNat :=
    List.splitOn_intercalate '.' hdot (by simp)
  rw [readOctets, hsplit]
  simp only [List.map_cons, List.map_nil, readOctetTokens, readOctet_decimal, Except.map]

/-! ### What IPv4 text is made of -/

/-- A character that is no blank stays when blanks are trimmed. -/
theorem mem_trim {cs : List Char} {c : Char} (h : c ∈ cs) (hc : Text.isBlank c = false) :
    c ∈ Text.trim cs := by
  have hdrop (ds : List Char) (hd : c ∈ ds) : c ∈ ds.dropWhile Text.isBlank := by
    rw [← List.takeWhile_append_dropWhile (p := Text.isBlank) (l := ds), List.mem_append] at hd
    rcases hd with hd | hd
    · rw [List.mem_takeWhile_imp hd] at hc
      cases hc
    · exact hd
  rw [Text.trim, Text.trimRight, List.mem_reverse]
  exact hdrop _ (List.mem_reverse.2 (hdrop cs h))

/-- A colon in a token is among its digits. -/
theorem colon_mem_splitBase {cs : List Char} (h : ':' ∈ cs) : ':' ∈ (splitBase cs).2 := by
  unfold splitBase
  split <;> simpa using h

/-- A token with a colon is no octet. -/
theorem readOctet_of_colon {t : List Char} (h : ':' ∈ t) : readOctet t = none := by
  have hdigits : ':' ∈ (splitBase (Text.trim t)).2 := colon_mem_splitBase (mem_trim h (by decide))
  have hread : Text.readNumeral (splitBase (Text.trim t)).1 (splitBase (Text.trim t)).2 = none :=
    Text.readNumeral_of_mem hdigits (by decide)
  simp only [readOctet, hread, Option.filter_none, Option.map_none]

/-- Every token is read as one octet. -/
theorem map_readOctet_of_readOctetTokens {n : Nat} {ts : List (List Char)} {bs : List UInt8}
    (h : readOctetTokens n ts = .ok bs) : ts.map readOctet = bs.map some ∧ bs.length = n := by
  induction n generalizing ts bs with
  | zero =>
    cases ts with
    | nil =>
      cases h
      exact ⟨rfl, rfl⟩
    | cons t ts => cases h
  | succ n ih =>
    cases ts with
    | nil => cases h
    | cons t ts =>
      rw [readOctetTokens] at h
      split at h
      · cases h
      · next b hb =>
        obtain ⟨bs', hts, rfl⟩ := Outcome.map_eq_ok_iff.1 h
        obtain ⟨hmap, hlength⟩ := ih hts
        rw [List.map_cons, List.map_cons, List.length_cons, hb, hmap, hlength]
        exact ⟨rfl, rfl⟩

/-- IPv4 text has no colon in it. -/
theorem colon_not_mem_of_readOctets {t : List Char} {o : Octets} (h : readOctets t = .ok o) :
    ':' ∉ t := by
  intro hc
  obtain ⟨u, hu, hcu⟩ := Text.exists_mem_splitOn (s := '.') hc (by decide)
  cases hts : readOctetTokens 4 (t.splitOn '.') with
  | error e => simp [readOctets, hts] at h
  | ok bs =>
    have hread : readOctet u ∈ bs.map some := by
      rw [← (map_readOctet_of_readOctetTokens hts).1]
      exact List.mem_map_of_mem hu
    rw [readOctet_of_colon hcu] at hread
    simp at hread

/-- IPv4 text has a dot in it. -/
theorem dot_mem_of_readOctets {t : List Char} {o : Octets} (h : readOctets t = .ok o) :
    '.' ∈ t := by
  by_contra hdot
  rw [readOctets, List.splitOn_eq_singleton hdot] at h
  cases ht : readOctet t with
  | none => simp [readOctetTokens, ht] at h
  | some b => simp [readOctetTokens, ht, Except.map] at h

/-! ## Tokens of IPv6 text -/

/-- Tokens with colons between them. -/
def colonJoin (ts : List (List Char)) : List Char := [':'].intercalate ts

/-- Two lists of tokens with `::` between them. -/
def elide (L R : List (List Char)) : List Char := colonJoin L ++ ':' :: ':' :: colonJoin R

/-- What splitting finds in a list of tokens: even where there is nothing, one empty token. -/
def edge : List (List Char) → List (List Char)
  | [] => [[]]
  | ts => ts

theorem edge_of_ne_nil {ts : List (List Char)} (h : ts ≠ []) : edge ts = ts := by
  cases ts with
  | nil => exact absurd rfl h
  | cons t ts => rfl

theorem length_edge_pos (ts : List (List Char)) : 0 < (edge ts).length := by
  cases ts <;> simp [edge]

theorem reverse_edge (ts : List (List Char)) : (edge ts).reverse = edge ts.reverse := by
  cases ts with
  | nil => rfl
  | cons t ts => rw [edge_of_ne_nil (List.cons_ne_nil t ts), edge_of_ne_nil (by simp)]

/-- Tokens without colons are found again between colons. -/
theorem splitOn_colonJoin {ts : List (List Char)} (h : ∀ t ∈ ts, ':' ∉ t) :
    (colonJoin ts).splitOn ':' = edge ts := by
  by_cases hts : ts = []
  · subst hts
    rfl
  · rw [edge_of_ne_nil hts]
    exact List.splitOn_intercalate ':' h hts

/-- A gap is an empty token between the tokens on its sides. -/
theorem splitOn_elide {L R : List (List Char)} (hL : ∀ t ∈ L, ':' ∉ t) (hR : ∀ t ∈ R, ':' ∉ t) :
    (elide L R).splitOn ':' = edge L ++ [] :: edge R := by
  have hright : (':' :: colonJoin R).splitOn ':' = [] :: edge R := by
    rw [← splitOn_colonJoin hR]
    exact List.splitOn_append_cons_self [] (colonJoin R)
  rw [elide, List.splitOn_append_cons_self, splitOn_colonJoin hL, hright]

/-- A `::` at an edge leaves one empty token too many there. -/
theorem mergeEdge_edge {ts : List (List Char)} (h : ∀ t ∈ ts, t ≠ []) (flaw : AddressFlaw)
    (r : List (List Char)) : mergeEdge flaw (edge ts ++ [] :: r) = .ok (ts ++ [] :: r) := by
  cases ts with
  | nil => rfl
  | cons t ts =>
    cases t with
    | nil => exact absurd rfl (h [] List.mem_cons_self)
    | cons c t => rfl

/-- An edge without a `::` is left alone. -/
theorem mergeEdge_of_forall {ts : List (List Char)} (h : ∀ t ∈ ts, t ≠ []) (flaw : AddressFlaw) :
    mergeEdge flaw ts = .ok ts := by
  cases ts with
  | nil => rfl
  | cons t ts =>
    cases t with
    | nil => exact absurd rfl (h [] List.mem_cons_self)
    | cons c t => rfl

/-- Tokens are found again in a text without a gap. -/
theorem groupTokens_colonJoin {ts : List (List Char)} (hcolon : ∀ t ∈ ts, ':' ∉ t)
    (hne : ∀ t ∈ ts, t ≠ []) (hlength : 3 ≤ ts.length) : groupTokens (colonJoin ts) = .ok ts := by
  have hts : ts ≠ [] := by
    rintro rfl
    cases hlength
  have henough : ¬ ts.length < 3 := Nat.not_lt.2 hlength
  have hne' : ∀ t ∈ ts.reverse, t ≠ [] := by simpa using hne
  rw [groupTokens, splitOn_colonJoin hcolon, edge_of_ne_nil hts, if_neg henough,
    mergeEdge_of_forall hne]
  simp only [mergeEdge_of_forall hne', Except.map, List.reverse_reverse]

/-- Tokens are found again on both sides of a gap. -/
theorem groupTokens_elide {L R : List (List Char)} (hcolonL : ∀ t ∈ L, ':' ∉ t)
    (hcolonR : ∀ t ∈ R, ':' ∉ t) (hneL : ∀ t ∈ L, t ≠ []) (hneR : ∀ t ∈ R, t ≠ []) :
    groupTokens (elide L R) = .ok (L ++ [] :: R) := by
  have henough : ¬ (edge L ++ [] :: edge R).length < 3 := by
    have hL := length_edge_pos L
    have hR := length_edge_pos R
    rw [List.length_append, List.length_cons]
    omega
  have hneR' : ∀ t ∈ R.reverse, t ≠ [] := by simpa using hneR
  -- the right edge is the left edge of the reversed tokens
  have hreverse : (L ++ [] :: edge R).reverse = edge R.reverse ++ [] :: L.reverse := by
    rw [List.reverse_append, List.reverse_cons, reverse_edge, List.append_assoc]
    rfl
  rw [groupTokens, splitOn_elide hcolonL hcolonR, if_neg henough, mergeEdge_edge hneL]
  simp only [hreverse, mergeEdge_edge hneR', Except.map, List.reverse_append, List.reverse_cons,
    List.reverse_reverse, List.append_assoc, List.singleton_append]

/-! ## Tokens and groups -/

/-- One to four hexadecimal digits, and the number that they stand for. -/
structure IsHexGroup (t : List Char) (g : UInt16) : Prop where
  ne_nil : t ≠ []
  length_le : t.length ≤ 4
  isDigit : ∀ c ∈ t, Text.isDigit 16 c = true
  value_eq : Text.numeralValue 16 t = g.toNat

/-- Nothing but digits is in a group. -/
theorem IsHexGroup.not_mem {t : List Char} {g : UInt16} (h : IsHexGroup t g) {c : Char}
    (hc : Text.digitValue c = none) : c ∉ t := by
  intro hmem
  obtain ⟨d, -, hd⟩ := Text.isDigit_iff.1 (h.isDigit c hmem)
  rw [hc] at hd
  cases hd

/-- A group is read from such a token and from no other. -/
theorem readGroup_eq_some_iff {t : List Char} {g : UInt16} :
    readGroup t = some g ↔ IsHexGroup t g := by
  constructor
  · intro h
    rw [readGroup] at h
    split at h
    · next hlength =>
      obtain ⟨n, hn, rfl⟩ := Option.map_eq_some_iff.1 h
      obtain ⟨hne, hdigits, rfl⟩ := Text.readNumeral_eq_some_iff.1 hn
      refine ⟨hne, hlength, hdigits, ?_⟩
      -- four digits do not reach beyond a group
      have hvalue := Text.numeralValue_lt hdigits
      have hpow : 16 ^ t.length ≤ 16 ^ 4 := Nat.pow_le_pow_right (by decide) hlength
      rw [UInt16.toNat_ofNat_of_lt' (by simpa using Nat.lt_of_lt_of_le hvalue hpow)]
    · cases h
  · intro h
    have hread := Text.readNumeral_eq_some_iff.2 ⟨h.ne_nil, h.isDigit, rfl⟩
    rw [readGroup, if_pos h.length_le, hread, h.value_eq, Option.map_some, UInt16.ofNat_toNat]

/-- Tokens that spell groups, each a hexadecimal numeral for one group. Where it is allowed, the
last one may spell two groups as an IPv4 address. -/
inductive Spelled (embeds : Bool) : List (List Char) → List UInt16 → Prop
  | nil : Spelled embeds [] []
  | group {t : List Char} {g : UInt16} {ts : List (List Char)} {gs : List UInt16}
      (hg : IsHexGroup t g) (h : Spelled embeds ts gs) : Spelled embeds (t :: ts) (g :: gs)
  | embedded {t : List Char} {o : Octets} (he : embeds = true) (ho : readOctets t = .ok o) :
      Spelled embeds [t] o.asGroups

namespace Spelled

variable {embeds : Bool} {ts : List (List Char)} {gs : List UInt16}

/-- No token that spells a group is empty. -/
theorem ne_nil (h : Spelled embeds ts gs) : ∀ t ∈ ts, t ≠ [] := by
  induction h with
  | nil => simp
  | group hg h ih => exact List.forall_mem_cons.2 ⟨hg.ne_nil, ih⟩
  | embedded he ho =>
    have hdot := dot_mem_of_readOctets ho
    simpa using List.ne_nil_of_mem hdot

/-- No token that spells a group has a colon in it. -/
theorem colon_not_mem (h : Spelled embeds ts gs) : ∀ t ∈ ts, ':' ∉ t := by
  induction h with
  | nil => simp
  | group hg h ih => exact List.forall_mem_cons.2 ⟨hg.not_mem rfl, ih⟩
  | embedded he ho => simpa using colon_not_mem_of_readOctets ho

/-- Only the last token may spell two groups. -/
theorem length_le (h : Spelled embeds ts gs) : gs.length ≤ ts.length + 1 := by
  induction h with
  | nil => simp
  | group hg h ih =>
    rw [List.length_cons, List.length_cons]
    omega
  | embedded he ho => simp [Octets.asGroups]

end Spelled

namespace ReadGroups

/-- The text of a group adds the group. -/
theorem take_group {t : List Char} {g : UInt16} (h : IsHexGroup t g) {p : ReadGroups}
    (hp : p.groups.length < 8) (isLast : Bool) :
    p.take isLast t = .ok { p with groups := p.groups ++ [g] } := by
  have hsome : t.isEmpty = false := List.isEmpty_eq_false_iff.2 h.ne_nil
  have hdot : t.contains '.' = false := by simpa using h.not_mem (c := '.') rfl
  have hread : readGroup t = some g := readGroup_eq_some_iff.2 h
  have hfits : (p.groups ++ [g]).length ≤ 8 := by
    rw [List.length_append, List.length_singleton]
    omega
  simp only [take, hsome, hdot, hread, Bool.false_eq_true, if_false, if_pos hfits]

/-- The text of an embedded address adds its two groups. -/
theorem take_embedded {t : List Char} {o : Octets} (h : readOctets t = .ok o) {p : ReadGroups}
    (hp : p.groups.length + 2 ≤ 8) :
    p.take true t = .ok { p with groups := p.groups ++ o.asGroups } := by
  have hmem := dot_mem_of_readOctets h
  have hsome : t.isEmpty = false := List.isEmpty_eq_false_iff.2 (List.ne_nil_of_mem hmem)
  have hdot : t.contains '.' = true := by simpa using hmem
  have hfits : (p.groups ++ o.asGroups).length ≤ 8 := by
    rw [List.length_append]
    exact hp
  simp only [take, hsome, hdot, h, Bool.false_eq_true, if_false, if_true, if_pos hfits]

/-- The first empty token marks the place of the gap. -/
theorem take_elision {p : ReadGroups} (he : p.elision = none) (hp : p.groups.length ≤ 8)
    (isLast : Bool) : p.take isLast [] = .ok { p with elision := some p.groups.length } := by
  simp only [take, he, List.isEmpty_nil, if_true, if_pos hp]

/-- Tokens that spell groups are taken in as these groups. The token that may be an IPv4 address
has to be the last. -/
theorem takeAll_spelled {embeds : Bool} {ts : List (List Char)} {gs : List UInt16}
    (h : Spelled embeds ts gs) {p : ReadGroups} (hp : p.groups.length + gs.length ≤ 8)
    {r : List (List Char)} (hr : embeds = true → r = []) :
    p.takeAll (ts ++ r) = { p with groups := p.groups ++ gs }.takeAll r := by
  induction h generalizing p with
  | nil => rw [List.nil_append, List.append_nil]
  | @group t g ts gs hg h ih =>
    rw [List.length_cons] at hp
    have hstep := take_group hg (p := p) (by omega) (ts ++ r).isEmpty
    rw [List.cons_append, takeAll, hstep]
    have hlength : ({ p with groups := p.groups ++ [g] } : ReadGroups).groups.length + gs.length ≤ 8
        := by
      rw [List.length_append, List.length_singleton]
      omega
    simp only [ih hlength, List.append_assoc, List.singleton_append]
  | embedded he ho =>
    -- nothing follows, so this token is the last
    rw [hr he, List.append_nil]
    simp only [takeAll, List.isEmpty_nil, take_embedded ho hp]

/-- Eight groups are an address. -/
theorem expand_full (g : Groups) : expand ⟨g.toList, none⟩ = .ok g := by
  have hlength : g.toList.length = 8 := Vector.length_toList
  simp only [expand, dif_pos hlength]
  rfl

/-- The gap is filled with as many zeros as are missing. -/
theorem expand_elided {g : Groups} {l r : List UInt16} (hlength : l.length + r.length ≤ 7)
    (hg : g.toList = l ++ List.replicate (8 - (l.length + r.length)) 0 ++ r) :
    expand ⟨l ++ r, some l.length⟩ = .ok g := by
  have hfew : ¬ (l ++ r).length = 8 := by
    rw [List.length_append]
    omega
  have hfilled : (l ++ r).take l.length ++ List.replicate (8 - (l ++ r).length) 0 ++
      (l ++ r).drop l.length = g.toList := by
    rw [List.take_left, List.drop_left, List.length_append, hg]
  have height : g.toList.length = 8 := Vector.length_toList
  simp only [expand, if_neg hfew, hfilled, dif_pos height]
  rfl

end ReadGroups

/-! ## IPv6 -/

/-- The texts of an address: all of its groups, or some of them with `::` in place of the zeros
between. -/
inductive Groups.WrittenAs (g : Groups) : List Char → Prop
  | full {ts : List (List Char)} (h : Spelled true ts g.toList) : g.WrittenAs (colonJoin ts)
  | elided {L R : List (List Char)} {l r : List UInt16} (hL : Spelled false L l)
      (hR : Spelled true R r) (hlength : l.length + r.length ≤ 7)
      (hg : g.toList = l ++ List.replicate (8 - (l.length + r.length)) 0 ++ r) :
      g.WrittenAs (elide L R)

/-- An IPv6 text has a colon in it, by which it is told from IPv4 text. -/
theorem Groups.WrittenAs.colon_mem {g : Groups} {cs : List Char} (h : g.WrittenAs cs) :
    ':' ∈ cs := by
  cases h with
  | @full ts h =>
    have hlength := h.length_le
    rw [Vector.length_toList] at hlength
    match ts, hlength with
    | t :: u :: r, _ => simp [colonJoin, List.intercalate_cons_cons]
  | elided hL hR hlength hg => simp [elide]

/-- A text of an address is read as this address. -/
theorem readGroups_of_writtenAs {g : Groups} {cs : List Char} (h : g.WrittenAs cs) :
    readGroups cs = .ok g := by
  cases h with
  | @full ts h =>
    -- eight groups take seven tokens at least
    have hlength := h.length_le
    rw [Vector.length_toList] at hlength
    have htake := ReadGroups.takeAll_spelled h (p := ⟨[], none⟩) (r := []) (by simp) fun _ => rfl
    rw [List.append_nil] at htake
    rw [readGroups, groupTokens_colonJoin h.colon_not_mem h.ne_nil (by omega)]
    simp only [htake, ReadGroups.takeAll, List.nil_append, ReadGroups.expand_full]
  | @elided L R l r hL hR hlength hg =>
    have hfirst := ReadGroups.takeAll_spelled hL (p := ⟨[], none⟩) (r := [] :: R) (by simp; omega)
      (by simp)
    have hsecond := ReadGroups.takeAll_spelled hR (p := ⟨l, some l.length⟩) (r := [])
      (by simp; omega) fun _ => rfl
    have helision := ReadGroups.take_elision (p := ⟨l, none⟩) rfl (by simp; omega) R.isEmpty
    rw [List.append_nil] at hsecond
    rw [readGroups, groupTokens_elide hL.colon_not_mem hR.colon_not_mem hL.ne_nil hR.ne_nil]
    simp only [hfirst, List.nil_append, ReadGroups.takeAll, helision, hsecond,
      ReadGroups.expand_elided hlength hg]

end LinkWatch
