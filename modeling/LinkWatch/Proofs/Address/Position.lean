import Mathlib.Data.List.Basic
import LinkWatch.Proofs.Address.Reading

/-!
# Reading by position

The readers of address text take lists apart by their shape. This module writes them once more with
positions: elements and parts of lists are asked for and replaced by number, and numbers are
subtracted. What leaves the range of a list, or would be less than zero, ends the reading with
`Stop.outOfRange`. This never happens: by position the same addresses are read and the same texts
are refused, for the same reasons (`readOctets_eq`, `readGroups_eq`). With the grammar this says what
becomes of every text that has a colon in it (`parse_colon_text`).
-/

namespace LinkWatch.ByPosition

/-! ## Access by position -/

/-- Why reading by position ends early. -/
inductive Stop where
  /-- There is nothing at the position that was asked for. -/
  | outOfRange
  /-- The text is refused. -/
  | refused (flaw : AddressFlaw)

/-- A refusal of the text, as a reason to stop. -/
def refusing {α : Type} (r : Except AddressFlaw α) : Except Stop α := r.mapError .refused

@[simp] theorem refusing_ok {α : Type} (a : α) : refusing (.ok a) = .ok a := rfl

section Access

variable {α : Type}

/-- The distance from one position to another that is not before it. -/
def distance (i j : Nat) : Except Stop Nat :=
  if i ≤ j then .ok (j - i) else .error .outOfRange

/-- The element at a position. -/
def item (l : List α) (i : Nat) : Except Stop α :=
  match l[i]? with
  | some a => .ok a
  | none => .error .outOfRange

/-- Puts an element in place of the one at a position. -/
def put (l : List α) (i : Nat) (a : α) : Except Stop (List α) :=
  if i < l.length then .ok (l.set i a) else .error .outOfRange

/-- Takes out the element at a position. -/
def remove (l : List α) (i : Nat) : Except Stop (List α) :=
  if i < l.length then .ok (l.eraseIdx i) else .error .outOfRange

/-- The elements from one position up to another. -/
def slice (l : List α) (i j : Nat) : Except Stop (List α) :=
  if i ≤ j ∧ j ≤ l.length then .ok ((l.take j).drop i) else .error .outOfRange

/-- Puts other elements in place of those from one position up to another, as many as these. -/
def fill (l : List α) (i j : Nat) (r : List α) : Except Stop (List α) :=
  if i ≤ j ∧ j ≤ l.length ∧ r.length = j - i then .ok (l.take i ++ r ++ l.drop j)
  else .error .outOfRange

variable {l r : List α} {a : α} {i j : Nat}

theorem distance_eq (h : i ≤ j) : distance i j = .ok (j - i) := if_pos h

/-- Reading at a position that is there succeeds. -/
theorem item_eq (h : l[i]? = some a) : item l i = .ok a := by rw [item, h]

/-- Writing at a position that is there succeeds. -/
theorem put_eq (h : i < l.length) : put l i a = .ok (l.set i a) := if_pos h

/-- Removing at a position that is there succeeds. -/
theorem remove_eq (h : i < l.length) : remove l i = .ok (l.eraseIdx i) := if_pos h

theorem slice_eq (h : i ≤ j) (hj : j ≤ l.length) : slice l i j = .ok ((l.take j).drop i) :=
  if_pos ⟨h, hj⟩

/-- Filling a range of the right length succeeds. -/
theorem fill_eq (h : i ≤ j) (hj : j ≤ l.length) (hr : r.length = j - i) :
    fill l i j r = .ok (l.take i ++ r ++ l.drop j) := if_pos ⟨h, hj, hr⟩

/-- A computation that goes on after it was successful. -/
@[simp] theorem ok_bind {β γ : Type} (b : β) (f : β → Except Stop γ) :
    (Except.ok b >>= f) = f b := rfl

end Access

/-! ## IPv4 -/

/-- Puts the octets of tokens into places, from one place on. -/
def storeOctets (places : List UInt8) (count : Nat) :
    List (List Char) → Except Stop (List UInt8)
  | [] => if count = places.length then .ok places else .error (.refused .tokenCount)
  | t :: ts =>
    if count = places.length then .error (.refused .tokenCount)
    else
      match readOctet t with
      | none => .error (.refused .badToken)
      | some b => do
        let stored ← put places count b
        storeOctets stored (count + 1) ts

/-- Reads IPv4 text into four places. -/
def readOctets (cs : List Char) : Except Stop (List UInt8) :=
  storeOctets [0, 0, 0, 0] 0 (cs.splitOn '.')

/-- The tokens from a place on fill this place and those behind it. -/
theorem storeOctets_eq {places : List UInt8} {count : Nat} (hcount : count ≤ places.length)
    (ts : List (List Char)) :
    storeOctets places count ts =
      refusing ((readOctetTokens (places.length - count) ts).map (places.take count ++ ·)) := by
  -- on the tokens, with any number of places filled so far
  induction ts generalizing places count with
  | nil =>
    rw [storeOctets]
    split
    · next hfull =>
      rw [hfull, Nat.sub_self, List.take_length]
      exact congrArg Except.ok (List.append_nil places).symm
    · next hfull =>
      obtain ⟨n, hn⟩ : ∃ n, places.length - count = n + 1 := ⟨places.length - count - 1, by omega⟩
      rw [hn]
      rfl
  | cons t ts ih =>
    rw [storeOctets]
    split
    · next hfull =>
      rw [hfull, Nat.sub_self]
      rfl
    · next hfull =>
      have hlt : count < places.length := by omega
      obtain ⟨n, hn⟩ : ∃ n, places.length - count = n + 1 := ⟨places.length - count - 1, by omega⟩
      rw [hn, readOctetTokens]
      cases readOctet t with
      | none => rfl
      | some b =>
        -- the place is filled, and the places up to it are what the other reader has so far
        have hrest : (places.set count b).length - (count + 1) = n := by
          rw [List.length_set]
          omega
        have htake : (places.set count b).take (count + 1) = places.take count ++ [b] := by
          rw [List.take_add_one, List.take_set_of_le (Nat.le_refl _),
            List.getElem?_set_self hlt, Option.toList_some]
        have hfits : count + 1 ≤ (places.set count b).length := by
          rw [List.length_set]
          omega
        simp only [put_eq hlt, ok_bind]
        rw [ih hfits, hrest, htake]
        cases readOctetTokens n ts with
        | error e => rfl
        | ok bs => simp [Except.map, refusing, Except.mapError]

/-- By position the same is read as IPv4. -/
theorem readOctets_eq (cs : List Char) :
    readOctets cs = refusing ((LinkWatch.readOctets cs).map (·.toList)) := by
  rw [readOctets, storeOctets_eq (Nat.zero_le _), LinkWatch.readOctets]
  change refusing ((readOctetTokens 4 (cs.splitOn '.')).map ([] ++ ·)) = _
  cases h : readOctetTokens 4 (cs.splitOn '.') with
  | error e => rfl
  | ok bs =>
    obtain ⟨a, b, c, d, rfl⟩ := List.length_eq_four.1 (map_readOctet_of_readOctetTokens h).2
    rfl

/-! ## IPv6 -/

/-- Of two empty tokens at the start, takes out one. -/
def mergeStart (tokens : List (List Char)) : Except Stop (List (List Char)) := do
  if tokens.length < 2 then return tokens
  let first ← item tokens 0
  if !first.isEmpty then return tokens
  let second ← item tokens 1
  if second.isEmpty then remove tokens 0 else .error (.refused .leadingColon)

/-- Of two empty tokens at the end, takes out one. -/
def mergeEnd (tokens : List (List Char)) : Except Stop (List (List Char)) := do
  if tokens.length < 2 then return tokens
  let last ← item tokens (← distance 1 tokens.length)
  if !last.isEmpty then return tokens
  let second ← item tokens (← distance 2 tokens.length)
  if second.isEmpty then remove tokens (← distance 1 tokens.length)
  else .error (.refused .trailingColon)

/-- Reads IPv4 text as two groups. -/
def readEmbedded (t : List Char) : Except Stop (List UInt16) :=
  match readOctets t with
  | .error .outOfRange => .error .outOfRange
  | .error (.refused _) => .error (.refused .badEmbedded)
  | .ok os => do
    let upper := joinOctets (← item os 0) (← item os 1)
    let lower := joinOctets (← item os 2) (← item os 3)
    .ok [upper, lower]

/-- Takes in the token at a position, of which the last is known. -/
def take (last : Nat) (p : ReadGroups) (index : Nat) (t : List Char) :
    Except Stop ReadGroups := do
  let q ←
    if t.isEmpty then
      if p.elision.isSome then .error (.refused .repeatedElision)
      else .ok { p with elision := some p.groups.length }
    else if t.contains '.' then
      if index = last then do
        let gs ← readEmbedded t
        .ok { p with groups := p.groups ++ gs }
      else .error (.refused .embeddedNotLast)
    else
      match readGroup t with
      | some g => .ok { p with groups := p.groups ++ [g] }
      | none => .error (.refused .badGroup)
  if q.groups.length ≤ 8 then .ok q else .error (.refused .tooManyGroups)

/-- Takes in tokens in order, from a position on. -/
def takeAll (last : Nat) (p : ReadGroups) (index : Nat) :
    List (List Char) → Except Stop ReadGroups
  | [] => .ok p
  | t :: ts => do
    let q ← take last p index t
    takeAll last q (index + 1) ts

/-- Puts the groups into eight places: those before the elision from the front, those behind it up
to the end. -/
def expand (p : ReadGroups) : Except Stop (List UInt16) := do
  let places := List.replicate 8 0
  match p.elision with
  | none => if p.groups.length = 8 then fill places 0 8 p.groups else .error (.refused .groupCount)
  | some k =>
    if p.groups.length = 8 then .error (.refused .emptyElision)
    else
      let behind ← distance k p.groups.length
      let front ← fill places 0 k (← slice p.groups 0 k)
      fill front (← distance behind 8) 8 (← slice p.groups k p.groups.length)

/-- Reads IPv6 text into eight places. -/
def readGroups (cs : List Char) : Except Stop (List UInt16) := do
  let tokens := cs.splitOn ':'
  if tokens.length < 3 then .error (.refused .tooFewGroups)
  else
    let tokens ← mergeStart tokens
    let tokens ← mergeEnd tokens
    let p ← takeAll (← distance 1 tokens.length) ⟨[], none⟩ 0 tokens
    expand p

/-! ### The edges -/

/-- The colon at the start is taken off as in the reader by cases. -/
theorem mergeStart_eq (tokens : List (List Char)) :
    mergeStart tokens = refusing (mergeEdge .leadingColon tokens) := by
  match tokens with
  | [] => rfl
  | [t] => cases t <;> rfl
  | t :: u :: ts => cases t <;> cases u <;> rfl

/-- The end of the tokens is the start of the reversed tokens. -/
theorem mergeEnd_eq (tokens : List (List Char)) :
    mergeEnd tokens =
      refusing ((mergeEdge .trailingColon tokens.reverse).map List.reverse) := by
  obtain ⟨ts, rfl⟩ : ∃ ts, tokens = ts.reverse := ⟨tokens.reverse, by simp⟩
  rw [List.reverse_reverse]
  match ts with
  | [] => rfl
  | [t] => cases t <;> rfl
  | t :: u :: ts =>
    -- with two tokens at least, every position that is asked for is there
    have hlength : (t :: u :: ts).reverse.length = ts.length + 2 := by simp
    have hmany : ¬ ts.length + 2 < 2 := by omega
    have hlast : item (t :: u :: ts).reverse (ts.length + 1) = .ok t := item_eq (by simp)
    have hsecond : item (t :: u :: ts).reverse ts.length = .ok u := item_eq (by simp)
    have hremove : remove (t :: u :: ts).reverse (ts.length + 1) = .ok (u :: ts).reverse := by
      rw [remove_eq (by simp), List.reverse_cons, List.eraseIdx_append_of_length_le (by simp)]
      simp
    have hone : distance 1 (ts.length + 2) = .ok (ts.length + 1) := distance_eq (by omega)
    have htwo : distance 2 (ts.length + 2) = .ok ts.length := distance_eq (by omega)
    simp only [mergeEnd, hlength, if_neg hmany, hone, htwo, ok_bind, hlast, hsecond, hremove]
    cases t <;> cases u <;> rfl

/-! ### Tokens and groups -/

/-- An embedded address is read as in the reader by cases. -/
theorem readEmbedded_eq (t : List Char) :
    readEmbedded t =
      match LinkWatch.readOctets t with
      | .ok o => .ok o.asGroups
      | .error _ => .error (.refused .badEmbedded) := by
  rw [readEmbedded, readOctets_eq]
  cases LinkWatch.readOctets t with
  | error e => rfl
  | ok o =>
    obtain ⟨a, b, c, d, rfl⟩ := o.exists_eq
    rfl

/-- A token is taken as in the reader by cases. -/
theorem take_eq (last : Nat) (p : ReadGroups) (index : Nat) (t : List Char) :
    take last p index t = refusing (p.take (index == last) t) := by
  rw [take, ReadGroups.take]
  -- both readers ask the same in the same order: a gap, an embedded address, a group
  by_cases hempty : t.isEmpty = true
  · rw [if_pos hempty, if_pos hempty]
    cases p.elision with
    | none =>
      simp only [Option.isSome_none, Bool.false_eq_true, if_false, ok_bind]
      split <;> rfl
    | some k => rfl
  · rw [if_neg hempty, if_neg hempty]
    by_cases hdot : t.contains '.' = true
    · rw [if_pos hdot, if_pos hdot, readEmbedded_eq]
      by_cases hlast : index = last
      · rw [if_pos hlast, if_pos (beq_iff_eq.2 hlast)]
        cases LinkWatch.readOctets t with
        | error e => rfl
        | ok o =>
          simp only [ok_bind]
          split <;> rfl
      · rw [if_neg hlast, if_neg (by simpa using hlast)]
        rfl
    · rw [if_neg hdot, if_neg hdot]
      cases readGroup t with
      | none => rfl
      | some g =>
        simp only [ok_bind]
        split <;> rfl

/-- The last position is the one behind which no token is left. -/
theorem takeAll_eq {last : Nat} {p : ReadGroups} {index : Nat} {ts : List (List Char)}
    (h : index + ts.length = last + 1) :
    takeAll last p index ts = refusing (p.takeAll ts) := by
  induction ts generalizing p index with
  | nil => rfl
  | cons t ts ih =>
    rw [List.length_cons] at h
    have hlast : (index == last) = ts.isEmpty := by
      rw [Bool.eq_iff_iff, beq_iff_eq, List.isEmpty_iff_length_eq_zero]
      omega
    rw [takeAll, ReadGroups.takeAll, take_eq, hlast]
    cases p.take ts.isEmpty t with
    | error e => rfl
    | ok q => exact ih (by omega)

/-- The places that the groups are put into are the eight of the address. -/
theorem expand_eq {gs : List UInt16} : expand ⟨gs, none⟩ =
    refusing ((ReadGroups.expand ⟨gs, none⟩).map (·.toList)) := by
  by_cases h : gs.length = 8
  · have hfill : fill (List.replicate 8 0) 0 8 gs = .ok gs := by
      rw [fill_eq (by decide) (by decide) h]
      simp
    simp only [expand, ReadGroups.expand, if_pos h, dif_pos h, hfill]
    rfl
  · simp only [expand, ReadGroups.expand, if_neg h, dif_neg h]
    rfl

/-- The zeros that were left out are put back at their position. -/
theorem expand_elided_eq {l r : List UInt16} (h : l.length + r.length ≤ 8) :
    expand ⟨l ++ r, some l.length⟩ =
      refusing ((ReadGroups.expand ⟨l ++ r, some l.length⟩).map (·.toList)) := by
  have hlength : (l ++ r).length = l.length + r.length := List.length_append
  by_cases hfull : l.length + r.length = 8
  · simp only [expand, ReadGroups.expand, hlength, if_pos hfull]
    rfl
  · -- the groups before the gap go to the front, those behind it to the end, between them zeros
    have hbehind : distance l.length (l.length + r.length) = .ok r.length := by
      rw [distance_eq (by omega), Nat.add_sub_cancel_left]
    have hstart : distance r.length 8 = .ok (8 - r.length) := distance_eq (by omega)
    have hl : slice (l ++ r) 0 l.length = .ok l := by
      rw [slice_eq (by omega) (by omega)]
      simp
    have hr : slice (l ++ r) l.length (l.length + r.length) = .ok r := by
      rw [slice_eq (by omega) (by omega), ← hlength, List.take_length, List.drop_left]
    have hfront : fill (List.replicate 8 0) 0 l.length l =
        .ok (l ++ List.replicate (8 - l.length) 0) := by
      rw [fill_eq (by omega) (by rw [List.length_replicate]; omega) (by omega), List.take_zero,
        List.nil_append, List.drop_replicate]
    have hfilled : fill (l ++ List.replicate (8 - l.length) 0) (8 - r.length) 8 r =
        .ok (l ++ List.replicate (8 - (l.length + r.length)) 0 ++ r) := by
      have hplaces : (l ++ List.replicate (8 - l.length) (0 : UInt16)).length = 8 := by
        rw [List.length_append, List.length_replicate]
        omega
      have hcount : 8 - r.length - l.length = 8 - (l.length + r.length) := by omega
      rw [fill_eq (by omega) (by omega) (by omega), List.take_append,
        List.take_of_length_le (by omega), List.take_replicate, hcount,
        Nat.min_eq_left (by omega), List.drop_eq_nil_of_le (by omega), List.append_nil]
    have hgroups : (l ++ List.replicate (8 - (l.length + r.length)) 0 ++ r).length = 8 := by
      rw [List.length_append, List.length_append, List.length_replicate]
      omega
    simp only [expand, ReadGroups.expand, hlength, if_neg hfull, hbehind, hstart, hl, hr, hfront,
      hfilled, ok_bind, List.take_left, List.drop_left, dif_pos hgroups]
    rfl

/-! ### The text -/

/-- By position the same is read as IPv6, and no position is out of range. -/
theorem readGroups_eq (cs : List Char) :
    readGroups cs = refusing ((LinkWatch.readGroups cs).map (·.toList)) := by
  by_cases hfew : (cs.splitOn ':').length < 3
  · simp only [readGroups, LinkWatch.readGroups, groupTokens, if_pos hfew]
    rfl
  · simp only [readGroups, LinkWatch.readGroups, groupTokens, if_neg hfew, mergeStart_eq]
    cases hstart : mergeEdge .leadingColon (cs.splitOn ':') with
    | error e => rfl
    | ok us =>
      simp only [refusing_ok, ok_bind, mergeEnd_eq]
      cases hend : mergeEdge .trailingColon us.reverse with
      | error e => rfl
      | ok vs =>
        -- one token at least is left, so that there is a last one
        have hus := length_le_of_mergeEdge hstart
        have hvs := length_le_of_mergeEdge hend
        rw [List.length_reverse] at hvs
        have hlast : distance 1 vs.reverse.length = .ok (vs.length - 1) := by
          rw [List.length_reverse]
          exact distance_eq (by omega)
        have hall : takeAll (vs.length - 1) ⟨[], none⟩ 0 vs.reverse =
            refusing ((ReadGroups.mk [] none).takeAll vs.reverse) := by
          apply takeAll_eq
          rw [List.length_reverse]
          omega
        simp only [Except.map, refusing_ok, ok_bind, hlast, hall]
        cases hp : (ReadGroups.mk [] none).takeAll vs.reverse with
        | error e => rfl
        | ok p =>
          simp only [refusing_ok, ok_bind]
          have hlength := ReadGroups.length_le_of_takeAll (Nat.zero_le _) hp
          rcases ReadGroups.spelled_or_elided_of_takeAll rfl hp with
            ⟨gs, -, rfl⟩ | ⟨L, R, l, r, -, -, -, rfl⟩
          · exact expand_eq
          · rw [List.length_append] at hlength
            exact expand_elided_eq hlength

end LinkWatch.ByPosition

namespace LinkWatch.IpAddress

/-- A text with a colon is read as an address if it is a text of this address by the grammar of
IPv6, and only then. Any other is refused as a whole, whichever part of it is wrong. By position the
same is read, and no position is out of range. -/
theorem parse_colon_text {s : String} (hs : ':' ∈ s.toList) :
    (∀ a, parse s = .ok a ↔ ∃ g : Groups, a = .v6 g ∧ g.WrittenAs s.toList) ∧
      ((∀ g : Groups, ¬ g.WrittenAs s.toList) → ∃ flaw, parse s = .error (.malformed s flaw)) ∧
      ByPosition.readGroups s.toList =
        ByPosition.refusing ((readGroups s.toList).map (·.toList)) ∧
      ByPosition.readGroups s.toList ≠ .error .outOfRange := by
  have hcolon : s.toList.contains ':' = true := by simpa using hs
  have hparse : parse s = ((readGroups s.toList).map .v6).mapError (.malformed s) := by
    rw [parse, ofChars, if_pos hcolon]
  have hposition := ByPosition.readGroups_eq s.toList
  refine ⟨fun a => ?_, fun hnone => ?_, hposition, ?_⟩
  · rw [hparse]
    constructor
    · intro h
      cases hread : readGroups s.toList with
      | error flaw =>
        rw [hread] at h
        cases h
      | ok g =>
        rw [hread] at h
        cases h
        exact ⟨g, rfl, readGroups_eq_ok_iff.1 hread⟩
    · rintro ⟨g, rfl, hg⟩
      rw [readGroups_eq_ok_iff.2 hg]
      rfl
  · rw [hparse]
    cases hread : readGroups s.toList with
    | error flaw => exact ⟨flaw, rfl⟩
    | ok g => exact absurd (readGroups_eq_ok_iff.1 hread) (hnone g)
  · rw [hposition]
    cases readGroups s.toList with
    | error flaw => exact nofun
    | ok g => exact nofun

/-- A text with an embedded address after the gap is read, and it is one that the address may be
written as. -/
theorem parse_colon_text_embedded :
    ':' ∈ "1::ffff:0X7f.0.0.1".toList ∧
      parse "1::ffff:0X7f.0.0.1" = .ok (.v6 #v[1, 0, 0, 0, 0, 0xffff, 0x7f00, 1]) ∧
      Groups.WrittenAs #v[1, 0, 0, 0, 0, 0xffff, 0x7f00, 1] "1::ffff:0X7f.0.0.1".toList ∧
      ((∀ g : Groups, ¬ g.WrittenAs "1::ffff:0X7f.0.0.1".toList) →
        ∃ flaw, parse "1::ffff:0X7f.0.0.1" = .error (.malformed "1::ffff:0X7f.0.0.1" flaw)) ∧
      ByPosition.readGroups "1::ffff:0X7f.0.0.1".toList =
        ByPosition.refusing ((readGroups "1::ffff:0X7f.0.0.1".toList).map (·.toList)) ∧
      ByPosition.readGroups "1::ffff:0X7f.0.0.1".toList ≠ .error .outOfRange := by
  have hcolon : ':' ∈ "1::ffff:0X7f.0.0.1".toList := by decide
  have hread : parse "1::ffff:0X7f.0.0.1" = .ok (.v6 #v[1, 0, 0, 0, 0, 0xffff, 0x7f00, 1]) := rfl
  obtain ⟨haccepts, hrest⟩ := parse_colon_text hcolon
  obtain ⟨g, hg, hwritten⟩ := (haccepts _).1 hread
  cases hg
  exact ⟨hcolon, hread, hwritten, hrest⟩

end LinkWatch.IpAddress
