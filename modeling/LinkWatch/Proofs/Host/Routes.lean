import LinkWatch.Host.Routes
import LinkWatch.Proofs.Keyed
import LinkWatch.Proofs.Text.Join
import LinkWatch.Proofs.Text.Numeral
import LinkWatch.Proofs.Text.Words

/-!
# Default gateways of a routing table

A line of the table is a route if its first three words are a name and two hexadecimal words
(`ofLine_eq_some_iff`), and the routes of a table are those of the lines after the first
(`routes_eq`). They are taken one by one into the lists of their names, so that the list of a name is
made by its own default routes alone: the gateways of these, each once and where it first appears
(`get?_defaultGateways`).

A table as the kernel writes it is read back (`routes_render`), whatever other lines stand between
the routes.
-/

namespace LinkWatch.Host

open Text

/-! ## One line -/

/-- The texts that are read as a word: a hexadecimal numeral, with or without a plus sign. -/
def IsHexWord (column : List Char) (w : UInt32) : Prop := IsUnsigned 16 column w.toNat

theorem readWord_eq_some_iff {column : List Char} {w : UInt32} :
    Route.readWord column = some w ↔ IsHexWord column w := by
  rw [Route.readWord, Option.map_eq_some_iff, IsHexWord]
  constructor
  · rintro ⟨n, hn, rfl⟩
    obtain ⟨hcolumn, hle⟩ := readUnsigned_eq_some_iff.1 hn
    rwa [UInt32.toNat_ofNat_of_lt' (Nat.lt_succ_of_le hle)]
  · intro h
    exact ⟨w.toNat, readUnsigned_eq_some_iff.2 ⟨h, Nat.le_of_lt_succ w.toNat_lt⟩, UInt32.ofNat_toNat⟩

/-- A line is a route if and only if its first three words are a name and two hexadecimal words. -/
theorem ofLine_eq_some_iff {line : List Char} {r : Route} :
    Route.ofLine line = some r ↔
      ∃ d g, StartsWith [r.interface.toList, d, g] line ∧ IsHexWord d r.destination ∧
        IsHexWord g r.gateway := by
  simp only [startsWith_iff, ← readWord_eq_some_iff]
  rw [Route.ofLine]
  constructor
  · intro h
    split at h
    · next n d g rest hwords =>
      split at h
      · next destination gateway hd hg =>
        cases h
        refine ⟨d, g, ?_, hd, hg⟩
        rw [hwords, String.toList_ofList]
        exact List.prefix_append [n, d, g] rest
      · cases h
    · cases h
  · rintro ⟨d, g, ⟨rest, hwords⟩, hd, hg⟩
    rw [← hwords]
    simp [hd, hg]

/-- A blank at the end of a line makes no difference. -/
theorem ofLine_concat_of_isBlank (line : List Char) {c : Char} (hc : isBlank c = true) :
    Route.ofLine (line ++ [c]) = Route.ofLine line := by
  rw [Route.ofLine, Route.ofLine, words_concat_of_isBlank line hc]

/-! ## The lines of a table -/

/-- The routes of a table are those of the lines after the first. -/
theorem routes_eq (table : String) :
    routes table = ((table.toList.splitOn '\n').drop 1).filterMap Route.ofLine :=
  filterMap_drop_lines rfl (fun line => ofLine_concat_of_isBlank line (by decide)) 1 _

/-- The routes of more lines come after those of the lines so far. -/
theorem routes_append (table more : String) :
    routes (table ++ "\n" ++ more) =
      routes table ++ (more.toList.splitOn '\n').filterMap Route.ofLine := by
  have htext : (table ++ "\n" ++ more).toList = table.toList ++ '\n' :: more.toList := by
    simp
  have hone : 1 ≤ (table.toList.splitOn '\n').length :=
    List.length_pos_of_ne_nil (List.splitOn_ne_nil _ _)
  rw [routes_eq, routes_eq, htext, List.splitOn_append_cons_self, List.drop_append_of_le_length hone,
    List.filterMap_append]

/-! ## Gateways -/

/-- The gateways of the default routes of an interface, in order. -/
def gatewaysIn (rs : List Route) (n : String) : List IpAddress :=
  (rs.filter fun r => r.interface = n ∧ r.destination = 0 ∧ r.gateway ≠ 0).map fun r =>
    .v4 (Route.littleEndian r.gateway)

/-- Addresses each once, where they first appear; none at all are not listed. -/
def listed (l : List IpAddress) : Option (List IpAddress) :=
  if l = [] then none else some l.eraseDups

/-- Further addresses come behind those that are listed. -/
theorem listed_isPrefix (l r : List IpAddress) :
    (listed l).getD [] <+: (listed (l ++ r)).getD [] := by
  have hlisted (l : List IpAddress) : (listed l).getD [] = l.eraseDups := by
    rw [listed]
    split
    · next hnil => rw [hnil]; rfl
    · rfl
  rw [hlisted, hlisted, List.eraseDups_append]
  exact List.prefix_append _ _

theorem gatewaysIn_append (rs rs' : List Route) (n : String) :
    gatewaysIn (rs ++ rs') n = gatewaysIn rs n ++ gatewaysIn rs' n := by
  simp [gatewaysIn]

/-- Octet `i` of an address weighs `256 ^ i` in its word. -/
theorem littleEndian_getElem (w : UInt32) (i : Nat) (h : i < 4) :
    ((Route.littleEndian w)[i]).toNat = w.toNat / 256 ^ i % 256 := by
  match i with
  | 0 | 1 | 2 | 3 => simp [Route.littleEndian]

theorem foldl_addOnce (l : List IpAddress) :
    l.foldl (fun l a => addOnce a l) [] = l.eraseDups := by
  -- the last address comes off the end
  induction l using List.reverseRecOn with
  | nil => rfl
  | append_singleton l a ih =>
    rw [List.foldl_concat, ih, addOnce, List.eraseDups_append]
    by_cases h : a ∈ l <;> simp [List.removeAll, List.eraseDups_cons, h]

theorem nodup_addOnce {l : List IpAddress} (h : l.Nodup) (a : IpAddress) : (addOnce a l).Nodup := by
  rw [addOnce]
  split
  · exact h
  · next hnew =>
    have ha : a ∉ l := by simpa using hnew
    refine List.nodup_append.2 ⟨h, List.pairwise_singleton _ a, fun b hb c hc hbc => ?_⟩
    obtain rfl := List.mem_singleton.1 hc
    exact ha (hbc ▸ hb)

theorem nodup_eraseDups (l : List IpAddress) : l.eraseDups.Nodup := by
  rw [← foldl_addOnce]
  induction l using List.reverseRecOn with
  | nil => exact List.nodup_nil
  | append_singleton l a ih =>
    rw [List.foldl_concat]
    exact nodup_addOnce ih a

/-- An address without any bit set comes from no other word than zero. -/
theorem littleEndian_ne_zero {w : UInt32} (hw : w ≠ 0) : Route.littleEndian w ≠ #v[0, 0, 0, 0] := by
  intro h
  have hoctet (i : Nat) (hi : i < 4) : w.toNat / 256 ^ i % 256 = 0 := by
    rw [← littleEndian_getElem w i hi, h]
    match i with
    | 0 | 1 | 2 | 3 => rfl
  have h0 := hoctet 0 (by decide)
  have h1 := hoctet 1 (by decide)
  have h2 := hoctet 2 (by decide)
  have h3 := hoctet 3 (by decide)
  have hlt := w.toNat_lt
  refine hw (UInt32.toNat_inj.1 ?_)
  change w.toNat = 0
  omega

/-- The name under which a route counts. -/
def Route.listedUnder (r : Route) : Option String :=
  if r.destination = 0 ∧ r.gateway ≠ 0 then some r.interface else none

theorem itemsOf_listedUnder (rs : List Route) (n : String) :
    Keyed.itemsOf Route.listedUnder rs n =
      rs.filter fun r => r.interface = n ∧ r.destination = 0 ∧ r.gateway ≠ 0 := by
  refine List.filter_congr fun r _ => ?_
  rw [Route.listedUnder]
  by_cases h : r.destination = 0 ∧ r.gateway ≠ 0 <;> simp [h]

/-- The gateways are collected under the names of their interfaces. -/
theorem defaultGateways_eq_collect (table : String) :
    defaultGateways table =
      (routes table).foldl
        (Keyed.collect Route.listedUnder (fun _ _ => [])
          fun r => addOnce (.v4 (Route.littleEndian r.gateway))) .empty := by
  rw [defaultGateways]
  congr 1
  funext m r
  rw [Keyed.collect, Route.defaultGateway, Route.listedUnder]
  by_cases h : r.destination = 0 ∧ r.gateway ≠ 0
  · rw [if_pos h, if_pos h]
  · rw [if_neg h, if_neg h]

theorem get?_defaultGateways (table : String) (n : String) :
    (defaultGateways table).get? n = listed (gatewaysIn (routes table) n) := by
  rw [defaultGateways_eq_collect, Keyed.get?_collected, itemsOf_listedUnder, listed, gatewaysIn,
    ← foldl_addOnce, List.foldl_map]
  cases (routes table).filter fun r => r.interface = n ∧ r.destination = 0 ∧ r.gateway ≠ 0 <;> rfl

/-- The gateways that are listed under a name are IPv4 addresses with a bit set, none of them twice. -/
theorem listed_gateways {table n : String} {gs : List IpAddress}
    (h : (defaultGateways table).get? n = some gs) :
    gs.Nodup ∧ ∀ g ∈ gs, ∃ o : Octets, g = .v4 o ∧ o ≠ #v[0, 0, 0, 0] := by
  rw [get?_defaultGateways, listed] at h
  split at h
  · cases h
  · cases h
    refine ⟨nodup_eraseDups _, fun g hg => ?_⟩
    rw [List.mem_eraseDups, gatewaysIn, List.mem_map] at hg
    obtain ⟨r, hr, rfl⟩ := hg
    have hdefault := (List.mem_filter.1 hr).2
    simp only [decide_eq_true_eq] at hdefault
    exact ⟨_, rfl, littleEndian_ne_zero hdefault.2.2⟩

/-! ## Rendering -/

/-- A word as the kernel writes it: eight hexadecimal digits in upper case. -/
def hexWord (w : UInt32) : List Char :=
  [3, 2, 1, 0].flatMap fun i => hexPair true (UInt8.ofNat (w.toNat / 256 ^ i))

/-- A line of a table. -/
inductive Line where
  /-- A route in its columns, and what stands behind these. -/
  | route (r : Route) (more : List Char)
  | other (text : List Char)

namespace Line

/-- The line in the table: columns with tabs between them. -/
def text : Line → List Char
  | route r more =>
    r.interface.toList ++ '\t' :: hexWord r.destination ++ '\t' :: hexWord r.gateway ++ more
  | other text => text

/-- The route of a line. -/
def route? : Line → Option Route
  | route r _ => some r
  | other _ => none

/-- The names of routes are words, further columns come after a blank, and the other lines are no
routes. -/
def Proper : Line → Prop
  | route r more => IsWord r.interface.toList ∧ AtEnd more ∧ '\n' ∉ more
  | other text => Route.ofLine text = none ∧ '\n' ∉ text

end Line

/-- A table of a header and lines. -/
def render (header : List Char) (lines : List Line) : String :=
  String.ofList (header ++ '\n' :: lines.flatMap fun l => l.text ++ ['\n'])

theorem isNumeral_hexWord (w : UInt32) : IsNumeral 16 (hexWord w) w.toNat := by
  have hpair (i : Nat) := isNumeral_hexPair true (UInt8.ofNat (w.toNat / 256 ^ i))
  have hpairs := (((hpair 3).append (hpair 2)).append (hpair 1)).append (hpair 0)
  have htext : hexWord w =
      hexPair true (UInt8.ofNat (w.toNat / 256 ^ 3)) ++
          hexPair true (UInt8.ofNat (w.toNat / 256 ^ 2)) ++
        hexPair true (UInt8.ofNat (w.toNat / 256 ^ 1)) ++
      hexPair true (UInt8.ofNat (w.toNat / 256 ^ 0)) := by
    simp [hexWord]
  have hlength (b : UInt8) : (hexPair true b).length = 2 := rfl
  have hlt := w.toNat_lt
  rw [htext]
  -- the digits of a byte count for 256 times as much as those of the next
  refine ⟨hpairs.ne_nil, hpairs.isDigit, hpairs.value_eq.trans ?_⟩
  simp only [hlength, UInt8.toNat_ofNat']
  omega

theorem isHexWord_hexWord (w : UInt32) : IsHexWord (hexWord w) w :=
  ⟨hexWord w, .inl rfl, isNumeral_hexWord w⟩

theorem isWord_hexWord (w : UInt32) : IsWord (hexWord w) where
  ne_nil := (isNumeral_hexWord w).ne_nil
  forall_not_blank c hc := isBlank_of_isDigit ((isNumeral_hexWord w).isDigit c hc)

theorem Line.ofLine_text {l : Line} (h : l.Proper) : Route.ofLine l.text = l.route? := by
  cases l with
  | other text => exact h.1
  | route r more =>
    obtain ⟨hname, hmore, -⟩ := h
    have htab : ∀ c ∈ ['\t'], isBlank c = true := by
      intro c hc
      rw [List.mem_singleton.1 hc]
      decide
    have hend (cs : List Char) : AtEnd ('\t' :: cs) := by
      rintro c ⟨⟩
      decide
    -- the columns from the last to the first
    have hgateway := StartsWith.cons htab (isWord_hexWord r.gateway) hmore (.nil _)
    have hdestination := StartsWith.cons htab (isWord_hexWord r.destination) (hend _) hgateway
    have hwords := StartsWith.cons (b := []) (by simp) hname (hend _) hdestination
    refine ofLine_eq_some_iff.2 ⟨_, _, ?_, isHexWord_hexWord _, isHexWord_hexWord _⟩
    simpa [text] using hwords

theorem Line.not_mem_text {l : Line} (h : l.Proper) : '\n' ∉ l.text := by
  cases l with
  | other text => exact h.2
  | route r more =>
    obtain ⟨hname, -, hmore⟩ := h
    have hword {w : List Char} (hw : IsWord w) : '\n' ∉ w := by
      intro hc
      exact absurd (hw.forall_not_blank _ hc) (by decide)
    simp [text, hword hname, hword (isWord_hexWord _), hmore]

/-- A table that was written is read back. -/
theorem routes_render {header : List Char} {lines : List Line} (hheader : '\n' ∉ header)
    (h : ∀ l ∈ lines, l.Proper) : routes (render header lines) = lines.filterMap Line.route? := by
  have hlines : (lines.flatMap fun l => l.text ++ ['\n']).splitOn '\n' =
      lines.map Line.text ++ [[]] := by
    induction lines with
    | nil => rfl
    | cons l lines ih =>
      rw [List.flatMap_cons, List.append_assoc, List.singleton_append,
        List.splitOn_append_cons_self_of_not_mem (Line.not_mem_text (h l List.mem_cons_self)),
        ih fun l' hl' => h l' (List.mem_cons_of_mem _ hl')]
      rfl
  rw [routes_eq, render, String.toList_ofList, List.splitOn_append_cons_self_of_not_mem hheader,
    hlines, List.drop_one, List.tail_cons, List.filterMap_append, List.filterMap_map]
  -- the piece behind the last line feed is empty
  have hempty : [([] : List Char)].filterMap Route.ofLine = [] := rfl
  rw [hempty, List.append_nil]
  exact List.filterMap_congr fun l hl => Line.ofLine_text (h l hl)

/-! ## Main result -/

/-- The rows of a table are the lines after the first of which the first three words are a name and
two hexadecimal words, the destination and the gateway. A name has the addresses of its gateways in
the rows with destination zero, those that are not zero, each once and in the order of first
appearance, and it is absent if there is none. The octets of an address are those of the word in
little-endian order.

So a table that is written line by line, with other lines between the routes, gives the gateways of
the default routes that were written; and lines that are appended only extend the lists at the end,
whether the last line was ended or not. -/
theorem gateways_listed_by_first_appearance :
    (∀ table, routes table = ((table.toList.splitOn '\n').drop 1).filterMap Route.ofLine) ∧
    (∀ line r, Route.ofLine line = some r ↔
      ∃ d g, StartsWith [r.interface.toList, d, g] line ∧ IsHexWord d r.destination ∧
        IsHexWord g r.gateway) ∧
    (∀ table n, (defaultGateways table).get? n = listed (gatewaysIn (routes table) n)) ∧
    (∀ (w : UInt32) i (h : i < 4), ((Route.littleEndian w)[i]).toNat = w.toNat / 256 ^ i % 256) ∧
    (∀ header lines, '\n' ∉ header → (∀ l ∈ lines, Line.Proper l) → ∀ n,
      (defaultGateways (render header lines)).get? n =
        listed (gatewaysIn (lines.filterMap Line.route?) n)) ∧
    (∀ table, defaultGateways (table ++ "\n") = defaultGateways table) ∧
    (∀ table more n, ((defaultGateways table).get? n).getD [] <+:
      ((defaultGateways (table ++ "\n" ++ more)).get? n).getD []) := by
  refine ⟨routes_eq, fun _ _ => ofLine_eq_some_iff, get?_defaultGateways, littleEndian_getElem,
    fun header lines hheader h n => ?_, fun table => ?_, fun table more n => ?_⟩
  · rw [get?_defaultGateways, routes_render hheader h]
  · refine Keyed.ext_get? fun n => ?_
    have happend := routes_append table ""
    rw [String.append_empty] at happend
    rw [get?_defaultGateways, get?_defaultGateways, happend]
    exact congrArg (fun rs => listed (gatewaysIn rs n)) (List.append_nil _)
  · rw [get?_defaultGateways, get?_defaultGateways, routes_append, gatewaysIn_append]
    exact listed_isPrefix _ _

/-- Two routes over one gateway, with a broken line between them, give the gateway once. -/
theorem gateways_listed_by_first_appearance_of_two :
    let header := "Iface\tDestination\tGateway".toList
    let route : Line := .route ⟨"eth0", 0, 0x0101A8C0⟩ "\t0003".toList
    let lines : List Line := [route, .other "broken".toList, route]
    '\n' ∉ header ∧ (∀ l ∈ lines, l.Proper) ∧
      (defaultGateways (render header lines)).get? "eth0" = some [.v4 #v[192, 168, 1, 1]] := by
  intro header route lines
  have hheader : '\n' ∉ header := by decide
  have hproper : ∀ l ∈ lines, l.Proper := by
    have hroute : route.Proper := by
      have hname : "eth0".toList.all (!isBlank ·) = true := by decide
      refine ⟨⟨by decide, fun c hc => ?_⟩, ?_, by decide⟩
      · simpa using List.all_eq_true.1 hname c hc
      · rintro c ⟨⟩
        decide
    have hother : (Line.other "broken".toList).Proper := ⟨by decide +kernel, by decide⟩
    intro l hl
    rcases List.mem_cons.1 hl with rfl | hl
    · exact hroute
    · rcases List.mem_cons.1 hl with rfl | hl
      · exact hother
      · rw [List.mem_singleton.1 hl]
        exact hroute
  obtain ⟨-, -, -, -, hrender, -, -⟩ := gateways_listed_by_first_appearance
  exact ⟨hheader, hproper, (hrender header lines hheader hproper "eth0").trans (by decide)⟩

end LinkWatch.Host
