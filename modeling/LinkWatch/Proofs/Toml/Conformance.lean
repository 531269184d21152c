import LinkWatch.Proofs.Keyed
import LinkWatch.Proofs.Settings.Conformance
import LinkWatch.Proofs.Toml.Lines

/-!
# Plain files as TOML

The reader of TOML documents keeps the rules of plain files (`conforms_tomlReader`). A plain file is
what its lines make of an empty document, one after another (`parse_fileText`), so that the rules are
facts about the effect of a line (`effect`), and about the tables that a document has so far.
-/

namespace LinkWatch.Settings

open Keyed (lookup_cons_if)
open Toml (Value Entries Document openTable modifyAt addKey setEntry unlines readDocument)

/-! ## Lines -/

/-- A remark of a plain file is one for the reader. -/
theorem isRemark_toList {text : String} (h : isRemark text = true) :
    Toml.isRemark text.toList = true := by
  rw [isRemark, Bool.and_eq_true] at h
  obtain ⟨hhead, hall⟩ := h
  cases htext : text.toList with
  | nil => rfl
  | cons c r =>
    rw [htext] at hhead hall
    have hc : c = '#' := by simpa using hhead
    subst hc
    show r.all Toml.isVisible = true
    rw [List.all_cons, Bool.and_eq_true] at hall
    rw [List.all_eq_true] at hall ⊢
    intro d hd
    have hvisible := hall.2 d hd
    simp only [Toml.isVisible, Bool.or_eq_true]
    exact .inr hvisible

/-- A bare name of a plain file is a bare key for the reader. -/
theorem isBareKey_of_isBareName {name : String} (h : isBareName name = true) :
    Toml.IsBareKey name.toList := by
  rw [isBareName, Bool.and_eq_true] at h
  refine ⟨?_, List.all_eq_true.1 h.2⟩
  rintro hnil
  rw [hnil] at h
  cases h.1

/-- What a line makes of a document. -/
def effect (d : Document) : Line → Option Document
  | .remark _ => some d
  | .header name => (openTable name d.entries).map fun es => ⟨es, [name]⟩
  | .setting key n =>
    (modifyAt d.path (addKey [] key (.integer (some n))) d.entries).map fun es => ⟨es, d.path⟩

/-- The reader goes on after a line with what the line makes of the document. -/
theorem readDocument_effect {l : Line} (hl : l.isPlain = true) (n : Nat) (d : Document)
    (rest : List Char) :
    readDocument (n + 1) d (l.text.toList ++ '\n' :: rest) =
      (effect d l).bind fun d => readDocument (if l.isEntry then n else n + 1) d rest := by
  cases l with
  -- a remark is skipped on the way to the next line and takes nothing from the bound
  | remark text => exact Toml.readDocument_remark (isRemark_toList hl) (n + 1) d rest
  | header name =>
    have htext : (Line.header name).text.toList = '[' :: (name.toList ++ [']']) := by
      simp [Line.text, String.toList_append]
    have hread := Toml.readDocument_header (isBareKey_of_isBareName hl) n d rest
    rw [htext, hread, String.ofList_toList]
    rfl
  | setting key k =>
    rw [Line.isPlain, Bool.and_eq_true] at hl
    have htext : (Line.setting key k).text.toList =
        key.toList ++ ' ' :: '=' :: ' ' :: Text.decimal k := by
      simp [Line.text, String.toList_append, Text.decimal]
    have hread := Toml.readDocument_setting (isBareKey_of_isBareName hl.1)
      (Toml.isPlainWord_decimal k) (Toml.readWord_decimal k) n d rest
    rw [htext, hread, String.ofList_toList]
    rfl

/-- No line begins with a byte order mark. -/
theorem head?_text_ne {l : Line} (hl : l.isPlain = true) (rest : List Char) :
    (l.text.toList ++ '\n' :: rest).head? ≠ some '\uFEFF' := by
  cases l with
  | remark text =>
    have hhead := (Bool.and_eq_true_iff.1 hl).1
    show (text.toList ++ '\n' :: rest).head? ≠ some '\uFEFF'
    cases htext : text.toList with
    | nil => simp
    | cons c r =>
      rw [htext] at hhead
      have hc : c = '#' := by simpa using hhead
      simp [hc]
  | header name => simp [Line.text, String.toList_append]
  | setting key n =>
    -- the mark is no character of a bare key
    rw [Line.isPlain, Bool.and_eq_true] at hl
    obtain ⟨c, k, hkey⟩ := List.exists_cons_of_ne_nil (isBareKey_of_isBareName hl.1).1
    have hc : Toml.isBareKeyChar c = true :=
      (isBareKey_of_isBareName hl.1).2 c (hkey ▸ List.mem_cons_self)
    have htext : (Line.setting key n).text.toList = c :: k ++ (" = " ++ toString n).toList := by
      simp [Line.text, String.toList_append, hkey]
    rw [htext]
    intro hmark
    cases hmark
    exact absurd hc (by decide)

/-! ## Whole files -/

/-- What lines make of a document, one after another. -/
def effects (d : Document) (ls : List Line) : Option Document := ls.foldlM effect d

theorem effects_append (d : Document) (ls ls' : List Line) :
    effects d (ls ++ ls') = (effects d ls).bind fun d => effects d ls' :=
  List.foldlM_append

theorem effects_cons (d : Document) (l : Line) (ls : List Line) :
    effects d (l :: ls) = (effect d l).bind fun d => effects d ls :=
  List.foldlM_cons

/-- Each line takes one from the bound, or none if it is a remark. -/
theorem readDocument_effects {ls : List Line} (hls : ls.all Line.isPlain) (d : Document) {n : Nat}
    (hn : ls.length < n) :
    readDocument n d (unlines (ls.map (·.text.toList))) = (effects d ls).map (·.entries) := by
  induction ls generalizing d n with
  | nil =>
    obtain ⟨n, rfl⟩ := Nat.exists_eq_succ_of_ne_zero (Nat.ne_zero_of_lt hn)
    rfl
  | cons l ls ih =>
    obtain ⟨n, rfl⟩ := Nat.exists_eq_succ_of_ne_zero (Nat.ne_zero_of_lt hn)
    rw [List.all_cons, Bool.and_eq_true] at hls
    have hrest : ls.length < if l.isEntry then n else n + 1 := by
      rw [List.length_cons] at hn
      split <;> omega
    rw [List.map_cons, Toml.unlines_cons, readDocument_effect hls.1, effects_cons, Option.map_bind]
    exact Option.bind_congr fun d _ => ih hls.2 d hrest

/-- A plain file is what its lines make of an empty document. -/
theorem parse_fileText {ls : List Line} (hls : ls.all Line.isPlain) :
    Toml.parse (fileText ls) = (effects ⟨[], []⟩ ls).map (·.entries) := by
  have htext : (fileText ls).toList = unlines (ls.map (·.text.toList)) := by
    have hjoin := Toml.toList_join_newline (ls.map Line.text)
    rw [List.map_map, List.map_map] at hjoin
    exact hjoin
  -- the bound of the reader counts characters, and each line has one at least
  have hbound : ls.length < (unlines (ls.map (·.text.toList))).length + 1 := by
    have hlength := Toml.length_le_length_unlines (ls.map (·.text.toList))
    rw [List.length_map] at hlength
    exact Nat.lt_succ_of_le hlength
  have hmark : (unlines (ls.map (·.text.toList))).head? ≠ some '\uFEFF' := by
    cases ls with
    | nil => simp [unlines]
    | cons l ls =>
      rw [List.all_cons, Bool.and_eq_true] at hls
      rw [List.map_cons, Toml.unlines_cons]
      exact head?_text_ne hls.1 _
  rw [Toml.parse, htext]
  split
  · next r heq =>
    rw [heq] at hmark
    exact absurd rfl hmark
  · exact readDocument_effects hls _ hbound

/-- A file is read with its tables if they are what its lines make of an empty document. -/
theorem reads_fileText_iff {ls : List Line} (hls : ls.all Line.isPlain) (ts : Tables) :
    tomlReader.Reads (fileText ls) ts ↔
      ∃ d, effects ⟨[], []⟩ ls = some d ∧ tomlReader.HasTables (.table .header d.entries) ts := by
  have hdocument : tomlReader.document (fileText ls) =
      (effects ⟨[], []⟩ ls).map fun d => .table .header d.entries := by
    show (Toml.parse (fileText ls)).map _ = _
    rw [parse_fileText hls, Option.map_map]
    rfl
  rw [FileReader.Reads, hdocument]
  simp only [Option.map_eq_some_iff]
  constructor
  · rintro ⟨_, ⟨d, hd, rfl⟩, htables⟩
    exact ⟨d, hd, htables⟩
  · rintro ⟨d, hd, htables⟩
    exact ⟨_, ⟨d, hd, rfl⟩, htables⟩

/-! ## Tables -/

section Tables

variable {β : Type} {rel : Value → β → Prop} {origin : Toml.Origin} {entries : Entries}
  {es : List (String × β)}

/-- A table has the entries that are found in it. -/
theorem hasEntries_iff :
    tomlReader.HasEntries rel (.table origin entries) es ↔
      ∀ key, Option.Rel rel (entries.lookup key) (es.lookup key) := by
  constructor
  · rintro ⟨find, hfind, hall⟩
    cases hfind
    exact hall
  · exact fun hall => ⟨_, rfl, hall⟩

/-- Only a table has entries. -/
theorem exists_table_of_hasEntries {v : Value} (h : tomlReader.HasEntries rel v es) :
    ∃ origin entries, v = .table origin entries := by
  obtain ⟨find, hfind, -⟩ := h
  cases v with
  | table origin entries => exact ⟨origin, entries, rfl⟩
  | _ => cases hfind

theorem lookup_eq_none_of_rel {key : String}
    (h : Option.Rel rel (entries.lookup key) (es.lookup key)) (hnone : es.lookup key = none) :
    entries.lookup key = none := by
  rw [hnone] at h
  cases hlookup : entries.lookup key with
  | none => rfl
  | some v =>
    rw [hlookup] at h
    cases h

/-- Every entry is one of those that are known. -/
theorem isSome_lookup_of_mem (h : tomlReader.HasEntries rel (.table origin entries) es)
    {e : String × Value} (he : e ∈ entries) : (es.lookup e.1).isSome := by
  cases hlookup : es.lookup e.1 with
  | some b => rfl
  | none =>
    have hnone := lookup_eq_none_of_rel (hasEntries_iff.1 h e.1) hlookup
    rw [List.lookup_eq_none_iff] at hnone
    exact absurd (hnone e he) (by simp)

/-- A new entry is added at the end. -/
theorem hasEntries_append (h : tomlReader.HasEntries rel (.table origin entries) es) {key : String}
    (hnone : es.lookup key = none) {v : Value} {b : β} (hrel : rel v b) (origin' : Toml.Origin) :
    tomlReader.HasEntries rel (.table origin' (entries ++ [(key, v)])) ((key, b) :: es) := by
  rw [hasEntries_iff] at h ⊢
  intro k
  rw [List.lookup_append, lookup_cons_if, lookup_cons_if]
  by_cases hk : k = key
  · subst hk
    rw [lookup_eq_none_of_rel (h k) hnone, if_pos rfl, if_pos rfl]
    exact .some hrel
  · rw [if_neg hk, if_neg hk, List.lookup_nil, Option.or_none]
    exact h k

/-- Replacing an entry changes what is under its own key only. -/
theorem lookup_setEntry (key : String) (v : Value) (entries : Entries) (k : String) :
    (setEntry key v entries).lookup k = if k = key then some v else entries.lookup k := by
  induction entries with
  | nil => rw [setEntry, lookup_cons_if]
  | cons e entries ih =>
    obtain ⟨l, w⟩ := e
    rw [setEntry]
    by_cases hl : l = key
    · subst hl
      rw [if_pos rfl, lookup_cons_if, lookup_cons_if]
      split <;> rfl
    · rw [if_neg hl, lookup_cons_if, lookup_cons_if, ih]
      by_cases hk : k = l
      · rw [if_pos hk, if_pos hk, if_neg (hk ▸ hl)]
      · rw [if_neg hk, if_neg hk]

/-- An entry is replaced in its place. -/
theorem hasEntries_setEntry {key : String} {b b' : β}
    (h : tomlReader.HasEntries rel (.table origin entries) ((key, b) :: es)) {v : Value}
    (hrel : rel v b') :
    tomlReader.HasEntries rel (.table origin (setEntry key v entries)) ((key, b') :: es) := by
  rw [hasEntries_iff] at h ⊢
  intro k
  have hk := h k
  rw [lookup_cons_if] at hk ⊢
  rw [lookup_setEntry]
  by_cases heq : k = key
  · rw [if_pos heq, if_pos heq]
    exact .some hrel
  · rwa [if_neg heq, if_neg heq] at *

end Tables

/-! ## Sections -/

/-- The lines belong to a table that has a header. -/
def Inside (name : String) (d : Document) : Prop :=
  d.path = [name] ∧ ∃ entries, d.entries.lookup name = some (.table .header entries)

/-- The lines after a header belong to its table. -/
theorem inside_header {name : String} {d d' : Document} (h : effect d (.header name) = some d') :
    Inside name d' := by
  obtain ⟨es, hes, rfl⟩ := Option.map_eq_some_iff.1 h
  refine ⟨rfl, ?_⟩
  unfold openTable at hes
  split at hes
  -- the table is new, or it was there as part of a path and has no header yet
  · next hnone =>
    cases hes
    exact ⟨[], by simp [List.lookup_append, hnone]⟩
  · next entries _ =>
    cases hes
    exact ⟨entries, by simp [lookup_setEntry]⟩
  · cases hes

/-- A setting is added to the table that the line belongs to. -/
theorem effect_setting {name : String} {d : Document} (hpath : d.path = [name]) {entries : Entries}
    (hlookup : d.entries.lookup name = some (.table .header entries)) (key : String) (n : Nat) :
    effect d (.setting key n) =
      (addKey [] key (.integer (some n)) entries).map fun es =>
        ⟨setEntry name (.table .header es) d.entries, [name]⟩ := by
  rw [effect, hpath]
  simp only [modifyAt, hlookup, Option.map_map]
  rfl

/-- A line that is no header stays in the table of the one before it. -/
theorem Inside.effect {name : String} {d d' : Document} (h : Inside name d) {l : Line}
    (hl : l.isHeader = false) (hd : effect d l = some d') : Inside name d' := by
  cases l with
  | remark text =>
    cases hd
    exact h
  | header other => cases hl
  | setting key n =>
    obtain ⟨hpath, entries, hlookup⟩ := h
    rw [effect_setting hpath hlookup] at hd
    obtain ⟨es, -, rfl⟩ := Option.map_eq_some_iff.1 hd
    exact ⟨rfl, es, by simp [lookup_setEntry]⟩

/-- Until the next header comes the lines belong to the same table. -/
theorem Inside.effects {name : String} {d d' : Document} (h : Inside name d) {body : List Line}
    (hbody : body.all (!·.isHeader)) (hd : effects d body = some d') : Inside name d' := by
  induction body generalizing d with
  | nil =>
    cases hd
    exact h
  | cons l body ih =>
    rw [List.all_cons, Bool.and_eq_true, Bool.not_eq_true'] at hbody
    rw [effects_cons, Option.bind_eq_some_iff] at hd
    obtain ⟨d1, hd1, hd⟩ := hd
    exact ih (h.effect hbody.1 hd1) hbody.2 hd

/-! ## The rules -/

/-- A header opens a table. -/
theorem reads_header {ls : List Line} {ts : Tables} {name : String}
    (hplain : (ls ++ [Line.header name]).all Line.isPlain) (hreads : tomlReader.Reads (fileText ls) ts)
    (hnone : ts.lookup name = none) :
    tomlReader.Reads (fileText (ls ++ [.header name])) ((name, []) :: ts) := by
  have hls : ls.all Line.isPlain := (Bool.and_eq_true_iff.1 (List.all_append ▸ hplain)).1
  obtain ⟨d, hd, htables⟩ := (reads_fileText_iff hls ts).1 hreads
  have hfresh := lookup_eq_none_of_rel (hasEntries_iff.1 htables name) hnone
  refine (reads_fileText_iff hplain _).2
    ⟨⟨d.entries ++ [(name, .table .header [])], [name]⟩, ?_, ?_⟩
  · rw [effects_append, hd, Option.bind_some, effects_cons, effect, openTable, hfresh]
    rfl
  · exact hasEntries_append htables hnone (hasEntries_iff.2 fun _ => .none) _

/-- A setting goes into the table of the header before it. -/
theorem reads_setting {before body : List Line} {name key : String} {n : Nat}
    {es : List (String × Nat)} {ts : Tables}
    (hplain : (before ++ Line.header name :: (body ++ [.setting key n])).all Line.isPlain)
    (hbody : body.all (!·.isHeader))
    (hreads : tomlReader.Reads (fileText (before ++ .header name :: body)) ((name, es) :: ts))
    (hnone : es.lookup key = none) :
    tomlReader.Reads (fileText (before ++ .header name :: (body ++ [.setting key n])))
      ((name, (key, n) :: es) :: ts) := by
  have hassoc : before ++ Line.header name :: (body ++ [.setting key n]) =
      (before ++ .header name :: body) ++ [.setting key n] := by simp
  rw [hassoc] at hplain ⊢
  have hls := (Bool.and_eq_true_iff.1 (List.all_append ▸ hplain)).1
  obtain ⟨d, hd, htables⟩ := (reads_fileText_iff hls _).1 hreads
  -- the last line belongs to the table of the header
  have hinside : Inside name d := by
    rw [effects_append, Option.bind_eq_some_iff] at hd
    obtain ⟨d1, -, hd⟩ := hd
    rw [effects_cons, Option.bind_eq_some_iff] at hd
    obtain ⟨d2, hd2, hd⟩ := hd
    exact (inside_header hd2).effects hbody hd
  obtain ⟨hpath, entries, hlookup⟩ := hinside
  -- and that table holds what is known of it so far
  have hsettings : tomlReader.HasSettings (.table .header entries) es := by
    have hrel := hasEntries_iff.1 htables name
    rw [hlookup, List.lookup_cons_self] at hrel
    cases hrel with
    | some h => exact h
  have hfresh := lookup_eq_none_of_rel (hasEntries_iff.1 hsettings key) hnone
  refine (reads_fileText_iff hplain _).2
    ⟨⟨setEntry name (.table .header (entries ++ [(key, .integer (some n))])) d.entries, [name]⟩,
      ?_, ?_⟩
  · rw [effects_append, hd, Option.bind_some, effects_cons, effect_setting hpath hlookup, addKey,
      hfresh]
    rfl
  · exact hasEntries_setEntry htables (hasEntries_append hsettings hnone rfl _)

/-! ## Settings -/

/-- The settings of a section that is missing or is a table of known settings. -/
theorem exists_readSection {entries : Entries} {origin : Toml.Origin} {ts : Tables}
    (htables : tomlReader.HasTables (.table origin entries) ts) (name : String)
    (names : List String) (haveDefaults : Bool)
    (hknown : ∀ key, (ts.setting name key).isSome → key ∈ names) :
    ∃ find, readSection names haveDefaults (sectionOf entries name) = some find ∧
      ∀ key, Option.Rel (fun v (n : Nat) => tomlReader.integer? v = some (n : Int)) (find key)
        (ts.setting name key) := by
  have hrel := hasEntries_iff.1 htables name
  unfold sectionOf Tables.setting at *
  cases hes : ts.lookup name with
  | none =>
    rw [lookup_eq_none_of_rel (hasEntries_iff.1 htables name) hes]
    exact ⟨_, rfl, fun _ => .none⟩
  | some es =>
    rw [hes] at hrel hknown
    cases hv : entries.lookup name with
    | none =>
      rw [hv] at hrel
      cases hrel
    | some v =>
      rw [hv] at hrel
      cases hrel with
      | some hsettings =>
        obtain ⟨origin, inner, rfl⟩ := exists_table_of_hasEntries hsettings
        have hinner := hasEntries_iff.1 hsettings
        -- no key of the section is unknown, which the reader would refuse
        refine ⟨fun key => inner.lookup key, if_pos ?_, hinner⟩
        rw [List.all_eq_true]
        intro e he
        exact List.contains_iff_mem.2 (hknown e.1 (isSome_lookup_of_mem hsettings he))

theorem readOptional_of_rel {α : Type} {read : Value → Option α} {v : Option Value}
    (h : Option.Rel (fun w (n : Nat) => tomlReader.integer? w = some (n : Int)) v none) :
    readOptional read v = some none := by
  cases h
  rfl

theorem readDefaulted_of_rel {α : Type} {otherwise : α} {read : Value → Option α}
    {v : Option Value}
    (h : Option.Rel (fun w (n : Nat) => tomlReader.integer? w = some (n : Int)) v none) :
    readDefaulted otherwise read v = some otherwise := by
  cases h
  rfl

/-- An interval is read back from the number that it is. -/
theorem readOptional_milliseconds {v : Option Value} {interval : Option UInt64}
    (h : Option.Rel (fun w (n : Nat) => tomlReader.integer? w = some (n : Int)) v
      (interval.map UInt64.toNat)) :
    readOptional readMilliseconds v = some interval := by
  cases interval with
  | none => exact readOptional_of_rel h
  | some ms =>
    cases h with
    | some hn =>
      next w =>
      cases w with
      | integer m =>
        have hm : m = some (ms.toNat : Int) := hn
        have hle : (ms.toNat : Int) ≤ 0xffffffffffffffff := by
          have hlt := ms.toNat_lt
          omega
        rw [hm, readOptional, readMilliseconds, if_pos ⟨Int.natCast_nonneg _, hle⟩]
        simp
      | _ => cases hn

/-- Sections and settings that are missing take their defaults. -/
theorem settings_tomlReader {root : Value} {ts : Tables} {interval : Option UInt64}
    (htables : tomlReader.HasTables root ts) (hts : ts.Says interval) :
    tomlReader.settings root = some { FileSettings.empty with pollInterval := interval } := by
  obtain ⟨origin, entries, rfl⟩ := exists_table_of_hasEntries htables
  have hsections : entries.all (fun e => ["monitor", "filter", "display"].contains e.1) = true := by
    rw [List.all_eq_true]
    intro e he
    exact List.contains_iff_mem.2 (hts.sections e.1 (isSome_lookup_of_mem htables he))
  have hnone {name key : String} (hne : ¬ (name = "monitor" ∧ key = "poll_interval_ms")) :
      ts.setting name key = none :=
    Option.not_isSome_iff_eq_none.1 fun hsome => hne (hts.nothingElse name key hsome)
  -- the other sections hold nothing
  have hempty (name : String) (hne : name ≠ "monitor") (names : List String) (haveDefaults : Bool) :
      ∃ find, readSection names haveDefaults (sectionOf entries name) = some find ∧
        ∀ key, Option.Rel (fun v (n : Nat) => tomlReader.integer? v = some (n : Int)) (find key)
          none := by
    obtain ⟨find, hfind, hrel⟩ := exists_readSection htables name names haveDefaults
      fun key hkey => absurd (hts.nothingElse name key hkey).1 hne
    refine ⟨find, hfind, fun key => ?_⟩
    have hkey := hrel key
    rwa [hnone fun heq => hne heq.1] at hkey
  obtain ⟨monitor, hmonitor, hinterval⟩ := exists_readSection htables "monitor"
    ["poll_interval_ms"] false fun key hkey => by simp [(hts.nothingElse _ key hkey).2]
  obtain ⟨filter, hfilter, hfilters⟩ := hempty "filter" (by decide)
    ["include", "exclude", "exclude_virtual", "exclude_loopback"] true
  obtain ⟨display, hdisplay, hdisplays⟩ := hempty "display" (by decide)
    ["mac_separator", "mac_uppercase"] false
  have hms : readOptional readMilliseconds (monitor "poll_interval_ms") = some interval :=
    readOptional_milliseconds (hts.interval ▸ hinterval "poll_interval_ms")
  show ofEntries entries = _
  simp only [ofEntries, hsections, hmonitor, hfilter, hdisplay, Bool.not_true, Bool.false_eq_true,
    if_false, Option.bind_eq_bind, Option.bind_some, hms, readDefaulted_of_rel (hfilters _),
    readOptional_of_rel (hdisplays _)]
  rfl

/-- TOML documents keep the rules of plain files. -/
theorem conforms_tomlReader : tomlReader.Conforms where
  empty := (reads_fileText_iff rfl []).2 ⟨⟨[], []⟩, rfl, hasEntries_iff.2 fun _ => .none⟩
  remark := by
    intro before text after hplain
    have hrest : (before ++ after).all Line.isPlain := by
      simp only [List.all_append, List.all_cons, Bool.and_eq_true] at hplain ⊢
      exact ⟨hplain.1, hplain.2.2⟩
    have heffects : effects ⟨[], []⟩ (before ++ .remark text :: after) =
        effects ⟨[], []⟩ (before ++ after) := by
      rw [effects_append, effects_append]
      rfl
    show (Toml.parse _).map _ = (Toml.parse _).map _
    rw [parse_fileText hplain, parse_fileText hrest, heffects]
  header := fun _ _ _ => reads_header
  setting := fun _ _ _ _ _ _ _ => reads_setting
  settings := fun _ _ _ => settings_tomlReader

end LinkWatch.Settings
