import LinkWatch.Settings.File

/-!
# What is asked of a reader of settings files

The reader of settings files is no part of the program. What the program may count on is said here
for plain files, whose lines are empty lines, comments, headers of tables, and settings that are
natural numbers. A reader conforms (`FileReader.Conforms`) if it skips empty lines and comments, if
a header opens a table, if a setting goes into the table of the header before it, and if what is
missing from a file takes its default.

In a file that such a reader reads, the remarks make no difference wherever they stand
(`FileReader.Conforms.document_filter`).
-/

namespace LinkWatch.Settings

/-! ## Plain files -/

/-- A line of a plain file. -/
inductive Line where
  /-- An empty line or a comment, as it is written. -/
  | remark (text : String)
  | header (name : String)
  | setting (key : String) (n : Nat)
deriving Repr, DecidableEq

/-- The text of a line, without its end. -/
def Line.text : Line → String
  | .remark text => text
  | .header name => "[" ++ name ++ "]"
  | .setting key n => key ++ " = " ++ toString n

/-- True for nothing, and for a comment without control characters. -/
def isRemark (text : String) : Bool :=
  text.toList.head?.all (· == '#') && text.toList.all fun c => 0x20 ≤ c.toNat && c.toNat != 0x7F

/-- True for a name that needs no quotes. -/
def isBareName (name : String) : Bool :=
  !name.toList.isEmpty && name.toList.all fun c => c.isAlphanum || c == '_' || c == '-'

/-- True for a line that is written as it should be. Integers have 64 bits, one of them for the
sign. -/
def Line.isPlain : Line → Bool
  | .remark text => isRemark text
  | .header name => isBareName name
  | .setting key n => isBareName key && n < 0x8000000000000000

def Line.isHeader : Line → Bool
  | .header _ => true
  | _ => false

/-- True for a line that says something. -/
def Line.isEntry : Line → Bool
  | .remark _ => false
  | _ => true

/-- Lines one after another, each with its end. -/
def fileText (ls : List Line) : String := String.join (ls.map (·.text ++ "\n"))

/-- The tables of a plain file by name, each with its settings. -/
abbrev Tables := List (String × List (String × Nat))

/-- A setting of a table. -/
def Tables.setting (ts : Tables) (name key : String) : Option Nat :=
  (ts.lookup name).bind (·.lookup key)

/-- Only sections of a settings file occur, and no setting but the interval. -/
structure Tables.Says (ts : Tables) (interval : Option UInt64) : Prop where
  sections : ∀ name, (ts.lookup name).isSome → name ∈ ["monitor", "filter", "display"]
  interval : ts.setting "monitor" "poll_interval_ms" = interval.map UInt64.toNat
  nothingElse : ∀ name key, (ts.setting name key).isSome →
    name = "monitor" ∧ key = "poll_interval_ms"

/-! ## Readers -/

namespace FileReader

variable {ν : Type}

/-- A value is a table with these entries, up to a relation, and nothing else. -/
def HasEntries {β : Type} (r : FileReader ν) (rel : ν → β → Prop) (v : ν)
    (es : List (String × β)) : Prop :=
  ∃ find, r.table? v = some find ∧ ∀ key, Option.Rel rel (find key) (es.lookup key)

/-- A value is a table with these settings and nothing else. -/
def HasSettings (r : FileReader ν) : ν → List (String × Nat) → Prop :=
  r.HasEntries fun v n => r.integer? v = some (n : Int)

/-- A value is a table of these tables and nothing else. -/
def HasTables (r : FileReader ν) : ν → Tables → Prop := r.HasEntries r.HasSettings

/-- A text is read as a document with these tables. -/
def Reads (r : FileReader ν) (text : String) (ts : Tables) : Prop :=
  ∃ root, r.document text = some root ∧ r.HasTables root ts

/-- The rules of plain files. -/
structure Conforms (r : FileReader ν) : Prop where
  /-- An empty file has no tables. -/
  empty : r.Reads (fileText []) []
  /-- Empty lines and comments are skipped. -/
  remark : ∀ before text after, (before ++ .remark text :: after).all Line.isPlain →
    r.document (fileText (before ++ .remark text :: after)) =
      r.document (fileText (before ++ after))
  /-- A header opens a table. -/
  header : ∀ ls ts name, (ls ++ [.header name]).all Line.isPlain → r.Reads (fileText ls) ts →
    ts.lookup name = none → r.Reads (fileText (ls ++ [.header name])) ((name, []) :: ts)
  /-- A setting goes into the table of the header before it. -/
  setting : ∀ before name body key n es ts,
    (before ++ .header name :: (body ++ [.setting key n])).all Line.isPlain →
    body.all (!·.isHeader) →
    r.Reads (fileText (before ++ .header name :: body)) ((name, es) :: ts) →
    es.lookup key = none →
    r.Reads (fileText (before ++ .header name :: (body ++ [.setting key n])))
      ((name, (key, n) :: es) :: ts)
  /-- Sections and settings that are missing take their defaults. -/
  settings : ∀ root ts interval, r.HasTables root ts → ts.Says interval →
    r.settings root = some { FileSettings.empty with pollInterval := interval }

variable {r : FileReader ν}

/-- Remarks can be left out. -/
theorem Conforms.document_filter (h : r.Conforms) {ls : List Line} (hls : ls.all Line.isPlain) :
    r.document (fileText ls) = r.document (fileText (ls.filter Line.isEntry)) := by
  -- the lines before the ones that are looked at are kept
  suffices hgen : ∀ before : List Line, (before ++ ls).all Line.isPlain →
      r.document (fileText (before ++ ls)) =
        r.document (fileText (before ++ ls.filter Line.isEntry)) from
    hgen [] hls
  clear hls
  induction ls with
  | nil => exact fun before _ => rfl
  | cons l ls ih =>
    intro before hplain
    cases l with
    | remark text =>
      have hrest : (before ++ ls).all Line.isPlain := by
        simp only [List.all_append, List.all_cons, Bool.and_eq_true] at hplain ⊢
        exact ⟨hplain.1, hplain.2.2⟩
      rw [h.remark before text ls hplain]
      exact ih before hrest
    | _ =>
      rw [List.append_cons] at hplain ⊢
      exact (ih _ hplain).trans (congrArg (r.document <| fileText ·) (List.append_assoc ..))

/-- The settings of a file that says no more than the interval. -/
theorem Conforms.parse_of_reads (h : r.Conforms) {text : String} {ts : Tables}
    {interval : Option UInt64} (hreads : r.Reads text ts) (hts : ts.Says interval) :
    r.parse text = some { FileSettings.empty with pollInterval := interval } := by
  obtain ⟨root, hroot, htables⟩ := hreads
  rw [FileReader.parse, hroot, Option.bind_some]
  exact h.settings root ts interval htables hts

end FileReader
end LinkWatch.Settings
