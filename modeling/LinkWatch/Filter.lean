import LinkWatch.Interface

/-!
# Interface filters

A matcher answers whether it recognises an interface: by kind, by being virtual, by name, or by a
chain of other matchers. A chain first rejects what any of its excludes recognises, and then
accepts what any of its includes recognises, or everything when it has none. Names are tested by a
value of any type `ν`: the text of a pattern while a filter is written down, a test of texts when
it is applied.
-/

namespace LinkWatch

/-- What recognises interfaces. -/
inductive Matcher (ν : Type) where
  /-- Any of these kinds. -/
  | kinds (kinds : List InterfaceKind)
  /-- Interfaces made by software. -/
  | virtual
  /-- The id or the alias passes a test. -/
  | name (test : ν)
  | chain (includes excludes : List (Matcher ν))

/-- Include and exclude matchers. -/
structure Filter (ν : Type) where
  includes : List (Matcher ν)
  excludes : List (Matcher ν)

instance {ν : Type} : Inhabited (Matcher ν) := ⟨.virtual⟩

instance {ν : Type} : Inhabited (Filter ν) := ⟨[], []⟩

/-- The number of kinds that a list names, each counted once. -/
def InterfaceKind.distinct (kinds : List InterfaceKind) : Nat := kinds.eraseDups.length

/-! ## Acceptance -/

namespace Matcher

mutual

/-- True when the matcher recognises the interface. -/
def accepts (i : Interface) : Matcher (String → Bool) → Bool
  | kinds ks => ks.contains i.kind
  | virtual => i.isVirtual
  | name test => test i.id || test i.aliasName
  | chain includes excludes =>
    !anyAccepts i excludes && (includes.isEmpty || anyAccepts i includes)

/-- True when any of the matchers recognises the interface. -/
def anyAccepts (i : Interface) : List (Matcher (String → Bool)) → Bool
  | [] => false
  | m :: r => m.accepts i || anyAccepts i r

end

/-- A list recognises what one of its members recognises. -/
theorem anyAccepts_eq_any (i : Interface) (ms : List (Matcher (String → Bool))) :
    anyAccepts i ms = ms.any (accepts i) := by
  induction ms with
  | nil => simp [anyAccepts]
  | cons m r ih => simp [anyAccepts, ih]

end Matcher

namespace Filter

variable {ν : Type}

/-- The filter that accepts everything. -/
def empty : Filter ν := ⟨[], []⟩

/-- True when there are no matchers. -/
def isEmpty (f : Filter ν) : Bool := f.includes.isEmpty && f.excludes.isEmpty

/-- True when no exclude recognises the interface, and an include does or there is none. -/
def accepts (f : Filter (String → Bool)) (i : Interface) : Bool :=
  !f.excludes.any (·.accepts i) && (f.includes.isEmpty || f.includes.any (·.accepts i))

/-- The accepted part of a snapshot. -/
def restrict (f : Filter (String → Bool)) (s : Snapshot) : Snapshot :=
  s.filter fun _ i => f.accepts i

/-- The sizes of a filter, for logs. -/
def summary (f : Filter ν) : String :=
  "FilterChain \x7b include_count: " ++ toString f.includes.length ++ ", exclude_count: "
    ++ toString f.excludes.length ++ " \x7d"

end Filter

/-! ## From patterns to tests -/

variable {ν μ ε : Type}

namespace Matcher

mutual

/-- Replaces the name tests, the includes of a chain before its excludes, up to the first one that
fails. -/
def mapNames (f : ν → Except ε μ) : Matcher ν → Except ε (Matcher μ)
  | kinds ks => .ok (.kinds ks)
  | virtual => .ok .virtual
  | name test => (f test).map .name
  | chain includes excludes =>
    match mapNamesAll f includes with
    | .error e => .error e
    | .ok includes =>
      match mapNamesAll f excludes with
      | .error e => .error e
      | .ok excludes => .ok (.chain includes excludes)

/-- Replaces the name tests of matchers in order. -/
def mapNamesAll (f : ν → Except ε μ) : List (Matcher ν) → Except ε (List (Matcher μ))
  | [] => .ok []
  | m :: r =>
    match m.mapNames f with
    | .error e => .error e
    | .ok m =>
      match mapNamesAll f r with
      | .error e => .error e
      | .ok r => .ok (m :: r)

end
end Matcher

/-- Replaces the name tests of a filter, includes before excludes. -/
def Filter.mapNames (f : ν → Except ε μ) (c : Filter ν) : Except ε (Filter μ) :=
  match Matcher.mapNamesAll f c.includes with
  | .error e => .error e
  | .ok includes =>
    match Matcher.mapNamesAll f c.excludes with
    | .error e => .error e
    | .ok excludes => .ok ⟨includes, excludes⟩

end LinkWatch
