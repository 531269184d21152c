import Mathlib.Data.List.TakeWhile
import LinkWatch.Text.Blank

/-!
# Words and lines

A text is cut into words at the blanks. Read from the left, it is blanks, a word and a rest that
starts with a blank, again and again (`startsWith_iff`), so that blanks around a text and their number
between words make no difference.

The lines of a text are its pieces between line feeds, but for the carriage return at the end of a
line and for an empty piece at the end of the text. Where these make no difference, the pieces can
be taken for the lines (`filterMap_drop_lines`).
-/

namespace LinkWatch.Text

variable {cs w r : List Char}

/-- One character or more, none of them blank. -/
structure IsWord (w : List Char) : Prop where
  ne_nil : w ≠ []
  forall_not_blank : ∀ c ∈ w, isBlank c = false

/-- A rest of a text in which no word goes on. -/
def AtEnd (r : List Char) : Prop := ∀ c ∈ r.head?, isBlank c = true

/-! ## Blanks -/

theorem words_nil : words [] = [] := rfl

theorem words_cons_of_isBlank {c : Char} (hc : isBlank c = true) (cs : List Char) :
    words (c :: cs) = words cs := by
  rw [words, ← List.nil_append (c :: cs), List.splitOnP_append_cons _ _ hc]
  rfl

/-- Blanks in front of a text are in no word. -/
theorem words_append_of_isBlank {b : List Char} (hb : ∀ c ∈ b, isBlank c = true)
    (cs : List Char) : words (b ++ cs) = words cs := by
  induction b with
  | nil => rfl
  | cons c b ih =>
    rw [List.cons_append, words_cons_of_isBlank (hb c List.mem_cons_self),
      ih fun c' hc' => hb c' (List.mem_cons_of_mem _ hc')]

/-- A blank at the end of a text is in no word. -/
theorem words_concat_of_isBlank (cs : List Char) {c : Char} (hc : isBlank c = true) :
    words (cs ++ [c]) = words cs := by
  rw [words, List.splitOnP_append_cons _ _ hc, List.filter_append]
  exact List.append_nil _

/-! ## The first word -/

/-- A word at the front of a text is its first word. -/
theorem words_append (hw : IsWord w) (hr : AtEnd r) : words (w ++ r) = w :: words r := by
  have hkept (ts : List (List Char)) :
      (w :: ts).filter (!·.isEmpty) = w :: ts.filter (!·.isEmpty) := by
    simp [hw.ne_nil]
  cases r with
  | nil =>
    rw [List.append_nil, words, List.splitOnP_eq_singleton hw.forall_not_blank, hkept]
    rfl
  | cons c r =>
    have hc : isBlank c = true := hr c rfl
    rw [words_cons_of_isBlank hc, words,
      List.splitOnP_append_cons_of_forall_mem hw.forall_not_blank c hc, hkept, words]

/-- A text is blanks, or it has a first word. -/
theorem words_eq_nil_or (cs : List Char) :
    words cs = [] ∨ ∃ b w r, cs = b ++ w ++ r ∧ (∀ c ∈ b, isBlank c = true) ∧ IsWord w ∧ AtEnd r := by
  have hblanks : ∀ c ∈ cs.takeWhile isBlank, isBlank c = true :=
    fun c hc => List.mem_takeWhile_imp hc
  have hsplit : cs = cs.takeWhile isBlank ++ cs.dropWhile isBlank :=
    List.takeWhile_append_dropWhile.symm
  cases hrest : cs.dropWhile isBlank with
  | nil =>
    left
    rw [hsplit, hrest, words_append_of_isBlank hblanks, words_nil]
  | cons c rest =>
    right
    have hc : isBlank c = false := by
      have hhead := List.head?_dropWhile_not isBlank cs
      rw [hrest] at hhead
      simpa using hhead
    -- the word goes up to the next blank
    refine ⟨_, (c :: rest).takeWhile (!isBlank ·), (c :: rest).dropWhile (!isBlank ·), ?_, hblanks,
      ⟨?_, ?_⟩, ?_⟩
    · rw [List.append_assoc, List.takeWhile_append_dropWhile, ← hrest]
      exact hsplit
    · rw [List.takeWhile_cons_of_pos (by simp [hc])]
      exact List.cons_ne_nil _ _
    · intro d hd
      simpa using List.mem_takeWhile_imp hd
    · intro d hd
      have hhead := List.head?_dropWhile_not (!isBlank ·) (c :: rest)
      rw [Option.mem_def.1 hd] at hhead
      simpa using hhead

/-! ## The first words -/

/-- The text has these words in front, each after blanks and each at its end. -/
inductive StartsWith : List (List Char) → List Char → Prop where
  | nil (cs : List Char) : StartsWith [] cs
  | cons {b w r : List Char} {ws : List (List Char)} (hb : ∀ c ∈ b, isBlank c = true)
      (hw : IsWord w) (hr : AtEnd r) (h : StartsWith ws r) : StartsWith (w :: ws) (b ++ w ++ r)

theorem startsWith_iff {ws : List (List Char)} : StartsWith ws cs ↔ ws <+: words cs := by
  constructor
  · intro h
    induction h with
    | nil cs => exact List.nil_prefix
    | @cons b w r ws hb hw hr h ih =>
      rw [List.append_assoc, words_append_of_isBlank hb, words_append hw hr, List.cons_prefix_cons]
      exact ⟨rfl, ih⟩
  · intro h
    induction ws generalizing cs with
    | nil => exact .nil cs
    | cons w ws ih =>
      rcases words_eq_nil_or cs with hnil | ⟨b, w', r, rfl, hb, hw, hr⟩
      · rw [hnil] at h
        exact absurd (List.prefix_nil.1 h) (List.cons_ne_nil _ _)
      · rw [List.append_assoc, words_append_of_isBlank hb, words_append hw hr,
          List.cons_prefix_cons] at h
        obtain ⟨rfl, h⟩ := h
        exact .cons hb hw hr (ih h)

/-! ## Lines -/

/-- Lines that are taken one by one, after some that are left out, can be taken for the pieces
between line feeds, if an empty piece and a carriage return at the end of a piece do not count. -/
theorem filterMap_drop_lines {β : Type} {f : List Char → Option β} (hnil : f [] = none)
    (hreturn : ∀ l, f (l ++ ['\r']) = f l) (n : Nat) (cs : List Char) :
    ((lines cs).drop n).filterMap f = ((cs.splitOn '\n').drop n).filterMap f := by
  have hended (l : List Char) : f (if l.getLast? = some '\r' then l.dropLast else l) = f l := by
    split
    · next hlast =>
      obtain ⟨r, rfl⟩ := List.getLast?_eq_some_iff.1 hlast
      rw [List.dropLast_concat, hreturn]
    · rfl
  obtain ⟨ended, last, hpieces⟩ : ∃ ended last, cs.splitOn '\n' = ended ++ [last] :=
    ⟨_, _, (List.dropLast_concat_getLast (List.splitOn_ne_nil '\n' cs)).symm⟩
  have hlines : lines cs =
      ended.map (fun l => if l.getLast? = some '\r' then l.dropLast else l) ++
        if last = [] then [] else [last] := by
    rw [lines, hpieces]
    rw [List.dropLast_concat, List.getLast?_concat]
    cases last <;> simp
  have hall : (f ∘ fun l => if l.getLast? = some '\r' then l.dropLast else l) = f := funext hended
  rw [hlines, hpieces, List.drop_append, List.drop_append, List.filterMap_append,
    List.filterMap_append, List.length_map, ← List.map_drop, List.filterMap_map, hall]
  congr 1
  -- an empty last piece is left out of the lines, and gives nothing among the pieces
  cases last with
  | nil => cases n - ended.length <;> simp [hnil]
  | cons => rfl

end LinkWatch.Text
