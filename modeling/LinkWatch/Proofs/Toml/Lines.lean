import Mathlib.Tactic.ByContra
import LinkWatch.Proofs.Text.Join
import LinkWatch.Proofs.Text.Numeral
import LinkWatch.Toml.Reader

/-!
# Documents line by line

A line stands by itself if its reader stops at the end of the line, whatever comes after it. A
document is then read one line at a time (`readDocument_line`), and remarks, which are empty lines
and comments, make no difference (`readDocument_remark`).

The headers of tables (`readDocument_header`) and the settings of bare keys (`readDocument_setting`)
stand by themselves, where a value is a plain word, such as a natural number
(`readWord_decimal`).
-/

namespace LinkWatch.Toml

variable {l rest : List Char}

/-! ## Up to the end of a line -/

theorem dropWhile_append_cons {p : Char → Bool} {c : Char} (hc : p c = false)
    (l rest : List Char) : (l ++ c :: rest).dropWhile p = l.dropWhile p ++ c :: rest := by
  rw [List.dropWhile_append, List.dropWhile_cons_of_neg (by simp [hc])]
  split
  · next hnil => rw [List.isEmpty_iff.1 hnil, List.nil_append]
  · rfl

theorem takeWhile_append_cons {p : Char → Bool} {c : Char} (hc : p c = false)
    (l rest : List Char) : (l ++ c :: rest).takeWhile p = l.takeWhile p := by
  induction l with
  | nil => exact List.takeWhile_cons_of_neg (by simp [hc])
  | cons d l ih =>
    rw [List.cons_append, List.takeWhile_cons, List.takeWhile_cons, ih]

/-- A gap does not go beyond the end of its line. -/
theorem skipGap_append (l rest : List Char) :
    skipGap (l ++ '\n' :: rest) = skipGap l ++ '\n' :: rest :=
  dropWhile_append_cons (by decide) l rest

/-! ## Remarks -/

/-- True for a line with a comment at most. -/
def isRemark (l : List Char) : Bool :=
  match skipGap l with
  | [] => true
  | '#' :: r => r.all isVisible
  | _ => false

/-- After a remark comes the end of its line. -/
theorem skipComment_of_isRemark (h : isRemark l = true) (rest : List Char) :
    skipComment (skipGap (l ++ '\n' :: rest)) = some ('\n' :: rest) := by
  rw [skipGap_append]
  unfold isRemark at h
  split at h
  · next hgap =>
    rw [hgap]
    rfl
  · next r hgap =>
    have hrest : (r ++ '\n' :: rest).dropWhile isVisible = '\n' :: rest := by
      rw [dropWhile_append_cons (by decide), List.dropWhile_eq_nil_iff.2 (List.all_eq_true.1 h),
        List.nil_append]
    rw [hgap, List.cons_append, skipComment, hrest]
    rfl
  · cases h

theorem length_cutNewline_lt {cs r : List Char} (h : cutNewline cs = some r) :
    r.length < cs.length := by
  unfold cutNewline at h
  split at h
  · cases h
    exact Nat.lt_succ_self _
  · cases h
    exact Nat.lt_succ_of_le (Nat.le_succ _)
  · cases h

theorem length_skipComment_le {cs r : List Char} (h : skipComment cs = some r) :
    r.length ≤ cs.length := by
  unfold skipComment at h
  split at h
  · next r' =>
    dsimp only at h
    split at h
    · cases h
      exact Nat.le_succ_of_le (List.dropWhile_suffix _).length_le
    · cases h
  · cases h
    exact Nat.le_refl _

/-- All bounds that are large enough are as good as each other. -/
theorem skipLines_eq {cs : List Char} {n k : Nat} (hn : cs.length < n) (hk : cs.length < k) :
    skipLines n cs = skipLines k cs := by
  induction n generalizing k cs with
  | zero => exact absurd hn (Nat.not_lt_zero _)
  | succ n ih =>
    obtain ⟨k, rfl⟩ : ∃ k', k = k' + 1 := Nat.exists_eq_succ_of_ne_zero (Nat.ne_zero_of_lt hk)
    rw [skipLines, skipLines]
    split
    · rfl
    · next r hcomment =>
      split
      · next r' hline =>
        -- the rest is shorter than before
        have hgap : (skipGap cs).length ≤ cs.length := (List.dropWhile_suffix _).length_le
        have hshort := length_skipComment_le hcomment
        have hshorter := length_cutNewline_lt hline
        have hlt : r'.length < n := by omega
        exact ih hlt (by omega)
      · rfl

/-- A remark can be left out in front of anything. -/
theorem skipBetween_of_isRemark (h : isRemark l = true) (rest : List Char) :
    skipBetween (l ++ '\n' :: rest) = skipBetween rest := by
  rw [skipBetween, skipLines, skipComment_of_isRemark h]
  refine skipLines_eq ?_ (Nat.lt_succ_self _)
  rw [List.length_append, List.length_cons]
  omega

/-! ## Lines that stand by themselves -/

/-- True for the characters that a header or a bare key begins with. -/
def isStart (c : Char) : Bool := c == '[' || isBareKeyChar c

theorem not_isGap_of_isBareKeyChar {c : Char} (h : isBareKeyChar c = true) : isGap c = false := by
  by_contra hgap
  simp only [isGap, Bool.or_eq_true, beq_iff_eq, Bool.not_eq_false] at hgap
  rcases hgap with rfl | rfl
  · exact absurd h (by decide)
  · exact absurd h (by decide)

/-- Nothing is skipped in front of a header or a key. -/
theorem skipBetween_of_isStart {c : Char} (hc : isStart c = true) (r : List Char) :
    skipBetween (c :: r) = some (c :: r) := by
  have hgap : isGap c = false := by
    rcases Bool.or_eq_true_iff.1 hc with hbracket | hbare
    · rw [beq_iff_eq.1 hbracket]
      rfl
    · exact not_isGap_of_isBareKeyChar hbare
  have hskip : skipGap (c :: r) = c :: r := List.dropWhile_cons_of_neg (by simp [hgap])
  -- neither a comment nor an empty line begins here
  have hne (d : Char) (hd : isStart d = false) : c ≠ d := by
    rintro rfl
    rw [hc] at hd
    cases hd
  have hcomment : skipComment (c :: r) = some (c :: r) := by
    unfold skipComment
    split
    · next heq => exact absurd (List.cons.inj heq).1 (hne '#' (by decide))
    · rfl
  have hline : cutNewline (c :: r) = none := by
    unfold cutNewline
    split
    · next heq => exact absurd (List.cons.inj heq).1 (hne '\n' (by decide))
    · next heq => exact absurd (List.cons.inj heq).1 (hne '\r' (by decide))
    · rfl
  simp only [skipBetween, skipLines, hskip, hcomment, hline]

/-! ## Whole documents -/

/-- Lines one after another, each with its end. -/
def unlines (ls : List (List Char)) : List Char := ls.flatMap (· ++ ['\n'])

theorem unlines_cons (l : List Char) (ls : List (List Char)) :
    unlines (l :: ls) = l ++ '\n' :: unlines ls := by
  rw [unlines, List.flatMap_cons, List.append_assoc]
  rfl

theorem length_le_length_unlines (ls : List (List Char)) : ls.length ≤ (unlines ls).length := by
  induction ls with
  | nil => exact Nat.le_refl _
  | cons l ls ih =>
    rw [unlines_cons, List.length_append, List.length_cons, List.length_cons]
    omega

/-- The characters of a document, line by line. -/
theorem toList_join_newline (ls : List String) :
    (String.join (ls.map (· ++ "\n"))).toList = unlines (ls.map String.toList) := by
  induction ls with
  | nil => rfl
  | cons l ls ih =>
    rw [List.map_cons, List.map_cons, String.join_cons, unlines_cons, String.toList_append,
      String.toList_append, ih, List.append_assoc]
    rfl

/-- A remark can be left out. -/
theorem readDocument_remark (h : isRemark l = true) (n : Nat) (d : Document) (rest : List Char) :
    readDocument n d (l ++ '\n' :: rest) = readDocument n d rest := by
  cases n with
  | zero => rfl
  | succ n => rw [readDocument, readDocument, skipBetween_of_isRemark h]

/-- Where the reader of a line stops at its end, the document goes on with the next line. -/
theorem readDocument_line {c : Char} (hc : isStart c = true) {d : Document} {o : Option Document}
    (hl : readLine d (c :: l ++ '\n' :: rest) = o.map (·, '\n' :: rest)) (n : Nat) :
    readDocument (n + 1) d (c :: l ++ '\n' :: rest) = o.bind fun d => readDocument n d rest := by
  have hend : skipLineEnd ('\n' :: rest) = some rest := rfl
  rw [List.cons_append] at hl ⊢
  rw [readDocument, skipBetween_of_isStart hc]
  simp only [hl]
  cases o with
  | none => rfl
  | some d => simp only [Option.map_some, hend, Option.bind_some]

/-! ## Headers and keys -/

/-- A key that needs no quotes. -/
def IsBareKey (w : List Char) : Prop := w ≠ [] ∧ ∀ c ∈ w, isBareKeyChar c = true

/-- A bare key ends where another character comes. -/
theorem readKey_bare {w : List Char} (hw : IsBareKey w) {c : Char} (hc : isBareKeyChar c = false)
    {r : List Char} (hdot : (skipGap (c :: r)).head? ≠ some '.') :
    readKey (w ++ c :: r) = some (([], String.ofList w), skipGap (c :: r)) := by
  obtain ⟨k, w, rfl⟩ := List.exists_cons_of_ne_nil hw.1
  have hk : isBareKeyChar k = true := hw.2 k List.mem_cons_self
  have hgap : skipGap (k :: w ++ c :: r) = k :: w ++ c :: r :=
    List.dropWhile_cons_of_neg (by simp [not_isGap_of_isBareKeyChar hk])
  have htake : (k :: w ++ c :: r).takeWhile isBareKeyChar = k :: w := by
    rw [takeWhile_append_cons hc, List.takeWhile_eq_self_iff.2 hw.2]
  have hdrop : (k :: w ++ c :: r).dropWhile isBareKeyChar = c :: r := by
    rw [dropWhile_append_cons hc, List.dropWhile_eq_nil_iff.2 hw.2, List.nil_append]
  have hsimple : readSimpleKey (k :: w ++ c :: r) = some (String.ofList (k :: w), c :: r) := by
    unfold readSimpleKey
    split
    · next heq =>
      cases heq
      exact absurd hk (by decide)
    · next heq =>
      cases heq
      exact absurd hk (by decide)
    · simp only [htake, hdrop]
      rfl
  rw [readKey, readKeyUpTo, hgap, hsimple]
  dsimp only
  split
  · next heq =>
    rw [heq] at hdot
    exact absurd rfl hdot
  · rfl

/-- The reader of a header stops at the end of the line. -/
theorem readLine_header {w : List Char} (hw : IsBareKey w) (d : Document) (rest : List Char) :
    readLine d ('[' :: (w ++ [']']) ++ '\n' :: rest) =
      ((openTable (String.ofList w) d.entries).map fun es => ⟨es, [String.ofList w]⟩).map
        (·, '\n' :: rest) := by
  have hkey : readKey (w ++ ']' :: '\n' :: rest) =
      some (([], String.ofList w), ']' :: '\n' :: rest) :=
    readKey_bare hw (by decide) (show some ']' ≠ some '.' by decide)
  have hassoc : '[' :: (w ++ [']']) ++ '\n' :: rest = '[' :: (w ++ ']' :: '\n' :: rest) := by simp
  rw [hassoc, Option.map_map]
  unfold readLine
  split
  · next heq =>
    -- a second bracket is no part of a bare key
    obtain ⟨k, w, rfl⟩ := List.exists_cons_of_ne_nil hw.1
    cases heq
    exact absurd (hw.2 '[' List.mem_cons_self) (by decide)
  · next heq =>
    cases heq
    simp only [hkey, modifyAt]
    rfl
  · next hne => exact absurd rfl (hne _)

/-- A header opens its table. -/
theorem readDocument_header {w : List Char} (hw : IsBareKey w) (n : Nat) (d : Document)
    (rest : List Char) :
    readDocument (n + 1) d ('[' :: (w ++ [']']) ++ '\n' :: rest) =
      ((openTable (String.ofList w) d.entries).map fun es => ⟨es, [String.ofList w]⟩).bind
        fun d => readDocument n d rest :=
  readDocument_line (by decide) (readLine_header hw d rest) n

/-! ## Words -/

/-- The characters that end a word or begin another kind of value. -/
def marks : List Char :=
  ['.', '=', ',', '[', ']', '\x7b', '\x7d', ' ', '\t', '#', '\r', '\n', '"', '\'']

/-- A word of one piece without quotes. -/
def IsPlainWord (w : List Char) : Prop := w ≠ [] ∧ ∀ c ∈ w, c ∉ marks

theorem IsPlainWord.not_isGap {w : List Char} (hw : IsPlainWord w) :
    ∀ c ∈ w, isGap c = false := by
  intro c hc
  by_contra hgap
  simp only [isGap, Bool.or_eq_true, beq_iff_eq, Bool.not_eq_false] at hgap
  rcases hgap with rfl | rfl
  · exact hw.2 _ hc (by decide)
  · exact hw.2 _ hc (by decide)

/-- The characters that a word may go on with, one by one. -/
theorem isWordChar_iff (c : Char) :
    isWordChar c = true ↔
      c ∉ ['.', '=', ',', '[', ']', '\x7b', '\x7d', ' ', '\t', '#', '\r', '\n'] := by
  rw [isWordChar, String.contains_char_eq]
  simp

theorem isWordChar_of_not_mem_marks {c : Char} (h : c ∉ marks) : isWordChar c = true := by
  rw [isWordChar_iff]
  intro hc
  exact h (List.mem_append_left ['"', '\''] hc)

/-- A piece of a word without marks goes up to the end of the line. -/
theorem wordPiece_append {w : List Char} (hw : ∀ c ∈ w, c ∉ marks) (rest : List Char) :
    wordPiece (w ++ '\n' :: rest) = w := by
  have hnewline : isWordChar '\n' = false := by
    rw [← Bool.not_eq_true, isWordChar_iff]
    decide
  have hquote {q : Char} (hmark : q ∈ marks) (hend : q ≠ '\n') (r : List Char) :
      w ++ '\n' :: rest ≠ q :: r := by
    intro heq
    cases w with
    | nil => exact hend (List.cons.inj heq).1.symm
    | cons c w => exact hw c List.mem_cons_self ((List.cons.inj heq).1 ▸ hmark)
  unfold wordPiece
  split
  · next heq => exact absurd heq (hquote (by decide) (by decide) _)
  · next heq => exact absurd heq (hquote (by decide) (by decide) _)
  · rw [takeWhile_append_cons hnewline, List.takeWhile_eq_self_iff]
    exact fun c hc => isWordChar_of_not_mem_marks (hw c hc)

/-- The end of the line is the end of a word. -/
theorem cutWord_append {w : List Char} (hw : IsPlainWord w) (rest : List Char) :
    cutWord (w ++ '\n' :: rest) = (w, '\n' :: rest) := by
  -- no second piece stands before the end of the line
  have hend (n : Nat) : cutWordUpTo n ('\n' :: rest) = ([], '\n' :: rest) := by
    cases n with
    | zero => rfl
    | succ n =>
      have hnone : wordPiece (('\n' :: rest).dropWhile isGap) = [] :=
        wordPiece_append (w := []) (by simp) rest
      rw [cutWordUpTo, hnone]
      · rfl
      · nofun
  obtain ⟨c, w, rfl⟩ := List.exists_cons_of_ne_nil hw.1
  have hc : c ∉ marks := hw.2 c List.mem_cons_self
  have hgap : isGap c = false := hw.not_isGap c List.mem_cons_self
  have hpiece : wordPiece ((c :: w ++ '\n' :: rest).dropWhile isGap) = c :: w := by
    rw [List.cons_append, List.dropWhile_cons_of_neg (by simp [hgap])]
    exact wordPiece_append hw.2 rest
  have hblank : (c :: w ++ '\n' :: rest).takeWhile isGap = [] :=
    List.takeWhile_cons_of_neg (by simp [hgap])
  have hdrop : (c :: w ++ '\n' :: rest).dropWhile isGap = c :: w ++ '\n' :: rest :=
    List.dropWhile_cons_of_neg (by simp [hgap])
  rw [cutWord, cutWordUpTo, hpiece, hblank, hdrop, List.drop_left, hend]
  · simp
  · intro r heq
    cases heq
    exact absurd hc (by decide)

/-- A plain word is read as what it stands for. -/
theorem readValue_word {w : List Char} (hw : IsPlainWord w) {a : Value} (ha : readWord w = some a)
    (n depth : Nat) (rest : List Char) :
    readValue (n + 1) depth (w ++ '\n' :: rest) = some (a, '\n' :: rest) := by
  have hne {q : Char} (hmark : q ∈ marks) (r : List Char) : w ++ '\n' :: rest ≠ q :: r := by
    obtain ⟨c, w, rfl⟩ := List.exists_cons_of_ne_nil hw.1
    intro heq
    exact hw.2 c List.mem_cons_self ((List.cons.inj heq).1 ▸ hmark)
  unfold readValue
  split
  · next heq => exact absurd heq (hne (by decide) _)
  · next heq => exact absurd heq (hne (by decide) _)
  · next heq => exact absurd heq (hne (by decide) _)
  · next heq => exact absurd heq (hne (by decide) _)
  · next heq => exact absurd heq (hne (by decide) _)
  · next heq => exact absurd heq (hne (by decide) _)
  · rw [cutWord_append hw]
    simp only [ha, Option.map_some]

/-! ## Numbers -/

theorem isDigit_of_mem_decimal {n : Nat} {c : Char} (hc : c ∈ Text.decimal n) :
    Text.isDigit 10 c = true :=
  Text.isDigit_of_mem_toDigits (by decide) (by decide) hc

theorem ne_of_mem_decimal {n : Nat} {c d : Char} (hc : c ∈ Text.decimal n)
    (hd : Text.isDigit 10 d = false) : c ≠ d := by
  rintro rfl
  rw [isDigit_of_mem_decimal hc] at hd
  cases hd

/-- A natural number is a plain word. -/
theorem isPlainWord_decimal (n : Nat) : IsPlainWord (Text.decimal n) := by
  have hmarks : marks.all (!Text.isDigit 10 ·) = true := by decide
  refine ⟨Nat.toDigits_ne_nil, fun c hc hmark => ?_⟩
  have hc' : Text.isDigit 10 c = false := by simpa using List.all_eq_true.1 hmarks c hmark
  exact ne_of_mem_decimal hc hc' rfl

/-- Only the number zero begins with a zero. -/
theorem not_needlessZero (n : Nat) :
    ((Text.decimal n).head? == some '0' && 1 < (Text.decimal n).length) = false := by
  cases hds : Text.decimal n with
  | nil => rfl
  | cons c r =>
    by_cases hc : c = '0'
    · subst hc
      rw [Text.eq_nil_of_toDigits_eq_cons (by decide) (by decide) hds]
      rfl
    · simp [hc]

/-- A numeral is no other text that begins with a character of another kind. -/
theorem decimal_ne_cons (n : Nat) {c : Char} (hc : Text.isDigit 10 c = false) (r : List Char) :
    Text.decimal n ≠ c :: r := by
  intro heq
  exact ne_of_mem_decimal (heq ▸ List.mem_cons_self) hc rfl

theorem cutSign_decimal (n : Nat) : cutSign (Text.decimal n) = (false, Text.decimal n) := by
  unfold cutSign
  split
  · next heq => exact absurd heq (decimal_ne_cons n (by decide) _)
  · next heq => exact absurd heq (decimal_ne_cons n (by decide) _)
  · rfl

/-- Digits alone are an integer, neither a float nor a time. -/
theorem readNumberOrTime_decimal (n : Nat) :
    readNumberOrTime (Text.decimal n) (Text.decimal n) = some (.integer (some n)) := by
  have hrest : (Text.decimal n).dropWhile (Text.isDigit 10) = [] :=
    List.dropWhile_eq_nil_iff.2 fun c hc => isDigit_of_mem_decimal hc
  have hmark : '_' ∉ Text.decimal n := fun h => ne_of_mem_decimal h (by decide) rfl
  have hungrouped : ungrouped (Text.decimal n) = Text.decimal n :=
    List.filter_eq_self.2 fun c hc => by simpa using ne_of_mem_decimal hc (d := '_') (by decide)
  have hpieces : (Text.decimal n).splitOn '_' = [Text.decimal n] :=
    (Text.splitOn_eq_iff (by simp)).2 ⟨by simpa using hmark, by simp⟩
  have hbetween : underscoresBetween 16 (Text.decimal n) = true := by
    rw [underscoresBetween, hpieces]
    rfl
  have hnumeral : Text.readNumeral 10 (Text.decimal n) = some n :=
    Text.readNumeral_toDigits (by decide) (by decide)
  have hnumber : signedNumber (Text.decimal n) = some (n : Int) := by
    rw [signedNumber, cutSign_decimal]
    simp only [hnumeral]
    rfl
  rw [readNumberOrTime]
  simp only [not_needlessZero, hrest, hungrouped, hbetween, hnumber]
  rfl

/-- A number is read back from its digits. -/
theorem readWord_decimal (n : Nat) : readWord (Text.decimal n) = some (.integer (some n)) := by
  -- a second character that is no digit would be the mark of a radix
  have hsecond (c : Char) (hc : Text.isDigit 10 c = false) (b : Char) (r : List Char) :
      Text.decimal n ≠ b :: c :: r := by
    intro heq
    exact ne_of_mem_decimal (heq ▸ List.mem_cons_of_mem b List.mem_cons_self) hc rfl
  have htrue : Text.decimal n ≠ ['t', 'r', 'u', 'e'] := decimal_ne_cons n (by decide) _
  have hfalse : Text.decimal n ≠ ['f', 'a', 'l', 's', 'e'] := decimal_ne_cons n (by decide) _
  unfold readWord
  rw [if_neg htrue, if_neg hfalse, cutSign_decimal]
  split
  · next heq => exact absurd heq (hsecond 'x' (by decide) _ _)
  · next heq => exact absurd heq (hsecond 'o' (by decide) _ _)
  · next heq => exact absurd heq (hsecond 'b' (by decide) _ _)
  · next heq _ _ _ => exact absurd heq (decimal_ne_cons n (by decide) _)
  · next heq _ _ _ => exact absurd heq (decimal_ne_cons n (by decide) _)
  · next c r _ _ heq _ _ _ =>
    have hds : Text.decimal n = c :: r := heq
    have hc : Text.isDigit 10 c = true := isDigit_of_mem_decimal (hds ▸ List.mem_cons_self)
    rw [if_pos hc, ← hds]
    exact readNumberOrTime_decimal n
  · next heq _ _ _ => exact absurd heq Nat.toDigits_ne_nil

/-! ## Settings -/

/-- The reader of a setting stops at the end of the line. -/
theorem readLine_setting {k v : List Char} (hk : IsBareKey k) (hv : IsPlainWord v) {a : Value}
    (ha : readWord v = some a) (d : Document) (rest : List Char) :
    readLine d (k ++ ' ' :: '=' :: ' ' :: v ++ '\n' :: rest) =
      ((modifyAt d.path (addKey [] (String.ofList k) a) d.entries).map fun es => ⟨es, d.path⟩).map
        (·, '\n' :: rest) := by
  have hgap : skipGap (' ' :: (v ++ '\n' :: rest)) = v ++ '\n' :: rest := by
    obtain ⟨c, v, rfl⟩ := List.exists_cons_of_ne_nil hv.1
    have hc : isGap c = false := hv.not_isGap c List.mem_cons_self
    rw [skipGap, List.dropWhile_cons_of_pos (by decide), List.cons_append,
      List.dropWhile_cons_of_neg (by simp [hc])]
  have hkey : readKey (k ++ ' ' :: '=' :: ' ' :: (v ++ '\n' :: rest)) =
      some (([], String.ofList k), '=' :: ' ' :: (v ++ '\n' :: rest)) :=
    readKey_bare hk (by decide) (show some '=' ≠ some '.' by decide)
  have hsign : readKeySign (k ++ ' ' :: '=' :: ' ' :: (v ++ '\n' :: rest)) =
      some (([], String.ofList k), v ++ '\n' :: rest) := by
    rw [readKeySign, hkey]
    simp only [hgap]
  have hassoc : k ++ ' ' :: '=' :: ' ' :: v ++ '\n' :: rest =
      k ++ ' ' :: '=' :: ' ' :: (v ++ '\n' :: rest) := by simp
  -- a line that begins with a bracket would be a header
  have hbracket (r : List Char) : k ++ ' ' :: '=' :: ' ' :: (v ++ '\n' :: rest) ≠ '[' :: r := by
    obtain ⟨c, k, rfl⟩ := List.exists_cons_of_ne_nil hk.1
    intro heq
    have hc : isBareKeyChar '[' = true := (List.cons.inj heq).1 ▸ hk.2 c List.mem_cons_self
    exact absurd hc (by decide)
  rw [hassoc, Option.map_map]
  unfold readLine
  split
  · next heq => exact absurd heq (hbracket _)
  · next heq => exact absurd heq (hbracket _)
  · simp only [hsign, readValue_word hv ha]
    rfl

/-- A setting goes into the table of the last header. -/
theorem readDocument_setting {k v : List Char} (hk : IsBareKey k) (hv : IsPlainWord v) {a : Value}
    (ha : readWord v = some a) (n : Nat) (d : Document) (rest : List Char) :
    readDocument (n + 1) d (k ++ ' ' :: '=' :: ' ' :: v ++ '\n' :: rest) =
      ((modifyAt d.path (addKey [] (String.ofList k) a) d.entries).map fun es => ⟨es, d.path⟩).bind
        fun d => readDocument n d rest := by
  have hline := readLine_setting hk hv ha d rest
  obtain ⟨c, k, rfl⟩ := List.exists_cons_of_ne_nil hk.1
  have hc : isStart c = true := by
    rw [isStart, hk.2 c List.mem_cons_self, Bool.or_true]
  exact readDocument_line hc hline n

end LinkWatch.Toml
