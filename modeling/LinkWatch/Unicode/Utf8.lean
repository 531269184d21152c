import LinkWatch.Unicode.CharSet

/-!
# Bytes of characters

The bytes that encode a character, and the encodings of all characters of a range as sequences of
ranges of bytes: a text is the encoding of a character of the range when each of its bytes is in
the range of its place, for one of the sequences.
-/

namespace LinkWatch.Unicode.Utf8

/-- The bytes of a character. -/
def encode (n : Nat) : List Nat :=
  if n < 0x80 then [n]
  else if n < 0x800 then [0xC0 + n / 0x40, 0x80 + n % 0x40]
  else if n < 0x10000 then [0xE0 + n / 0x1000, 0x80 + n / 0x40 % 0x40, 0x80 + n % 0x40]
  else
    [0xF0 + n / 0x40000, 0x80 + n / 0x1000 % 0x40, 0x80 + n / 0x40 % 0x40, 0x80 + n % 0x40]

/-- The bytes of a text. -/
def encodeText (cs : List Char) : List Nat := cs.flatMap fun c => encode c.toNat

/-- Cuts the ranges that hold both `n` and what follows it. -/
def cutAfter (n : Nat) (rs : CharSet) : CharSet :=
  rs.flatMap fun (a, b) => if a ≤ n ∧ n < b then [(a, n), (n + 1, b)] else [(a, b)]

/-- Takes the surrogates out of a range. -/
def withoutSurrogates (a b : Nat) : CharSet :=
  if a < 0xE000 ∧ 0xD7FF < b then [(a, 0xD7FF), (0xE000, b)].filter fun r => r.1 ≤ r.2
  else [(a, b)]

/-- Cuts a range of encodings of one length so that in each piece the last bytes are free once the
first ones differ. A block holds the characters that share all bytes but some last ones; the first
argument counts the bytes still to be told apart, the second is the size of a block. -/
def align : Nat → Nat → Nat × Nat → CharSet
  | 0, _, r => [r]
  | n + 1, block, (a, b) =>
    if a / block = b / block then [(a, b)]
    else
      let first := if a % block = 0 then a else (a / block + 1) * block
      let stop := if (b + 1) % block = 0 then b + 1 else b / block * block
      (if a < first then [(a, first - 1)] else [])
        ++ (if first < stop then align n (block * 0x40) (first, stop - 1) else [])
        ++ (if stop ≤ b then [(stop, b)] else [])

/-- The sequences of byte ranges that encode the characters from `a` to `b`. -/
def sequences (a b : Nat) : List (List (Nat × Nat)) :=
  let pieces := cutAfter 0xFFFF (cutAfter 0x7FF (cutAfter 0x7F (withoutSurrogates a b)))
  let aligned := pieces.flatMap fun r => if r.2 < 0x80 then [r] else align 3 0x40 r
  aligned.map fun (a, b) => (encode a).zip (encode b)

/-- The sequences of byte ranges that encode the characters of a set. -/
def setSequences (s : CharSet) : List (List (Nat × Nat)) :=
  s.flatMap fun (a, b) => sequences a b

end LinkWatch.Unicode.Utf8
