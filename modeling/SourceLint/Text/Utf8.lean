set_option autoImplicit false

/-!
# UTF-8

Encoding of texts as bytes, slices of byte sequences, and a decoder that never fails. A slice may
cut a character in two, and a file may hold any bytes, so the decoder puts the replacement
character U+FFFD in the place of what it cannot read: one for each longest piece that could still
have begun a character.

The decoder is a machine that reads a byte at a time. Between characters it has no state; inside
one it remembers the bits read so far, which bytes may come next and how many more are to follow.

## Main definitions

* `Utf8.encode` — the bytes of a text.
* `Utf8.decode` — the text of a byte sequence, with replacement characters for what is malformed.
* `Utf8.slice` — a byte range, clamped to the sequence.
* `Utf8.cut` — the place of an index, which may count from the end.

## Main results

* `Utf8.decode_encode` — a text is read back from its bytes.
-/

namespace SourceLint.Utf8

/-- The bytes of a character: its bits in groups of six, with a first byte that tells how many
groups follow. -/
def encodeChar (c : Char) : List UInt8 :=
  let n := c.toNat
  if n < 0x80 then [n.toUInt8]
  else if n < 0x800 then [(0xC0 + n / 64).toUInt8, (0x80 + n % 64).toUInt8]
  else if n < 0x10000 then
    [(0xE0 + n / 4096).toUInt8, (0x80 + n / 64 % 64).toUInt8, (0x80 + n % 64).toUInt8]
  else
    [(0xF0 + n / 262144).toUInt8, (0x80 + n / 4096 % 64).toUInt8, (0x80 + n / 64 % 64).toUInt8,
      (0x80 + n % 64).toUInt8]

/-- The bytes of a text. -/
def encode (cs : List Char) : List UInt8 :=
  cs.flatMap encodeChar

/-- Stands in for bytes that form no character. -/
def replacement : Char := '\ufffd'

/-- A character that has begun: the bits read so far, the least and the greatest byte that may
come next, and how many bytes follow after that one. -/
structure Begun where
  bits : Nat
  low : Nat
  high : Nat
  more : Nat

/-- What a byte between characters is. -/
inductive Lead
  | whole (c : Char)
  | begins (state : Begun)
  | malformed

/-- Reads a byte between characters. Overlong forms, surrogates and code points beyond the last one
are excluded by the range of the second byte. -/
def Lead.ofByte (b : Nat) : Lead :=
  if b < 0x80 then .whole (Char.ofNat b)
  else if b < 0xC2 then .malformed
  else if b < 0xE0 then .begins ⟨b - 0xC0, 0x80, 0xBF, 0⟩
  else if b = 0xE0 then .begins ⟨0, 0xA0, 0xBF, 1⟩
  else if b = 0xED then .begins ⟨0xD, 0x80, 0x9F, 1⟩
  else if b < 0xF0 then .begins ⟨b - 0xE0, 0x80, 0xBF, 1⟩
  else if b = 0xF0 then .begins ⟨0, 0x90, 0xBF, 2⟩
  else if b < 0xF4 then .begins ⟨b - 0xF0, 0x80, 0xBF, 2⟩
  else if b = 0xF4 then .begins ⟨4, 0x80, 0x8F, 2⟩
  else .malformed

/-- The output and the state after a byte between characters. -/
def start (b : Nat) : List Char × Option Begun :=
  match Lead.ofByte b with
  | .whole c => ([c], none)
  | .begins state => ([], some state)
  | .malformed => ([replacement], none)

/-- The output and the state after one more byte. A byte that cannot continue the character begun
ends it with a replacement character and is read afresh. -/
def step : Option Begun → Nat → List Char × Option Begun
  | none, b => start b
  | some state, b =>
    if state.low ≤ b ∧ b ≤ state.high then
      let bits := state.bits * 64 + (b - 0x80)
      match state.more with
      | 0 => ([Char.ofNat bits], none)
      | more + 1 => ([], some ⟨bits, 0x80, 0xBF, more⟩)
    else
      let (out, next) := start b
      (replacement :: out, next)

/-- The text of the bytes that are left, from a given state. -/
def decodeFrom (state : Option Begun) : List UInt8 → List Char
  | [] => if state.isSome then [replacement] else []
  | b :: bs =>
    let (out, next) := step state b.toNat
    out ++ decodeFrom next bs

/-- The text of a byte sequence, with replacement characters for what is malformed. -/
def decode (bytes : List UInt8) : List Char :=
  decodeFrom none bytes

/-- The bytes from `start` up to but not including `stop`, clamped to the sequence; none when the
range is reversed. -/
def slice (bytes : List UInt8) (start stop : Nat) : List UInt8 :=
  (bytes.take stop).drop start

/-- The place of an index in a sequence: an index below zero counts from the end, and the place is
the beginning where the sequence is too short for that. -/
def cut (bytes : List UInt8) : Int → Nat
  | .ofNat index => index
  | .negSucc index => bytes.length - (index + 1)

example : [2, 0, -1, -3, -5].map (cut [1, 2, 3]) = [2, 0, 2, 0, 0] := by decide

/-! ### Reading back what was written -/

/-- A text is encoded from its first character on. -/
theorem encode_cons (c : Char) (cs : List Char) : encode (c :: cs) = encodeChar c ++ encode cs :=
  rfl

/-- Texts in a row are encoded in a row. -/
theorem encode_append (cs ds : List Char) : encode (cs ++ ds) = encode cs ++ encode ds :=
  List.flatMap_append

/-- Decoding takes one step for each byte. -/
theorem decodeFrom_cons (state : Option Begun) (b : UInt8) (bs : List UInt8) :
    decodeFrom state (b :: bs) = (step state b.toNat).1 ++ decodeFrom (step state b.toNat).2 bs :=
  rfl

/-- The last byte of a character completes it. -/
theorem step_last {bits low high b : Nat} (hlow : low ≤ b) (hhigh : b ≤ high) :
    step (some ⟨bits, low, high, 0⟩) b = ([Char.ofNat (bits * 64 + (b - 0x80))], none) := by
  simp [step, hlow, hhigh]

/-- Any other byte behind the first one adds its bits. -/
theorem step_more {bits low high more b : Nat} (hlow : low ≤ b) (hhigh : b ≤ high) :
    step (some ⟨bits, low, high, more + 1⟩) b =
      ([], some ⟨bits * 64 + (b - 0x80), 0x80, 0xBF, more⟩) := by
  simp [step, hlow, hhigh]

/-- The first byte of three leaves a range that holds the second one. -/
theorem start_three {n : Nat} (hlow : 0x800 ≤ n) (hhigh : n < 0x10000)
    (hvalid : n < 0xD800 ∨ 0xDFFF < n) :
    ∃ low high, start (0xE0 + n / 4096) = ([], some ⟨n / 4096, low, high, 1⟩) ∧
      low ≤ 0x80 + n / 64 % 64 ∧ 0x80 + n / 64 % 64 ≤ high := by
  unfold start Lead.ofByte
  rw [if_neg (by omega), if_neg (by omega), if_neg (by omega)]
  by_cases hfirst : n / 4096 = 0
  · rw [if_pos (by omega)]
    exact ⟨0xA0, 0xBF, by simp [hfirst], by omega, by omega⟩
  · rw [if_neg (by omega)]
    by_cases hsurrogate : n / 4096 = 0xD
    · rw [if_pos (by omega)]
      exact ⟨0x80, 0x9F, by simp [hsurrogate], by omega, by omega⟩
    · rw [if_neg (by omega), if_pos (by omega)]
      exact ⟨0x80, 0xBF, by simp, by omega, by omega⟩

/-- The first byte of four leaves a range that holds the second one. -/
theorem start_four {n : Nat} (hlow : 0x10000 ≤ n) (hhigh : n < 0x110000) :
    ∃ low high, start (0xF0 + n / 262144) = ([], some ⟨n / 262144, low, high, 2⟩) ∧
      low ≤ 0x80 + n / 4096 % 64 ∧ 0x80 + n / 4096 % 64 ≤ high := by
  unfold start Lead.ofByte
  rw [if_neg (by omega), if_neg (by omega), if_neg (by omega), if_neg (by omega),
    if_neg (by omega), if_neg (by omega)]
  by_cases hfirst : n / 262144 = 0
  · rw [if_pos (by omega)]
    exact ⟨0x90, 0xBF, by simp [hfirst], by omega, by omega⟩
  · rw [if_neg (by omega)]
    by_cases hlast : n / 262144 = 4
    · rw [if_neg (by omega), if_pos (by omega)]
      exact ⟨0x80, 0x8F, by simp [hlast], by omega, by omega⟩
    · rw [if_pos (by omega)]
      exact ⟨0x80, 0xBF, by simp, by omega, by omega⟩

/-- The bytes of a character are read as that character, whatever follows them.

**Proof sketch.** By the number of bytes. The first byte fixes the range of the second one, and the
bounds on the code point of a character keep its second byte in that range. -/
theorem decodeFrom_encodeChar_append (c : Char) (rest : List UInt8) :
    decodeFrom none (encodeChar c ++ rest) = c :: decodeFrom none rest := by
  have hvalid : c.toNat < 0xD800 ∨ (0xDFFF < c.toNat ∧ c.toNat < 0x110000) := c.valid
  have hback : Char.ofNat c.toNat = c := Char.ofNat_toNat c
  have hbyte : ∀ n : Nat, n < 256 → n.toUInt8.toNat = n := by
    intro n hn
    simpa using hn
  generalize hn : c.toNat = n at hvalid hback
  unfold encodeChar
  rw [hn]
  dsimp only
  split
  · -- one byte
    rename_i h1
    rw [List.singleton_append, decodeFrom_cons, hbyte _ (by omega)]
    simp [step, start, Lead.ofByte, h1, hback]
  split
  · -- two bytes
    rename_i h1 h2
    have hstart : start (0xC0 + n / 64) = ([], some ⟨n / 64, 0x80, 0xBF, 0⟩) := by
      unfold start Lead.ofByte
      rw [if_neg (by omega), if_neg (by omega), if_pos (by omega)]
      simp
    have hbits : n / 64 * 64 + (0x80 + n % 64 - 0x80) = n := by omega
    rw [List.cons_append, List.singleton_append, decodeFrom_cons, decodeFrom_cons,
      hbyte _ (by omega), hbyte _ (by omega), step, hstart, step_last (by omega) (by omega), hbits,
      hback]
    rfl
  split
  · -- three bytes
    rename_i h1 h2 h3
    obtain ⟨low, high, hstart, hl, hh⟩ := start_three (n := n) (by omega) h3 (by omega)
    have hbits : (n / 4096 * 64 + (0x80 + n / 64 % 64 - 0x80)) * 64 + (0x80 + n % 64 - 0x80) = n := by
      omega
    rw [List.cons_append, List.cons_append, List.singleton_append, decodeFrom_cons,
      decodeFrom_cons, decodeFrom_cons, hbyte _ (by omega), hbyte _ (by omega), hbyte _ (by omega),
      step, hstart, step_more hl hh, step_last (by omega) (by omega), hbits, hback]
    rfl
  · -- four bytes
    rename_i h1 h2 h3
    obtain ⟨low, high, hstart, hl, hh⟩ := start_four (n := n) (by omega) (by omega)
    have hbits : ((n / 262144 * 64 + (0x80 + n / 4096 % 64 - 0x80)) * 64 +
        (0x80 + n / 64 % 64 - 0x80)) * 64 + (0x80 + n % 64 - 0x80) = n := by
      omega
    rw [List.cons_append, List.cons_append, List.cons_append, List.singleton_append,
      decodeFrom_cons, decodeFrom_cons, decodeFrom_cons, decodeFrom_cons, hbyte _ (by omega),
      hbyte _ (by omega), hbyte _ (by omega), hbyte _ (by omega), step, hstart, step_more hl hh,
      step_more (by omega) (by omega), step_last (by omega) (by omega), hbits, hback]
    rfl

/-- An encoded text is decoded to itself, whatever bytes follow. -/
theorem decode_encode_append (cs : List Char) (rest : List UInt8) :
    decode (encode cs ++ rest) = cs ++ decode rest := by
  induction cs with
  | nil => rfl
  | cons c cs ih =>
    rw [encode_cons, List.append_assoc, decode, decodeFrom_encodeChar_append]
    exact congrArg (c :: ·) ih

/-- A text is read back from its bytes. -/
theorem decode_encode (cs : List Char) : decode (encode cs) = cs := by
  simpa [decode, decodeFrom] using decode_encode_append cs []

/-! ### Malformed sequences -/

example : decode [0xE2, 0x82, 0x61] = [replacement, 'a'] := by decide

example : decode [0xED, 0xA0, 0x80] = [replacement, replacement, replacement] := by decide

end SourceLint.Utf8
