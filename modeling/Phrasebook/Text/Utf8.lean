/-!
## UTF-8

* `encode` gives the bytes of a text.
* `decodeLossy` reads any bytes.  A sequence that is cut short or malformed is read as one U+FFFD
  for its longest part that could still have been the start of a character, and reading goes on
  behind that part.
-/

namespace Phrasebook.Text.Utf8

/-- The bytes of a text. -/
def encode (s : List Char) : List UInt8 :=
  s.flatMap String.utf8EncodeChar

/-- The character that stands for bytes that are no character. -/
def replacement : Char :=
  '\uFFFD'

/-- What the first byte of a sequence says about the bytes that follow it. -/
structure Lead where
  /-- How many bytes follow. -/
  more : Nat
  /-- The least second byte. -/
  least : Nat
  /-- The greatest second byte. -/
  greatest : Nat
  /-- The bits of the code point in the first byte. -/
  bits : Nat

/-- The kind of sequence that a byte from U+0080 on begins, if it begins one. -/
def lead? (n : Nat) : Option Lead :=
  if 0xC2 ≤ n && n ≤ 0xDF then some ⟨1, 0x80, 0xBF, n - 0xC0⟩
  else if n = 0xE0 then some ⟨2, 0xA0, 0xBF, 0⟩
  else if n = 0xED then some ⟨2, 0x80, 0x9F, 0xD⟩
  else if 0xE1 ≤ n && n ≤ 0xEF then some ⟨2, 0x80, 0xBF, n - 0xE0⟩
  else if n = 0xF0 then some ⟨3, 0x90, 0xBF, 0⟩
  else if 0xF1 ≤ n && n ≤ 0xF3 then some ⟨3, 0x80, 0xBF, n - 0xF0⟩
  else if n = 0xF4 then some ⟨3, 0x80, 0x8F, 4⟩
  else none

/-- Adds the bits of `needed` following bytes to `value`; `taken` of them have been read.  Gives the
code point, if all are there, and the number of bytes read. -/
def gather (value taken : Nat) : Nat → Nat → Nat → List UInt8 → Option Nat × Nat
  | 0, _, _, _ => (some value, taken)
  | _ + 1, _, _, [] => (none, taken)
  | needed + 1, least, greatest, b :: rest =>
    if least ≤ b.toNat && b.toNat ≤ greatest then
      gather (value * 64 + (b.toNat - 0x80)) (taken + 1) needed 0x80 0xBF rest
    else (none, taken)

/-- The character that begins with the byte `b`, and how many of the following bytes belong to it.
-/
def decodeOne (b : UInt8) (rest : List UInt8) : Char × Nat :=
  if b.toNat < 0x80 then (Char.ofNat b.toNat, 0)
  else match lead? b.toNat with
    | none => (replacement, 0)
    | some l =>
      match gather l.bits 0 l.more l.least l.greatest rest with
      | (some n, taken) => (Char.ofNat n, taken)
      | (none, taken) => (replacement, taken)

/-- `decodeFrom n bytes` leaves out the first `n` bytes, those of a character that has been read,
and reads the others. -/
def decodeFrom : Nat → List UInt8 → List Char
  | _, [] => []
  | n + 1, _ :: rest => decodeFrom n rest
  | 0, b :: rest => (decodeOne b rest).1 :: decodeFrom (decodeOne b rest).2 rest

/-- The text that bytes stand for. -/
def decodeLossy (bytes : List UInt8) : List Char :=
  decodeFrom 0 bytes

end Phrasebook.Text.Utf8
