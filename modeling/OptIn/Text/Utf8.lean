/-!
# UTF-8 with replacement

`decode` reads bytes as UTF-8 and never fails: each maximal part of the input that cannot be
continued to a well-formed character is read as one U+FFFD. It is a machine with one step per byte
(`step`), so what it makes of the bytes before a boundary does not depend on those behind it.
-/

namespace OptIn.Text.Utf8

/-- A character whose first bytes have been read: the bits so far, how many bytes are missing, and
the range that the next byte has to lie in. -/
structure Open where
  bits : Nat
  missing : Nat
  low : UInt8
  high : UInt8
  deriving DecidableEq, Repr

/-- The character that stands for bytes that are not UTF-8. -/
def replacement : Char := '\uFFFD'

/-- What a byte is at the start of a character: a character of its own, the beginning of a longer
one, or neither. -/
def start (b : UInt8) : List Char × Option Open :=
  let n := b.toNat
  if n < 0x80 then ([Char.ofNat n], none)
  else if 0xC2 ≤ n ∧ n ≤ 0xDF then ([], some ⟨n - 0xC0, 1, 0x80, 0xBF⟩)
  else if n = 0xE0 then ([], some ⟨0, 2, 0xA0, 0xBF⟩)
  else if n = 0xED then ([], some ⟨0xD, 2, 0x80, 0x9F⟩)
  else if 0xE1 ≤ n ∧ n ≤ 0xEF then ([], some ⟨n - 0xE0, 2, 0x80, 0xBF⟩)
  else if n = 0xF0 then ([], some ⟨0, 3, 0x90, 0xBF⟩)
  else if 0xF1 ≤ n ∧ n ≤ 0xF3 then ([], some ⟨n - 0xF0, 3, 0x80, 0xBF⟩)
  else if n = 0xF4 then ([], some ⟨4, 3, 0x80, 0x8F⟩)
  else ([replacement], none)

/-- One byte: the characters it completes, and the character that is open after it. -/
def step : Option Open → UInt8 → List Char × Option Open
  | none, b => start b
  | some o, b =>
    if o.low ≤ b ∧ b ≤ o.high then
      let bits := o.bits * 64 + (b.toNat - 0x80)
      if o.missing ≤ 1 then ([Char.ofNat bits], none)
      else ([], some ⟨bits, o.missing - 1, 0x80, 0xBF⟩)
    else
      let (cs, next) := start b
      (replacement :: cs, next)

/-- The characters that the bytes complete after a given beginning. -/
def decodeFrom : Option Open → List UInt8 → List Char
  | none, [] => []
  | some _, [] => [replacement]
  | o, b :: bs => (step o b).1 ++ decodeFrom (step o b).2 bs

/-- The text that the bytes hold, with U+FFFD for each maximal part that is not UTF-8. -/
def decode (bs : List UInt8) : List Char := decodeFrom none bs

/-- The bytes of a text. -/
def encode (cs : List Char) : List UInt8 := cs.flatMap String.utf8EncodeChar

end OptIn.Text.Utf8
