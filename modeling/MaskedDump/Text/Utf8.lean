import MaskedDump.Bytes

/-!
# Reading bytes as UTF-8 text

Messages are text, the bytes of a dump are not. A byte string is read one byte at a time; a sequence
that breaks off, in the longest part that could still have become a character, counts as one broken
unit. Showing a byte string replaces each broken unit by U+FFFD; reading it strictly refuses it.
-/

namespace MaskedDump.Utf8

/-- A character whose first bytes have been read: the range that its next byte must lie in, how many
bytes are missing after that one, and the value so far. -/
structure Begun where
  low : UInt8
  high : UInt8
  missing : Nat
  value : Nat
  deriving DecidableEq, Repr

/-- What one byte brings when no character is begun: a finished unit (`none` when it is broken), or
the beginning of a longer character. Overlong forms, surrogates and values past U+10FFFF are shut
out by the range of the second byte. -/
def start (b : UInt8) : List (Option Char) × Option Begun :=
  if b < 0x80 then ([some (Char.ofNat b.toNat)], none)
  else if b < 0xC2 then ([none], none)
  else if b < 0xE0 then ([], some ⟨0x80, 0xBF, 0, b.toNat - 0xC0⟩)
  else if b = 0xE0 then ([], some ⟨0xA0, 0xBF, 1, 0⟩)
  else if b = 0xED then ([], some ⟨0x80, 0x9F, 1, 13⟩)
  else if b < 0xF0 then ([], some ⟨0x80, 0xBF, 1, b.toNat - 0xE0⟩)
  else if b = 0xF0 then ([], some ⟨0x90, 0xBF, 2, 0⟩)
  else if b < 0xF4 then ([], some ⟨0x80, 0xBF, 2, b.toNat - 0xF0⟩)
  else if b = 0xF4 then ([], some ⟨0x80, 0x8F, 2, 4⟩)
  else ([none], none)

/-- Reads one byte: the units it finishes and what is begun after it. A byte outside the range that
was asked for breaks the unit off and is read afresh. -/
def step : Option Begun → UInt8 → List (Option Char) × Option Begun
  | none, b => start b
  | some s, b =>
    if s.low ≤ b ∧ b ≤ s.high then
      let value := s.value * 64 + (b.toNat - 0x80)
      match s.missing with
      | 0 => ([some (Char.ofNat value)], none)
      | missing + 1 => ([], some ⟨0x80, 0xBF, missing, value⟩)
    else
      let (units, next) := start b
      (none :: units, next)

/-- The units of a byte string, read on from what is begun. -/
def run : Option Begun → Bytes → List (Option Char)
  | none, [] => []
  | some _, [] => [none]
  | state, b :: rest =>
    let (units, next) := step state b
    units ++ run next rest

/-- The units of a byte string: a character, or `none` for a broken sequence. -/
def units (bs : Bytes) : List (Option Char) := run none bs

/-- The character shown for a broken sequence. -/
def replacement : Char := '\uFFFD'

/-- The text shown for a byte string, with U+FFFD for each broken sequence. -/
def display (bs : Bytes) : String :=
  String.ofList ((units bs).map (·.getD replacement))

/-- The text that a byte string spells, if it is valid. -/
def decode? (bs : Bytes) : Option String :=
  if (units bs).all Option.isSome then some (String.ofList ((units bs).filterMap id)) else none

/-- The longest valid beginning and the bytes that follow it. -/
def splitValid (bs : Bytes) : String × Bytes :=
  let good := String.ofList (((units bs).takeWhile Option.isSome).filterMap id)
  (good, bs.drop (Bytes.ofString good).length)

end MaskedDump.Utf8
