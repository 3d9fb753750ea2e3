import MaskedDump.Text.Class
import MaskedDump.Text.Utf8

/-!
# Identifiers

The name of a table, sequence or schema, kept as the server wrote it: possibly qualified, possibly
quoted, in the encoding of the dump. Two identifiers are equal when their bytes are. The shown forms
are for messages only.
-/

namespace MaskedDump

/-- A name as the server wrote it. -/
structure Identifier where
  bytes : Bytes
  deriving DecidableEq, Repr

namespace Identifier

/-- The identifier spelled by a text. -/
def ofString (s : String) : Identifier := ⟨Bytes.ofString s⟩

/-- The name as text, with U+FFFD for what is not UTF-8. -/
def display (name : Identifier) : String := Utf8.display name.bytes

/-- The name fit for a log line. -/
def sanitized (name : Identifier) : String := Text.sanitize name.display

/-! ## The unambiguous form -/

/-- Writes a byte with ASCII characters alone: printable ones stand for themselves, quotes and the
backslash are escaped, and all others are written by an escape letter or in hexadecimal. -/
def escapeByte (b : UInt8) : String :=
  if b = 9 then "\\t"
  else if b = 10 then "\\n"
  else if b = 13 then "\\r"
  else if b = 34 ∨ b = 39 ∨ b = 92 then String.ofList ['\\', Char.ofNat b.toNat]
  else if 32 ≤ b ∧ b < 127 then String.ofList [Char.ofNat b.toNat]
  else
    "\\x" ++ String.ofList [Nat.digitChar (b.toNat / 16), Nat.digitChar (b.toNat % 16)]

/-- The name with every byte told apart. -/
def debug (name : Identifier) : String :=
  "Identifier(\"" ++ String.join (name.bytes.map escapeByte) ++ "\")"

end Identifier

end MaskedDump
