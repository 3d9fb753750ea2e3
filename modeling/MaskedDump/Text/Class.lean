/-!
# Character classes

Two properties of Unicode characters: `Cc`, the control characters, which no shown name may carry
into a log, and `White_Space`, which is cut off the end of a tool's diagnostics.
-/

namespace MaskedDump.Text

/-- The category `Cc`: the controls below the space, the delete character and the C1 controls. -/
def isControl (c : Char) : Bool :=
  c.toNat < 0x20 || (0x7F ≤ c.toNat && c.toNat < 0xA0)

/-- The property `White_Space`. -/
def isWhite (c : Char) : Bool :=
  let n := c.toNat
  (0x09 ≤ n && n ≤ 0x0D) || n == 0x20 || n == 0x85 || n == 0xA0 || n == 0x1680
    || (0x2000 ≤ n && n ≤ 0x200A) || n == 0x2028 || n == 0x2029 || n == 0x202F || n == 0x205F
    || n == 0x3000

/-- Cuts the white space off the end. -/
def trimEnd (s : String) : String :=
  String.ofList (s.toList.reverse.dropWhile isWhite).reverse

/-- Cuts the white space off both ends. -/
def trim (s : String) : String := trimEnd (String.ofList (s.toList.dropWhile isWhite))

/-- The most characters of a name that are shown. -/
def shownLength : Nat := 100

/-- A name made fit for a log line: no control characters, at most `shownLength` characters. -/
def sanitize (s : String) : String :=
  String.ofList ((s.toList.filter (!isControl ·)).take shownLength)

/-- The decimal digits of a number. -/
def decimal (n : Nat) : String := String.ofList (Nat.toDigits 10 n)

end MaskedDump.Text
