/-!
# Byte strings

A dump is a list of bytes in the encoding of its database, and so is every name, statement and row
in it. Nothing here decodes: bytes from 128 on are compared and copied only, and every rule on
blanks and line ends speaks of ASCII bytes.
-/

namespace MaskedDump

/-- A byte string, in whatever encoding the database uses. -/
abbrev Bytes := List UInt8

namespace Bytes

/-- The UTF-8 bytes of a text. -/
def ofString (s : String) : Bytes := s.toUTF8.data.toList

theorem ofString_append (s t : String) : ofString (s ++ t) = ofString s ++ ofString t := by
  simp [ofString, String.toUTF8]

/-- The line feed. -/
def lineFeed : UInt8 := 10

/-- The space. -/
def space : UInt8 := 32

/-- The double quote, around names. -/
def doubleQuote : UInt8 := 34

/-- The single quote, around literals. -/
def singleQuote : UInt8 := 39

/-- The dot between the two parts of a name. -/
def dot : UInt8 := 46

/-! ## Blanks -/

/-- Blanks that are cut off at the ends of a reply: space, tab, line feed, form feed, carriage
return. The vertical tab is not one of them. -/
def isBlank (b : UInt8) : Bool :=
  b == 32 || b == 9 || b == 10 || b == 12 || b == 13

/-- Spaces that end a name in a statement: the blanks and the vertical tab. -/
def isSpace (b : UInt8) : Bool := isBlank b || b == 11

/-- Cuts the blanks off both ends. -/
def trim (bs : Bytes) : Bytes :=
  ((bs.dropWhile isBlank).reverse.dropWhile isBlank).reverse

/-! ## Lines -/

/-- The first line, with its line feed if it has one. -/
def firstLine : Bytes → Bytes
  | [] => []
  | b :: rest => if b = lineFeed then [b] else b :: firstLine rest

/-- What follows the first line. -/
def afterLine : Bytes → Bytes
  | [] => []
  | b :: rest => if b = lineFeed then rest else afterLine rest

theorem firstLine_append_afterLine (bs : Bytes) : firstLine bs ++ afterLine bs = bs := by
  induction bs with
  | nil => rfl
  | cons b rest ih => by_cases h : b = lineFeed <;> simp [firstLine, afterLine, h, ih]

theorem length_afterLine_le (bs : Bytes) : (afterLine bs).length ≤ bs.length := by
  have h := congrArg List.length (firstLine_append_afterLine bs)
  simp only [List.length_append] at h
  omega

theorem length_afterLine_lt {bs : Bytes} (h : bs ≠ []) : (afterLine bs).length < bs.length := by
  match bs with
  | [] => exact absurd rfl h
  | b :: rest =>
    have hrest := length_afterLine_le rest
    rw [afterLine, List.length_cons]
    split
    · omega
    · omega

/-- The pieces between line feeds; a text that ends in a line feed has an empty last piece. -/
def pieces : Bytes → List Bytes
  | [] => [[]]
  | b :: rest =>
    if b = lineFeed then [] :: pieces rest
    else match pieces rest with
      | [] => [[b]]
      | piece :: more => (b :: piece) :: more

/-- Takes one line end off the end of a text: a carriage return with a line feed, or a line feed. -/
def dropLineEnd (bs : Bytes) : Bytes :=
  match bs.reverse with
  | 10 :: 13 :: rest => rest.reverse
  | 10 :: rest => rest.reverse
  | _ => bs

/-! ## Searching -/

/-- What follows an opening, if the text begins with it. -/
def after? : Bytes → Bytes → Option Bytes
  | [], text => some text
  | _ :: _, [] => none
  | a :: opening, b :: text => if a = b then after? opening text else none

theorem after?_eq_some_iff {opening text rest : Bytes} :
    after? opening text = some rest ↔ text = opening ++ rest := by
  fun_induction after? opening text with
  | case1 => simp [eq_comm]
  | case2 => simp
  | case3 a opening text ih => simp [ih]
  | case4 a opening b text h => simp [Ne.symm h]

/-- Whether `needle` stands somewhere in the text; the empty needle always does. -/
def occursIn (needle : Bytes) : Bytes → Bool
  | [] => needle.isEmpty
  | b :: rest => needle.isPrefixOf (b :: rest) || occursIn needle rest

end Bytes

end MaskedDump
