import MaskedDump.Bytes

/-!
# String literals

How a value is written into a statement: between single quotes, each single quote inside written
twice. No other byte is touched, so a value in any encoding passes through.
-/

namespace MaskedDump.Sql

/-- The inside of a literal: each single quote written twice. -/
def doubleQuotes : Bytes → Bytes
  | [] => []
  | b :: rest =>
    if b = Bytes.singleQuote then b :: b :: doubleQuotes rest else b :: doubleQuotes rest

/-- A value as a string literal. -/
def quoteLiteral (value : Bytes) : Bytes :=
  Bytes.singleQuote :: doubleQuotes value ++ [Bytes.singleQuote]

end MaskedDump.Sql
