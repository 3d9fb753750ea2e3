import MaskedDump.Sql.Literal

/-!
# Printed literals

Results:
* `quoteLiteral_inj`: a literal tells which value it is of;
* `lineFeed_not_mem_quoteLiteral`: the literal of a value on one line is on one line.
-/

namespace MaskedDump.Sql

open Bytes

/-- What is written for a byte begins with that byte, and with another one only if it is a quote. -/
theorem doubleQuotes_cons (b : UInt8) (rest : Bytes) :
    doubleQuotes (b :: rest) =
      b :: ((if b = singleQuote then [b] else []) ++ doubleQuotes rest) := by
  rw [doubleQuotes]
  split <;> rfl

theorem doubleQuotes_inj {value other : Bytes} (h : doubleQuotes value = doubleQuotes other) :
    value = other := by
  induction value generalizing other with
  | nil =>
    cases other with
    | nil => rfl
    | cons b rest =>
      rw [doubleQuotes_cons] at h
      cases h
  | cons b rest ih =>
    cases other with
    | nil =>
      rw [doubleQuotes_cons] at h
      cases h
    | cons b' rest' =>
      rw [doubleQuotes_cons, doubleQuotes_cons] at h
      obtain ⟨rfl, h⟩ := List.cons.inj h
      rw [ih (List.append_cancel_left h)]

theorem quoteLiteral_inj {value other : Bytes} (h : quoteLiteral value = quoteLiteral other) :
    value = other :=
  doubleQuotes_inj (List.append_cancel_right (List.cons.inj h).2)

theorem lineFeed_not_mem_quoteLiteral {value : Bytes} (h : lineFeed ∉ value) :
    lineFeed ∉ quoteLiteral value := by
  have hquotes : lineFeed ∉ doubleQuotes value := by
    induction value with
    | nil => exact h
    | cons b rest ih =>
      obtain ⟨hb, hrest⟩ := List.ne_and_not_mem_of_not_mem_cons h
      rw [doubleQuotes_cons]
      split <;> simp [hb, ih hrest]
  have hquote : lineFeed ≠ singleQuote := by decide
  simp [quoteLiteral, hquotes, hquote]

end MaskedDump.Sql
