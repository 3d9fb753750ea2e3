import MaskedDump.Proofs.Sql.Literal
import Mathlib.Data.List.Chain

/-!
# Reading statements

A statement is read from left to right as text and literals. A single quote opens a literal; two
single quotes inside stand for one, and a single quote alone closes it. A backslash is a byte like
any other. All else, up to the next single quote, is text.

Results:
* `literal?_eq_some_iff`: what is read as a literal is what was written as one, and no single quote
  follows it;
* `tokens?_flatMap_written`: texts and literals by turns are read back as they were written.
-/

namespace MaskedDump.Sql

open Bytes

/-! ## Literals -/

/-- The value of a literal from behind its opening quote, and what follows the closing one. -/
def literalTail? : Bytes → Option (Bytes × Bytes)
  | [] => none
  | [b] => if b = singleQuote then some ([], []) else none
  | b :: c :: rest =>
    if b = singleQuote then
      if c = singleQuote then
        (literalTail? rest).map fun (value, after) => (b :: value, after)
      else some ([], c :: rest)
    else (literalTail? (c :: rest)).map fun (value, after) => (b :: value, after)

/-- The value of the literal at the head of a text, and what follows the literal. -/
def literal? : Bytes → Option (Bytes × Bytes)
  | [] => none
  | b :: rest => if b = singleQuote then literalTail? rest else none

/-- Whether a literal ends before a text: one quote more would be part of it. -/
def EndsLiteral (rest : Bytes) : Prop := rest.head? ≠ some singleQuote

theorem literalTail?_append (value : Bytes) {rest : Bytes} (hrest : EndsLiteral rest) :
    literalTail? (doubleQuotes value ++ singleQuote :: rest) = some (value, rest) := by
  induction value with
  | nil =>
    cases rest with
    | nil => rfl
    | cons b rest =>
      have hb : b ≠ singleQuote := fun h => hrest (congrArg some h)
      simp [doubleQuotes, literalTail?, hb]
  | cons b value ih =>
    rw [doubleQuotes]
    split
    · rename_i hb
      simp [literalTail?, hb, ih]
    · rename_i hb
      -- the reader looks one byte ahead, and at least the closing quote is there
      cases htail : doubleQuotes value ++ singleQuote :: rest with
      | nil => simp at htail
      | cons next tail =>
        rw [List.cons_append, htail, literalTail?, if_neg hb, ← htail, ih]
        rfl

theorem eq_of_literalTail? {text value rest : Bytes} (h : literalTail? text = some (value, rest)) :
    text = doubleQuotes value ++ singleQuote :: rest ∧ EndsLiteral rest := by
  fun_induction literalTail? text generalizing value rest with
  | case1 => simp at h
  | case2 =>
    obtain ⟨rfl, rfl⟩ := Prod.mk.inj (Option.some.inj h)
    exact ⟨rfl, nofun⟩
  | case3 => simp at h
  | case4 tail ih =>
    obtain ⟨⟨inside, after⟩, hinside, heq⟩ := Option.map_eq_some_iff.mp h
    obtain ⟨rfl, rfl⟩ := Prod.mk.inj heq
    obtain ⟨rfl, hends⟩ := ih hinside
    exact ⟨by simp [doubleQuotes], hends⟩
  | case5 c tail hc =>
    obtain ⟨rfl, rfl⟩ := Prod.mk.inj (Option.some.inj h)
    exact ⟨rfl, fun hhead => hc (Option.some.inj hhead)⟩
  | case6 b c tail hb ih =>
    obtain ⟨⟨inside, after⟩, hinside, heq⟩ := Option.map_eq_some_iff.mp h
    obtain ⟨rfl, rfl⟩ := Prod.mk.inj heq
    obtain ⟨htail, hends⟩ := ih hinside
    exact ⟨by rw [htail, doubleQuotes, if_neg hb]; rfl, hends⟩

/-- Reading a literal undoes writing it, and nothing else is read as one. -/
theorem literal?_eq_some_iff {text value rest : Bytes} :
    literal? text = some (value, rest) ↔ text = quoteLiteral value ++ rest ∧ EndsLiteral rest := by
  have hwritten : quoteLiteral value ++ rest =
      singleQuote :: (doubleQuotes value ++ singleQuote :: rest) := by
    simp [quoteLiteral]
  rw [hwritten]
  constructor
  · intro h
    cases text with
    | nil => cases h
    | cons b tail =>
      rw [literal?] at h
      split at h
      · rename_i hb
        obtain ⟨htail, hends⟩ := eq_of_literalTail? h
        exact ⟨by rw [hb, htail], hends⟩
      · cases h
  · rintro ⟨rfl, hends⟩
    exact literalTail?_append value hends

theorem literal?_quoteLiteral_append (value : Bytes) {rest : Bytes} (hrest : EndsLiteral rest) :
    literal? (quoteLiteral value ++ rest) = some (value, rest) :=
  literal?_eq_some_iff.mpr ⟨rfl, hrest⟩

theorem length_of_literal? {text value rest : Bytes} (h : literal? text = some (value, rest)) :
    rest.length < text.length := by
  obtain ⟨rfl, -⟩ := literal?_eq_some_iff.mp h
  simp only [quoteLiteral, List.length_append, List.length_cons]
  omega

/-! ## Tokens -/

/-- A part of a statement: text, or a literal, told by its value. -/
inductive Token
  | text (bs : Bytes)
  | literal (value : Bytes)
  deriving DecidableEq, Repr

namespace Token

/-- The value of a literal. -/
def value? : Token → Option Bytes
  | text _ => none
  | literal value => some value

/-- How a part is written. -/
def written : Token → Bytes
  | text bs => bs
  | literal value => quoteLiteral value

/-- Whether a part can be told from what stands around it: text is not empty and has no quotes. -/
def Stands : Token → Prop
  | text bs => bs ≠ [] ∧ singleQuote ∉ bs
  | literal _ => True

instance decidableStands : (t : Token) → Decidable t.Stands
  | text bs => inferInstanceAs (Decidable (bs ≠ [] ∧ singleQuote ∉ bs))
  | literal _ => isTrue trivial

/-- Whether two parts can follow each other: one is text, one is a literal. -/
def Alternates (t next : Token) : Prop := t.value?.isSome ≠ next.value?.isSome

end Token

/-- The parts of a statement. There are none if its last literal is not closed. -/
def tokens? (statement : Bytes) : Option (List Token) :=
  match statement with
  | [] => some []
  | b :: rest =>
    if b = singleQuote then
      match _h : literal? (b :: rest) with
      | none => none
      | some (value, after) => (tokens? after).map (.literal value :: ·)
    else
      (tokens? (rest.dropWhile (· ≠ singleQuote))).map
        (.text (b :: rest.takeWhile (· ≠ singleQuote)) :: ·)
termination_by statement.length
decreasing_by
  · exact length_of_literal? _h
  · exact Nat.lt_succ_of_le (List.dropWhile_suffix _).length_le

/-- The values of all literals in a statement, in their order. -/
def literals? (statement : Bytes) : Option (List Bytes) :=
  (tokens? statement).map (·.filterMap Token.value?)

theorem tokens?_literal_append (value : Bytes) {rest : Bytes} (hrest : EndsLiteral rest) :
    tokens? (quoteLiteral value ++ rest) = (tokens? rest).map (.literal value :: ·) := by
  have hread := literal?_quoteLiteral_append value hrest
  rw [quoteLiteral, List.cons_append, List.cons_append] at hread ⊢
  rw [tokens?, if_pos rfl]
  split
  · rename_i h
    rw [hread] at h
    cases h
  · rename_i h
    rw [hread] at h
    obtain ⟨rfl, rfl⟩ := Prod.mk.inj (Option.some.inj h)
    rfl

theorem tokens?_text_append {text rest : Bytes} (htext : text ≠ []) (hquote : singleQuote ∉ text)
    (hrest : rest = [] ∨ rest.head? = some singleQuote) :
    tokens? (text ++ rest) = (tokens? rest).map (.text text :: ·) := by
  obtain ⟨b, more, rfl⟩ := List.exists_cons_of_ne_nil htext
  obtain ⟨hb, hmore⟩ := List.ne_and_not_mem_of_not_mem_cons hquote
  have hall : ∀ x ∈ more, decide (x ≠ singleQuote) = true :=
    fun x hx => decide_eq_true fun h => hmore (h ▸ hx)
  have hstop : rest.takeWhile (fun x => decide (x ≠ singleQuote)) = [] ∧
      rest.dropWhile (fun x => decide (x ≠ singleQuote)) = rest := by
    rcases hrest with rfl | hhead
    · exact ⟨rfl, rfl⟩
    · obtain ⟨tail, rfl⟩ := List.head?_eq_some_iff.mp hhead
      simp
  rw [List.cons_append, tokens?, if_neg (Ne.symm hb), List.dropWhile_append_of_pos hall,
    List.takeWhile_append_of_pos hall, hstop.1, hstop.2, List.append_nil]

/-- Texts and literals by turns are read back as they were written. -/
theorem tokens?_flatMap_written {parts : List Token} (hstands : ∀ t ∈ parts, t.Stands)
    (hturns : parts.IsChain Token.Alternates) :
    tokens? (parts.flatMap Token.written) = some parts := by
  induction parts with
  | nil => rw [List.flatMap_nil, tokens?]
  | cons t rest ih =>
    obtain ⟨ht, hrest⟩ := List.forall_mem_cons.mp hstands
    have hread := ih hrest hturns.tail
    rw [List.flatMap_cons]
    cases t with
    | text bs =>
      have hbehind : rest.flatMap Token.written = [] ∨
          (rest.flatMap Token.written).head? = some singleQuote := by
        cases rest with
        | nil => exact .inl rfl
        | cons next more =>
          cases next with
          | text other => exact absurd rfl (List.isChain_cons_cons.mp hturns).1
          | literal value => exact .inr (by simp [Token.written, quoteLiteral])
      rw [Token.written, tokens?_text_append ht.1 ht.2 hbehind, hread]
      rfl
    | literal value =>
      have hbehind : EndsLiteral (rest.flatMap Token.written) := by
        cases rest with
        | nil => exact fun hhead => Option.some_ne_none _ hhead.symm
        | cons next more =>
          cases next with
          | literal other => exact absurd rfl (List.isChain_cons_cons.mp hturns).1
          | text bs =>
            obtain ⟨⟨hne, hquote⟩, -⟩ := List.forall_mem_cons.mp hrest
            obtain ⟨b, tail, rfl⟩ := List.exists_cons_of_ne_nil hne
            intro hhead
            simp only [List.flatMap_cons, Token.written, List.cons_append, List.head?_cons,
              Option.some.injEq] at hhead
            exact hquote (hhead ▸ List.mem_cons_self)
      rw [Token.written, tokens?_literal_append value hbehind, hread]
      rfl

end MaskedDump.Sql
