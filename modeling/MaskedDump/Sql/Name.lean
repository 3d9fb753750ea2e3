import MaskedDump.Bytes

/-!
# Names in statements

A name is one component, or two joined by a dot. A component is either quoted, a non-empty run of
bytes between double quotes in which a double quote is written twice, or bare, a non-empty run of
bytes other than spaces, double quotes, dots and opening parentheses. Each scanner returns the
longest lexeme at the head of a text and what follows it.

Result:
* `component?_append`, `name?_append`: lexeme and rest concatenate to the text.
-/

namespace MaskedDump.Sql

/-- Bytes of a bare component. -/
def isBare (b : UInt8) : Bool :=
  !(Bytes.isSpace b || b == Bytes.doubleQuote || b == Bytes.dot || b == 40)

/-- The rest of a quoted component, from behind its opening quote to its closing quote, and what
follows. -/
def quotedTail? : Bytes → Option (Bytes × Bytes)
  | [] => none
  | [b] => if b = Bytes.doubleQuote then some ([b], []) else none
  | b :: c :: rest =>
    if b = Bytes.doubleQuote then
      if c = Bytes.doubleQuote then
        (quotedTail? rest).map fun (inside, after) => (b :: c :: inside, after)
      else some ([b], c :: rest)
    else (quotedTail? (c :: rest)).map fun (inside, after) => (b :: inside, after)

/-- One component at the head of a text, and what follows. A quoted component is not empty. -/
def component? (text : Bytes) : Option (Bytes × Bytes) :=
  match text with
  | [] => none
  | b :: rest =>
    if b = Bytes.doubleQuote then
      match quotedTail? rest with
      | some (inside, after) => if inside.length ≤ 1 then none else some (b :: inside, after)
      | none => none
    else if isBare b then some ((b :: rest).takeWhile isBare, (b :: rest).dropWhile isBare)
    else none

/-- One name at the head of a text, and what follows. A dot behind the first component must lead to
a second one. -/
def name? (text : Bytes) : Option (Bytes × Bytes) :=
  match component? text with
  | none => none
  | some (first, after) =>
    match after with
    | [] => some (first, [])
    | b :: rest =>
      if b = Bytes.dot then
        (component? rest).map fun (second, after) => (first ++ b :: second, after)
      else some (first, b :: rest)

theorem quotedTail?_append {text inside after : Bytes}
    (h : quotedTail? text = some (inside, after)) : inside ++ after = text := by
  fun_induction quotedTail? text generalizing inside after with
  | case1 => simp at h
  | case2 => simp_all
  | case3 => simp at h
  | case4 rest ih =>
    obtain ⟨⟨i, a⟩, hi, he⟩ := Option.map_eq_some_iff.1 h
    simp only [Prod.mk.injEq] at he
    obtain ⟨rfl, rfl⟩ := he
    simp [ih hi]
  | case5 =>
    simp only [Option.some.injEq, Prod.mk.injEq] at h
    obtain ⟨rfl, rfl⟩ := h
    rfl
  | case6 b c rest _ ih =>
    obtain ⟨⟨i, a⟩, hi, he⟩ := Option.map_eq_some_iff.1 h
    simp only [Prod.mk.injEq] at he
    obtain ⟨rfl, rfl⟩ := he
    simp [ih hi]

theorem component?_append {text lexeme after : Bytes}
    (h : component? text = some (lexeme, after)) : lexeme ++ after = text := by
  unfold component? at h
  split at h
  · simp at h
  · split at h
    · split at h
      · rename_i hq
        split at h
        · simp at h
        · simp only [Option.some.injEq, Prod.mk.injEq] at h
          obtain ⟨rfl, rfl⟩ := h
          simp [quotedTail?_append hq]
      · simp at h
    · split at h
      · simp only [Option.some.injEq, Prod.mk.injEq] at h
        obtain ⟨rfl, rfl⟩ := h
        exact List.takeWhile_append_dropWhile
      · simp at h

theorem name?_append {text lexeme after : Bytes}
    (h : name? text = some (lexeme, after)) : lexeme ++ after = text := by
  unfold name? at h
  split at h
  · simp at h
  · rename_i first tail hc
    have hf := component?_append hc
    split at h
    · simp only [Option.some.injEq, Prod.mk.injEq] at h
      obtain ⟨rfl, rfl⟩ := h
      exact hf
    · split at h
      · obtain ⟨⟨s, a⟩, hs, he⟩ := Option.map_eq_some_iff.1 h
        simp only [Prod.mk.injEq] at he
        obtain ⟨rfl, rfl⟩ := he
        simp [component?_append hs, hf]
      · simp only [Option.some.injEq, Prod.mk.injEq] at h
        obtain ⟨rfl, rfl⟩ := h
        exact hf

end MaskedDump.Sql
