import MaskedDump.Identifier
import MaskedDump.Proofs.Lines
import MaskedDump.Sql.Literal
import MaskedDump.Sql.Name
import Mathlib.Logic.Equiv.Defs

/-!
# Recoded bytes

Encodings that extend ASCII differ in what the bytes from 128 on stand for. A recoding exchanges
these bytes for one another and leaves ASCII alone. Whatever compares bytes with ASCII characters
and copies all others gives the recoded result for a recoded text.

Results:
* `perm_eq_iff`: a recoded byte is an ASCII character exactly when the byte itself is;
* `bytes_trim`, `bytes_pieces`, `after?_bytes`: blanks, lines and openings of a recoded text;
* `bytes_quoteLiteral`: the literal of a recoded value;
* `name?_bytes`: the name at the head of a recoded text.
-/

namespace MaskedDump

/-- A permutation of the bytes that keeps every ASCII character. -/
structure Recoding where
  perm : Equiv.Perm UInt8
  perm_ascii : ∀ b, b < 128 → perm b = b

/-- Whether a text has ASCII characters alone. -/
def Bytes.IsAscii (bs : Bytes) : Prop := ∀ b ∈ bs, b < 128

-- named, lest all 256 bytes are tried instead of those in the text
instance : DecidablePred Bytes.IsAscii := fun bs => List.decidableBAll _ bs

namespace Recoding

open Bytes

/-- The recoding that changes nothing. -/
def identity : Recoding := ⟨Equiv.refl _, fun _ _ => rfl⟩

variable (ρ : Recoding)

/-- A recoded byte string. -/
def bytes (bs : Bytes) : Bytes := bs.map ρ.perm

/-- A recoded name. -/
def identifier (name : Identifier) : Identifier := ⟨ρ.bytes name.bytes⟩

@[simp] theorem bytes_nil : ρ.bytes [] = [] := rfl

@[simp] theorem bytes_cons (b : UInt8) (bs : Bytes) :
    ρ.bytes (b :: bs) = ρ.perm b :: ρ.bytes bs := rfl

@[simp] theorem bytes_append (a b : Bytes) : ρ.bytes (a ++ b) = ρ.bytes a ++ ρ.bytes b :=
  List.map_append

@[simp] theorem length_bytes (bs : Bytes) : (ρ.bytes bs).length = bs.length := List.length_map _

@[simp] theorem isEmpty_bytes (bs : Bytes) : (ρ.bytes bs).isEmpty = bs.isEmpty := by
  cases bs <;> rfl

theorem bytes_injective : Function.Injective ρ.bytes := by
  intro a b h
  exact (List.map_inj_right fun _ _ hperm => ρ.perm.injective hperm).mp h

theorem identifier_injective : Function.Injective ρ.identifier := by
  rintro ⟨a⟩ ⟨b⟩ h
  have hbytes : a = b := ρ.bytes_injective (congrArg Identifier.bytes h)
  rw [hbytes]

@[simp] theorem bytes_identity (bs : Bytes) : identity.bytes bs = bs := List.map_id bs

@[simp] theorem identifier_identity (name : Identifier) : identity.identifier name = name := by
  rw [identifier, bytes_identity]

/-! ## ASCII characters -/

theorem perm_eq_iff {a : UInt8} (ha : a < 128) (b : UInt8) : ρ.perm b = a ↔ b = a := by
  constructor
  · intro h
    rw [← ρ.perm_ascii a ha] at h
    exact ρ.perm.injective h
  · rintro rfl
    exact ρ.perm_ascii b ha

theorem perm_beq {a : UInt8} (ha : a < 128) (b : UInt8) : (ρ.perm b == a) = (b == a) := by
  rw [Bool.eq_iff_iff, beq_iff_eq, beq_iff_eq]
  exact ρ.perm_eq_iff ha b

theorem bytes_of_isAscii {bs : Bytes} (h : IsAscii bs) : ρ.bytes bs = bs := by
  rw [bytes, List.map_congr_left fun b hb => ρ.perm_ascii b (h b hb), List.map_id']

theorem bytes_ofString {s : String} (h : IsAscii (ofString s)) :
    ρ.bytes (ofString s) = ofString s := ρ.bytes_of_isAscii h

/-! ## Blanks -/

@[simp] theorem isBlank_perm (b : UInt8) : isBlank (ρ.perm b) = isBlank b := by
  simp (disch := decide) only [isBlank, perm_beq]

@[simp] theorem isSpace_perm (b : UInt8) : isSpace (ρ.perm b) = isSpace b := by
  simp (disch := decide) only [isSpace, isBlank_perm, perm_beq]

@[simp] theorem isBare_perm (b : UInt8) : Sql.isBare (ρ.perm b) = Sql.isBare b := by
  simp (disch := decide) only [Sql.isBare, isSpace_perm, doubleQuote, dot, perm_beq]

theorem bytes_takeWhile {p : UInt8 → Bool} (hp : ∀ b, p (ρ.perm b) = p b) (bs : Bytes) :
    (ρ.bytes bs).takeWhile p = ρ.bytes (bs.takeWhile p) := by
  have hcomp : p ∘ ρ.perm = p := funext hp
  rw [bytes, List.takeWhile_map, hcomp, bytes]

theorem bytes_dropWhile {p : UInt8 → Bool} (hp : ∀ b, p (ρ.perm b) = p b) (bs : Bytes) :
    (ρ.bytes bs).dropWhile p = ρ.bytes (bs.dropWhile p) := by
  have hcomp : p ∘ ρ.perm = p := funext hp
  rw [bytes, List.dropWhile_map, hcomp, bytes]

theorem bytes_reverse (bs : Bytes) : (ρ.bytes bs).reverse = ρ.bytes bs.reverse :=
  List.map_reverse.symm

theorem bytes_trim (bs : Bytes) : trim (ρ.bytes bs) = ρ.bytes (trim bs) := by
  simp only [trim, bytes_dropWhile ρ ρ.isBlank_perm, bytes_reverse]

/-! ## Lines and openings -/

theorem bytes_firstLine (bs : Bytes) : firstLine (ρ.bytes bs) = ρ.bytes (firstLine bs) := by
  induction bs with
  | nil => rfl
  | cons b rest ih =>
    have hfeed := ρ.perm_eq_iff (a := lineFeed) (by decide) b
    by_cases hb : b = lineFeed
    · rw [bytes_cons, firstLine, firstLine, if_pos (hfeed.mpr hb), if_pos hb, bytes_cons, bytes_nil]
    · rw [bytes_cons, firstLine, firstLine, if_neg (mt hfeed.mp hb), if_neg hb, bytes_cons, ih]

theorem bytes_afterLine (bs : Bytes) : afterLine (ρ.bytes bs) = ρ.bytes (afterLine bs) := by
  induction bs with
  | nil => rfl
  | cons b rest ih =>
    have hfeed := ρ.perm_eq_iff (a := lineFeed) (by decide) b
    by_cases hb : b = lineFeed
    · rw [bytes_cons, afterLine, afterLine, if_pos (hfeed.mpr hb), if_pos hb]
    · rw [bytes_cons, afterLine, afterLine, if_neg (mt hfeed.mp hb), if_neg hb, ih]

theorem bytes_pieces (bs : Bytes) : pieces (ρ.bytes bs) = (pieces bs).map ρ.bytes := by
  induction bs with
  | nil => rfl
  | cons b rest ih =>
    have hfeed := ρ.perm_eq_iff (a := lineFeed) (by decide) b
    by_cases hb : b = lineFeed
    · rw [bytes_cons, pieces, pieces, if_pos (hfeed.mpr hb), if_pos hb, ih]
      rfl
    · rw [bytes_cons, pieces, pieces, if_neg (mt hfeed.mp hb), if_neg hb, ih]
      cases pieces rest <;> rfl

/-- An opening in ASCII stands at the head of a recoded text exactly when it stands at the head of
the text. -/
theorem after?_bytes {opening : Bytes} (hopening : IsAscii opening) (text : Bytes) :
    after? opening (ρ.bytes text) = (after? opening text).map ρ.bytes := by
  fun_induction after? opening text with
  | case1 text => rw [after?, Option.map_some]
  | case2 => rw [bytes_nil, after?, Option.map_none]
  | case3 opening a text ih =>
    obtain ⟨ha, hrest⟩ := List.forall_mem_cons.mp hopening
    rw [bytes_cons, after?, if_pos ((ρ.perm_ascii a ha).symm), ih hrest]
  | case4 a opening b text hne =>
    obtain ⟨ha, -⟩ := List.forall_mem_cons.mp hopening
    have hne' : ¬ a = ρ.perm b := fun h => hne ((ρ.perm_eq_iff ha b).mp h.symm).symm
    rw [bytes_cons, after?, if_neg hne', Option.map_none]

/-! ## Literals -/

theorem bytes_doubleQuotes (bs : Bytes) :
    Sql.doubleQuotes (ρ.bytes bs) = ρ.bytes (Sql.doubleQuotes bs) := by
  induction bs with
  | nil => rfl
  | cons b rest ih =>
    have hquote := ρ.perm_eq_iff (a := singleQuote) (by decide) b
    by_cases hb : b = singleQuote
    · rw [bytes_cons, Sql.doubleQuotes, Sql.doubleQuotes, if_pos (hquote.mpr hb), if_pos hb, ih]
      rfl
    · rw [bytes_cons, Sql.doubleQuotes, Sql.doubleQuotes, if_neg (mt hquote.mp hb), if_neg hb, ih]
      rfl

theorem bytes_quoteLiteral (value : Bytes) :
    Sql.quoteLiteral (ρ.bytes value) = ρ.bytes (Sql.quoteLiteral value) := by
  have hquote : ρ.perm singleQuote = singleQuote := ρ.perm_ascii _ (by decide)
  rw [Sql.quoteLiteral, Sql.quoteLiteral, bytes_doubleQuotes, bytes_append, bytes_cons, bytes_cons,
    hquote, bytes_nil]

/-! ## Names -/

/-- What a scanner found, recoded. -/
def lexeme (found : Bytes × Bytes) : Bytes × Bytes := (ρ.bytes found.1, ρ.bytes found.2)

theorem quotedTail?_bytes (text : Bytes) :
    Sql.quotedTail? (ρ.bytes text) = (Sql.quotedTail? text).map ρ.lexeme := by
  have hquote : ∀ b, ρ.perm b = doubleQuote ↔ b = doubleQuote := ρ.perm_eq_iff (by decide)
  fun_induction Sql.quotedTail? text with
  | case1 => rfl
  | case2 =>
    rw [bytes_cons, bytes_nil, Sql.quotedTail?, if_pos ((hquote _).mpr rfl)]
    rfl
  | case3 b hb =>
    rw [bytes_cons, bytes_nil, Sql.quotedTail?, if_neg (mt (hquote b).mp hb)]
    rfl
  | case4 rest ih =>
    have hself := (hquote doubleQuote).mpr rfl
    rw [bytes_cons, bytes_cons, Sql.quotedTail?, if_pos hself, if_pos hself, ih, Option.map_map,
      Option.map_map]
    rfl
  | case5 c rest hc =>
    rw [bytes_cons, bytes_cons, Sql.quotedTail?, if_pos ((hquote _).mpr rfl),
      if_neg (mt (hquote c).mp hc)]
    rfl
  | case6 b c rest hb ih =>
    rw [bytes_cons, bytes_cons, Sql.quotedTail?, if_neg (mt (hquote b).mp hb), ← bytes_cons, ih,
      Option.map_map, Option.map_map]
    rfl

theorem component?_bytes (text : Bytes) :
    Sql.component? (ρ.bytes text) = (Sql.component? text).map ρ.lexeme := by
  have hquote : ∀ b, ρ.perm b = doubleQuote ↔ b = doubleQuote := ρ.perm_eq_iff (by decide)
  cases text with
  | nil => rfl
  | cons b rest =>
    rw [bytes_cons, Sql.component?, Sql.component?]
    by_cases hb : b = doubleQuote
    · rw [if_pos ((hquote b).mpr hb), if_pos hb, quotedTail?_bytes]
      cases Sql.quotedTail? rest with
      | none => rfl
      | some found =>
        simp only [Option.map_some, lexeme, length_bytes]
        split <;> rfl
    · rw [if_neg (mt (hquote b).mp hb), if_neg hb, isBare_perm, ← bytes_cons,
        bytes_takeWhile ρ ρ.isBare_perm, bytes_dropWhile ρ ρ.isBare_perm]
      split <;> rfl

/-- A recoded text has the recoded name at its head. -/
theorem name?_bytes (text : Bytes) :
    Sql.name? (ρ.bytes text) = (Sql.name? text).map ρ.lexeme := by
  rw [Sql.name?, Sql.name?, component?_bytes]
  cases Sql.component? text with
  | none => rfl
  | some found =>
    obtain ⟨first, after⟩ := found
    cases after with
    | nil => rfl
    | cons b rest =>
      have hdot := ρ.perm_eq_iff (a := dot) (by decide) b
      simp only [Option.map_some, lexeme, bytes_cons]
      by_cases hb : b = dot
      · rw [if_pos (hdot.mpr hb), if_pos hb, component?_bytes, Option.map_map, Option.map_map]
        congr 1
        funext found
        simp [lexeme]
      · rw [if_neg (mt hdot.mp hb), if_neg hb]
        rfl

end Recoding

end MaskedDump
