import MaskedDump.Bytes
import Mathlib.Data.List.TakeWhile

/-!
# Blanks at the ends of a text

Trimming takes the blanks off both ends of a text and nothing else. What is left neither begins nor
ends with a blank, and there is only one part of a text that is so and has nothing but blanks around
it.

Results:
* `trim_eq_iff`: trimming finds that part;
* `trim_eq_nil_iff`: what is trimmed away as a whole;
* `trim_append_blank`: blanks behind a text are trimmed away.
-/

namespace MaskedDump.Bytes

/-- Whether a text has no byte but blanks. -/
def Blank (bs : Bytes) : Prop := ∀ b ∈ bs, isBlank b = true

instance : DecidablePred Blank := fun bs => List.decidableBAll _ bs

/-- Whether a text neither begins nor ends with a blank. -/
structure Tight (bs : Bytes) : Prop where
  first : ∀ b, bs.head? = some b → isBlank b = false
  last : ∀ b, bs.getLast? = some b → isBlank b = false

variable {a bs text front back blanks : Bytes}

theorem Blank.append (ha : Blank a) (hb : Blank bs) : Blank (a ++ bs) :=
  List.forall_mem_append.mpr ⟨ha, hb⟩

theorem Blank.reverse (h : Blank bs) : Blank bs.reverse :=
  fun b hb => h b (List.mem_reverse.mp hb)

theorem blank_takeWhile (bs : Bytes) : Blank (bs.takeWhile isBlank) :=
  List.all_eq_true.mp List.all_takeWhile

theorem Tight.reverse (h : Tight bs) : Tight bs.reverse where
  first b hb := h.last b (List.head?_reverse ▸ hb)
  last b hb := h.first b (List.getLast?_reverse ▸ hb)

/-! ## Trimming -/

theorem dropWhile_blank_append (hfront : Blank front) (bs : Bytes) :
    (front ++ bs).dropWhile isBlank = bs.dropWhile isBlank :=
  List.dropWhile_append_of_pos hfront

theorem dropWhile_of_first (h : ∀ b, bs.head? = some b → isBlank b = false) :
    bs.dropWhile isBlank = bs := by
  cases bs with
  | nil => rfl
  | cons b rest => exact List.dropWhile_cons_of_neg (by simp [h b rfl])

/-- Blanks around a text that has none at its ends are trimmed away. -/
theorem Tight.trim_eq (h : Tight text) (hfront : Blank front) (hback : Blank back) :
    trim (front ++ text ++ back) = text := by
  rw [trim, List.append_assoc, dropWhile_blank_append hfront]
  cases text with
  | nil =>
    -- only blanks are left, and all of them go at once
    have hnothing : back.dropWhile isBlank = [] := List.dropWhile_eq_nil_iff.mpr hback
    rw [List.nil_append, hnothing]
    rfl
  | cons b rest =>
    have hfirst : ∀ b', (b :: rest ++ back).head? = some b' → isBlank b' = false := h.first
    rw [dropWhile_of_first hfirst, List.reverse_append, dropWhile_blank_append hback.reverse,
      dropWhile_of_first h.reverse.first, List.reverse_reverse]

/-- A text is what trimming leaves of it, with blanks around. -/
theorem exists_eq_append_trim (bs : Bytes) :
    ∃ front back, Blank front ∧ Blank back ∧ bs = front ++ trim bs ++ back := by
  refine ⟨bs.takeWhile isBlank, ((bs.dropWhile isBlank).reverse.takeWhile isBlank).reverse,
    blank_takeWhile _, (blank_takeWhile _).reverse, ?_⟩
  rw [trim, List.append_assoc, ← List.reverse_append, List.takeWhile_append_dropWhile,
    List.reverse_reverse, List.takeWhile_append_dropWhile]

theorem tight_trim (bs : Bytes) : Tight (trim bs) := by
  have hhead : ∀ (text : Bytes) (b : UInt8), (text.dropWhile isBlank).head? = some b →
      isBlank b = false := by
    intro text b hb
    have hnot := List.head?_dropWhile_not isBlank text
    rwa [hb] at hnot
  have hlast : ∀ b, (trim bs).getLast? = some b → isBlank b = false := by
    intro b hb
    rw [trim, List.getLast?_reverse] at hb
    exact hhead _ b hb
  refine ⟨fun b hb => ?_, hlast⟩
  -- the first byte that is left was the first one before the other end was cut
  refine hhead bs b ?_
  have hsplit : bs.dropWhile isBlank =
      trim bs ++ ((bs.dropWhile isBlank).reverse.takeWhile isBlank).reverse := by
    rw [trim, ← List.reverse_append, List.takeWhile_append_dropWhile, List.reverse_reverse]
  rw [hsplit, List.head?_append, hb, Option.some_or]

/-- What trimming leaves of a text is the part that has no blank at its ends and nothing but blanks
around it. -/
theorem trim_eq_iff :
    trim bs = text ↔
      Tight text ∧ ∃ front back, Blank front ∧ Blank back ∧ bs = front ++ text ++ back := by
  constructor
  · rintro rfl
    exact ⟨tight_trim bs, exists_eq_append_trim bs⟩
  · rintro ⟨htight, front, back, hfront, hback, rfl⟩
    exact htight.trim_eq hfront hback

theorem trim_eq_nil_iff : trim bs = [] ↔ Blank bs := by
  rw [trim_eq_iff]
  constructor
  · rintro ⟨-, front, back, hfront, hback, rfl⟩
    rw [List.append_nil]
    exact hfront.append hback
  · intro h
    exact ⟨⟨nofun, nofun⟩, bs, [], h, nofun, by simp⟩

theorem trim_append_blank (h : Blank blanks) : trim (bs ++ blanks) = trim bs := by
  obtain ⟨front, back, hfront, hback, hbs⟩ := exists_eq_append_trim bs
  refine trim_eq_iff.mpr ⟨tight_trim bs, front, back ++ blanks, hfront, hback.append h, ?_⟩
  rw [← List.append_assoc, ← hbs]

theorem trim_subset : trim bs ⊆ bs := by
  obtain ⟨front, back, -, -, hbs⟩ := exists_eq_append_trim bs
  intro b hb
  rw [hbs]
  exact List.mem_append_left _ (List.mem_append_right _ hb)

/-- A text that is not blank at its ends stays as it is. -/
theorem Tight.trim_self (h : Tight bs) : trim bs = bs :=
  trim_eq_iff.mpr ⟨h, [], [], nofun, nofun, by simp⟩

end MaskedDump.Bytes
