import MaskedDump.Discovery
import MaskedDump.Proofs.Lines

/-!
# The scan

What a scan meets depends on the headers alone, not on how they are looked for. `Meets` says it for
any kind of header: every line start is tested, from left to right, and behind a header the scan
goes on with what follows it. A test that finds the headers of one kind makes a scan that meets just
what `Meets` says, and there is one list of names that it says.

Results:
* `scan_stale`, `scan_passed`: where there is no header, the scan goes on to the next line;
* `scan_header`: what is found is noted, and the scan goes on behind it;
* `scan_behind`: behind a header on one line that is the next line;
* `meets_iff`: the names that are met are those of the scan.
-/

namespace MaskedDump.Discovery

open Bytes

variable {test : Bytes → Option Header}

/-! ## Passing over lines -/

/-- Where no line starts, the scan goes on to the next line. -/
theorem scan_stale (test : Bytes → Option Header) (text : Bytes) :
    scan test 0 false text = scan test 0 true (afterLine text) := by
  induction text with
  | nil => rfl
  | cons b rest ih =>
    rw [scan, afterLine]
    by_cases hb : b = lineFeed
    · rw [if_pos hb, hb]
      rfl
    · rw [if_neg hb, beq_false_of_ne hb, ih]

/-- Where a line starts without a header, too. -/
theorem scan_passed {text : Bytes} (h : test text = none) :
    scan test 0 true text = scan test 0 true (afterLine text) := by
  cases text with
  | nil => rfl
  | cons b rest =>
    rw [scan, h, afterLine]
    by_cases hb : b = lineFeed
    · rw [if_pos hb, hb]
      rfl
    · rw [if_neg hb, beq_false_of_ne hb, scan_stale]

/-! ## Headers -/

/-- The rest of a header is skipped. -/
theorem scan_skipped (test : Bytes → Option Header) (b : UInt8) (tail rest : Bytes) :
    scan test tail.length (b == lineFeed) (tail ++ rest) =
      scan test 0 (decide (Closed (b :: tail))) rest := by
  induction tail generalizing b with
  | nil =>
    have hclosed : decide (Closed [b]) = (b == lineFeed) := by
      rw [Bool.eq_iff_iff, decide_eq_true_iff, beq_iff_eq, closed_cons]
      simp [closed_nil]
    rw [hclosed, List.nil_append, List.length_nil]
  | cons c tail ih =>
    have hclosed : Closed (b :: c :: tail) ↔ Closed (c :: tail) := by
      rw [closed_cons]
      simp
    rw [List.cons_append, List.length_cons, scan, ih, decide_eq_decide.mpr hclosed]

/-- What is found is noted, and the scan goes on behind it. -/
theorem scan_header {head rest : Bytes} {found : Header} (hhead : head ≠ [])
    (htest : test (head ++ rest) = some found) (hlength : found.length = head.length) :
    scan test 0 true (head ++ rest) = found.name :: scan test 0 (decide (Closed head)) rest := by
  cases head with
  | nil => exact absurd rfl hhead
  | cons b tail =>
    rw [List.cons_append] at htest ⊢
    rw [scan, htest]
    dsimp only
    rw [hlength, List.length_cons, Nat.add_sub_cancel, scan_skipped]

/-- Behind a header that ends on its first line, or with it, the scan goes on with the next line. -/
theorem scan_behind (test : Bytes → Option Header) {head : Bytes} (hhead : head ≠ [])
    (hline : lineFeed ∉ head ∨ IsLine head) (rest : Bytes) :
    scan test 0 (decide (Closed head)) rest = scan test 0 true (afterLine (head ++ rest)) := by
  rcases hline with hline | ⟨line, hline, rfl⟩
  · have hopen : ¬ Closed head := fun hclosed => hhead (hclosed.eq_nil hline)
    rw [decide_eq_false hopen, scan_stale, afterLine_append_of_not_mem hline]
  · rw [decide_eq_true closed_concat, List.append_assoc, afterLine_append_of_not_mem hline,
      List.singleton_append, afterLine, if_pos rfl]

/-! ## What is met -/

/-- The names that a scan meets, from a place in a text on: what came before it, and what follows.
The headers are given with the names in them and the texts behind them. -/
inductive Meets (IsHeader : Bytes → Bytes → Bytes → Prop) : Bytes → Bytes → List Bytes → Prop
  | finished {lead : Bytes} : Meets IsHeader lead [] []
  | found {lead head name rest : Bytes} {names : List Bytes} : Closed lead →
      IsHeader head name rest → Meets IsHeader (lead ++ head) rest names →
      Meets IsHeader lead (head ++ rest) (name :: names)
  | passed {lead rest : Bytes} {b : UInt8} {names : List Bytes} :
      (Closed lead → ∀ head name after, b :: rest = head ++ after → ¬ IsHeader head name after) →
      Meets IsHeader (lead ++ [b]) rest names → Meets IsHeader lead (b :: rest) names

/-- Whether a test finds the headers of one kind: it finds nothing else, and behind what it finds
the scan goes on with what follows the header. -/
structure Finds (test : Bytes → Option Header) (IsHeader : Bytes → Bytes → Bytes → Prop) :
    Prop where
  sound : ∀ text found, test text = some found →
    ∃ head rest, text = head ++ rest ∧ IsHeader head found.name rest
  head_ne_nil : ∀ head name rest, IsHeader head name rest → head ≠ []
  scan_eq : ∀ head name rest, IsHeader head name rest →
    scan test 0 true (head ++ rest) = name :: scan test 0 (decide (Closed head)) rest

variable {IsHeader : Bytes → Bytes → Bytes → Prop}

/-- Something is met, by recursion on what follows. -/
theorem exists_meets (h : ∀ head name rest, IsHeader head name rest → head ≠ [])
    (lead rest : Bytes) : ∃ names, Meets IsHeader lead rest names := by
  by_cases hheader : Closed lead ∧
      ∃ head name after, rest = head ++ after ∧ IsHeader head name after
  · obtain ⟨hlead, head, name, after, hsplit, hheader⟩ := hheader
    have hlength : after.length < rest.length := by
      have hhead := List.length_pos_iff.mpr (h head name after hheader)
      rw [hsplit, List.length_append]
      omega
    obtain ⟨names, hnames⟩ := exists_meets h (lead ++ head) after
    rw [hsplit]
    exact ⟨_, .found hlead hheader hnames⟩
  · cases rest with
    | nil => exact ⟨[], .finished⟩
    | cons b rest =>
      obtain ⟨names, hnames⟩ := exists_meets h (lead ++ [b]) rest
      refine ⟨names, .passed (fun hlead head name after hsplit hhead => ?_) hnames⟩
      exact hheader ⟨hlead, head, name, after, hsplit, hhead⟩
termination_by rest.length

/-- What is met is what the scan yields, step by step. -/
theorem Finds.scan_eq_of_meets (h : Finds test IsHeader) {lead rest : Bytes} {names : List Bytes}
    (hmeets : Meets IsHeader lead rest names) :
    scan test 0 (decide (Closed lead)) rest = names := by
  induction hmeets with
  | finished => rw [scan]
  | @found lead head name rest names hlead hheader _ ih =>
    have hclosed := closed_append_iff (h.head_ne_nil head name rest hheader) lead
    rw [decide_eq_true hlead, h.scan_eq head name rest hheader, ← ih, decide_eq_decide.mpr hclosed]
  | @passed lead rest b names hno _ ih =>
    have hclosed : decide (Closed (lead ++ [b])) = (b == lineFeed) := by
      rw [Bool.eq_iff_iff, decide_eq_true_iff, beq_iff_eq,
        closed_append_iff (List.cons_ne_nil b []), closed_cons]
      simp [closed_nil]
    rw [← ih, hclosed]
    by_cases hlead : Closed lead
    · have hnone : test (b :: rest) = none := by
        cases htest : test (b :: rest) with
        | none => rfl
        | some found =>
          obtain ⟨head, after, hsplit, hheader⟩ := h.sound _ _ htest
          exact absurd hheader (hno hlead head found.name after hsplit)
      rw [decide_eq_true hlead, scan, hnone]
    · rw [decide_eq_false hlead, scan]

/-- The names that are met are those of the scan, and no others. -/
theorem Finds.meets_iff (h : Finds test IsHeader) {lead rest : Bytes} {names : List Bytes} :
    Meets IsHeader lead rest names ↔ names = scan test 0 (decide (Closed lead)) rest := by
  constructor
  · exact fun hmeets => (h.scan_eq_of_meets hmeets).symm
  · rintro rfl
    obtain ⟨names, hnames⟩ := exists_meets h.head_ne_nil lead rest
    rwa [h.scan_eq_of_meets hnames]

end MaskedDump.Discovery
