import MaskedDump.Proofs.Lines
import MaskedDump.Text.Utf8

/-!
# Reading UTF-8 back

The reader of UTF-8 takes one byte at a time and asks of the byte behind a first one that it lies in
a range of its own. The bytes that spell a character pass, and what is read from them is the
character. So a text is read back from its bytes.

Results:
* `start_two`, `start_three`, `start_four`: what the first byte of a longer character begins;
* `run_further`, `run_last`: what a further byte adds;
* `run_utf8EncodeChar`: a character is read from its bytes, and the reading goes on behind them;
* `decode?_ofString`: a text is read from its bytes.
-/

namespace MaskedDump.Utf8

open Bytes

/-! ## First bytes -/

theorem start_one {n : Nat} (h : n < 0x80) :
    start (UInt8.ofNat n) = ([some (Char.ofNat n)], none) := by
  have hn : (UInt8.ofNat n).toNat = n := by
    rw [UInt8.toNat_ofNat']
    omega
  have hlt : UInt8.ofNat n < 0x80 := UInt8.lt_iff_toNat_lt.mpr (hn.symm ▸ h)
  rw [start, if_pos hlt, hn]

theorem start_two : ∀ n < 0x20, 2 ≤ n →
    start (UInt8.ofNat (n + 0xC0)) = ([], some ⟨0x80, 0xBF, 0, n⟩) := by
  decide

theorem start_three : ∀ n < 0x10,
    start (UInt8.ofNat (n + 0xE0)) =
      ([], some ⟨if n = 0 then 0xA0 else 0x80, if n = 13 then 0x9F else 0xBF, 1, n⟩) := by
  decide

theorem start_four : ∀ n < 5,
    start (UInt8.ofNat (n + 0xF0)) =
      ([], some ⟨if n = 0 then 0x90 else 0x80, if n = 4 then 0x8F else 0xBF, 2, n⟩) := by
  decide

theorem run_begun {b : UInt8} {s : Begun} (h : start b = ([], some s)) (rest : Bytes) :
    run none (b :: rest) = run (some s) rest := by
  rw [run, step, h]
  rfl

/-! ## Further bytes -/

section Further

variable {low high : UInt8} {missing value n : Nat}

theorem mem_range_of_lt (hn : n < 64) (hlow : low.toNat ≤ n + 0x80)
    (hhigh : n + 0x80 ≤ high.toNat) :
    (low ≤ UInt8.ofNat (n + 0x80) ∧ UInt8.ofNat (n + 0x80) ≤ high) ∧
      (UInt8.ofNat (n + 0x80)).toNat - 0x80 = n := by
  have hbyte : (UInt8.ofNat (n + 0x80)).toNat = n + 0x80 := by
    rw [UInt8.toNat_ofNat']
    omega
  rw [UInt8.le_iff_toNat_le, UInt8.le_iff_toNat_le, hbyte]
  exact ⟨⟨hlow, hhigh⟩, Nat.add_sub_cancel n 0x80⟩

/-- A byte in range adds its six bits to the value, and the next byte may lie in the full range. -/
theorem run_further (hn : n < 64) (hlow : low.toNat ≤ n + 0x80) (hhigh : n + 0x80 ≤ high.toNat)
    (rest : Bytes) :
    run (some ⟨low, high, missing + 1, value⟩) (UInt8.ofNat (n + 0x80) :: rest) =
      run (some ⟨0x80, 0xBF, missing, value * 64 + n⟩) rest := by
  obtain ⟨hrange, hbits⟩ := mem_range_of_lt hn hlow hhigh
  rw [run, step, if_pos hrange, hbits]
  rfl

/-- The last byte finishes the character. -/
theorem run_last (hn : n < 64) (hlow : low.toNat ≤ n + 0x80) (hhigh : n + 0x80 ≤ high.toNat)
    (rest : Bytes) :
    run (some ⟨low, high, 0, value⟩) (UInt8.ofNat (n + 0x80) :: rest) =
      some (Char.ofNat (value * 64 + n)) :: run none rest := by
  obtain ⟨hrange, hbits⟩ := mem_range_of_lt hn hlow hhigh
  rw [run, step, if_pos hrange, hbits]
  rfl

end Further

/-! ## Characters -/

section Characters

variable {v : Nat}

/-- The bounds of a range that is not narrowed. -/
theorem full_range : (0x80 : UInt8).toNat = 0x80 ∧ (0xBF : UInt8).toNat = 0xBF := ⟨rfl, rfl⟩

theorem run_two (h : 0x80 ≤ v ∧ v < 0x800) (rest : Bytes) :
    run none (UInt8.ofNat (v / 64 + 0xC0) :: UInt8.ofNat (v % 64 + 0x80) :: rest) =
      some (Char.ofNat v) :: run none rest := by
  obtain ⟨hlow, hhigh⟩ := full_range
  have hvalue : v / 64 * 64 + v % 64 = v := by omega
  rw [run_begun (start_two (v / 64) (by omega) (by omega)),
    run_last (by omega) (by omega) (by omega), hvalue]

theorem run_three (h : 0x800 ≤ v ∧ v < 0xD800 ∨ 0xDFFF < v ∧ v < 0x10000) (rest : Bytes) :
    run none (UInt8.ofNat (v / 4096 + 0xE0) :: UInt8.ofNat (v / 64 % 64 + 0x80)
        :: UInt8.ofNat (v % 64 + 0x80) :: rest) =
      some (Char.ofNat v) :: run none rest := by
  obtain ⟨hlow, hhigh⟩ := full_range
  -- shorter forms are shut out below, surrogates above
  have hnarrowLow : (if v / 4096 = 0 then 0xA0 else 0x80 : UInt8).toNat ≤ v / 64 % 64 + 0x80 := by
    split
    · show 0xA0 ≤ _
      omega
    · omega
  have hnarrowHigh : v / 64 % 64 + 0x80 ≤
      (if v / 4096 = 13 then 0x9F else 0xBF : UInt8).toNat := by
    split
    · show _ ≤ 0x9F
      omega
    · omega
  have hvalue : (v / 4096 * 64 + v / 64 % 64) * 64 + v % 64 = v := by omega
  rw [run_begun (start_three (v / 4096) (by omega)),
    run_further (by omega) hnarrowLow hnarrowHigh, run_last (by omega) (by omega) (by omega),
    hvalue]

theorem run_four (h : 0x10000 ≤ v ∧ v < 0x110000) (rest : Bytes) :
    run none (UInt8.ofNat (v / 262144 + 0xF0) :: UInt8.ofNat (v / 4096 % 64 + 0x80)
        :: UInt8.ofNat (v / 64 % 64 + 0x80) :: UInt8.ofNat (v % 64 + 0x80) :: rest) =
      some (Char.ofNat v) :: run none rest := by
  obtain ⟨hlow, hhigh⟩ := full_range
  -- shorter forms are shut out below, values past the last character above
  have hnarrowLow : (if v / 262144 = 0 then 0x90 else 0x80 : UInt8).toNat ≤
      v / 4096 % 64 + 0x80 := by
    split
    · show 0x90 ≤ _
      omega
    · omega
  have hnarrowHigh : v / 4096 % 64 + 0x80 ≤
      (if v / 262144 = 4 then 0x8F else 0xBF : UInt8).toNat := by
    split
    · show _ ≤ 0x8F
      omega
    · omega
  have hvalue : ((v / 262144 * 64 + v / 4096 % 64) * 64 + v / 64 % 64) * 64 + v % 64 = v := by
    omega
  rw [run_begun (start_four (v / 262144) (by omega)),
    run_further (by omega) hnarrowLow hnarrowHigh, run_further (by omega) (by omega) (by omega),
    run_last (by omega) (by omega) (by omega), hvalue]

end Characters

/-- A character is read from its bytes. The number of the bytes tells the range of its value, and
the value the range of the second byte. -/
theorem run_utf8EncodeChar (c : Char) (rest : Bytes) :
    run none (String.utf8EncodeChar c ++ rest) = some c :: run none rest := by
  obtain ⟨v, hv⟩ : ∃ v, v = c.val.toNat := ⟨_, rfl⟩
  have hc : Char.ofNat v = c := by
    rw [hv]
    exact Char.ofNat_toNat c
  have hvalid : v < 0xD800 ∨ 0xDFFF < v ∧ v < 0x110000 := hv ▸ c.valid
  unfold String.utf8EncodeChar
  simp only [← hv]
  split
  · rw [List.singleton_append, run, step, start_one (by omega), hc]
    rfl
  split
  · have hhead : v / 64 % 0x20 = v / 64 := Nat.mod_eq_of_lt (by omega)
    rw [hhead, ← hc]
    exact run_two (by omega) rest
  split
  · have hhead : v / 4096 % 0x10 = v / 4096 := Nat.mod_eq_of_lt (by omega)
    rw [hhead, ← hc]
    exact run_three (by omega) rest
  · have hhead : v / 262144 % 0x08 = v / 262144 := Nat.mod_eq_of_lt (by omega)
    rw [hhead, ← hc]
    exact run_four (by omega) rest

/-! ## Texts -/

theorem units_ofString (s : String) : units (ofString s) = s.toList.map some := by
  rw [units, ofString_eq_flatMap]
  induction s.toList with
  | nil => rfl
  | cons c rest ih => rw [List.flatMap_cons, run_utf8EncodeChar, ih, List.map_cons]

theorem decode?_ofString (s : String) : decode? (ofString s) = some s := by
  rw [decode?, units_ofString, if_pos (by simp), List.filterMap_map]
  simp

theorem ofString_inj {s t : String} (h : ofString s = ofString t) : s = t := by
  have hread := congrArg decode? h
  rw [decode?_ofString, decode?_ofString] at hread
  exact Option.some.inj hread

end MaskedDump.Utf8
