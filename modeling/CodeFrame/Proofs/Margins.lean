import CodeFrame.Margin
import Mathlib.Analysis.SpecialFunctions.Log.Base

/-!
# The room for a line number

A margin of `w` columns, one at least, has room for the numbers below `10 ^ w` (`Margin.room_le_iff`). Hence a positive
number takes `w` columns exactly if it lies between two powers of ten that follow each other (`Margin.room_eq_iff`),
which is its logarithm, rounded down, and one more (`Margin.room_eq_floor_logb`); and a greater number takes no less room.

A margin has this room for every number whose numeral is not too long (`Margin.width_eq_ok_iff`,
`Margin.width_by_powers`).
-/

namespace CodeFrame

theorem Text.tooLong_eq : tooLong = 10 ^ maxDigits := by
  unfold tooLong
  rw [Nat.pow_eq]

namespace Margin

open Text

/-! ## The digits of a number -/

theorem room_pos (n : Int) : 0 < room n := List.length_pos_of_ne_nil (digits_ne_nil _)

/-- There is room for the numbers that are below a power of ten. -/
theorem room_le_iff (n : Int) {w : Nat} (hw : 0 < w) : room n ≤ w ↔ n < 10 ^ w := by
  by_cases hn : n ≤ 0
  · have hpow : (0 : Int) < 10 ^ w := by positivity
    rw [room_of_nonpos hn]
    exact iff_of_true hw (by omega)
  · lift n to Nat using by omega
    rw [room_natCast, length_digits_le_iff hw, ← Int.ofNat_lt]
    exact_mod_cast Iff.rfl

theorem lt_pow_room (n : Int) : n < 10 ^ room n := (room_le_iff n (room_pos n)).1 (Nat.le_refl _)

/-- No narrower margin has room for a positive number. -/
theorem pow_pred_room_le {n : Int} (hn : 1 ≤ n) : 10 ^ (room n - 1) ≤ n := by
  obtain hone | hmore := Nat.eq_or_lt_of_le (room_pos n)
  · rw [← hone]
    exact hn
  · by_contra hlt
    have := (room_le_iff n (Nat.sub_pos_of_lt hmore)).2 (Int.not_le.1 hlt)
    omega

theorem room_eq_iff {n : Int} (hn : 1 ≤ n) {w : Nat} : room n = w ↔ 1 ≤ w ∧ 10 ^ (w - 1) ≤ n ∧ n < 10 ^ w := by
  constructor
  · rintro rfl
    exact ⟨room_pos n, pow_pred_room_le hn, lt_pow_room n⟩
  · rintro ⟨hw, hlo, hhi⟩
    apply Nat.le_antisymm ((room_le_iff n hw).2 hhi)
    by_contra hlt
    have hpos := room_pos n
    have := (room_le_iff n (w := w - 1) (by omega)).1 (by omega)
    omega

/-- The room for a positive number is its logarithm, rounded down, and one more. -/
theorem room_eq_floor_logb {n : Int} (hn : 1 ≤ n) : room n = ⌊Real.logb 10 n⌋₊ + 1 := by
  lift n to Nat using by omega
  have hlog : ⌊Real.logb 10 n⌋₊ = Nat.log 10 n := Real.natFloor_logb_natCast 10 n
  have hlo : 10 ^ Nat.log 10 n ≤ n := Nat.pow_log_le_self 10 (by omega)
  have hhi : n < 10 ^ (Nat.log 10 n + 1) := Nat.lt_pow_succ_log_self (by decide) n
  rw [Int.cast_natCast, hlog, room_eq_iff hn, Nat.add_sub_cancel]
  exact ⟨Nat.succ_pos _, by exact_mod_cast hlo, by exact_mod_cast hhi⟩

theorem monotone_room : Monotone room := by
  intro m n hmn
  exact (room_le_iff m (room_pos n)).2 (Int.lt_of_le_of_lt hmn (lt_pow_room n))

/-! ## The margin -/

/-- The numbers that have a margin: those of which the numeral is not too long, and all that are not positive. -/
theorem fits_toNat_iff (n : Int) : Fits n.toNat ↔ n < 10 ^ maxDigits := by
  have hpow : (10 ^ maxDigits : Int) = tooLong := by
    rw [tooLong_eq]
    exact (Int.natCast_pow 10 maxDigits).symm
  have hpos := tooLong_pos
  rw [fits_iff, hpow]
  omega

theorem width_of_lt {n : Int} (h : n < 10 ^ maxDigits) : width n = .ok (room n) := by
  rw [width_eq, if_pos ((fits_toNat_iff n).2 h)]

theorem width_of_le {n : Int} (h : 10 ^ maxDigits ≤ n) : width n = .error .numeralTooLong := by
  rw [width_eq, if_neg fun hfits => Int.not_lt.2 h ((fits_toNat_iff n).1 hfits)]

theorem width_eq_ok_iff {n : Int} {w : Nat} : width n = .ok w ↔ n < 10 ^ maxDigits ∧ room n = w := by
  by_cases h : n < 10 ^ maxDigits
  · rw [width_of_lt h, Except.ok.injEq, and_iff_right h]
  · rw [width_of_le (Int.not_lt.1 h)]
    exact iff_of_false nofun fun hw => h hw.1

/-- **The room for a line number.** A number that is not positive takes one column. A positive one with at most as many
digits as a numeral may have takes the only number of columns with which it lies between two powers of ten, from the
lower one on and below the upper one; that is the logarithm, rounded down, and one more. A greater number takes no less
room. The numbers with more digits, and no others, are refused. -/
theorem width_by_powers :
    (∀ n : Int, n ≤ 0 → width n = .ok 1) ∧
      (∀ n : Int, 1 ≤ n → n < 10 ^ maxDigits →
        ∀ w : Nat, width n = .ok w ↔ 1 ≤ w ∧ 10 ^ (w - 1) ≤ n ∧ n < 10 ^ w) ∧
      (∀ n : Int, 1 ≤ n → n < 10 ^ maxDigits → width n = .ok (⌊Real.logb 10 n⌋₊ + 1)) ∧
      (∀ m n : Int, ∀ v w : Nat, m ≤ n → width m = .ok v → width n = .ok w → v ≤ w) ∧
      ∀ n : Int, width n = .error .numeralTooLong ↔ 10 ^ maxDigits ≤ n := by
  refine ⟨?_, ?_, ?_, ?_, ?_⟩
  · intro n hn
    exact if_pos hn
  · intro n hn hlt w
    rw [width_eq_ok_iff, and_iff_right hlt, room_eq_iff hn]
  · intro n hn hlt
    rw [width_of_lt hlt, room_eq_floor_logb hn]
  · intro m n v w hmn hm hn
    obtain ⟨-, rfl⟩ := width_eq_ok_iff.1 hm
    obtain ⟨-, rfl⟩ := width_eq_ok_iff.1 hn
    exact monotone_room hmn
  · intro n
    refine ⟨fun herror => Int.not_lt.1 fun hlt => ?_, width_of_le⟩
    rw [width_of_lt hlt] at herror
    cases herror

/-- The margin grows at the power of ten, and not before it, also where the two logarithms are all but equal. -/
theorem width_around_power :
    width 0 = .ok 1 ∧ width (10 ^ 18 - 1) = .ok 18 ∧ width (10 ^ 18) = .ok 19 := by
  have hlt : (10 ^ 18 : Int) < 10 ^ maxDigits := pow_lt_pow_right₀ (by norm_num) (by decide)
  obtain ⟨hnonpos, hpos, -, -, -⟩ := width_by_powers
  refine ⟨hnonpos 0 (by decide), ?_, ?_⟩
  · exact (hpos (10 ^ 18 - 1) (by norm_num) (by omega) 18).2 (by norm_num)
  · exact (hpos (10 ^ 18) (by norm_num) hlt 19).2 (by norm_num)

/-- The least number with too many digits has no margin, though it lies between two powers of ten as any other does. -/
theorem width_of_too_many_digits :
    width (10 ^ maxDigits) = .error .numeralTooLong ∧
      (10 : Int) ^ (maxDigits + 1 - 1) ≤ 10 ^ maxDigits ∧ (10 : Int) ^ maxDigits < 10 ^ (maxDigits + 1) := by
  refine ⟨width_of_le (Int.le_refl _), Int.le_refl _, ?_⟩
  exact pow_lt_pow_right₀ (by norm_num) (Nat.lt_succ_self _)

end Margin

end CodeFrame
