import CodeFrame.Text

/-!
# Decimal numerals

`Text.decimal` writes an integer in base ten, a minus sign before the digits of a negative one. `Text.digits` are the
digits of a natural number; there are at most `k` of them exactly if it is below `10 ^ k` (`Text.length_digits_le_iff`).
No two integers have the same numeral (`Text.decimal_inj`).

Not every numeral is written: an integer whose numeral has more than `Text.maxDigits` digits is refused, whatever its
sign (`Text.Fits`). So those are written that lie strictly between `-Text.tooLong` and `Text.tooLong` (`Text.fits_iff`).
-/

namespace CodeFrame.Text

/-- The decimal digits of a number, the most significant first. -/
def digits (n : Nat) : Text := Nat.toDigits 10 n

/-- The decimal numeral of an integer. -/
def decimal : Int → Text
  | .ofNat n => digits n
  | .negSucc n => '-' :: digits (n + 1)

/-- Digits are counted by powers of ten. -/
theorem length_digits_le_iff {n k : Nat} (hk : 0 < k) : (digits n).length ≤ k ↔ n < Nat.pow 10 k :=
  Nat.length_toDigits_le_iff (by decide) hk

theorem digits_ne_nil (n : Nat) : digits n ≠ [] := Nat.toDigits_ne_nil

/-- The numeral of a natural number holds digits only. -/
theorem isDigit_of_mem_digits {n : Nat} {c : Char} (h : c ∈ digits n) : c.isDigit :=
  Nat.isDigit_of_mem_toDigits (by decide) (by decide) h

/-- A numeral holds digits, and perhaps a minus sign. -/
theorem mem_decimal {c : Char} : ∀ {n : Int}, c ∈ decimal n → c = '-' ∨ c.isDigit
  | .ofNat _, h => Or.inr (isDigit_of_mem_digits h)
  | .negSucc _, h => (List.mem_cons.1 h).imp_right isDigit_of_mem_digits

theorem notMem_decimal {c : Char} (hc : c ≠ '-') (hd : ¬ c.isDigit) (n : Int) : c ∉ decimal n := by
  intro h
  rcases mem_decimal h with h | h
  · exact hc h
  · exact hd h

/-- A number is read off its digits. -/
theorem digits_inj {m n : Nat} : digits m = digits n ↔ m = n := by
  refine ⟨fun h => ?_, congrArg digits⟩
  calc m = Nat.ofDigitChars 10 (digits m) 0 := Nat.ofDigitChars_ten_toDigits.symm
    _ = Nat.ofDigitChars 10 (digits n) 0 := by rw [h]
    _ = n := Nat.ofDigitChars_ten_toDigits

theorem digits_ne_minus_cons (m : Nat) (t : Text) : digits m ≠ '-' :: t := by
  intro h
  have hmem : '-' ∈ digits m := by
    rw [h]
    exact List.mem_cons_self
  exact absurd (isDigit_of_mem_digits hmem) (by decide)

theorem decimal_inj : ∀ {m n : Int}, decimal m = decimal n ↔ m = n
  | .ofNat m, .ofNat n => digits_inj.trans Int.ofNat_inj.symm
  | .ofNat m, .negSucc n => iff_of_false (digits_ne_minus_cons m _) nofun
  | .negSucc m, .ofNat n => iff_of_false (fun h => digits_ne_minus_cons n _ h.symm) nofun
  | .negSucc m, .negSucc n => by
    show '-' :: digits (m + 1) = '-' :: digits (n + 1) ↔ _
    rw [List.cons.injEq, and_iff_right rfl, digits_inj, Int.negSucc.injEq, Nat.add_right_cancel_iff]

/-! ## Numerals that are written -/

/-- The most digits that a numeral may have. -/
def maxDigits : Nat := 4300

/-- The least number with too many digits. -/
@[irreducible] def tooLong : Nat := Nat.pow 10 maxDigits

/-- The numeral of the integer may be written. Its sign does not count. -/
def Fits (n : Int) : Prop := (digits n.natAbs).length ≤ maxDigits

instance (n : Int) : Decidable (Fits n) := inferInstanceAs (Decidable (_ ≤ _))

theorem fits_iff {n : Int} : Fits n ↔ n.natAbs < tooLong := by
  unfold Fits tooLong
  exact length_digits_le_iff (by decide)

theorem tooLong_pos : 0 < tooLong := fits_iff.1 (show Fits 0 by decide)

theorem not_fits_tooLong : ¬ Fits ((tooLong : Int) - 1 + 1) := by
  rw [fits_iff]
  omega

theorem not_fits_neg_tooLong : ¬ Fits (-(tooLong : Int)) := by
  rw [fits_iff]
  omega

theorem fits_neg_tooLong_succ : Fits (-(tooLong : Int) + 1) := by
  have hpos := tooLong_pos
  rw [fits_iff]
  omega

theorem fits_of_natAbs_le {m n : Int} (h : m.natAbs ≤ n.natAbs) (hn : Fits n) : Fits m :=
  fits_iff.2 (Nat.lt_of_le_of_lt h (fits_iff.1 hn))

end CodeFrame.Text
