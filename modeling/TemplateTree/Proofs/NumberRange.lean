import TemplateTree.Json.Grammar
import Mathlib.Algebra.Order.Field.Basic
import Mathlib.Data.Rat.Cast.Order
import Mathlib.Tactic.Linarith
import Mathlib.Tactic.NormNum
import Mathlib.Tactic.Ring

/-!
# Numbers that are in range

A number is in range if its magnitude is at most `10 ^ 308` (`inRange_of_magnitude_le`).

The digits that count, and the power of ten that goes with them, may come out above the
magnitude, but by a tenth at most (`significand_mul_le`). Rounding adds an eighth at most
(`nearest_le`), and is done twice. All of this together is less than what is missing from
`10 ^ 308` to the numbers that are not finite, so the bounds need not be any closer.
-/

namespace TemplateTree.Json

/-! ## Digits -/

theorem foldl_digits (digits : List Nat) (n : Nat) :
    digits.foldl (fun n d => n * 10 + d) n = n * 10 ^ digits.length + ofDigits digits := by
  rw [ofDigits]
  induction digits generalizing n with
  | nil => simp
  | cons d digits ih =>
      rw [List.foldl_cons, List.foldl_cons, ih (n * 10 + d), ih (0 * 10 + d), List.length_cons]
      ring

theorem ofDigits_cons (d : Nat) (digits : List Nat) :
    ofDigits (d :: digits) = d * 10 ^ digits.length + ofDigits digits := by
  rw [ofDigits, List.foldl_cons, foldl_digits]
  ring

theorem ofDigits_append (digits more : List Nat) :
    ofDigits (digits ++ more) = ofDigits digits * 10 ^ more.length + ofDigits more := by
  rw [ofDigits, List.foldl_append, foldl_digits]
  rfl

/-- Digits taken behind `m`: with zeros for those that are not taken they are no more than
all digits, without them they are less than the next number after `m`, and a digit is not
taken only if there are many before it. -/
structure Taken (m : Nat) (digits : List Nat) (taken : Nat × Nat) : Prop where
  count_le : taken.2 ≤ digits.length
  le_all : taken.1 * 10 ^ (digits.length - taken.2) ≤ m * 10 ^ digits.length + ofDigits digits
  lt_next : taken.1 < (m + 1) * 10 ^ taken.2
  many : taken.2 < digits.length → 10 ≤ taken.1

theorem taken_takeDigits {digits : List Nat} (hdigits : ∀ d ∈ digits, d < 10) (m : Nat) :
    Taken m digits (Numeral.takeDigits m digits) := by
  induction digits generalizing m with
  | nil =>
      rw [Numeral.takeDigits]
      exact ⟨Nat.le_refl 0, by simp, by simp, nofun⟩
  | cons d digits ih =>
      obtain ⟨hd, hdigits⟩ := List.forall_mem_cons.mp hdigits
      rw [Numeral.takeDigits]
      split
      · next hlarge =>
          refine ⟨Nat.zero_le _, Nat.le_add_right _ _, by simp, fun _ => ?_⟩
          rw [Numeral.maxNatural] at hlarge
          show 10 ≤ m
          omega
      · obtain ⟨hcount, hall, hnext, hmany⟩ := ih hdigits (m * 10 + d)
        refine ⟨Nat.succ_le_succ hcount, ?_, ?_, fun hless => hmany (Nat.lt_of_succ_lt_succ hless)⟩
        · rw [List.length_cons, Nat.succ_sub_succ, ofDigits_cons]
          refine hall.trans (Nat.le_of_eq ?_)
          ring
        · refine hnext.trans_le ?_
          calc (m * 10 + d + 1) * 10 ^ (Numeral.takeDigits (m * 10 + d) digits).2
              ≤ ((m + 1) * 10) * 10 ^ (Numeral.takeDigits (m * 10 + d) digits).2 :=
                Nat.mul_le_mul_right _ (by omega)
            _ = (m + 1) * 10 ^ ((Numeral.takeDigits (m * 10 + d) digits).2 + 1) := by ring

section Parts

variable {whole fraction : List Nat} {taken taken' : Nat × Nat}

/-- If the whole part is taken in full, what counts is no more than all digits. -/
theorem le_of_taken_in_full (hwhole : Taken 0 whole taken)
    (hfraction : Taken taken.1 fraction taken') (hfull : taken.2 = whole.length) :
    taken'.1 * 10 ^ fraction.length ≤ ofDigits (whole ++ fraction) * 10 ^ taken'.2 := by
  have hall := hwhole.le_all
  rw [hfull, Nat.sub_self, pow_zero, Nat.mul_one, Nat.zero_mul, Nat.zero_add] at hall
  have hcount := hfraction.count_le
  have hsplit : fraction.length = fraction.length - taken'.2 + taken'.2 := by omega
  calc taken'.1 * 10 ^ fraction.length
      = taken'.1 * 10 ^ (fraction.length - taken'.2) * 10 ^ taken'.2 := by
        conv_lhs => rw [hsplit, pow_add]
        ring
    _ ≤ (taken.1 * 10 ^ fraction.length + ofDigits fraction) * 10 ^ taken'.2 :=
        Nat.mul_le_mul_right _ hfraction.le_all
    _ ≤ (ofDigits whole * 10 ^ fraction.length + ofDigits fraction) * 10 ^ taken'.2 :=
        Nat.mul_le_mul_right _ (Nat.add_le_add_right (Nat.mul_le_mul_right _ hall) _)
    _ = ofDigits (whole ++ fraction) * 10 ^ taken'.2 := by rw [ofDigits_append]

/-- Digits of the fraction may be taken behind digits of the whole part that were not, and
come out too large by that. As there are many digits before them, it is a tenth at most. -/
theorem le_of_taken_in_part (hwhole : Taken 0 whole taken)
    (hfraction : Taken taken.1 fraction taken') (hpart : taken.2 < whole.length) :
    10 * (taken'.1 * 10 ^ (whole.length - taken.2 + fraction.length))
      ≤ 11 * (ofDigits (whole ++ fraction) * 10 ^ taken'.2) := by
  have hall : taken.1 * 10 ^ (whole.length - taken.2) ≤ ofDigits whole := by
    have := hwhole.le_all
    rwa [Nat.zero_mul, Nat.zero_add] at this
  have htaken : 10 * (taken.1 + 1) ≤ 11 * taken.1 := by
    have := hwhole.many hpart
    omega
  rw [ofDigits_append, pow_add]
  generalize 10 ^ (whole.length - taken.2) = places at hall ⊢
  calc 10 * (taken'.1 * (places * 10 ^ fraction.length))
      ≤ 10 * ((taken.1 + 1) * 10 ^ taken'.2 * (places * 10 ^ fraction.length)) :=
        Nat.mul_le_mul_left _ (Nat.mul_le_mul_right _ hfraction.lt_next.le)
    _ = 10 * (taken.1 + 1) * (10 ^ taken'.2 * (places * 10 ^ fraction.length)) := by ring
    _ ≤ 11 * taken.1 * (10 ^ taken'.2 * (places * 10 ^ fraction.length)) :=
        Nat.mul_le_mul_right _ htaken
    _ = 11 * (taken.1 * places * 10 ^ fraction.length * 10 ^ taken'.2) := by ring
    _ ≤ 11 * ((ofDigits whole * 10 ^ fraction.length + ofDigits fraction) * 10 ^ taken'.2) := by
        refine Nat.mul_le_mul_left _ (Nat.mul_le_mul_right _ ?_)
        exact (Nat.mul_le_mul_right _ hall).trans (Nat.le_add_right _ _)

/-- What counts, in its place, is above all digits by a tenth at most. -/
theorem le_of_taken (hwhole : Taken 0 whole taken) (hfraction : Taken taken.1 fraction taken') :
    10 * (taken'.1 * 10 ^ (whole.length - taken.2 + fraction.length))
      ≤ 11 * (ofDigits (whole ++ fraction) * 10 ^ taken'.2) := by
  by_cases hpart : taken.2 < whole.length
  · exact le_of_taken_in_part hwhole hfraction hpart
  · have hcount := hwhole.count_le
    have hfull : taken.2 = whole.length := by omega
    have hle := le_of_taken_in_full hwhole hfraction hfull
    rw [hfull, Nat.sub_self, Nat.zero_add]
    omega

end Parts

/-! ## Rounding -/

theorem nearest_le (n : Nat) : 8 * Numeral.nearest n ≤ 9 * n := by
  rw [Numeral.nearest, Nat.one_shiftLeft]
  by_cases hsmall : n.log2 ≤ 52
  · have hunit : n.log2 - 52 = 0 := by omega
    simp only [hunit, pow_zero, Nat.div_one, Nat.mod_one, Nat.mul_one, Nat.mul_zero]
    rw [if_neg (by omega)]
    omega
  · have hn : n ≠ 0 := by
      intro hzero
      rw [hzero] at hsmall
      exact hsmall (by decide)
    have hlarge : 2 ^ (n.log2 - 52) * 8 ≤ n := by
      calc 2 ^ (n.log2 - 52) * 8 = 2 ^ (n.log2 - 52 + 3) := by rw [pow_add]; rfl
        _ ≤ 2 ^ n.log2 := Nat.pow_le_pow_right (by decide) (by omega)
        _ ≤ n := Nat.log2_self_le hn
    have hkept : n / 2 ^ (n.log2 - 52) * 2 ^ (n.log2 - 52) ≤ n := Nat.div_mul_le_self _ _
    generalize 2 ^ (n.log2 - 52) = unit at hlarge hkept ⊢
    split
    · rw [Nat.add_mul, Nat.one_mul]
      omega
    · omega

theorem exponent_le_of_mul_le {m k bound : Nat} (hm : m ≠ 0)
    (h : 10 * (m * 10 ^ k) ≤ 11 * 10 ^ bound) : k ≤ bound := by
  by_contra hk
  have hpow : 10 ^ bound * 10 ≤ 10 ^ k := by
    rw [← pow_succ]
    exact Nat.pow_le_pow_right (by decide) (by omega)
  have hmul : 10 ^ k ≤ m * 10 ^ k := Nat.le_mul_of_pos_left _ (Nat.pos_of_ne_zero hm)
  have hpos : 0 < 10 ^ bound := Nat.pow_pos (by decide)
  omega

theorem nearest_mul_nearest_lt {m k : Nat} (h : 10 * (m * 10 ^ k) ≤ 11 * 10 ^ 308) :
    Numeral.nearest m * Numeral.nearest (Binary.tenPow k) < Numeral.overflow := by
  show Numeral.nearest m * Numeral.nearest (10 ^ k) < Numeral.overflow
  have hrounded : 64 * (Numeral.nearest m * Numeral.nearest (10 ^ k)) ≤ 81 * (m * 10 ^ k) := by
    calc 64 * (Numeral.nearest m * Numeral.nearest (10 ^ k))
        = 8 * Numeral.nearest m * (8 * Numeral.nearest (10 ^ k)) := by ring
      _ ≤ 9 * m * (9 * 10 ^ k) := Nat.mul_le_mul (nearest_le m) (nearest_le (10 ^ k))
      _ = 81 * (m * 10 ^ k) := by ring
  have hoverflow : 81 * (11 * 10 ^ 308) < 10 * (64 * Numeral.overflow) := by decide +kernel
  omega

/-! ## Magnitude -/

namespace Figures

/-- The magnitude, with whole numbers on both sides. -/
theorem mul_le_of_magnitude_le {figures : Figures} {bound : Nat}
    (h : figures.magnitude ≤ bound) :
    ofDigits (figures.whole ++ figures.fraction)
        * 10 ^ (if figures.powerNegative then 0 else ofDigits figures.power)
      ≤ bound * 10 ^ (figures.fraction.length
        + if figures.powerNegative then ofDigits figures.power else 0) := by
  rw [magnitude] at h
  by_cases hpower : figures.powerNegative = true
  · simp only [if_pos hpower] at h ⊢
    rw [div_le_iff₀ (by positivity)] at h
    rw [pow_zero, Nat.mul_one]
    exact_mod_cast h
  · simp only [if_neg hpower] at h ⊢
    rw [div_le_iff₀ (by positivity)] at h
    rw [Nat.add_zero]
    exact_mod_cast h

theorem powerSize_numeral (figures : Figures) :
    figures.numeral.powerSize = ofDigits figures.power :=
  List.foldr_reverse

theorem significand_numeral (figures : Figures) :
    figures.numeral.significand
      = ((Numeral.takeDigits (Numeral.takeDigits 0 figures.whole).1 figures.fraction).1,
        ((figures.whole.length - (Numeral.takeDigits 0 figures.whole).2 : Nat) : Int)
          - (Numeral.takeDigits (Numeral.takeDigits 0 figures.whole).1 figures.fraction).2) := by
  obtain ⟨negative, whole, fraction, powerNegative, power⟩ := figures
  show (Numeral.mk negative whole.reverse fraction.reverse powerNegative power.reverse
    .whole).significand = _
  rw [Numeral.significand, List.reverse_reverse, List.reverse_reverse, List.length_reverse]

theorem digits_lt_ten_of_text {figures : Figures} {cs : List Char} (h : NumberText figures cs) :
    (∀ d ∈ figures.whole, d < 10) ∧ ∀ d ∈ figures.fraction, d < 10 := by
  cases h with
  | intro hwhole _ hfraction _ =>
      refine ⟨hwhole.lt_ten, ?_⟩
      cases hfraction with
      | none => exact nofun
      | some hdigits => exact hdigits.lt_ten

/-- What counts of a number is above its magnitude by a tenth at most. -/
theorem significand_mul_le {figures : Figures} {cs : List Char} (htext : NumberText figures cs)
    {bound k : Nat} (hmagnitude : figures.magnitude ≤ bound)
    (hk : figures.numeral.exponent = k) :
    10 * (figures.numeral.significand.1 * 10 ^ k) ≤ 11 * bound := by
  obtain ⟨hwhole, hfraction⟩ := digits_lt_ten_of_text htext
  have hdigits := le_of_taken (taken_takeDigits hwhole 0) (taken_takeDigits hfraction _)
  have hbound := mul_le_of_magnitude_le hmagnitude
  have hexponent : figures.whole.length - (Numeral.takeDigits 0 figures.whole).2
      + (if figures.powerNegative then 0 else ofDigits figures.power)
        = k + (Numeral.takeDigits (Numeral.takeDigits 0 figures.whole).1 figures.fraction).2
          + if figures.powerNegative then ofDigits figures.power else 0 := by
    have hnegative : figures.numeral.powerNegative = figures.powerNegative := rfl
    rw [Numeral.exponent, powerSize_numeral, significand_numeral, hnegative] at hk
    split at hk
    · next h => rw [if_pos h, if_pos h]; omega
    · next h => rw [if_neg h, if_neg h]; omega
  rw [significand_numeral]
  generalize Numeral.takeDigits 0 figures.whole = taken at *
  generalize Numeral.takeDigits taken.1 figures.fraction = taken' at *
  generalize (if figures.powerNegative then 0 else ofDigits figures.power) = up at *
  generalize (if figures.powerNegative then ofDigits figures.power else 0) = down at *
  generalize ofDigits (figures.whole ++ figures.fraction) = digits at *
  have hexponents : k + (taken'.2 + down + figures.fraction.length)
      = figures.whole.length - taken.2 + figures.fraction.length + up := by omega
  refine Nat.le_of_mul_le_mul_right ?_
    (Nat.pow_pos (by decide) : 0 < 10 ^ (taken'.2 + down + figures.fraction.length))
  calc 10 * (taken'.1 * 10 ^ k) * 10 ^ (taken'.2 + down + figures.fraction.length)
      = 10 * (taken'.1 * 10 ^ (figures.whole.length - taken.2 + figures.fraction.length))
          * 10 ^ up := by
        rw [Nat.mul_assoc, Nat.mul_assoc, ← pow_add, hexponents, pow_add]
        ring
    _ ≤ 11 * (digits * 10 ^ taken'.2) * 10 ^ up := Nat.mul_le_mul_right _ hdigits
    _ = 11 * (digits * 10 ^ up) * 10 ^ taken'.2 := by ring
    _ ≤ 11 * (bound * 10 ^ (figures.fraction.length + down)) * 10 ^ taken'.2 :=
        Nat.mul_le_mul_right _ (Nat.mul_le_mul_left _ hbound)
    _ = 11 * bound * 10 ^ (taken'.2 + down + figures.fraction.length) := by ring

/-- A number of the grammar that is at most `10 ^ 308` is in range, if its power of ten does
not count as unbounded. -/
theorem inRange_of_magnitude_le {figures : Figures} {cs : List Char}
    (htext : NumberText figures cs) (hmagnitude : figures.magnitude ≤ 10 ^ 308)
    (hpower : ofDigits figures.power ≤ Numeral.maxPower) : figures.numeral.InRange := by
  rw [Numeral.InRange, powerSize_numeral, if_neg (Nat.not_lt.mpr hpower)]
  by_cases hzero : figures.numeral.significand.1 = 0
  · exact .inl hzero
  · by_cases hnegative : figures.numeral.exponent < 0
    · exact .inr (.inl hnegative)
    · obtain ⟨k, hk⟩ := Int.eq_ofNat_of_zero_le (Int.not_lt.mp hnegative)
      have hbound : figures.magnitude ≤ (10 ^ 308 : Nat) := by exact_mod_cast hmagnitude
      have hle := significand_mul_le htext hbound hk
      rw [hk, Int.toNat_natCast]
      have hlarge : k ≤ 308 := exponent_le_of_mul_le hzero hle
      exact .inr (.inr ⟨Int.ofNat_le.mpr hlarge, nearest_mul_nearest_lt hle⟩)

end Figures

end TemplateTree.Json
