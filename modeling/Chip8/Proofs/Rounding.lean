import Chip8.Binary64.Basic

/-!
# Integers beyond the largest float

A positive integer is rounded to 53 bits, and the result is a float unless its exponent is beyond the
largest one. As the largest float has 53 ones, and half of its last place rounds up, the first integer that
is rounded to no float is `2 ^ 1024 - 2 ^ 970` (`ofInt?_eq_none_iff`).
-/

namespace Chip8.Binary64

/-- The least positive integer that is rounded to no float. -/
def limit : Nat := Nat.pow 2 1024 - Nat.pow 2 970

/-! ### Rounding a quotient -/

/-- A rounded quotient is the whole number in it or the next one. -/
theorem roundDiv_cases (num den : Nat) :
    roundDiv num den = num / den ∨ roundDiv num den = num / den + 1 := by
  unfold roundDiv
  dsimp only
  split
  · exact .inr rfl
  · exact .inl rfl

/-- What is halfway between an odd number and the next one is rounded up. -/
theorem lt_roundDiv_iff {m num den : Nat} (hden : 0 < den) (hodd : m % 2 = 1) :
    m < roundDiv num den ↔ (2 * m + 1) * den ≤ 2 * num := by
  have hexpand : (2 * m + 1) * den = 2 * (den * m) + den := by
    rw [Nat.add_mul, Nat.one_mul, Nat.mul_assoc, Nat.mul_comm m]
  have hdiv := Nat.div_add_mod num den
  have hmod := Nat.mod_lt num hden
  rw [hexpand]
  rcases Nat.lt_trichotomy (num / den) m with hq | hq | hq
  · have hbelow : den * (num / den) + den ≤ den * m := Nat.mul_le_mul_left den hq
    rcases roundDiv_cases num den with h | h <;> omega
  · unfold roundDiv
    dsimp only
    subst hq
    split <;> omega
  · have habove : den * m + den ≤ den * (num / den) := Nat.mul_le_mul_left den hq
    rcases roundDiv_cases num den with h | h <;> omega

/-! ### Rounding an integer -/

theorem two_pow_le {a b : Nat} (h : a ≤ b) : Nat.pow 2 a ≤ Nat.pow 2 b := Nat.pow_le_pow_right (by decide) h

variable {n : Nat}

/-- A positive integer, shifted so that it has 53 bits in front of the point. -/
def shifted (n : Nat) : Nat := n * Nat.pow 2 (52 - n.log2)

/-- What it has been divided by for that. -/
def unit (n : Nat) : Nat := Nat.pow 2 (n.log2 - 52)

theorem unit_pos (n : Nat) : 0 < unit n := Nat.pow_pos (by decide)

/-- The whole number in the shifted integer has 53 bits. -/
theorem shifted_bounds (h : n ≠ 0) :
    leastNormal * unit n ≤ shifted n ∧ shifted n < 2 * leastNormal * unit n := by
  have hlow : Nat.pow 2 n.log2 ≤ n := Nat.log2_self_le h
  have hhigh : n < Nat.pow 2 n.log2 * 2 := Nat.lt_log2_self
  -- One of the two shifts is by no places.
  have hpow : leastNormal * unit n = Nat.pow 2 n.log2 * Nat.pow 2 (52 - n.log2) :=
    calc Nat.pow 2 52 * Nat.pow 2 (n.log2 - 52)
      _ = Nat.pow 2 (52 + (n.log2 - 52)) := (Nat.pow_add 2 _ _).symm
      _ = Nat.pow 2 (n.log2 + (52 - n.log2)) := congrArg (Nat.pow 2) (by omega)
      _ = Nat.pow 2 n.log2 * Nat.pow 2 (52 - n.log2) := Nat.pow_add 2 _ _
  have hpos : 0 < Nat.pow 2 (52 - n.log2) := Nat.pow_pos (by decide)
  rw [Nat.mul_assoc, hpow]
  unfold shifted
  refine ⟨Nat.mul_le_mul_right _ hlow, ?_⟩
  calc n * Nat.pow 2 (52 - n.log2)
    _ < Nat.pow 2 n.log2 * 2 * Nat.pow 2 (52 - n.log2) := Nat.mul_lt_mul_of_pos_right hhigh hpos
    _ = 2 * (Nat.pow 2 n.log2 * Nat.pow 2 (52 - n.log2)) := by rw [Nat.mul_comm _ 2, Nat.mul_assoc]

/-- The exponent of an integer is that of the bit in front of its point. -/
theorem scale_one (h : n ≠ 0) : scale n 1 = (n.log2 : Int) - 52 := by
  have hbig := (shifted_bounds h).1
  unfold shifted unit at hbig
  have hlog : ((n.log2 : Int) - (Nat.log2 1 : Nat) - 52) = n.log2 - 52 := by
    rw [show Nat.log2 1 = 0 from rfl, Int.ofNat_zero, Int.sub_zero]
  have hup : (-((n.log2 : Int) - 52)).toNat = 52 - n.log2 := by omega
  have hdown : ((n.log2 : Int) - 52).toNat = n.log2 - 52 := by omega
  unfold scale
  dsimp only
  rw [hlog, hup, hdown, Nat.one_mul, Nat.mul_comm _ leastNormal, if_neg (by simpa using hbig)]
  omega

/-- The mantissa of a positive integer. -/
def mantissa (n : Nat) : Nat := roundDiv (shifted n) (unit n)

/-- A mantissa has 53 bits, or is the next power of two. -/
theorem mantissa_bounds (h : n ≠ 0) : leastNormal ≤ mantissa n ∧ mantissa n ≤ 2 * leastNormal := by
  obtain ⟨hlow, hhigh⟩ := shifted_bounds h
  have hle : leastNormal ≤ shifted n / unit n := (Nat.le_div_iff_mul_le (unit_pos n)).mpr hlow
  have hlt : shifted n / unit n < 2 * leastNormal := (Nat.div_lt_iff_lt_mul (unit_pos n)).mpr hhigh
  unfold mantissa
  rcases roundDiv_cases (shifted n) (unit n) with hq | hq <;> omega

/-- A positive integer is rounded to no float if its exponent and its mantissa are too large together. -/
theorem ofInt?_eq_none_iff_mantissa (h : n ≠ 0) :
    ofInt? n = none ↔ 0x7FF * leastNormal ≤ (n.log2 + 1022) * leastNormal + mantissa n := by
  have hlow := (mantissa_bounds h).1
  have hup : (-((n.log2 : Int) - 52)).toNat = 52 - n.log2 := by omega
  have hdown : ((n.log2 : Int) - 52).toNat = n.log2 - 52 := by omega
  have hexponent : ((n.log2 : Int) - 52 + 1075).toNat = n.log2 + 1023 := by omega
  have hmantissa : roundDiv (n * Nat.pow 2 (52 - n.log2)) (1 * Nat.pow 2 (n.log2 - 52)) = mantissa n := by
    rw [Nat.one_mul]
    rfl
  have hsucc : (n.log2 + 1023) * leastNormal = (n.log2 + 1022) * leastNormal + leastNormal :=
    Nat.succ_mul _ _
  unfold ofInt? nearest?
  simp only [Int.natAbs_natCast, if_neg h, scale_one h, hup, hdown, hexponent, hmantissa,
    if_neg (Nat.not_lt.mpr hlow), hsucc]
  split
  · refine ⟨fun hnone => (by cases hnone), fun hle => ?_⟩
    omega
  · refine ⟨fun _ => ?_, fun _ => rfl⟩
    omega

/-- **A positive integer is rounded to a float unless it reaches the limit.** -/
theorem ofInt?_eq_none_iff {z : Int} (h : 0 < z) : ofInt? z = none ↔ limit ≤ z := by
  obtain ⟨n, rfl⟩ := Int.eq_ofNat_of_zero_le (Int.le_of_lt h)
  have hn : n ≠ 0 := by omega
  rw [ofInt?_eq_none_iff_mantissa hn, Int.ofNat_le]
  have hlow : Nat.pow 2 n.log2 ≤ n := Nat.log2_self_le hn
  have hhigh : n < Nat.pow 2 (n.log2 + 1) := Nat.lt_log2_self
  obtain ⟨hleast, hmost⟩ := mantissa_bounds hn
  rcases Nat.lt_trichotomy n.log2 1023 with hlog | hlog | hlog
  · have hbelow : n < limit :=
      Nat.lt_of_lt_of_le hhigh (Nat.le_trans (two_pow_le hlog) (by decide +kernel))
    have hsmall : (n.log2 + 1022) * leastNormal ≤ 2044 * leastNormal :=
      Nat.mul_le_mul_right _ (by omega)
    have hpos : 0 < leastNormal := by decide
    omega
  · -- The exponent is the largest one, so the mantissa decides.
    have hshifted : shifted n = n := by
      unfold shifted
      rw [hlog]
      exact Nat.mul_one n
    have hunit : (2 * (2 * leastNormal - 1) + 1) * unit n = 2 * limit := by
      unfold unit
      rw [hlog]
      decide +kernel
    have hround : 2 * leastNormal - 1 < mantissa n ↔
        (2 * (2 * leastNormal - 1) + 1) * unit n ≤ 2 * shifted n :=
      lt_roundDiv_iff (unit_pos n) (by decide)
    rw [hunit, hshifted] at hround
    have hpos : 0 < leastNormal := by decide
    rw [hlog]
    omega
  · have habove : limit ≤ Nat.pow 2 n.log2 := by
      refine Nat.le_trans ?_ (two_pow_le (show 1024 ≤ n.log2 from hlog))
      decide +kernel
    have hexponent : 2046 * leastNormal ≤ (n.log2 + 1022) * leastNormal :=
      Nat.mul_le_mul_right _ (by omega)
    omega

end Chip8.Binary64
