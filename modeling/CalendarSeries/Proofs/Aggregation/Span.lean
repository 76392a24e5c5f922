import CalendarSeries.Aggregation.Reading
import CalendarSeries.Proofs.Binary64.Rounding
/-!
Spans of whole milliseconds counted by way of their seconds. Both the seconds and their product
with a thousand are rounded to fifty-three binary digits, and what is left is cut off. Numbers close
below a power of two have a product that is finer than their seconds by one digit, and it is there
that a millisecond is lost.
-/
namespace CalendarSeries.Aggregation

open CalendarSeries.Number CalendarSeries.Binary64

/-- The binary places after the point of `n` milliseconds as seconds of fifty-three digits. -/
def places (n : Nat) : Nat :=
  62 - (1024 * n / 1000).log2

/-- `n` milliseconds in units of `2 ^ -places n`. A unit of the last place of their seconds is a
thousand of these. -/
def units (n : Nat) : Nat :=
  n * 2 ^ places n

/-- The most milliseconds of a span. -/
def longest : Nat := 86399999999999999

variable {n : Nat}

theorem places_bounds (positive : 1 ≤ n) (short : n ≤ longest) :
    6 ≤ places n ∧ 1000 * 2 ^ 52 ≤ units n ∧ units n < 1000 * 2 ^ 53 := by
  have some_unit : 1024 * n / 1000 ≠ 0 := by omega
  have least := Nat.log2_self_le some_unit
  have most := Nat.lt_log2_self (n := 1024 * n / 1000)
  have small : (1024 * n / 1000).log2 < 57 := by
    rw [Nat.log2_lt some_unit]
    unfold longest at short
    omega
  rw [units, places]
  generalize (1024 * n / 1000).log2 = leading at least most small ⊢
  obtain ⟨rest, whole⟩ : ∃ rest, rest + leading = 62 := ⟨62 - leading, by omega⟩
  have scale : 2 ^ rest * 2 ^ leading = 2 ^ 62 := by rw [← Nat.pow_add, whole]
  rw [show 62 - leading = rest by omega]
  have low := Nat.mul_le_mul_right (2 ^ rest) (show 1000 * 2 ^ leading ≤ 1024 * n by omega)
  have high := Nat.mul_lt_mul_of_pos_right
    (show 1024 * n < 1000 * (2 * 2 ^ leading) by rw [Nat.pow_succ] at most; omega)
    (Nat.two_pow_pos rest)
  refine ⟨by omega, ?_, ?_⟩
  · nlinarith
  · nlinarith

/-- The seconds of `n` milliseconds as a binary number. -/
theorem exists_seconds (positive : 1 ≤ n) (short : n ≤ longest) :
    ∃ significand exponent, ofQuotient (n * 1000) 1000000 = .finite false significand exponent ∧
      (significand : ℚ) * 2 ^ exponent =
        nearest .toEven (units n) 1000 * 2 ^ (-(places n : Int)) := by
  obtain ⟨exact, least, most⟩ := places_bounds positive short
  have far : places n ≤ 62 := Nat.sub_le _ _
  have ratio : ofQuotient (n * 1000) 1000000 = ofRatio false (n * 1000) 1000000 := by
    rw [ofQuotient, decide_eq_false (by omega)]
    rfl
  rw [ratio]
  refine exists_ofRatio (n := units n) (d := 1000) (by decide) false (by decide) (by omega)
    (by omega) ?_ ?_ ?_
  · unfold leastExponent
    omega
  · unfold greatestExponent
    omega
  · rw [units, zpow_neg, zpow_natCast]
    push_cast
    field_simp
    norm_num

/-- A thousand times a binary number, `grid` being the unit of its last digit. -/
theorem exists_product {significand seconds places digits : Nat} {exponent : Int}
    (same : (significand : ℚ) * 2 ^ exponent = seconds * 2 ^ (-(places : Int)))
    (least : 2 ^ 52 * 2 ^ digits ≤ 1000 * seconds) (most : 1000 * seconds < 2 ^ 53 * 2 ^ digits)
    (far : places ≤ 62) (near : digits ≤ 62) :
    ∃ result power, (Binary64.finite false significand exponent).timesNat 1000 =
        .finite false result power ∧
      (result : ℚ) * 2 ^ power =
        (2 ^ digits * nearest .toEven (1000 * seconds) (2 ^ digits) : Nat) / 2 ^ places := by
  have whole : ((significand * scaleUp exponent * 1000 : Nat) : ℚ) / scaleUp (-exponent) =
      (1000 * seconds : Nat) / (2 ^ digits : Nat) * 2 ^ ((digits : Int) - places) := by
    have unit : (scaleUp (-exponent) : ℚ) ≠ 0 := by exact_mod_cast (scaleUp_pos (-exponent)).ne'
    push_cast
    rw [scaleUp_cast exponent, zpow_sub₀ (by norm_num), zpow_natCast, zpow_natCast]
    rw [zpow_neg, zpow_natCast] at same
    field_simp at same ⊢
    exact same
  obtain ⟨result, power, found, value⟩ := exists_ofRatio (scaleUp_pos (-exponent)) false
    (Nat.two_pow_pos digits) least most (by unfold leastExponent; omega)
    (by unfold greatestExponent; omega) whole
  refine ⟨result, power, found, ?_⟩
  rw [value, zpow_sub₀ (by norm_num), zpow_natCast, zpow_natCast]
  push_cast
  ring

/-- How `n` milliseconds are counted: seconds of fifty-three binary digits, a thousand times these
with as many digits, `2 ^ digits` units apart, and the whole part of that. -/
structure IsCounted (n digits seconds product : Nat) (milliseconds : Int) : Prop where
  inSeconds : IsNearest (units n) 1000 seconds
  grid : 1000 * seconds < 2 ^ 62 ∧ digits = 9 ∨ 2 ^ 62 ≤ 1000 * seconds ∧ digits = 10
  rounded : IsNearest (1000 * seconds) (2 ^ digits) product
  cut : milliseconds = ((2 ^ digits * product / 2 ^ places n : Nat) : Int)

/-- The digits that the product of a thousand and the seconds has beyond fifty-three. -/
theorem exists_grid {seconds : Nat} (least : 2 ^ 52 ≤ seconds) (most : seconds ≤ 2 ^ 53) :
    ∃ digits, (1000 * seconds < 2 ^ 62 ∧ digits = 9 ∨ 2 ^ 62 ≤ 1000 * seconds ∧ digits = 10) ∧
      2 ^ 52 * 2 ^ digits ≤ 1000 * seconds ∧ 1000 * seconds < 2 ^ 53 * 2 ^ digits := by
  rcases Nat.lt_or_ge (1000 * seconds) (2 ^ 62) with fine | coarse
  · refine ⟨9, .inl ⟨fine, rfl⟩, ?_, ?_⟩ <;> omega
  · refine ⟨10, .inr ⟨coarse, rfl⟩, ?_, ?_⟩ <;> omega

theorem exists_isCounted (positive : 1 ≤ n) (short : n ≤ longest) :
    ∃ digits seconds product,
      IsCounted n digits seconds product (millisecondsOfSpan (n * 1000)) := by
  obtain ⟨-, least, most⟩ := places_bounds positive short
  have near : IsNearest (units n) 1000 (nearest .toEven (units n) 1000) :=
    nearest_isNearest (by decide)
  have far : places n ≤ 62 := Nat.sub_le _ _
  obtain ⟨significand, exponent, taken, value⟩ := exists_seconds positive short
  generalize nearest .toEven (units n) 1000 = seconds at near value
  have above := near.least
  have below := near.most
  obtain ⟨digits, grid, low, high⟩ := exists_grid (show 2 ^ 52 ≤ seconds by omega) (by omega)
  obtain ⟨result, power, times, scaled⟩ := exists_product value low high far (by omega)
  refine ⟨digits, seconds, _, near, grid, nearest_isNearest (Nat.two_pow_pos digits), ?_⟩
  rw [millisecondsOfSpan, taken, times]
  exact truncate_eq scaled

/-- The numbers of milliseconds that are counted as what they are. From `2 ^ 62` units on, the
product has the digits that the number itself has, so all numbers with no more digits are kept.
Below it, a remainder of the seconds in thousandths that is too large moves the product to the next
number below, which the whole part of it shows, or also above if there are no binary places left. -/
def Keeps (n : Nat) : Prop :=
  if 2 ^ 62 ≤ units n then 1024 ∣ units n
  else if n < 2 ^ 52 then units n % 1000 ≤ 256 ∨ 500 ≤ units n % 1000
  else 512 ∣ units n ∧ (units n % 1000 < 256 ∨ 744 < units n % 1000 ∨
    1024 ∣ units n ∧ (units n % 1000 = 256 ∨ units n % 1000 = 744))

instance (n : Nat) : Decidable (Keeps n) := by
  unfold Keeps
  infer_instance

theorem dvd_units (exponent : Nat) (enough : exponent ≤ places n) : 2 ^ exponent ∣ units n :=
  Dvd.dvd.mul_left (Nat.pow_dvd_pow 2 enough) n

/-- Whole seconds are kept, up to more than two million years. -/
theorem keeps_of_seconds (positive : 1 ≤ n) (short : n < 2 ^ 56) (whole : 1000 ∣ n) : Keeps n := by
  have exact := (places_bounds positive (by unfold longest; omega)).1
  have even : 512 ∣ units n :=
    Nat.mul_dvd_mul (dvd_trans (by decide : 2 ^ 3 ∣ 1000) whole) (Nat.pow_dvd_pow 2 exact)
  have none : units n % 1000 = 0 := Nat.mod_eq_zero_of_dvd (Dvd.dvd.mul_right whole _)
  rw [Keeps]
  split_ifs with coarse few
  · have more : 7 ≤ places n := by
      by_contra six
      rw [units, show places n = 6 by omega] at coarse
      omega
    exact Nat.mul_dvd_mul (dvd_trans (by decide : 2 ^ 3 ∣ 1000) whole) (Nat.pow_dvd_pow 2 more)
  · omega
  · omega

section counted

variable {digits seconds product : Nat} {milliseconds : Int}

/-- The seconds are those below, or from half a second on those above. -/
theorem IsCounted.beside (counted : IsCounted n digits seconds product milliseconds) :
    1000 * seconds + units n % 1000 = units n ∧ units n % 1000 ≤ 500 ∨
      1000 * seconds + units n % 1000 = units n + 1000 ∧ 500 ≤ units n % 1000 := by
  have := counted.inSeconds.least
  have := counted.inSeconds.most
  omega

theorem IsCounted.eq_iff_between (counted : IsCounted n digits seconds product milliseconds) :
    milliseconds = n ↔
      units n ≤ 2 ^ digits * product ∧ 2 ^ digits * product < units n + 2 ^ places n := by
  rw [counted.cut, Nat.cast_inj, Nat.div_eq_iff (Nat.two_pow_pos _), units]
  have := Nat.two_pow_pos (places n)
  omega

/-- A product coarser than a millisecond is kept only as it is. -/
theorem IsCounted.eq_iff_exact (counted : IsCounted n digits seconds product milliseconds)
    (few : places n ≤ digits) : milliseconds = n ↔ 2 ^ digits * product = units n := by
  rw [counted.eq_iff_between]
  obtain ⟨more, whole⟩ := Nat.pow_dvd_pow 2 few
  have positive := Nat.two_pow_pos (places n)
  rw [whole, units, Nat.mul_assoc, Nat.mul_comm n]
  constructor
  · rintro ⟨least, most⟩
    have above := Nat.le_of_mul_le_mul_left least positive
    have below : more * product < n + 1 := Nat.lt_of_mul_lt_mul_left (by rwa [Nat.mul_succ])
    rw [show more * product = n by omega]
  · intro same
    omega

/-- Each of the two roundings goes less than 512 units away. -/
theorem IsCounted.near (counted : IsCounted n digits seconds product milliseconds) :
    2 ^ digits * product ≤ units n + 1012 ∧ units n ≤ 2 ^ digits * product + 1012 := by
  have beside := counted.beside
  obtain ⟨above, below, -⟩ := counted.rounded
  rcases counted.grid with ⟨-, rfl⟩ | ⟨-, rfl⟩
  · omega
  · omega

theorem IsCounted.close (counted : IsCounted n digits seconds product milliseconds)
    (exact : 6 ≤ places n) : milliseconds ≤ n + 15 ∧ n ≤ milliseconds + 15 := by
  obtain ⟨above, below⟩ := counted.near
  have wide := Nat.pow_le_pow_right (show 0 < 2 by decide) exact
  have whole := dvd_units 6 exact
  have positive := Nat.two_pow_pos (places n)
  obtain ⟨more, even⟩ : 2 ^ 6 ∣ 2 ^ digits * product := by
    refine Dvd.dvd.mul_right (Nat.pow_dvd_pow 2 ?_) product
    rcases counted.grid with ⟨-, rfl⟩ | ⟨-, rfl⟩ <;> decide
  have most : 2 ^ digits * product / 2 ^ places n < n + 16 := by
    rw [Nat.div_lt_iff_lt_mul positive, Nat.add_mul]
    rw [units] at above
    omega
  have least : n - 15 ≤ 2 ^ digits * product / 2 ^ places n := by
    rw [Nat.le_div_iff_mul_le positive, Nat.sub_mul]
    rw [units] at below whole
    omega
  rw [counted.cut]
  omega

theorem IsCounted.eq_iff_of_coarse (counted : IsCounted n digits seconds product milliseconds)
    (coarse : 2 ^ 62 ≤ units n) : milliseconds = n ↔ 1024 ∣ units n := by
  have beside := counted.beside
  obtain ⟨above, below, -⟩ := counted.rounded
  obtain rfl : digits = 10 := by
    rcases counted.grid with ⟨fine, -⟩ | ⟨-, ten⟩
    · omega
    · exact ten
  have hit : 1024 ∣ units n → 2 ^ 10 * product = units n := by omega
  rcases Nat.lt_or_ge 10 (places n) with many | few
  · have whole := dvd_units 10 many.le
    have wide := Nat.pow_le_pow_right (show 0 < 2 by decide) many.le
    rw [counted.eq_iff_between, hit whole]
    omega
  · rw [counted.eq_iff_exact few]
    omega

/-- Short spans have more than a thousand units in a millisecond. -/
theorem places_of_short (least : 1000 * 2 ^ 52 ≤ units n) (short : n < 2 ^ 52) :
    10 ≤ places n := by
  by_contra few
  have narrow := Nat.pow_le_pow_right (show 0 < 2 by decide) (show places n ≤ 9 by omega)
  have := Nat.mul_le_mul_left n narrow
  rw [units] at least
  omega

theorem IsCounted.of_short (counted : IsCounted n digits seconds product milliseconds)
    (many : 10 ≤ places n) : milliseconds = n ∨ milliseconds = n - 1 := by
  obtain ⟨above, below⟩ := counted.near
  have wide := Nat.pow_le_pow_right (show 0 < 2 by decide) many
  have positive := Nat.two_pow_pos (places n)
  have most : 2 ^ digits * product / 2 ^ places n < n + 1 := by
    rw [Nat.div_lt_iff_lt_mul positive, Nat.add_mul]
    rw [units] at above
    omega
  have least : n - 1 ≤ 2 ^ digits * product / 2 ^ places n := by
    rw [Nat.le_div_iff_mul_le positive, Nat.sub_mul]
    rw [units] at below
    omega
  rw [counted.cut]
  omega

theorem IsCounted.eq_iff_of_short (counted : IsCounted n digits seconds product milliseconds)
    (least : 1000 * 2 ^ 52 ≤ units n) (fine : units n < 2 ^ 62) (short : n < 2 ^ 52) :
    milliseconds = n ↔ units n % 1000 ≤ 256 ∨ 500 ≤ units n % 1000 := by
  have many := places_of_short least short
  have whole := dvd_units 10 many
  have wide := Nat.pow_le_pow_right (show 0 < 2 by decide) many
  have beside := counted.beside
  obtain ⟨above, below, even⟩ := counted.rounded
  rw [counted.eq_iff_between]
  obtain ⟨low, rfl⟩ : 1000 * seconds < 2 ^ 62 ∧ digits = 9 := by
    rcases counted.grid with fine | ⟨coarse, -⟩
    · exact fine
    · omega
  rcases beside with ⟨down, low⟩ | ⟨up, high⟩
  · omega
  · omega

theorem IsCounted.eq_iff_of_long (counted : IsCounted n digits seconds product milliseconds)
    (fine : units n < 2 ^ 62) (long : 2 ^ 52 ≤ n) (exact : 6 ≤ places n) :
    milliseconds = n ↔ 512 ∣ units n ∧ (units n % 1000 < 256 ∨ 744 < units n % 1000 ∨
      1024 ∣ units n ∧ (units n % 1000 = 256 ∨ units n % 1000 = 744)) := by
  have few : places n ≤ 9 := by
    by_contra many
    have wide := Nat.pow_le_pow_right (show 0 < 2 by decide) (show 10 ≤ places n by omega)
    have := Nat.mul_le_mul_left n wide
    rw [units] at fine
    omega
  have whole := dvd_units 6 exact
  have beside := counted.beside
  obtain ⟨above, below, even⟩ := counted.rounded
  rcases counted.grid with ⟨low, rfl⟩ | ⟨high, rfl⟩
  · rw [counted.eq_iff_exact few]
    constructor
    · intro hit
      refine ⟨⟨product, hit.symm⟩, ?_⟩
      -- half a unit of the product away, the number is even in these units
      have tied : units n = 1000 * seconds + 256 ∨ 1000 * seconds = units n + 256 →
          1024 ∣ units n := by
        intro tie
        have := even (by omega)
        omega
      rcases beside with ⟨down, -⟩ | ⟨up, -⟩
      · rcases Nat.lt_or_ge (units n % 1000) 256 with less | more
        · exact .inl less
        · have edge : units n % 1000 = 256 := by omega
          exact .inr (.inr ⟨tied (by omega), .inl edge⟩)
      · rcases Nat.lt_or_ge 744 (units n % 1000) with more | less
        · exact .inr (.inl more)
        · have edge : units n % 1000 = 744 := by omega
          exact .inr (.inr ⟨tied (by omega), .inr edge⟩)
    · rintro ⟨⟨half, hit⟩, near⟩
      rw [hit] at beside near ⊢
      rcases near with down | up | ⟨tied, down | up⟩
      · omega
      · omega
      · omega
      · omega
  · -- the seconds are rounded past the power of two, where no whole number is near enough
    have past : seconds = 4611686018427388 := by omega
    have power : 2 ^ 10 * product = 2 ^ 62 := by omega
    have missed : ¬512 ∣ units n := by omega
    rw [counted.eq_iff_exact (few.trans (by decide)), power]
    simp only [missed, false_and, iff_false]
    omega

theorem IsCounted.eq_iff (counted : IsCounted n digits seconds product milliseconds)
    (positive : 1 ≤ n) (short : n ≤ longest) : milliseconds = n ↔ Keeps n := by
  obtain ⟨exact, least, -⟩ := places_bounds positive short
  rw [Keeps]
  split_ifs with coarse few
  · exact counted.eq_iff_of_coarse coarse
  · exact counted.eq_iff_of_short least (by omega) few
  · exact counted.eq_iff_of_long (by omega) (by omega) exact

end counted

end CalendarSeries.Aggregation
