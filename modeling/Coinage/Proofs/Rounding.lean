import Coinage.Proofs.Text.Digit
import Coinage.Rounding
import Mathlib.Algebra.Order.Floor.Ring
import Mathlib.Algebra.Ring.Int.Parity
import Mathlib.Data.Rat.Floor
import Mathlib.Tactic.Linarith
import Mathlib.Tactic.Positivity
import Mathlib.Tactic.Ring

/-!
# Laws of rounding

`IsNearestEven` says what rounding half to even means for a rational number,
without an algorithm: the rounded integer is at most one half away, and it is
even if it is exactly one half away.  `nearestEven` computes that integer, and
`divide_halfEven` identifies it with the division on natural numbers which
this library runs.

The laws about a later truncation are stated with comparisons.  An even bound
is reached by the rounded integer exactly if the number is at most one half
below the bound, so a tie in front of an even multiple always goes up.

A number that is cut to an integer before it is rounded to a multiple of a unit
is rounded as if nothing had been cut, unless the cut makes a tie:
`nearestEven_div_eq_cut` is the exact difference.
-/

namespace Coinage.Rounding

open Coinage.Text

/-! ## Dropping digits -/

/-- The shortcut for short coefficients does not change what is rounded: what
is below a tenth of the last place kept rounds to zero. -/
theorem dropDigits_eq_divide
    (rounding : Rounding)
    (coefficient count : Nat) :
    rounding.dropDigits coefficient count =
      rounding.divide coefficient (10 ^ count) := by
  unfold dropDigits
  split_ifs with short
  · have positive : 0 < count := lt_of_le_of_lt (Nat.zero_le _) short
    have tenth : coefficient * 10 < 10 ^ count := by
      calc
        coefficient * 10 < 10 ^ digitCount coefficient * 10 :=
          Nat.mul_lt_mul_of_pos_right
            (lt_pow_digitCount coefficient) (by decide)
        _ = 10 ^ (digitCount coefficient + 1) := (pow_succ _ _).symm
        _ ≤ 10 ^ count := Nat.pow_le_pow_right (by decide) short
    have below : coefficient < 10 ^ count := by omega
    cases rounding with
    | towardZero =>
        exact (Nat.div_eq_of_lt below).symm
    | halfEven =>
        have twice : 2 * coefficient < 10 ^ count := by omega
        simp [divide, Nat.div_eq_of_lt below, Nat.mod_eq_of_lt below, twice]
  · rfl

@[simp]
theorem divide_towardZero (numerator denominator : Nat) :
    towardZero.divide numerator denominator = numerator / denominator :=
  rfl

@[simp]
theorem divide_one (rounding : Rounding) (number : Nat) :
    rounding.divide number 1 = number := by
  cases rounding <;> simp [divide, Nat.mod_one]

@[simp]
theorem divide_zero
    (rounding : Rounding)
    {denominator : Nat}
    (positive : 0 < denominator) :
    rounding.divide 0 denominator = 0 := by
  cases rounding <;> simp [divide, positive]

/-- Rounding adds at most one to the integer quotient. -/
theorem divide_le
    (rounding : Rounding)
    (numerator denominator : Nat) :
    rounding.divide numerator denominator ≤
      numerator / denominator + 1 := by
  cases rounding with
  | towardZero =>
      exact Nat.le_succ _
  | halfEven =>
      simp only [divide]
      split_ifs <;> omega

/-! ## Rounding to the nearest integer -/

/-- The integer that half-even rounding may give for a rational number. -/
structure IsNearestEven (exact : ℚ) (rounded : ℤ) : Prop where
  near : |exact - rounded| ≤ 1 / 2
  tie : |exact - rounded| = 1 / 2 → Even rounded

/-- The nearest integer to a rational number, a half going to the even one. -/
def nearestEven (exact : ℚ) : ℤ :=
  if Int.fract exact < 1 / 2 then ⌊exact⌋
  else if 1 / 2 < Int.fract exact then ⌊exact⌋ + 1
  else ⌊exact⌋ + ⌊exact⌋ % 2

theorem nearestEven_spec (exact : ℚ) :
    IsNearestEven exact (nearestEven exact) := by
  have split := Int.floor_add_fract exact
  have nonnegative := Int.fract_nonneg exact
  have belowOne := Int.fract_lt_one exact
  unfold nearestEven
  split_ifs with low high
  · have distance : |exact - ⌊exact⌋| = Int.fract exact := by
      rw [abs_of_nonneg (by linarith)]
      linarith
    exact ⟨by linarith, fun tie => by linarith⟩
  · have distance :
        |exact - (⌊exact⌋ + 1 : ℤ)| = 1 - Int.fract exact := by
      push_cast
      rw [abs_of_nonpos (by linarith)]
      linarith
    exact ⟨by linarith, fun tie => by linarith⟩
  · have half : Int.fract exact = 1 / 2 := by linarith
    have distance :
        |exact - (⌊exact⌋ + ⌊exact⌋ % 2 : ℤ)| = 1 / 2 := by
      rcases Int.emod_two_eq_zero_or_one ⌊exact⌋ with even | odd
      · rw [even, add_zero, abs_of_nonneg (by linarith)]
        linarith
      · rw [odd]
        push_cast
        rw [abs_of_nonpos (by linarith)]
        linarith
    refine ⟨distance.le, fun _ => Int.even_iff.2 ?_⟩
    omega

/-- Half-even rounding leaves no choice: two candidates differ by at most one,
and both would have to be even. -/
theorem IsNearestEven.unique
    {exact : ℚ}
    {first second : ℤ}
    (left : IsNearestEven exact first)
    (right : IsNearestEven exact second) :
    first = second := by
  obtain ⟨leftLow, leftHigh⟩ := abs_le.1 left.near
  obtain ⟨rightLow, rightHigh⟩ := abs_le.1 right.near
  have below : first ≤ second + 1 := by
    exact_mod_cast (by linarith : (first : ℚ) ≤ second + 1)
  have above : second ≤ first + 1 := by
    exact_mod_cast (by linarith : (second : ℚ) ≤ first + 1)
  rcases (by omega : first = second ∨ first = second + 1 ∨
      second = first + 1) with equal | upper | upper
  · exact equal
  · subst first
    push_cast at leftLow leftHigh
    have leftTie := left.tie (by
      push_cast
      rw [abs_of_nonpos (by linarith)]
      linarith)
    have rightTie := right.tie (by
      rw [abs_of_nonneg (by linarith)]
      linarith)
    rw [Int.even_iff] at leftTie rightTie
    omega
  · subst second
    push_cast at rightLow rightHigh
    have leftTie := left.tie (by
      rw [abs_of_nonneg (by linarith)]
      linarith)
    have rightTie := right.tie (by
      push_cast
      rw [abs_of_nonpos (by linarith)]
      linarith)
    rw [Int.even_iff] at leftTie rightTie
    omega

theorem IsNearestEven.eq_nearestEven
    {exact : ℚ}
    {rounded : ℤ}
    (rounds : IsNearestEven exact rounded) :
    rounded = nearestEven exact :=
  rounds.unique (nearestEven_spec exact)

@[simp]
theorem nearestEven_intCast (number : ℤ) :
    nearestEven number = number :=
  (IsNearestEven.eq_nearestEven
    ⟨by norm_num, fun tie => by norm_num at tie⟩).symm

/-- Rounding does not pass an integer below. -/
theorem IsNearestEven.le_of_le
    {exact : ℚ}
    {rounded bound : ℤ}
    (rounds : IsNearestEven exact rounded)
    (reached : (bound : ℚ) ≤ exact) :
    bound ≤ rounded := by
  obtain ⟨-, high⟩ := abs_le.1 rounds.near
  have close : (bound : ℚ) < rounded + 1 := by linarith
  exact Int.lt_add_one_iff.1 (by exact_mod_cast close)

/-- Rounding does not pass an integer above. -/
theorem IsNearestEven.le_of_ge
    {exact : ℚ}
    {rounded bound : ℤ}
    (rounds : IsNearestEven exact rounded)
    (reached : exact ≤ bound) :
    rounded ≤ bound := by
  obtain ⟨low, -⟩ := abs_le.1 rounds.near
  have close : (rounded : ℚ) < bound + 1 := by linarith
  exact Int.lt_add_one_iff.1 (by exact_mod_cast close)

/-- Rounding keeps the order of numbers: where it would reverse it, both numbers
are one tie. -/
theorem nearestEven_mono
    {lower upper : ℚ}
    (ordered : lower ≤ upper) :
    nearestEven lower ≤ nearestEven upper := by
  refine not_lt.1 fun reversed => ?_
  obtain ⟨low, -⟩ := abs_le.1 (nearestEven_spec lower).near
  obtain ⟨-, high⟩ := abs_le.1 (nearestEven_spec upper).near
  have apart : (nearestEven upper : ℚ) + 1 ≤ nearestEven lower := by
    exact_mod_cast reversed
  have tied : lower = upper := by linarith
  rw [tied] at reversed
  exact lt_irrefl _ reversed

/-- Rounding treats both signs alike. -/
theorem nearestEven_neg (exact : ℚ) :
    nearestEven (-exact) = -nearestEven exact := by
  obtain ⟨near, tie⟩ := nearestEven_spec exact
  have distance :
      |-exact - (-nearestEven exact : ℤ)| =
        |exact - nearestEven exact| := by
    rw [Int.cast_neg, ← neg_sub', abs_neg]
  refine (IsNearestEven.eq_nearestEven ⟨?_, ?_⟩).symm
  · rwa [distance]
  · intro tied
    rw [distance] at tied
    exact (tie tied).neg

theorem nearestEven_abs (exact : ℚ) :
    nearestEven |exact| = |nearestEven exact| := by
  rcases le_total 0 exact with nonnegative | nonpositive
  · have rounded : 0 ≤ nearestEven exact :=
      (nearestEven_spec exact).le_of_le (by exact_mod_cast nonnegative)
    rw [abs_of_nonneg nonnegative, abs_of_nonneg rounded]
  · have rounded : nearestEven exact ≤ 0 :=
      (nearestEven_spec exact).le_of_ge (by exact_mod_cast nonpositive)
    rw [abs_of_nonpos nonpositive, abs_of_nonpos rounded, nearestEven_neg]

/-- Rounding in terms of an integer and what is left of it. -/
theorem nearestEven_add
    (whole : ℤ)
    {rest : ℚ}
    (nonnegative : 0 ≤ rest)
    (belowOne : rest < 1) :
    nearestEven (whole + rest) =
      if rest < 1 / 2 then whole
      else if 1 / 2 < rest then whole + 1
      else whole + whole % 2 := by
  have floorEq : ⌊(whole : ℚ) + rest⌋ = whole := by
    rw [Int.floor_intCast_add, Int.floor_eq_zero_iff.2 ⟨nonnegative, belowOne⟩,
      add_zero]
  have fractEq : Int.fract ((whole : ℚ) + rest) = rest := by
    rw [Int.fract_intCast_add, Int.fract_eq_self.2 ⟨nonnegative, belowOne⟩]
  rw [nearestEven, floorEq, fractEq]

/-- The division that this library runs rounds the exact quotient half to
even. -/
theorem divide_halfEven
    (numerator : Nat)
    {denominator : Nat}
    (positive : 0 < denominator) :
    (halfEven.divide numerator denominator : ℤ) =
      nearestEven ((numerator : ℚ) / denominator) := by
  have scale : (0 : ℚ) < denominator := by exact_mod_cast positive
  have split :
      (numerator : ℚ) / denominator =
        (numerator / denominator : Nat) +
          (numerator % denominator : Nat) / (denominator : ℚ) := by
    have whole :
        (numerator : ℚ) =
          denominator * (numerator / denominator : Nat) +
            (numerator % denominator : Nat) := by
      exact_mod_cast (Nat.div_add_mod numerator denominator).symm
    rw [whole, add_div, mul_div_cancel_left₀ _ scale.ne']
  have belowOne :
      (numerator % denominator : Nat) / (denominator : ℚ) < 1 := by
    rw [div_lt_one scale]
    exact_mod_cast Nat.mod_lt numerator positive
  have lowIff :
      (numerator % denominator : Nat) / (denominator : ℚ) < 1 / 2 ↔
        2 * (numerator % denominator) < denominator := by
    rw [div_lt_div_iff₀ scale (by norm_num), ← Nat.cast_lt (α := ℚ)]
    push_cast
    constructor <;> intro bound <;> linarith
  have highIff :
      1 / 2 < (numerator % denominator : Nat) / (denominator : ℚ) ↔
        denominator < 2 * (numerator % denominator) := by
    rw [div_lt_div_iff₀ (by norm_num) scale, ← Nat.cast_lt (α := ℚ)]
    push_cast
    constructor <;> intro bound <;> linarith
  rw [split, ← Int.cast_natCast (numerator / denominator),
    nearestEven_add _ (by positivity) belowOne]
  simp only [divide, lowIff, highIff]
  split_ifs <;> push_cast <;> rfl

/-- A larger numerator does not have a smaller quotient. -/
theorem divide_halfEven_mono
    {lesser greater denominator : Nat}
    (positive : 0 < denominator)
    (ordered : lesser ≤ greater) :
    halfEven.divide lesser denominator ≤
      halfEven.divide greater denominator := by
  have scaled :
      (lesser : ℚ) / denominator ≤ (greater : ℚ) / denominator := by
    have cast : (lesser : ℚ) ≤ greater := by exact_mod_cast ordered
    exact div_le_div_of_nonneg_right cast (Nat.cast_nonneg _)
  have rounded := nearestEven_mono scaled
  rw [← divide_halfEven _ positive, ← divide_halfEven _ positive] at rounded
  exact_mod_cast rounded

/-- A multiple of the denominator is divided without rounding. -/
theorem divide_halfEven_mul
    (quotient : Nat)
    {denominator : Nat}
    (positive : 0 < denominator) :
    halfEven.divide (quotient * denominator) denominator = quotient := by
  simp [divide, positive]

/-- Rounding a quotient does not pass the numerator. -/
theorem divide_halfEven_le
    (numerator : Nat)
    {denominator : Nat}
    (positive : 0 < denominator) :
    halfEven.divide numerator denominator ≤ numerator := by
  have rounds := nearestEven_spec ((numerator : ℚ) / denominator)
  rw [← divide_halfEven numerator positive] at rounds
  have below : (numerator : ℚ) / denominator ≤ (numerator : ℤ) := by
    rw [Int.cast_natCast]
    exact div_le_self (by positivity) (by exact_mod_cast positive)
  exact_mod_cast rounds.le_of_ge below

/-! ## Rounding before a truncation -/

/-- An even bound is reached exactly if the number is at most one half below
it: a tie in front of an even integer goes up. -/
theorem le_nearestEven_iff
    {exact : ℚ}
    {bound : ℤ}
    (even : Even bound) :
    bound ≤ nearestEven exact ↔ (bound : ℚ) - 1 / 2 ≤ exact := by
  have rounds := nearestEven_spec exact
  generalize nearestEven exact = rounded at rounds ⊢
  obtain ⟨low, high⟩ := abs_le.1 rounds.near
  constructor
  · intro reached
    have cast : (bound : ℚ) ≤ rounded := by exact_mod_cast reached
    linarith
  · intro close
    refine not_lt.1 fun below => ?_
    have previous : rounded = bound - 1 := by
      have above : bound - 1 ≤ rounded := by
        exact_mod_cast (by linarith : (bound : ℚ) - 1 ≤ rounded)
      omega
    subst previous
    push_cast at low high
    have tied := rounds.tie (by
      push_cast
      rw [abs_of_nonneg (by linarith)]
      linarith)
    rw [Int.even_iff] at even tied
    omega

/-- A quotient is cut at twice the places, rounded half to even at the places
and truncated to an integer.  Together this is one truncation, of a quotient
that is raised by half a unit of the last place. -/
theorem floor_roundedQuotient
    (numerator denominator : Nat)
    {unit : Nat}
    (positive : 0 < unit)
    (even : Even unit) :
    ((halfEven.divide (numerator * unit ^ 2 / denominator) unit / unit : Nat) :
        ℤ) =
      ⌊(numerator : ℚ) / denominator + 1 / (2 * unit)⌋ := by
  obtain ⟨half, halves⟩ := even
  have scale : (0 : ℚ) < unit := by exact_mod_cast positive
  have halfCast : (half : ℚ) = unit / 2 := by
    rw [halves]
    push_cast
    ring
  refine eq_of_forall_le_iff fun bound => ?_
  have evenBound : Even (bound * unit) :=
    (Int.even_coe_nat unit).2 ⟨half, halves⟩ |>.mul_left bound
  calc
    bound ≤ (halfEven.divide (numerator * unit ^ 2 / denominator) unit / unit :
        Nat) ↔
      bound * unit ≤
        nearestEven ((numerator * unit ^ 2 / denominator : Nat) / unit) := by
          rw [Int.natCast_div, Int.le_ediv_iff_mul_le (by omega),
            divide_halfEven _ positive]
    _ ↔ bound * unit - 1 / 2 ≤
          ((numerator * unit ^ 2 / denominator : Nat) : ℚ) / unit := by
          rw [le_nearestEven_iff evenBound]
          push_cast
          rfl
    _ ↔ bound * unit ^ 2 - half ≤
          (⌊(numerator * unit ^ 2 : ℚ) / denominator⌋ : ℤ) := by
          have floorEq :
              ⌊(numerator * unit ^ 2 : ℚ) / denominator⌋ =
                (numerator * unit ^ 2 / denominator : Nat) := by
            rw [Int.natCast_div, ← Rat.floor_natCast_div_natCast]
            push_cast
            rfl
          rw [floorEq, le_div_iff₀ scale, ← Int.cast_le (R := ℚ)]
          generalize numerator * unit ^ 2 / denominator = cut
          push_cast
          rw [halfCast]
          constructor <;> intro reached <;> linarith
    _ ↔ (bound * unit ^ 2 - half : ℚ) ≤
          (numerator * unit ^ 2 : ℚ) / denominator := by
          rw [Int.le_floor]
          push_cast
          rfl
    _ ↔ bound ≤ ⌊(numerator : ℚ) / denominator + 1 / (2 * unit)⌋ := by
          rw [Int.le_floor, halfCast]
          have square : (0 : ℚ) < unit ^ 2 := by positivity
          have scaled :
              (numerator * unit ^ 2 : ℚ) / denominator + unit / 2 =
                ((numerator : ℚ) / denominator + 1 / (2 * unit)) *
                  unit ^ 2 := by
            field_simp
          rw [sub_le_iff_le_add, scaled, mul_le_mul_iff_left₀ square]

/-! ## Rounding after a cut -/

/-- A number in units of `2 * half`, with `rest` of a unit behind the whole
ones: only on which side of the middle the rest lies matters. -/
theorem nearestEven_div
    (whole half : ℤ)
    {rest : ℚ}
    (nonnegative : 0 ≤ rest)
    (belowUnit : rest < 2 * half) :
    nearestEven ((2 * half * whole + rest) / (2 * half)) =
      if rest < half then whole
      else if half < rest then whole + 1
      else whole + whole % 2 := by
  have positive : (0 : ℚ) < 2 * half := nonnegative.trans_lt belowUnit
  have split :
      (2 * half * whole + rest) / (2 * half) = whole + rest / (2 * half) := by
    rw [add_div, mul_div_cancel_left₀ _ positive.ne']
  have lowIff : rest / (2 * half) < 1 / 2 ↔ rest < half := by
    rw [div_lt_iff₀ positive]
    constructor <;> intro bound <;> linarith
  have highIff : 1 / 2 < rest / (2 * half) ↔ half < rest := by
    rw [lt_div_iff₀ positive]
    constructor <;> intro bound <;> linarith
  rw [split, nearestEven_add whole (div_nonneg nonnegative positive.le)
    ((div_lt_one positive).2 belowUnit)]
  simp only [lowIff, highIff]

/-- Cutting a number to an integer before it is divided by an even unit and
rounded changes the result in one case only: the number lies above the middle
between two multiples of the unit, the cut puts it into the middle, and the
lower multiple is the even one.  Then the result is one too small. -/
theorem nearestEven_div_eq_cut
    (exact : ℚ)
    {half : ℤ}
    (positive : 0 < half) :
    nearestEven (exact / (2 * half)) =
      nearestEven (⌊exact⌋ / (2 * half)) +
        if ⌊exact⌋ % (2 * half) = half ∧ (⌊exact⌋ : ℚ) ≠ exact ∧
            Even (⌊exact⌋ / (2 * half)) then 1
        else 0 := by
  have fraction := Int.fract_nonneg exact
  have belowOne := Int.fract_lt_one exact
  have whole := Int.floor_add_fract exact
  have cutSplit := Int.mul_ediv_add_emod ⌊exact⌋ (2 * half)
  have restNonneg := Int.emod_nonneg ⌊exact⌋ (by omega : 2 * half ≠ 0)
  have restLt := Int.emod_lt_of_pos ⌊exact⌋ (by omega : 0 < 2 * half)
  generalize ⌊exact⌋ / (2 * half) = lower at cutSplit ⊢
  generalize ⌊exact⌋ % (2 * half) = rest at cutSplit restNonneg restLt ⊢
  have cutEq : (⌊exact⌋ : ℚ) = 2 * half * lower + rest := by
    exact_mod_cast cutSplit.symm
  have exactEq :
      exact = 2 * half * lower + (rest + Int.fract exact) := by
    linarith
  have restNonnegCast : (0 : ℚ) ≤ rest := by exact_mod_cast restNonneg
  have nextLe : (rest : ℚ) + 1 ≤ 2 * half := by exact_mod_cast restLt
  have excess : (⌊exact⌋ : ℚ) ≠ exact ↔ 0 < Int.fract exact := by
    rw [Int.fract_pos, ne_comm]
  have exactRounded :
      nearestEven
          ((2 * half * lower + (rest + Int.fract exact)) / (2 * half)) =
        _ :=
    nearestEven_div lower half (by linarith) (by linarith)
  have cutRounded :=
    nearestEven_div lower half restNonnegCast (by linarith)
  rw [← exactEq] at exactRounded
  rw [← cutEq] at cutRounded
  rw [exactRounded, cutRounded]
  simp only [excess, Int.even_iff]
  -- Only a rest in the middle leaves it to the fraction which way to go.
  rcases lt_trichotomy rest half with below | middle | above
  · have nextBelow : (rest : ℚ) + 1 ≤ half := by exact_mod_cast below
    rw [if_pos (by linarith), if_pos (by linarith),
      if_neg fun lost => below.ne lost.1, add_zero]
  · subst middle
    rcases fraction.eq_or_lt with none | some
    · simp [← none]
    · rw [if_neg (by linarith), if_pos (by linarith), if_neg (lt_irrefl _),
        if_neg (lt_irrefl _)]
      simp only [true_and, some]
      split_ifs <;> omega
  · have nextAbove : (half : ℚ) + 1 ≤ rest := by exact_mod_cast above
    rw [if_neg (by linarith), if_pos (by linarith), if_neg (by linarith),
      if_pos (by linarith), if_neg fun lost => above.ne' lost.1, add_zero]

end Coinage.Rounding
