import Marking.Binary64
import Mathlib.Data.Nat.Digits.Defs

-- Decimals with few digits: scaling them in steps is exact until the last one, so that the result is the
-- nearest double.

namespace Marking.Binary64

variable {n d m e c a b x y k : Nat} {exponent : Int} {negative : Bool} {value factor divisor : Binary64}

def two (k : Nat) : Nat := Nat.pow 2 k

theorem two_succ (k : Nat) : two (k + 1) = 2 * two k := Nat.mul_comm ..

theorem two_add (j k : Nat) : two (j + k) = two j * two k := Nat.pow_add ..

theorem two_pos (k : Nat) : 0 < two k := Nat.pow_pos Nat.zero_lt_two

-- Which number is nearest depends on the quotient alone. What is needed of this is that a power of two
-- may be cancelled.

theorem roundHalfEven_double (n d : Nat) : roundHalfEven (2 * n) (2 * d) = roundHalfEven n d := by
  unfold roundHalfEven
  rw [Nat.mul_div_mul_left _ _ Nat.zero_lt_two,Nat.mul_mod_mul_left]
  have less : 2 * (2 * (n % d)) < 2 * d ↔ 2 * (n % d) < d := by omega
  have same : 2 * (2 * (n % d)) = 2 * d ↔ 2 * (n % d) = d := by omega
  simp only [less,same]

theorem ofRatio_double (some : n ≠ 0) (divides : d ≠ 0) :
    ofRatio negative (2 * n) (2 * d) = ofRatio negative n d := by
  unfold ofRatio
  have guess : ((2 * n).log2 : Int) - (2 * d).log2 - 52 = (n.log2 : Int) - d.log2 - 52 := by
    rw [Nat.log2_two_mul some,Nat.log2_two_mul divides]
    omega
  have less (u v : Nat) : 2 * n * u < Nat.pow 2 52 * (2 * d * v) ↔ n * u < Nat.pow 2 52 * (d * v) := by
    rw [Nat.mul_assoc,Nat.mul_assoc,Nat.mul_left_comm (Nat.pow 2 52)]
    omega
  have rounded (u v : Nat) : roundHalfEven (2 * n * u) (2 * d * v) = roundHalfEven (n * u) (d * v) := by
    rw [Nat.mul_assoc,Nat.mul_assoc,roundHalfEven_double]
  simp only [guess,less,rounded]

theorem ofRatio_shift (some : n ≠ 0) (divides : d ≠ 0) (k : Nat) :
    ofRatio negative (n * two k) (d * two k) = ofRatio negative n d := by
  induction k with
  | zero => simp [two]
  | succ k ih =>
    rw [two_succ,Nat.mul_left_comm,Nat.mul_left_comm d,ofRatio_double,ih]
    · exact Nat.mul_ne_zero some (two_pos k).ne'
    · exact Nat.mul_ne_zero divides (two_pos k).ne'

theorem ofRatio_shifted (some : m ≠ 0) (divides : e ≠ 0) (above : n * two x = m * two y)
    (below : d * two x = e * two y) : ofRatio negative n d = ofRatio negative m e := by
  have other : n ≠ 0 := by
    rintro rfl
    rw [Nat.zero_mul] at above
    exact Nat.mul_ne_zero some (two_pos y).ne' above.symm
  have divisor : d ≠ 0 := by
    rintro rfl
    rw [Nat.zero_mul] at below
    exact Nat.mul_ne_zero divides (two_pos y).ne' below.symm
  rw [← ofRatio_shift other divisor x,above,below,ofRatio_shift some divides]

theorem power_natural (k : Nat) : power 2 (k : Int) = (two k,1) := rfl

theorem power_negative (k : Nat) : power 2 (-(k : Int)) = (1,two k) := by
  cases k <;> rfl

theorem power_difference (x y : Nat) :
    ∃ k, (power 2 ((x : Int) - y)).1 * two y = two k ∧ (power 2 ((x : Int) - y)).2 * two x = two k := by
  rcases Nat.le_total y x with less | less
  · obtain ⟨k,rfl⟩ := Nat.exists_eq_add_of_le less
    have difference : ((y + k : Nat) : Int) - y = (k : Int) := by omega
    rw [difference,power_natural]
    exact ⟨y + k,by rw [Nat.add_comm,two_add],Nat.one_mul _⟩
  · obtain ⟨k,rfl⟩ := Nat.exists_eq_add_of_le less
    have difference : (x : Int) - (x + k : Nat) = -(k : Int) := by omega
    rw [difference,power_negative]
    exact ⟨x + k,Nat.one_mul _,by rw [Nat.add_comm,two_add]⟩

-- A number that is a positive whole number, without rounding.
def Exact (value : Binary64) (c : Nat) : Prop :=
  ∃ a x y : Nat, value = .finite false a ((x : Int) - y) ∧ a ≠ 0 ∧ a * two x = c * two y

theorem ofRatio_whole (some : c ≠ 0) (top : c.log2 + k = 52) :
    ofRatio negative c 1 = .finite negative (c * two k) (-(k : Int)) := by
  have low : two 52 ≤ c * two k := by
    rw [← top,two_add]
    exact Nat.mul_le_mul_right _ (Nat.log2_self_le some)
  have high : c * two k < two 53 := by
    have full : c.log2 + 1 + k = 53 := by omega
    rw [← full,two_add]
    exact Nat.mul_lt_mul_of_pos_right Nat.lt_log2_self (two_pos k)
  have guess : (c.log2 : Int) - Nat.log2 1 - 52 = -(k : Int) := by
    have one : Nat.log2 1 = 0 := by decide
    omega
  have above : ¬ c * two k < Nat.pow 2 52 * (1 * 1) := Nat.not_lt.mpr low
  have below : c * two k ≠ Nat.pow 2 53 := Nat.ne_of_lt high
  have least : max (-(k : Int)) leastExponent = -(k : Int) := by
    unfold leastExponent
    omega
  have greatest : ¬ -(k : Int) > greatestExponent := by
    unfold greatestExponent
    omega
  have rounded : roundHalfEven (c * two k) (1 * 1) = c * two k := by
    simp [roundHalfEven,Nat.mod_one]
  simp only [ofRatio,guess,power_negative,above,if_false,least,rounded,below,greatest]

theorem exact_small (some : c ≠ 0) (few : c < Nat.pow 2 53) : Exact (nearest c 1) c := by
  have bound : c.log2 < 53 := (Nat.log2_lt some).mpr few
  obtain ⟨k,top⟩ : ∃ k, c.log2 + k = 52 := ⟨52 - c.log2,by omega⟩
  refine ⟨c * two k,0,k,?_,Nat.mul_ne_zero some (two_pos k).ne',Nat.mul_one _⟩
  rw [nearest,if_neg some,ofRatio_whole some top]
  simp

theorem exact_one : Exact one 1 := exact_small Nat.one_ne_zero (by decide)

-- Each power of ten up to the twenty-second has few enough odd digits.
def holdsPower (n : Nat) : Bool :=
  match powerOfTen n with
  | .finite false a exponent => a != 0 && a * (power 2 exponent).1 == Nat.pow 10 n * (power 2 exponent).2
  | _ => false

theorem exact_power (small : n ≤ 22) : Exact (powerOfTen n) (Nat.pow 10 n) := by
  have all : (List.range 23).all holdsPower = true := by decide +kernel
  have holds : holdsPower n = true := List.all_eq_true.mp all n (List.mem_range.mpr (by omega))
  unfold holdsPower at holds
  split at holds
  · rename_i a exponent found
    obtain ⟨some,same⟩ : a ≠ 0 ∧ a * (power 2 exponent).1 = Nat.pow 10 n * (power 2 exponent).2 := by simpa using holds
    rw [found]
    cases exponent with
    | ofNat k => exact ⟨a,k,0,by simp,some,same⟩
    | negSucc k => exact ⟨a,0,k + 1,by congr 1,some,same⟩
  · cases holds

-- Only the result is rounded.
theorem scale_exact (first : Exact value c) (second : Exact factor a) (third : Exact divisor b) (some : c * a ≠ 0)
    (divides : b ≠ 0) : value.scale factor divisor = ofRatio false (c * a) b := by
  obtain ⟨a₁,x₁,y₁,rfl,some₁,same₁⟩ := first
  obtain ⟨a₂,x₂,y₂,rfl,some₂,same₂⟩ := second
  obtain ⟨a₃,x₃,y₃,rfl,some₃,same₃⟩ := third
  have sum : ((x₁ : Int) - y₁) + ((x₂ : Int) - y₂) - ((x₃ : Int) - y₃) =
      ((x₁ + x₂ + y₃ : Nat) : Int) - (y₁ + y₂ + x₃ : Nat) := by omega
  obtain ⟨k,up,down⟩ := power_difference (x₁ + x₂ + y₃) (y₁ + y₂ + x₃)
  simp only [scale,sum]
  generalize power 2 (((x₁ + x₂ + y₃ : Nat) : Int) - (y₁ + y₂ + x₃ : Nat)) = unit at up down ⊢
  have above : a₁ * a₂ * unit.1 * two ((y₁ + y₂ + x₃) + (x₁ + x₂ + y₃)) = c * a * two (y₁ + y₂ + y₃ + k) :=
    calc a₁ * a₂ * unit.1 * two ((y₁ + y₂ + x₃) + (x₁ + x₂ + y₃))
      _ = (a₁ * two x₁) * (a₂ * two x₂) * two y₃ * (unit.1 * two (y₁ + y₂ + x₃)) := by
        simp only [two_add]
        ac_rfl
      _ = (c * two y₁) * (a * two y₂) * two y₃ * two k := by rw [same₁,same₂,up]
      _ = c * a * two (y₁ + y₂ + y₃ + k) := by
        simp only [two_add]
        ac_rfl
  have below : a₃ * unit.2 * two ((y₁ + y₂ + x₃) + (x₁ + x₂ + y₃)) = b * two (y₁ + y₂ + y₃ + k) :=
    calc a₃ * unit.2 * two ((y₁ + y₂ + x₃) + (x₁ + x₂ + y₃))
      _ = (a₃ * two x₃) * two y₁ * two y₂ * (unit.2 * two (x₁ + x₂ + y₃)) := by
        simp only [two_add]
        ac_rfl
      _ = (b * two y₃) * two y₁ * two y₂ * two k := by rw [same₃,down]
      _ = b * two (y₁ + y₂ + y₃ + k) := by
        simp only [two_add]
        ac_rfl
  have positive : a₁ * a₂ * unit.1 ≠ 0 := by
    intro zero
    rw [zero,Nat.zero_mul] at above
    exact Nat.mul_ne_zero some (two_pos _).ne' above.symm
  rw [nearest,if_neg positive,ofRatio_shifted some divides above below]

theorem scale_zero (second : Exact factor a) (third : Exact divisor b) : zero.scale factor divisor = zero := by
  obtain ⟨a₂,x₂,y₂,rfl,_,_⟩ := second
  obtain ⟨a₃,x₃,y₃,rfl,_,_⟩ := third
  simp [scale,zero,nearest]

theorem ofRatio_finite (bound : n.log2 ≤ 200) : (ofRatio negative n d).isFinite = true := by
  unfold ofRatio
  extract_lets scaled guess exact exponent significand rounded
  have high : rounded.2 ≤ greatestExponent := by
    unfold greatestExponent
    have first : guess ≤ 200 := by omega
    have second : exact ≤ 200 := by
      unfold exact
      split <;> omega
    have third : exponent ≤ 200 := by
      unfold exponent leastExponent
      omega
    unfold rounded
    split
    · change exponent + 1 ≤ 971
      omega
    · change exponent ≤ 971
      omega
  rw [if_neg (Int.not_lt.mpr high)]
  rfl

theorem ofRatio_negative (n d : Nat) : ofRatio true n d = (ofRatio false n d).negate := by
  unfold ofRatio
  extract_lets scaled guess exact exponent significand rounded
  split <;> rfl

theorem ofDecimal_negative (c : Nat) (exponent : Int) :
    ofDecimal true c exponent = (ofDecimal false c exponent).negate := by
  unfold ofDecimal
  extract_lets magnitude ten
  split
  · rfl
  · split
    · rfl
    · exact ofRatio_negative _ _

-- So many digits and such powers that every step is exact.
def IsShort (c : Nat) (exponent : Int) : Prop := c < Nat.pow 2 53 ∧ -22 ≤ exponent ∧ exponent ≤ 22

theorem ofDecimal_short (short : IsShort c exponent) (some : c ≠ 0) :
    ofDecimal negative c exponent = ofRatio negative (c * (power 10 exponent).1) (power 10 exponent).2 := by
  obtain ⟨few,low,high⟩ := short
  have length : (Text.ofNat c).length ≤ 16 := Nat.toDigits_length 10 c 16 (by decide) (by
    have : Nat.pow 2 53 < 10 ^ 16 := by decide
    omega)
  unfold ofDecimal
  extract_lets magnitude ten
  have above : ¬ (c = 0 ∨ magnitude < -330) := by
    rintro (zero | less)
    · exact some zero
    · omega
  have below : ¬ magnitude > 310 := by omega
  rw [if_neg above,if_neg below]

theorem ofDecimal_finite (few : c < Nat.pow 2 53) (up : n ≤ 22) : (ofDecimal negative c n).isFinite = true := by
  by_cases zero : c = 0
  · simp [ofDecimal,zero,isFinite]
  · have some : c * Nat.pow 10 n ≠ 0 := Nat.mul_ne_zero zero (Nat.pow_pos (by decide)).ne'
    have bound : c * Nat.pow 10 n < 2 ^ 200 :=
      calc c * Nat.pow 10 n
        _ ≤ Nat.pow 2 53 * Nat.pow 10 22 := Nat.mul_le_mul few.le (Nat.pow_le_pow_right (by decide) up)
        _ < 2 ^ 200 := by decide
    rw [ofDecimal_short ⟨few,by omega,by omega⟩ zero]
    exact ofRatio_finite ((Nat.log2_lt some).mpr bound).le

theorem scaled_short (short : IsShort c exponent) : scaled? c exponent = some (ofDecimal false c exponent) := by
  obtain ⟨few,low,high⟩ := short
  cases exponent with
  | ofNat n =>
    have up : n ≤ 22 := Int.ofNat_le.mp high
    have range : n ≤ greatestPower := by
      unfold greatestPower
      omega
    have value : (nearest c 1).scale (powerOfTen n) one = ofDecimal false c (.ofNat n) := by
      by_cases zero : c = 0
      · subst zero
        exact scale_zero (exact_power up) exact_one
      · have some : c * Nat.pow 10 n ≠ 0 := Nat.mul_ne_zero zero (Nat.pow_pos (by decide)).ne'
        rw [scale_exact (exact_small zero few) (exact_power up) exact_one some Nat.one_ne_zero]
        exact (ofDecimal_short ⟨few,low,high⟩ zero).symm
    have finite : (ofDecimal false c (.ofNat n)).isFinite = true := ofDecimal_finite few up
    simp only [scaled?,range,if_true,value,finite]
  | negSucc n =>
    have down : n + 1 ≤ 22 := by omega
    have count : n / greatestPower = 0 := Nat.div_eq_of_lt (by unfold greatestPower; omega)
    have rest : n % greatestPower = n := Nat.mod_eq_of_lt (by unfold greatestPower; omega)
    have value : (nearest c 1).scale one (powerOfTen (n + 1)) = ofDecimal false c (.negSucc n) := by
      by_cases zero : c = 0
      · subst zero
        exact scale_zero exact_one (exact_power down)
      · have some : c * 1 ≠ 0 := by omega
        rw [scale_exact (exact_small zero few) exact_one (exact_power down) some (Nat.pow_pos (by decide)).ne']
        exact (ofDecimal_short ⟨few,low,high⟩ zero).symm
    simp only [scaled?,count,rest,shrink,value]

end Marking.Binary64
