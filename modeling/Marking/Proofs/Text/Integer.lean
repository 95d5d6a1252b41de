import Marking.Proofs.Text.Trimming
import Marking.Text.Basic

-- Integers of 64 bits read back from their decimal text, in which there is nothing but digits
-- and the sign.

namespace Marking.Text

variable {c : Char} {text : Text}

theorem isSpace_digit (digit : isAsciiDigit c = true) : isSpace c = false := by
  obtain ⟨low,high⟩ : '0' ≤ c ∧ c ≤ '9' := by simpa [isAsciiDigit] using digit
  have low : 48 ≤ c.toNat := low
  have high : c.toNat ≤ 57 := high
  simp only [isSpace,inSpans,spaceSpans,Span.anyHolds]
  grind

theorem digits_ofNat (n : Nat) : ∀ c ∈ ofNat n, isAsciiDigit c = true :=
  fun c member => Nat.isDigit_of_mem_toDigits (by decide) (by decide) member

theorem cut_digits {digits rest : Text} (valid : ∀ c ∈ digits, isAsciiDigit c = true)
    (ends : ∀ c ∈ rest.head?, isAsciiDigit c = false) :
    (digits ++ rest).takeWhile isAsciiDigit = digits ∧ (digits ++ rest).dropWhile isAsciiDigit = rest := by
  rw [List.takeWhile_append_of_pos valid,List.dropWhile_append_of_pos valid]
  cases rest with
  | nil => simp
  | cons c rest => simp [ends c rfl]

theorem digitsValue_ofNat (n : Nat) : digitsValue (ofNat n) = n := by
  have value : Nat.ofDigitChars 10 (Nat.toDigits 10 n) 0 = n := Nat.ofDigitChars_ten_toDigits
  rwa [Nat.ofDigitChars_eq_foldl] at value

theorem ofNat_concat {n : Nat} (large : 10 ≤ n) : ofNat n = ofNat (n / 10) ++ [Nat.digitChar (n % 10)] :=
  Nat.toDigits_of_base_le (by decide) large

theorem ofNat_head_zero {n : Nat} (zero : (ofNat n).head? = some '0') : n = 0 := by
  induction n using Nat.strongRecOn with
  | ind n ih =>
    by_cases small : n < 10
    · have single : ofNat n = [Nat.digitChar n] := Nat.toDigits_of_lt_base small
      rw [single] at zero
      have digits : ∀ d < 10, Nat.digitChar d = '0' → d = 0 := by decide
      exact digits n small (Option.some.inj zero)
    · have split := ofNat_concat (Nat.not_lt.mp small)
      have nonempty : ofNat (n / 10) ≠ [] := Nat.toDigits_ne_nil
      rw [split,List.head?_append_of_ne_nil _ nonempty] at zero
      have front := ih (n / 10) (by omega) zero
      omega

theorem digit_le (digit : isAsciiDigit c = true) : c.toNat - '0'.toNat ≤ 9 := by
  obtain ⟨_,high⟩ : '0' ≤ c ∧ c ≤ '9' := by simpa [isAsciiDigit] using digit
  exact Nat.sub_le_sub_right (m := 57) high 48

theorem foldl_digits_lt (digits : ∀ c ∈ text, isAsciiDigit c = true) (start : Nat) :
    text.foldl (fun value c => 10 * value + (c.toNat - '0'.toNat)) start < (start + 1) * Nat.pow 10 text.length := by
  induction text generalizing start with
  | nil => simp
  | cons c text ih =>
    obtain ⟨first,others⟩ := List.forall_mem_cons.mp digits
    have digit := digit_le first
    have grown : 10 * start + (c.toNat - '0'.toNat) + 1 ≤ (start + 1) * 10 := by omega
    have whole : (start + 1) * Nat.pow 10 (c :: text).length = (start + 1) * 10 * Nat.pow 10 text.length := by
      rw [Nat.mul_assoc]
      exact congrArg _ Nat.pow_succ'
    rw [List.foldl_cons,whole]
    exact Nat.lt_of_lt_of_le (ih others _) (Nat.mul_le_mul_right _ grown)

theorem digitsValue_lt (digits : ∀ c ∈ text, isAsciiDigit c = true) : digitsValue text < Nat.pow 10 text.length := by
  have bound := foldl_digits_lt digits 0
  rw [Nat.zero_add,Nat.one_mul] at bound
  exact bound

theorem digitsValue_concat (text : Text) (c : Char) :
    digitsValue (text ++ [c]) = 10 * digitsValue text + (c.toNat - '0'.toNat) := List.foldl_append

theorem digit_of_value {n : Nat} (digit : isAsciiDigit c = true) (value : c.toNat - '0'.toNat = n) :
    c = Char.ofNat (48 + n) := by
  obtain ⟨low,_⟩ : '0' ≤ c ∧ c ≤ '9' := by simpa [isAsciiDigit] using digit
  have low : 48 ≤ c.toNat := low
  have value : c.toNat - 48 = n := value
  have code : 48 + n = c.toNat := by omega
  rw [code,Char.ofNat_toNat]

theorem digitsValue_eq_zero_iff (digits : ∀ c ∈ text, isAsciiDigit c = true) :
    digitsValue text = 0 ↔ ∀ c ∈ text, c = '0' := by
  induction text using List.reverseRecOn with
  | nil => simp [digitsValue]
  | append_singleton front c ih =>
    obtain ⟨others,last⟩ := List.forall_mem_append.mp digits
    have digit : isAsciiDigit c = true := last c (List.mem_singleton_self c)
    rw [digitsValue_concat,List.forall_mem_append,List.forall_mem_singleton,← ih others]
    constructor
    · intro zero
      exact ⟨by omega,digit_of_value (n := 0) digit (by omega)⟩
    · intro zero
      obtain ⟨front,single⟩ := zero
      rw [front,single]
      rfl

-- The decimal text of a number, with any number of zeros in front.
def SpellsNat (text : Text) (n : Nat) : Prop := ∃ zeros, text = zeros ++ ofNat n ∧ ∀ c ∈ zeros, c = '0'

theorem digitsValue_zeros {zeros : Text} (zero : ∀ c ∈ zeros, c = '0') (text : Text) :
    digitsValue (zeros ++ text) = digitsValue text := by
  have none : digitsValue zeros = 0 := by
    refine (digitsValue_eq_zero_iff ?_).mpr zero
    intro c member
    rw [zero c member]
    decide
  unfold digitsValue at none ⊢
  rw [List.foldl_append,none]

theorem digitChar_value (digit : isAsciiDigit c = true) : Nat.digitChar (c.toNat - '0'.toNat) = c := by
  have digits : ∀ d < 10, Nat.digitChar d = Char.ofNat (48 + d) := by decide
  rw [digits _ (Nat.lt_succ_of_le (digit_le digit))]
  exact (digit_of_value digit rfl).symm

theorem ofNat_single (digit : isAsciiDigit c = true) : ofNat (c.toNat - '0'.toNat) = [c] := by
  have single : ofNat (c.toNat - '0'.toNat) = [Nat.digitChar (c.toNat - '0'.toNat)] :=
    Nat.toDigits_of_lt_base (Nat.lt_succ_of_le (digit_le digit))
  rw [single,digitChar_value digit]

theorem ofNat_digit {n : Nat} (positive : 0 < n) (digit : isAsciiDigit c = true) :
    ofNat (10 * n + (c.toNat - '0'.toNat)) = ofNat n ++ [c] := by
  have small := digit_le digit
  have shown := digitChar_value digit
  generalize c.toNat - '0'.toNat = d at small shown
  have quotient : (10 * n + d) / 10 = n := by omega
  have remainder : (10 * n + d) % 10 = d := by omega
  rw [ofNat_concat (by omega),quotient,remainder,shown]

theorem ofNat_ten_mul {n : Nat} (positive : 0 < n) : ofNat (10 * n) = ofNat n ++ ['0'] :=
  ofNat_digit (c := '0') positive (by decide)

theorem spellsNat_digitsValue (nonempty : text ≠ []) (digits : ∀ c ∈ text, isAsciiDigit c = true) :
    SpellsNat text (digitsValue text) := by
  induction text using List.reverseRecOn with
  | nil => exact absurd rfl nonempty
  | append_singleton front c ih =>
    obtain ⟨others,last⟩ := List.forall_mem_append.mp digits
    have digit : isAsciiDigit c = true := last c (List.mem_singleton_self c)
    rw [digitsValue_concat]
    -- With nothing but zeros before it the last digit is the number, and else it goes behind the one so far.
    by_cases zero : digitsValue front = 0
    · refine ⟨front,?_,(digitsValue_eq_zero_iff others).mp zero⟩
      rw [zero,Nat.mul_zero,Nat.zero_add,ofNat_single digit]
    · have some : front ≠ [] := fun empty => zero (congrArg digitsValue empty)
      obtain ⟨zeros,split,zeroed⟩ := ih some others
      refine ⟨zeros,?_,zeroed⟩
      rw [ofNat_digit (Nat.pos_of_ne_zero zero) digit,← List.append_assoc,← split]

theorem spellsNat_iff {n : Nat} : SpellsNat text n ↔
    text ≠ [] ∧ (∀ c ∈ text, isAsciiDigit c = true) ∧ digitsValue text = n := by
  constructor
  · intro spelled
    obtain ⟨zeros,rfl,zero⟩ := spelled
    refine ⟨?_,?_,?_⟩
    · exact List.append_ne_nil_of_right_ne_nil _ Nat.toDigits_ne_nil
    · intro c member
      rcases List.mem_append.mp member with front | digit
      · rw [zero c front]
        decide
      · exact digits_ofNat n c digit
    · rw [digitsValue_zeros zero,digitsValue_ofNat]
  · intro number
    obtain ⟨nonempty,digits,value⟩ := number
    rw [← value]
    exact spellsNat_digitsValue nonempty digits

theorem digitsValue_eq_one_iff (digits : ∀ c ∈ text, isAsciiDigit c = true) :
    digitsValue text = 1 ↔ ∃ zeros, text = zeros ++ ['1'] ∧ ∀ c ∈ zeros, c = '0' := by
  have single : ofNat 1 = ['1'] := rfl
  have spelled : SpellsNat text 1 ↔ digitsValue text = 1 := by
    rw [spellsNat_iff]
    refine ⟨fun number => number.2.2,fun one => ⟨?_,digits,one⟩⟩
    intro empty
    rw [empty] at one
    cases one
  rw [← spelled,SpellsNat,single]

theorem boundedValue_eq {bound : Nat} (positive : 0 < bound) (digits : Text) :
    boundedValue? bound digits = if digitsValue digits < bound then some (digitsValue digits) else none := by
  induction digits using List.reverseRecOn with
  | nil => exact (if_pos positive).symm
  | append_singleton front c ih =>
    unfold boundedValue? at ih ⊢
    rw [List.foldlM_append,ih,digitsValue_concat]
    -- A number that is too large stays so with more digits.
    by_cases below : digitsValue front < bound
    · rw [if_pos below]
      simp only [Option.bind_eq_bind,Option.bind_some,List.foldlM_cons,List.foldlM_nil]
      split <;> rfl
    · rw [if_neg below,if_neg (by omega)]
      rfl

theorem readNat_eq_some_iff {n : Nat} : readNat? text = some n ↔
    text ≠ [] ∧ (∀ c ∈ text, isAsciiDigit c = true) ∧ digitsValue text = n := by
  simp [readNat?,and_assoc]

theorem readNat_ofNat (n : Nat) : readNat? (ofNat n) = some n :=
  readNat_eq_some_iff.mpr ⟨Nat.toDigits_ne_nil,digits_ofNat n,digitsValue_ofNat n⟩

theorem fitsInt64_iff {n : Int} :
    fitsInt64 n = true ↔ -9223372036854775808 ≤ n ∧ n < 9223372036854775808 := by
  have limit : Int.pow 2 63 = 9223372036854775808 := by decide
  rw [fitsInt64,limit,Bool.and_eq_true,decide_eq_true_iff,decide_eq_true_iff]

theorem toInt64_toInt (n : Int64) : toInt64? n.toInt = some n := by
  have low : -Int.pow 2 63 ≤ n.toInt := n.le_toInt
  have high : n.toInt < Int.pow 2 63 := n.toInt_lt
  have fits : fitsInt64 n.toInt = true :=
    (Bool.and_eq_true_iff ..).mpr ⟨decide_eq_true low,decide_eq_true high⟩
  rw [toInt64?,if_pos fits,Int64.ofInt_toInt]

theorem toInt64_eq_some_iff {n : Int} {found : Int64} : toInt64? n = some found ↔ n = found.toInt := by
  constructor
  · intro fits
    unfold toInt64? at fits
    split at fits
    · rename_i bounds
      obtain ⟨low,high⟩ := fitsInt64_iff.mp bounds
      cases fits
      exact (Int64.toInt_ofInt_of_le (by omega) (by omega)).symm
    · cases fits
  · intro same
    rw [same]
    exact toInt64_toInt found

theorem readInt64_digits (digits : ∀ c ∈ text, isAsciiDigit c = true) :
    readInt64? text = (readNat? text).bind fun n => toInt64? n := by
  unfold readInt64?
  split
  · exact absurd (digits '-' (List.mem_cons_self ..)) (by decide)
  · exact absurd (digits '+' (List.mem_cons_self ..)) (by decide)
  · rfl

theorem readInt64_ofInt (n : Int64) : readInt64? (ofInt n.toInt) = some n := by
  have whole := toInt64_toInt n
  cases value : n.toInt with
  | ofNat k =>
    rw [value] at whole
    rw [ofInt,readInt64_digits (digits_ofNat k),readNat_ofNat,Option.bind_some]
    exact whole
  | negSucc k =>
    rw [value] at whole
    rw [ofInt,readInt64?,readNat_ofNat,Option.bind_some]
    exact whole

theorem mem_ofInt {n : Int} (member : c ∈ ofInt n) : c = '-' ∨ isAsciiDigit c = true := by
  cases n with
  | ofNat k => exact .inr (digits_ofNat k c member)
  | negSucc k =>
    rcases List.mem_cons.mp member with sign | digit
    · exact .inl sign
    · exact .inr (digits_ofNat (k + 1) c digit)

theorem ofInt_ne_nil (n : Int) : ofInt n ≠ [] := by
  cases n with
  | ofNat k => exact Nat.toDigits_ne_nil
  | negSucc k => exact List.cons_ne_nil _ _

theorem not_mem_ofInt {n : Int} (sign : c ≠ '-') (digit : isAsciiDigit c = false) : c ∉ ofInt n := by
  intro member
  rcases mem_ofInt member with same | other
  · exact sign same
  · rw [digit] at other
    cases other

theorem isSpace_ofInt {n : Int} (member : c ∈ ofInt n) : isSpace c = false := by
  rcases mem_ofInt member with rfl | digit
  · decide
  · exact isSpace_digit digit

theorem trim_ofInt (n : Int) : trim (ofInt n) = ofInt n := trim_eq_self fun _ => isSpace_ofInt

end Marking.Text
