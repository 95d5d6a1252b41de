import Marking.Json
import Marking.Proofs.Binary64.Short
import Marking.Proofs.Text.Integer

-- Numbers in JSON: which ones are integers, which double is nearest to one, and for which ones the reader
-- finds it.

namespace Marking.Json

namespace Number

-- A number is its digits, without the point, times ten to a power.
def coefficient (number : Number) : Nat := Text.digitsValue (number.whole ++ number.fraction.getD [])

def tens (number : Number) : Int :=
  match number.exponent with
  | none => 0
  | some (negative,digits) => if negative then -(Text.digitsValue digits : Int) else Text.digitsValue digits

def power (number : Number) : Int := number.tens - (number.fraction.getD []).length

def nearest (number : Number) : Binary64 := Binary64.ofDecimal number.negative number.coefficient number.power

-- What a reader of numbers is expected to do. The one in use rounds more than once, so it does this
-- for some numbers only.
def ReadsNearest (number : Number) : Prop := number.binary64? = some number.nearest

variable {number : Number} {coefficient : Nat} {digits : Text}

def valueFrom (coefficient : Nat) (digits : Text) : Nat :=
  digits.foldl (fun value c => 10 * value + (c.toNat - '0'.toNat)) coefficient

theorem valueFrom_ge (coefficient : Nat) (digits : Text) : coefficient ≤ valueFrom coefficient digits := by
  induction digits generalizing coefficient with
  | nil => exact Nat.le_refl _
  | cons c digits ih =>
    have next := ih (10 * coefficient + (c.toNat - '0'.toNat))
    change coefficient ≤ valueFrom (10 * coefficient + (c.toNat - '0'.toNat)) digits
    omega

theorem gather_all (fits : valueFrom coefficient digits < Nat.pow 2 64) :
    gather coefficient digits = (valueFrom coefficient digits,[]) := by
  induction digits generalizing coefficient with
  | nil => rfl
  | cons c digits ih =>
    have next : 10 * coefficient + (c.toNat - '0'.toNat) < Nat.pow 2 64 :=
      Nat.lt_of_le_of_lt (valueFrom_ge _ digits) fits
    rw [gather,if_pos next]
    exact ih fits

theorem readsNearest_short (short : Binary64.IsShort number.coefficient number.power) : number.ReadsNearest := by
  have all : valueFrom (valueFrom 0 number.whole) (number.fraction.getD []) = number.coefficient :=
    (List.foldl_append ..).symm
  have fits : valueFrom (valueFrom 0 number.whole) (number.fraction.getD []) < Nat.pow 2 64 := by
    rw [all]
    exact Nat.lt_trans short.1 (by decide)
  have first := gather_all (Nat.lt_of_le_of_lt (valueFrom_ge ..) fits)
  have second := gather_all fits
  rw [all] at second
  have power : number.tens + (0 : Nat) - ((number.fraction.getD []).length - 0 : Nat) = number.power := by
    simp [power]
  unfold ReadsNearest binary64?
  simp only [first,second]
  change (Binary64.scaled? number.coefficient
    (number.tens + (0 : Nat) - ((number.fraction.getD []).length - 0 : Nat))).bind _ = _
  rw [power,Binary64.scaled_short short,nearest]
  cases number.negative with
  | false => rfl
  | true => exact congrArg some (Binary64.ofDecimal_negative ..).symm

end Number

-- An integer without a fraction and an exponent. Zero has no sign.
def IsInt (n : Int64) (json : Json) : Prop :=
  ∃ whole, json = .number ⟨decide (n.toInt < 0),whole,none,none⟩ ∧ Text.digitsValue whole = n.toInt.natAbs

theorem int_iff {n : Int64} {json : Json} : json.int64? = some n ↔ IsInt n json := by
  constructor
  · intro read
    obtain ⟨⟨negative,whole,fraction,exponent⟩,rfl⟩ : ∃ number, json = .number number := by
      cases json with
      | number number => exact ⟨number,rfl⟩
      | null | bool | string | array | object => cases read
    simp only [int64?,Number.int64?] at read
    obtain rfl : fraction = none := by
      cases fraction with
      | none => rfl
      | some digits => cases read
    obtain rfl : exponent = none := by
      cases exponent with
      | none => rfl
      | some digits => cases read
    cases negative with
    | false =>
      rw [if_neg Bool.false_ne_true] at read
      have value : (Text.digitsValue whole : Int) = n.toInt := Text.toInt64_eq_some_iff.mp read
      have above : ¬ n.toInt < 0 := by omega
      exact ⟨whole,by rw [decide_eq_false above],by omega⟩
    | true =>
      rw [if_pos rfl] at read
      by_cases zero : (Text.digitsValue whole : Int) = 0
      · rw [if_pos zero] at read
        cases read
      · rw [if_neg zero] at read
        have value : -(Text.digitsValue whole : Int) = n.toInt := Text.toInt64_eq_some_iff.mp read
        have below : n.toInt < 0 := by omega
        exact ⟨whole,by rw [decide_eq_true below],by omega⟩
  · intro given
    obtain ⟨whole,rfl,size⟩ := given
    simp only [int64?,Number.int64?,size]
    by_cases negative : n.toInt < 0
    · have value : -(n.toInt.natAbs : Int) = n.toInt := by omega
      have some : ¬ (n.toInt.natAbs : Int) = 0 := by omega
      rw [decide_eq_true negative,if_pos rfl,if_neg some,value,Text.toInt64_toInt]
    · have value : (n.toInt.natAbs : Int) = n.toInt := by omega
      rw [decide_eq_false negative,if_neg Bool.false_ne_true,value,Text.toInt64_toInt]

end Marking.Json
