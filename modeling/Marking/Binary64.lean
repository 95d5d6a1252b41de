import Marking.Text.Basic

-- Double precision numbers, exactly: which one a decimal denotes, and how one is written.

namespace Marking

-- A finite number is its significand times two to the exponent. The significand has 53
-- bits with the top one set, or the exponent is the least one.
inductive Binary64 where
  | nan
  | infinite (negative : Bool)
  | finite (negative : Bool) (significand : Nat) (exponent : Int)
  deriving DecidableEq,Repr

namespace Binary64

def leastExponent : Int := -1074

def greatestExponent : Int := 971

def zero : Binary64 := .finite false 0 leastExponent

def isFinite : Binary64 → Bool
  | .finite .. => true
  | _ => false

-- Negative zero is not below zero.
def isBelowZero : Binary64 → Bool
  | .nan => false
  | .infinite negative => negative
  | .finite negative significand _ => negative && significand != 0

-- A power as a fraction, for exponents of either sign.
def power (base : Nat) (exponent : Int) : Nat × Nat :=
  match exponent with
  | .ofNat n => (Nat.pow base n,1)
  | .negSucc n => (1,Nat.pow base (n + 1))

-- The integer nearest to a quotient; a half goes to the even neighbour.
def roundHalfEven (n d : Nat) : Nat :=
  let below := n / d
  let twice := 2 * (n % d)
  if twice < d ∨ (twice = d ∧ below % 2 = 0) then below else below + 1

-- The number nearest to the fraction `n / d`, which is not zero.
def ofRatio (negative : Bool) (n d : Nat) : Binary64 :=
  let scaled (exponent : Int) : Nat × Nat :=
    let unit := power 2 exponent
    (n * unit.2,d * unit.1)
  let guess : Int := (n.log2 : Int) - d.log2 - 52
  let exact := if (scaled guess).1 < Nat.pow 2 52 * (scaled guess).2 then guess - 1 else guess
  let exponent := max exact leastExponent
  let significand := roundHalfEven (scaled exponent).1 (scaled exponent).2
  let rounded : Nat × Int :=
    if significand = Nat.pow 2 53 then (Nat.pow 2 52,exponent + 1) else (significand,exponent)
  if rounded.2 > greatestExponent then .infinite negative else .finite negative rounded.1 rounded.2

-- The number nearest to `coefficient` times ten to the exponent. The first two cases keep
-- the exact arithmetic small: far outside the range the answer is known.
def ofDecimal (negative : Bool) (coefficient : Nat) (exponent : Int) : Binary64 :=
  let magnitude := ((Text.ofNat coefficient).length : Int) + exponent
  if coefficient = 0 ∨ magnitude < -330 then .finite negative 0 leastExponent
  else if magnitude > 310 then .infinite negative
  else
    let ten := power 10 exponent
    ofRatio negative (coefficient * ten.1) ten.2

def nearest (n d : Nat) : Binary64 := if n = 0 then zero else ofRatio false n d

-- A number times a factor, divided by a divisor and rounded once. All of them are finite and
-- not below zero.
def scale (value factor divisor : Binary64) : Binary64 :=
  match value,factor,divisor with
  | .finite _ a i,.finite _ b j,.finite _ c k =>
    let unit := power 2 (i + j - k)
    nearest (a * b * unit.1) (c * unit.2)
  | _,_,_ => nan

def one : Binary64 := nearest 1 1

def powerOfTen (n : Nat) : Binary64 := nearest (Nat.pow 10 n) 1

-- The greatest power of ten that is a number.
def greatestPower : Nat := 308

-- Divides by the greatest power so many times.
def shrink : Nat → Binary64 → Binary64
  | 0,value => value
  | count + 1,value =>
    if value = zero then zero else shrink count (value.scale one (powerOfTen greatestPower))

-- `coefficient` times ten to the exponent. Only zero can be scaled up by more than the
-- greatest power, and what would be infinite is refused.
def scaled? (coefficient : Nat) (exponent : Int) : Option Binary64 :=
  let start := nearest coefficient 1
  match exponent with
  | .ofNat n =>
    if n ≤ greatestPower then
      let value := start.scale (powerOfTen n) one
      if value.isFinite then some value else none
    else if coefficient = 0 then some zero
    else none
  | .negSucc n =>
    some ((shrink (n / greatestPower) start).scale one (powerOfTen (n % greatestPower + 1)))

def negate : Binary64 → Binary64
  | .nan => .nan
  | .infinite negative => .infinite (!negative)
  | .finite negative significand exponent => .finite (!negative) significand exponent

-- A decimal: its digits as a number, and the power of ten of the last one.
structure Decimal where
  coefficient : Nat
  exponent : Int
  deriving DecidableEq,Repr

-- The reals that round to a number, in quarters of its last place. The lower half of the
-- interval is half as wide at the foot of a power of two, and the ends belong to it where
-- the significand is even.
structure Interval where
  lower : Nat
  value : Nat
  upper : Nat
  closed : Bool
  deriving DecidableEq,Repr

def interval (significand : Nat) (exponent : Int) : Interval :=
  let foot := significand = Nat.pow 2 52 ∧ exponent > leastExponent
  ⟨4 * significand - (if foot then 1 else 2),4 * significand,4 * significand + 2,
    significand % 2 == 0⟩

-- The number of digits before the decimal point; negative counts are the zeros after it.
-- No number is so small that its first 330 decimals are all zeros.
def magnitude (significand : Nat) (exponent : Int) : Int :=
  let unit := power 2 exponent
  ((Text.ofNat (significand * unit.1 * Nat.pow 10 330 / unit.2)).length : Int) - 330

-- The decimal on the grid of ten to the exponent that reads back, the nearer one if two do,
-- and the upper one if both are equally near.
def onGrid? (significand : Nat) (exponent grid : Int) : Option Decimal :=
  let range := interval significand exponent
  let quarter := power 2 (exponent - 2)
  let ten := power 10 grid
  let point (c : Nat) : Nat := c * ten.1 * quarter.2
  let mark (quarters : Nat) : Nat := quarters * quarter.1 * ten.2
  let readsBack (c : Nat) : Bool :=
    if range.closed then mark range.lower ≤ point c && point c ≤ mark range.upper
    else mark range.lower < point c && point c < mark range.upper
  let below := mark range.value / (ten.1 * quarter.2)
  let nearer := if 2 * mark range.value < point below + point (below + 1) then below else below + 1
  if readsBack below && readsBack (below + 1) then some ⟨nearer,grid⟩
  else if readsBack below then some ⟨below,grid⟩
  else if readsBack (below + 1) then some ⟨below + 1,grid⟩
  else none

-- Seventeen digits always suffice, so the default is never reached.
def shortest (significand : Nat) (exponent : Int) : Decimal :=
  let top := magnitude significand exponent
  ((List.range 17).findSome? fun (n : Nat) => onGrid? significand exponent (top - (n + 1))).getD ⟨0,0⟩

def Decimal.text (decimal : Decimal) : Text :=
  let digits := Text.ofNat decimal.coefficient
  match decimal.exponent with
  | .ofNat n => digits ++ List.replicate n '0'
  | .negSucc n =>
    let padded := List.replicate (n + 2 - digits.length) '0' ++ digits
    let whole := padded.take (padded.length - (n + 1))
    let part := Text.dropTrailing (· == '0') (padded.drop (padded.length - (n + 1)))
    if part.isEmpty then whole else whole ++ '.' :: part

def text : Binary64 → Text
  | .nan => "NaN".toList
  | .infinite negative => if negative then "-inf".toList else "inf".toList
  | .finite negative significand exponent =>
    let magnitude := if significand = 0 then ['0'] else (shortest significand exponent).text
    if negative then '-' :: magnitude else magnitude

end Binary64
end Marking
