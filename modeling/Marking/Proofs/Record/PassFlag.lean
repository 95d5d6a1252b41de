import Marking.Proofs.Text.Integer
import Marking.Record

-- Which records pass. The flag is read as a number at its start, and the flags that are read as
-- one are known by their spelling alone.

namespace Marking.Record

inductive Sign where
  | absent
  | plus
  | minus
  deriving DecidableEq,Repr

namespace Sign

def spelling : Sign → Text
  | absent => []
  | plus => ['+']
  | minus => ['-']

def apply : Sign → Int → Int
  | minus,n => -n
  | absent,n | plus,n => n

theorem apply_either (sign : Sign) (n : Int) : sign.apply n = n ∨ sign.apply n = -n := by
  cases sign with
  | absent | plus => exact .inl rfl
  | minus => exact .inr rfl

end Sign

-- A number at the start of a text. White space and a sign may stand before its digits, and behind
-- them whatever does not go on with a digit.
structure Numeral (text : Text) where
  blanks : Text
  sign : Sign
  digits : Text
  rest : Text
  split : text = blanks ++ (sign.spelling ++ (digits ++ rest))
  blank : ∀ c ∈ blanks, Text.isSpace c = true
  nonempty : digits ≠ []
  digit : ∀ c ∈ digits, Text.isAsciiDigit c = true
  ends : ∀ c ∈ rest.head?, Text.isAsciiDigit c = false

def Numeral.value {text : Text} (numeral : Numeral text) : Int :=
  numeral.sign.apply (Text.digitsValue numeral.digits)

-- White space, a plus sign or none, any number of zeros, a one, and no digit right behind it.
def SpellsOne (text : Text) : Prop :=
  ∃ blanks sign zeros rest, text = blanks ++ (Sign.spelling sign ++ (zeros ++ '1' :: rest)) ∧
    (∀ c ∈ blanks, Text.isSpace c = true) ∧ sign ≠ .minus ∧ (∀ c ∈ zeros, c = '0') ∧
    ∀ c ∈ rest.head?, Text.isAsciiDigit c = false

-- What the digits at the start of a text stand for, where that fits into 64 bits.
def leadingNumber (text : Text) : Int :=
  let value := (Text.digitsValue (text.takeWhile Text.isAsciiDigit) : Int)
  if Text.fitsInt64 value then value else 0

variable {text blanks digits rest : Text} {d : Char}

theorem leadingNumber_bounds (text : Text) : 0 ≤ leadingNumber text ∧ leadingNumber text < 9223372036854775808 := by
  unfold leadingNumber
  dsimp only
  split
  · rename_i fits
    exact ⟨Int.natCast_nonneg _,(Text.fitsInt64_iff.mp fits).2⟩
  · decide

theorem leadingNumber_digits (valid : ∀ c ∈ digits, Text.isAsciiDigit c = true)
    (ends : ∀ c ∈ rest.head?, Text.isAsciiDigit c = false) :
    leadingNumber (digits ++ rest) =
      if Text.fitsInt64 (Text.digitsValue digits) then (Text.digitsValue digits : Int) else 0 := by
  rw [leadingNumber,(Text.cut_digits valid ends).1]

theorem leadingInteger_eq (text : Text) : leadingInteger text =
    match Text.trimStart text with
    | '-' :: digits => -leadingNumber digits
    | '+' :: digits => leadingNumber digits
    | digits => leadingNumber digits := rfl

theorem leadingInteger_cases (text : Text) :
    ∃ sign digits, Text.trimStart text = Sign.spelling sign ++ digits ∧
      leadingInteger text = sign.apply (leadingNumber digits) := by
  rw [leadingInteger_eq]
  split
  · rename_i digits start
    exact ⟨.minus,digits,start,rfl⟩
  · rename_i digits start
    exact ⟨.plus,digits,start,rfl⟩
  · exact ⟨.absent,_,rfl,rfl⟩

theorem fits_leadingInteger (text : Text) :
    Text.fitsInt64 (leadingInteger text) = true ∧ Text.fitsInt64 (-leadingInteger text) = true := by
  obtain ⟨sign,digits,_,read⟩ := leadingInteger_cases text
  have bounds := leadingNumber_bounds digits
  have either := sign.apply_either (leadingNumber digits)
  rw [Text.fitsInt64_iff,Text.fitsInt64_iff,read]
  omega

theorem leadingInteger_signed (blank : ∀ c ∈ blanks, Text.isSpace c = true) (sign : Sign)
    (digit : Text.isAsciiDigit d = true) (rest : Text) :
    leadingInteger (blanks ++ (sign.spelling ++ d :: rest)) = sign.apply (leadingNumber (d :: rest)) := by
  have solid : ∀ c ∈ (sign.spelling ++ d :: rest).head?, Text.isSpace c = false := by
    intro c first
    cases sign with
    | absent =>
      rw [← Option.some.inj first]
      exact Text.isSpace_digit digit
    | plus | minus =>
      rw [← Option.some.inj first]
      decide
  have start : Text.trimStart (blanks ++ (sign.spelling ++ d :: rest)) = sign.spelling ++ d :: rest := by
    rw [Text.trimStart,List.dropWhile_append_of_pos blank]
    exact Text.trimStart_eq_self_iff.mpr solid
  rw [leadingInteger_eq,start]
  cases sign with
  | absent =>
    rw [Sign.spelling,List.nil_append]
    split
    · rename_i same
      rw [(List.cons.inj same).1] at digit
      exact absurd digit (by decide)
    · rename_i same
      rw [(List.cons.inj same).1] at digit
      exact absurd digit (by decide)
    · rfl
  | plus | minus => simp only [Sign.spelling,Sign.apply,List.singleton_append]

theorem leadingInteger_numeral (numeral : Numeral text) :
    leadingInteger text = if Text.fitsInt64 (Text.digitsValue numeral.digits) then numeral.value else 0 := by
  obtain ⟨d,more,first⟩ := List.exists_cons_of_ne_nil numeral.nonempty
  have digit : Text.isAsciiDigit d = true := numeral.digit d (by rw [first]; exact List.mem_cons_self ..)
  have number := leadingNumber_digits numeral.digit numeral.ends
  have read : leadingInteger text = numeral.sign.apply (leadingNumber (numeral.digits ++ numeral.rest)) := by
    have signed := leadingInteger_signed numeral.blank numeral.sign digit (more ++ numeral.rest)
    rwa [← List.cons_append,← first,← numeral.split] at signed
  rw [read,number]
  split
  · rfl
  · cases numeral.sign <;> rfl

theorem exists_numeral (something : leadingInteger text ≠ 0) : Nonempty (Numeral text) := by
  obtain ⟨sign,digits,start,read⟩ := leadingInteger_cases text
  refine ⟨⟨text.takeWhile Text.isSpace,sign,digits.takeWhile Text.isAsciiDigit,digits.dropWhile Text.isAsciiDigit,?_,?_,?_,?_,?_⟩⟩
  · rw [List.takeWhile_append_dropWhile,← start]
    exact List.takeWhile_append_dropWhile.symm
  · intro c member
    exact List.mem_takeWhile_imp member
  · intro empty
    have zero : leadingNumber digits = 0 := by
      rw [leadingNumber,empty]
      rfl
    rw [read,zero] at something
    cases sign <;> exact something rfl
  · intro c member
    exact List.mem_takeWhile_imp member
  · intro c first
    have stopped := List.head?_dropWhile_not Text.isAsciiDigit digits
    rw [first] at stopped
    simpa using stopped

theorem spellsOne_iff : SpellsOne text ↔ ∃ numeral : Numeral text, numeral.value = 1 := by
  constructor
  · intro spelled
    obtain ⟨blanks,sign,zeros,rest,split,blank,unsigned,zero,ends⟩ := spelled
    have digit : ∀ c ∈ zeros ++ ['1'], Text.isAsciiDigit c = true := by
      intro c member
      rcases List.mem_append.mp member with front | last
      · rw [zero c front]
        decide
      · rw [List.mem_singleton.mp last]
        decide
    refine ⟨⟨blanks,sign,zeros ++ ['1'],rest,?_,blank,by simp,digit,ends⟩,?_⟩
    · rw [split,List.append_assoc]
      rfl
    · have one : Text.digitsValue (zeros ++ ['1']) = 1 := (Text.digitsValue_eq_one_iff digit).mpr ⟨zeros,rfl,zero⟩
      rw [Numeral.value,one]
      cases sign with
      | absent | plus => rfl
      | minus => exact absurd rfl unsigned
  · intro found
    obtain ⟨⟨blanks,sign,digits,rest,split,blank,_,digit,ends⟩,one⟩ := found
    have one : sign.apply (Text.digitsValue digits) = 1 := one
    have unsigned : sign ≠ .minus := by
      intro minus
      rw [minus,Sign.apply] at one
      omega
    have either := sign.apply_either (Text.digitsValue digits)
    obtain ⟨zeros,last,zero⟩ := (Text.digitsValue_eq_one_iff digit).mp (by omega)
    refine ⟨blanks,sign,zeros,rest,?_,blank,unsigned,zero,ends⟩
    rw [split,last,List.append_assoc]
    rfl

theorem leadingInteger_eq_one_iff : leadingInteger text = 1 ↔ ∃ numeral : Numeral text, numeral.value = 1 := by
  constructor
  · intro one
    have something : leadingInteger text ≠ 0 := by rw [one]; decide
    obtain ⟨numeral⟩ := exists_numeral something
    refine ⟨numeral,?_⟩
    rw [leadingInteger_numeral numeral] at one
    split at one
    · exact one
    · cases one
  · intro found
    obtain ⟨numeral,one⟩ := found
    have fits : Text.fitsInt64 (Text.digitsValue numeral.digits) = true := by
      have either := numeral.sign.apply_either (Text.digitsValue numeral.digits)
      have value : (Text.digitsValue numeral.digits : Int) = 1 := by
        unfold Numeral.value at one
        omega
      rw [value]
      decide
    rw [leadingInteger_numeral numeral,if_pos fits,one]

theorem passFlag_eq_last (record : Record) (eight : record.fields.length = 8) :
    record.fields.getLast? = some record.passFlag := by
  rw [List.getLast?_eq_getElem?,eight,passFlag,field,List.getD_eq_getElem?_getD,
    List.getElem?_eq_getElem (by omega)]
  rfl

theorem passed_exact (record : Record) :
    (record.passed = true ↔
      record.fields.length = 8 ∧ ∃ flag, record.fields.getLast? = some flag ∧ SpellsOne flag) ∧
    (∀ numeral : Numeral record.passFlag,
      numeral.sign = .minus ∨ 9223372036854775808 ≤ numeral.value → record.passed = false) ∧
    ∀ text, Text.fitsInt64 (leadingInteger text) = true ∧ Text.fitsInt64 (-leadingInteger text) = true := by
  have passes : record.passed = true ↔ record.fields.length = 8 ∧ leadingInteger record.passFlag = 1 := by
    rw [passed,Bool.and_eq_true,isWellFormed,beq_iff_eq,beq_iff_eq]
    rfl
  refine ⟨?_,?_,fits_leadingInteger⟩
  · rw [passes,leadingInteger_eq_one_iff,← spellsOne_iff]
    constructor
    · intro both
      obtain ⟨eight,one⟩ := both
      exact ⟨eight,_,passFlag_eq_last record eight,one⟩
    · intro both
      obtain ⟨eight,flag,last,one⟩ := both
      rw [passFlag_eq_last record eight] at last
      cases last
      exact ⟨eight,one⟩
  · intro numeral outside
    by_contra passed
    have one : leadingInteger record.passFlag = 1 := (passes.mp (by simpa using passed)).2
    have either := numeral.sign.apply_either (Text.digitsValue numeral.digits)
    rw [leadingInteger_numeral numeral] at one
    split at one
    · rename_i fits
      have small := (Text.fitsInt64_iff.mp fits).2
      unfold Numeral.value at one outside
      rcases outside with minus | large
      · rw [minus,Sign.apply] at one
        omega
      · omega
    · cases one

end Marking.Record
