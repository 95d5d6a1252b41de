import Marking.Proofs.Instant.Calendar
import Marking.Proofs.Text.Integer

-- What is read is a date and a time that there are, and these are read back from what is written.

namespace Marking.Instant

variable {instant : Instant} {digits rest text : Text} {width n : Nat} {c mark : Char}

theorem digits_padded (width n : Nat) : ∀ c ∈ padded width n, Text.isAsciiDigit c = true := by
  intro c member
  rcases List.mem_append.mp member with zero | digit
  · rw [List.eq_of_mem_replicate zero]
    decide
  · exact Text.digits_ofNat n c digit

theorem padded_ne_nil (width n : Nat) : padded width n ≠ [] := by
  have nonempty : Text.ofNat n ≠ [] := Nat.toDigits_ne_nil
  simp [padded,nonempty]

theorem length_padded (positive : 0 < width) (fits : n < Nat.pow 10 width) : (padded width n).length = width := by
  have short : (Text.ofNat n).length ≤ width := (Nat.length_toDigits_le_iff (by decide) positive).mpr fits
  rw [padded,List.length_append,List.length_replicate]
  omega

theorem digitsValue_padded (width n : Nat) : Text.digitsValue (padded width n) = n := by
  have zeros (count : Nat) : Text.digitsValue (List.replicate count '0') = 0 := by
    induction count with
    | zero => rfl
    | succ count ih => exact ih
  have split : Text.digitsValue (padded width n) = (Text.ofNat n).foldl
      (fun value c => 10 * value + (c.toNat - '0'.toNat)) (Text.digitsValue (List.replicate _ '0')) :=
    List.foldl_append
  rw [split,zeros]
  exact Text.digitsValue_ofNat n

theorem trimStart_solid (solid : Text.isSpace c = false) (rest : Text) : Text.trimStart (c :: rest) = c :: rest := by
  simp [Text.trimStart,solid]

theorem trimStart_digits (some : digits ≠ []) (valid : ∀ c ∈ digits, Text.isAsciiDigit c = true) (rest : Text) :
    Text.trimStart (digits ++ rest) = digits ++ rest := by
  obtain ⟨d,more,rfl⟩ := List.exists_cons_of_ne_nil some
  exact trimStart_solid (Text.isSpace_digit (valid d (List.mem_cons_self ..))) (more ++ rest)

theorem readNumber_digits (some : digits ≠ []) (valid : ∀ c ∈ digits, Text.isAsciiDigit c = true)
    (cut : ((digits ++ rest).take width).takeWhile Text.isAsciiDigit = digits) :
    readNumber? width (digits ++ rest) = Option.some (Text.digitsValue digits,rest) := by
  simp only [readNumber?,trimStart_digits some valid,cut]
  simp [some]

theorem readNumber_padded (width : Nat) (positive : 0 < width) (fits : n < Nat.pow 10 width) (rest : Text) :
    readNumber? width (padded width n ++ rest) = some (n,rest) := by
  have whole : ((padded width n ++ rest).take width).takeWhile Text.isAsciiDigit = padded width n := by
    rw [List.take_left' (length_padded positive fits)]
    exact List.takeWhile_eq_self_iff.mpr (digits_padded width n)
  rw [readNumber_digits (padded_ne_nil width n) (digits_padded width n) whole,digitsValue_padded]

theorem readMark_mark (solid : Text.isSpace mark = false) (rest : Text) : readMark? mark (mark :: rest) = some rest := by
  simp [readMark?,trimStart_solid solid]

theorem readYear_signed (year : Nat) (negative : Bool) (rest : Text) :
    readYear? ((if negative then '-' else '+') :: (padded 4 year ++ '-' :: rest)) =
      some (if negative then -(year : Int) else year,'-' :: rest) := by
  have whole : ((padded 4 year ++ '-' :: rest).take (padded 4 year ++ '-' :: rest).length).takeWhile
      Text.isAsciiDigit = padded 4 year := by
    rw [List.take_length,List.takeWhile_append_of_pos (digits_padded 4 year)]
    simp [show Text.isAsciiDigit '-' = false by decide]
  have number := readNumber_digits (padded_ne_nil 4 year) (digits_padded 4 year) whole
  obtain ⟨d,more,first⟩ := List.exists_cons_of_ne_nil (padded_ne_nil 4 year)
  have digit : (padded 4 year ++ '-' :: rest).head?.any Text.isAsciiDigit = true := by
    have head := digits_padded 4 year d (by rw [first]; exact List.mem_cons_self ..)
    simp [first,head]
  rw [digitsValue_padded] at number
  generalize padded 4 year ++ '-' :: rest = unsigned at digit number
  have minus : Text.trimStart ('-' :: unsigned) = '-' :: unsigned := trimStart_solid (by decide) unsigned
  have plus : Text.trimStart ('+' :: unsigned) = '+' :: unsigned := trimStart_solid (by decide) unsigned
  cases negative with
  | true => simp [readYear?,minus,digit,number]
  | false => simp [readYear?,plus,digit,number]

theorem readYear_plain {year : Nat} (fits : year < 10000) (rest : Text) :
    readYear? (padded 4 year ++ rest) = some ((year : Int),rest) := by
  have number := readNumber_padded 4 (by decide) fits rest
  obtain ⟨d,more,first⟩ := List.exists_cons_of_ne_nil (padded_ne_nil 4 year)
  have digit : Text.isAsciiDigit d = true := digits_padded 4 year d (by rw [first]; exact List.mem_cons_self ..)
  unfold readYear?
  rw [trimStart_digits (padded_ne_nil 4 year) (digits_padded 4 year)]
  rw [first,List.cons_append] at number ⊢
  split
  · exact absurd digit (by rename_i same; rw [(List.cons.inj same).1]; decide)
  · exact absurd digit (by rename_i same; rw [(List.cons.inj same).1]; decide)
  · rw [number]
    rfl

theorem readYear_text (year : Int) (rest : Text) :
    readYear? (yearText year ++ '-' :: rest) = some (year,'-' :: rest) := by
  unfold yearText
  split
  · rename_i plain
    obtain ⟨n,rfl⟩ := Int.eq_ofNat_of_zero_le plain.1
    exact readYear_plain (by omega) _
  · by_cases negative : year < 0
    · have size : -(year.natAbs : Int) = year := by omega
      have read := readYear_signed year.natAbs true rest
      rw [if_pos rfl,if_pos rfl,size] at read
      rwa [if_pos negative]
    · have size : (year.natAbs : Int) = year := by omega
      have read := readYear_signed year.natAbs false rest
      rw [if_neg Bool.false_ne_true,if_neg Bool.false_ne_true,size] at read
      rwa [if_neg negative]

theorem readNanosecond_digits (some : digits ≠ []) (valid : ∀ c ∈ digits, Text.isAsciiDigit c = true)
    (short : digits.length ≤ 9) (rest : Text) :
    readNanosecond? ('.' :: (digits ++ 'Z' :: rest)) =
      Option.some (Text.digitsValue digits * Nat.pow 10 (9 - digits.length),'Z' :: rest) := by
  have whole : (digits ++ 'Z' :: rest).takeWhile Text.isAsciiDigit = digits := by
    rw [List.takeWhile_append_of_pos valid]
    simp [show Text.isAsciiDigit 'Z' = false by decide]
  have kept : digits.take 9 = digits := List.take_of_length_le short
  simp [readNanosecond?,whole,kept,some]

-- A shorter fraction is written where the digits left out are zeros.
theorem readNanosecond_padded {nanosecond unit : Nat} (width : Nat) (positive : 0 < width) (short : width ≤ 9)
    (unit_eq : unit = Nat.pow 10 (9 - width)) (exact : nanosecond % unit = 0) (fits : nanosecond / unit < Nat.pow 10 width)
    (rest : Text) :
    readNanosecond? ('.' :: (padded width (nanosecond / unit) ++ 'Z' :: rest)) = some (nanosecond,'Z' :: rest) := by
  have length := length_padded positive fits
  rw [readNanosecond_digits (padded_ne_nil _ _) (digits_padded _ _) (by rw [length]; exact short),digitsValue_padded,
    length,← unit_eq,Nat.div_mul_cancel (Nat.dvd_of_mod_eq_zero exact)]

theorem readNanosecond_text {nanosecond : Nat} (small : nanosecond < 1000000000) (rest : Text) :
    readNanosecond? (fractionText nanosecond ++ 'Z' :: rest) = some (nanosecond,'Z' :: rest) := by
  unfold fractionText
  split
  · rename_i zero
    rw [zero]
    rfl
  · split
    · rename_i milli
      exact readNanosecond_padded 3 (by decide) (by decide) rfl milli
        (show nanosecond / 1000000 < 1000 by omega) rest
    · split
      · rename_i micro
        exact readNanosecond_padded 6 (by decide) (by decide) rfl micro
          (show nanosecond / 1000 < 1000000 by omega) rest
      · have read := readNanosecond_padded 9 (by decide) (by decide) rfl (Nat.mod_one nanosecond)
          (by rw [Nat.div_one]; exact small) rest
        rwa [Nat.div_one] at read

theorem readOffset_utc : readOffset? (Text.trimStart ['Z']) = some (0,[]) := by
  rw [trimStart_solid (by decide)]
  rfl

theorem readNanosecond_lt (read : readNanosecond? text = some (n,rest)) : n < 1000000000 := by
  unfold readNanosecond? at read
  split at read
  · rename_i after
    dsimp only at read
    split at read
    · cases read
    · generalize kept : (after.takeWhile Text.isAsciiDigit).take 9 = digits at read
      have valid : ∀ c ∈ digits, Text.isAsciiDigit c = true := by
        intro c member
        exact List.mem_takeWhile_imp (List.mem_of_mem_take (kept ▸ member))
      have short : digits.length ≤ 9 := by
        rw [← kept]
        exact List.length_take_le 9 _
      cases read
      calc Text.digitsValue digits * Nat.pow 10 (9 - digits.length)
        _ < Nat.pow 10 digits.length * Nat.pow 10 (9 - digits.length) :=
          Nat.mul_lt_mul_of_pos_right (Text.digitsValue_lt valid) (Nat.pow_pos (by decide))
        _ = Nat.pow 10 (digits.length + (9 - digits.length)) := (Nat.pow_add 10 _ _).symm
        _ = 1000000000 := by rw [Nat.add_sub_cancel' short]
  · cases read
    decide

theorem readClockOffset_lt {offset : Int} (read : readClockOffset? text = some (offset,rest)) :
    0 ≤ offset ∧ offset < 1440 := by
  unfold readClockOffset? at read
  split at read
  · split at read
    · dsimp only at read
      split at read
      · rename_i valid
        obtain ⟨_,minutes,hours⟩ := valid
        cases read
        omega
      · cases read
    · cases read
  · cases read

theorem readOffset_lt {offset : Int} (read : readOffset? text = some (offset,rest)) : -1440 < offset ∧ offset < 1440 := by
  unfold readOffset? at read
  split at read
  · cases read
  · split at read
    · cases read
      decide
    · split at read
      · have ahead := readClockOffset_lt read
        omega
      · split at read
        · obtain ⟨⟨behind,after⟩,found,same⟩ := Option.map_eq_some_iff.mp read
          cases same
          have size := readClockOffset_lt found
          omega
        · split at read
          · cases read
            decide
          · cases read

theorem proper_of_read (read : read? text = some instant) : instant.Proper := by
  unfold read? at read
  -- From the year to the second, with the marks in between.
  iterate 11 obtain ⟨_,_,read⟩ := Option.bind_eq_some_iff.mp read
  obtain ⟨⟨nanosecond,_⟩,fraction,read⟩ := Option.bind_eq_some_iff.mp read
  obtain ⟨⟨offset,_⟩,zone,settled⟩ := Option.bind_eq_some_iff.mp read
  dsimp only at settled
  split at settled
  · rename_i checked
    obtain ⟨_,valid,known⟩ := checked
    cases settled
    exact ofLocal_proper valid (readNanosecond_lt fraction) (readOffset_lt zone) known
  · cases settled

theorem Proper.roundtrip (proper : instant.Proper) : read? instant.written = some instant := by
  have ⟨known,⟨month,day⟩,clock,second,nanosecond⟩ := proper
  have ⟨hour,minute⟩ := clock
  have ⟨_,short⟩ := daysInMonth_bounds instant.year instant.month
  have two {n : Nat} (small : n < 100) (rest : Text) : readNumber? 2 (padded 2 n ++ rest) = some (n,rest) :=
    readNumber_padded 2 (by decide) small rest
  have dash (rest : Text) : readMark? '-' ('-' :: rest) = some rest := readMark_mark (by decide) rest
  have colon (rest : Text) : readMark? ':' (':' :: rest) = some rest := readMark_mark (by decide) rest
  simp only [written,List.append_assoc,List.cons_append]
  refine Option.bind_eq_some_iff.mpr ⟨_,readYear_text _ _,?_⟩
  refine Option.bind_eq_some_iff.mpr ⟨_,dash _,?_⟩
  refine Option.bind_eq_some_iff.mpr ⟨_,two (by omega) _,?_⟩
  refine Option.bind_eq_some_iff.mpr ⟨_,dash _,?_⟩
  refine Option.bind_eq_some_iff.mpr ⟨_,two (by omega) _,?_⟩
  refine Option.bind_eq_some_iff.mpr ⟨_,rfl,?_⟩
  refine Option.bind_eq_some_iff.mpr ⟨_,two (by omega) _,?_⟩
  refine Option.bind_eq_some_iff.mpr ⟨_,colon _,?_⟩
  refine Option.bind_eq_some_iff.mpr ⟨_,two (by omega) _,?_⟩
  refine Option.bind_eq_some_iff.mpr ⟨_,colon _,?_⟩
  refine Option.bind_eq_some_iff.mpr ⟨_,two (by omega) _,?_⟩
  refine Option.bind_eq_some_iff.mpr ⟨_,readNanosecond_text nanosecond _,?_⟩
  refine Option.bind_eq_some_iff.mpr ⟨_,readOffset_utc,?_⟩
  have utc : ofLocal 0 instant = instant := ofLocal_utc clock
  have ends : Text.isBlank [] = true := rfl
  dsimp only
  rw [utc,if_pos ⟨ends,proper.valid,known⟩]

end Marking.Instant
