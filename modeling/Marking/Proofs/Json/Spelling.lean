import Marking.Json.Reading
import Marking.Json
import Marking.Proofs.Text.Integer

-- How a value can be spelled in JSON, with white space wherever it may stand and strings with any
-- escapes, and that the reader takes every spelling.

namespace Marking.Json

def Blank (text : Text) : Prop := ∀ c ∈ text, isSpace c = true

def Digits (text : Text) : Prop := text ≠ [] ∧ ∀ c ∈ text, Text.isAsciiDigit c = true

inductive SpelledPieces : List Piece → Text → Prop where
  | nil : SpelledPieces [] []
  | plain {c : Char} {pieces : List Piece} {text : Text} (visible : ¬ c.toNat < 0x20) (quote : c ≠ '"')
      (slash : c ≠ '\\') (rest : SpelledPieces pieces text) : SpelledPieces (.char c :: pieces) (c :: text)
  | short {letter c : Char} {pieces : List Piece} {text : Text} (escape : shortEscape? letter = some c)
      (rest : SpelledPieces pieces text) : SpelledPieces (.char c :: pieces) ('\\' :: letter :: text)
  | unit {a b c d : Char} {code : Nat} {pieces : List Piece} {text : Text}
      (digits : hexUnit? a b c d = some code) (rest : SpelledPieces pieces text) :
      SpelledPieces (.unit code :: pieces) ('\\' :: 'u' :: a :: b :: c :: d :: text)

def SpelledString (pieces : List Piece) (text : Text) : Prop :=
  ∃ inner, SpelledPieces pieces inner ∧ text = '"' :: inner ++ ['"']

def fractionText (fraction : Option Text) : Text := (fraction.map ('.' :: ·)).getD []

inductive SpelledExponent : Option (Bool × Text) → Text → Prop where
  | none : SpelledExponent none []
  | plain {mark : Char} {digits : Text} (marked : mark = 'e' ∨ mark = 'E') (valid : Digits digits) :
      SpelledExponent (some (false,digits)) (mark :: digits)
  | plus {mark : Char} {digits : Text} (marked : mark = 'e' ∨ mark = 'E') (valid : Digits digits) :
      SpelledExponent (some (false,digits)) (mark :: '+' :: digits)
  | minus {mark : Char} {digits : Text} (marked : mark = 'e' ∨ mark = 'E') (valid : Digits digits) :
      SpelledExponent (some (true,digits)) (mark :: '-' :: digits)

-- Only a lone zero may begin with zero.
structure SpelledNumber (number : Number) (text : Text) : Prop where
  whole : Digits number.whole
  leading : number.whole.head? = some '0' → number.whole = ['0']
  fraction : ∀ digits, number.fraction = some digits → Digits digits
  spelling : ∃ exponent, SpelledExponent number.exponent exponent ∧
    text = (if number.negative then ['-'] else []) ++ (number.whole ++ (fractionText number.fraction ++ exponent))

structure SpelledMember where
  name : List Piece
  value : Json
  nameText : Text
  valueText : Text

namespace SpelledMember

def text (member : SpelledMember) : Text := member.nameText ++ ':' :: member.valueText

def Named (member : SpelledMember) : Prop :=
  ∃ before spelled behind, Blank before ∧ Blank behind ∧ SpelledString member.name spelled ∧
    member.nameText = before ++ (spelled ++ behind)

end SpelledMember

def joined (texts : List Text) : Text := List.intercalate [','] texts

inductive Spelled : Json → Text → Prop where
  | null : Spelled .null "null".toList
  | bool (value : Bool) : Spelled (.bool value) (boolText value)
  | number {number : Number} {text : Text} (written : SpelledNumber number text) : Spelled (.number number) text
  | string {pieces : List Piece} {text : Text} (written : SpelledString pieces text) : Spelled (.string pieces) text
  | emptyArray {gap : Text} (blank : Blank gap) : Spelled (.array []) ('[' :: gap ++ [']'])
  | array {items : List (Json × Text)} (some : items ≠ []) (each : ∀ item ∈ items, Spelled item.1 item.2) :
      Spelled (.array (items.map (·.1))) ('[' :: joined (items.map (·.2)) ++ [']'])
  | emptyObject {gap : Text} (blank : Blank gap) : Spelled (.object []) ('\x7b' :: gap ++ ['\x7d'])
  | object {members : List SpelledMember} (some : members ≠ []) (named : ∀ member ∈ members, member.Named)
      (each : ∀ member ∈ members, Spelled member.value member.valueText) :
      Spelled (.object (members.map fun member => (member.name,member.value)))
        ('\x7b' :: joined (members.map SpelledMember.text) ++ ['\x7d'])
  | spaced {json : Json} {before text behind : Text} (first : Blank before) (last : Blank behind)
      (inner : Spelled json text) : Spelled json (before ++ (text ++ behind))

variable {json : Json} {text rest gap digits : Text} {pieces : List Piece} {number : Number} {fuel : Nat} {c : Char}

theorem skip_blank (blank : Blank gap) (rest : Text) : skip (gap ++ rest) = skip rest := by
  induction gap with
  | nil => rfl
  | cons c gap ih =>
    obtain ⟨first,others⟩ := List.forall_mem_cons.mp blank
    simpa [skip,first] using ih others

theorem skip_mark (blank : Blank gap) (solid : isSpace c = false) (rest : Text) :
    skip (gap ++ c :: rest) = c :: rest := by
  rw [skip_blank blank]
  simp [skip,solid]

theorem skip_solid (solid : isSpace c = false) (rest : Text) : skip (c :: rest) = c :: rest := by
  simp [skip,solid]

theorem readString_spelled (written : SpelledPieces pieces text) (rest : Text) :
    readString? (text ++ '"' :: rest) = some (pieces,rest) := by
  induction written with
  | nil => rfl
  | plain visible quote slash _ ih =>
    rw [List.cons_append,readString?.eq_def]
    split <;> simp_all
  | @short letter c pieces text escape _ ih =>
    have other : letter ≠ 'u' := by
      rintro rfl
      cases escape
    simp [readString?,other,escape,ih]
  | unit digits _ ih => simp [readString?,digits,ih]

-- What ends a number: nothing that could go on with it.
def Stops (rest : Text) : Prop :=
  ∀ c, rest.head? = some c → Text.isAsciiDigit c = false ∧ c ≠ '.' ∧ c ≠ 'e' ∧ c ≠ 'E'

theorem Stops.of_blank (blank : Blank gap) (stops : Stops rest) : Stops (gap ++ rest) := by
  cases gap with
  | nil => exact stops
  | cons d gap =>
    intro c head
    cases Option.some.inj head
    have space : isSpace d = true := blank d (List.mem_cons_self ..)
    obtain ((rfl | rfl) | rfl) | rfl : ((d = ' ' ∨ d = '\t') ∨ d = '\n') ∨ d = '\r' := by
      simpa [isSpace] using space
    all_goals decide

theorem digit_ne {d : Char} (digit : Text.isAsciiDigit d = true) (other : Text.isAsciiDigit c = false) : d ≠ c := by
  rintro rfl
  rw [digit] at other
  cases other

theorem Digits.head (valid : Digits digits) :
    ∃ d more, digits = d :: more ∧ Text.isAsciiDigit d = true := by
  obtain ⟨d,more,rfl⟩ := List.exists_cons_of_ne_nil valid.1
  exact ⟨d,more,rfl,valid.2 d (List.mem_cons_self ..)⟩

theorem Digits.cut (valid : Digits digits) (ends : ∀ c, rest.head? = some c → Text.isAsciiDigit c = false) :
    (digits ++ rest).takeWhile Text.isAsciiDigit = digits ∧ (digits ++ rest).dropWhile Text.isAsciiDigit = rest :=
  Text.cut_digits valid.2 ends

theorem readDigits_spelled (valid : Digits digits) (ends : ∀ c, rest.head? = some c → Text.isAsciiDigit c = false) :
    readDigits? (digits ++ rest) = some (digits,rest) := by
  obtain ⟨kept,left⟩ := valid.cut ends
  simp only [readDigits?,kept,left]
  simp [valid.1]

theorem readWhole_spelled (valid : Digits digits) (leading : digits.head? = some '0' → digits = ['0'])
    (ends : ∀ c, rest.head? = some c → Text.isAsciiDigit c = false) :
    readWhole? (digits ++ rest) = some (digits,rest) := by
  have fine : ¬ (digits.length > 1 ∧ digits.head? = some '0') := by
    rintro ⟨long,zero⟩
    rw [leading zero] at long
    exact absurd long (by decide)
  simp [readWhole?,readDigits_spelled valid ends,fine]

theorem readFraction_spelled {fraction : Option Text} (valid : ∀ digits, fraction = some digits → Digits digits)
    (point : rest.head? ≠ some '.') (ends : ∀ c, rest.head? = some c → Text.isAsciiDigit c = false) :
    readFraction? (fractionText fraction ++ rest) = some (fraction,rest) := by
  cases fraction with
  | none =>
    cases rest with
    | nil => rfl
    | cons c rest =>
      have other : c ≠ '.' := fun same => point (by rw [same]; rfl)
      simp [fractionText,readFraction?,other]
  | some digits => simp [fractionText,readFraction?,readDigits_spelled (valid digits rfl) ends]

theorem readExponent_spelled {exponent : Option (Bool × Text)} (written : SpelledExponent exponent text)
    (stops : Stops rest) : readExponent? (text ++ rest) = some (exponent,rest) := by
  have ends : ∀ c, rest.head? = some c → Text.isAsciiDigit c = false := fun c head => (stops c head).1
  cases written with
  | none =>
    cases rest with
    | nil => rfl
    | cons c rest =>
      obtain ⟨_,_,small,large⟩ := stops c rfl
      simp [readExponent?,small,large]
  | @plain mark digits marked valid =>
    have read := readDigits_spelled valid ends
    obtain ⟨d,digits,rfl,digit⟩ := valid.head
    have minus : d ≠ '-' := digit_ne digit (by decide)
    have plus : d ≠ '+' := digit_ne digit (by decide)
    rw [List.cons_append] at read
    simp [readExponent?,marked,minus,plus,read]
  | plus marked valid => simp [readExponent?,marked,readDigits_spelled valid ends]
  | minus marked valid => simp [readExponent?,marked,readDigits_spelled valid ends]

theorem SpelledExponent.head {exponent : Option (Bool × Text)} (written : SpelledExponent exponent text)
    (stops : Stops rest) (found : (text ++ rest).head? = some c) : Text.isAsciiDigit c = false ∧ c ≠ '.' := by
  have marked {mark : Char} (either : mark = 'e' ∨ mark = 'E') : Text.isAsciiDigit mark = false ∧ mark ≠ '.' := by
    rcases either with rfl | rfl <;> decide
  cases written with
  | none => exact ⟨(stops c found).1,(stops c found).2.1⟩
  | plain either valid | plus either valid | minus either valid =>
    cases Option.some.inj found
    exact marked either

theorem readNumber_spelled (written : SpelledNumber number text) (stops : Stops rest) :
    readNumber? (text ++ rest) = some (number,rest) := by
  obtain ⟨whole,leading,fraction,exponent,spelled,rfl⟩ := written
  have later : ∀ c, (exponent ++ rest).head? = some c → Text.isAsciiDigit c = false ∧ c ≠ '.' :=
    fun c => spelled.head stops
  have behind : ∀ c, (fractionText number.fraction ++ (exponent ++ rest)).head? = some c →
      Text.isAsciiDigit c = false := by
    intro c found
    cases given : number.fraction with
    | none => exact (later c (by simpa [fractionText,given] using found)).1
    | some digits =>
      have point : '.' = c := by simpa [fractionText,given] using found
      rw [← point]
      decide
  have first := readWhole_spelled whole leading behind
  have second := readFraction_spelled fraction (fun found => (later '.' found).2 rfl) fun c found => (later c found).1
  have third := readExponent_spelled spelled stops
  have unsigned : readNumber? (number.whole ++ (fractionText number.fraction ++ (exponent ++ rest))) =
      some ({number with negative := false},rest) := by
    obtain ⟨d,more,same,digit⟩ := whole.head
    have minus : d ≠ '-' := digit_ne digit (by decide)
    rw [same,List.cons_append] at first ⊢
    simp [readNumber?,minus,first,second,third]
  cases sign : number.negative with
  | false =>
    have same : {number with negative := false} = number := by rw [← sign]
    simpa [List.append_assoc,same] using unsigned
  | true =>
    have same : number = {number with negative := true} := by rw [← sign]
    rw [same]
    simp [readNumber?,first,second,third]

theorem SpelledNumber.head (written : SpelledNumber number text) :
    ∃ c more, text = c :: more ∧ (c = '-' ∨ Text.isAsciiDigit c = true) := by
  obtain ⟨whole,_,_,exponent,_,rfl⟩ := written
  cases number.negative with
  | true => exact ⟨'-',_,rfl,.inl rfl⟩
  | false =>
    obtain ⟨d,more,same,digit⟩ := whole.head
    exact ⟨d,_,by rw [same]; rfl,.inr digit⟩

theorem readValue_blank (blank : Blank gap) (fuel : Nat) (rest : Text) :
    readValue? fuel (gap ++ rest) = readValue? fuel rest := by
  cases fuel with
  | zero => rfl
  | succ fuel => rw [readValue?,readValue?,skip_blank blank]

theorem readValue_number (start : c = '-' ∨ Text.isAsciiDigit c = true) :
    readValue? (fuel + 1) (c :: rest) =
      (readNumber? (c :: rest)).map fun found => (.number found.1,found.2) := by
  have other {d : Char} (sign : d ≠ '-') (digit : Text.isAsciiDigit d = false) : c ≠ d := by
    rcases start with rfl | found
    · exact sign.symm
    · exact digit_ne found digit
  have solid : isSpace c = false := by
    have space : c ≠ ' ' := other (by decide) (by decide)
    have tab : c ≠ '\t' := other (by decide) (by decide)
    have line : c ≠ '\n' := other (by decide) (by decide)
    have feed : c ≠ '\r' := other (by decide) (by decide)
    simp [isSpace,space,tab,line,feed]
  rw [readValue?,skip_solid solid]
  split
  case h_7 => rfl
  all_goals
    rename_i same
    exact absurd (List.cons.inj same).1 (other (by decide) (by decide))

theorem readValue_bracket (fuel : Nat) (rest : Text) :
    readValue? (fuel + 1) ('[' :: rest) =
      match skip rest with
      | ']' :: after => some (.array [],after)
      | _ => (readItems? fuel rest).map fun found => (.array found.1,found.2) := by
  rw [readValue?,skip_solid (by decide)]
  rfl

theorem readValue_brace (fuel : Nat) (rest : Text) :
    readValue? (fuel + 1) ('\x7b' :: rest) =
      match skip rest with
      | '\x7d' :: after => some (.object [],after)
      | _ => (readMembers? fuel rest).map fun found => (.object found.1,found.2) := by
  rw [readValue?,skip_solid (by decide)]
  rfl

theorem readItems_opening {found : List Json × Text} (read : readItems? fuel text = some found) (after : Text) :
    skip text ≠ ']' :: after := by
  intro closing
  match fuel with
  | 0 => cases read
  | 1 => cases read
  | fuel + 2 =>
    rw [readItems?,readValue?,closing] at read
    cases read

theorem readMembers_opening {found : List (List Piece × Json) × Text}
    (read : readMembers? fuel text = some found) (after : Text) : skip text ≠ '\x7d' :: after := by
  intro closing
  cases fuel with
  | zero => cases read
  | succ fuel =>
    rw [readMembers?,closing] at read
    cases read

-- What reading a spelling comes to: the value, and white space left before the rest.
def Reads (json : Json) (text : Text) : Prop :=
  ∀ fuel rest, 2 * text.length ≤ fuel → Stops rest →
    ∃ gap, Blank gap ∧ readValue? fuel (text ++ rest) = some (json,gap ++ rest)

theorem joined_cons (text : Text) {texts : List Text} (more : texts ≠ []) :
    joined (text :: texts) = text ++ ',' :: joined texts := by
  obtain ⟨next,texts,rfl⟩ := List.exists_cons_of_ne_nil more
  simp [joined,List.intercalate]

theorem joined_single (text : Text) : joined [text] = text := by simp [joined,List.intercalate]

theorem stops_comma (rest : Text) : Stops (',' :: rest) := by
  intro c head
  cases Option.some.inj head
  decide

theorem stops_bracket (rest : Text) : Stops (']' :: rest) := by
  intro c head
  cases Option.some.inj head
  decide

theorem stops_brace (rest : Text) : Stops ('\x7d' :: rest) := by
  intro c head
  cases Option.some.inj head
  decide

theorem readItems_spelled {items : List (Json × Text)} (some : items ≠ []) (each : ∀ item ∈ items, Reads item.1 item.2)
    (enough : 2 * (joined (items.map (·.2))).length + 1 ≤ fuel) (rest : Text) :
    readItems? fuel (joined (items.map (·.2)) ++ ']' :: rest) = Option.some (items.map (·.1),rest) := by
  induction items generalizing fuel with
  | nil => exact absurd rfl some
  | cons item items ih =>
    obtain ⟨fuel,rfl⟩ : ∃ less, fuel = less + 1 := ⟨fuel - 1,by omega⟩
    obtain ⟨first,others⟩ := List.forall_mem_cons.mp each
    cases items with
    | nil =>
      simp only [List.map_cons,List.map_nil,joined_single] at enough ⊢
      obtain ⟨gap,blank,read⟩ := first fuel (']' :: rest) (by omega) (stops_bracket rest)
      have behind : skip (gap ++ ']' :: rest) = ']' :: rest := skip_mark blank (by decide) rest
      simp [readItems?,read,behind]
    | cons next items =>
      have more : (next :: items).map (·.2) ≠ [] := List.cons_ne_nil _ _
      rw [List.map_cons,joined_cons _ more] at enough ⊢
      simp only [List.length_append,List.length_cons] at enough
      have later := @ih fuel (List.cons_ne_nil _ _) others (by omega)
      generalize joined ((next :: items).map (·.2)) = tail at enough later ⊢
      obtain ⟨gap,blank,read⟩ := first fuel (',' :: (tail ++ ']' :: rest)) (by omega) (stops_comma _)
      have behind : skip (gap ++ ',' :: (tail ++ ']' :: rest)) = ',' :: (tail ++ ']' :: rest) :=
        skip_mark blank (by decide) _
      rw [List.append_assoc,List.cons_append]
      simp [readItems?,read,behind,later]

theorem readMembers_spelled {members : List SpelledMember} (some : members ≠ [])
    (named : ∀ member ∈ members, member.Named) (each : ∀ member ∈ members, Reads member.value member.valueText)
    (enough : 2 * (joined (members.map SpelledMember.text)).length + 1 ≤ fuel) (rest : Text) :
    readMembers? fuel (joined (members.map SpelledMember.text) ++ '\x7d' :: rest) =
      Option.some (members.map (fun member => (member.name,member.value)),rest) := by
  induction members generalizing fuel with
  | nil => exact absurd rfl some
  | cons member members ih =>
    obtain ⟨fuel,rfl⟩ : ∃ less, fuel = less + 1 := ⟨fuel - 1,by omega⟩
    obtain ⟨first,others⟩ := List.forall_mem_cons.mp each
    obtain ⟨⟨before,spelled,middle,blank,between,⟨inner,written,rfl⟩,name⟩,names⟩ := List.forall_mem_cons.mp named
    -- The name is read up to its colon, whatever follows.
    have opening (after : Text) : skip (member.text ++ after) =
        '"' :: (inner ++ '"' :: (middle ++ ':' :: (member.valueText ++ after))) := by
      have shape : member.text ++ after =
          before ++ '"' :: (inner ++ '"' :: (middle ++ ':' :: (member.valueText ++ after))) := by
        simp [SpelledMember.text,name]
      rw [shape]
      exact skip_mark blank (by decide) _
    have colon (after : Text) : skip (middle ++ ':' :: after) = ':' :: after := skip_mark between (by decide) after
    have shorter : member.valueText.length ≤ member.text.length := by
      simp only [SpelledMember.text,List.length_append,List.length_cons]
      omega
    cases members with
    | nil =>
      simp only [List.map_cons,List.map_nil,joined_single] at enough ⊢
      obtain ⟨gap,blank,read⟩ := first fuel ('\x7d' :: rest) (by omega) (stops_brace rest)
      have behind : skip (gap ++ '\x7d' :: rest) = '\x7d' :: rest := skip_mark blank (by decide) rest
      simp [readMembers?,opening,readString_spelled written,colon,read,behind]
    | cons next members =>
      have more : (next :: members).map SpelledMember.text ≠ [] := List.cons_ne_nil _ _
      rw [List.map_cons,joined_cons _ more] at enough ⊢
      simp only [List.length_append,List.length_cons] at enough
      have later := @ih fuel (List.cons_ne_nil _ _) names others (by omega)
      generalize joined ((next :: members).map SpelledMember.text) = tail at enough later ⊢
      obtain ⟨gap,blank,read⟩ := first fuel (',' :: (tail ++ '\x7d' :: rest)) (by omega) (stops_comma _)
      have behind : skip (gap ++ ',' :: (tail ++ '\x7d' :: rest)) = ',' :: (tail ++ '\x7d' :: rest) :=
        skip_mark blank (by decide) _
      rw [List.append_assoc,List.cons_append]
      simp [readMembers?,opening,readString_spelled written,colon,read,behind,later]

theorem Reads.exactly (some : text ≠ [])
    (read : ∀ fuel rest, 2 * text.length ≤ fuel + 1 → Stops rest →
      readValue? (fuel + 1) (text ++ rest) = Option.some (json,rest)) : Reads json text := by
  intro fuel rest enough stops
  have long := List.length_pos_iff.mpr some
  obtain ⟨fuel,rfl⟩ : ∃ less, fuel = less + 1 := ⟨fuel - 1,by omega⟩
  exact ⟨[],List.forall_mem_nil _,read fuel rest enough stops⟩

theorem SpelledNumber.reads (written : SpelledNumber number text) : Reads (.number number) text := by
  obtain ⟨c,more,rfl,start⟩ := written.head
  refine .exactly (List.cons_ne_nil _ _) fun fuel rest _ stops => ?_
  have read := readNumber_spelled written stops
  rw [List.cons_append] at read ⊢
  rw [readValue_number start,read]
  rfl

theorem SpelledString.reads (written : SpelledString pieces text) : Reads (.string pieces) text := by
  obtain ⟨inner,spelled,rfl⟩ := written
  refine .exactly (List.cons_ne_nil _ _) fun fuel rest _ _ => ?_
  have read := readString_spelled spelled rest
  rw [List.append_assoc,List.cons_append,List.singleton_append,readValue?,skip_solid (by decide)]
  simp [read]

theorem reads_array {items : List (Json × Text)} (some : items ≠ []) (each : ∀ item ∈ items, Reads item.1 item.2) :
    Reads (.array (items.map (·.1))) ('[' :: joined (items.map (·.2)) ++ [']']) := by
  refine .exactly (List.cons_ne_nil _ _) fun fuel rest enough _ => ?_
  simp only [List.length_cons,List.length_append,List.length_nil] at enough
  have read := @readItems_spelled fuel items some each (by omega) rest
  rw [List.append_assoc,List.cons_append,List.singleton_append,readValue_bracket]
  split
  · rename_i after closing
    exact absurd closing (readItems_opening read after)
  · rw [read]
    rfl

theorem reads_object {members : List SpelledMember} (some : members ≠ [])
    (named : ∀ member ∈ members, member.Named) (each : ∀ member ∈ members, Reads member.value member.valueText) :
    Reads (.object (members.map fun member => (member.name,member.value)))
      ('\x7b' :: joined (members.map SpelledMember.text) ++ ['\x7d']) := by
  refine .exactly (List.cons_ne_nil _ _) fun fuel rest enough _ => ?_
  simp only [List.length_cons,List.length_append,List.length_nil] at enough
  have read := @readMembers_spelled fuel members some named each (by omega) rest
  rw [List.append_assoc,List.cons_append,List.singleton_append,readValue_brace]
  split
  · rename_i after closing
    exact absurd closing (readMembers_opening read after)
  · rw [read]
    rfl

theorem Reads.spaced {before behind : Text} (first : Blank before) (last : Blank behind) (inner : Reads json text) :
    Reads json (before ++ (text ++ behind)) := by
  intro fuel rest enough stops
  simp only [List.length_append] at enough
  obtain ⟨gap,blank,read⟩ := inner fuel (behind ++ rest) (by omega) (.of_blank last stops)
  refine ⟨gap ++ behind,fun c member => (List.mem_append.mp member).elim (blank c) (last c),?_⟩
  rw [List.append_assoc,readValue_blank first,List.append_assoc,read,List.append_assoc]

theorem Spelled.reads (written : Spelled json text) : Reads json text := by
  induction written with
  | null => exact .exactly (List.cons_ne_nil _ _) fun fuel rest _ _ => rfl
  | bool value =>
    cases value with
    | true => exact .exactly (List.cons_ne_nil _ _) fun fuel rest _ _ => rfl
    | false => exact .exactly (List.cons_ne_nil _ _) fun fuel rest _ _ => rfl
  | number written => exact written.reads
  | string written => exact written.reads
  | @emptyArray gap blank =>
    refine .exactly (List.cons_ne_nil _ _) fun fuel rest _ _ => ?_
    have inner : skip (gap ++ ']' :: rest) = ']' :: rest := skip_mark blank (by decide) rest
    rw [List.append_assoc,List.cons_append,List.singleton_append,readValue_bracket,inner]
    rfl
  | array some _ each => exact reads_array some each
  | @emptyObject gap blank =>
    refine .exactly (List.cons_ne_nil _ _) fun fuel rest _ _ => ?_
    have inner : skip (gap ++ '\x7d' :: rest) = '\x7d' :: rest := skip_mark blank (by decide) rest
    rw [List.append_assoc,List.cons_append,List.singleton_append,readValue_brace,inner]
    rfl
  | object some named _ each => exact reads_object some named each
  | spaced first last _ ih => exact .spaced first last ih

theorem read_spelled (written : Spelled json text) : read? text = some json := by
  obtain ⟨gap,blank,read⟩ := written.reads (2 * text.length + 2) [] (by omega) (by simp [Stops])
  have empty : skip gap = [] := by simpa [skip] using skip_blank blank []
  rw [List.append_nil,List.append_nil] at read
  simp [read?,read,empty]

-- The unit of a string that the writer gives for a character: only a code takes more than two
-- characters.
def unitOf (c : Char) : Piece := if (escape c).length ≤ 2 then .char c else .unit c.toNat

theorem escape_cases (c : Char) :
    (∃ letter, shortEscape? letter = some c ∧ escape c = ['\\',letter]) ∨
      (c.toNat < 0x20 ∧ escape c = ['\\','u','0','0',hexChar (c.toNat / 16),hexChar (c.toNat % 16)]) ∨
      (¬ c.toNat < 0x20 ∧ c ≠ '"' ∧ c ≠ '\\' ∧ escape c = [c]) := by
  unfold escape
  split
  · exact .inl ⟨'"',rfl,rfl⟩
  · exact .inl ⟨'\\',rfl,rfl⟩
  · exact .inl ⟨'b',rfl,rfl⟩
  · exact .inl ⟨'f',rfl,rfl⟩
  · exact .inl ⟨'n',rfl,rfl⟩
  · exact .inl ⟨'r',rfl,rfl⟩
  · exact .inl ⟨'t',rfl,rfl⟩
  · rename_i quote slash _ _ _ _ _
    split
    · rename_i control
      exact .inr (.inl ⟨control,rfl⟩)
    · rename_i visible
      exact .inr (.inr ⟨visible,quote,slash,rfl⟩)

theorem spelled_unitOf (written : SpelledPieces pieces text) (c : Char) :
    SpelledPieces (unitOf c :: pieces) (escape c ++ text) := by
  unfold unitOf
  obtain ⟨letter,read,shape⟩ | ⟨control,shape⟩ | ⟨visible,quote,slash,shape⟩ := escape_cases c <;> rw [shape]
  · exact .short read written
  · have digits : ∀ n < 0x20, hexUnit? '0' '0' (hexChar (n / 16)) (hexChar (n % 16)) = some n := by decide
    exact .unit (digits c.toNat control) written
  · exact .plain visible quote slash written

theorem textOf_unitOf (c : Char) (pieces : List Piece) :
    textOf? (unitOf c :: pieces) = (textOf? pieces).map (c :: ·) := by
  unfold unitOf
  obtain ⟨letter,read,shape⟩ | ⟨control,shape⟩ | ⟨visible,quote,slash,shape⟩ := escape_cases c <;> rw [shape]
  · rfl
  · have low : ¬ (0xD800 ≤ c.toNat ∧ c.toNat < 0xDC00) := by omega
    have high : ¬ (0xDC00 ≤ c.toNat ∧ c.toNat < 0xE000) := by omega
    rw [textOf?.eq_def]
    simp [low,high]
  · rfl

theorem spelled_quoted (text : Text) : SpelledString (text.map unitOf) (quoted text) := by
  refine ⟨text.flatMap escape,?_,rfl⟩
  induction text with
  | nil => exact .nil
  | cons c text ih => exact spelled_unitOf ih c

theorem textOf_units (text : Text) : textOf? (text.map unitOf) = some text := by
  induction text with
  | nil => rfl
  | cons c text ih => simp [textOf_unitOf,ih]

end Marking.Json
