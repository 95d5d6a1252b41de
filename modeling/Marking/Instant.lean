import Marking.Text.Basic

-- Points in time with nanoseconds, as RFC 3339 writes them.

namespace Marking

-- The date and the time of day in UTC. The second is 60 during a leap second.
structure Instant where
  year : Int
  month : Nat
  day : Nat
  hour : Nat
  minute : Nat
  second : Nat
  nanosecond : Nat
  deriving DecidableEq,Repr

namespace Instant

def isLeapYear (year : Int) : Bool := year % 4 == 0 && (year % 100 != 0 || year % 400 == 0)

def daysInMonth (year : Int) (month : Nat) : Nat :=
  match month with
  | 2 => if isLeapYear year then 29 else 28
  | 4 | 6 | 9 | 11 => 30
  | _ => 31

-- Years that a calendar date can have.
def isKnownYear (year : Int) : Bool := -262143 ≤ year && year ≤ 262142

def isValid (instant : Instant) : Bool :=
  isKnownYear instant.year && 1 ≤ instant.month && instant.month ≤ 12 && 1 ≤ instant.day &&
    instant.day ≤ daysInMonth instant.year instant.month && instant.hour ≤ 23 &&
    instant.minute ≤ 59 && instant.second ≤ 60

def dayBefore (instant : Instant) : Instant :=
  if 1 < instant.day then {instant with day := instant.day - 1}
  else if 1 < instant.month then
    {instant with month := instant.month - 1,day := daysInMonth instant.year (instant.month - 1)}
  else {instant with year := instant.year - 1,month := 12,day := 31}

def dayAfter (instant : Instant) : Instant :=
  if instant.day < daysInMonth instant.year instant.month then
    {instant with day := instant.day + 1}
  else if instant.month < 12 then {instant with month := instant.month + 1,day := 1}
  else {instant with year := instant.year + 1,month := 1,day := 1}

-- The UTC form of a local time that is ahead by `offset` minutes, less than a day.
def ofLocal (offset : Int) (time : Instant) : Instant :=
  let minutes : Int := 60 * time.hour + time.minute - offset
  let clock (minutes : Int) (date : Instant) : Instant :=
    {date with hour := (minutes / 60).toNat,minute := (minutes % 60).toNat}
  if minutes < 0 then clock (minutes + 1440) (dayBefore time)
  else if 1440 ≤ minutes then clock (minutes - 1440) (dayAfter time)
  else clock minutes time

-- Reading allows white space before every number and mark, and numbers without padding.

-- A number of at most `width` digits.
def readNumber? (width : Nat) (text : Text) : Option (Nat × Text) :=
  let start := Text.trimStart text
  let digits := (start.take width).takeWhile Text.isAsciiDigit
  if digits.isEmpty then none else some (Text.digitsValue digits,start.drop digits.length)

-- A year has up to four digits, or a sign and any number of them.
def readYear? (text : Text) : Option (Int × Text) :=
  let number? (start : Text) : Option (Nat × Text) :=
    if start.head?.any Text.isAsciiDigit then readNumber? start.length start else none
  match Text.trimStart text with
  | '-' :: rest => (number? rest).map fun found => (-(found.1 : Int),found.2)
  | '+' :: rest => (number? rest).map fun found => ((found.1 : Int),found.2)
  | rest => (readNumber? 4 rest).map fun found => ((found.1 : Int),found.2)

def readMark? (mark : Char) (text : Text) : Option Text :=
  match Text.trimStart text with
  | c :: rest => if c = mark then some rest else none
  | [] => none

-- The date and the time stand apart by the letter T or a space.
def readSeparator? (text : Text) : Option Text :=
  match text with
  | c :: rest => if c = 'T' ∨ c = 't' ∨ c = ' ' then some rest else none
  | [] => none

-- A fraction keeps nine digits; further ones are passed over.
def readNanosecond? (text : Text) : Option (Nat × Text) :=
  match text with
  | '.' :: rest =>
    let digits := rest.takeWhile Text.isAsciiDigit
    let kept := digits.take 9
    if digits.isEmpty then none
    else some (Text.digitsValue kept * Nat.pow 10 (9 - kept.length),rest.drop digits.length)
  | _ => some (0,text)

-- Two hour digits and two minute digits, with colons or white space between them or not.
def readClockOffset? (text : Text) : Option (Int × Text) :=
  match text with
  | h :: hh :: rest =>
    match rest.dropWhile fun c => c == ':' || Text.isSpace c with
    | m :: mm :: after =>
      let hours := Text.digitsValue [h,hh]
      let minutes := Text.digitsValue [m,mm]
      if [h,hh,m,mm].all Text.isAsciiDigit ∧ minutes < 60 ∧ hours < 24 then
        some ((60 * hours + minutes : Nat),after)
      else none
    | _ => none
  | _ => none

def readOffset? (text : Text) : Option (Int × Text) :=
  match text with
  | [] => none
  | c :: rest =>
    if c = 'Z' ∨ c = 'z' then some (0,rest)
    else if c = '+' then readClockOffset? rest
    else if c = '-' ∨ c = '\u2212' then
      (readClockOffset? rest).map fun found => (-found.1,found.2)
    else
      match (text.take 3).map Char.toUpper with
      | ['U','T','C'] => some (0,text.drop 3)
      | _ => none

def read? (text : Text) : Option Instant := do
  let (year,rest) ← readYear? text
  let rest ← readMark? '-' rest
  let (month,rest) ← readNumber? 2 rest
  let rest ← readMark? '-' rest
  let (day,rest) ← readNumber? 2 rest
  let rest ← readSeparator? rest
  let (hour,rest) ← readNumber? 2 rest
  let rest ← readMark? ':' rest
  let (minute,rest) ← readNumber? 2 rest
  let rest ← readMark? ':' rest
  let (second,rest) ← readNumber? 2 rest
  let (nanosecond,rest) ← readNanosecond? rest
  let (offset,rest) ← readOffset? (Text.trimStart rest)
  let time : Instant := ⟨year,month,day,hour,minute,second,nanosecond⟩
  let instant := ofLocal offset time
  if Text.isBlank rest ∧ time.isValid ∧ isKnownYear instant.year then some instant else none

-- Writing.

def padded (width n : Nat) : Text :=
  let digits := Text.ofNat n
  List.replicate (width - digits.length) '0' ++ digits

-- Years of other than four digits are written with a sign.
def yearText (year : Int) : Text :=
  if 0 ≤ year ∧ year ≤ 9999 then padded 4 year.toNat
  else (if year < 0 then '-' else '+') :: padded 4 year.natAbs

-- The fewest of 0, 3, 6 and 9 digits that are exact.
def fractionText (nanosecond : Nat) : Text :=
  if nanosecond = 0 then []
  else if nanosecond % 1000000 = 0 then '.' :: padded 3 (nanosecond / 1000000)
  else if nanosecond % 1000 = 0 then '.' :: padded 6 (nanosecond / 1000)
  else '.' :: padded 9 nanosecond

def written (instant : Instant) : Text :=
  yearText instant.year ++ '-' :: padded 2 instant.month ++ '-' :: padded 2 instant.day ++
    'T' :: padded 2 instant.hour ++ ':' :: padded 2 instant.minute ++
    ':' :: padded 2 instant.second ++ fractionText instant.nanosecond ++ ['Z']

end Instant
end Marking
