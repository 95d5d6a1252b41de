import Marking.Json

-- How JSON is written. White space is the space, the tab and the two line end characters.

namespace Marking.Json

def isSpace (c : Char) : Bool := c == ' ' || c == '\t' || c == '\n' || c == '\r'

def skip (text : Text) : Text := text.dropWhile isSpace

def hexDigit? (c : Char) : Option Nat :=
  if Text.isAsciiDigit c then some (c.toNat - '0'.toNat)
  else if 'a' ≤ c ∧ c ≤ 'f' then some (c.toNat - 'a'.toNat + 10)
  else if 'A' ≤ c ∧ c ≤ 'F' then some (c.toNat - 'A'.toNat + 10)
  else none

def hexUnit? (a b c d : Char) : Option Nat := do
  let a ← hexDigit? a
  let b ← hexDigit? b
  let c ← hexDigit? c
  let d ← hexDigit? d
  some (((a * 16 + b) * 16 + c) * 16 + d)

def shortEscape? : Char → Option Char
  | '"' => some '"'
  | '\\' => some '\\'
  | '/' => some '/'
  | 'b' => some '\x08'
  | 'f' => some '\x0c'
  | 'n' => some '\n'
  | 'r' => some '\r'
  | 't' => some '\t'
  | _ => none

-- Reads a string whose opening quote has been read. Control characters have to be escaped.
def readString? : Text → Option (List Piece × Text)
  | [] => none
  | '"' :: rest => some ([],rest)
  | '\\' :: 'u' :: a :: b :: c :: d :: rest => do
    let code ← hexUnit? a b c d
    let (pieces,after) ← readString? rest
    some (.unit code :: pieces,after)
  | '\\' :: c :: rest => do
    let escaped ← shortEscape? c
    let (pieces,after) ← readString? rest
    some (.char escaped :: pieces,after)
  | c :: rest => do
    if c.toNat < 0x20 ∨ c = '\\' then none
    else
      let (pieces,after) ← readString? rest
      some (.char c :: pieces,after)

-- One or more digits.
def readDigits? (text : Text) : Option (Text × Text) :=
  let digits := text.takeWhile Text.isAsciiDigit
  if digits.isEmpty then none else some (digits,text.dropWhile Text.isAsciiDigit)

-- Only a lone zero may begin with zero.
def readWhole? (text : Text) : Option (Text × Text) := do
  let (digits,rest) ← readDigits? text
  if digits.length > 1 ∧ digits.head? = some '0' then none else some (digits,rest)

def readFraction? (text : Text) : Option (Option Text × Text) :=
  match text with
  | '.' :: rest => (readDigits? rest).map fun found => (some found.1,found.2)
  | _ => some (none,text)

def readExponent? (text : Text) : Option (Option (Bool × Text) × Text) :=
  match text with
  | [] => some (none,text)
  | c :: rest =>
    if c = 'e' ∨ c = 'E' then
      match rest with
      | '-' :: digits => (readDigits? digits).map fun found => (some (true,found.1),found.2)
      | '+' :: digits => (readDigits? digits).map fun found => (some (false,found.1),found.2)
      | digits => (readDigits? digits).map fun found => (some (false,found.1),found.2)
    else some (none,text)

def readNumber? (text : Text) : Option (Number × Text) := do
  let (negative,unsigned) :=
    match text with
    | '-' :: rest => (true,rest)
    | _ => (false,text)
  let (whole,rest) ← readWhole? unsigned
  let (fraction,rest) ← readFraction? rest
  let (exponent,rest) ← readExponent? rest
  some (⟨negative,whole,fraction,exponent⟩,rest)

mutual

-- Reads one value. The fuel bounds the calls, of which a text needs at most two for each of
-- its characters.
def readValue? : Nat → Text → Option (Json × Text)
  | 0,_ => none
  | fuel + 1,text =>
    match skip text with
    | 'n' :: 'u' :: 'l' :: 'l' :: rest => some (.null,rest)
    | 't' :: 'r' :: 'u' :: 'e' :: rest => some (.bool true,rest)
    | 'f' :: 'a' :: 'l' :: 's' :: 'e' :: rest => some (.bool false,rest)
    | '"' :: rest => (readString? rest).map fun found => (.string found.1,found.2)
    | '[' :: rest =>
      match skip rest with
      | ']' :: after => some (.array [],after)
      | _ => (readItems? fuel rest).map fun found => (.array found.1,found.2)
    | '\x7b' :: rest =>
      match skip rest with
      | '\x7d' :: after => some (.object [],after)
      | _ => (readMembers? fuel rest).map fun found => (.object found.1,found.2)
    | other => (readNumber? other).map fun found => (.number found.1,found.2)

-- Reads items up to the bracket that closes their array.
def readItems? : Nat → Text → Option (List Json × Text)
  | 0,_ => none
  | fuel + 1,text => do
    let (item,rest) ← readValue? fuel text
    match skip rest with
    | ',' :: more =>
      let (items,after) ← readItems? fuel more
      some (item :: items,after)
    | ']' :: after => some ([item],after)
    | _ => none

-- Reads members up to the brace that closes their object.
def readMembers? : Nat → Text → Option (List (List Piece × Json) × Text)
  | 0,_ => none
  | fuel + 1,text =>
    match skip text with
    | '"' :: rest => do
      let (name,rest) ← readString? rest
      match skip rest with
      | ':' :: rest =>
        let (value,rest) ← readValue? fuel rest
        match skip rest with
        | ',' :: more =>
          let (members,after) ← readMembers? fuel more
          some ((name,value) :: members,after)
        | '\x7d' :: after => some ([(name,value)],after)
        | _ => none
      | _ => none
    | _ => none

end

-- A text holds one value and white space around it.
def read? (text : Text) : Option Json :=
  match readValue? (2 * text.length + 2) text with
  | some (value,rest) => if (skip rest).isEmpty then some value else none
  | none => none

end Marking.Json
