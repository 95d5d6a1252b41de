import Marking.Binary64
import Marking.Text.Basic

-- JSON values as they are written: numbers keep their digits and strings their escapes,
-- because only the values that are used have to fit a range or denote a text.

namespace Marking

namespace Json

-- One unit of a string: a character, or a 16-bit unit written as a hexadecimal escape.
inductive Piece where
  | char (c : Char)
  | unit (code : Nat)
  deriving DecidableEq,Repr

-- The digits of a number. The exponent has a sign and digits.
structure Number where
  negative : Bool
  whole : Text
  fraction : Option Text
  exponent : Option (Bool × Text)
  deriving DecidableEq,Repr

end Json

inductive Json where
  | null
  | bool (value : Bool)
  | number (value : Json.Number)
  | string (pieces : List Json.Piece)
  | array (items : List Json)
  | object (members : List (List Json.Piece × Json))

namespace Json

-- Surrogates denote a character in pairs and nothing alone.
def textOf? : List Piece → Option Text
  | [] => some []
  | .char c :: rest => (textOf? rest).map (c :: ·)
  | .unit code :: rest =>
    if 0xD800 ≤ code ∧ code < 0xDC00 then
      match rest with
      | .unit low :: after =>
        if 0xDC00 ≤ low ∧ low < 0xE000 then
          (textOf? after).map
            (Char.ofNat (0x10000 + (code - 0xD800) * 0x400 + (low - 0xDC00)) :: ·)
        else none
      | _ => none
    else if 0xDC00 ≤ code ∧ code < 0xE000 then none
    else (textOf? rest).map (Char.ofNat code :: ·)

def text? : Json → Option Text
  | .string pieces => textOf? pieces
  | _ => none

def bool? : Json → Option Bool
  | .bool value => some value
  | _ => none

def optionalText? : Json → Option (Option Text)
  | .null => some none
  | value => value.text?.map some

-- An integer has neither fraction nor exponent; a negative zero is not one.
def Number.int64? (number : Number) : Option Int64 :=
  match number.fraction,number.exponent with
  | none,none =>
    let value := (Text.digitsValue number.whole : Int)
    if number.negative then if value = 0 then none else Text.toInt64? (-value)
    else Text.toInt64? value
  | _,_ => none

def int64? : Json → Option Int64
  | .number written => written.int64?
  | _ => none

-- Reads on after a coefficient as long as 64 bits hold it, and gives what is left over.
def Number.gather (coefficient : Nat) : Text → Nat × Text
  | [] => (coefficient,[])
  | c :: rest =>
    let next := 10 * coefficient + (c.toNat - '0'.toNat)
    if next < Nat.pow 2 64 then gather next rest else (coefficient,c :: rest)

-- The digits that fit are scaled by the power of ten of the last one. The digits left over
-- count for the power where they are whole, and not at all behind the point. A number beyond
-- the range of doubles is refused.
def Number.binary64? (number : Number) : Option Binary64 := do
  let (start,wholeLeft) := gather 0 number.whole
  let fraction := number.fraction.getD []
  let (coefficient,fractionLeft) := gather start fraction
  let exponent : Int :=
    match number.exponent with
    | none => 0
    | some (negative,digits) =>
      if negative then -(Text.digitsValue digits : Int) else Text.digitsValue digits
  let value ← Binary64.scaled? coefficient
    (exponent + wholeLeft.length - (fraction.length - fractionLeft.length : Nat))
  return if number.negative then value.negate else value

def binary64? : Json → Option Binary64
  | .number written => written.binary64?
  | _ => none

-- The values under the given names, in their order. A record is written as an object, where
-- a known name stands at most once and others do not matter, or as an array of its values,
-- which may end early. The flag tells the second form.
def fields? (names : List Text) : Json → Option (Bool × List (Option Json))
  | .object members => do
    let known ← members.mapM fun member => (textOf? member.1).map (·,member.2)
    let values ← names.mapM fun name =>
      match known.filter (·.1 == name) with
      | [] => some none
      | [member] => some (some member.2)
      | _ => none
    some (false,values)
  | .array items =>
    if items.length ≤ names.length then
      some (true,items.map some ++ List.replicate (names.length - items.length) none)
    else none
  | _ => none

-- A value that has to be there, and one that may be missing.
def required (read : Json → Option α) (value : Option Json) : Option α := value.bind read

def defaulted (read : Json → Option α) (default : α) : Option Json → Option α
  | none => some default
  | some value => read value

-- How texts and numbers stand in JSON.
def hexChar (n : Nat) : Char := (Nat.toDigits 16 n).headD '0'

-- Quotes, backslashes and control characters are escaped, the common ones by a letter.
def escape (c : Char) : Text :=
  match c with
  | '"' => ['\\','"']
  | '\\' => ['\\','\\']
  | '\x08' => ['\\','b']
  | '\x0c' => ['\\','f']
  | '\n' => ['\\','n']
  | '\r' => ['\\','r']
  | '\t' => ['\\','t']
  | _ =>
    if c.toNat < 0x20 then "\\u00".toList ++ [hexChar (c.toNat / 16),hexChar (c.toNat % 16)]
    else [c]

def quoted (text : Text) : Text := '"' :: text.flatMap escape ++ ['"']

def boolText (value : Bool) : Text := (if value then "true" else "false").toList

def optionalText (text : Option Text) : Text := (text.map quoted).getD "null".toList

-- An object whose values are written already.
def objectText (members : List (Text × Text)) : Text :=
  '\x7b' :: List.intercalate [','] (members.map fun member => quoted member.1 ++ ':' :: member.2) ++
    ['\x7d']

end Json
end Marking
