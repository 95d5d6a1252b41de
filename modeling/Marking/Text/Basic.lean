import Marking.Text.Case

-- Texts are sequences of Unicode scalar values.

namespace Marking

abbrev Text := List Char

namespace Text

-- Empty, or white space only.
def isBlank (text : Text) : Bool := text.all isSpace

def nonBlank? (text : Option Text) : Option Text := text.filter (!isBlank ·)

def dropTrailing (drop : Char → Bool) (text : Text) : Text := (text.reverse.dropWhile drop).reverse

def trimStart (text : Text) : Text := text.dropWhile isSpace

def trimEnd (text : Text) : Text := dropTrailing isSpace text

def trim (text : Text) : Text := trimEnd (trimStart text)

-- What follows `head`, where `text` begins with it.
def after? (head text : Text) : Option Text :=
  match head,text with
  | [],rest => some rest
  | _ :: _,[] => none
  | h :: head,c :: rest => if h = c then after? head rest else none

theorem after_eq_some_iff {head text rest : Text} :
    after? head text = some rest ↔ text = head ++ rest := by
  induction head generalizing text with
  | nil => simp [after?]
  | cons h head ih =>
      cases text with
      | nil => simp [after?]
      | cons c text =>
          by_cases same : h = c
          · simp [after?,same,ih]
          · simp [after?,same,Ne.symm same]

def startsWith (head text : Text) : Bool := (after? head text).isSome

def hasPart (part : Text) : Text → Bool
  | [] => part.isEmpty
  | c :: rest => startsWith part (c :: rest) || hasPart part rest

-- The text with its first occurrence of `part` replaced.
def replaceFirst (part replacement : Text) : Text → Text
  | [] => if part.isEmpty then replacement else []
  | c :: rest =>
    match after? part (c :: rest) with
    | some tail => replacement ++ tail
    | none => c :: replaceFirst part replacement rest

-- The parts before and after the first and the last occurrence of a character.
def cutAtFirst? (mark : Char) : Text → Option (Text × Text)
  | [] => none
  | c :: rest =>
    if c = mark then some ([],rest)
    else (cutAtFirst? mark rest).map fun cut => (c :: cut.1,cut.2)

def cutAtLast? {α : Type} [DecidableEq α] (mark : α) : List α → Option (List α × List α)
  | [] => none
  | c :: rest =>
    match cutAtLast? mark rest with
    | some cut => some (c :: cut.1,cut.2)
    | none => if c = mark then some ([],rest) else none

-- The first character in its full uppercase form, where it can be part of a name.
def capitalizeFirst : Text → Text
  | [] => []
  | c :: rest => if isAlphanumeric c || c == '_' then upperChar c ++ rest else c :: rest

-- The bytes of a text, and the text of bytes that are those of one.
def encoded (text : Text) : List UInt8 := text.flatMap String.utf8EncodeChar

def decoded? (bytes : List UInt8) : Option Text :=
  (String.fromUTF8? ⟨bytes.toArray⟩).map (·.toList)

-- A text in double quotes for messages, where what cannot be printed is named by its code.
def codeEscape (c : Char) : Text :=
  ['\\','u','\x7b'] ++ Nat.toDigits 16 c.toNat ++ ['\x7d']

def quotedChar (c : Char) : Text :=
  match c with
  | '"' => ['\\','"']
  | '\\' => ['\\','\\']
  | '\n' => ['\\','n']
  | '\r' => ['\\','r']
  | '\t' => ['\\','t']
  | '\x00' => ['\\','0']
  | _ => if isGraphemeExtend c || !isPrintable c then codeEscape c else [c]

def quoted (text : Text) : Text := '"' :: text.flatMap quotedChar ++ ['"']

-- Decimal integers: how they are written, and which texts are read as 64-bit values.
def isAsciiDigit (c : Char) : Bool := '0' ≤ c && c ≤ '9'

def digitsValue (digits : Text) : Nat :=
  digits.foldl (fun value c => 10 * value + (c.toNat - '0'.toNat)) 0

def ofNat (n : Nat) : Text := Nat.toDigits 10 n

def ofInt : Int → Text
  | .ofNat n => ofNat n
  | .negSucc n => '-' :: ofNat (n + 1)

def fitsInt64 (n : Int) : Bool := -Int.pow 2 63 ≤ n && n < Int.pow 2 63

def toInt64? (n : Int) : Option Int64 := if fitsInt64 n then some (Int64.ofInt n) else none

-- The value of digits, as long as it stays below a bound at each of them.
def boundedValue? (bound : Nat) (digits : Text) : Option Nat :=
  digits.foldlM (fun value c =>
    let next := 10 * value + (c.toNat - '0'.toNat)
    if next < bound then some next else none) 0

-- One or more digits.
def readNat? (text : Text) : Option Nat :=
  if !text.isEmpty && text.all isAsciiDigit then some (digitsValue text) else none

-- An optional sign and one or more digits whose value fits into 64 bits.
def readInt64? (text : Text) : Option Int64 :=
  match text with
  | '-' :: digits => (readNat? digits).bind fun n => toInt64? (-(n : Int))
  | '+' :: digits => (readNat? digits).bind fun n => toInt64? n
  | digits => (readNat? digits).bind fun n => toInt64? n

end Text
end Marking
