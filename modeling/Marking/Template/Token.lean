import Marking.Json.Reading

-- The words of a template tag.

namespace Marking.Template

inductive Symbol where
  | plus
  | tilde
  | equal
  | unequal
  | assign
  | pipe
  | dot
  | comma
  | opening
  | closing
  deriving DecidableEq,Repr

inductive Token where
  | name (text : Text)
  | text (value : Text)
  | int (value : Nat)
  | symbol (symbol : Symbol)
  deriving DecidableEq,Repr

-- Tags are laid out with ASCII white space.
def isTagSpace (c : Char) : Bool :=
  c == ' ' || c == '\t' || c == '\n' || c == '\x0c' || c == '\r'

def isNameStart (c : Char) : Bool := c.isAlpha || c == '_'

def isNameChar (c : Char) : Bool := c.isAlphanum || c == '_'

-- The text of a string up to the closing quote, escapes left as they are, and what follows.
def cutAtQuote? (quote : Char) : Text → Option (Text × Text)
  | [] => none
  | '\\' :: c :: rest => (cutAtQuote? quote rest).map fun found => ('\\' :: c :: found.1,found.2)
  | c :: rest =>
    if c = quote then some ([],rest)
    else (cutAtQuote? quote rest).map fun found => (c :: found.1,found.2)

-- A number in a base of at most sixteen, with at least one digit. A plus sign may come first.
def numeral? (base : Nat) (digits : Text) : Option Nat :=
  let unsigned :=
    match digits with
    | '+' :: rest => rest
    | _ => digits
  if unsigned.isEmpty then none
  else
    unsigned.foldlM (fun value c =>
      (Json.hexDigit? c).bind fun digit =>
        if digit < base then some (base * value + digit) else none) 0

def isOctal (c : Char) : Bool := '0' ≤ c && c ≤ '7'

-- At most `count` further octal digits of a code.
def readOctal : Nat → Nat → Text → Nat × Text
  | count + 1,code,c :: rest =>
    if isOctal c then readOctal count (8 * code + (c.toNat - '0'.toNat)) rest else (code,c :: rest)
  | _,code,text => (code,text)

-- Resolves the escapes of a string: short ones, codes with one to three octal digits, with
-- two hexadecimal digits and with four. An octal code fits a byte. Any other character keeps
-- its backslash. Every round consumes a character.
def unescape? : Nat → Text → Option (List Json.Piece)
  | 0,_ => none
  | _,[] => some []
  | fuel + 1,'\\' :: rest =>
    match rest with
    | [] => none
    | 'u' :: a :: b :: c :: d :: after => do
      let code ← numeral? 16 [a,b,c,d]
      (unescape? fuel after).map (.unit code :: ·)
    | 'x' :: a :: b :: after => do
      let code ← numeral? 16 [a,b]
      (unescape? fuel after).map (.char (Char.ofNat code) :: ·)
    | c :: after =>
      if c = 'u' ∨ c = 'x' then none
      else if isOctal c then
        let (code,after) := readOctal 3 0 rest
        if code < 256 then (unescape? fuel after).map (.char (Char.ofNat code) :: ·) else none
      else
        match if c = '\'' then some c else Json.shortEscape? c with
        | some escaped => (unescape? fuel after).map (.char escaped :: ·)
        | none => (unescape? fuel after).map fun pieces => .char '\\' :: .char c :: pieces
  | fuel + 1,c :: rest => (unescape? fuel rest).map (.char c :: ·)

def readText? (quote : Char) (text : Text) : Option (Token × Text) := do
  let (inside,rest) ← cutAtQuote? quote text
  let pieces ← unescape? (inside.length + 1) inside
  let value ← Json.textOf? pieces
  some (.text value,rest)

-- The base of a number that begins like this, and the text after the mark of the base.
def baseOf (text : Text) : Nat × Text :=
  match text with
  | '0' :: c :: rest =>
    if c = 'b' ∨ c = 'B' then (2,rest)
    else if c = 'o' ∨ c = 'O' then (8,rest)
    else if c = 'x' ∨ c = 'X' then (16,rest)
    else (10,text)
  | _ => (10,text)

-- Whether a decimal number goes on with a fraction or an exponent, which no value has.
def isFractional (rest : Text) : Bool :=
  match rest with
  | '.' :: c :: _ => Text.isAsciiDigit c
  | 'e' :: _ => true
  | 'E' :: _ => true
  | _ => false

-- Whole numbers of at most 128 bits. Underscores may stand between digits.
def readInt? (text : Text) : Option (Token × Text) := do
  let (base,start) := baseOf text
  let isPart (c : Char) : Bool :=
    c == '_' || Text.isAsciiDigit c || (base == 16 && (Json.hexDigit? c).isSome)
  let written := start.takeWhile isPart
  let rest := start.dropWhile isPart
  let value ← numeral? base (written.filter (· != '_'))
  if written.getLast? = some '_' ∨ (base = 10 ∧ isFractional rest) ∨ Nat.pow 2 128 ≤ value then none
  else some (.int value,rest)

def readToken? (text : Text) : Option (Token × Text) :=
  match text with
  | '=' :: '=' :: rest => some (.symbol .equal,rest)
  | '!' :: '=' :: rest => some (.symbol .unequal,rest)
  | '+' :: rest => some (.symbol .plus,rest)
  | '~' :: rest => some (.symbol .tilde,rest)
  | '=' :: rest => some (.symbol .assign,rest)
  | '|' :: rest => some (.symbol .pipe,rest)
  | '.' :: rest => some (.symbol .dot,rest)
  | ',' :: rest => some (.symbol .comma,rest)
  | '(' :: rest => some (.symbol .opening,rest)
  | ')' :: rest => some (.symbol .closing,rest)
  | '"' :: rest => readText? '"' rest
  | '\'' :: rest => readText? '\'' rest
  | c :: rest =>
    if Text.isAsciiDigit c then readInt? (c :: rest)
    else if isNameStart c then
      some (.name (c :: rest.takeWhile isNameChar),rest.dropWhile isNameChar)
    else none
  | [] => none

-- The end of a tag, with a minus sign where the white space after it goes, and the text
-- after it.
def tagEnd? (close : Text) (text : Text) : Option (Bool × Text) :=
  match text with
  | '-' :: rest => (Text.after? close rest).map (true,·)
  | '+' :: rest => (Text.after? close rest).map (false,·)
  | _ => (Text.after? close text).map (false,·)

-- Reads up to the end of a tag. Every round consumes a character.
def readTokens? (close : Text) : Nat → Text → Option (List Token × Bool × Text)
  | 0,_ => none
  | fuel + 1,text =>
    let start := text.dropWhile isTagSpace
    match tagEnd? close start with
    | some (trim,rest) => some ([],trim,rest)
    | none => do
      let (token,rest) ← readToken? start
      let (tokens,trim,after) ← readTokens? close fuel rest
      some (token :: tokens,trim,after)

end Marking.Template
