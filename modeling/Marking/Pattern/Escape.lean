import Marking.Pattern.Modes
import Marking.Pattern.Property
import Marking.Text.Basic

-- What a backslash introduces.

namespace Marking.Pattern

-- A character may be written as a byte, with two hexadecimal digits.
inductive Escape where
  | char (c : Char) (asByte : Bool)
  | set (members : CharSet)
  | assertion (kind : Assertion)
  deriving DecidableEq,Repr

namespace Escape

def isMeta (c : Char) : Bool := "\\.+*?()|[]\x7b\x7d^$#&-~".toList.contains c

-- ASCII characters that stand for themselves: all but letters, digits and angle brackets.
def isPlain (c : Char) : Bool := c.toNat < 128 && !(c.isAlphanum || c == '<' || c == '>')

def hexValue (c : Char) : Nat :=
  if Text.isAsciiDigit c then c.toNat - '0'.toNat
  else c.toLower.toNat - 'a'.toNat + 10

def charOfHex? (digits : Text) : Option Char :=
  let code := digits.foldl (fun value c => 16 * value + hexValue c) 0
  if h : code.isValidChar then some (Char.ofNatAux code h) else none

-- A code point, in braces or with a fixed count of digits.
def readHex? (modes : Modes) (count : Nat) (text : Text) : Option (Escape × Text) :=
  match modes.skip text with
  | '\x7b' :: rest =>
    match modes.spaced CharSet.asciiHexDigit.has rest.length (modes.skip rest) with
    | ([],_) => none
    | (digits,'\x7d' :: after) => (charOfHex? digits).map (.char · false,modes.skip after)
    | _ => none
  | rest =>
    let (digits,after) := modes.spaced CharSet.asciiHexDigit.has count rest
    if digits.length = count then (charOfHex? digits).map (.char · (count == 2),after) else none

-- The text between the braces of a property: a name, or a name and a value. The flag tells
-- whether the value is excluded.
def named? (content : Text) : Option (CharSet × Bool) :=
  match cutAtUnequal? content with
  | some (name,value) => (Property.valued? name value).map (·,true)
  | none =>
    match Text.cutAtFirst? ':' content <|> Text.cutAtFirst? '=' content with
    | some (name,value) => (Property.valued? name value).map (·,false)
    | none => (Property.single? content).map (·,false)
where
  cutAtUnequal? : Text → Option (Text × Text)
    | [] => none
    | [_] => none
    | '!' :: '=' :: rest => some ([],rest)
    | c :: rest => (cutAtUnequal? rest).map fun cut => (c :: cut.1,cut.2)

def propertySet? (modes : Modes) (negated : Bool) (found : CharSet × Bool) : Option Escape :=
  if modes.unicode then
    (modes.complement? (negated != found.2) (modes.cased found.1)).map .set
  else none

def readProperty? (modes : Modes) (negated : Bool) (text : Text) : Option (Escape × Text) :=
  match modes.skip text with
  | [] => none
  | '\x7b' :: rest =>
    match modes.spaced (· != '\x7d') rest.length (modes.skip rest) with
    | (content,_ :: after) => do
      let found ← named? content
      let set ← propertySet? modes negated found
      some (set,after)
    | (_,[]) => none
  | c :: rest =>
    if c = '\\' then none
    else do
      let found ← Property.single? [c]
      let set ← propertySet? modes negated (found,false)
      some (set,modes.skip rest)

def boundaryNamed? (name : Text) : Option Boundary :=
  if name = "start".toList then some .wordStart
  else if name = "end".toList then some .wordEnd
  else if name = "start-half".toList then some .startHalf
  else if name = "end-half".toList then some .endHalf
  else none

def isBoundaryNameChar (c : Char) : Bool := c.isAlpha || c == '-'

-- Braces after the boundary escape hold its kind if they begin like a name, and otherwise a
-- repetition, which is read later.
def readBoundary? (modes : Modes) (text : Text) : Option (Escape × Text) :=
  let plain : Escape := .assertion (.boundary .edge (!modes.unicode))
  match text with
  | '\x7b' :: rest =>
    match modes.skip rest with
    | [] => none
    | c :: more =>
      if isBoundaryNameChar c then
        match modes.spaced isBoundaryNameChar rest.length (c :: more) with
        | (name,'\x7d' :: after) =>
          (boundaryNamed? name).map fun kind => (.assertion (.boundary kind (!modes.unicode)),after)
        | _ => none
      else some (plain,text)
  | _ => some (plain,text)

def classSet? (modes : Modes) (negated : Bool) (set : CharSet) (rest : Text) :
    Option (Escape × Text) :=
  (modes.complement? negated set).map (.set ·,rest)

-- Reads what follows the backslash. There are no references back to groups.
def read? (modes : Modes) (text : Text) : Option (Escape × Text) :=
  match text with
  | [] => none
  | c :: rest =>
    let ascii := !modes.unicode
    match c with
    | 'x' => readHex? modes 2 rest
    | 'u' => readHex? modes 4 rest
    | 'U' => readHex? modes 8 rest
    | 'p' => readProperty? modes false rest
    | 'P' => readProperty? modes true rest
    | 'd' => classSet? modes false modes.digits rest
    | 'D' => classSet? modes true modes.digits rest
    | 's' => classSet? modes false modes.spaces rest
    | 'S' => classSet? modes true modes.spaces rest
    | 'w' => classSet? modes false modes.words rest
    | 'W' => classSet? modes true modes.words rest
    | 'a' => some (.char '\x07' false,rest)
    | 'f' => some (.char '\x0c' false,rest)
    | 't' => some (.char '\t' false,rest)
    | 'n' => some (.char '\n' false,rest)
    | 'r' => some (.char '\r' false,rest)
    | 'v' => some (.char '\x0b' false,rest)
    | 'A' => some (.assertion .textStart,rest)
    | 'z' => some (.assertion .textEnd,rest)
    | 'b' => readBoundary? modes rest
    | 'B' => some (.assertion (.boundary .noEdge ascii),rest)
    | '<' => some (.assertion (.boundary .wordStart ascii),rest)
    | '>' => some (.assertion (.boundary .wordEnd ascii),rest)
    | _ => if isMeta c || isPlain c then some (.char c false,rest) else none

end Escape
end Marking.Pattern
