import Marking.Text.Case.Table
import Marking.Text.Category.Table
import Marking.Text.Class.Table

-- Characters over all of Unicode: the classes that the rule language, the patterns and casing use, and
-- the full mappings of casing with the rule for the last sigma of a word.

namespace Marking.Text
open Case Marking.Text.Class

-- The White_Space property: blanks, line ends and the no-break spaces, but neither the
-- zero width space nor the information separators.
def spaceSpans : List Span := [
  ⟨0x9,0xD⟩, ⟨0x20,0x20⟩, ⟨0x85,0x85⟩, ⟨0xA0,0xA0⟩, ⟨0x1680,0x1680⟩, ⟨0x2000,0x200A⟩,
  ⟨0x2028,0x2029⟩, ⟨0x202F,0x202F⟩, ⟨0x205F,0x205F⟩, ⟨0x3000,0x3000⟩]

def isSpace (c : Char) : Bool := inSpans spaceSpans c

def isAlphabetic (c : Char) : Bool :=
  (category c).isLetter || category c == .letterNumber || inSpans otherAlphabetic c

def isNumeric (c : Char) : Bool := (category c).isNumber

def isAlphanumeric (c : Char) : Bool := isAlphabetic c || isNumeric c

def isDecimalDigit (c : Char) : Bool := category c == .decimalNumber

def isJoinControl (c : Char) : Bool := c == '\u200c' || c == '\u200d'

-- A character of an identifier-like word: letters, marks, decimal digits, connectors such
-- as the underscore, and the two join controls.
def isWordChar (c : Char) : Bool :=
  isAlphabetic c || (category c).isMark || isDecimalDigit c ||
    category c == .connectorPunctuation || isJoinControl c

def isUppercase (c : Char) : Bool := category c == .uppercaseLetter || inSpans otherUppercase c

def isLowercase (c : Char) : Bool := category c == .lowercaseLetter || inSpans otherLowercase c

def isCased (c : Char) : Bool := isUppercase c || isLowercase c || category c == .titlecaseLetter

def isCaseIgnorable (c : Char) : Bool :=
  match category c with
  | .nonspacingMark | .enclosingMark | .format | .modifierLetter | .modifierSymbol => true
  | _ => inSpans otherCaseIgnorable c

def isGraphemeExtend (c : Char) : Bool :=
  match category c with
  | .nonspacingMark | .enclosingMark => true
  | _ => inSpans otherGraphemeExtend c

-- Printable characters are those that quoting shows as they are: the plain space and
-- everything that is neither a separator nor a control, format, private or unassigned code.
def isPrintable (c : Char) : Bool :=
  c == ' ' || !((category c).isSeparator || (category c).isOther)

def upperChar (c : Char) : List Char :=
  match upperExpansions.lookup c.toNat with
  | some codes => codes.map Char.ofNat
  | none => [Char.ofNat ((upperRuns.findSome? (·.image? c.toNat)).getD c.toNat)]

-- Only the dotted capital I has a lowercase form of two characters.
def lowerChar (c : Char) : List Char :=
  if c = '\u0130' then ['i','\u0307']
  else [Char.ofNat ((lowerRuns.findSome? (·.image? c.toNat)).getD c.toNat)]

def upperAll (text : List Char) : List Char := text.flatMap upperChar

-- Whether the first character that casing does not look past is a cased one.
def casedAhead (text : List Char) : Bool :=
  match text.dropWhile isCaseIgnorable with
  | [] => false
  | c :: _ => isCased c

-- A capital sigma ends a word when a cased character stands before it and none after it.
-- `before` is what has been read, last character first.
def lowerFrom (before : List Char) : List Char → List Char
  | [] => []
  | c :: rest =>
    let image :=
      if c = '\u03a3' then
        [if casedAhead before && !casedAhead rest then '\u03c2' else '\u03c3']
      else lowerChar c
    image ++ lowerFrom (c :: before) rest

def lowerAll (text : List Char) : List Char := lowerFrom [] text

end Marking.Text
