namespace Marking.Text

-- The general category, of which every code point has exactly one.
inductive Category where
  | uppercaseLetter | lowercaseLetter | titlecaseLetter | modifierLetter | otherLetter
  | nonspacingMark | spacingMark | enclosingMark
  | decimalNumber | letterNumber | otherNumber
  | connectorPunctuation | dashPunctuation | openPunctuation | closePunctuation
  | initialPunctuation | finalPunctuation | otherPunctuation
  | mathSymbol | currencySymbol | modifierSymbol | otherSymbol
  | spaceSeparator | lineSeparator | paragraphSeparator
  | control | format | surrogate | privateUse | unassigned
  deriving DecidableEq,Repr

namespace Category

def isLetter : Category → Bool
  | .uppercaseLetter | .lowercaseLetter | .titlecaseLetter | .modifierLetter | .otherLetter => true
  | _ => false

def isMark : Category → Bool
  | .nonspacingMark | .spacingMark | .enclosingMark => true
  | _ => false

def isNumber : Category → Bool
  | .decimalNumber | .letterNumber | .otherNumber => true
  | _ => false

def isPunctuation : Category → Bool
  | .connectorPunctuation | .dashPunctuation | .openPunctuation | .closePunctuation
  | .initialPunctuation | .finalPunctuation | .otherPunctuation => true
  | _ => false

def isSymbol : Category → Bool
  | .mathSymbol | .currencySymbol | .modifierSymbol | .otherSymbol => true
  | _ => false

def isSeparator : Category → Bool
  | .spaceSeparator | .lineSeparator | .paragraphSeparator => true
  | _ => false

def isOther : Category → Bool
  | .control | .format | .surrogate | .privateUse | .unassigned => true
  | _ => false

-- What a stretch of the category table says of its code points. Case pairs are an
-- uppercase letter at every even distance from the start and a lowercase one between.
inductive Stretch where
  | all (category : Category)
  | casePairs
  deriving DecidableEq,Repr

structure Segment where
  first : Nat
  last : Nat
  stretch : Stretch
  deriving DecidableEq,Repr

def Segment.category (segment : Segment) (code : Nat) : Category :=
  match segment.stretch with
  | .all category => category
  | .casePairs => if (code - segment.first) % 2 = 0 then .uppercaseLetter else .lowercaseLetter

-- Segments are in ascending order, so the search ends at the first that reaches the code.
def find : List Segment → Nat → Category
  | [],_ => .unassigned
  | segment :: rest,code =>
    if code ≤ segment.last then
      if segment.first ≤ code then segment.category code else .unassigned
    else find rest code

end Category
end Marking.Text
