import Marking.Pattern.Property.Trait

-- Patterns over text. A pattern says between which two places of a text it matches; which of
-- several matches would be preferred makes no difference to a rule.

namespace Marking

namespace Pattern

-- What a word consists of, where word boundaries are looked for.
def isWordChar (c : Char) : Bool := !isLater c.toNat && Text.isWordChar c

namespace CharSet

def digit : CharSet := ofCategories [.decimalNumber]

def space : CharSet := ⟨Text.spaceSpans⟩

def word : CharSet := unions [Trait.set .alphabetic,Trait.set .joinControl,
  ofCategories [.nonspacingMark,.spacingMark,.enclosingMark,.decimalNumber,.connectorPunctuation]]

end CharSet

-- What a word boundary requires of its two sides.
inductive Boundary where
  | edge
  | noEdge
  | wordStart
  | wordEnd
  | startHalf
  | endHalf
  deriving DecidableEq,Repr

-- Conditions on the characters before and after a place.
inductive Assertion where
  | textStart
  | textEnd
  | lineStart
  | lineEnd
  | crlfLineStart
  | crlfLineEnd
  | boundary (kind : Boundary) (ascii : Bool)
  deriving DecidableEq,Repr

def Boundary.holds (boundary : Boundary) (before after : Bool) : Bool :=
  match boundary with
  | .edge => before != after
  | .noEdge => before == after
  | .wordStart => !before && after
  | .wordEnd => before && !after
  | .startHalf => !before
  | .endHalf => !after

def isWordSide (ascii : Bool) (side : Option Char) : Bool :=
  side.any fun c => if ascii then CharSet.asciiWord.has c else isWordChar c

def Assertion.holds (assertion : Assertion) (before after : Option Char) : Bool :=
  match assertion with
  | .textStart => before.isNone
  | .textEnd => after.isNone
  | .lineStart => before.isNone || before == some '\n'
  | .lineEnd => after.isNone || after == some '\n'
  | .crlfLineStart =>
    before.isNone || before == some '\n' || (before == some '\r' && after != some '\n')
  | .crlfLineEnd =>
    after.isNone || after == some '\r' || (after == some '\n' && before != some '\r')
  | .boundary kind ascii => kind.holds (isWordSide ascii before) (isWordSide ascii after)

end Pattern

inductive Pattern where
  | empty
  | one (set : Pattern.CharSet)
  | assert (assertion : Pattern.Assertion)
  | both (first second : Pattern)
  | either (left right : Pattern)
  | repeated (body : Pattern) (least : Nat) (most : Option Nat)
  | group (body : Pattern)
  deriving DecidableEq,Repr

namespace Pattern

-- Whether a pattern can match no text but the empty one.
def matchesOnlyEmpty : Pattern → Bool
  | .empty => true
  | .one _ => false
  | .assert _ => true
  | .both first second => first.matchesOnlyEmpty && second.matchesOnlyEmpty
  | .either left right => left.matchesOnlyEmpty && right.matchesOnlyEmpty
  | .repeated body _ most => body.matchesOnlyEmpty || most = some 0
  | .group body => body.matchesOnlyEmpty

-- A set of places of a text: one mark for the place before each character and one for the
-- end.
abbrev Marks := List Bool

-- The characters on both sides of each place.
def sidesFrom (before : Option Char) : Text → List (Option Char × Option Char)
  | [] => [(before,none)]
  | c :: rest => (before,some c) :: sidesFrom (some c) rest

def sides (text : Text) : List (Option Char × Option Char) := sidesFrom none text

def everywhere (text : Text) : Marks := List.replicate (text.length + 1) true

def Marks.merge (left right : Marks) : Marks := List.zipWith (· || ·) left right

-- One step of growth for each unit of fuel, until nothing is added.
def Marks.grow (advance : Marks → Marks) : Nat → Marks → Marks
  | 0,marks => marks
  | fuel + 1,marks =>
    let grown := Marks.merge marks (advance marks)
    if grown = marks then marks else Marks.grow advance fuel grown

-- A fixed number of steps; steps that change nothing are not taken twice.
def Marks.steps (advance : Marks → Marks) : Nat → Marks → Marks
  | 0,marks => marks
  | count + 1,marks =>
    let next := advance marks
    if next = marks then marks else Marks.steps advance count next

-- The places where a match that starts at a marked place can end. A repetition without an
-- upper limit reaches no new place after as many steps as there are places.
def reach (text : Text) : Pattern → Marks → Marks
  | .empty,marks => marks
  | .one set,marks => false :: List.zipWith (fun mark c => mark && set.has c) marks text
  | .assert assertion,marks =>
    List.zipWith (fun mark side => mark && assertion.holds side.1 side.2) marks (sides text)
  | .both first second,marks => reach text second (reach text first marks)
  | .either left right,marks => Marks.merge (reach text left marks) (reach text right marks)
  | .repeated body least most,marks =>
    let reached := Marks.steps (reach text body) least marks
    Marks.grow (reach text body) ((most.map (· - least)).getD (text.length + 1)) reached
  | .group body,marks => reach text body marks

def isMatch (pattern : Pattern) (text : Text) : Bool :=
  (reach text pattern (everywhere text)).any id

end Pattern
end Marking
