import Marking.Pattern.Basic

-- Which match is preferred where several begin at one place, and a text without its matches.
-- A repetition takes as much as it can.

namespace Marking.Pattern

-- A position in a text: the character before it and the text behind it.
structure Position where
  before : Option Char
  rest : Text
  deriving DecidableEq,Repr

-- Where the matches end that begin at a place, the preferred one first.
abbrev Ends := Position → List Position

namespace Ends

def nothing : Ends := fun place => [place]

def andThen (first second : Ends) : Ends := fun place => (first place).flatMap second

def orElse (left right : Ends) : Ends := fun place => left place ++ right place

def times (ends : Ends) : Nat → Ends
  | 0 => nothing
  | count + 1 => ends.andThen (ends.times count)

-- One match more is preferred to none, and nothing follows a match of the empty text.
def upTo (ends : Ends) : Nat → Ends
  | 0 => nothing
  | limit + 1 => fun place =>
    ((ends place).flatMap fun next =>
      if next.rest.length < place.rest.length then ends.upTo limit next else [next]) ++ [place]

-- Where there is no greatest count, each further match takes a character at least.
def between (ends : Ends) (least : Nat) (most : Option Nat) : Ends :=
  (ends.times least).andThen fun place =>
    ends.upTo ((most.map (· - least)).getD place.rest.length) place

end Ends

def ends : Pattern → Ends
  | .empty => .nothing
  | .one set => fun place =>
    match place.rest with
    | [] => []
    | c :: rest => if set.has c then [⟨some c,rest⟩] else []
  | .assert assertion => fun place =>
    if assertion.holds place.before place.rest.head? then [place] else []
  | .both first second => first.ends.andThen second.ends
  | .either left right => left.ends.orElse right.ends
  | .repeated body least most => body.ends.between least most
  | .group body => body.ends

-- How many characters the preferred match at a place takes.
def preferredLength (pattern : Pattern) (place : Position) : Nat :=
  match pattern.ends place with
  | [] => 0
  | last :: _ => place.rest.length - last.rest.length

-- Matches are found from left to right, each behind the end of the one before. `held` is how
-- many characters still belong to the last one.
def withoutFrom (pattern : Pattern) (before : Option Char) (held : Nat) : Text → Text
  | [] => []
  | c :: rest =>
    match if held = 0 then pattern.preferredLength ⟨before,c :: rest⟩ else held with
    | 0 => c :: withoutFrom pattern (some c) 0 rest
    | held + 1 => withoutFrom pattern (some c) held rest

def without (pattern : Pattern) (text : Text) : Text := withoutFrom pattern none 0 text

end Marking.Pattern
