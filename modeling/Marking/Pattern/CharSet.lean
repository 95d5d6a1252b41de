import Marking.Text.Basic
import Marking.Text.Class.Table

-- Sets of characters. The spans of a set ascend, and a code that is in none lies between any
-- two of them, so that equal sets have equal spans.

namespace Marking.Pattern
open Text

structure CharSet where
  spans : List Span
  deriving DecidableEq,Repr

namespace CharSet

def hasCode (set : CharSet) (code : Nat) : Bool := Span.anyHolds set.spans code

def has (set : CharSet) (c : Char) : Bool := inSpans set.spans c

-- Puts a span before spans that begin no earlier, and joins it with those that it reaches.
def push (span : Span) : List Span → List Span
  | [] => [span]
  | next :: rest =>
    if next.first ≤ span.last + 1 then push ⟨span.first,max span.last next.last⟩ rest
    else span :: next :: rest

def ofSpans (spans : List Span) : CharSet :=
  ⟨(spans.mergeSort fun a b => a.first ≤ b.first).foldr push []⟩

def none : CharSet := ⟨[]⟩

def span (first last : Char) : CharSet := ⟨[⟨first.toNat,last.toNat⟩]⟩

def only (c : Char) : CharSet := span c c

-- The code of the only member of a set.
def single? (set : CharSet) : Option Nat :=
  match set.spans with
  | [span] => if span.first = span.last then some span.first else Option.none
  | _ => Option.none

def ofChars (chars : List Char) : CharSet := ofSpans (chars.map fun c => ⟨c.toNat,c.toNat⟩)

def union (left right : CharSet) : CharSet := ofSpans (left.spans ++ right.spans)

def unions (sets : List CharSet) : CharSet := ofSpans (sets.flatMap (·.spans))

def lastCode : Nat := 0x10FFFF

-- The codes from `start` on that lie in no span.
def gaps (start : Nat) : List Span → List Span
  | [] => if start ≤ lastCode then [⟨start,lastCode⟩] else []
  | next :: rest =>
    if start < next.first then ⟨start,next.first - 1⟩ :: gaps (next.last + 1) rest
    else gaps (next.last + 1) rest

def complement (set : CharSet) : CharSet := ⟨gaps 0 set.spans⟩

def intersection (left right : CharSet) : CharSet :=
  (left.complement.union right.complement).complement

def difference (left right : CharSet) : CharSet := left.intersection right.complement

def symmetricDifference (left right : CharSet) : CharSet :=
  (left.difference right).union (right.difference left)

-- Sets within ASCII.

def asciiDigit : CharSet := ofSpans [⟨0x30,0x39⟩]

def asciiSpace : CharSet := ofSpans [⟨0x9,0xD⟩,⟨0x20,0x20⟩]

def asciiUpper : CharSet := ofSpans [⟨0x41,0x5A⟩]

def asciiLower : CharSet := ofSpans [⟨0x61,0x7A⟩]

def asciiLetter : CharSet := asciiUpper.union asciiLower

def asciiWord : CharSet := unions [asciiDigit,asciiLetter,only '_']

def asciiHexDigit : CharSet := ofSpans [⟨0x30,0x39⟩,⟨0x41,0x46⟩,⟨0x61,0x66⟩]

-- The classes that are written by name between colons.
def posix? (name : Text) : Option CharSet :=
  let table : List (String × CharSet) := [
    ("alnum",asciiDigit.union asciiLetter),
    ("alpha",asciiLetter),
    ("ascii",ofSpans [⟨0x0,0x7F⟩]),
    ("blank",ofSpans [⟨0x9,0x9⟩,⟨0x20,0x20⟩]),
    ("cntrl",ofSpans [⟨0x0,0x1F⟩,⟨0x7F,0x7F⟩]),
    ("digit",asciiDigit),
    ("graph",ofSpans [⟨0x21,0x7E⟩]),
    ("lower",asciiLower),
    ("print",ofSpans [⟨0x20,0x7E⟩]),
    ("punct",ofSpans [⟨0x21,0x2F⟩,⟨0x3A,0x40⟩,⟨0x5B,0x60⟩,⟨0x7B,0x7E⟩]),
    ("space",asciiSpace),
    ("upper",asciiUpper),
    ("word",asciiWord),
    ("xdigit",asciiHexDigit)]
  (table.find? (·.1.toList == name)).map (·.2)

end CharSet
end Marking.Pattern
