import Marking.Pattern.Basic
import Marking.Pattern.CharSet

-- How much room a pattern takes as an automaton over bytes, one that reads a text forward
-- and one that reads it backward. Patterns that take too much are refused.

namespace Marking.Pattern

-- The bytes of the characters that a piece of a set encodes to, place by place: every choice
-- of a byte in each place is the encoding of one of them.
abbrev ByteSpans := List Text.Span

namespace ByteSpans

def bytes (code : Nat) : List Nat :=
  if code < 0x80 then [code]
  else if code < 0x800 then [0xC0 + code / 0x40,0x80 + code % 0x40]
  else if code < 0x10000 then [0xE0 + code / 0x1000,0x80 + code / 0x40 % 0x40,0x80 + code % 0x40]
  else
    [0xF0 + code / 0x40000,0x80 + code / 0x1000 % 0x40,0x80 + code / 0x40 % 0x40,0x80 + code % 0x40]

-- The codes from the first of a pair on and before the second.
abbrev Codes := Nat × Nat

def nonempty (pieces : List Codes) : List Codes := pieces.filter fun piece => piece.1 < piece.2

-- Codes with encodings of one length, and the sizes of the blocks whose last bytes run
-- through all values. Surrogates are no characters.
def zones : List (Codes × List Nat) := [
  ((0,0x80),[]),
  ((0x80,0x800),[0x40]),
  ((0x800,0xD800),[0x40,0x1000]),
  ((0xE000,0x10000),[0x40,0x1000]),
  ((0x10000,0x110000),[0x40,0x1000,0x40000])]

-- The part before the first whole block, the whole blocks, and the part after them; codes
-- within one block stay together.
def cutAtBlocks (block : Nat) (codes : Codes) : List Codes :=
  if codes.1 / block = (codes.2 - 1) / block then [codes]
  else
    let start := (codes.1 + block - 1) / block * block
    let stop := codes.2 / block * block
    nonempty [(codes.1,start),(start,stop),(stop,codes.2)]

def pieces (span : Text.Span) : List Codes :=
  zones.flatMap fun (zone,blocks) =>
    blocks.foldl (fun pieces block => pieces.flatMap (cutAtBlocks block))
      (nonempty [(max span.first zone.1,min (span.last + 1) zone.2)])

def ofCodes (codes : Codes) : ByteSpans :=
  List.zipWith Text.Span.mk (bytes codes.1) (bytes (codes.2 - 1))

end ByteSpans

def CharSet.encoding (set : CharSet) : List ByteSpans :=
  set.spans.flatMap fun span => (ByteSpans.pieces span).map ByteSpans.ofCodes

inductive Direction where
  | forward
  | backward
  deriving DecidableEq,Repr

-- A state, a step that reads nothing and a step that reads a byte.
def stateSize : Nat := 32

def freeStepSize : Nat := 4

def byteStepSize : Nat := 8

-- The encodings in a list by their first place, with what remains of each. Those that begin
-- alike stand side by side.
def byFirst : List ByteSpans → List (Text.Span × List ByteSpans)
  | [] => []
  | [] :: rest => byFirst rest
  | (first :: tail) :: rest =>
    match byFirst rest with
    | [] => [(first,[tail])]
    | (next,tails) :: others =>
      if first = next then (next,tail :: tails) :: others
      else (first,[tail]) :: (next,tails) :: others

-- No character has more bytes.
def longestEncoding : Nat := 4

-- All that can remain to be read while the encoding of a character is read.
def remainders : Nat → List ByteSpans → List (List ByteSpans)
  | 0,_ => []
  | length + 1,encodings =>
    match byFirst encodings with
    | [] => []
    | groups => encodings :: groups.flatMap fun group => remainders length group.2

-- How many beginnings the encodings have, those that agree counted once.
def beginnings : Nat → List ByteSpans → Nat
  | 0,_ => 0
  | length + 1,encodings =>
    ((byFirst encodings).map fun group => 1 + beginnings length group.2).sum

-- A character has a state for each byte, and ASCII spans share one. Otherwise what remains
-- alike is read by the same states: forward, where bytes that lead to one state are steps of
-- one state, and backward, where every step has a state of its own.
def CharSet.size (direction : Direction) (set : CharSet) : Nat :=
  let encodings := set.encoding
  match set.single? with
  | some code => stateSize * (ByteSpans.bytes code).length
  | .none =>
    if encodings.all (·.length = 1) then 2 * stateSize + byteStepSize * encodings.length
    else
      match direction with
      | .forward =>
        (remainders longestEncoding encodings).eraseDups.foldl
          (fun room remainder => room + stateSize + byteStepSize * (byFirst remainder).length) stateSize
      | .backward =>
        2 * stateSize + stateSize * beginnings longestEncoding encodings +
          freeStepSize * encodings.length

-- The bytes of a pattern that only one text matches.
def literal? : Pattern → Option (List Nat)
  | .empty => some []
  | .one set => set.single?.map ByteSpans.bytes
  | .both first second => do
    let front ← literal? first
    let back ← literal? second
    some (front ++ back)
  | _ => none

-- The branches of a pattern, if each of them is a word.
def words? : Pattern → Option (List (List Nat))
  | .either left right => do
    let front ← words? left
    let back ← words? right
    some (front ++ back)
  | branch => (literal? branch).bind fun word => if word.isEmpty then none else some [word]

-- An end that is met again before anything else was added is no other end.
def joinEnds (words : List (List Nat)) : List (List Nat) :=
  match words with
  | [] :: _ => [] :: words.dropWhile List.isEmpty
  | _ => words

-- Words in the order of a choice as a tree over their bytes. An end of a word divides the
-- words before it from those after it, which share no states with them.
def wordTreeSize : Nat → List (List Nat) → Nat
  | 0,_ => 0
  | length + 1,words =>
    let runs := (joinEnds words).splitOnP List.isEmpty
    let steps := (runs.filter (!·.isEmpty)).length + (runs.length - 1)
    if words.all List.isEmpty then 0
    else
      stateSize + freeStepSize * steps + (runs.map fun run =>
        let bytes := (run.filterMap List.head?).eraseDups
        let own :=
          match bytes with
          | [] => 0
          | [_] => stateSize
          | _ => stateSize + byteStepSize * bytes.length
        own + (bytes.map fun byte =>
          wordTreeSize length ((run.filter (·.head? = some byte)).map List.tail)).sum).sum

def wordsSize (direction : Direction) (words : List (List Nat)) : Nat :=
  let read :=
    match direction with
    | .forward => words
    | .backward => words.map List.reverse
  stateSize + wordTreeSize (words.foldl (fun longest word => max longest word.length) 0) read

-- Whether a pattern can match the empty text.
def canBeEmpty : Pattern → Bool
  | .empty => true
  | .one set => set.encoding.isEmpty
  | .assert _ => true
  | .both first second => first.canBeEmpty && second.canBeEmpty
  | .either left right => left.canBeEmpty || right.canBeEmpty
  | .repeated body least _ => least = 0 || body.canBeEmpty
  | .group body => body.canBeEmpty

-- Where a pattern stands: by itself, as a part of a sequence or as a branch of a choice.
inductive Place where
  | alone
  | part
  | branch
  deriving DecidableEq,Repr

-- Each branch of a choice is reached by a step.
def Place.entrance : Place → Nat
  | .branch => freeStepSize
  | _ => 0

-- A repetition holds its body as often as it may be needed, and a loop where there is no end.
def repeatedSize (amount : Nat) (loops : Bool) (least : Nat) (most : Option Nat) : Nat :=
  let choice := stateSize + 2 * freeStepSize
  let fixed := if least = 0 then stateSize else least * amount
  match least,most with
  | 0,none => if loops then choice + amount else stateSize + 2 * choice + amount
  | _,none => fixed + choice
  | 0,some 1 => stateSize + choice + amount
  | _,some most =>
    if least = most then fixed else fixed + stateSize + (most - least) * (choice + amount)

-- Sequences within sequences are one sequence, and choices within choices one choice.
def room (direction : Direction) (place : Place) : Pattern → Nat
  | .empty => if place = .part then 0 else place.entrance + stateSize
  | .one set => place.entrance + set.size direction
  | .assert _ => place.entrance + stateSize
  | .both first second =>
    let amount := first.room direction .part + second.room direction .part
    if place = .part then amount else place.entrance + max stateSize amount
  | .either left right =>
    if place = .branch then left.room direction .branch + right.room direction .branch
    else
      match words? (.either left right) with
      | some words => wordsSize direction words
      | none =>
        2 * stateSize + left.room direction .branch + right.room direction .branch
  | .repeated body least most =>
    place.entrance + repeatedSize (body.room direction .alone) (!body.canBeEmpty) least most
  | .group body =>
    place.entrance + (if direction = .forward then 2 * stateSize else 0) +
      body.room direction .alone

-- The states around the pattern itself come first.
def size (direction : Direction) (pattern : Pattern) : Nat :=
  (match direction with
    | .forward => 208
    | .backward => 144) + pattern.room direction .alone

def sizeLimit : Nat := 10 * Nat.pow 2 20

-- A choice counts what all its branches begin with once for each branch, where an automaton could share it:
-- \w{150}a|\w{150}b is taken for too large. Branches that are plain texts share nothing.
def fits (pattern : Pattern) : Bool :=
  pattern.size .forward ≤ sizeLimit && pattern.size .backward ≤ sizeLimit

end Marking.Pattern
