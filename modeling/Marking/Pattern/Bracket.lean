import Marking.Pattern.Escape

-- Character classes in brackets: members, spans, named and nested classes, and the set
-- operations between them.

namespace Marking.Pattern.Bracket

-- A set and how deeply its class is nested.
structure Piece where
  set : CharSet
  depth : Nat
  deriving DecidableEq,Repr

inductive Operation where
  | intersection
  | difference
  | symmetricDifference
  deriving DecidableEq,Repr

-- What is waiting for the class being read: an enclosing class with its members so far, or
-- the left side of an operation.
inductive Frame where
  | enclosing (members : List Piece) (negated : Bool)
  | operation (kind : Operation) (left : Piece)
  deriving DecidableEq,Repr

-- Members are kept last first.
def gather (members : List Piece) : Piece :=
  match members with
  | [] => ⟨.none,0⟩
  | [single] => single
  | _ => ⟨.unions (members.map (·.set)),members.foldl (fun depth piece => max depth piece.depth) 0 + 1⟩

def Operation.apply (modes : Modes) (kind : Operation) (left right : Piece) : Piece :=
  let leftSet := modes.cased left.set
  let rightSet := modes.cased right.set
  let set : CharSet :=
    match kind with
    | .intersection => leftSet.intersection rightSet
    | .difference => leftSet.difference rightSet
    | .symmetricDifference => leftSet.symmetricDifference rightSet
  ⟨set,max left.depth right.depth + 1⟩

-- Operations have one rank and group to the left, so at most one waits at a time.
def settle (modes : Modes) (frames : List Frame) (right : Piece) : Piece × List Frame :=
  match frames with
  | .operation kind left :: outer => (kind.apply modes left right,outer)
  | _ => (right,frames)

-- A member outside the Unicode mode has to be ASCII.
def member? (modes : Modes) (c : Char) : Option Char :=
  if modes.unicode || c.toNat < 128 then some c else none

def leadingHyphens (modes : Modes) : Nat → Text → List Piece × Text
  | fuel + 1,'-' :: rest =>
    let more := leadingHyphens modes fuel (modes.skip rest)
    (⟨.only '-',0⟩ :: more.1,more.2)
  | _,text => ([],text)

-- Reads what follows an opening bracket: the caret of a complement, hyphens, and a closing
-- bracket in the first place, which is a member.
def open? (modes : Modes) (text : Text) : Option (Bool × List Piece × Text) :=
  let first := modes.skip text
  let (negated,start) :=
    match first with
    | '^' :: rest => (true,modes.skip rest)
    | _ => (false,first)
  match leadingHyphens modes start.length start with
  | (_,[]) => none
  | ([],']' :: rest) =>
    match modes.skip rest with
    | [] => none
    | next => some (negated,[⟨.only ']',0⟩],next)
  | (hyphens,next) => some (negated,hyphens,next)

-- A named class such as [:alpha:], with the text after it; the opening bracket has been read.
def named? (text : Text) : Option (CharSet × Bool × Text) :=
  match text with
  | ':' :: rest =>
    let (negated,start) :=
      match rest with
      | '^' :: more => (true,more)
      | _ => (false,rest)
    match start.dropWhile (· != ':') with
    | ':' :: ']' :: after =>
      (CharSet.posix? (start.takeWhile (· != ':'))).map (·,negated,after)
    | _ => none
  | _ => none

def item? (modes : Modes) (text : Text) : Option (Escape × Text) :=
  match text with
  | [] => none
  | '\\' :: rest => Escape.read? modes rest
  | c :: rest => some (.char c false,rest)

def escapeChar? (modes : Modes) (escape : Escape) : Option Char :=
  match escape with
  | .char c _ => member? modes c
  | _ => none

def escapeSet? (modes : Modes) (escape : Escape) : Option CharSet :=
  match escape with
  | .char c _ => (member? modes c).map .only
  | .set members => some members
  | .assertion _ => none

-- The character that decides whether a hyphen makes a span.
def afterHyphen? (modes : Modes) (text : Text) : Option Char :=
  if modes.extended then
    match text.dropWhile Text.isSpace with
    | '#' :: rest => (rest.dropWhile Text.isSpace).head?
    | rest => rest.head?
  else text.head?

-- A single member or a span. A hyphen before a bracket or before another hyphen is no span.
def readSpan? (modes : Modes) (text : Text) : Option (CharSet × Text) := do
  let (first,rest) ← item? modes text
  match modes.skip rest with
  | [] => none
  | '-' :: after =>
    if afterHyphen? modes after = some ']' ∨ afterHyphen? modes after = some '-' then
      (escapeSet? modes first).map (·,'-' :: after)
    else do
      let (last,next) ← item? modes (modes.skip after)
      let low ← escapeChar? modes first
      let high ← escapeChar? modes last
      if low ≤ high then some (.span low high,next) else none
  | next => (escapeSet? modes first).map (·,next)

-- Reads up to the bracket that closes the outermost class. Every round consumes a character.
def loop (modes : Modes) : Nat → List Frame → List Piece → Text → Option (Piece × Text)
  | 0,_,_,_ => none
  | fuel + 1,frames,members,text =>
    let operate (kind : Operation) (rest : Text) : Option (Piece × Text) :=
      let (left,outer) := settle modes frames (gather members)
      loop modes fuel (.operation kind left :: outer) [] rest
    match modes.skip text with
    | [] => none
    | '[' :: rest =>
      match named? rest with
      | some (set,negated,after) => do
        let set ← modes.complement? negated (modes.cased set)
        loop modes fuel frames (⟨set,0⟩ :: members) after
      | none => do
        let (negated,inner,after) ← open? modes rest
        loop modes fuel (.enclosing members negated :: frames) inner after
    | ']' :: rest =>
      match settle modes frames (gather members) with
      | (piece,.enclosing outer negated :: frames) => do
        let set ← modes.complement? negated (modes.cased piece.set)
        let closed : Piece := ⟨set,piece.depth + 1⟩
        if frames.isEmpty then some (closed,rest)
        else loop modes fuel frames (closed :: outer) rest
      | _ => none
    | '&' :: '&' :: rest => operate .intersection rest
    | '-' :: '-' :: rest => operate .difference rest
    | '~' :: '~' :: rest => operate .symmetricDifference rest
    | next => do
      let (set,after) ← readSpan? modes next
      loop modes fuel frames (⟨set,0⟩ :: members) after

-- Reads a class whose opening bracket has been read.
def read? (modes : Modes) (text : Text) : Option (Piece × Text) := do
  let (negated,members,rest) ← open? modes text
  loop modes (rest.length + 1) [.enclosing [] negated] members rest

end Marking.Pattern.Bracket
