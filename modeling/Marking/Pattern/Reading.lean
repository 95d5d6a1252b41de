import Marking.Pattern.Bracket
import Marking.Pattern.Size

-- How a pattern is written.

namespace Marking.Pattern

-- A part of a pattern, with the depth of its nesting. A switch of modes is a part that
-- matches the empty text and cannot be repeated.
structure Part where
  pattern : Pattern
  depth : Nat
  repeatable : Bool := true
  deriving DecidableEq,Repr

-- An open group: its finished branches and the parts of the current one, both last first,
-- the modes that come back when it closes, and whether it is one of the numbered groups.
structure Level where
  branches : List Part
  parts : List Part
  restored : Modes
  numbered : Bool
  deriving DecidableEq,Repr

structure Reader where
  outer : List Level
  level : Level
  modes : Modes
  groupNames : List Text
  deriving DecidableEq,Repr

def deepest (parts : List Part) : Nat := parts.foldl (fun depth part => max depth part.depth) 0

-- Parts that match the empty text alone are left out.
def inSequence (parts : List Pattern) : Pattern :=
  match parts.filter (· != .empty) with
  | [] => .empty
  | last :: others => others.foldl (fun tail part => .both part tail) last

-- The sets of the branches where all of them are one character each, or all of them sets
-- of several.
def branchSets? (branches : List Pattern) : Option (List CharSet) := do
  let sets ← branches.mapM fun branch =>
    match branch with
    | .one set => some set
    | _ => none
  if sets.all (·.single?.isSome) || sets.all (·.single?.isNone) then some sets else none

def inChoice (branches : List Pattern) : Pattern :=
  match branchSets? branches with
  | some sets => .one (.unions sets)
  | none =>
    match branches with
    | [] => .empty
    | last :: others => others.foldl (fun tail branch => .either branch tail) last

-- Nothing is gained where the empty text, and no other, is matched more than once.
def inRepetition (body : Pattern) (least : Nat) (most : Option Nat) : Pattern :=
  let (least,most) :=
    if body.matchesOnlyEmpty then (min least 1,some (min (most.getD 1) 1)) else (least,most)
  match least,most with
  | 0,some 0 => .empty
  | 1,some 1 => body
  | _,_ => .repeated body least most

-- Parts and branches are given last first.
def sequence (parts : List Part) : Part :=
  match parts with
  | [] => ⟨.empty,0,true⟩
  | [single] => single
  | _ => ⟨inSequence (parts.map (·.pattern)),deepest parts + 1,true⟩

def alternatives (branches : List Part) : Part :=
  match branches with
  | [] => ⟨.empty,0,true⟩
  | [single] => single
  | _ => ⟨inChoice (branches.map (·.pattern)),deepest branches + 1,true⟩

def Level.close (level : Level) : Part := alternatives (sequence level.parts :: level.branches)

namespace Reader

def start (modes : Modes) : Reader := ⟨[],⟨[],[],modes,false⟩,modes,[]⟩

def push (reader : Reader) (part : Part) : Reader :=
  {reader with level := {reader.level with parts := part :: reader.level.parts}}

def pushPattern (reader : Reader) (pattern : Pattern) : Reader := reader.push ⟨pattern,0,true⟩

def pushChar (reader : Reader) (c : Char) : Reader :=
  reader.pushPattern (.one (reader.modes.cased (.only c)))

def branch (reader : Reader) : Reader :=
  {reader with level :=
    {reader.level with branches := sequence reader.level.parts :: reader.level.branches,parts := []}}

def openGroup (reader : Reader) (modes : Modes) (numbered : Bool) : Reader :=
  {reader with outer := reader.level :: reader.outer,level := ⟨[],[],reader.modes,numbered⟩,modes}

def closeGroup? (reader : Reader) : Option Reader :=
  match reader.outer with
  | [] => none
  | level :: outer =>
    let inner := reader.level.close
    some ({reader with outer,level,modes := reader.level.restored}.push
      ⟨if reader.level.numbered then .group inner.pattern else inner.pattern,inner.depth + 1,true⟩)

-- Repetition applies to the last part; there has to be one.
def repeatLast? (reader : Reader) (least : Nat) (most : Option Nat) : Option Reader :=
  match reader.level.parts with
  | [] => none
  | last :: parts =>
    if last.repeatable then
      some {reader with level :=
        {reader.level with parts := ⟨inRepetition last.pattern least most,last.depth + 1,true⟩ :: parts}}
    else none

end Reader

-- Flags between a question mark and a colon or a closing parenthesis. Each one, and the
-- hyphen that switches off what follows it, stands at most once, and the hyphen not last.
def readFlags? (modes : Modes) (seen : List Char) : Text → Option (Modes × Bool × Char × Text)
  | [] => none
  | c :: rest =>
    if c = ':' ∨ c = ')' then
      if seen.head? = some '-' then none else some (modes,!seen.isEmpty,c,rest)
    else if seen.contains c then none
    else if c = '-' then readFlags? modes (c :: seen) rest
    else
      match modes.set? c (!seen.contains '-') with
      | some next => readFlags? next (c :: seen) rest
      | none => none

def isGroupNameChar (c : Char) : Bool :=
  Text.isAlphanumeric c || c == '_' || c == '.' || c == '[' || c == ']'

def isGroupNameStart (c : Char) : Bool := Text.isAlphabetic c || c == '_'

def readGroupName? (text : Text) : Option (Text × Text) := do
  let (name,rest) ← Text.cutAtFirst? '>' text
  let first ← name.head?
  if isGroupNameStart first && name.all isGroupNameChar then some (name,rest) else none

def readNamedGroup? (reader : Reader) (text : Text) : Option (Reader × Text) := do
  let (name,rest) ← readGroupName? text
  if reader.groupNames.contains name then none
  else some ({reader.openGroup reader.modes true with groupNames := name :: reader.groupNames},rest)

-- Reads what follows an opening parenthesis. Conditions on what stands before or after a
-- group are no part of the notation.
def readGroup? (reader : Reader) (text : Text) : Option (Reader × Text) :=
  match reader.modes.skip text with
  | '?' :: 'P' :: '<' :: rest => readNamedGroup? reader rest
  | '?' :: '<' :: rest =>
    match rest with
    | '=' :: _ => none
    | '!' :: _ => none
    | _ => readNamedGroup? reader rest
  | '?' :: rest => do
    let (modes,switched,close,after) ← readFlags? reader.modes [] rest
    if close = ':' then some (reader.openGroup modes false,after)
    else if switched then some ({reader with modes}.push ⟨.empty,0,false⟩,after)
    else none
  | rest => some (reader.openGroup reader.modes true,rest)

-- A question mark after a repetition makes it lazy, which changes no verdict.
def dropLazy (text : Text) : Text :=
  match text with
  | '?' :: rest => rest
  | _ => text

-- A count with optional white space around it. An absent count is `some none`.
def readCount? (modes : Modes) (text : Text) : Option (Option Nat × Text) :=
  let start := text.dropWhile Text.isSpace
  let (digits,rest) := modes.spaced Text.isAsciiDigit start.length start
  let next := modes.skip (rest.dropWhile Text.isSpace)
  if digits.isEmpty then some (none,next)
  else if Text.digitsValue digits < Nat.pow 2 32 then some (some (Text.digitsValue digits),next)
  else none

-- Reads what follows an opening brace.
def readBounds? (modes : Modes) (text : Text) : Option (Nat × Option Nat × Text) := do
  let (least,rest) ← readCount? modes (modes.skip text)
  let least ← least
  match rest with
  | '\x7d' :: after => some (least,some least,after)
  | ',' :: after =>
    match modes.skip after with
    | '\x7d' :: next => some (least,none,next)
    | next => do
      let (most,last) ← readCount? modes next
      let most ← most
      match last with
      | '\x7d' :: after => if least ≤ most then some (least,some most,after) else none
      | _ => none
  | _ => none

-- Reads one part, group mark or repetition; the text has no remarks before it.
def readNext? (reader : Reader) (c : Char) (rest : Text) : Option (Reader × Text) :=
  match c with
  | '(' => readGroup? reader rest
  | ')' => reader.closeGroup?.map (·,rest)
  | '|' => some (reader.branch,rest)
  | '[' => do
    let (piece,after) ← Bracket.read? reader.modes rest
    some (reader.push ⟨.one piece.set,piece.depth,true⟩,after)
  | '?' => (reader.repeatLast? 0 (some 1)).map (·,dropLazy rest)
  | '*' => (reader.repeatLast? 0 none).map (·,dropLazy rest)
  | '+' => (reader.repeatLast? 1 none).map (·,dropLazy rest)
  | '\x7b' => do
    let (least,most,after) ← readBounds? reader.modes rest
    let next ← reader.repeatLast? least most
    some (next,dropLazy (reader.modes.skip after))
  | '.' => reader.modes.dot?.map fun set => (reader.pushPattern (.one set),rest)
  | '^' => some (reader.pushPattern (.assert reader.modes.lineStart),rest)
  | '$' => some (reader.pushPattern (.assert reader.modes.lineEnd),rest)
  | '\\' => do
    let (escape,after) ← Escape.read? reader.modes rest
    match escape with
    | .char c asByte =>
      if asByte && !reader.modes.unicode && 128 ≤ c.toNat then none
      else some (reader.pushChar c,after)
    | .set members => some (reader.pushPattern (.one members),after)
    | .assertion kind => some (reader.pushPattern (.assert kind),after)
  | _ => some (reader.pushChar c,rest)

-- Every round consumes a character.
def readAll : Nat → Reader → Text → Option Reader
  | 0,_,_ => none
  | fuel + 1,reader,text =>
    match reader.modes.skip text with
    | [] => some reader
    | c :: rest => (readNext? reader c rest).bind fun next => readAll fuel next.1 next.2

def deepestNesting : Nat := 250

-- All groups have to be closed at the end, and nesting and size are limited.
def read? (modes : Modes) (text : Text) : Option Pattern := do
  let reader ← readAll (text.length + 1) (.start modes) text
  if reader.outer.isEmpty then
    let whole := reader.level.close
    if whole.depth ≤ deepestNesting && whole.pattern.fits then some whole.pattern else none
  else none

-- A backslash before each character that would mean something in a pattern.
def escaped (text : Text) : Text := text.flatMap fun c => if Escape.isMeta c then ['\\',c] else [c]

-- A choice of texts.
def alternation (names : List Text) : Text := ['|'].intercalate (names.map escaped)

end Marking.Pattern
