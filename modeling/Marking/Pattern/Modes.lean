import Marking.Pattern.Basic
import Marking.Pattern.CaseVariants

-- The modes that flags switch while a pattern is read, and the reading steps that depend on
-- them.

namespace Marking.Pattern

structure Modes where
  ignoreCase : Bool := false
  multiLine : Bool := false
  dotAll : Bool := false
  crlf : Bool := false
  unicode : Bool := true
  extended : Bool := false
  deriving DecidableEq,Repr

namespace Modes

-- The letter U exchanges eager and lazy repetition, which decides between matches and never
-- whether there is one.
def set? (modes : Modes) (flag : Char) (value : Bool) : Option Modes :=
  match flag with
  | 'i' => some {modes with ignoreCase := value}
  | 'm' => some {modes with multiLine := value}
  | 's' => some {modes with dotAll := value}
  | 'R' => some {modes with crlf := value}
  | 'u' => some {modes with unicode := value}
  | 'x' => some {modes with extended := value}
  | 'U' => some modes
  | _ => none

-- White space and comments up to the end of their line.
def dropRemarks (inComment : Bool) : Text → Text
  | [] => []
  | c :: rest =>
    if inComment then dropRemarks (c != '\n') rest
    else if Text.isSpace c then dropRemarks false rest
    else if c = '#' then dropRemarks true rest
    else c :: rest

-- What comes next: the extended mode does not see remarks.
def skip (modes : Modes) (text : Text) : Text :=
  if modes.extended then dropRemarks false text else text

-- At most `count` accepted characters, with remarks between them, and what follows.
def spaced (modes : Modes) (accept : Char → Bool) : Nat → Text → Text × Text
  | 0,text => ([],text)
  | _,[] => ([],[])
  | count + 1,c :: rest =>
    if accept c then
      let more := spaced modes accept count (modes.skip rest)
      (c :: more.1,more.2)
    else ([],c :: rest)

-- A set in the current case mode.
def cased (modes : Modes) (set : CharSet) : CharSet :=
  if modes.ignoreCase then
    if modes.unicode then set.anyCase else set.anyAsciiCase
  else set

-- Outside the Unicode mode the complement of a set would match parts of characters.
def complement? (modes : Modes) (negated : Bool) (set : CharSet) : Option CharSet :=
  if negated then if modes.unicode then some set.complement else none
  else some set

def digits (modes : Modes) : CharSet := if modes.unicode then .digit else .asciiDigit

def spaces (modes : Modes) : CharSet := if modes.unicode then .space else .asciiSpace

def words (modes : Modes) : CharSet := if modes.unicode then .word else .asciiWord

def lineStart (modes : Modes) : Assertion :=
  if modes.multiLine then if modes.crlf then .crlfLineStart else .lineStart else .textStart

def lineEnd (modes : Modes) : Assertion :=
  if modes.multiLine then if modes.crlf then .crlfLineEnd else .lineEnd else .textEnd

def dot? (modes : Modes) : Option CharSet :=
  if modes.unicode then
    if modes.dotAll then some CharSet.none.complement
    else if modes.crlf then some (CharSet.ofChars ['\r','\n']).complement
    else some (CharSet.only '\n').complement
  else none

end Modes
end Marking.Pattern
