import Marking.Pattern.Preferred
import Marking.TestCase

-- What students see of a test case, and the array constructions that displays leave out.

namespace Marking

namespace ArrayConstruction

def char (c : Char) : Pattern := .one (.only c)

def spaces (least : Nat) : Pattern := .repeated (.one .space) least none

-- Letters and digits of ASCII.
def nameChars : Pattern.CharSet := ⟨[
  ⟨'0'.toNat,'9'.toNat⟩,⟨'A'.toNat,'Z'.toNat⟩,⟨'a'.toNat,'z'.toNat⟩]⟩

-- A pair of brackets with optional white space before and between them.
def bracketPair : Pattern := .both (spaces 0) (.both (char '[') (.both (spaces 0) (char ']')))

-- The word new, white space, a type name, one or more bracket pairs, and the white space after
-- them.
def pattern : Pattern :=
  .both (char 'n') (.both (char 'e') (.both (char 'w') (.both (spaces 1)
    (.both (.repeated (.one nameChars) 1 none)
      (.both (.repeated (.group bracketPair) 1 none) (spaces 0))))))

-- The text without its array constructions.
def strip (text : Text) : Text := pattern.without text

end ArrayConstruction

namespace TestCase

-- A hidden case always reads so. An authored description comes next; without one the call
-- is shown, and the expected value only where it gives nothing away.
def display (case : TestCase) (showExpected : Bool) : Text :=
  if case.isHidden then "hidden".toList
  else match case.authoredDescription? with
    | some description => description
    | none =>
      let call := case.prompt.methodName ++ '(' :: ArrayConstruction.strip case.input ++ [')']
      if showExpected then
        call ++ " -> ".toList ++ ArrayConstruction.strip case.expectedOutput
      else call

-- Whether the expected value is an array, so that a harness compares element by element.
def expectsArray (case : TestCase) : Bool :=
  (Text.startsWith "new ".toList case.expectedOutput &&
    Text.hasPart "[]".toList case.expectedOutput) ||
    Text.startsWith "array(".toList case.expectedOutput

end TestCase
end Marking
