import Marking.TestCase

-- The record that a test runner leaves of one test: eight fields, of which the sixth names
-- an exception, the seventh holds its message and the eighth tells whether the test passed.

namespace Marking

structure Record where
  fields : List Text
  deriving DecidableEq,Repr

namespace Record

def size : Nat := 8

-- Absent fields read as empty.
def field (record : Record) (index : Nat) : Text := record.fields.getD index []

def exceptionType (record : Record) : Text := record.field 5

def rawMessage (record : Record) : Text := record.field 6

def passFlag (record : Record) : Text := record.field 7

def isWellFormed (record : Record) : Bool := record.fields.length == size

-- The number at the start of a text, after white space and one sign; zero where there is
-- none, or where it does not fit into 64 bits.
def leadingInteger (text : Text) : Int :=
  let number (digits : Text) : Int :=
    let value := (Text.digitsValue (digits.takeWhile Text.isAsciiDigit) : Int)
    if Text.fitsInt64 value then value else 0
  match Text.trimStart text with
  | '-' :: digits => -number digits
  | '+' :: digits => number digits
  | digits => number digits

def passed (record : Record) : Bool :=
  record.isWellFormed && leadingInteger record.passFlag == 1

-- The name of the exception without its package.
def exceptionName? (record : Record) : Option Text :=
  (Text.nonBlank? (some record.exceptionType)).map fun name =>
    match Text.cutAtLast? '.' name with
    | some cut => cut.2
    | none => name

-- Runners write null for a message that was never set.
def message? (record : Record) : Option Text :=
  (Text.nonBlank? (some record.rawMessage)).filter (· != "null".toList)

def timeoutOpening : Text := "test timed out".toList

-- A timeout reads as a sentence on its own, with whole seconds in place of milliseconds.
def rewordTimeout (message : Text) : Text :=
  if Text.startsWith timeoutOpening message then
    Text.replaceFirst "000 milli".toList [' '] (message.drop "test ".length)
  else message

-- What a failed assertion throws. Beside a message these names tell a student nothing.
def assertionNames : List Text := [
  "AssertionFailedError".toList,"AssertionError".toList,"ComparisonFailure".toList,
  "ReflectionSupportError".toList]

def isExpectedFailure (record : Record) (name : Text) : Bool :=
  assertionNames.contains name ||
    (name == "Exception".toList && Text.startsWith timeoutOpening record.rawMessage)

def defaultFeedback : Text := "did not meet expectations".toList

-- The name part of the feedback, empty where it is left out.
def namePart (record : Record) : Text :=
  match record.exceptionName? with
  | none => []
  | some name =>
    if record.isExpectedFailure name && record.message?.isSome then [] else name

def messagePart (record : Record) : Text :=
  match record.message? with
  | none => []
  | some message => Text.capitalizeFirst (rewordTimeout message)

def feedback (record : Record) : Text :=
  let name := record.namePart
  let joint := if name.isEmpty || record.message?.isNone then [] else ": ".toList
  let all := name ++ joint ++ record.messagePart
  if all.isEmpty then defaultFeedback else all

end Record

-- The verdict on a record. Only a failure carries feedback, and authored feedback wins.
def interpret (case : TestCase) (submission : Submission) (record : Record) : Result :=
  Result.of case submission record.passed
    (if record.passed then none else some (case.authoredFeedback?.getD record.feedback))

-- The weight of the case where it was passed, else nothing.
def scoreContribution (case : TestCase) (result : Result) : Binary64 :=
  if result.pass then case.weight else .zero

end Marking
