import Marking.Instant
import Marking.Json.Reading
import Marking.Json
import Marking.TestCase

-- Stored verdicts in JSON, with the time at which they were reached.

namespace Marking

structure DatedResult where
  result : Result
  gradedAt : Instant
  deriving DecidableEq,Repr

namespace DatedResult

def fieldNames : List Text := [
  "test_case_id".toList,"user_id".toList,"answer_id".toList,"pass".toList,"feedback".toList,
  "graded_at".toList]

-- The feedback may be missing from an object, but not from an array.
def ofJson? (json : Json) : Option DatedResult := do
  match ← Json.fields? fieldNames json with
  | (positional,[testCaseId,userId,answerId,pass,feedback,gradedAt]) =>
    if positional && feedback.isNone then none
    else
      some {
        result := {
          testCaseId := ← Json.required Json.int64? testCaseId
          userId := ← Json.required Json.int64? userId
          answerId := ← Json.required Json.int64? answerId
          pass := ← Json.required Json.bool? pass
          feedback := ← Json.defaulted Json.optionalText? none feedback }
        gradedAt := ← (Json.required Json.text? gradedAt).bind Instant.read? }
  | _ => none

def read? (text : Text) : Option DatedResult := (Json.read? text).bind ofJson?

def written (dated : DatedResult) : Text :=
  Json.objectText [
    ("test_case_id".toList,Text.ofInt dated.result.testCaseId.toInt),
    ("user_id".toList,Text.ofInt dated.result.userId.toInt),
    ("answer_id".toList,Text.ofInt dated.result.answerId.toInt),
    ("pass".toList,Json.boolText dated.result.pass),
    ("feedback".toList,Json.optionalText dated.result.feedback),
    ("graded_at".toList,Json.quoted dated.gradedAt.written)]

end DatedResult
end Marking
