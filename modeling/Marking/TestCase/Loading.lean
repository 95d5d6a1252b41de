import Marking.Failure
import Marking.Json.Reading

-- Test cases in JSON, and the conditions that they have to meet before anything is marked.

namespace Marking

namespace TestCase

-- The weight is finite and not below zero, and a case without a description has an input
-- and an expected output, from which a display can be made.
def check (case : TestCase) : Except Failure Unit :=
  if !case.weight.isFinite || case.weight.isBelowZero then
    .error (.invalidWeight case.id case.weight)
  else if case.authoredDescription?.isSome then .ok ()
  else if Text.isBlank case.input then .error (.inputMissing case.id)
  else if Text.isBlank case.expectedOutput then .error (.expectedOutputMissing case.id)
  else .ok ()

end TestCase

def CodingPrompt.fieldNames : List Text := ["id".toList,"class_name".toList,"method_name".toList]

def CodingPrompt.ofJson? (json : Json) : Option CodingPrompt := do
  match ← Json.fields? fieldNames json with
  | (_,[id,className,methodName]) =>
    some {
      id := ← Json.required Json.int64? id
      className := ← Json.required Json.text? className
      methodName := ← Json.required Json.text? methodName }
  | _ => none

namespace TestCase

def fieldNames : List Text := [
  "id".toList,"coding_prompt".toList,"input".toList,"expected_output".toList,
  "description".toList,"negative_feedback".toList,"weight".toList,"static".toList,
  "screening".toList,"example".toList,"hidden".toList]

-- The id, the prompt and the weight have to be there.
def ofJson? (json : Json) : Option TestCase := do
  match ← Json.fields? fieldNames json with
  | (_,[id,prompt,input,expectedOutput,description,negativeFeedback,weight,isStatic,isScreening,
      isExample,isHidden]) =>
    some {
      id := ← Json.required Json.int64? id
      prompt := ← Json.required CodingPrompt.ofJson? prompt
      input := ← Json.defaulted Json.text? [] input
      expectedOutput := ← Json.defaulted Json.text? [] expectedOutput
      description := ← Json.defaulted Json.optionalText? none description
      negativeFeedback := ← Json.defaulted Json.optionalText? none negativeFeedback
      weight := ← Json.required Json.binary64? weight
      isStatic := ← Json.defaulted Json.bool? false isStatic
      isScreening := ← Json.defaulted Json.bool? false isScreening
      isExample := ← Json.defaulted Json.bool? false isExample
      isHidden := ← Json.defaulted Json.bool? false isHidden }
  | _ => none

def listOfJson? : Json → Option (List TestCase)
  | .array items => items.mapM ofJson?
  | _ => none

-- All cases are read before the first one is checked.
def load (text : Text) : Except Failure (List TestCase) :=
  match (Json.read? text).bind listOfJson? with
  | none => .error .unreadableCases
  | some cases => do
    cases.forM check
    return cases

end TestCase
end Marking
