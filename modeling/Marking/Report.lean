import Marking.Text.Basic

-- The lines that generated tests write while they run, one for each test: the verdict, the
-- feedback on a failure, and the id of the test case.

namespace Marking

structure ReportLine where
  pass : Bool
  feedback : Option Text
  testCaseId : Int64
  deriving DecidableEq,Repr

namespace ReportLine

def passed (testCaseId : Int64) : ReportLine := ⟨true,none,testCaseId⟩

def failed (testCaseId : Int64) (feedback : Text) : ReportLine := ⟨false,some feedback,testCaseId⟩

-- A pass has no room for feedback. On a failure it stands in quotes, and nothing in it is
-- escaped: only the first and the last comma of a line separate.
def written (line : ReportLine) : Text :=
  if line.pass then "1,,".toList ++ Text.ofInt line.testCaseId.toInt
  else
    "0,\"".toList ++ line.feedback.getD [] ++ "\",".toList ++ Text.ofInt line.testCaseId.toInt

def unquoted (feedback : Text) : Text :=
  match feedback with
  | '"' :: inner => if inner.getLast? = some '"' then inner.dropLast else feedback
  | _ => feedback

def readFlag? (flag : Text) : Option Bool :=
  match Text.trim flag with
  | ['1'] => some true
  | ['0'] => some false
  | _ => none

def read? (text : Text) : Option ReportLine := do
  let (flag,rest) ← Text.cutAtFirst? ',' (Text.dropTrailing (fun c => c == '\r' || c == '\n') text)
  let (feedback,id) ← Text.cutAtLast? ',' rest
  let pass ← readFlag? flag
  let testCaseId ← Text.readInt64? (Text.trim id)
  let kept := unquoted feedback
  some ⟨pass,if kept.isEmpty then none else some kept,testCaseId⟩

def escape : Char → Text
  | '\\' => ['\\','\\']
  | '"' => ['\\','"']
  | c => [c]

-- The line as it stands inside a double-quoted literal of generated code.
def literalBody (line : ReportLine) : Text := line.written.flatMap escape

end ReportLine
end Marking
