import Marking.Comment
import Marking.Record
import Marking.Rule.Static
import Marking.Store

-- Marking: a test case is applied to a submission, and the verdict is stored.

namespace Marking

-- What a static check comes to. A screening case gives feedback, or none if it is met, and
-- never a stored verdict.
inductive StaticOutcome where
  | notApplicable
  | screened (feedback : Option Text)
  | graded (result : Result)
  deriving DecidableEq,Repr

-- How comments are removed, and where verdicts go. Any function may remove comments; a style
-- stands for its own.
structure Marker where
  strip : Text → Text
  store : Store

instance : Coe Comment.Style (Text → Text) := ⟨Comment.strip⟩

namespace Marker

-- The code that rules see: the submission without comments, as given or as stripped here.
def code (strip : Text → Text) (submission : Submission) : Text :=
  submission.commentFree.getD (strip submission.source)

def save (marker : Marker) (result : Result) : Marker × Except Failure Unit :=
  let (store,outcome) := marker.store.save result
  ({marker with store},outcome)

-- Applies the static rule of a case.
def checkStatic (marker : Marker) (case : TestCase) (submission : Submission) :
    Marker × Except Failure StaticOutcome :=
  if !case.isStatic then (marker,.ok .notApplicable)
  else
    match StaticRule.compile case with
    | .error failure => (marker,.error failure)
    | .ok rule =>
      let verdict := rule.evaluate (code marker.strip submission)
      if case.isScreening then (marker,.ok (.screened verdict.feedback))
      else
        let result := Result.of case submission verdict.satisfied verdict.feedback
        let (next,outcome) := marker.save result
        (next,outcome.map fun _ => .graded result)

-- Stores the verdict on a record and gives the score it brings.
def recordResult (marker : Marker) (case : TestCase) (submission : Submission)
    (record : Record) : Marker × Except Failure Binary64 :=
  let result := interpret case submission record
  let (next,outcome) := marker.save result
  (next,outcome.map fun _ => scoreContribution case result)

end Marker
end Marking
