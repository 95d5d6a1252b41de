import Marking.Rule.Matcher
import Marking.Rule.Reading
import Marking.Text.Basic

-- The static rule of a test case, ready to be applied to code.

namespace Marking

-- Whether a rule is a demand or a ban, read from the expected output of its test case.
structure Requirement where
  required : Bool
  count : Option Nat
  deriving DecidableEq,Repr

-- Blank text demands, and so does any text with the word true in it. A plain number demands as soon
-- as one of its digits is no zero, and is kept as the count if it fits into 64 bits; occurrences are
-- never counted.
def Requirement.read (expectedOutput : Text) : Requirement :=
  if !expectedOutput.isEmpty && expectedOutput.all Text.isAsciiDigit then
    ⟨expectedOutput.any (· != '0'),Text.boundedValue? (Nat.pow 2 64) expectedOutput⟩
  else
    ⟨Text.isBlank expectedOutput ||
      Text.hasPart "true".toList (expectedOutput.map Char.toLower),none⟩

structure StaticVerdict where
  satisfied : Bool
  feedback : Option Text
  deriving DecidableEq,Repr

structure StaticRule where
  spec : RuleSpec
  requirement : Requirement
  matcher : Matcher
  feedback : Text
  deriving DecidableEq,Repr

namespace StaticRule

-- The message where the author of the case wrote none.
def defaultFeedback (spec : RuleSpec) (requirement : Requirement) (input : Text) : Text :=
  "Answer ".toList ++ (if requirement.required then "must" else "cannot").toList ++ ' ' ::
    spec.verb ++ ' ' :: RuleSpec.subject input

def compile (case : TestCase) : Except Failure StaticRule := do
  let spec ← RuleSpec.read case.input
  let requirement := Requirement.read case.expectedOutput
  let matcher ← Matcher.compile spec
  return ⟨spec,requirement,matcher,
    case.authoredFeedback?.getD (defaultFeedback spec requirement case.input)⟩

-- A demand is met by a match, a ban by its absence. Only a breach carries feedback.
def evaluate (rule : StaticRule) (code : Text) : StaticVerdict :=
  let satisfied := rule.matcher.found code == rule.requirement.required
  ⟨satisfied,if satisfied then none else some rule.feedback⟩

end StaticRule
end Marking
