import Marking.Binary64

-- Test cases and what is marked against them.

namespace Marking

-- The task that a test case belongs to; its names appear in displays and in harness code.
structure CodingPrompt where
  id : Int64
  className : Text
  methodName : Text
  deriving DecidableEq,Repr

-- One check of an answer. A dynamic case calls the method with `input` and compares with
-- `expectedOutput`. A static case reads `input` as a rule on the source, and
-- `expectedOutput` says whether the rule is a demand or a ban.
structure TestCase where
  id : Int64
  prompt : CodingPrompt
  input : Text := []
  expectedOutput : Text := []
  description : Option Text := none
  negativeFeedback : Option Text := none
  weight : Binary64
  isStatic : Bool := false
  isScreening : Bool := false
  isExample : Bool := false
  isHidden : Bool := false
  deriving DecidableEq,Repr

-- One answer to a prompt. Code whose comments were removed beforehand is checked as given.
structure Submission where
  userId : Int64
  answerId : Int64
  source : Text
  commentFree : Option Text := none
  deriving DecidableEq,Repr

-- The verdict on one answer for one test case.
structure Result where
  testCaseId : Int64
  userId : Int64
  answerId : Int64
  pass : Bool
  feedback : Option Text
  deriving DecidableEq,Repr

def Result.of (case : TestCase) (submission : Submission) (pass : Bool)
    (feedback : Option Text) : Result :=
  ⟨case.id,submission.userId,submission.answerId,pass,feedback⟩

namespace TestCase

-- What a marker says instead of a generated message, if anything was written.
def authoredFeedback? (case : TestCase) : Option Text := Text.nonBlank? case.negativeFeedback

def authoredDescription? (case : TestCase) : Option Text := Text.nonBlank? case.description

-- Selections keep the order of the cases.
def examples (cases : List TestCase) : List TestCase := cases.filter (·.isExample)

def hidden (cases : List TestCase) : List TestCase := cases.filter (·.isHidden)

def static (cases : List TestCase) : List TestCase := cases.filter (·.isStatic)

def dynamic (cases : List TestCase) : List TestCase := cases.filter (!·.isStatic)

def screening (cases : List TestCase) : List TestCase := cases.filter (·.isScreening)

-- Every case but the screening ones leads to a stored verdict.
def graded (cases : List TestCase) : List TestCase := cases.filter (!·.isScreening)

end TestCase
end Marking
