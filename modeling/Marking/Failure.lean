import Marking.Rule.Basic
import Marking.TestCase

-- Everything that can go wrong, apart from wrong answers: those are verdicts.

namespace Marking

inductive Failure where
  | emptyRule
  | noNames (kind : NameKind)
  | unclosedPattern (rule : Text)
  | unsupportedFlag (flag : Char) (flags : Text)
  | invalidPattern
  | invalidWeight (testCase : Int64) (weight : Binary64)
  | inputMissing (testCase : Int64)
  | expectedOutputMissing (testCase : Int64)
  | unreadableCases
  | emptyLanguage
  | unknownLanguage (language : Text)
  | templateMissing (quotedName : Text)
  | invalidTemplate (language : Text)
  | refused (reason : Text)
  | rendering (language : Text) (testCase : Int64)
  | directoryMissing
  | notUtf8
  | unreadableFile (reason : Text)
  deriving DecidableEq,Repr

-- Who has to act on a failure: the author of the test case or template, the keeper of the
-- store, the author of a template that does not render, or the owner of the files.
inductive FailureKind where
  | configuration
  | storage
  | render
  | files
  deriving DecidableEq,Repr

namespace Failure

def kind : Failure → FailureKind
  | .refused _ => .storage
  | .rendering .. => .render
  | .directoryMissing | .notUtf8 | .unreadableFile _ => .files
  | _ => .configuration

-- The text after the kind. Where the cause lies inside a pattern, a template or a file, the
-- text ends at the colon that would introduce it.
def detail : Failure → Text
  | .emptyRule => "Static rule input is empty".toList
  | .noNames kind => "No ".toList ++ kind.label ++ " names listed in static rule".toList
  | .unclosedPattern rule => "Pattern literal is missing its closing '/': ".toList ++ rule
  | .unsupportedFlag flag flags =>
    "Unsupported pattern flag '".toList ++ flag :: "' in /.../".toList ++ flags
  | .invalidPattern => "Invalid static rule pattern:".toList
  | .invalidWeight testCase weight =>
    "Test case ".toList ++ Text.ofInt testCase.toInt ++ " has invalid weight ".toList ++ weight.text
  | .inputMissing testCase =>
    "Test case ".toList ++ Text.ofInt testCase.toInt ++
      " needs an input when it has no description".toList
  | .expectedOutputMissing testCase =>
    "Test case ".toList ++ Text.ofInt testCase.toInt ++
      " needs an expected output when it has no description".toList
  | .unreadableCases => "Invalid test case JSON:".toList
  | .emptyLanguage => "Harness language name is empty".toList
  | .unknownLanguage language =>
    "No harness template registered for language '".toList ++ language ++ ['\'']
  | .templateMissing quotedName =>
    "template not found: template ".toList ++ quotedName ++ " does not exist".toList
  | .invalidTemplate language => "Invalid ".toList ++ language ++ " harness template:".toList
  | .refused reason => reason
  | .rendering language testCase =>
    language ++ " harness for test ".toList ++ Text.ofInt testCase.toInt ++ [':']
  | .directoryMissing => "No such file or directory (os error 2)".toList
  | .notUtf8 => "stream did not contain valid UTF-8".toList
  | .unreadableFile reason => reason

def message (failure : Failure) : Text :=
  (match failure.kind with
    | .configuration => "Configuration error: "
    | .storage => "Storage error: "
    | .render => "Render error: "
    | .files => "IO error: ").toList ++ failure.detail

end Failure
end Marking
