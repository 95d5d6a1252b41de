import Marking.Text.Basic

-- Static rules: what the source of an answer must, or must not, hold.

namespace Marking

inductive NameKind where
  | keyword
  | className
  | method
  deriving DecidableEq,Repr

def NameKind.label : NameKind → Text
  | .keyword => "keyword".toList
  | .className => "class".toList
  | .method => "method".toList

structure PatternFlags where
  ignoreCase : Bool := false
  dotAll : Bool := false
  extended : Bool := false
  deriving DecidableEq,Repr

-- A rule names keywords, classes or called methods, or it is a pattern, written between
-- slashes with flags after the second one, or bare.
inductive RuleSpec where
  | names (kind : NameKind) (names : List Text)
  | pattern (body : Text) (flags : PatternFlags)
  | literal (text : Text)
  deriving DecidableEq,Repr

-- A pattern describes text that an answer contains; anything else is something it uses.
def RuleSpec.verb : RuleSpec → Text
  | .pattern .. => "contain".toList
  | _ => "use".toList

end Marking
