import Marking.Failure
import Marking.Pattern.Preferred
import Marking.Pattern.Reading

-- The search that a rule makes in code.

namespace Marking

-- A pattern is searched for anywhere in code, or it is one that calls of methods match.
inductive Matcher where
  | search (pattern : Pattern)
  | calls (pattern : Pattern)
  deriving DecidableEq,Repr

namespace Matcher

-- Any of the names between two word boundaries.
def wordPattern (names : List Text) : Text :=
  "\\b(?:".toList ++ (Pattern.alternation names ++ ")\\b".toList)

-- Any of the names behind a dot and before a parenthesis.
def callPattern (names : List Text) : Text :=
  "\\.\\s*(?:".toList ++ (Pattern.alternation names ++ ")\\s*\\(".toList)

-- Whether the text before a dot ends with the word this. It is given last character first.
def endsWithThis (before : Text) : Bool :=
  match Text.after? "siht".toList (before.dropWhile Text.isSpace) with
  | some rest => !rest.head?.any fun c => Text.isAlphanumeric c || c == '_'
  | none => false

-- Calls are found from left to right, each after the end of the one before, and those on
-- this do not count. `held` is how many characters still belong to the last call.
def hasCallFrom (pattern : Pattern) (before : Text) (held : Nat) (text : Text) : Bool :=
  match text with
  | [] => false
  | c :: rest =>
    match held with
    | held + 1 => hasCallFrom pattern (c :: before) held rest
    | 0 =>
      match pattern.preferredLength ⟨before.head?,c :: rest⟩ with
      | 0 => hasCallFrom pattern (c :: before) 0 rest
      | more + 1 => !endsWithThis before || hasCallFrom pattern (c :: before) more rest

def found : Matcher → Text → Bool
  | .search pattern,code => pattern.isMatch code
  | .calls pattern,code => hasCallFrom pattern [] 0 code

-- Line anchors always hold at every line, so that a pattern can aim at one line of many.
def modes (flags : PatternFlags) : Pattern.Modes :=
  {multiLine := true,ignoreCase := flags.ignoreCase,dotAll := flags.dotAll,
    extended := flags.extended}

-- A pattern that cannot be read, or is too large, is turned away.
def build (pattern : Text) (flags : PatternFlags) : Except Failure Pattern :=
  match Pattern.read? (modes flags) pattern with
  | some pattern => .ok pattern
  | none => .error .invalidPattern

def compile : RuleSpec → Except Failure Matcher
  | .names .method names => (build (callPattern names) {}).map .calls
  | .names _ names => (build (wordPattern names) {}).map .search
  | .pattern body flags => (build body flags).map .search
  | .literal text => (build text {}).map .search

end Matcher
end Marking
