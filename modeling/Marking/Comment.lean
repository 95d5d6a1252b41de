import Marking.Text.Basic

-- Comment removal. Rules are checked against code without its comments, so that a name
-- mentioned in a comment neither satisfies nor breaks a rule. Every line end is kept, which
-- keeps patterns that are anchored at lines meaningful.

namespace Marking.Comment

-- The slash style has line comments and block comments, the hash style line comments only.
inductive Style where
  | slash
  | hash
  deriving DecidableEq,Repr

-- What the scan is inside of.
inductive Region where
  | code
  | line
  | block
  | literal (quote : Char)
  deriving DecidableEq,Repr

-- A literal ends at its own quote or at the end of the line, whichever comes first, unless
-- a backslash stands before it. An unclosed block comment reaches to the end of the text.
def stripFrom (style : Style) : Region → Text → Text
  | _,[] => []
  | .code,c :: rest =>
    match style,c,rest with
    | .slash,'/','/' :: body => stripFrom style .line body
    | .slash,'/','*' :: body => ' ' :: stripFrom style .block body
    | .hash,'#',body => stripFrom style .line body
    | _,_,after =>
      c :: stripFrom style (if c = '"' ∨ c = '\'' then .literal c else .code) after
  | .line,c :: rest =>
    if c = '\n' then '\n' :: stripFrom style .code rest else stripFrom style .line rest
  | .block,c :: rest =>
    match c,rest with
    | '*','/' :: after => stripFrom style .code after
    | _,body => if c = '\n' then '\n' :: stripFrom style .block body else stripFrom style .block body
  | .literal quote,c :: rest =>
    match c,rest with
    | '\\',escaped :: after => '\\' :: escaped :: stripFrom style (.literal quote) after
    | _,after =>
      c :: stripFrom style (if c = quote ∨ c = '\n' then .code else .literal quote) after

def strip (style : Style) (source : Text) : Text := stripFrom style .code source

end Marking.Comment
