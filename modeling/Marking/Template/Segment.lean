import Marking.Template.Token

-- The division of a template into plain text, placeholders and tags.

namespace Marking.Template

inductive Segment where
  | data (text : Text)
  | output (tokens : List Token)
  | tag (tokens : List Token)
  deriving DecidableEq,Repr

inductive Opening where
  | output
  | tag
  | comment
  deriving DecidableEq,Repr

def opening? : Char → Option Opening
  | '\x7b' => some .output
  | '%' => some .tag
  | '#' => some .comment
  | _ => none

-- The text before the first opening of any kind, and what follows the opening.
def cutAtOpening : Text → Text × Option (Opening × Text)
  | [] => ([],none)
  | [c] => ([c],none)
  | c :: d :: rest =>
    match if c = '\x7b' then opening? d else none with
    | some opening => ([],some (opening,rest))
    | none =>
      let (before,found) := cutAtOpening (d :: rest)
      (c :: before,found)

-- A minus sign at the start of a tag takes away the white space before it.
def dropSign (text : Text) : Bool × Text :=
  match text with
  | '-' :: rest => (true,rest)
  | '+' :: rest => (false,rest)
  | _ => (false,text)

-- A tag that holds nothing but `word`.
def wordTag? (word text : Text) : Option (Bool × Text) :=
  (Text.after? word (text.dropWhile isTagSpace)).bind fun rest =>
    tagEnd? "%\x7d".toList (rest.dropWhile isTagSpace)

-- The text up to the tag that ends a raw section: whether that tag takes away the white
-- space before and after it, and what follows it.
def cutAtEndraw? : Text → Option (Text × Bool × Bool × Text)
  | '\x7b' :: '%' :: rest =>
    let (trimBefore,inner) := dropSign rest
    match wordTag? "endraw".toList inner with
    | some (trimAfter,after) => some ([],trimBefore,trimAfter,after)
    | none => (cutAtEndraw? rest).map fun found => ('\x7b' :: '%' :: found.1,found.2)
  | c :: rest => (cutAtEndraw? rest).map fun found => (c :: found.1,found.2)
  | [] => none

-- The text of a comment up to its end, and what follows.
def cutAtCommentEnd? : Text → Option (Text × Text)
  | '#' :: '\x7d' :: rest => some ([],rest)
  | c :: rest => (cutAtCommentEnd? rest).map fun found => (c :: found.1,found.2)
  | [] => none

def trimmedStart (trim : Bool) (text : Text) : Text := if trim then Text.trimStart text else text

def trimmedEnd (trim : Bool) (text : Text) : Text := if trim then Text.trimEnd text else text

-- Every round consumes an opening. `trim` tells whether the last tag takes away the white
-- space after it.
def segments? : Nat → Bool → Text → Option (List Segment)
  | 0,_,_ => none
  | fuel + 1,trim,text =>
    match cutAtOpening (trimmedStart trim text) with
    | (data,none) => some [.data data]
    | (data,some (.output,inside)) => do
      let (trimBefore,start) := dropSign inside
      let (tokens,trimAfter,rest) ← readTokens? "\x7d\x7d".toList (start.length + 1) start
      let others ← segments? fuel trimAfter rest
      some (.data (trimmedEnd trimBefore data) :: .output tokens :: others)
    | (data,some (.tag,inside)) => do
      let (trimBefore,start) := dropSign inside
      let before := trimmedEnd trimBefore data
      match wordTag? "raw".toList start with
      | some (trimRaw,body) =>
        let (raw,trimRawEnd,trimAfter,rest) ← cutAtEndraw? body
        let others ← segments? fuel trimAfter rest
        some (.data before :: .data (trimmedEnd trimRawEnd (trimmedStart trimRaw raw)) :: others)
      | none =>
        let (tokens,trimAfter,rest) ← readTokens? "%\x7d".toList (start.length + 1) start
        let others ← segments? fuel trimAfter rest
        some (.data before :: .tag tokens :: others)
    | (data,some (.comment,inside)) => do
      let (trimBefore,start) := dropSign inside
      let (comment,rest) ← cutAtCommentEnd? start
      let others ← segments? fuel (comment.getLast? == some '-') rest
      some (.data (trimmedEnd trimBefore data) :: others)

end Marking.Template
