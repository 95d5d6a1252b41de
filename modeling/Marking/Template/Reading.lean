import Marking.Template
import Marking.Template.Segment

-- How a template is written.

namespace Marking.Template

def isWord (word : String) (token : Token) : Bool := token == .name word.toList

-- The comparison that stands first, and what follows it.
def comparison? : List Token → Option (Comparison × List Token)
  | .symbol .equal :: rest => some (.equal,rest)
  | .symbol .unequal :: rest => some (.unequal,rest)
  | first :: rest =>
    if isWord "in" first then some (.isIn,rest)
    else if isWord "not" first then
      match rest with
      | second :: after => if isWord "in" second then some (.notIn,after) else none
      | [] => none
    else none
  | [] => none

def word? (word : String) : List Token → Option (List Token)
  | token :: rest => if isWord word token then some rest else none
  | [] => none

def symbol? (symbol : Symbol) : List Token → Option (List Token)
  | token :: rest => if token == .symbol symbol then some rest else none
  | [] => none

-- Strings that follow one another are one string.
def adjacentTexts : List Token → Text × List Token
  | .text value :: rest =>
    let (more,after) := adjacentTexts rest
    (value ++ more,after)
  | tokens => ([],tokens)

def nameExpression (name : Text) : Expression :=
  if name ∈ ["true".toList,"True".toList] then .constant (.bool true)
  else if name ∈ ["false".toList,"False".toList] then .constant (.bool false)
  else if name ∈ ["none".toList,"None".toList] then .constant .none
  else .variable name

-- Names with points between them.
def dottedNames? : List Token → Option (List Text × List Token)
  | .name first :: .symbol .dot :: rest =>
    (dottedNames? rest).map fun found => (first :: found.1,found.2)
  | .name only :: rest => some ([only],rest)
  | _ => none

-- The name of a filter or a test.
def dottedName? (tokens : List Token) : Option (Text × List Token) :=
  (dottedNames? tokens).map fun found => (['.'].intercalate found.1,found.2)

-- What an operator gives between constants. Here `and` gives no operand that counts as
-- false, but the truth value.
def Operator.constant? (operator : Operator) (left right : Value) : Option Value :=
  match operator with
  | .or => left.truth?.map fun truth => if truth then left else right
  | .and => do
    let both := (← left.truth?) && (← right.truth?)
    some (if both then right else .bool false)
  | .plus => left.plus? right
  | .join => left.join? right

-- Operators between constants are applied while they are read, as far as they can be.
def Expression.combine (operator : Operator) (left right : Expression) : Expression :=
  match left,right with
  | .constant a,.constant b =>
    match operator.constant? a b with
    | some value => .constant value
    | none => .binary operator left right
  | _,_ => .binary operator left right

def Expression.negation (operand : Expression) : Expression :=
  match operand with
  | .constant value =>
    match value.truth? with
    | some truth => .constant (.bool (!truth))
    | none => .not operand
  | _ => .not operand

-- A lone comparison of constants is decided while it is read.
def Expression.comparison (first : Expression) (links : Links) : Expression :=
  match links with
  | .done => first
  | .link comparison second .done =>
    match first,second with
    | .constant a,.constant b =>
      match comparison.holds? a b with
      | some holds => .constant (.bool holds)
      | none => .compare first links
    | _,_ => .compare first links
  | _ => .compare first links

-- Whether an argument without parentheses follows the name of a test.
def beginsArgument : List Token → Bool
  | .name word :: _ =>
    word ∉ ["and".toList,"or".toList,"else".toList,"is".toList]
  | .text _ :: _ => true
  | .int _ :: _ => true
  | _ => false

mutual

-- From the loosest to the tightest: a choice, or, and, not, comparisons, sums, joins, and
-- operands with their attributes, calls, filters and tests. Operators of one rank group to
-- the left. The fuel bounds the calls, and the room how deeply expressions are nested.
def readExpression? : Nat → Nat → List Token → Option (Expression × List Token)
  | fuel + 1,room + 1,tokens => readChoice? fuel room tokens
  | _,_,_ => none

-- An expression that is no bare choice.
def readCondition? : Nat → Nat → List Token → Option (Expression × List Token)
  | fuel + 1,room + 1,tokens => readOr? fuel room tokens
  | _,_,_ => none

def readChoice? : Nat → Nat → List Token → Option (Expression × List Token)
  | 0,_,_ => none
  | fuel + 1,room,tokens => do
    let (first,rest) ← readOr? fuel room tokens
    readChoiceTail? fuel room first rest

def readChoiceTail? : Nat → Nat → Expression → List Token → Option (Expression × List Token)
  | 0,_,_,_ => none
  | fuel + 1,room,first,tokens =>
    match word? "if" tokens with
    | none => some (first,tokens)
    | some rest => do
      let (condition,rest) ← readOr? fuel room rest
      match word? "else" rest with
      | some after =>
        let (otherwise,after) ← readChoice? fuel room after
        readChoiceTail? fuel room (.choice condition first (some otherwise)) after
      | none => readChoiceTail? fuel room (.choice condition first none) rest

def readOr? : Nat → Nat → List Token → Option (Expression × List Token)
  | 0,_,_ => none
  | fuel + 1,room,tokens => do
    let (first,rest) ← readAnd? fuel room tokens
    readOrTail? fuel room first rest

def readOrTail? : Nat → Nat → Expression → List Token → Option (Expression × List Token)
  | 0,_,_,_ => none
  | fuel + 1,room,first,tokens =>
    match word? "or" tokens with
    | none => some (first,tokens)
    | some rest => do
      let (second,rest) ← readAnd? fuel room rest
      readOrTail? fuel room (first.combine .or second) rest

def readAnd? : Nat → Nat → List Token → Option (Expression × List Token)
  | 0,_,_ => none
  | fuel + 1,room,tokens => do
    let (first,rest) ← readNot? fuel room tokens
    readAndTail? fuel room first rest

def readAndTail? : Nat → Nat → Expression → List Token → Option (Expression × List Token)
  | 0,_,_,_ => none
  | fuel + 1,room,first,tokens =>
    match word? "and" tokens with
    | none => some (first,tokens)
    | some rest => do
      let (second,rest) ← readNot? fuel room rest
      readAndTail? fuel room (first.combine .and second) rest

def readNot? : Nat → Nat → List Token → Option (Expression × List Token)
  | 0,_,_ => none
  | fuel + 1,room,tokens =>
    match word? "not" tokens with
    | some rest => do
      let (operand,rest) ← readNot? fuel room rest
      some (operand.negation,rest)
    | none => do
      let (first,rest) ← readSum? fuel room tokens
      let (links,rest) ← readLinks? fuel room rest
      some (first.comparison links,rest)

def readLinks? : Nat → Nat → List Token → Option (Links × List Token)
  | 0,_,_ => none
  | fuel + 1,room,tokens =>
    match comparison? tokens with
    | none => some (.done,tokens)
    | some (comparison,rest) => do
      let (operand,rest) ← readSum? fuel room rest
      let (links,rest) ← readLinks? fuel room rest
      some (.link comparison operand links,rest)

def readSum? : Nat → Nat → List Token → Option (Expression × List Token)
  | 0,_,_ => none
  | fuel + 1,room,tokens => do
    let (first,rest) ← readJoin? fuel room tokens
    readSumTail? fuel room first rest

def readSumTail? : Nat → Nat → Expression → List Token → Option (Expression × List Token)
  | 0,_,_,_ => none
  | fuel + 1,room,first,tokens =>
    match symbol? .plus tokens with
    | none => some (first,tokens)
    | some rest => do
      let (second,rest) ← readJoin? fuel room rest
      readSumTail? fuel room (first.combine .plus second) rest

def readJoin? : Nat → Nat → List Token → Option (Expression × List Token)
  | 0,_,_ => none
  | fuel + 1,room,tokens => do
    let (first,rest) ← readOperand? fuel room tokens
    readJoinTail? fuel room first rest

def readJoinTail? : Nat → Nat → Expression → List Token → Option (Expression × List Token)
  | 0,_,_,_ => none
  | fuel + 1,room,first,tokens =>
    match symbol? .tilde tokens with
    | none => some (first,tokens)
    | some rest => do
      let (second,rest) ← readOperand? fuel room rest
      readJoinTail? fuel room (first.combine .join second) rest

def readOperand? : Nat → Nat → List Token → Option (Expression × List Token)
  | 0,_,_ => none
  | fuel + 1,room,tokens => do
    let (operand,rest) ← readSimple? fuel room tokens
    readFilters? fuel room operand rest

-- An operand with attributes and calls.
def readSimple? : Nat → Nat → List Token → Option (Expression × List Token)
  | 0,_,_ => none
  | fuel + 1,room,tokens => do
    let (operand,rest) ← readPrimary? fuel room tokens
    readSuffixes? fuel room operand rest

def readPrimary? : Nat → Nat → List Token → Option (Expression × List Token)
  | fuel + 1,room + 1,tokens =>
    match tokens with
    | .name name :: rest => some (nameExpression name,rest)
    | .text value :: rest =>
      let (more,after) := adjacentTexts rest
      some (.constant (.text (value ++ more)),after)
    | .int value :: rest => some (.constant (.ofLiteral value),rest)
    | .symbol .opening :: rest => do
      let (inner,rest) ← readExpression? fuel room rest
      let after ← symbol? .closing rest
      some (inner,after)
    | _ => none
  | _,_,_ => none

def readSuffixes? : Nat → Nat → Expression → List Token → Option (Expression × List Token)
  | 0,_,_,_ => none
  | fuel + 1,room,operand,tokens =>
    match tokens with
    | .symbol .dot :: .name name :: rest => readSuffixes? fuel room (.attribute operand name) rest
    | .symbol .dot :: _ => none
    | .symbol .opening :: rest => do
      let (_,rest) ← readArguments? fuel room false rest
      readSuffixes? fuel room (.call operand) rest
    | _ => some (operand,tokens)

-- Arguments up to the closing parenthesis, and their count. Once one of them has a name, the
-- others have one too.
def readArguments? : Nat → Nat → Bool → List Token → Option (Nat × List Token)
  | 0,_,_,_ => none
  | fuel + 1,room,named,tokens =>
    match symbol? .closing tokens with
    | some rest => some (0,rest)
    | none => do
      let (named,rest) ← readArgument? fuel room named tokens
      match rest with
      | .symbol .comma :: rest =>
        let (count,after) ← readArguments? fuel room named rest
        some (count + 1,after)
      | .symbol .closing :: after => some (1,after)
      | _ => none

def readArgument? : Nat → Nat → Bool → List Token → Option (Bool × List Token)
  | 0,_,_,_ => none
  | fuel + 1,room,named,tokens => do
    let (value,rest) ← readExpression? fuel room tokens
    match value,rest with
    | .variable _,.symbol .assign :: rest =>
      let (_,after) ← readCondition? fuel room rest
      some (true,after)
    | _,_ => if named then none else some (false,rest)

-- The count of the arguments in parentheses, if there are any.
def readCount? : Nat → Nat → List Token → Option (Nat × List Token)
  | 0,_,_ => none
  | fuel + 1,room,tokens =>
    match symbol? .opening tokens with
    | some rest => readArguments? fuel room false rest
    | none => some (0,tokens)

-- Filters and tests.
def readFilters? : Nat → Nat → Expression → List Token → Option (Expression × List Token)
  | 0,_,_,_ => none
  | fuel + 1,room,operand,tokens =>
    match symbol? .pipe tokens with
    | some rest => do
      let (name,rest) ← dottedName? rest
      let (count,rest) ← readCount? fuel room rest
      readFilters? fuel room (.filter name count operand) rest
    | none =>
      match word? "is" tokens with
      | none => some (operand,tokens)
      | some rest => do
        let (negated,start) :=
          match word? "not" rest with
          | some after => (true,after)
          | none => (false,rest)
        let (name,rest) ← dottedName? start
        let (count,rest) ←
          if beginsArgument rest then (readSimple? fuel room rest).map fun found => (1,found.2)
          else readCount? fuel room rest
        let test : Expression := .test name count operand
        readFilters? fuel room (if negated then .not test else test) rest

end

-- There are fourteen ranks, and a token is read through at most two calls at each.
def expressionFuel (tokens : List Token) : Nat := 30 * (tokens.length + 1)

def readWhole? (room : Nat) (tokens : List Token) : Option Expression :=
  match readExpression? (expressionFuel tokens) room tokens with
  | some (expression,[]) => some expression
  | _ => none

def readWholeCondition? (room : Nat) (tokens : List Token) : Option Expression :=
  match readCondition? (expressionFuel tokens) room tokens with
  | some (expression,[]) => some expression
  | _ => none

-- Filters with pipes between them, each with the count of its arguments.
def readFilterNames? : Nat → Nat → List Token → Option (List (Text × Nat))
  | 0,_,_ => none
  | fuel + 1,room,tokens => do
    let (name,rest) ← dottedName? tokens
    let (count,rest) ← readCount? (expressionFuel rest) room rest
    match rest with
    | [] => some [(name,count)]
    | .symbol .pipe :: rest => (readFilterNames? fuel room rest).map ((name,count) :: ·)
    | _ => none

-- Names that cannot be assigned to.
def reservedNames : List Text := [
  "true".toList,"True".toList,"false".toList,"False".toList,"none".toList,"None".toList,
  "loop".toList,"self".toList,"in".toList]

def readTarget? (tokens : List Token) : Option (Target × List Token) := do
  match ← dottedNames? tokens with
  | (name :: attributes,rest) =>
    if reservedNames.contains name then none else some (⟨name,attributes⟩,rest)
  | _ => none

-- The end of a section.
inductive Ending where
  | text
  | otherwise
  | elseIf (condition : Expression)
  | endif
  | endset

mutual

-- Reads up to the end of the text or to the tag that ends a section. Every round consumes
-- a segment. The room bounds how deeply tags are nested.
def readSection? : Nat → Nat → List Segment → Option (Template × Ending × List Segment)
  | 0,_,_ => none
  | _,_,[] => some (.done,.text,[])
  | fuel + 1,room,.data text :: rest => do
    let (next,ending,after) ← readSection? fuel room rest
    some (.data text next,ending,after)
  | fuel + 1,room,.output tokens :: rest => do
    let value ← readWhole? room tokens
    let (next,ending,after) ← readSection? fuel room rest
    some (.output value next,ending,after)
  | fuel + 1,room,.tag tokens :: rest =>
    match tokens with
    | .name word :: tokens =>
      if word = "if".toList ∧ 0 < room then do
        let condition ← readWholeCondition? (room - 1) tokens
        let (yes,no,after) ← readBranches? fuel (room - 1) rest
        let (next,ending,last) ← readSection? fuel room after
        some (.branch condition yes no next,ending,last)
      else if word = "set".toList ∧ 0 < room then do
        let (target,tokens) ← readTarget? tokens
        match tokens with
        | .symbol .assign :: tokens => do
          let value ← readWhole? (room - 1) tokens
          let (next,ending,after) ← readSection? fuel room rest
          some (.assign target value next,ending,after)
        | _ =>
          let filters ←
            match tokens with
            | [] => some []
            | .symbol .pipe :: tokens => readFilterNames? (tokens.length + 1) (room - 1) tokens
            | _ => none
          let (body,ending,after) ← readSection? fuel (room - 1) rest
          match ending with
          | .endset =>
            let (next,ending,last) ← readSection? fuel room after
            some (.capture target filters body next,ending,last)
          | _ => none
      else if word = "include".toList ∧ 0 < room then do
        let name ← readWhole? (room - 1) tokens
        let (next,ending,after) ← readSection? fuel room rest
        some (.inclusion name next,ending,after)
      else if word = "elif".toList then
        (readWholeCondition? room tokens).map fun condition => (.done,.elseIf condition,rest)
      else if !tokens.isEmpty then none
      else if word = "else".toList then some (.done,.otherwise,rest)
      else if word = "endif".toList then some (.done,.endif,rest)
      else if word = "endset".toList then some (.done,.endset,rest)
      else none
    | _ => none

-- Reads what a condition selects from, up to the end of the whole condition.
def readBranches? : Nat → Nat → List Segment → Option (Template × Template × List Segment)
  | 0,_,_ => none
  | fuel + 1,room,segments => do
    let (yes,ending,rest) ← readSection? fuel room segments
    match ending with
    | .endif => some (yes,.done,rest)
    | .otherwise =>
      let (no,ending,after) ← readSection? fuel room rest
      match ending with
      | .endif => some (yes,no,after)
      | _ => none
    | .elseIf condition =>
      let (second,third,after) ← readBranches? fuel room rest
      some (yes,.branch condition second third .done,after)
    | _ => none

end

def deepestNesting : Nat := 150

def read? (source : Text) : Option Template := do
  let segments ← segments? (source.length + 1) false source
  let (template,ending,_) ← readSection? (2 * segments.length + 2) deepestNesting segments
  match ending with
  | .text => some template
  | _ => none

end Marking.Template
