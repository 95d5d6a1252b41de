import Marking.Template.Value

-- Templates: text with placeholders, conditions, assignments and other templates that are taken in, and
-- what they render to.

namespace Marking

namespace Template

inductive Operator where
  | or
  | and
  | plus
  | join
  deriving DecidableEq,Repr

inductive Comparison where
  | equal
  | unequal
  | isIn
  | notIn
  deriving DecidableEq,Repr

mutual

-- Filters and tests keep the count of their further arguments, of which none takes any.
inductive Expression where
  | constant (value : Value)
  | variable (name : Text)
  | attribute (owner : Expression) (name : Text)
  | call (callee : Expression)
  | filter (name : Text) (arguments : Nat) (operand : Expression)
  | test (name : Text) (arguments : Nat) (operand : Expression)
  | not (operand : Expression)
  | binary (operator : Operator) (left right : Expression)
  | compare (first : Expression) (links : Links)
  | choice (condition yes : Expression) (no : Option Expression)

-- Comparisons in a row, each with the operand before it.
inductive Links where
  | done
  | link (comparison : Comparison) (operand : Expression) (rest : Links)

end

def applyFilter? (name : Text) (arguments : Nat) (operand : Value) : Option Value :=
  if name = "upper".toList ∧ arguments = 0 ∧ !operand.isMissing then
    some (.text (Text.upperAll operand.shown))
  else none

def applyTest? (name : Text) (arguments : Nat) (operand : Value) : Option Value :=
  if arguments ≠ 0 then none
  else if name = "none".toList then some (.bool (operand == .none))
  else if name = "defined".toList then some (.bool (!operand.isMissing))
  else if name = "undefined".toList then some (.bool operand.isMissing)
  else none

-- Nothing is compared with an undefined value.
def Comparison.holds? (comparison : Comparison) (left right : Value) : Option Bool :=
  if left.isUndefined || right.isUndefined then none
  else
    match comparison with
    | .equal => some (left.equals right)
    | .unequal => some (!left.equals right)
    | .isIn => left.isPartOf? right
    | .notIn => (left.isPartOf? right).map (!·)

mutual

-- Values have no attributes, so one of a defined value is undefined, and there is nothing
-- to call. `or` and `and` give one of their operands, the right one only where needed.
def Expression.value? (bindings : Bindings) : Expression → Option Value
  | .constant value => some value
  | .variable name => some (bindings.value name)
  | .attribute owner _ => do
    let value ← owner.value? bindings
    if value.isMissing then none else some .undefined
  | .call _ => none
  | .filter name arguments operand => do
    applyFilter? name arguments (← operand.value? bindings)
  | .test name arguments operand => do
    applyTest? name arguments (← operand.value? bindings)
  | .not operand => do
    let truth ← (← operand.value? bindings).truth?
    some (.bool (!truth))
  | .binary .or left right => do
    let first ← left.value? bindings
    if ← first.truth? then some first else right.value? bindings
  | .binary .and left right => do
    let first ← left.value? bindings
    if ← first.truth? then right.value? bindings else some first
  | .binary .plus left right => do
    (← left.value? bindings).plus? (← right.value? bindings)
  | .binary .join left right => do
    (← left.value? bindings).join? (← right.value? bindings)
  | .compare first links => do
    let holds ← links.hold? bindings (← first.value? bindings)
    some (.bool holds)
  | .choice condition yes none => do
    if ← (← condition.value? bindings).truth? then yes.value? bindings else some .blank
  | .choice condition yes (some no) => do
    if ← (← condition.value? bindings).truth? then yes.value? bindings else no.value? bindings

-- Whether all comparisons hold, from the left up to the first that does not.
def Links.hold? (bindings : Bindings) (left : Value) : Links → Option Bool
  | .done => some true
  | .link comparison operand rest => do
    let right ← operand.value? bindings
    if ← comparison.holds? left right then rest.hold? bindings right else some false

end

-- Where a value is put: a name, or an attribute of one, to which nothing can be assigned.
structure Target where
  name : Text
  attributes : List Text
  deriving DecidableEq,Repr

def Target.assign? (target : Target) (value : Value) (bindings : Bindings) : Option Bindings :=
  if target.attributes.isEmpty then some ((target.name,value) :: bindings) else none

end Template

-- A template is a sequence, each part with what follows it. What is captured goes through
-- filters, each with the count of its further arguments.
inductive Template where
  | done
  | data (text : Text) (next : Template)
  | output (value : Template.Expression) (next : Template)
  | branch (condition : Template.Expression) (yes no next : Template)
  | assign (target : Template.Target) (value : Template.Expression) (next : Template)
  | capture (target : Template.Target) (filters : List (Text × Nat)) (body next : Template)
  | inclusion (name : Template.Expression) (next : Template)

namespace Template

-- What is rendered in place of a name, and the names as they are bound afterwards.
abbrev Inclusion := Text → Bindings → Option (Text × Bindings)

-- The rendered text, and the names as they are bound afterwards: an assignment inside a
-- branch holds after it as well. Nothing that is written is escaped or read again.
def run? (included : Inclusion) : Template → Bindings → Option (Text × Bindings)
  | .done,bindings => some ([],bindings)
  | .data text next,bindings => do
    let (rest,after) ← next.run? included bindings
    some (text ++ rest,after)
  | .output value next,bindings => do
    let text ← (← value.value? bindings).written?
    let (rest,after) ← next.run? included bindings
    some (text ++ rest,after)
  | .branch condition yes no next,bindings => do
    let truth ← (← condition.value? bindings).truth?
    let (text,within) ← if truth then yes.run? included bindings else no.run? included bindings
    let (rest,after) ← next.run? included within
    some (text ++ rest,after)
  | .assign target value next,bindings => do
    let bound ← target.assign? (← value.value? bindings) bindings
    next.run? included bound
  | .capture target filters body next,bindings => do
    let (text,within) ← body.run? included bindings
    let value ← filters.foldlM (fun value filter => applyFilter? filter.1 filter.2 value) (.text text)
    let bound ← target.assign? value within
    next.run? included bound
  | .inclusion name next,bindings => do
    let (text,within) ← included (← (← name.value? bindings).text?) bindings
    let (rest,after) ← next.run? included within
    some (text ++ rest,after)

-- How many templates can be taken in one inside the other.
def deepestInclusion : Nat := 49

-- Renders the template of a name that is looked up in a catalog.
def include? (catalog : Text → Option Template) : Nat → Inclusion
  | 0,_,_ => none
  | depth + 1,name,bindings => do
    let template ← catalog name
    template.run? (include? catalog depth) bindings

def render? (catalog : Text → Option Template) (template : Template) (bindings : Bindings) : Option Text :=
  (template.run? (include? catalog deepestInclusion) bindings).map (·.1)

-- Whether a template can ask for the one of a name. A name that is computed can be any.
def refers (name : Text) : Template → Bool
  | .done => false
  | .data _ next => next.refers name
  | .output _ next => next.refers name
  | .branch _ yes no next => yes.refers name || no.refers name || next.refers name
  | .assign _ _ next => next.refers name
  | .capture _ _ body next => body.refers name || next.refers name
  | .inclusion (.constant value) next => value == .text name || next.refers name
  | .inclusion _ _ => true

end Template
end Marking
