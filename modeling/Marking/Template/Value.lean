import Marking.Text.Basic

-- The values of template expressions.

namespace Marking.Template

-- A name that denotes nothing is undefined: it may be asked about, and nothing else. A choice
-- without a second branch may be blank, which is written as the empty text. Literals beyond
-- 64 bits are wide.
inductive Value where
  | undefined
  | blank
  | none
  | bool (value : Bool)
  | int (value : Int)
  | wide (value : Nat)
  | text (value : Text)
  deriving DecidableEq,Repr

namespace Value

def isUndefined (value : Value) : Bool := value == .undefined

def isMissing (value : Value) : Bool := value == .undefined || value == .blank

def ofLiteral (n : Nat) : Value := if n < Nat.pow 2 64 then .int n else .wide n

def shown : Value → Text
  | .undefined | .blank => []
  | .none => "None".toList
  | .bool value => (if value then "True" else "False").toList
  | .int value => Text.ofInt value
  | .wide value => Text.ofNat value
  | .text value => value

-- What a placeholder writes.
def written? (value : Value) : Option Text :=
  if value.isUndefined then Option.none else some value.shown

def text? : Value → Option Text
  | .text value => some value
  | _ => Option.none

-- The empty text, zero and none count as false.
def truth? : Value → Option Bool
  | .undefined => Option.none
  | .blank | .none => some false
  | .bool value => some value
  | .int value => some (value != 0)
  | .wide value => some (value != 0)
  | .text value => some (!value.isEmpty)

-- Truth values count as numbers, and only signed numbers of 128 bits are counted with.
def number? : Value → Option Int
  | .bool value => some (if value then 1 else 0)
  | .int value => some value
  | .wide value => if value < Nat.pow 2 127 then some value else Option.none
  | _ => Option.none

def equals (left right : Value) : Bool :=
  match left.number?,right.number? with
  | some a,some b => a == b
  | _,_ => left == right

def ofSum? (sum : Int) : Option Value :=
  if -Int.pow 2 127 ≤ sum ∧ sum < Int.pow 2 127 then some (.int sum) else Option.none

-- The signed number with the same 128 bits.
def signed (n : Nat) : Int := Int.bmod n (Nat.pow 2 128)

-- Numbers are added and texts are joined.
def plus? (left right : Value) : Option Value :=
  match left,right with
  | .text a,.text b => some (.text (a ++ b))
  | .wide a,.wide b => ofSum? (signed a + signed b)
  | _,_ => do ofSum? ((← left.number?) + (← right.number?))

def join? (left right : Value) : Option Value :=
  if left.isUndefined || right.isUndefined then Option.none
  else some (.text (left.shown ++ right.shown))

-- Only texts have parts.
def isPartOf? (part whole : Value) : Option Bool :=
  match whole with
  | .blank => some false
  | .text value => some (Text.hasPart part.shown value)
  | _ => Option.none

end Value

-- The values of names; the latest assignment comes first.
abbrev Bindings := List (Text × Value)

def Bindings.value (bindings : Bindings) (name : Text) : Value :=
  (bindings.lookup name).getD .undefined

end Marking.Template
