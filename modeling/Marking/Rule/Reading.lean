import Marking.Failure

-- How a rule is written: a kind and a colon before a list of names, a pattern between
-- slashes, or a bare pattern.

namespace Marking

-- The plural is tried first. Letters count in either case.
def NameKind.markers : NameKind → List Text
  | .keyword => ["keywords:".toList,"keyword:".toList]
  | .className => ["classes:".toList,"class:".toList]
  | .method => ["methods:".toList,"method:".toList]

def NameKind.all : List NameKind := [.keyword,.className,.method]

-- What follows `marker`, whose letters may be in either case.
def afterMarker? (marker input : Text) : Option Text :=
  match marker,input with
  | [],rest => some rest
  | _ :: _,[] => none
  | m :: marker,c :: rest => if m.toLower = c.toLower then afterMarker? marker rest else none

def NameKind.after? (kind : NameKind) (input : Text) : Option Text :=
  kind.markers.findSome? (afterMarker? · input)

def isSeparator (c : Char) : Bool := c == ',' || Text.isSpace c

-- The maximal pieces without a separator.
def names (list : Text) : List Text := (list.splitOnP isSeparator).filter (!·.isEmpty)

def PatternFlags.read (flags : Text) : Except Failure PatternFlags :=
  flags.foldlM (fun read flag =>
    match flag with
    | 'i' => .ok {read with ignoreCase := true}
    | 'm' => .ok {read with dotAll := true}
    | 'x' => .ok {read with extended := true}
    | other => .error (.unsupportedFlag other flags)) {}

namespace RuleSpec

def read (input : Text) : Except Failure RuleSpec :=
  match NameKind.all.findSome? fun kind => (kind.after? input).map (kind,·) with
  | some (kind,list) =>
    if (Marking.names list).isEmpty then .error (.noNames kind)
    else .ok (.names kind (Marking.names list))
  | none =>
    match input with
    | [] => .error .emptyRule
    | '/' :: rest =>
      match Text.cutAtLast? '/' rest with
      | none => .error (.unclosedPattern input)
      | some (body,flags) => (PatternFlags.read flags).map (.pattern body ·)
    | _ => .ok (.literal input)

-- What a rule is about, as a message puts it: the list of a named rule, else all of it.
def subject (input : Text) : Text :=
  match NameKind.all.findSome? (·.after? input) with
  | some list => Text.trim list
  | none => input

end RuleSpec
end Marking
