import Marking.Pattern.Property.Break
import Marking.Pattern.Property.SharedSpan

-- Unicode properties as patterns name them.

namespace Marking.Pattern

namespace Property
open Text CharSet

-- Names are compared without case, blanks, hyphens, underscores, characters beyond ASCII,
-- and a leading "is".
def looseName (name : Text) : Text :=
  let bare (text : Text) : Text :=
    (text.filter fun c => c.toNat < 128 && !(c == ' ' || c == '_' || c == '-')).map Char.toLower
  match name with
  | a :: b :: rest =>
    if a.toLower = 'i' ∧ b.toLower = 's' then
      if bare rest = ['c'] then "isc".toList else bare rest
    else bare name
  | _ => bare name

def letterCases : List Category := [.uppercaseLetter,.lowercaseLetter,.titlecaseLetter]

-- Patterns never meet a surrogate, whose category has no name here.
def categoryGroups : List (List String × List Category) := [
  (["letter","l"],letterCases ++ [.modifierLetter,.otherLetter]),
  (["casedletter","lc"],letterCases),
  (["uppercaseletter","lu"],[.uppercaseLetter]),
  (["lowercaseletter","ll"],[.lowercaseLetter]),
  (["titlecaseletter","lt"],[.titlecaseLetter]),
  (["modifierletter","lm"],[.modifierLetter]),
  (["otherletter","lo"],[.otherLetter]),
  (["mark","m","combiningmark"],[.nonspacingMark,.spacingMark,.enclosingMark]),
  (["nonspacingmark","mn"],[.nonspacingMark]),
  (["spacingmark","mc"],[.spacingMark]),
  (["enclosingmark","me"],[.enclosingMark]),
  (["number","n"],[.decimalNumber,.letterNumber,.otherNumber]),
  (["decimalnumber","nd","digit"],[.decimalNumber]),
  (["letternumber","nl"],[.letterNumber]),
  (["othernumber","no"],[.otherNumber]),
  (["punctuation","p","punct"],[.connectorPunctuation,.dashPunctuation,.openPunctuation,
    .closePunctuation,.initialPunctuation,.finalPunctuation,.otherPunctuation]),
  (["connectorpunctuation","pc"],[.connectorPunctuation]),
  (["dashpunctuation","pd"],[.dashPunctuation]),
  (["openpunctuation","ps"],[.openPunctuation]),
  (["closepunctuation","pe"],[.closePunctuation]),
  (["initialpunctuation","pi"],[.initialPunctuation]),
  (["finalpunctuation","pf"],[.finalPunctuation]),
  (["otherpunctuation","po"],[.otherPunctuation]),
  (["symbol","s"],[.mathSymbol,.currencySymbol,.modifierSymbol,.otherSymbol]),
  (["mathsymbol","sm"],[.mathSymbol]),
  (["currencysymbol","sc"],[.currencySymbol]),
  (["modifiersymbol","sk"],[.modifierSymbol]),
  (["othersymbol","so"],[.otherSymbol]),
  (["separator","z"],[.spaceSeparator,.lineSeparator,.paragraphSeparator]),
  (["spaceseparator","zs"],[.spaceSeparator]),
  (["lineseparator","zl"],[.lineSeparator]),
  (["paragraphseparator","zp"],[.paragraphSeparator]),
  (["other","c"],[.control,.format,.privateUse,.unassigned]),
  (["control","cc","cntrl"],[.control]),
  (["format","cf"],[.format]),
  (["privateuse","co"],[.privateUse]),
  (["unassigned","cn"],[.unassigned])]

def named? (table : List (List String × α)) (name : Text) : Option α :=
  (table.find? fun row => row.1.any (·.toList == name)).map (·.2)

def trait? (name : Text) : Option CharSet := (named? Trait.names name).map Trait.set

def category? (name : Text) : Option CharSet :=
  if name = "any".toList then some CharSet.none.complement
  else if name = "ascii".toList then some (ofSpans [⟨0x0,0x7F⟩])
  else if name = "assigned".toList then some assigned
  else (named? categoryGroups name).map ofCategories

def scriptNamed? (name : Text) : Option Script :=
  Script.all.find? fun script => script.names.any (·.toList == name)

def script? (name : Text) : Option CharSet := (scriptNamed? name).map fun script => ⟨script.spans⟩

-- The code points that a script uses, those that it shares with others among them.
def extendedScript? (name : Text) : Option CharSet :=
  (scriptNamed? name).map fun script =>
    let shared := ofSpans (SharedSpan.all.map (·.span))
    let used := ofSpans ((SharedSpan.all.filter fun row =>
      row.users.any script.names.contains).map (·.span))
    union (difference ⟨script.spans⟩ shared) used

-- The code points that were characters by a version.
def age? (name : Text) : Option CharSet :=
  let isNamed (age : Age) : Bool := age.names.any (·.toList == name)
  (Age.all.find? isNamed).map fun age =>
    ofSpans ((Age.all.takeWhile (!isNamed ·)).flatMap (·.spans) ++ age.spans)

-- A property on its own: a trait, else a general category, else a script.
def single? (name : Text) : Option CharSet :=
  let name := looseName name
  trait? name <|> category? name <|> script? name

-- The properties that have values.
def valueReaders : List (List String × (Text → Option CharSet)) := [
  (["generalcategory","gc"],category?),
  (["script","sc"],script?),
  (["scriptextensions","scx"],extendedScript?),
  (["age"],age?),
  (["graphemeclusterbreak","gcb"],named? Break.clusterValues),
  (["wordbreak","wb"],named? Break.wordValues),
  (["sentencebreak","sb"],named? Break.sentenceValues)]

def valued? (name value : Text) : Option CharSet := do
  let read ← named? valueReaders (looseName name)
  read (looseName value)

end Property
end Marking.Pattern
