import Marking.Pattern.CharSet
import Marking.Pattern.Property.Age
import Marking.Pattern.Property.Trait.Table
import Marking.Text.Case

-- Properties that a character has or lacks.

namespace Marking.Pattern
open Text

-- The general categories as patterns know them. Their version of Unicode is older than that
-- of the category table: what came later is unassigned, and one letter has another category.

def isLater (code : Nat) : Bool := Span.anyHolds Age.laterSpans code

-- The code points of a segment whose category passes a test.
def spansWhere (test : Category → Bool) (segment : Category.Segment) : List Span :=
  match segment.stretch with
  | .all category => if test category then [⟨segment.first,segment.last⟩] else []
  | .casePairs =>
    let singles (start : Nat) : List Span :=
      (List.range ((segment.last - start) / 2 + 1)).map fun n => ⟨start + 2 * n,start + 2 * n⟩
    match test .uppercaseLetter,test .lowercaseLetter with
    | true,true => [⟨segment.first,segment.last⟩]
    | true,false => singles segment.first
    | false,true => if segment.first < segment.last then singles (segment.first + 1) else []
    | false,false => []

-- A letter that has no case in the table.
def formerLowercase : Nat := 0x295

namespace CharSet

def later : CharSet := ⟨Age.laterSpans⟩

def assigned : CharSet :=
  difference (ofSpans (Category.segments.flatMap (spansWhere fun _ => true))) later

def ofCategories (categories : List Category) : CharSet :=
  let former : CharSet := ofSpans [⟨formerLowercase,formerLowercase⟩]
  let listed := ofSpans (Category.segments.flatMap (spansWhere categories.contains))
  let known := (listed.difference later).difference former
  let revised := if categories.contains .lowercaseLetter then known.union former else known
  if categories.contains .unassigned then revised.union assigned.complement else revised

end CharSet

inductive Trait where
  | asciiHexDigit | hexDigit | whiteSpace | joinControl | bidiControl | bidiMirrored
  | alphabetic | otherAlphabetic | uppercase | otherUppercase | lowercase | otherLowercase
  | cased | caseIgnorable | softDotted
  | changesWhenLowercased | changesWhenUppercased | changesWhenTitlecased
  | changesWhenCasefolded | changesWhenCasemapped
  | math | otherMath | dash | hyphen | diacritic | extender | deprecated
  | quotationMark | sentenceTerminal | terminalPunctuation
  | defaultIgnorable | otherDefaultIgnorable | noncharacter | variationSelector
  | emoji | emojiComponent | emojiModifier | emojiModifierBase | emojiPresentation
  | extendedPictographic | regionalIndicator
  | graphemeBase | graphemeExtend | otherGraphemeExtend | graphemeLink
  | idStart | otherIdStart | idContinue | otherIdContinue | xidStart | xidContinue
  | idCompatMathStart | idCompatMathContinue | patternSyntax | patternWhiteSpace
  | ideographic | unifiedIdeograph | radical
  | idsBinaryOperator | idsTrinaryOperator | idsUnaryOperator
  | logicalOrderException | modifierCombiningMark | prependedMark
  deriving DecidableEq,Repr

namespace Trait
open CharSet

-- A table of the text rules, less what patterns do not know.
def known (spans : List Span) : CharSet := difference ⟨spans⟩ later

def letters : CharSet := ofCategories
  [.uppercaseLetter,.lowercaseLetter,.titlecaseLetter,.modifierLetter,.otherLetter,.letterNumber]

def uppercaseSet : CharSet :=
  union (ofCategories [.uppercaseLetter]) (known Class.otherUppercase)

def lowercaseSet : CharSet :=
  union (ofCategories [.lowercaseLetter]) (known Class.otherLowercase)

def alphabeticSet : CharSet := union letters (known Class.otherAlphabetic)

def graphemeExtendSet : CharSet :=
  union (ofCategories [.nonspacingMark,.enclosingMark]) (known Class.otherGraphemeExtend)

-- The code points that a table of case mappings changes into known ones.
def changedBy (runs : List Case.Run) : CharSet :=
  ofSpans (runs.flatMap fun run =>
    (List.range ((run.last - run.first) / run.step + 1)).filterMap fun n =>
      let code := run.first + n * run.step
      if isLater code || isLater (run.target + n * run.step) then Option.none
      else some ⟨code,code⟩)

def lowercasedSet : CharSet := union (changedBy Case.lowerRuns) (only '\u0130')

def uppercasedSet : CharSet :=
  union (changedBy Case.upperRuns) (ofSpans (Case.upperExpansions.map fun row => ⟨row.1,row.1⟩))

def titlecasedSet : CharSet := union (difference uppercasedSet ⟨Listed.titleKept⟩) ⟨Listed.titleOnly⟩

-- Identifiers never hold a character that is kept for syntax.
def outsideSyntax (set : CharSet) : CharSet :=
  difference set (union ⟨Listed.patternSyntax⟩ ⟨Listed.patternWhiteSpace⟩)

def idStartSet : CharSet := outsideSyntax (union letters ⟨Listed.otherIdStart⟩)

def idContinueSet : CharSet :=
  outsideSyntax (unions [idStartSet,
    ofCategories [.nonspacingMark,.spacingMark,.decimalNumber,.connectorPunctuation],
    ⟨Listed.otherIdContinue⟩])

def set : Trait → CharSet
  | .asciiHexDigit => CharSet.asciiHexDigit
  | .hexDigit =>
    union CharSet.asciiHexDigit (ofSpans [⟨0xFF10,0xFF19⟩,⟨0xFF21,0xFF26⟩,⟨0xFF41,0xFF46⟩])
  | .whiteSpace => ⟨spaceSpans⟩
  | .joinControl => ofChars ['\u200c','\u200d']
  | .bidiControl => ⟨Listed.bidiControls⟩
  | .bidiMirrored => ⟨Listed.bidiMirrored⟩
  | .alphabetic => alphabeticSet
  | .otherAlphabetic => known Class.otherAlphabetic
  | .uppercase => uppercaseSet
  | .otherUppercase => known Class.otherUppercase
  | .lowercase => lowercaseSet
  | .otherLowercase => known Class.otherLowercase
  | .cased => unions [uppercaseSet,lowercaseSet,ofCategories [.titlecaseLetter]]
  | .caseIgnorable =>
    union (ofCategories
      [.nonspacingMark,.enclosingMark,.format,.modifierLetter,.modifierSymbol])
      (known Class.otherCaseIgnorable)
  | .softDotted => ⟨Listed.softDotted⟩
  | .changesWhenLowercased => lowercasedSet
  | .changesWhenUppercased => uppercasedSet
  | .changesWhenTitlecased => titlecasedSet
  | .changesWhenCasefolded => union (difference lowercasedSet ⟨Listed.foldKept⟩) ⟨Listed.foldOnly⟩
  | .changesWhenCasemapped => unions [lowercasedSet,uppercasedSet,titlecasedSet]
  | .math => union (ofCategories [.mathSymbol]) ⟨Listed.otherMath⟩
  | .otherMath => ⟨Listed.otherMath⟩
  | .dash => union (ofCategories [.dashPunctuation]) (ofChars ['\u2053','\u207b','\u208b','\u2212'])
  | .hyphen => ⟨Listed.hyphens⟩
  | .diacritic => ⟨Listed.diacritics⟩
  | .extender => ⟨Listed.extenders⟩
  | .deprecated => ⟨Listed.deprecated⟩
  | .quotationMark => ⟨Listed.quotationMarks⟩
  | .sentenceTerminal => ⟨Listed.sentenceTerminals⟩
  | .terminalPunctuation => ⟨Listed.terminalPunctuation⟩
  | .defaultIgnorable => ⟨Listed.defaultIgnorable⟩
  | .otherDefaultIgnorable => ⟨Listed.otherDefaultIgnorable⟩
  | .noncharacter => ⟨Listed.noncharacters⟩
  | .variationSelector => ⟨Listed.variationSelectors⟩
  | .emoji => ⟨Listed.emoji⟩
  | .emojiComponent => ⟨Listed.emojiComponents⟩
  | .emojiModifier => ⟨Listed.emojiModifiers⟩
  | .emojiModifierBase => ⟨Listed.emojiModifierBases⟩
  | .emojiPresentation => ⟨Listed.emojiPresentation⟩
  | .extendedPictographic => ⟨Listed.extendedPictographic⟩
  | .regionalIndicator => ⟨Listed.regionalIndicators⟩
  | .graphemeBase =>
    (union (ofCategories [.control,.format,.surrogate,.privateUse,.unassigned,.lineSeparator,
      .paragraphSeparator]) graphemeExtendSet).complement
  | .graphemeExtend => graphemeExtendSet
  | .otherGraphemeExtend => known Class.otherGraphemeExtend
  | .graphemeLink => ⟨Listed.graphemeLinks⟩
  | .idStart => idStartSet
  | .otherIdStart => ⟨Listed.otherIdStart⟩
  | .idContinue => idContinueSet
  | .otherIdContinue => ⟨Listed.otherIdContinue⟩
  | .xidStart => difference idStartSet ⟨Listed.unstableStarts⟩
  | .xidContinue => difference idContinueSet ⟨Listed.unstableParts⟩
  | .idCompatMathStart => ⟨Listed.idCompatMathStart⟩
  | .idCompatMathContinue => ⟨Listed.idCompatMathContinue⟩
  | .patternSyntax => ⟨Listed.patternSyntax⟩
  | .patternWhiteSpace => ⟨Listed.patternWhiteSpace⟩
  | .ideographic => ⟨Listed.ideographic⟩
  | .unifiedIdeograph => ⟨Listed.unifiedIdeographs⟩
  | .radical => ⟨Listed.radicals⟩
  | .idsBinaryOperator => ⟨Listed.idsBinaryOperators⟩
  | .idsTrinaryOperator => ⟨Listed.idsTrinaryOperators⟩
  | .idsUnaryOperator => ⟨Listed.idsUnaryOperators⟩
  | .logicalOrderException => ⟨Listed.logicalOrderExceptions⟩
  | .modifierCombiningMark => ⟨Listed.modifierCombiningMarks⟩
  | .prependedMark => ⟨Listed.prependedMarks⟩

-- The loose spellings of the names.
def names : List (List String × Trait) := [
  (["asciihexdigit","ahex"],.asciiHexDigit),
  (["hexdigit","hex"],.hexDigit),
  (["whitespace","wspace","space"],.whiteSpace),
  (["joincontrol","joinc"],.joinControl),
  (["bidicontrol","bidic"],.bidiControl),
  (["bidimirrored","bidim"],.bidiMirrored),
  (["alphabetic","alpha"],.alphabetic),
  (["otheralphabetic","oalpha"],.otherAlphabetic),
  (["uppercase","upper"],.uppercase),
  (["otheruppercase","oupper"],.otherUppercase),
  (["lowercase","lower"],.lowercase),
  (["otherlowercase","olower"],.otherLowercase),
  (["cased"],.cased),
  (["caseignorable","ci"],.caseIgnorable),
  (["softdotted","sd"],.softDotted),
  (["changeswhenlowercased","cwl"],.changesWhenLowercased),
  (["changeswhenuppercased","cwu"],.changesWhenUppercased),
  (["changeswhentitlecased","cwt"],.changesWhenTitlecased),
  (["changeswhencasefolded","cwcf"],.changesWhenCasefolded),
  (["changeswhencasemapped","cwcm"],.changesWhenCasemapped),
  (["math"],.math),
  (["othermath","omath"],.otherMath),
  (["dash"],.dash),
  (["hyphen"],.hyphen),
  (["diacritic","dia"],.diacritic),
  (["extender","ext"],.extender),
  (["deprecated","dep"],.deprecated),
  (["quotationmark","qmark"],.quotationMark),
  (["sentenceterminal","sterm"],.sentenceTerminal),
  (["terminalpunctuation","term"],.terminalPunctuation),
  (["defaultignorablecodepoint","di"],.defaultIgnorable),
  (["otherdefaultignorablecodepoint","odi"],.otherDefaultIgnorable),
  (["noncharactercodepoint","nchar"],.noncharacter),
  (["variationselector","vs"],.variationSelector),
  (["emoji"],.emoji),
  (["emojicomponent","ecomp"],.emojiComponent),
  (["emojimodifier","emod"],.emojiModifier),
  (["emojimodifierbase","ebase"],.emojiModifierBase),
  (["emojipresentation","epres"],.emojiPresentation),
  (["extendedpictographic","extpict"],.extendedPictographic),
  (["regionalindicator","ri"],.regionalIndicator),
  (["graphemebase","grbase"],.graphemeBase),
  (["graphemeextend","grext"],.graphemeExtend),
  (["othergraphemeextend","ogrext"],.otherGraphemeExtend),
  (["graphemelink","grlink"],.graphemeLink),
  (["idstart","ids"],.idStart),
  (["otheridstart","oids"],.otherIdStart),
  (["idcontinue","idc"],.idContinue),
  (["otheridcontinue","oidc"],.otherIdContinue),
  (["xidstart","xids"],.xidStart),
  (["xidcontinue","xidc"],.xidContinue),
  (["idcompatmathstart"],.idCompatMathStart),
  (["idcompatmathcontinue"],.idCompatMathContinue),
  (["patternsyntax","patsyn"],.patternSyntax),
  (["patternwhitespace","patws"],.patternWhiteSpace),
  (["ideographic","ideo"],.ideographic),
  (["unifiedideograph","uideo"],.unifiedIdeograph),
  (["radical"],.radical),
  (["idsbinaryoperator","idsb"],.idsBinaryOperator),
  (["idstrinaryoperator","idst"],.idsTrinaryOperator),
  (["idsunaryoperator","idsu"],.idsUnaryOperator),
  (["logicalorderexception","loe"],.logicalOrderException),
  (["modifiercombiningmark","mcm"],.modifierCombiningMark),
  (["prependedconcatenationmark","pcm"],.prependedMark)]

end Trait
end Marking.Pattern
