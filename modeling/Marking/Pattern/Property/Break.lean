import Marking.Pattern.Property.Break.Table
import Marking.Pattern.Property.Script
import Marking.Pattern.Property.Trait

-- The roles of characters where a text is divided into clusters, words and sentences. A
-- character with no special role belongs to none of the sets.

namespace Marking.Pattern

namespace Break
open CharSet

-- The value names of a property, in loose spelling, with their sets.
abbrev Values := List (List String × CharSet)

def carriageReturn : List String × CharSet := (["cr"],only '\r')

def lineFeed : List String × CharSet := (["lf"],only '\n')

def joiner : List String × CharSet := (["zwj"],only '\u200d')

def regional : List String × CharSet :=
  (["regionalindicator","ri"],Trait.set .regionalIndicator)

def prepended : CharSet := union (Trait.set .prependedMark) ⟨prependedLetters⟩

def extending : CharSet := union (Trait.set .graphemeExtend) (Trait.set .emojiModifier)

-- Syllables without a final consonant come every twenty-eight codes.
def openSyllables : CharSet :=
  ofSpans ((List.range 399).map fun n => ⟨0xAC00 + 28 * n,0xAC00 + 28 * n⟩)

def clusterControls : CharSet :=
  let controls := unions [ofCategories [.control,.format,.lineSeparator,.paragraphSeparator],
    intersection (ofCategories [.unassigned]) (Trait.set .defaultIgnorable)]
  difference controls (unions [ofChars ['\r','\n','\u200d'],Trait.set .prependedMark,extending])

def clusterValues : Values := [
  carriageReturn,lineFeed,joiner,regional,
  (["control","cn"],clusterControls),
  (["extend","ex"],extending),
  (["prepend","pp"],prepended),
  (["spacingmark","sm"],difference (union (ofCategories [.spacingMark]) (ofChars ['\u0e33','\u0eb3']))
    (unions [extending,prepended,⟨separateVowels⟩])),
  (["l"],ofSpans [⟨0x1100,0x115F⟩,⟨0xA960,0xA97C⟩]),
  (["v"],ofSpans [⟨0x1160,0x11A7⟩,⟨0xD7B0,0xD7C6⟩,⟨0x16D63,0x16D63⟩,⟨0x16D67,0x16D6A⟩]),
  (["t"],ofSpans [⟨0x11A8,0x11FF⟩,⟨0xD7CB,0xD7FB⟩]),
  (["lv"],openSyllables),
  (["lvt"],difference (ofSpans [⟨0xAC00,0xD7A3⟩]) openSyllables)]

-- Digits, and what is written in numbers.
def numeric : CharSet := union (ofCategories [.decimalNumber]) ⟨numberFormats⟩

def wordExtending : CharSet := union extending (ofCategories [.spacingMark])

def katakanaWords : CharSet := union ⟨Script.katakana.spans⟩ ⟨katakanaLike⟩

def hebrewLetters : CharSet := intersection ⟨Script.hebrew.spans⟩ (ofCategories [.otherLetter])

def wordLetters : CharSet :=
  union ⟨letterLike⟩ (difference (Trait.set .alphabetic) (unions [Trait.set .ideographic,
    katakanaWords,⟨Script.hiragana.spans⟩,wordExtending,hebrewLetters,⟨complexLetters⟩]))

def wordValues : Values := [
  carriageReturn,lineFeed,joiner,regional,
  (["newline","nl"],ofChars ['\x0b','\x0c','\x85','\u2028','\u2029']),
  (["extend"],wordExtending.difference (only '\u200d')),
  (["format","fo"],difference (ofCategories [.format]) (unions [ofChars ['\u200b','\u200c','\u200d'],
    Trait.set .prependedMark,Trait.set .graphemeExtend])),
  (["katakana","ka"],katakanaWords),
  (["hebrewletter","hl"],hebrewLetters),
  (["aletter","le"],wordLetters),
  (["singlequote","sq"],only '\''),
  (["doublequote","dq"],only '"'),
  (["midletter","ml"],⟨midLetters⟩),
  (["midnum","mn"],⟨midNumbers⟩),
  (["midnumlet","mb"],⟨midBoth⟩),
  (["numeric","nu"],numeric),
  (["extendnumlet","ex"],union (ofCategories [.connectorPunctuation]) (only '\u202f')),
  (["wsegspace"],⟨wordSpaces⟩)]

def sentenceExtending : CharSet := union (Trait.set .joinControl)
  (union (Trait.set .graphemeExtend) (ofCategories [.spacingMark]))

-- Letters whose small and capital forms are not used to begin sentences.
def georgianSmall : CharSet := ofSpans [⟨0x10D0,0x10FA⟩,⟨0x10FD,0x10FF⟩]

def georgianCapital : CharSet := ofSpans [⟨0x1C90,0x1CBA⟩,⟨0x1CBD,0x1CBF⟩]

def sentenceLower : CharSet :=
  difference (Trait.set .lowercase) (union sentenceExtending georgianSmall)

def sentenceUpper : CharSet :=
  difference (union (Trait.set .uppercase) (ofCategories [.titlecaseLetter])) georgianCapital

def sentenceEnds : CharSet := difference (Trait.set .sentenceTerminal) ⟨fullStops⟩

def brackets : CharSet :=
  ofCategories [.openPunctuation,.closePunctuation,.initialPunctuation,.finalPunctuation]

def sentenceValues : Values := [
  carriageReturn,lineFeed,
  (["extend","ex"],sentenceExtending),
  (["sep","se"],ofChars ['\x85','\u2028','\u2029']),
  (["format","fo"],difference (ofCategories [.format])
    (unions [ofChars ['\u200c','\u200d'],numeric,Trait.set .graphemeExtend])),
  (["sp"],difference (Trait.set .whiteSpace) (ofChars ['\r','\n','\x85','\u2028','\u2029'])),
  (["lower","lo"],sentenceLower),
  (["upper","up"],sentenceUpper),
  (["oletter","le"],difference (union (Trait.set .alphabetic) (only '\u05f3'))
    (unions [sentenceLower,sentenceUpper,sentenceExtending])),
  (["numeric","nu"],union numeric (only '\u066c')),
  (["aterm","at"],⟨fullStops⟩),
  (["scontinue","sc"],⟨sentenceContinuers⟩),
  (["sterm","st"],sentenceEnds),
  (["close","cl"],difference (unions [brackets,
    difference (Trait.set .quotationMark) (ofChars ['\uff02','\uff07']),⟨ornamentalQuotes⟩])
    (union ⟨fullStops⟩ sentenceEnds))]

end Break
end Marking.Pattern
