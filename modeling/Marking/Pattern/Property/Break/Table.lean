import Marking.Text.Class.Table

namespace Marking.Pattern.Break
open Text

-- What the general rules for clusters, words and sentences leave open, in Unicode 16.0.

-- Letters that belong to the cluster of the next character.
def prependedLetters : List Span := [
  ⟨0xD4E,0xD4E⟩, ⟨0x111C2,0x111C3⟩, ⟨0x113D1,0x113D1⟩, ⟨0x1193F,0x1193F⟩, ⟨0x11941,0x11941⟩,
  ⟨0x11A3A,0x11A3A⟩, ⟨0x11A84,0x11A89⟩, ⟨0x11D46,0x11D46⟩, ⟨0x11F02,0x11F02⟩]

-- Spacing marks that do not belong to the cluster of the character before them.
def separateVowels : List Span := [
  ⟨0x102B,0x102C⟩, ⟨0x1038,0x1038⟩, ⟨0x1062,0x1064⟩, ⟨0x1067,0x106D⟩, ⟨0x1083,0x1083⟩, ⟨0x1087,0x108C⟩,
  ⟨0x108F,0x108F⟩, ⟨0x109A,0x109C⟩, ⟨0x1A61,0x1A61⟩, ⟨0x1A63,0x1A64⟩, ⟨0xAA7B,0xAA7B⟩, ⟨0xAA7D,0xAA7D⟩,
  ⟨0x11720,0x11721⟩]

-- Letters of scripts that are written without spaces, where a dictionary would be needed to
-- find the words, and characters that count as letters in words although they are none.
def complexLetters : List Span := [
  ⟨0xE01,0xE30⟩, ⟨0xE32,0xE33⟩, ⟨0xE40,0xE46⟩, ⟨0xE81,0xE82⟩, ⟨0xE84,0xE84⟩, ⟨0xE86,0xE8A⟩,
  ⟨0xE8C,0xEA3⟩, ⟨0xEA5,0xEA5⟩, ⟨0xEA7,0xEB0⟩, ⟨0xEB2,0xEB3⟩, ⟨0xEBD,0xEBD⟩, ⟨0xEC0,0xEC4⟩,
  ⟨0xEC6,0xEC6⟩, ⟨0xEDC,0xEDF⟩, ⟨0x1000,0x102A⟩, ⟨0x103F,0x103F⟩, ⟨0x1050,0x1055⟩, ⟨0x105A,0x105D⟩,
  ⟨0x1061,0x1061⟩, ⟨0x1065,0x1066⟩, ⟨0x106E,0x1070⟩, ⟨0x1075,0x1081⟩, ⟨0x108E,0x108E⟩, ⟨0x1780,0x17B3⟩,
  ⟨0x17D7,0x17D7⟩, ⟨0x17DC,0x17DC⟩, ⟨0x1950,0x196D⟩, ⟨0x1970,0x1974⟩, ⟨0x1980,0x19AB⟩, ⟨0x19B0,0x19C9⟩,
  ⟨0x1A20,0x1A54⟩, ⟨0x1AA7,0x1AA7⟩, ⟨0xA9E0,0xA9E4⟩, ⟨0xA9E6,0xA9EF⟩, ⟨0xA9FA,0xA9FE⟩, ⟨0xAA60,0xAA76⟩,
  ⟨0xAA7A,0xAA7A⟩, ⟨0xAA7E,0xAAAF⟩, ⟨0xAAB1,0xAAB1⟩, ⟨0xAAB5,0xAAB6⟩, ⟨0xAAB9,0xAABD⟩, ⟨0xAAC0,0xAAC0⟩,
  ⟨0xAAC2,0xAAC2⟩, ⟨0xAADB,0xAADD⟩, ⟨0x11700,0x1171A⟩, ⟨0x11740,0x11746⟩]

def letterLike : List Span := [
  ⟨0x2C2,0x2C5⟩, ⟨0x2D2,0x2D7⟩, ⟨0x2DE,0x2DF⟩, ⟨0x2E5,0x2EB⟩, ⟨0x2ED,0x2ED⟩, ⟨0x2EF,0x2FF⟩,
  ⟨0x55A,0x55C⟩, ⟨0x55E,0x55E⟩, ⟨0x58A,0x58A⟩, ⟨0x5F3,0x5F3⟩, ⟨0x70F,0x70F⟩, ⟨0xA708,0xA716⟩,
  ⟨0xA720,0xA721⟩, ⟨0xA789,0xA78A⟩, ⟨0xAB5B,0xAB5B⟩]

-- Characters of words in katakana beyond the script itself.
def katakanaLike : List Span := [
  ⟨0x3031,0x3035⟩, ⟨0x309B,0x309C⟩, ⟨0x30A0,0x30A0⟩, ⟨0x30FC,0x30FC⟩, ⟨0xFF70,0xFF70⟩]

-- Characters that count as digits in words and sentences.
def numberFormats : List Span := [
  ⟨0x600,0x605⟩, ⟨0x66B,0x66B⟩, ⟨0x6DD,0x6DD⟩, ⟨0x890,0x891⟩, ⟨0x8E2,0x8E2⟩, ⟨0x19DA,0x19DA⟩,
  ⟨0x110BD,0x110BD⟩, ⟨0x110CD,0x110CD⟩]

-- Punctuation inside words, inside numbers, and inside both.
def midLetters : List Span := [
  ⟨0x3A,0x3A⟩, ⟨0xB7,0xB7⟩, ⟨0x387,0x387⟩, ⟨0x55F,0x55F⟩, ⟨0x5F4,0x5F4⟩, ⟨0x2027,0x2027⟩,
  ⟨0xFE13,0xFE13⟩, ⟨0xFE55,0xFE55⟩, ⟨0xFF1A,0xFF1A⟩]

def midNumbers : List Span := [
  ⟨0x2C,0x2C⟩, ⟨0x3B,0x3B⟩, ⟨0x37E,0x37E⟩, ⟨0x589,0x589⟩, ⟨0x60C,0x60D⟩, ⟨0x66C,0x66C⟩, ⟨0x7F8,0x7F8⟩,
  ⟨0x2044,0x2044⟩, ⟨0xFE50,0xFE50⟩, ⟨0xFE54,0xFE54⟩, ⟨0xFF0C,0xFF0C⟩, ⟨0xFF1B,0xFF1B⟩]

def midBoth : List Span := [
  ⟨0x2E,0x2E⟩, ⟨0x2018,0x2019⟩, ⟨0x2024,0x2024⟩, ⟨0xFE52,0xFE52⟩, ⟨0xFF07,0xFF07⟩, ⟨0xFF0E,0xFF0E⟩]

-- Spaces that make one stretch between words.
def wordSpaces : List Span := [
  ⟨0x20,0x20⟩, ⟨0x1680,0x1680⟩, ⟨0x2000,0x2006⟩, ⟨0x2008,0x200A⟩, ⟨0x205F,0x205F⟩, ⟨0x3000,0x3000⟩]

-- Full stops, punctuation after which a sentence goes on, and ornamental quotation marks.
def fullStops : List Span := [
  ⟨0x2E,0x2E⟩, ⟨0x2024,0x2024⟩, ⟨0xFE52,0xFE52⟩, ⟨0xFF0E,0xFF0E⟩]

def sentenceContinuers : List Span := [
  ⟨0x2C,0x2D⟩, ⟨0x3A,0x3B⟩, ⟨0x37E,0x37E⟩, ⟨0x55D,0x55D⟩, ⟨0x60C,0x60D⟩, ⟨0x7F8,0x7F8⟩,
  ⟨0x1802,0x1802⟩, ⟨0x1808,0x1808⟩, ⟨0x2013,0x2014⟩, ⟨0x3001,0x3001⟩, ⟨0xFE10,0xFE11⟩, ⟨0xFE13,0xFE14⟩,
  ⟨0xFE31,0xFE32⟩, ⟨0xFE50,0xFE51⟩, ⟨0xFE54,0xFE55⟩, ⟨0xFE58,0xFE58⟩, ⟨0xFE63,0xFE63⟩, ⟨0xFF0C,0xFF0D⟩,
  ⟨0xFF1A,0xFF1B⟩, ⟨0xFF64,0xFF64⟩]

def ornamentalQuotes : List Span := [
  ⟨0x275B,0x2760⟩, ⟨0x2E00,0x2E01⟩, ⟨0x2E06,0x2E08⟩, ⟨0x2E0B,0x2E0B⟩, ⟨0x1F676,0x1F678⟩]

end Marking.Pattern.Break
