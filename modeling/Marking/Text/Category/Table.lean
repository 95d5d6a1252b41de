import Marking.Text.Category.Basic

namespace Marking.Text.Category

-- The general categories of Unicode 17.0, in code point order. A code point in no
-- segment is unassigned. The table is cut into pieces named by their first code point.

def segments0000 : List Segment := [
  ⟨0x0,0x1F,.all .control⟩, ⟨0x20,0x20,.all .spaceSeparator⟩, ⟨0x21,0x23,.all .otherPunctuation⟩,
  ⟨0x24,0x24,.all .currencySymbol⟩, ⟨0x25,0x27,.all .otherPunctuation⟩,
  ⟨0x28,0x28,.all .openPunctuation⟩, ⟨0x29,0x29,.all .closePunctuation⟩,
  ⟨0x2A,0x2A,.all .otherPunctuation⟩, ⟨0x2B,0x2B,.all .mathSymbol⟩, ⟨0x2C,0x2C,.all .otherPunctuation⟩,
  ⟨0x2D,0x2D,.all .dashPunctuation⟩, ⟨0x2E,0x2F,.all .otherPunctuation⟩,
  ⟨0x30,0x39,.all .decimalNumber⟩, ⟨0x3A,0x3B,.all .otherPunctuation⟩, ⟨0x3C,0x3E,.all .mathSymbol⟩,
  ⟨0x3F,0x40,.all .otherPunctuation⟩, ⟨0x41,0x5A,.all .uppercaseLetter⟩,
  ⟨0x5B,0x5B,.all .openPunctuation⟩, ⟨0x5C,0x5C,.all .otherPunctuation⟩,
  ⟨0x5D,0x5D,.all .closePunctuation⟩, ⟨0x5E,0x5E,.all .modifierSymbol⟩,
  ⟨0x5F,0x5F,.all .connectorPunctuation⟩, ⟨0x60,0x60,.all .modifierSymbol⟩,
  ⟨0x61,0x7A,.all .lowercaseLetter⟩, ⟨0x7B,0x7B,.all .openPunctuation⟩, ⟨0x7C,0x7C,.all .mathSymbol⟩,
  ⟨0x7D,0x7D,.all .closePunctuation⟩, ⟨0x7E,0x7E,.all .mathSymbol⟩, ⟨0x7F,0x9F,.all .control⟩,
  ⟨0xA0,0xA0,.all .spaceSeparator⟩, ⟨0xA1,0xA1,.all .otherPunctuation⟩,
  ⟨0xA2,0xA5,.all .currencySymbol⟩, ⟨0xA6,0xA6,.all .otherSymbol⟩, ⟨0xA7,0xA7,.all .otherPunctuation⟩,
  ⟨0xA8,0xA8,.all .modifierSymbol⟩, ⟨0xA9,0xA9,.all .otherSymbol⟩, ⟨0xAA,0xAA,.all .otherLetter⟩,
  ⟨0xAB,0xAB,.all .initialPunctuation⟩, ⟨0xAC,0xAC,.all .mathSymbol⟩, ⟨0xAD,0xAD,.all .format⟩,
  ⟨0xAE,0xAE,.all .otherSymbol⟩, ⟨0xAF,0xAF,.all .modifierSymbol⟩, ⟨0xB0,0xB0,.all .otherSymbol⟩,
  ⟨0xB1,0xB1,.all .mathSymbol⟩, ⟨0xB2,0xB3,.all .otherNumber⟩, ⟨0xB4,0xB4,.all .modifierSymbol⟩,
  ⟨0xB5,0xB5,.all .lowercaseLetter⟩, ⟨0xB6,0xB7,.all .otherPunctuation⟩,
  ⟨0xB8,0xB8,.all .modifierSymbol⟩, ⟨0xB9,0xB9,.all .otherNumber⟩, ⟨0xBA,0xBA,.all .otherLetter⟩,
  ⟨0xBB,0xBB,.all .finalPunctuation⟩, ⟨0xBC,0xBE,.all .otherNumber⟩,
  ⟨0xBF,0xBF,.all .otherPunctuation⟩, ⟨0xC0,0xD6,.all .uppercaseLetter⟩, ⟨0xD7,0xD7,.all .mathSymbol⟩,
  ⟨0xD8,0xDE,.all .uppercaseLetter⟩, ⟨0xDF,0xF6,.all .lowercaseLetter⟩, ⟨0xF7,0xF7,.all .mathSymbol⟩,
  ⟨0xF8,0xFF,.all .lowercaseLetter⟩, ⟨0x100,0x136,.casePairs⟩, ⟨0x137,0x138,.all .lowercaseLetter⟩,
  ⟨0x139,0x147,.casePairs⟩, ⟨0x148,0x149,.all .lowercaseLetter⟩, ⟨0x14A,0x177,.casePairs⟩,
  ⟨0x178,0x179,.all .uppercaseLetter⟩, ⟨0x17A,0x17A,.all .lowercaseLetter⟩, ⟨0x17B,0x17D,.casePairs⟩,
  ⟨0x17E,0x180,.all .lowercaseLetter⟩, ⟨0x181,0x182,.all .uppercaseLetter⟩,
  ⟨0x183,0x183,.all .lowercaseLetter⟩, ⟨0x184,0x184,.all .uppercaseLetter⟩,
  ⟨0x185,0x185,.all .lowercaseLetter⟩, ⟨0x186,0x187,.all .uppercaseLetter⟩,
  ⟨0x188,0x188,.all .lowercaseLetter⟩, ⟨0x189,0x18B,.all .uppercaseLetter⟩,
  ⟨0x18C,0x18D,.all .lowercaseLetter⟩, ⟨0x18E,0x191,.all .uppercaseLetter⟩,
  ⟨0x192,0x192,.all .lowercaseLetter⟩, ⟨0x193,0x194,.all .uppercaseLetter⟩,
  ⟨0x195,0x195,.all .lowercaseLetter⟩, ⟨0x196,0x198,.all .uppercaseLetter⟩,
  ⟨0x199,0x19B,.all .lowercaseLetter⟩, ⟨0x19C,0x19D,.all .uppercaseLetter⟩,
  ⟨0x19E,0x19E,.all .lowercaseLetter⟩, ⟨0x19F,0x1A0,.all .uppercaseLetter⟩,
  ⟨0x1A1,0x1A1,.all .lowercaseLetter⟩, ⟨0x1A2,0x1A5,.casePairs⟩, ⟨0x1A6,0x1A7,.all .uppercaseLetter⟩,
  ⟨0x1A8,0x1A8,.all .lowercaseLetter⟩, ⟨0x1A9,0x1A9,.all .uppercaseLetter⟩,
  ⟨0x1AA,0x1AB,.all .lowercaseLetter⟩, ⟨0x1AC,0x1AC,.all .uppercaseLetter⟩,
  ⟨0x1AD,0x1AD,.all .lowercaseLetter⟩, ⟨0x1AE,0x1AF,.all .uppercaseLetter⟩,
  ⟨0x1B0,0x1B0,.all .lowercaseLetter⟩, ⟨0x1B1,0x1B3,.all .uppercaseLetter⟩,
  ⟨0x1B4,0x1B4,.all .lowercaseLetter⟩, ⟨0x1B5,0x1B5,.all .uppercaseLetter⟩,
  ⟨0x1B6,0x1B6,.all .lowercaseLetter⟩, ⟨0x1B7,0x1B8,.all .uppercaseLetter⟩,
  ⟨0x1B9,0x1BA,.all .lowercaseLetter⟩, ⟨0x1BB,0x1BB,.all .otherLetter⟩,
  ⟨0x1BC,0x1BC,.all .uppercaseLetter⟩, ⟨0x1BD,0x1BF,.all .lowercaseLetter⟩,
  ⟨0x1C0,0x1C3,.all .otherLetter⟩, ⟨0x1C4,0x1C4,.all .uppercaseLetter⟩,
  ⟨0x1C5,0x1C5,.all .titlecaseLetter⟩, ⟨0x1C6,0x1C6,.all .lowercaseLetter⟩,
  ⟨0x1C7,0x1C7,.all .uppercaseLetter⟩, ⟨0x1C8,0x1C8,.all .titlecaseLetter⟩,
  ⟨0x1C9,0x1C9,.all .lowercaseLetter⟩, ⟨0x1CA,0x1CA,.all .uppercaseLetter⟩,
  ⟨0x1CB,0x1CB,.all .titlecaseLetter⟩, ⟨0x1CC,0x1CC,.all .lowercaseLetter⟩, ⟨0x1CD,0x1DB,.casePairs⟩,
  ⟨0x1DC,0x1DD,.all .lowercaseLetter⟩, ⟨0x1DE,0x1EE,.casePairs⟩, ⟨0x1EF,0x1F0,.all .lowercaseLetter⟩,
  ⟨0x1F1,0x1F1,.all .uppercaseLetter⟩, ⟨0x1F2,0x1F2,.all .titlecaseLetter⟩,
  ⟨0x1F3,0x1F3,.all .lowercaseLetter⟩, ⟨0x1F4,0x1F4,.all .uppercaseLetter⟩,
  ⟨0x1F5,0x1F5,.all .lowercaseLetter⟩, ⟨0x1F6,0x1F8,.all .uppercaseLetter⟩,
  ⟨0x1F9,0x1F9,.all .lowercaseLetter⟩, ⟨0x1FA,0x232,.casePairs⟩, ⟨0x233,0x239,.all .lowercaseLetter⟩,
  ⟨0x23A,0x23B,.all .uppercaseLetter⟩, ⟨0x23C,0x23C,.all .lowercaseLetter⟩,
  ⟨0x23D,0x23E,.all .uppercaseLetter⟩, ⟨0x23F,0x240,.all .lowercaseLetter⟩,
  ⟨0x241,0x241,.all .uppercaseLetter⟩, ⟨0x242,0x242,.all .lowercaseLetter⟩,
  ⟨0x243,0x246,.all .uppercaseLetter⟩, ⟨0x247,0x247,.all .lowercaseLetter⟩, ⟨0x248,0x24E,.casePairs⟩,
  ⟨0x24F,0x293,.all .lowercaseLetter⟩, ⟨0x294,0x295,.all .otherLetter⟩,
  ⟨0x296,0x2AF,.all .lowercaseLetter⟩, ⟨0x2B0,0x2C1,.all .modifierLetter⟩,
  ⟨0x2C2,0x2C5,.all .modifierSymbol⟩, ⟨0x2C6,0x2D1,.all .modifierLetter⟩,
  ⟨0x2D2,0x2DF,.all .modifierSymbol⟩, ⟨0x2E0,0x2E4,.all .modifierLetter⟩,
  ⟨0x2E5,0x2EB,.all .modifierSymbol⟩, ⟨0x2EC,0x2EC,.all .modifierLetter⟩,
  ⟨0x2ED,0x2ED,.all .modifierSymbol⟩, ⟨0x2EE,0x2EE,.all .modifierLetter⟩,
  ⟨0x2EF,0x2FF,.all .modifierSymbol⟩]

def segments0300 : List Segment := [
  ⟨0x300,0x36F,.all .nonspacingMark⟩, ⟨0x370,0x373,.casePairs⟩, ⟨0x374,0x374,.all .modifierLetter⟩,
  ⟨0x375,0x375,.all .modifierSymbol⟩, ⟨0x376,0x376,.all .uppercaseLetter⟩,
  ⟨0x377,0x377,.all .lowercaseLetter⟩, ⟨0x37A,0x37A,.all .modifierLetter⟩,
  ⟨0x37B,0x37D,.all .lowercaseLetter⟩, ⟨0x37E,0x37E,.all .otherPunctuation⟩,
  ⟨0x37F,0x37F,.all .uppercaseLetter⟩, ⟨0x384,0x385,.all .modifierSymbol⟩,
  ⟨0x386,0x386,.all .uppercaseLetter⟩, ⟨0x387,0x387,.all .otherPunctuation⟩,
  ⟨0x388,0x38A,.all .uppercaseLetter⟩, ⟨0x38C,0x38C,.all .uppercaseLetter⟩,
  ⟨0x38E,0x38F,.all .uppercaseLetter⟩, ⟨0x390,0x390,.all .lowercaseLetter⟩,
  ⟨0x391,0x3A1,.all .uppercaseLetter⟩, ⟨0x3A3,0x3AB,.all .uppercaseLetter⟩,
  ⟨0x3AC,0x3CE,.all .lowercaseLetter⟩, ⟨0x3CF,0x3CF,.all .uppercaseLetter⟩,
  ⟨0x3D0,0x3D1,.all .lowercaseLetter⟩, ⟨0x3D2,0x3D4,.all .uppercaseLetter⟩,
  ⟨0x3D5,0x3D7,.all .lowercaseLetter⟩, ⟨0x3D8,0x3EE,.casePairs⟩, ⟨0x3EF,0x3F3,.all .lowercaseLetter⟩,
  ⟨0x3F4,0x3F4,.all .uppercaseLetter⟩, ⟨0x3F5,0x3F5,.all .lowercaseLetter⟩,
  ⟨0x3F6,0x3F6,.all .mathSymbol⟩, ⟨0x3F7,0x3F7,.all .uppercaseLetter⟩,
  ⟨0x3F8,0x3F8,.all .lowercaseLetter⟩, ⟨0x3F9,0x3FA,.all .uppercaseLetter⟩,
  ⟨0x3FB,0x3FC,.all .lowercaseLetter⟩, ⟨0x3FD,0x42F,.all .uppercaseLetter⟩,
  ⟨0x430,0x45F,.all .lowercaseLetter⟩, ⟨0x460,0x481,.casePairs⟩, ⟨0x482,0x482,.all .otherSymbol⟩,
  ⟨0x483,0x487,.all .nonspacingMark⟩, ⟨0x488,0x489,.all .enclosingMark⟩, ⟨0x48A,0x4BF,.casePairs⟩,
  ⟨0x4C0,0x4C1,.all .uppercaseLetter⟩, ⟨0x4C2,0x4C2,.all .lowercaseLetter⟩, ⟨0x4C3,0x4CD,.casePairs⟩,
  ⟨0x4CE,0x4CF,.all .lowercaseLetter⟩, ⟨0x4D0,0x52F,.casePairs⟩, ⟨0x531,0x556,.all .uppercaseLetter⟩,
  ⟨0x559,0x559,.all .modifierLetter⟩, ⟨0x55A,0x55F,.all .otherPunctuation⟩,
  ⟨0x560,0x588,.all .lowercaseLetter⟩, ⟨0x589,0x589,.all .otherPunctuation⟩,
  ⟨0x58A,0x58A,.all .dashPunctuation⟩, ⟨0x58D,0x58E,.all .otherSymbol⟩,
  ⟨0x58F,0x58F,.all .currencySymbol⟩, ⟨0x591,0x5BD,.all .nonspacingMark⟩,
  ⟨0x5BE,0x5BE,.all .dashPunctuation⟩, ⟨0x5BF,0x5BF,.all .nonspacingMark⟩,
  ⟨0x5C0,0x5C0,.all .otherPunctuation⟩, ⟨0x5C1,0x5C2,.all .nonspacingMark⟩,
  ⟨0x5C3,0x5C3,.all .otherPunctuation⟩, ⟨0x5C4,0x5C5,.all .nonspacingMark⟩,
  ⟨0x5C6,0x5C6,.all .otherPunctuation⟩, ⟨0x5C7,0x5C7,.all .nonspacingMark⟩,
  ⟨0x5D0,0x5EA,.all .otherLetter⟩, ⟨0x5EF,0x5F2,.all .otherLetter⟩,
  ⟨0x5F3,0x5F4,.all .otherPunctuation⟩, ⟨0x600,0x605,.all .format⟩, ⟨0x606,0x608,.all .mathSymbol⟩,
  ⟨0x609,0x60A,.all .otherPunctuation⟩, ⟨0x60B,0x60B,.all .currencySymbol⟩,
  ⟨0x60C,0x60D,.all .otherPunctuation⟩, ⟨0x60E,0x60F,.all .otherSymbol⟩,
  ⟨0x610,0x61A,.all .nonspacingMark⟩, ⟨0x61B,0x61B,.all .otherPunctuation⟩, ⟨0x61C,0x61C,.all .format⟩,
  ⟨0x61D,0x61F,.all .otherPunctuation⟩, ⟨0x620,0x63F,.all .otherLetter⟩,
  ⟨0x640,0x640,.all .modifierLetter⟩, ⟨0x641,0x64A,.all .otherLetter⟩,
  ⟨0x64B,0x65F,.all .nonspacingMark⟩, ⟨0x660,0x669,.all .decimalNumber⟩,
  ⟨0x66A,0x66D,.all .otherPunctuation⟩, ⟨0x66E,0x66F,.all .otherLetter⟩,
  ⟨0x670,0x670,.all .nonspacingMark⟩, ⟨0x671,0x6D3,.all .otherLetter⟩,
  ⟨0x6D4,0x6D4,.all .otherPunctuation⟩, ⟨0x6D5,0x6D5,.all .otherLetter⟩,
  ⟨0x6D6,0x6DC,.all .nonspacingMark⟩, ⟨0x6DD,0x6DD,.all .format⟩, ⟨0x6DE,0x6DE,.all .otherSymbol⟩,
  ⟨0x6DF,0x6E4,.all .nonspacingMark⟩, ⟨0x6E5,0x6E6,.all .modifierLetter⟩,
  ⟨0x6E7,0x6E8,.all .nonspacingMark⟩, ⟨0x6E9,0x6E9,.all .otherSymbol⟩,
  ⟨0x6EA,0x6ED,.all .nonspacingMark⟩, ⟨0x6EE,0x6EF,.all .otherLetter⟩,
  ⟨0x6F0,0x6F9,.all .decimalNumber⟩, ⟨0x6FA,0x6FC,.all .otherLetter⟩, ⟨0x6FD,0x6FE,.all .otherSymbol⟩,
  ⟨0x6FF,0x6FF,.all .otherLetter⟩, ⟨0x700,0x70D,.all .otherPunctuation⟩, ⟨0x70F,0x70F,.all .format⟩,
  ⟨0x710,0x710,.all .otherLetter⟩, ⟨0x711,0x711,.all .nonspacingMark⟩, ⟨0x712,0x72F,.all .otherLetter⟩,
  ⟨0x730,0x74A,.all .nonspacingMark⟩, ⟨0x74D,0x7A5,.all .otherLetter⟩,
  ⟨0x7A6,0x7B0,.all .nonspacingMark⟩, ⟨0x7B1,0x7B1,.all .otherLetter⟩,
  ⟨0x7C0,0x7C9,.all .decimalNumber⟩, ⟨0x7CA,0x7EA,.all .otherLetter⟩,
  ⟨0x7EB,0x7F3,.all .nonspacingMark⟩, ⟨0x7F4,0x7F5,.all .modifierLetter⟩,
  ⟨0x7F6,0x7F6,.all .otherSymbol⟩, ⟨0x7F7,0x7F9,.all .otherPunctuation⟩,
  ⟨0x7FA,0x7FA,.all .modifierLetter⟩, ⟨0x7FD,0x7FD,.all .nonspacingMark⟩,
  ⟨0x7FE,0x7FF,.all .currencySymbol⟩, ⟨0x800,0x815,.all .otherLetter⟩,
  ⟨0x816,0x819,.all .nonspacingMark⟩, ⟨0x81A,0x81A,.all .modifierLetter⟩,
  ⟨0x81B,0x823,.all .nonspacingMark⟩, ⟨0x824,0x824,.all .modifierLetter⟩,
  ⟨0x825,0x827,.all .nonspacingMark⟩, ⟨0x828,0x828,.all .modifierLetter⟩,
  ⟨0x829,0x82D,.all .nonspacingMark⟩, ⟨0x830,0x83E,.all .otherPunctuation⟩,
  ⟨0x840,0x858,.all .otherLetter⟩, ⟨0x859,0x85B,.all .nonspacingMark⟩,
  ⟨0x85E,0x85E,.all .otherPunctuation⟩, ⟨0x860,0x86A,.all .otherLetter⟩,
  ⟨0x870,0x887,.all .otherLetter⟩, ⟨0x888,0x888,.all .modifierSymbol⟩, ⟨0x889,0x88F,.all .otherLetter⟩,
  ⟨0x890,0x891,.all .format⟩, ⟨0x897,0x89F,.all .nonspacingMark⟩, ⟨0x8A0,0x8C8,.all .otherLetter⟩,
  ⟨0x8C9,0x8C9,.all .modifierLetter⟩, ⟨0x8CA,0x8E1,.all .nonspacingMark⟩, ⟨0x8E2,0x8E2,.all .format⟩,
  ⟨0x8E3,0x902,.all .nonspacingMark⟩, ⟨0x903,0x903,.all .spacingMark⟩, ⟨0x904,0x939,.all .otherLetter⟩,
  ⟨0x93A,0x93A,.all .nonspacingMark⟩, ⟨0x93B,0x93B,.all .spacingMark⟩,
  ⟨0x93C,0x93C,.all .nonspacingMark⟩, ⟨0x93D,0x93D,.all .otherLetter⟩, ⟨0x93E,0x940,.all .spacingMark⟩,
  ⟨0x941,0x948,.all .nonspacingMark⟩, ⟨0x949,0x94C,.all .spacingMark⟩,
  ⟨0x94D,0x94D,.all .nonspacingMark⟩]

def segments094E : List Segment := [
  ⟨0x94E,0x94F,.all .spacingMark⟩, ⟨0x950,0x950,.all .otherLetter⟩, ⟨0x951,0x957,.all .nonspacingMark⟩,
  ⟨0x958,0x961,.all .otherLetter⟩, ⟨0x962,0x963,.all .nonspacingMark⟩,
  ⟨0x964,0x965,.all .otherPunctuation⟩, ⟨0x966,0x96F,.all .decimalNumber⟩,
  ⟨0x970,0x970,.all .otherPunctuation⟩, ⟨0x971,0x971,.all .modifierLetter⟩,
  ⟨0x972,0x980,.all .otherLetter⟩, ⟨0x981,0x981,.all .nonspacingMark⟩, ⟨0x982,0x983,.all .spacingMark⟩,
  ⟨0x985,0x98C,.all .otherLetter⟩, ⟨0x98F,0x990,.all .otherLetter⟩, ⟨0x993,0x9A8,.all .otherLetter⟩,
  ⟨0x9AA,0x9B0,.all .otherLetter⟩, ⟨0x9B2,0x9B2,.all .otherLetter⟩, ⟨0x9B6,0x9B9,.all .otherLetter⟩,
  ⟨0x9BC,0x9BC,.all .nonspacingMark⟩, ⟨0x9BD,0x9BD,.all .otherLetter⟩, ⟨0x9BE,0x9C0,.all .spacingMark⟩,
  ⟨0x9C1,0x9C4,.all .nonspacingMark⟩, ⟨0x9C7,0x9C8,.all .spacingMark⟩, ⟨0x9CB,0x9CC,.all .spacingMark⟩,
  ⟨0x9CD,0x9CD,.all .nonspacingMark⟩, ⟨0x9CE,0x9CE,.all .otherLetter⟩, ⟨0x9D7,0x9D7,.all .spacingMark⟩,
  ⟨0x9DC,0x9DD,.all .otherLetter⟩, ⟨0x9DF,0x9E1,.all .otherLetter⟩, ⟨0x9E2,0x9E3,.all .nonspacingMark⟩,
  ⟨0x9E6,0x9EF,.all .decimalNumber⟩, ⟨0x9F0,0x9F1,.all .otherLetter⟩,
  ⟨0x9F2,0x9F3,.all .currencySymbol⟩, ⟨0x9F4,0x9F9,.all .otherNumber⟩, ⟨0x9FA,0x9FA,.all .otherSymbol⟩,
  ⟨0x9FB,0x9FB,.all .currencySymbol⟩, ⟨0x9FC,0x9FC,.all .otherLetter⟩,
  ⟨0x9FD,0x9FD,.all .otherPunctuation⟩, ⟨0x9FE,0x9FE,.all .nonspacingMark⟩,
  ⟨0xA01,0xA02,.all .nonspacingMark⟩, ⟨0xA03,0xA03,.all .spacingMark⟩, ⟨0xA05,0xA0A,.all .otherLetter⟩,
  ⟨0xA0F,0xA10,.all .otherLetter⟩, ⟨0xA13,0xA28,.all .otherLetter⟩, ⟨0xA2A,0xA30,.all .otherLetter⟩,
  ⟨0xA32,0xA33,.all .otherLetter⟩, ⟨0xA35,0xA36,.all .otherLetter⟩, ⟨0xA38,0xA39,.all .otherLetter⟩,
  ⟨0xA3C,0xA3C,.all .nonspacingMark⟩, ⟨0xA3E,0xA40,.all .spacingMark⟩,
  ⟨0xA41,0xA42,.all .nonspacingMark⟩, ⟨0xA47,0xA48,.all .nonspacingMark⟩,
  ⟨0xA4B,0xA4D,.all .nonspacingMark⟩, ⟨0xA51,0xA51,.all .nonspacingMark⟩,
  ⟨0xA59,0xA5C,.all .otherLetter⟩, ⟨0xA5E,0xA5E,.all .otherLetter⟩, ⟨0xA66,0xA6F,.all .decimalNumber⟩,
  ⟨0xA70,0xA71,.all .nonspacingMark⟩, ⟨0xA72,0xA74,.all .otherLetter⟩,
  ⟨0xA75,0xA75,.all .nonspacingMark⟩, ⟨0xA76,0xA76,.all .otherPunctuation⟩,
  ⟨0xA81,0xA82,.all .nonspacingMark⟩, ⟨0xA83,0xA83,.all .spacingMark⟩, ⟨0xA85,0xA8D,.all .otherLetter⟩,
  ⟨0xA8F,0xA91,.all .otherLetter⟩, ⟨0xA93,0xAA8,.all .otherLetter⟩, ⟨0xAAA,0xAB0,.all .otherLetter⟩,
  ⟨0xAB2,0xAB3,.all .otherLetter⟩, ⟨0xAB5,0xAB9,.all .otherLetter⟩, ⟨0xABC,0xABC,.all .nonspacingMark⟩,
  ⟨0xABD,0xABD,.all .otherLetter⟩, ⟨0xABE,0xAC0,.all .spacingMark⟩, ⟨0xAC1,0xAC5,.all .nonspacingMark⟩,
  ⟨0xAC7,0xAC8,.all .nonspacingMark⟩, ⟨0xAC9,0xAC9,.all .spacingMark⟩, ⟨0xACB,0xACC,.all .spacingMark⟩,
  ⟨0xACD,0xACD,.all .nonspacingMark⟩, ⟨0xAD0,0xAD0,.all .otherLetter⟩, ⟨0xAE0,0xAE1,.all .otherLetter⟩,
  ⟨0xAE2,0xAE3,.all .nonspacingMark⟩, ⟨0xAE6,0xAEF,.all .decimalNumber⟩,
  ⟨0xAF0,0xAF0,.all .otherPunctuation⟩, ⟨0xAF1,0xAF1,.all .currencySymbol⟩,
  ⟨0xAF9,0xAF9,.all .otherLetter⟩, ⟨0xAFA,0xAFF,.all .nonspacingMark⟩,
  ⟨0xB01,0xB01,.all .nonspacingMark⟩, ⟨0xB02,0xB03,.all .spacingMark⟩, ⟨0xB05,0xB0C,.all .otherLetter⟩,
  ⟨0xB0F,0xB10,.all .otherLetter⟩, ⟨0xB13,0xB28,.all .otherLetter⟩, ⟨0xB2A,0xB30,.all .otherLetter⟩,
  ⟨0xB32,0xB33,.all .otherLetter⟩, ⟨0xB35,0xB39,.all .otherLetter⟩, ⟨0xB3C,0xB3C,.all .nonspacingMark⟩,
  ⟨0xB3D,0xB3D,.all .otherLetter⟩, ⟨0xB3E,0xB3E,.all .spacingMark⟩, ⟨0xB3F,0xB3F,.all .nonspacingMark⟩,
  ⟨0xB40,0xB40,.all .spacingMark⟩, ⟨0xB41,0xB44,.all .nonspacingMark⟩, ⟨0xB47,0xB48,.all .spacingMark⟩,
  ⟨0xB4B,0xB4C,.all .spacingMark⟩, ⟨0xB4D,0xB4D,.all .nonspacingMark⟩,
  ⟨0xB55,0xB56,.all .nonspacingMark⟩, ⟨0xB57,0xB57,.all .spacingMark⟩, ⟨0xB5C,0xB5D,.all .otherLetter⟩,
  ⟨0xB5F,0xB61,.all .otherLetter⟩, ⟨0xB62,0xB63,.all .nonspacingMark⟩,
  ⟨0xB66,0xB6F,.all .decimalNumber⟩, ⟨0xB70,0xB70,.all .otherSymbol⟩, ⟨0xB71,0xB71,.all .otherLetter⟩,
  ⟨0xB72,0xB77,.all .otherNumber⟩, ⟨0xB82,0xB82,.all .nonspacingMark⟩, ⟨0xB83,0xB83,.all .otherLetter⟩,
  ⟨0xB85,0xB8A,.all .otherLetter⟩, ⟨0xB8E,0xB90,.all .otherLetter⟩, ⟨0xB92,0xB95,.all .otherLetter⟩,
  ⟨0xB99,0xB9A,.all .otherLetter⟩, ⟨0xB9C,0xB9C,.all .otherLetter⟩, ⟨0xB9E,0xB9F,.all .otherLetter⟩,
  ⟨0xBA3,0xBA4,.all .otherLetter⟩, ⟨0xBA8,0xBAA,.all .otherLetter⟩, ⟨0xBAE,0xBB9,.all .otherLetter⟩,
  ⟨0xBBE,0xBBF,.all .spacingMark⟩, ⟨0xBC0,0xBC0,.all .nonspacingMark⟩, ⟨0xBC1,0xBC2,.all .spacingMark⟩,
  ⟨0xBC6,0xBC8,.all .spacingMark⟩, ⟨0xBCA,0xBCC,.all .spacingMark⟩, ⟨0xBCD,0xBCD,.all .nonspacingMark⟩,
  ⟨0xBD0,0xBD0,.all .otherLetter⟩, ⟨0xBD7,0xBD7,.all .spacingMark⟩, ⟨0xBE6,0xBEF,.all .decimalNumber⟩,
  ⟨0xBF0,0xBF2,.all .otherNumber⟩, ⟨0xBF3,0xBF8,.all .otherSymbol⟩, ⟨0xBF9,0xBF9,.all .currencySymbol⟩,
  ⟨0xBFA,0xBFA,.all .otherSymbol⟩, ⟨0xC00,0xC00,.all .nonspacingMark⟩, ⟨0xC01,0xC03,.all .spacingMark⟩,
  ⟨0xC04,0xC04,.all .nonspacingMark⟩, ⟨0xC05,0xC0C,.all .otherLetter⟩, ⟨0xC0E,0xC10,.all .otherLetter⟩,
  ⟨0xC12,0xC28,.all .otherLetter⟩, ⟨0xC2A,0xC39,.all .otherLetter⟩, ⟨0xC3C,0xC3C,.all .nonspacingMark⟩,
  ⟨0xC3D,0xC3D,.all .otherLetter⟩, ⟨0xC3E,0xC40,.all .nonspacingMark⟩, ⟨0xC41,0xC44,.all .spacingMark⟩,
  ⟨0xC46,0xC48,.all .nonspacingMark⟩, ⟨0xC4A,0xC4D,.all .nonspacingMark⟩,
  ⟨0xC55,0xC56,.all .nonspacingMark⟩, ⟨0xC58,0xC5A,.all .otherLetter⟩]

def segments0C5C : List Segment := [
  ⟨0xC5C,0xC5D,.all .otherLetter⟩, ⟨0xC60,0xC61,.all .otherLetter⟩, ⟨0xC62,0xC63,.all .nonspacingMark⟩,
  ⟨0xC66,0xC6F,.all .decimalNumber⟩, ⟨0xC77,0xC77,.all .otherPunctuation⟩,
  ⟨0xC78,0xC7E,.all .otherNumber⟩, ⟨0xC7F,0xC7F,.all .otherSymbol⟩, ⟨0xC80,0xC80,.all .otherLetter⟩,
  ⟨0xC81,0xC81,.all .nonspacingMark⟩, ⟨0xC82,0xC83,.all .spacingMark⟩,
  ⟨0xC84,0xC84,.all .otherPunctuation⟩, ⟨0xC85,0xC8C,.all .otherLetter⟩,
  ⟨0xC8E,0xC90,.all .otherLetter⟩, ⟨0xC92,0xCA8,.all .otherLetter⟩, ⟨0xCAA,0xCB3,.all .otherLetter⟩,
  ⟨0xCB5,0xCB9,.all .otherLetter⟩, ⟨0xCBC,0xCBC,.all .nonspacingMark⟩, ⟨0xCBD,0xCBD,.all .otherLetter⟩,
  ⟨0xCBE,0xCBE,.all .spacingMark⟩, ⟨0xCBF,0xCBF,.all .nonspacingMark⟩, ⟨0xCC0,0xCC4,.all .spacingMark⟩,
  ⟨0xCC6,0xCC6,.all .nonspacingMark⟩, ⟨0xCC7,0xCC8,.all .spacingMark⟩, ⟨0xCCA,0xCCB,.all .spacingMark⟩,
  ⟨0xCCC,0xCCD,.all .nonspacingMark⟩, ⟨0xCD5,0xCD6,.all .spacingMark⟩, ⟨0xCDC,0xCDE,.all .otherLetter⟩,
  ⟨0xCE0,0xCE1,.all .otherLetter⟩, ⟨0xCE2,0xCE3,.all .nonspacingMark⟩,
  ⟨0xCE6,0xCEF,.all .decimalNumber⟩, ⟨0xCF1,0xCF2,.all .otherLetter⟩, ⟨0xCF3,0xCF3,.all .spacingMark⟩,
  ⟨0xD00,0xD01,.all .nonspacingMark⟩, ⟨0xD02,0xD03,.all .spacingMark⟩, ⟨0xD04,0xD0C,.all .otherLetter⟩,
  ⟨0xD0E,0xD10,.all .otherLetter⟩, ⟨0xD12,0xD3A,.all .otherLetter⟩, ⟨0xD3B,0xD3C,.all .nonspacingMark⟩,
  ⟨0xD3D,0xD3D,.all .otherLetter⟩, ⟨0xD3E,0xD40,.all .spacingMark⟩, ⟨0xD41,0xD44,.all .nonspacingMark⟩,
  ⟨0xD46,0xD48,.all .spacingMark⟩, ⟨0xD4A,0xD4C,.all .spacingMark⟩, ⟨0xD4D,0xD4D,.all .nonspacingMark⟩,
  ⟨0xD4E,0xD4E,.all .otherLetter⟩, ⟨0xD4F,0xD4F,.all .otherSymbol⟩, ⟨0xD54,0xD56,.all .otherLetter⟩,
  ⟨0xD57,0xD57,.all .spacingMark⟩, ⟨0xD58,0xD5E,.all .otherNumber⟩, ⟨0xD5F,0xD61,.all .otherLetter⟩,
  ⟨0xD62,0xD63,.all .nonspacingMark⟩, ⟨0xD66,0xD6F,.all .decimalNumber⟩,
  ⟨0xD70,0xD78,.all .otherNumber⟩, ⟨0xD79,0xD79,.all .otherSymbol⟩, ⟨0xD7A,0xD7F,.all .otherLetter⟩,
  ⟨0xD81,0xD81,.all .nonspacingMark⟩, ⟨0xD82,0xD83,.all .spacingMark⟩, ⟨0xD85,0xD96,.all .otherLetter⟩,
  ⟨0xD9A,0xDB1,.all .otherLetter⟩, ⟨0xDB3,0xDBB,.all .otherLetter⟩, ⟨0xDBD,0xDBD,.all .otherLetter⟩,
  ⟨0xDC0,0xDC6,.all .otherLetter⟩, ⟨0xDCA,0xDCA,.all .nonspacingMark⟩, ⟨0xDCF,0xDD1,.all .spacingMark⟩,
  ⟨0xDD2,0xDD4,.all .nonspacingMark⟩, ⟨0xDD6,0xDD6,.all .nonspacingMark⟩,
  ⟨0xDD8,0xDDF,.all .spacingMark⟩, ⟨0xDE6,0xDEF,.all .decimalNumber⟩, ⟨0xDF2,0xDF3,.all .spacingMark⟩,
  ⟨0xDF4,0xDF4,.all .otherPunctuation⟩, ⟨0xE01,0xE30,.all .otherLetter⟩,
  ⟨0xE31,0xE31,.all .nonspacingMark⟩, ⟨0xE32,0xE33,.all .otherLetter⟩,
  ⟨0xE34,0xE3A,.all .nonspacingMark⟩, ⟨0xE3F,0xE3F,.all .currencySymbol⟩,
  ⟨0xE40,0xE45,.all .otherLetter⟩, ⟨0xE46,0xE46,.all .modifierLetter⟩,
  ⟨0xE47,0xE4E,.all .nonspacingMark⟩, ⟨0xE4F,0xE4F,.all .otherPunctuation⟩,
  ⟨0xE50,0xE59,.all .decimalNumber⟩, ⟨0xE5A,0xE5B,.all .otherPunctuation⟩,
  ⟨0xE81,0xE82,.all .otherLetter⟩, ⟨0xE84,0xE84,.all .otherLetter⟩, ⟨0xE86,0xE8A,.all .otherLetter⟩,
  ⟨0xE8C,0xEA3,.all .otherLetter⟩, ⟨0xEA5,0xEA5,.all .otherLetter⟩, ⟨0xEA7,0xEB0,.all .otherLetter⟩,
  ⟨0xEB1,0xEB1,.all .nonspacingMark⟩, ⟨0xEB2,0xEB3,.all .otherLetter⟩,
  ⟨0xEB4,0xEBC,.all .nonspacingMark⟩, ⟨0xEBD,0xEBD,.all .otherLetter⟩, ⟨0xEC0,0xEC4,.all .otherLetter⟩,
  ⟨0xEC6,0xEC6,.all .modifierLetter⟩, ⟨0xEC8,0xECE,.all .nonspacingMark⟩,
  ⟨0xED0,0xED9,.all .decimalNumber⟩, ⟨0xEDC,0xEDF,.all .otherLetter⟩, ⟨0xF00,0xF00,.all .otherLetter⟩,
  ⟨0xF01,0xF03,.all .otherSymbol⟩, ⟨0xF04,0xF12,.all .otherPunctuation⟩,
  ⟨0xF13,0xF13,.all .otherSymbol⟩, ⟨0xF14,0xF14,.all .otherPunctuation⟩,
  ⟨0xF15,0xF17,.all .otherSymbol⟩, ⟨0xF18,0xF19,.all .nonspacingMark⟩, ⟨0xF1A,0xF1F,.all .otherSymbol⟩,
  ⟨0xF20,0xF29,.all .decimalNumber⟩, ⟨0xF2A,0xF33,.all .otherNumber⟩, ⟨0xF34,0xF34,.all .otherSymbol⟩,
  ⟨0xF35,0xF35,.all .nonspacingMark⟩, ⟨0xF36,0xF36,.all .otherSymbol⟩,
  ⟨0xF37,0xF37,.all .nonspacingMark⟩, ⟨0xF38,0xF38,.all .otherSymbol⟩,
  ⟨0xF39,0xF39,.all .nonspacingMark⟩, ⟨0xF3A,0xF3A,.all .openPunctuation⟩,
  ⟨0xF3B,0xF3B,.all .closePunctuation⟩, ⟨0xF3C,0xF3C,.all .openPunctuation⟩,
  ⟨0xF3D,0xF3D,.all .closePunctuation⟩, ⟨0xF3E,0xF3F,.all .spacingMark⟩,
  ⟨0xF40,0xF47,.all .otherLetter⟩, ⟨0xF49,0xF6C,.all .otherLetter⟩, ⟨0xF71,0xF7E,.all .nonspacingMark⟩,
  ⟨0xF7F,0xF7F,.all .spacingMark⟩, ⟨0xF80,0xF84,.all .nonspacingMark⟩,
  ⟨0xF85,0xF85,.all .otherPunctuation⟩, ⟨0xF86,0xF87,.all .nonspacingMark⟩,
  ⟨0xF88,0xF8C,.all .otherLetter⟩, ⟨0xF8D,0xF97,.all .nonspacingMark⟩,
  ⟨0xF99,0xFBC,.all .nonspacingMark⟩, ⟨0xFBE,0xFC5,.all .otherSymbol⟩,
  ⟨0xFC6,0xFC6,.all .nonspacingMark⟩, ⟨0xFC7,0xFCC,.all .otherSymbol⟩, ⟨0xFCE,0xFCF,.all .otherSymbol⟩,
  ⟨0xFD0,0xFD4,.all .otherPunctuation⟩, ⟨0xFD5,0xFD8,.all .otherSymbol⟩,
  ⟨0xFD9,0xFDA,.all .otherPunctuation⟩, ⟨0x1000,0x102A,.all .otherLetter⟩,
  ⟨0x102B,0x102C,.all .spacingMark⟩, ⟨0x102D,0x1030,.all .nonspacingMark⟩,
  ⟨0x1031,0x1031,.all .spacingMark⟩, ⟨0x1032,0x1037,.all .nonspacingMark⟩,
  ⟨0x1038,0x1038,.all .spacingMark⟩, ⟨0x1039,0x103A,.all .nonspacingMark⟩,
  ⟨0x103B,0x103C,.all .spacingMark⟩, ⟨0x103D,0x103E,.all .nonspacingMark⟩,
  ⟨0x103F,0x103F,.all .otherLetter⟩, ⟨0x1040,0x1049,.all .decimalNumber⟩,
  ⟨0x104A,0x104F,.all .otherPunctuation⟩, ⟨0x1050,0x1055,.all .otherLetter⟩,
  ⟨0x1056,0x1057,.all .spacingMark⟩, ⟨0x1058,0x1059,.all .nonspacingMark⟩,
  ⟨0x105A,0x105D,.all .otherLetter⟩]

def segments105E : List Segment := [
  ⟨0x105E,0x1060,.all .nonspacingMark⟩, ⟨0x1061,0x1061,.all .otherLetter⟩,
  ⟨0x1062,0x1064,.all .spacingMark⟩, ⟨0x1065,0x1066,.all .otherLetter⟩,
  ⟨0x1067,0x106D,.all .spacingMark⟩, ⟨0x106E,0x1070,.all .otherLetter⟩,
  ⟨0x1071,0x1074,.all .nonspacingMark⟩, ⟨0x1075,0x1081,.all .otherLetter⟩,
  ⟨0x1082,0x1082,.all .nonspacingMark⟩, ⟨0x1083,0x1084,.all .spacingMark⟩,
  ⟨0x1085,0x1086,.all .nonspacingMark⟩, ⟨0x1087,0x108C,.all .spacingMark⟩,
  ⟨0x108D,0x108D,.all .nonspacingMark⟩, ⟨0x108E,0x108E,.all .otherLetter⟩,
  ⟨0x108F,0x108F,.all .spacingMark⟩, ⟨0x1090,0x1099,.all .decimalNumber⟩,
  ⟨0x109A,0x109C,.all .spacingMark⟩, ⟨0x109D,0x109D,.all .nonspacingMark⟩,
  ⟨0x109E,0x109F,.all .otherSymbol⟩, ⟨0x10A0,0x10C5,.all .uppercaseLetter⟩,
  ⟨0x10C7,0x10C7,.all .uppercaseLetter⟩, ⟨0x10CD,0x10CD,.all .uppercaseLetter⟩,
  ⟨0x10D0,0x10FA,.all .lowercaseLetter⟩, ⟨0x10FB,0x10FB,.all .otherPunctuation⟩,
  ⟨0x10FC,0x10FC,.all .modifierLetter⟩, ⟨0x10FD,0x10FF,.all .lowercaseLetter⟩,
  ⟨0x1100,0x1248,.all .otherLetter⟩, ⟨0x124A,0x124D,.all .otherLetter⟩,
  ⟨0x1250,0x1256,.all .otherLetter⟩, ⟨0x1258,0x1258,.all .otherLetter⟩,
  ⟨0x125A,0x125D,.all .otherLetter⟩, ⟨0x1260,0x1288,.all .otherLetter⟩,
  ⟨0x128A,0x128D,.all .otherLetter⟩, ⟨0x1290,0x12B0,.all .otherLetter⟩,
  ⟨0x12B2,0x12B5,.all .otherLetter⟩, ⟨0x12B8,0x12BE,.all .otherLetter⟩,
  ⟨0x12C0,0x12C0,.all .otherLetter⟩, ⟨0x12C2,0x12C5,.all .otherLetter⟩,
  ⟨0x12C8,0x12D6,.all .otherLetter⟩, ⟨0x12D8,0x1310,.all .otherLetter⟩,
  ⟨0x1312,0x1315,.all .otherLetter⟩, ⟨0x1318,0x135A,.all .otherLetter⟩,
  ⟨0x135D,0x135F,.all .nonspacingMark⟩, ⟨0x1360,0x1368,.all .otherPunctuation⟩,
  ⟨0x1369,0x137C,.all .otherNumber⟩, ⟨0x1380,0x138F,.all .otherLetter⟩,
  ⟨0x1390,0x1399,.all .otherSymbol⟩, ⟨0x13A0,0x13F5,.all .uppercaseLetter⟩,
  ⟨0x13F8,0x13FD,.all .lowercaseLetter⟩, ⟨0x1400,0x1400,.all .dashPunctuation⟩,
  ⟨0x1401,0x166C,.all .otherLetter⟩, ⟨0x166D,0x166D,.all .otherSymbol⟩,
  ⟨0x166E,0x166E,.all .otherPunctuation⟩, ⟨0x166F,0x167F,.all .otherLetter⟩,
  ⟨0x1680,0x1680,.all .spaceSeparator⟩, ⟨0x1681,0x169A,.all .otherLetter⟩,
  ⟨0x169B,0x169B,.all .openPunctuation⟩, ⟨0x169C,0x169C,.all .closePunctuation⟩,
  ⟨0x16A0,0x16EA,.all .otherLetter⟩, ⟨0x16EB,0x16ED,.all .otherPunctuation⟩,
  ⟨0x16EE,0x16F0,.all .letterNumber⟩, ⟨0x16F1,0x16F8,.all .otherLetter⟩,
  ⟨0x1700,0x1711,.all .otherLetter⟩, ⟨0x1712,0x1714,.all .nonspacingMark⟩,
  ⟨0x1715,0x1715,.all .spacingMark⟩, ⟨0x171F,0x1731,.all .otherLetter⟩,
  ⟨0x1732,0x1733,.all .nonspacingMark⟩, ⟨0x1734,0x1734,.all .spacingMark⟩,
  ⟨0x1735,0x1736,.all .otherPunctuation⟩, ⟨0x1740,0x1751,.all .otherLetter⟩,
  ⟨0x1752,0x1753,.all .nonspacingMark⟩, ⟨0x1760,0x176C,.all .otherLetter⟩,
  ⟨0x176E,0x1770,.all .otherLetter⟩, ⟨0x1772,0x1773,.all .nonspacingMark⟩,
  ⟨0x1780,0x17B3,.all .otherLetter⟩, ⟨0x17B4,0x17B5,.all .nonspacingMark⟩,
  ⟨0x17B6,0x17B6,.all .spacingMark⟩, ⟨0x17B7,0x17BD,.all .nonspacingMark⟩,
  ⟨0x17BE,0x17C5,.all .spacingMark⟩, ⟨0x17C6,0x17C6,.all .nonspacingMark⟩,
  ⟨0x17C7,0x17C8,.all .spacingMark⟩, ⟨0x17C9,0x17D3,.all .nonspacingMark⟩,
  ⟨0x17D4,0x17D6,.all .otherPunctuation⟩, ⟨0x17D7,0x17D7,.all .modifierLetter⟩,
  ⟨0x17D8,0x17DA,.all .otherPunctuation⟩, ⟨0x17DB,0x17DB,.all .currencySymbol⟩,
  ⟨0x17DC,0x17DC,.all .otherLetter⟩, ⟨0x17DD,0x17DD,.all .nonspacingMark⟩,
  ⟨0x17E0,0x17E9,.all .decimalNumber⟩, ⟨0x17F0,0x17F9,.all .otherNumber⟩,
  ⟨0x1800,0x1805,.all .otherPunctuation⟩, ⟨0x1806,0x1806,.all .dashPunctuation⟩,
  ⟨0x1807,0x180A,.all .otherPunctuation⟩, ⟨0x180B,0x180D,.all .nonspacingMark⟩,
  ⟨0x180E,0x180E,.all .format⟩, ⟨0x180F,0x180F,.all .nonspacingMark⟩,
  ⟨0x1810,0x1819,.all .decimalNumber⟩, ⟨0x1820,0x1842,.all .otherLetter⟩,
  ⟨0x1843,0x1843,.all .modifierLetter⟩, ⟨0x1844,0x1878,.all .otherLetter⟩,
  ⟨0x1880,0x1884,.all .otherLetter⟩, ⟨0x1885,0x1886,.all .nonspacingMark⟩,
  ⟨0x1887,0x18A8,.all .otherLetter⟩, ⟨0x18A9,0x18A9,.all .nonspacingMark⟩,
  ⟨0x18AA,0x18AA,.all .otherLetter⟩, ⟨0x18B0,0x18F5,.all .otherLetter⟩,
  ⟨0x1900,0x191E,.all .otherLetter⟩, ⟨0x1920,0x1922,.all .nonspacingMark⟩,
  ⟨0x1923,0x1926,.all .spacingMark⟩, ⟨0x1927,0x1928,.all .nonspacingMark⟩,
  ⟨0x1929,0x192B,.all .spacingMark⟩, ⟨0x1930,0x1931,.all .spacingMark⟩,
  ⟨0x1932,0x1932,.all .nonspacingMark⟩, ⟨0x1933,0x1938,.all .spacingMark⟩,
  ⟨0x1939,0x193B,.all .nonspacingMark⟩, ⟨0x1940,0x1940,.all .otherSymbol⟩,
  ⟨0x1944,0x1945,.all .otherPunctuation⟩, ⟨0x1946,0x194F,.all .decimalNumber⟩,
  ⟨0x1950,0x196D,.all .otherLetter⟩, ⟨0x1970,0x1974,.all .otherLetter⟩,
  ⟨0x1980,0x19AB,.all .otherLetter⟩, ⟨0x19B0,0x19C9,.all .otherLetter⟩,
  ⟨0x19D0,0x19D9,.all .decimalNumber⟩, ⟨0x19DA,0x19DA,.all .otherNumber⟩,
  ⟨0x19DE,0x19FF,.all .otherSymbol⟩, ⟨0x1A00,0x1A16,.all .otherLetter⟩,
  ⟨0x1A17,0x1A18,.all .nonspacingMark⟩, ⟨0x1A19,0x1A1A,.all .spacingMark⟩,
  ⟨0x1A1B,0x1A1B,.all .nonspacingMark⟩, ⟨0x1A1E,0x1A1F,.all .otherPunctuation⟩,
  ⟨0x1A20,0x1A54,.all .otherLetter⟩, ⟨0x1A55,0x1A55,.all .spacingMark⟩,
  ⟨0x1A56,0x1A56,.all .nonspacingMark⟩, ⟨0x1A57,0x1A57,.all .spacingMark⟩,
  ⟨0x1A58,0x1A5E,.all .nonspacingMark⟩, ⟨0x1A60,0x1A60,.all .nonspacingMark⟩,
  ⟨0x1A61,0x1A61,.all .spacingMark⟩, ⟨0x1A62,0x1A62,.all .nonspacingMark⟩,
  ⟨0x1A63,0x1A64,.all .spacingMark⟩, ⟨0x1A65,0x1A6C,.all .nonspacingMark⟩,
  ⟨0x1A6D,0x1A72,.all .spacingMark⟩, ⟨0x1A73,0x1A7C,.all .nonspacingMark⟩,
  ⟨0x1A7F,0x1A7F,.all .nonspacingMark⟩, ⟨0x1A80,0x1A89,.all .decimalNumber⟩,
  ⟨0x1A90,0x1A99,.all .decimalNumber⟩, ⟨0x1AA0,0x1AA6,.all .otherPunctuation⟩,
  ⟨0x1AA7,0x1AA7,.all .modifierLetter⟩, ⟨0x1AA8,0x1AAD,.all .otherPunctuation⟩,
  ⟨0x1AB0,0x1ABD,.all .nonspacingMark⟩, ⟨0x1ABE,0x1ABE,.all .enclosingMark⟩]

def segments1ABF : List Segment := [
  ⟨0x1ABF,0x1ADD,.all .nonspacingMark⟩, ⟨0x1AE0,0x1AEB,.all .nonspacingMark⟩,
  ⟨0x1B00,0x1B03,.all .nonspacingMark⟩, ⟨0x1B04,0x1B04,.all .spacingMark⟩,
  ⟨0x1B05,0x1B33,.all .otherLetter⟩, ⟨0x1B34,0x1B34,.all .nonspacingMark⟩,
  ⟨0x1B35,0x1B35,.all .spacingMark⟩, ⟨0x1B36,0x1B3A,.all .nonspacingMark⟩,
  ⟨0x1B3B,0x1B3B,.all .spacingMark⟩, ⟨0x1B3C,0x1B3C,.all .nonspacingMark⟩,
  ⟨0x1B3D,0x1B41,.all .spacingMark⟩, ⟨0x1B42,0x1B42,.all .nonspacingMark⟩,
  ⟨0x1B43,0x1B44,.all .spacingMark⟩, ⟨0x1B45,0x1B4C,.all .otherLetter⟩,
  ⟨0x1B4E,0x1B4F,.all .otherPunctuation⟩, ⟨0x1B50,0x1B59,.all .decimalNumber⟩,
  ⟨0x1B5A,0x1B60,.all .otherPunctuation⟩, ⟨0x1B61,0x1B6A,.all .otherSymbol⟩,
  ⟨0x1B6B,0x1B73,.all .nonspacingMark⟩, ⟨0x1B74,0x1B7C,.all .otherSymbol⟩,
  ⟨0x1B7D,0x1B7F,.all .otherPunctuation⟩, ⟨0x1B80,0x1B81,.all .nonspacingMark⟩,
  ⟨0x1B82,0x1B82,.all .spacingMark⟩, ⟨0x1B83,0x1BA0,.all .otherLetter⟩,
  ⟨0x1BA1,0x1BA1,.all .spacingMark⟩, ⟨0x1BA2,0x1BA5,.all .nonspacingMark⟩,
  ⟨0x1BA6,0x1BA7,.all .spacingMark⟩, ⟨0x1BA8,0x1BA9,.all .nonspacingMark⟩,
  ⟨0x1BAA,0x1BAA,.all .spacingMark⟩, ⟨0x1BAB,0x1BAD,.all .nonspacingMark⟩,
  ⟨0x1BAE,0x1BAF,.all .otherLetter⟩, ⟨0x1BB0,0x1BB9,.all .decimalNumber⟩,
  ⟨0x1BBA,0x1BE5,.all .otherLetter⟩, ⟨0x1BE6,0x1BE6,.all .nonspacingMark⟩,
  ⟨0x1BE7,0x1BE7,.all .spacingMark⟩, ⟨0x1BE8,0x1BE9,.all .nonspacingMark⟩,
  ⟨0x1BEA,0x1BEC,.all .spacingMark⟩, ⟨0x1BED,0x1BED,.all .nonspacingMark⟩,
  ⟨0x1BEE,0x1BEE,.all .spacingMark⟩, ⟨0x1BEF,0x1BF1,.all .nonspacingMark⟩,
  ⟨0x1BF2,0x1BF3,.all .spacingMark⟩, ⟨0x1BFC,0x1BFF,.all .otherPunctuation⟩,
  ⟨0x1C00,0x1C23,.all .otherLetter⟩, ⟨0x1C24,0x1C2B,.all .spacingMark⟩,
  ⟨0x1C2C,0x1C33,.all .nonspacingMark⟩, ⟨0x1C34,0x1C35,.all .spacingMark⟩,
  ⟨0x1C36,0x1C37,.all .nonspacingMark⟩, ⟨0x1C3B,0x1C3F,.all .otherPunctuation⟩,
  ⟨0x1C40,0x1C49,.all .decimalNumber⟩, ⟨0x1C4D,0x1C4F,.all .otherLetter⟩,
  ⟨0x1C50,0x1C59,.all .decimalNumber⟩, ⟨0x1C5A,0x1C77,.all .otherLetter⟩,
  ⟨0x1C78,0x1C7D,.all .modifierLetter⟩, ⟨0x1C7E,0x1C7F,.all .otherPunctuation⟩,
  ⟨0x1C80,0x1C88,.all .lowercaseLetter⟩, ⟨0x1C89,0x1C89,.all .uppercaseLetter⟩,
  ⟨0x1C8A,0x1C8A,.all .lowercaseLetter⟩, ⟨0x1C90,0x1CBA,.all .uppercaseLetter⟩,
  ⟨0x1CBD,0x1CBF,.all .uppercaseLetter⟩, ⟨0x1CC0,0x1CC7,.all .otherPunctuation⟩,
  ⟨0x1CD0,0x1CD2,.all .nonspacingMark⟩, ⟨0x1CD3,0x1CD3,.all .otherPunctuation⟩,
  ⟨0x1CD4,0x1CE0,.all .nonspacingMark⟩, ⟨0x1CE1,0x1CE1,.all .spacingMark⟩,
  ⟨0x1CE2,0x1CE8,.all .nonspacingMark⟩, ⟨0x1CE9,0x1CEC,.all .otherLetter⟩,
  ⟨0x1CED,0x1CED,.all .nonspacingMark⟩, ⟨0x1CEE,0x1CF3,.all .otherLetter⟩,
  ⟨0x1CF4,0x1CF4,.all .nonspacingMark⟩, ⟨0x1CF5,0x1CF6,.all .otherLetter⟩,
  ⟨0x1CF7,0x1CF7,.all .spacingMark⟩, ⟨0x1CF8,0x1CF9,.all .nonspacingMark⟩,
  ⟨0x1CFA,0x1CFA,.all .otherLetter⟩, ⟨0x1D00,0x1D2B,.all .lowercaseLetter⟩,
  ⟨0x1D2C,0x1D6A,.all .modifierLetter⟩, ⟨0x1D6B,0x1D77,.all .lowercaseLetter⟩,
  ⟨0x1D78,0x1D78,.all .modifierLetter⟩, ⟨0x1D79,0x1D9A,.all .lowercaseLetter⟩,
  ⟨0x1D9B,0x1DBF,.all .modifierLetter⟩, ⟨0x1DC0,0x1DFF,.all .nonspacingMark⟩,
  ⟨0x1E00,0x1E94,.casePairs⟩, ⟨0x1E95,0x1E9D,.all .lowercaseLetter⟩, ⟨0x1E9E,0x1EFE,.casePairs⟩,
  ⟨0x1EFF,0x1F07,.all .lowercaseLetter⟩, ⟨0x1F08,0x1F0F,.all .uppercaseLetter⟩,
  ⟨0x1F10,0x1F15,.all .lowercaseLetter⟩, ⟨0x1F18,0x1F1D,.all .uppercaseLetter⟩,
  ⟨0x1F20,0x1F27,.all .lowercaseLetter⟩, ⟨0x1F28,0x1F2F,.all .uppercaseLetter⟩,
  ⟨0x1F30,0x1F37,.all .lowercaseLetter⟩, ⟨0x1F38,0x1F3F,.all .uppercaseLetter⟩,
  ⟨0x1F40,0x1F45,.all .lowercaseLetter⟩, ⟨0x1F48,0x1F4D,.all .uppercaseLetter⟩,
  ⟨0x1F50,0x1F57,.all .lowercaseLetter⟩, ⟨0x1F59,0x1F59,.all .uppercaseLetter⟩,
  ⟨0x1F5B,0x1F5B,.all .uppercaseLetter⟩, ⟨0x1F5D,0x1F5D,.all .uppercaseLetter⟩,
  ⟨0x1F5F,0x1F5F,.all .uppercaseLetter⟩, ⟨0x1F60,0x1F67,.all .lowercaseLetter⟩,
  ⟨0x1F68,0x1F6F,.all .uppercaseLetter⟩, ⟨0x1F70,0x1F7D,.all .lowercaseLetter⟩,
  ⟨0x1F80,0x1F87,.all .lowercaseLetter⟩, ⟨0x1F88,0x1F8F,.all .titlecaseLetter⟩,
  ⟨0x1F90,0x1F97,.all .lowercaseLetter⟩, ⟨0x1F98,0x1F9F,.all .titlecaseLetter⟩,
  ⟨0x1FA0,0x1FA7,.all .lowercaseLetter⟩, ⟨0x1FA8,0x1FAF,.all .titlecaseLetter⟩,
  ⟨0x1FB0,0x1FB4,.all .lowercaseLetter⟩, ⟨0x1FB6,0x1FB7,.all .lowercaseLetter⟩,
  ⟨0x1FB8,0x1FBB,.all .uppercaseLetter⟩, ⟨0x1FBC,0x1FBC,.all .titlecaseLetter⟩,
  ⟨0x1FBD,0x1FBD,.all .modifierSymbol⟩, ⟨0x1FBE,0x1FBE,.all .lowercaseLetter⟩,
  ⟨0x1FBF,0x1FC1,.all .modifierSymbol⟩, ⟨0x1FC2,0x1FC4,.all .lowercaseLetter⟩,
  ⟨0x1FC6,0x1FC7,.all .lowercaseLetter⟩, ⟨0x1FC8,0x1FCB,.all .uppercaseLetter⟩,
  ⟨0x1FCC,0x1FCC,.all .titlecaseLetter⟩, ⟨0x1FCD,0x1FCF,.all .modifierSymbol⟩,
  ⟨0x1FD0,0x1FD3,.all .lowercaseLetter⟩, ⟨0x1FD6,0x1FD7,.all .lowercaseLetter⟩,
  ⟨0x1FD8,0x1FDB,.all .uppercaseLetter⟩, ⟨0x1FDD,0x1FDF,.all .modifierSymbol⟩,
  ⟨0x1FE0,0x1FE7,.all .lowercaseLetter⟩, ⟨0x1FE8,0x1FEC,.all .uppercaseLetter⟩,
  ⟨0x1FED,0x1FEF,.all .modifierSymbol⟩, ⟨0x1FF2,0x1FF4,.all .lowercaseLetter⟩,
  ⟨0x1FF6,0x1FF7,.all .lowercaseLetter⟩, ⟨0x1FF8,0x1FFB,.all .uppercaseLetter⟩,
  ⟨0x1FFC,0x1FFC,.all .titlecaseLetter⟩, ⟨0x1FFD,0x1FFE,.all .modifierSymbol⟩,
  ⟨0x2000,0x200A,.all .spaceSeparator⟩, ⟨0x200B,0x200F,.all .format⟩,
  ⟨0x2010,0x2015,.all .dashPunctuation⟩, ⟨0x2016,0x2017,.all .otherPunctuation⟩,
  ⟨0x2018,0x2018,.all .initialPunctuation⟩, ⟨0x2019,0x2019,.all .finalPunctuation⟩,
  ⟨0x201A,0x201A,.all .openPunctuation⟩, ⟨0x201B,0x201C,.all .initialPunctuation⟩,
  ⟨0x201D,0x201D,.all .finalPunctuation⟩, ⟨0x201E,0x201E,.all .openPunctuation⟩,
  ⟨0x201F,0x201F,.all .initialPunctuation⟩, ⟨0x2020,0x2027,.all .otherPunctuation⟩,
  ⟨0x2028,0x2028,.all .lineSeparator⟩, ⟨0x2029,0x2029,.all .paragraphSeparator⟩,
  ⟨0x202A,0x202E,.all .format⟩, ⟨0x202F,0x202F,.all .spaceSeparator⟩,
  ⟨0x2030,0x2038,.all .otherPunctuation⟩, ⟨0x2039,0x2039,.all .initialPunctuation⟩,
  ⟨0x203A,0x203A,.all .finalPunctuation⟩]

def segments203B : List Segment := [
  ⟨0x203B,0x203E,.all .otherPunctuation⟩, ⟨0x203F,0x2040,.all .connectorPunctuation⟩,
  ⟨0x2041,0x2043,.all .otherPunctuation⟩, ⟨0x2044,0x2044,.all .mathSymbol⟩,
  ⟨0x2045,0x2045,.all .openPunctuation⟩, ⟨0x2046,0x2046,.all .closePunctuation⟩,
  ⟨0x2047,0x2051,.all .otherPunctuation⟩, ⟨0x2052,0x2052,.all .mathSymbol⟩,
  ⟨0x2053,0x2053,.all .otherPunctuation⟩, ⟨0x2054,0x2054,.all .connectorPunctuation⟩,
  ⟨0x2055,0x205E,.all .otherPunctuation⟩, ⟨0x205F,0x205F,.all .spaceSeparator⟩,
  ⟨0x2060,0x2064,.all .format⟩, ⟨0x2066,0x206F,.all .format⟩, ⟨0x2070,0x2070,.all .otherNumber⟩,
  ⟨0x2071,0x2071,.all .modifierLetter⟩, ⟨0x2074,0x2079,.all .otherNumber⟩,
  ⟨0x207A,0x207C,.all .mathSymbol⟩, ⟨0x207D,0x207D,.all .openPunctuation⟩,
  ⟨0x207E,0x207E,.all .closePunctuation⟩, ⟨0x207F,0x207F,.all .modifierLetter⟩,
  ⟨0x2080,0x2089,.all .otherNumber⟩, ⟨0x208A,0x208C,.all .mathSymbol⟩,
  ⟨0x208D,0x208D,.all .openPunctuation⟩, ⟨0x208E,0x208E,.all .closePunctuation⟩,
  ⟨0x2090,0x209C,.all .modifierLetter⟩, ⟨0x20A0,0x20C1,.all .currencySymbol⟩,
  ⟨0x20D0,0x20DC,.all .nonspacingMark⟩, ⟨0x20DD,0x20E0,.all .enclosingMark⟩,
  ⟨0x20E1,0x20E1,.all .nonspacingMark⟩, ⟨0x20E2,0x20E4,.all .enclosingMark⟩,
  ⟨0x20E5,0x20F0,.all .nonspacingMark⟩, ⟨0x2100,0x2101,.all .otherSymbol⟩,
  ⟨0x2102,0x2102,.all .uppercaseLetter⟩, ⟨0x2103,0x2106,.all .otherSymbol⟩,
  ⟨0x2107,0x2107,.all .uppercaseLetter⟩, ⟨0x2108,0x2109,.all .otherSymbol⟩,
  ⟨0x210A,0x210A,.all .lowercaseLetter⟩, ⟨0x210B,0x210D,.all .uppercaseLetter⟩,
  ⟨0x210E,0x210F,.all .lowercaseLetter⟩, ⟨0x2110,0x2112,.all .uppercaseLetter⟩,
  ⟨0x2113,0x2113,.all .lowercaseLetter⟩, ⟨0x2114,0x2114,.all .otherSymbol⟩,
  ⟨0x2115,0x2115,.all .uppercaseLetter⟩, ⟨0x2116,0x2117,.all .otherSymbol⟩,
  ⟨0x2118,0x2118,.all .mathSymbol⟩, ⟨0x2119,0x211D,.all .uppercaseLetter⟩,
  ⟨0x211E,0x2123,.all .otherSymbol⟩, ⟨0x2124,0x2124,.all .uppercaseLetter⟩,
  ⟨0x2125,0x2125,.all .otherSymbol⟩, ⟨0x2126,0x2126,.all .uppercaseLetter⟩,
  ⟨0x2127,0x2127,.all .otherSymbol⟩, ⟨0x2128,0x2128,.all .uppercaseLetter⟩,
  ⟨0x2129,0x2129,.all .otherSymbol⟩, ⟨0x212A,0x212D,.all .uppercaseLetter⟩,
  ⟨0x212E,0x212E,.all .otherSymbol⟩, ⟨0x212F,0x212F,.all .lowercaseLetter⟩,
  ⟨0x2130,0x2133,.all .uppercaseLetter⟩, ⟨0x2134,0x2134,.all .lowercaseLetter⟩,
  ⟨0x2135,0x2138,.all .otherLetter⟩, ⟨0x2139,0x2139,.all .lowercaseLetter⟩,
  ⟨0x213A,0x213B,.all .otherSymbol⟩, ⟨0x213C,0x213D,.all .lowercaseLetter⟩,
  ⟨0x213E,0x213F,.all .uppercaseLetter⟩, ⟨0x2140,0x2144,.all .mathSymbol⟩,
  ⟨0x2145,0x2145,.all .uppercaseLetter⟩, ⟨0x2146,0x2149,.all .lowercaseLetter⟩,
  ⟨0x214A,0x214A,.all .otherSymbol⟩, ⟨0x214B,0x214B,.all .mathSymbol⟩,
  ⟨0x214C,0x214D,.all .otherSymbol⟩, ⟨0x214E,0x214E,.all .lowercaseLetter⟩,
  ⟨0x214F,0x214F,.all .otherSymbol⟩, ⟨0x2150,0x215F,.all .otherNumber⟩,
  ⟨0x2160,0x2182,.all .letterNumber⟩, ⟨0x2183,0x2183,.all .uppercaseLetter⟩,
  ⟨0x2184,0x2184,.all .lowercaseLetter⟩, ⟨0x2185,0x2188,.all .letterNumber⟩,
  ⟨0x2189,0x2189,.all .otherNumber⟩, ⟨0x218A,0x218B,.all .otherSymbol⟩,
  ⟨0x2190,0x2194,.all .mathSymbol⟩, ⟨0x2195,0x2199,.all .otherSymbol⟩,
  ⟨0x219A,0x219B,.all .mathSymbol⟩, ⟨0x219C,0x219F,.all .otherSymbol⟩,
  ⟨0x21A0,0x21A0,.all .mathSymbol⟩, ⟨0x21A1,0x21A2,.all .otherSymbol⟩,
  ⟨0x21A3,0x21A3,.all .mathSymbol⟩, ⟨0x21A4,0x21A5,.all .otherSymbol⟩,
  ⟨0x21A6,0x21A6,.all .mathSymbol⟩, ⟨0x21A7,0x21AD,.all .otherSymbol⟩,
  ⟨0x21AE,0x21AE,.all .mathSymbol⟩, ⟨0x21AF,0x21CD,.all .otherSymbol⟩,
  ⟨0x21CE,0x21CF,.all .mathSymbol⟩, ⟨0x21D0,0x21D1,.all .otherSymbol⟩,
  ⟨0x21D2,0x21D2,.all .mathSymbol⟩, ⟨0x21D3,0x21D3,.all .otherSymbol⟩,
  ⟨0x21D4,0x21D4,.all .mathSymbol⟩, ⟨0x21D5,0x21F3,.all .otherSymbol⟩,
  ⟨0x21F4,0x22FF,.all .mathSymbol⟩, ⟨0x2300,0x2307,.all .otherSymbol⟩,
  ⟨0x2308,0x2308,.all .openPunctuation⟩, ⟨0x2309,0x2309,.all .closePunctuation⟩,
  ⟨0x230A,0x230A,.all .openPunctuation⟩, ⟨0x230B,0x230B,.all .closePunctuation⟩,
  ⟨0x230C,0x231F,.all .otherSymbol⟩, ⟨0x2320,0x2321,.all .mathSymbol⟩,
  ⟨0x2322,0x2328,.all .otherSymbol⟩, ⟨0x2329,0x2329,.all .openPunctuation⟩,
  ⟨0x232A,0x232A,.all .closePunctuation⟩, ⟨0x232B,0x237B,.all .otherSymbol⟩,
  ⟨0x237C,0x237C,.all .mathSymbol⟩, ⟨0x237D,0x239A,.all .otherSymbol⟩,
  ⟨0x239B,0x23B3,.all .mathSymbol⟩, ⟨0x23B4,0x23DB,.all .otherSymbol⟩,
  ⟨0x23DC,0x23E1,.all .mathSymbol⟩, ⟨0x23E2,0x2429,.all .otherSymbol⟩,
  ⟨0x2440,0x244A,.all .otherSymbol⟩, ⟨0x2460,0x249B,.all .otherNumber⟩,
  ⟨0x249C,0x24E9,.all .otherSymbol⟩, ⟨0x24EA,0x24FF,.all .otherNumber⟩,
  ⟨0x2500,0x25B6,.all .otherSymbol⟩, ⟨0x25B7,0x25B7,.all .mathSymbol⟩,
  ⟨0x25B8,0x25C0,.all .otherSymbol⟩, ⟨0x25C1,0x25C1,.all .mathSymbol⟩,
  ⟨0x25C2,0x25F7,.all .otherSymbol⟩, ⟨0x25F8,0x25FF,.all .mathSymbol⟩,
  ⟨0x2600,0x266E,.all .otherSymbol⟩, ⟨0x266F,0x266F,.all .mathSymbol⟩,
  ⟨0x2670,0x2767,.all .otherSymbol⟩, ⟨0x2768,0x2768,.all .openPunctuation⟩,
  ⟨0x2769,0x2769,.all .closePunctuation⟩, ⟨0x276A,0x276A,.all .openPunctuation⟩,
  ⟨0x276B,0x276B,.all .closePunctuation⟩, ⟨0x276C,0x276C,.all .openPunctuation⟩,
  ⟨0x276D,0x276D,.all .closePunctuation⟩, ⟨0x276E,0x276E,.all .openPunctuation⟩,
  ⟨0x276F,0x276F,.all .closePunctuation⟩, ⟨0x2770,0x2770,.all .openPunctuation⟩,
  ⟨0x2771,0x2771,.all .closePunctuation⟩, ⟨0x2772,0x2772,.all .openPunctuation⟩,
  ⟨0x2773,0x2773,.all .closePunctuation⟩, ⟨0x2774,0x2774,.all .openPunctuation⟩,
  ⟨0x2775,0x2775,.all .closePunctuation⟩, ⟨0x2776,0x2793,.all .otherNumber⟩,
  ⟨0x2794,0x27BF,.all .otherSymbol⟩, ⟨0x27C0,0x27C4,.all .mathSymbol⟩,
  ⟨0x27C5,0x27C5,.all .openPunctuation⟩, ⟨0x27C6,0x27C6,.all .closePunctuation⟩,
  ⟨0x27C7,0x27E5,.all .mathSymbol⟩, ⟨0x27E6,0x27E6,.all .openPunctuation⟩,
  ⟨0x27E7,0x27E7,.all .closePunctuation⟩]

def segments27E8 : List Segment := [
  ⟨0x27E8,0x27E8,.all .openPunctuation⟩, ⟨0x27E9,0x27E9,.all .closePunctuation⟩,
  ⟨0x27EA,0x27EA,.all .openPunctuation⟩, ⟨0x27EB,0x27EB,.all .closePunctuation⟩,
  ⟨0x27EC,0x27EC,.all .openPunctuation⟩, ⟨0x27ED,0x27ED,.all .closePunctuation⟩,
  ⟨0x27EE,0x27EE,.all .openPunctuation⟩, ⟨0x27EF,0x27EF,.all .closePunctuation⟩,
  ⟨0x27F0,0x27FF,.all .mathSymbol⟩, ⟨0x2800,0x28FF,.all .otherSymbol⟩,
  ⟨0x2900,0x2982,.all .mathSymbol⟩, ⟨0x2983,0x2983,.all .openPunctuation⟩,
  ⟨0x2984,0x2984,.all .closePunctuation⟩, ⟨0x2985,0x2985,.all .openPunctuation⟩,
  ⟨0x2986,0x2986,.all .closePunctuation⟩, ⟨0x2987,0x2987,.all .openPunctuation⟩,
  ⟨0x2988,0x2988,.all .closePunctuation⟩, ⟨0x2989,0x2989,.all .openPunctuation⟩,
  ⟨0x298A,0x298A,.all .closePunctuation⟩, ⟨0x298B,0x298B,.all .openPunctuation⟩,
  ⟨0x298C,0x298C,.all .closePunctuation⟩, ⟨0x298D,0x298D,.all .openPunctuation⟩,
  ⟨0x298E,0x298E,.all .closePunctuation⟩, ⟨0x298F,0x298F,.all .openPunctuation⟩,
  ⟨0x2990,0x2990,.all .closePunctuation⟩, ⟨0x2991,0x2991,.all .openPunctuation⟩,
  ⟨0x2992,0x2992,.all .closePunctuation⟩, ⟨0x2993,0x2993,.all .openPunctuation⟩,
  ⟨0x2994,0x2994,.all .closePunctuation⟩, ⟨0x2995,0x2995,.all .openPunctuation⟩,
  ⟨0x2996,0x2996,.all .closePunctuation⟩, ⟨0x2997,0x2997,.all .openPunctuation⟩,
  ⟨0x2998,0x2998,.all .closePunctuation⟩, ⟨0x2999,0x29D7,.all .mathSymbol⟩,
  ⟨0x29D8,0x29D8,.all .openPunctuation⟩, ⟨0x29D9,0x29D9,.all .closePunctuation⟩,
  ⟨0x29DA,0x29DA,.all .openPunctuation⟩, ⟨0x29DB,0x29DB,.all .closePunctuation⟩,
  ⟨0x29DC,0x29FB,.all .mathSymbol⟩, ⟨0x29FC,0x29FC,.all .openPunctuation⟩,
  ⟨0x29FD,0x29FD,.all .closePunctuation⟩, ⟨0x29FE,0x2AFF,.all .mathSymbol⟩,
  ⟨0x2B00,0x2B2F,.all .otherSymbol⟩, ⟨0x2B30,0x2B44,.all .mathSymbol⟩,
  ⟨0x2B45,0x2B46,.all .otherSymbol⟩, ⟨0x2B47,0x2B4C,.all .mathSymbol⟩,
  ⟨0x2B4D,0x2B73,.all .otherSymbol⟩, ⟨0x2B76,0x2BFF,.all .otherSymbol⟩,
  ⟨0x2C00,0x2C2F,.all .uppercaseLetter⟩, ⟨0x2C30,0x2C5F,.all .lowercaseLetter⟩,
  ⟨0x2C60,0x2C60,.all .uppercaseLetter⟩, ⟨0x2C61,0x2C61,.all .lowercaseLetter⟩,
  ⟨0x2C62,0x2C64,.all .uppercaseLetter⟩, ⟨0x2C65,0x2C66,.all .lowercaseLetter⟩,
  ⟨0x2C67,0x2C6C,.casePairs⟩, ⟨0x2C6D,0x2C70,.all .uppercaseLetter⟩,
  ⟨0x2C71,0x2C71,.all .lowercaseLetter⟩, ⟨0x2C72,0x2C72,.all .uppercaseLetter⟩,
  ⟨0x2C73,0x2C74,.all .lowercaseLetter⟩, ⟨0x2C75,0x2C75,.all .uppercaseLetter⟩,
  ⟨0x2C76,0x2C7B,.all .lowercaseLetter⟩, ⟨0x2C7C,0x2C7D,.all .modifierLetter⟩,
  ⟨0x2C7E,0x2C80,.all .uppercaseLetter⟩, ⟨0x2C81,0x2C81,.all .lowercaseLetter⟩,
  ⟨0x2C82,0x2CE2,.casePairs⟩, ⟨0x2CE3,0x2CE4,.all .lowercaseLetter⟩, ⟨0x2CE5,0x2CEA,.all .otherSymbol⟩,
  ⟨0x2CEB,0x2CEE,.casePairs⟩, ⟨0x2CEF,0x2CF1,.all .nonspacingMark⟩,
  ⟨0x2CF2,0x2CF2,.all .uppercaseLetter⟩, ⟨0x2CF3,0x2CF3,.all .lowercaseLetter⟩,
  ⟨0x2CF9,0x2CFC,.all .otherPunctuation⟩, ⟨0x2CFD,0x2CFD,.all .otherNumber⟩,
  ⟨0x2CFE,0x2CFF,.all .otherPunctuation⟩, ⟨0x2D00,0x2D25,.all .lowercaseLetter⟩,
  ⟨0x2D27,0x2D27,.all .lowercaseLetter⟩, ⟨0x2D2D,0x2D2D,.all .lowercaseLetter⟩,
  ⟨0x2D30,0x2D67,.all .otherLetter⟩, ⟨0x2D6F,0x2D6F,.all .modifierLetter⟩,
  ⟨0x2D70,0x2D70,.all .otherPunctuation⟩, ⟨0x2D7F,0x2D7F,.all .nonspacingMark⟩,
  ⟨0x2D80,0x2D96,.all .otherLetter⟩, ⟨0x2DA0,0x2DA6,.all .otherLetter⟩,
  ⟨0x2DA8,0x2DAE,.all .otherLetter⟩, ⟨0x2DB0,0x2DB6,.all .otherLetter⟩,
  ⟨0x2DB8,0x2DBE,.all .otherLetter⟩, ⟨0x2DC0,0x2DC6,.all .otherLetter⟩,
  ⟨0x2DC8,0x2DCE,.all .otherLetter⟩, ⟨0x2DD0,0x2DD6,.all .otherLetter⟩,
  ⟨0x2DD8,0x2DDE,.all .otherLetter⟩, ⟨0x2DE0,0x2DFF,.all .nonspacingMark⟩,
  ⟨0x2E00,0x2E01,.all .otherPunctuation⟩, ⟨0x2E02,0x2E02,.all .initialPunctuation⟩,
  ⟨0x2E03,0x2E03,.all .finalPunctuation⟩, ⟨0x2E04,0x2E04,.all .initialPunctuation⟩,
  ⟨0x2E05,0x2E05,.all .finalPunctuation⟩, ⟨0x2E06,0x2E08,.all .otherPunctuation⟩,
  ⟨0x2E09,0x2E09,.all .initialPunctuation⟩, ⟨0x2E0A,0x2E0A,.all .finalPunctuation⟩,
  ⟨0x2E0B,0x2E0B,.all .otherPunctuation⟩, ⟨0x2E0C,0x2E0C,.all .initialPunctuation⟩,
  ⟨0x2E0D,0x2E0D,.all .finalPunctuation⟩, ⟨0x2E0E,0x2E16,.all .otherPunctuation⟩,
  ⟨0x2E17,0x2E17,.all .dashPunctuation⟩, ⟨0x2E18,0x2E19,.all .otherPunctuation⟩,
  ⟨0x2E1A,0x2E1A,.all .dashPunctuation⟩, ⟨0x2E1B,0x2E1B,.all .otherPunctuation⟩,
  ⟨0x2E1C,0x2E1C,.all .initialPunctuation⟩, ⟨0x2E1D,0x2E1D,.all .finalPunctuation⟩,
  ⟨0x2E1E,0x2E1F,.all .otherPunctuation⟩, ⟨0x2E20,0x2E20,.all .initialPunctuation⟩,
  ⟨0x2E21,0x2E21,.all .finalPunctuation⟩, ⟨0x2E22,0x2E22,.all .openPunctuation⟩,
  ⟨0x2E23,0x2E23,.all .closePunctuation⟩, ⟨0x2E24,0x2E24,.all .openPunctuation⟩,
  ⟨0x2E25,0x2E25,.all .closePunctuation⟩, ⟨0x2E26,0x2E26,.all .openPunctuation⟩,
  ⟨0x2E27,0x2E27,.all .closePunctuation⟩, ⟨0x2E28,0x2E28,.all .openPunctuation⟩,
  ⟨0x2E29,0x2E29,.all .closePunctuation⟩, ⟨0x2E2A,0x2E2E,.all .otherPunctuation⟩,
  ⟨0x2E2F,0x2E2F,.all .modifierLetter⟩, ⟨0x2E30,0x2E39,.all .otherPunctuation⟩,
  ⟨0x2E3A,0x2E3B,.all .dashPunctuation⟩, ⟨0x2E3C,0x2E3F,.all .otherPunctuation⟩,
  ⟨0x2E40,0x2E40,.all .dashPunctuation⟩, ⟨0x2E41,0x2E41,.all .otherPunctuation⟩,
  ⟨0x2E42,0x2E42,.all .openPunctuation⟩, ⟨0x2E43,0x2E4F,.all .otherPunctuation⟩,
  ⟨0x2E50,0x2E51,.all .otherSymbol⟩, ⟨0x2E52,0x2E54,.all .otherPunctuation⟩,
  ⟨0x2E55,0x2E55,.all .openPunctuation⟩, ⟨0x2E56,0x2E56,.all .closePunctuation⟩,
  ⟨0x2E57,0x2E57,.all .openPunctuation⟩, ⟨0x2E58,0x2E58,.all .closePunctuation⟩,
  ⟨0x2E59,0x2E59,.all .openPunctuation⟩, ⟨0x2E5A,0x2E5A,.all .closePunctuation⟩,
  ⟨0x2E5B,0x2E5B,.all .openPunctuation⟩, ⟨0x2E5C,0x2E5C,.all .closePunctuation⟩,
  ⟨0x2E5D,0x2E5D,.all .dashPunctuation⟩, ⟨0x2E80,0x2E99,.all .otherSymbol⟩,
  ⟨0x2E9B,0x2EF3,.all .otherSymbol⟩, ⟨0x2F00,0x2FD5,.all .otherSymbol⟩,
  ⟨0x2FF0,0x2FFF,.all .otherSymbol⟩, ⟨0x3000,0x3000,.all .spaceSeparator⟩,
  ⟨0x3001,0x3003,.all .otherPunctuation⟩, ⟨0x3004,0x3004,.all .otherSymbol⟩,
  ⟨0x3005,0x3005,.all .modifierLetter⟩, ⟨0x3006,0x3006,.all .otherLetter⟩,
  ⟨0x3007,0x3007,.all .letterNumber⟩]

def segments3008 : List Segment := [
  ⟨0x3008,0x3008,.all .openPunctuation⟩, ⟨0x3009,0x3009,.all .closePunctuation⟩,
  ⟨0x300A,0x300A,.all .openPunctuation⟩, ⟨0x300B,0x300B,.all .closePunctuation⟩,
  ⟨0x300C,0x300C,.all .openPunctuation⟩, ⟨0x300D,0x300D,.all .closePunctuation⟩,
  ⟨0x300E,0x300E,.all .openPunctuation⟩, ⟨0x300F,0x300F,.all .closePunctuation⟩,
  ⟨0x3010,0x3010,.all .openPunctuation⟩, ⟨0x3011,0x3011,.all .closePunctuation⟩,
  ⟨0x3012,0x3013,.all .otherSymbol⟩, ⟨0x3014,0x3014,.all .openPunctuation⟩,
  ⟨0x3015,0x3015,.all .closePunctuation⟩, ⟨0x3016,0x3016,.all .openPunctuation⟩,
  ⟨0x3017,0x3017,.all .closePunctuation⟩, ⟨0x3018,0x3018,.all .openPunctuation⟩,
  ⟨0x3019,0x3019,.all .closePunctuation⟩, ⟨0x301A,0x301A,.all .openPunctuation⟩,
  ⟨0x301B,0x301B,.all .closePunctuation⟩, ⟨0x301C,0x301C,.all .dashPunctuation⟩,
  ⟨0x301D,0x301D,.all .openPunctuation⟩, ⟨0x301E,0x301F,.all .closePunctuation⟩,
  ⟨0x3020,0x3020,.all .otherSymbol⟩, ⟨0x3021,0x3029,.all .letterNumber⟩,
  ⟨0x302A,0x302D,.all .nonspacingMark⟩, ⟨0x302E,0x302F,.all .spacingMark⟩,
  ⟨0x3030,0x3030,.all .dashPunctuation⟩, ⟨0x3031,0x3035,.all .modifierLetter⟩,
  ⟨0x3036,0x3037,.all .otherSymbol⟩, ⟨0x3038,0x303A,.all .letterNumber⟩,
  ⟨0x303B,0x303B,.all .modifierLetter⟩, ⟨0x303C,0x303C,.all .otherLetter⟩,
  ⟨0x303D,0x303D,.all .otherPunctuation⟩, ⟨0x303E,0x303F,.all .otherSymbol⟩,
  ⟨0x3041,0x3096,.all .otherLetter⟩, ⟨0x3099,0x309A,.all .nonspacingMark⟩,
  ⟨0x309B,0x309C,.all .modifierSymbol⟩, ⟨0x309D,0x309E,.all .modifierLetter⟩,
  ⟨0x309F,0x309F,.all .otherLetter⟩, ⟨0x30A0,0x30A0,.all .dashPunctuation⟩,
  ⟨0x30A1,0x30FA,.all .otherLetter⟩, ⟨0x30FB,0x30FB,.all .otherPunctuation⟩,
  ⟨0x30FC,0x30FE,.all .modifierLetter⟩, ⟨0x30FF,0x30FF,.all .otherLetter⟩,
  ⟨0x3105,0x312F,.all .otherLetter⟩, ⟨0x3131,0x318E,.all .otherLetter⟩,
  ⟨0x3190,0x3191,.all .otherSymbol⟩, ⟨0x3192,0x3195,.all .otherNumber⟩,
  ⟨0x3196,0x319F,.all .otherSymbol⟩, ⟨0x31A0,0x31BF,.all .otherLetter⟩,
  ⟨0x31C0,0x31E5,.all .otherSymbol⟩, ⟨0x31EF,0x31EF,.all .otherSymbol⟩,
  ⟨0x31F0,0x31FF,.all .otherLetter⟩, ⟨0x3200,0x321E,.all .otherSymbol⟩,
  ⟨0x3220,0x3229,.all .otherNumber⟩, ⟨0x322A,0x3247,.all .otherSymbol⟩,
  ⟨0x3248,0x324F,.all .otherNumber⟩, ⟨0x3250,0x3250,.all .otherSymbol⟩,
  ⟨0x3251,0x325F,.all .otherNumber⟩, ⟨0x3260,0x327F,.all .otherSymbol⟩,
  ⟨0x3280,0x3289,.all .otherNumber⟩, ⟨0x328A,0x32B0,.all .otherSymbol⟩,
  ⟨0x32B1,0x32BF,.all .otherNumber⟩, ⟨0x32C0,0x33FF,.all .otherSymbol⟩,
  ⟨0x3400,0x4DBF,.all .otherLetter⟩, ⟨0x4DC0,0x4DFF,.all .otherSymbol⟩,
  ⟨0x4E00,0xA014,.all .otherLetter⟩, ⟨0xA015,0xA015,.all .modifierLetter⟩,
  ⟨0xA016,0xA48C,.all .otherLetter⟩, ⟨0xA490,0xA4C6,.all .otherSymbol⟩,
  ⟨0xA4D0,0xA4F7,.all .otherLetter⟩, ⟨0xA4F8,0xA4FD,.all .modifierLetter⟩,
  ⟨0xA4FE,0xA4FF,.all .otherPunctuation⟩, ⟨0xA500,0xA60B,.all .otherLetter⟩,
  ⟨0xA60C,0xA60C,.all .modifierLetter⟩, ⟨0xA60D,0xA60F,.all .otherPunctuation⟩,
  ⟨0xA610,0xA61F,.all .otherLetter⟩, ⟨0xA620,0xA629,.all .decimalNumber⟩,
  ⟨0xA62A,0xA62B,.all .otherLetter⟩, ⟨0xA640,0xA66D,.casePairs⟩, ⟨0xA66E,0xA66E,.all .otherLetter⟩,
  ⟨0xA66F,0xA66F,.all .nonspacingMark⟩, ⟨0xA670,0xA672,.all .enclosingMark⟩,
  ⟨0xA673,0xA673,.all .otherPunctuation⟩, ⟨0xA674,0xA67D,.all .nonspacingMark⟩,
  ⟨0xA67E,0xA67E,.all .otherPunctuation⟩, ⟨0xA67F,0xA67F,.all .modifierLetter⟩,
  ⟨0xA680,0xA69B,.casePairs⟩, ⟨0xA69C,0xA69D,.all .modifierLetter⟩,
  ⟨0xA69E,0xA69F,.all .nonspacingMark⟩, ⟨0xA6A0,0xA6E5,.all .otherLetter⟩,
  ⟨0xA6E6,0xA6EF,.all .letterNumber⟩, ⟨0xA6F0,0xA6F1,.all .nonspacingMark⟩,
  ⟨0xA6F2,0xA6F7,.all .otherPunctuation⟩, ⟨0xA700,0xA716,.all .modifierSymbol⟩,
  ⟨0xA717,0xA71F,.all .modifierLetter⟩, ⟨0xA720,0xA721,.all .modifierSymbol⟩,
  ⟨0xA722,0xA72E,.casePairs⟩, ⟨0xA72F,0xA731,.all .lowercaseLetter⟩, ⟨0xA732,0xA76F,.casePairs⟩,
  ⟨0xA770,0xA770,.all .modifierLetter⟩, ⟨0xA771,0xA778,.all .lowercaseLetter⟩,
  ⟨0xA779,0xA77C,.casePairs⟩, ⟨0xA77D,0xA77E,.all .uppercaseLetter⟩,
  ⟨0xA77F,0xA77F,.all .lowercaseLetter⟩, ⟨0xA780,0xA787,.casePairs⟩,
  ⟨0xA788,0xA788,.all .modifierLetter⟩, ⟨0xA789,0xA78A,.all .modifierSymbol⟩,
  ⟨0xA78B,0xA78E,.casePairs⟩, ⟨0xA78F,0xA78F,.all .otherLetter⟩, ⟨0xA790,0xA792,.casePairs⟩,
  ⟨0xA793,0xA795,.all .lowercaseLetter⟩, ⟨0xA796,0xA7A9,.casePairs⟩,
  ⟨0xA7AA,0xA7AE,.all .uppercaseLetter⟩, ⟨0xA7AF,0xA7AF,.all .lowercaseLetter⟩,
  ⟨0xA7B0,0xA7B4,.all .uppercaseLetter⟩, ⟨0xA7B5,0xA7B5,.all .lowercaseLetter⟩,
  ⟨0xA7B6,0xA7C3,.casePairs⟩, ⟨0xA7C4,0xA7C7,.all .uppercaseLetter⟩,
  ⟨0xA7C8,0xA7C8,.all .lowercaseLetter⟩, ⟨0xA7C9,0xA7C9,.all .uppercaseLetter⟩,
  ⟨0xA7CA,0xA7CA,.all .lowercaseLetter⟩, ⟨0xA7CB,0xA7CC,.all .uppercaseLetter⟩,
  ⟨0xA7CD,0xA7CD,.all .lowercaseLetter⟩, ⟨0xA7CE,0xA7DC,.casePairs⟩,
  ⟨0xA7F1,0xA7F4,.all .modifierLetter⟩, ⟨0xA7F5,0xA7F5,.all .uppercaseLetter⟩,
  ⟨0xA7F6,0xA7F6,.all .lowercaseLetter⟩, ⟨0xA7F7,0xA7F7,.all .otherLetter⟩,
  ⟨0xA7F8,0xA7F9,.all .modifierLetter⟩, ⟨0xA7FA,0xA7FA,.all .lowercaseLetter⟩,
  ⟨0xA7FB,0xA801,.all .otherLetter⟩, ⟨0xA802,0xA802,.all .nonspacingMark⟩,
  ⟨0xA803,0xA805,.all .otherLetter⟩, ⟨0xA806,0xA806,.all .nonspacingMark⟩,
  ⟨0xA807,0xA80A,.all .otherLetter⟩, ⟨0xA80B,0xA80B,.all .nonspacingMark⟩,
  ⟨0xA80C,0xA822,.all .otherLetter⟩, ⟨0xA823,0xA824,.all .spacingMark⟩,
  ⟨0xA825,0xA826,.all .nonspacingMark⟩, ⟨0xA827,0xA827,.all .spacingMark⟩,
  ⟨0xA828,0xA82B,.all .otherSymbol⟩, ⟨0xA82C,0xA82C,.all .nonspacingMark⟩,
  ⟨0xA830,0xA835,.all .otherNumber⟩, ⟨0xA836,0xA837,.all .otherSymbol⟩,
  ⟨0xA838,0xA838,.all .currencySymbol⟩, ⟨0xA839,0xA839,.all .otherSymbol⟩,
  ⟨0xA840,0xA873,.all .otherLetter⟩, ⟨0xA874,0xA877,.all .otherPunctuation⟩,
  ⟨0xA880,0xA881,.all .spacingMark⟩]

def segmentsA882 : List Segment := [
  ⟨0xA882,0xA8B3,.all .otherLetter⟩, ⟨0xA8B4,0xA8C3,.all .spacingMark⟩,
  ⟨0xA8C4,0xA8C5,.all .nonspacingMark⟩, ⟨0xA8CE,0xA8CF,.all .otherPunctuation⟩,
  ⟨0xA8D0,0xA8D9,.all .decimalNumber⟩, ⟨0xA8E0,0xA8F1,.all .nonspacingMark⟩,
  ⟨0xA8F2,0xA8F7,.all .otherLetter⟩, ⟨0xA8F8,0xA8FA,.all .otherPunctuation⟩,
  ⟨0xA8FB,0xA8FB,.all .otherLetter⟩, ⟨0xA8FC,0xA8FC,.all .otherPunctuation⟩,
  ⟨0xA8FD,0xA8FE,.all .otherLetter⟩, ⟨0xA8FF,0xA8FF,.all .nonspacingMark⟩,
  ⟨0xA900,0xA909,.all .decimalNumber⟩, ⟨0xA90A,0xA925,.all .otherLetter⟩,
  ⟨0xA926,0xA92D,.all .nonspacingMark⟩, ⟨0xA92E,0xA92F,.all .otherPunctuation⟩,
  ⟨0xA930,0xA946,.all .otherLetter⟩, ⟨0xA947,0xA951,.all .nonspacingMark⟩,
  ⟨0xA952,0xA953,.all .spacingMark⟩, ⟨0xA95F,0xA95F,.all .otherPunctuation⟩,
  ⟨0xA960,0xA97C,.all .otherLetter⟩, ⟨0xA980,0xA982,.all .nonspacingMark⟩,
  ⟨0xA983,0xA983,.all .spacingMark⟩, ⟨0xA984,0xA9B2,.all .otherLetter⟩,
  ⟨0xA9B3,0xA9B3,.all .nonspacingMark⟩, ⟨0xA9B4,0xA9B5,.all .spacingMark⟩,
  ⟨0xA9B6,0xA9B9,.all .nonspacingMark⟩, ⟨0xA9BA,0xA9BB,.all .spacingMark⟩,
  ⟨0xA9BC,0xA9BD,.all .nonspacingMark⟩, ⟨0xA9BE,0xA9C0,.all .spacingMark⟩,
  ⟨0xA9C1,0xA9CD,.all .otherPunctuation⟩, ⟨0xA9CF,0xA9CF,.all .modifierLetter⟩,
  ⟨0xA9D0,0xA9D9,.all .decimalNumber⟩, ⟨0xA9DE,0xA9DF,.all .otherPunctuation⟩,
  ⟨0xA9E0,0xA9E4,.all .otherLetter⟩, ⟨0xA9E5,0xA9E5,.all .nonspacingMark⟩,
  ⟨0xA9E6,0xA9E6,.all .modifierLetter⟩, ⟨0xA9E7,0xA9EF,.all .otherLetter⟩,
  ⟨0xA9F0,0xA9F9,.all .decimalNumber⟩, ⟨0xA9FA,0xA9FE,.all .otherLetter⟩,
  ⟨0xAA00,0xAA28,.all .otherLetter⟩, ⟨0xAA29,0xAA2E,.all .nonspacingMark⟩,
  ⟨0xAA2F,0xAA30,.all .spacingMark⟩, ⟨0xAA31,0xAA32,.all .nonspacingMark⟩,
  ⟨0xAA33,0xAA34,.all .spacingMark⟩, ⟨0xAA35,0xAA36,.all .nonspacingMark⟩,
  ⟨0xAA40,0xAA42,.all .otherLetter⟩, ⟨0xAA43,0xAA43,.all .nonspacingMark⟩,
  ⟨0xAA44,0xAA4B,.all .otherLetter⟩, ⟨0xAA4C,0xAA4C,.all .nonspacingMark⟩,
  ⟨0xAA4D,0xAA4D,.all .spacingMark⟩, ⟨0xAA50,0xAA59,.all .decimalNumber⟩,
  ⟨0xAA5C,0xAA5F,.all .otherPunctuation⟩, ⟨0xAA60,0xAA6F,.all .otherLetter⟩,
  ⟨0xAA70,0xAA70,.all .modifierLetter⟩, ⟨0xAA71,0xAA76,.all .otherLetter⟩,
  ⟨0xAA77,0xAA79,.all .otherSymbol⟩, ⟨0xAA7A,0xAA7A,.all .otherLetter⟩,
  ⟨0xAA7B,0xAA7B,.all .spacingMark⟩, ⟨0xAA7C,0xAA7C,.all .nonspacingMark⟩,
  ⟨0xAA7D,0xAA7D,.all .spacingMark⟩, ⟨0xAA7E,0xAAAF,.all .otherLetter⟩,
  ⟨0xAAB0,0xAAB0,.all .nonspacingMark⟩, ⟨0xAAB1,0xAAB1,.all .otherLetter⟩,
  ⟨0xAAB2,0xAAB4,.all .nonspacingMark⟩, ⟨0xAAB5,0xAAB6,.all .otherLetter⟩,
  ⟨0xAAB7,0xAAB8,.all .nonspacingMark⟩, ⟨0xAAB9,0xAABD,.all .otherLetter⟩,
  ⟨0xAABE,0xAABF,.all .nonspacingMark⟩, ⟨0xAAC0,0xAAC0,.all .otherLetter⟩,
  ⟨0xAAC1,0xAAC1,.all .nonspacingMark⟩, ⟨0xAAC2,0xAAC2,.all .otherLetter⟩,
  ⟨0xAADB,0xAADC,.all .otherLetter⟩, ⟨0xAADD,0xAADD,.all .modifierLetter⟩,
  ⟨0xAADE,0xAADF,.all .otherPunctuation⟩, ⟨0xAAE0,0xAAEA,.all .otherLetter⟩,
  ⟨0xAAEB,0xAAEB,.all .spacingMark⟩, ⟨0xAAEC,0xAAED,.all .nonspacingMark⟩,
  ⟨0xAAEE,0xAAEF,.all .spacingMark⟩, ⟨0xAAF0,0xAAF1,.all .otherPunctuation⟩,
  ⟨0xAAF2,0xAAF2,.all .otherLetter⟩, ⟨0xAAF3,0xAAF4,.all .modifierLetter⟩,
  ⟨0xAAF5,0xAAF5,.all .spacingMark⟩, ⟨0xAAF6,0xAAF6,.all .nonspacingMark⟩,
  ⟨0xAB01,0xAB06,.all .otherLetter⟩, ⟨0xAB09,0xAB0E,.all .otherLetter⟩,
  ⟨0xAB11,0xAB16,.all .otherLetter⟩, ⟨0xAB20,0xAB26,.all .otherLetter⟩,
  ⟨0xAB28,0xAB2E,.all .otherLetter⟩, ⟨0xAB30,0xAB5A,.all .lowercaseLetter⟩,
  ⟨0xAB5B,0xAB5B,.all .modifierSymbol⟩, ⟨0xAB5C,0xAB5F,.all .modifierLetter⟩,
  ⟨0xAB60,0xAB68,.all .lowercaseLetter⟩, ⟨0xAB69,0xAB69,.all .modifierLetter⟩,
  ⟨0xAB6A,0xAB6B,.all .modifierSymbol⟩, ⟨0xAB70,0xABBF,.all .lowercaseLetter⟩,
  ⟨0xABC0,0xABE2,.all .otherLetter⟩, ⟨0xABE3,0xABE4,.all .spacingMark⟩,
  ⟨0xABE5,0xABE5,.all .nonspacingMark⟩, ⟨0xABE6,0xABE7,.all .spacingMark⟩,
  ⟨0xABE8,0xABE8,.all .nonspacingMark⟩, ⟨0xABE9,0xABEA,.all .spacingMark⟩,
  ⟨0xABEB,0xABEB,.all .otherPunctuation⟩, ⟨0xABEC,0xABEC,.all .spacingMark⟩,
  ⟨0xABED,0xABED,.all .nonspacingMark⟩, ⟨0xABF0,0xABF9,.all .decimalNumber⟩,
  ⟨0xAC00,0xD7A3,.all .otherLetter⟩, ⟨0xD7B0,0xD7C6,.all .otherLetter⟩,
  ⟨0xD7CB,0xD7FB,.all .otherLetter⟩, ⟨0xD800,0xDFFF,.all .surrogate⟩, ⟨0xE000,0xF8FF,.all .privateUse⟩,
  ⟨0xF900,0xFA6D,.all .otherLetter⟩, ⟨0xFA70,0xFAD9,.all .otherLetter⟩,
  ⟨0xFB00,0xFB06,.all .lowercaseLetter⟩, ⟨0xFB13,0xFB17,.all .lowercaseLetter⟩,
  ⟨0xFB1D,0xFB1D,.all .otherLetter⟩, ⟨0xFB1E,0xFB1E,.all .nonspacingMark⟩,
  ⟨0xFB1F,0xFB28,.all .otherLetter⟩, ⟨0xFB29,0xFB29,.all .mathSymbol⟩,
  ⟨0xFB2A,0xFB36,.all .otherLetter⟩, ⟨0xFB38,0xFB3C,.all .otherLetter⟩,
  ⟨0xFB3E,0xFB3E,.all .otherLetter⟩, ⟨0xFB40,0xFB41,.all .otherLetter⟩,
  ⟨0xFB43,0xFB44,.all .otherLetter⟩, ⟨0xFB46,0xFBB1,.all .otherLetter⟩,
  ⟨0xFBB2,0xFBC2,.all .modifierSymbol⟩, ⟨0xFBC3,0xFBD2,.all .otherSymbol⟩,
  ⟨0xFBD3,0xFD3D,.all .otherLetter⟩, ⟨0xFD3E,0xFD3E,.all .closePunctuation⟩,
  ⟨0xFD3F,0xFD3F,.all .openPunctuation⟩, ⟨0xFD40,0xFD4F,.all .otherSymbol⟩,
  ⟨0xFD50,0xFD8F,.all .otherLetter⟩, ⟨0xFD90,0xFD91,.all .otherSymbol⟩,
  ⟨0xFD92,0xFDC7,.all .otherLetter⟩, ⟨0xFDC8,0xFDCF,.all .otherSymbol⟩,
  ⟨0xFDF0,0xFDFB,.all .otherLetter⟩, ⟨0xFDFC,0xFDFC,.all .currencySymbol⟩,
  ⟨0xFDFD,0xFDFF,.all .otherSymbol⟩, ⟨0xFE00,0xFE0F,.all .nonspacingMark⟩,
  ⟨0xFE10,0xFE16,.all .otherPunctuation⟩, ⟨0xFE17,0xFE17,.all .openPunctuation⟩,
  ⟨0xFE18,0xFE18,.all .closePunctuation⟩, ⟨0xFE19,0xFE19,.all .otherPunctuation⟩,
  ⟨0xFE20,0xFE2F,.all .nonspacingMark⟩, ⟨0xFE30,0xFE30,.all .otherPunctuation⟩,
  ⟨0xFE31,0xFE32,.all .dashPunctuation⟩, ⟨0xFE33,0xFE34,.all .connectorPunctuation⟩,
  ⟨0xFE35,0xFE35,.all .openPunctuation⟩, ⟨0xFE36,0xFE36,.all .closePunctuation⟩,
  ⟨0xFE37,0xFE37,.all .openPunctuation⟩]

def segmentsFE38 : List Segment := [
  ⟨0xFE38,0xFE38,.all .closePunctuation⟩, ⟨0xFE39,0xFE39,.all .openPunctuation⟩,
  ⟨0xFE3A,0xFE3A,.all .closePunctuation⟩, ⟨0xFE3B,0xFE3B,.all .openPunctuation⟩,
  ⟨0xFE3C,0xFE3C,.all .closePunctuation⟩, ⟨0xFE3D,0xFE3D,.all .openPunctuation⟩,
  ⟨0xFE3E,0xFE3E,.all .closePunctuation⟩, ⟨0xFE3F,0xFE3F,.all .openPunctuation⟩,
  ⟨0xFE40,0xFE40,.all .closePunctuation⟩, ⟨0xFE41,0xFE41,.all .openPunctuation⟩,
  ⟨0xFE42,0xFE42,.all .closePunctuation⟩, ⟨0xFE43,0xFE43,.all .openPunctuation⟩,
  ⟨0xFE44,0xFE44,.all .closePunctuation⟩, ⟨0xFE45,0xFE46,.all .otherPunctuation⟩,
  ⟨0xFE47,0xFE47,.all .openPunctuation⟩, ⟨0xFE48,0xFE48,.all .closePunctuation⟩,
  ⟨0xFE49,0xFE4C,.all .otherPunctuation⟩, ⟨0xFE4D,0xFE4F,.all .connectorPunctuation⟩,
  ⟨0xFE50,0xFE52,.all .otherPunctuation⟩, ⟨0xFE54,0xFE57,.all .otherPunctuation⟩,
  ⟨0xFE58,0xFE58,.all .dashPunctuation⟩, ⟨0xFE59,0xFE59,.all .openPunctuation⟩,
  ⟨0xFE5A,0xFE5A,.all .closePunctuation⟩, ⟨0xFE5B,0xFE5B,.all .openPunctuation⟩,
  ⟨0xFE5C,0xFE5C,.all .closePunctuation⟩, ⟨0xFE5D,0xFE5D,.all .openPunctuation⟩,
  ⟨0xFE5E,0xFE5E,.all .closePunctuation⟩, ⟨0xFE5F,0xFE61,.all .otherPunctuation⟩,
  ⟨0xFE62,0xFE62,.all .mathSymbol⟩, ⟨0xFE63,0xFE63,.all .dashPunctuation⟩,
  ⟨0xFE64,0xFE66,.all .mathSymbol⟩, ⟨0xFE68,0xFE68,.all .otherPunctuation⟩,
  ⟨0xFE69,0xFE69,.all .currencySymbol⟩, ⟨0xFE6A,0xFE6B,.all .otherPunctuation⟩,
  ⟨0xFE70,0xFE74,.all .otherLetter⟩, ⟨0xFE76,0xFEFC,.all .otherLetter⟩, ⟨0xFEFF,0xFEFF,.all .format⟩,
  ⟨0xFF01,0xFF03,.all .otherPunctuation⟩, ⟨0xFF04,0xFF04,.all .currencySymbol⟩,
  ⟨0xFF05,0xFF07,.all .otherPunctuation⟩, ⟨0xFF08,0xFF08,.all .openPunctuation⟩,
  ⟨0xFF09,0xFF09,.all .closePunctuation⟩, ⟨0xFF0A,0xFF0A,.all .otherPunctuation⟩,
  ⟨0xFF0B,0xFF0B,.all .mathSymbol⟩, ⟨0xFF0C,0xFF0C,.all .otherPunctuation⟩,
  ⟨0xFF0D,0xFF0D,.all .dashPunctuation⟩, ⟨0xFF0E,0xFF0F,.all .otherPunctuation⟩,
  ⟨0xFF10,0xFF19,.all .decimalNumber⟩, ⟨0xFF1A,0xFF1B,.all .otherPunctuation⟩,
  ⟨0xFF1C,0xFF1E,.all .mathSymbol⟩, ⟨0xFF1F,0xFF20,.all .otherPunctuation⟩,
  ⟨0xFF21,0xFF3A,.all .uppercaseLetter⟩, ⟨0xFF3B,0xFF3B,.all .openPunctuation⟩,
  ⟨0xFF3C,0xFF3C,.all .otherPunctuation⟩, ⟨0xFF3D,0xFF3D,.all .closePunctuation⟩,
  ⟨0xFF3E,0xFF3E,.all .modifierSymbol⟩, ⟨0xFF3F,0xFF3F,.all .connectorPunctuation⟩,
  ⟨0xFF40,0xFF40,.all .modifierSymbol⟩, ⟨0xFF41,0xFF5A,.all .lowercaseLetter⟩,
  ⟨0xFF5B,0xFF5B,.all .openPunctuation⟩, ⟨0xFF5C,0xFF5C,.all .mathSymbol⟩,
  ⟨0xFF5D,0xFF5D,.all .closePunctuation⟩, ⟨0xFF5E,0xFF5E,.all .mathSymbol⟩,
  ⟨0xFF5F,0xFF5F,.all .openPunctuation⟩, ⟨0xFF60,0xFF60,.all .closePunctuation⟩,
  ⟨0xFF61,0xFF61,.all .otherPunctuation⟩, ⟨0xFF62,0xFF62,.all .openPunctuation⟩,
  ⟨0xFF63,0xFF63,.all .closePunctuation⟩, ⟨0xFF64,0xFF65,.all .otherPunctuation⟩,
  ⟨0xFF66,0xFF6F,.all .otherLetter⟩, ⟨0xFF70,0xFF70,.all .modifierLetter⟩,
  ⟨0xFF71,0xFF9D,.all .otherLetter⟩, ⟨0xFF9E,0xFF9F,.all .modifierLetter⟩,
  ⟨0xFFA0,0xFFBE,.all .otherLetter⟩, ⟨0xFFC2,0xFFC7,.all .otherLetter⟩,
  ⟨0xFFCA,0xFFCF,.all .otherLetter⟩, ⟨0xFFD2,0xFFD7,.all .otherLetter⟩,
  ⟨0xFFDA,0xFFDC,.all .otherLetter⟩, ⟨0xFFE0,0xFFE1,.all .currencySymbol⟩,
  ⟨0xFFE2,0xFFE2,.all .mathSymbol⟩, ⟨0xFFE3,0xFFE3,.all .modifierSymbol⟩,
  ⟨0xFFE4,0xFFE4,.all .otherSymbol⟩, ⟨0xFFE5,0xFFE6,.all .currencySymbol⟩,
  ⟨0xFFE8,0xFFE8,.all .otherSymbol⟩, ⟨0xFFE9,0xFFEC,.all .mathSymbol⟩,
  ⟨0xFFED,0xFFEE,.all .otherSymbol⟩, ⟨0xFFF9,0xFFFB,.all .format⟩, ⟨0xFFFC,0xFFFD,.all .otherSymbol⟩,
  ⟨0x10000,0x1000B,.all .otherLetter⟩, ⟨0x1000D,0x10026,.all .otherLetter⟩,
  ⟨0x10028,0x1003A,.all .otherLetter⟩, ⟨0x1003C,0x1003D,.all .otherLetter⟩,
  ⟨0x1003F,0x1004D,.all .otherLetter⟩, ⟨0x10050,0x1005D,.all .otherLetter⟩,
  ⟨0x10080,0x100FA,.all .otherLetter⟩, ⟨0x10100,0x10102,.all .otherPunctuation⟩,
  ⟨0x10107,0x10133,.all .otherNumber⟩, ⟨0x10137,0x1013F,.all .otherSymbol⟩,
  ⟨0x10140,0x10174,.all .letterNumber⟩, ⟨0x10175,0x10178,.all .otherNumber⟩,
  ⟨0x10179,0x10189,.all .otherSymbol⟩, ⟨0x1018A,0x1018B,.all .otherNumber⟩,
  ⟨0x1018C,0x1018E,.all .otherSymbol⟩, ⟨0x10190,0x1019C,.all .otherSymbol⟩,
  ⟨0x101A0,0x101A0,.all .otherSymbol⟩, ⟨0x101D0,0x101FC,.all .otherSymbol⟩,
  ⟨0x101FD,0x101FD,.all .nonspacingMark⟩, ⟨0x10280,0x1029C,.all .otherLetter⟩,
  ⟨0x102A0,0x102D0,.all .otherLetter⟩, ⟨0x102E0,0x102E0,.all .nonspacingMark⟩,
  ⟨0x102E1,0x102FB,.all .otherNumber⟩, ⟨0x10300,0x1031F,.all .otherLetter⟩,
  ⟨0x10320,0x10323,.all .otherNumber⟩, ⟨0x1032D,0x10340,.all .otherLetter⟩,
  ⟨0x10341,0x10341,.all .letterNumber⟩, ⟨0x10342,0x10349,.all .otherLetter⟩,
  ⟨0x1034A,0x1034A,.all .letterNumber⟩, ⟨0x10350,0x10375,.all .otherLetter⟩,
  ⟨0x10376,0x1037A,.all .nonspacingMark⟩, ⟨0x10380,0x1039D,.all .otherLetter⟩,
  ⟨0x1039F,0x1039F,.all .otherPunctuation⟩, ⟨0x103A0,0x103C3,.all .otherLetter⟩,
  ⟨0x103C8,0x103CF,.all .otherLetter⟩, ⟨0x103D0,0x103D0,.all .otherPunctuation⟩,
  ⟨0x103D1,0x103D5,.all .letterNumber⟩, ⟨0x10400,0x10427,.all .uppercaseLetter⟩,
  ⟨0x10428,0x1044F,.all .lowercaseLetter⟩, ⟨0x10450,0x1049D,.all .otherLetter⟩,
  ⟨0x104A0,0x104A9,.all .decimalNumber⟩, ⟨0x104B0,0x104D3,.all .uppercaseLetter⟩,
  ⟨0x104D8,0x104FB,.all .lowercaseLetter⟩, ⟨0x10500,0x10527,.all .otherLetter⟩,
  ⟨0x10530,0x10563,.all .otherLetter⟩, ⟨0x1056F,0x1056F,.all .otherPunctuation⟩,
  ⟨0x10570,0x1057A,.all .uppercaseLetter⟩, ⟨0x1057C,0x1058A,.all .uppercaseLetter⟩,
  ⟨0x1058C,0x10592,.all .uppercaseLetter⟩, ⟨0x10594,0x10595,.all .uppercaseLetter⟩,
  ⟨0x10597,0x105A1,.all .lowercaseLetter⟩, ⟨0x105A3,0x105B1,.all .lowercaseLetter⟩,
  ⟨0x105B3,0x105B9,.all .lowercaseLetter⟩, ⟨0x105BB,0x105BC,.all .lowercaseLetter⟩,
  ⟨0x105C0,0x105F3,.all .otherLetter⟩, ⟨0x10600,0x10736,.all .otherLetter⟩,
  ⟨0x10740,0x10755,.all .otherLetter⟩, ⟨0x10760,0x10767,.all .otherLetter⟩,
  ⟨0x10780,0x10785,.all .modifierLetter⟩, ⟨0x10787,0x107B0,.all .modifierLetter⟩,
  ⟨0x107B2,0x107BA,.all .modifierLetter⟩, ⟨0x10800,0x10805,.all .otherLetter⟩]

def segments10808 : List Segment := [
  ⟨0x10808,0x10808,.all .otherLetter⟩, ⟨0x1080A,0x10835,.all .otherLetter⟩,
  ⟨0x10837,0x10838,.all .otherLetter⟩, ⟨0x1083C,0x1083C,.all .otherLetter⟩,
  ⟨0x1083F,0x10855,.all .otherLetter⟩, ⟨0x10857,0x10857,.all .otherPunctuation⟩,
  ⟨0x10858,0x1085F,.all .otherNumber⟩, ⟨0x10860,0x10876,.all .otherLetter⟩,
  ⟨0x10877,0x10878,.all .otherSymbol⟩, ⟨0x10879,0x1087F,.all .otherNumber⟩,
  ⟨0x10880,0x1089E,.all .otherLetter⟩, ⟨0x108A7,0x108AF,.all .otherNumber⟩,
  ⟨0x108E0,0x108F2,.all .otherLetter⟩, ⟨0x108F4,0x108F5,.all .otherLetter⟩,
  ⟨0x108FB,0x108FF,.all .otherNumber⟩, ⟨0x10900,0x10915,.all .otherLetter⟩,
  ⟨0x10916,0x1091B,.all .otherNumber⟩, ⟨0x1091F,0x1091F,.all .otherPunctuation⟩,
  ⟨0x10920,0x10939,.all .otherLetter⟩, ⟨0x1093F,0x1093F,.all .otherPunctuation⟩,
  ⟨0x10940,0x10959,.all .otherLetter⟩, ⟨0x10980,0x109B7,.all .otherLetter⟩,
  ⟨0x109BC,0x109BD,.all .otherNumber⟩, ⟨0x109BE,0x109BF,.all .otherLetter⟩,
  ⟨0x109C0,0x109CF,.all .otherNumber⟩, ⟨0x109D2,0x109FF,.all .otherNumber⟩,
  ⟨0x10A00,0x10A00,.all .otherLetter⟩, ⟨0x10A01,0x10A03,.all .nonspacingMark⟩,
  ⟨0x10A05,0x10A06,.all .nonspacingMark⟩, ⟨0x10A0C,0x10A0F,.all .nonspacingMark⟩,
  ⟨0x10A10,0x10A13,.all .otherLetter⟩, ⟨0x10A15,0x10A17,.all .otherLetter⟩,
  ⟨0x10A19,0x10A35,.all .otherLetter⟩, ⟨0x10A38,0x10A3A,.all .nonspacingMark⟩,
  ⟨0x10A3F,0x10A3F,.all .nonspacingMark⟩, ⟨0x10A40,0x10A48,.all .otherNumber⟩,
  ⟨0x10A50,0x10A58,.all .otherPunctuation⟩, ⟨0x10A60,0x10A7C,.all .otherLetter⟩,
  ⟨0x10A7D,0x10A7E,.all .otherNumber⟩, ⟨0x10A7F,0x10A7F,.all .otherPunctuation⟩,
  ⟨0x10A80,0x10A9C,.all .otherLetter⟩, ⟨0x10A9D,0x10A9F,.all .otherNumber⟩,
  ⟨0x10AC0,0x10AC7,.all .otherLetter⟩, ⟨0x10AC8,0x10AC8,.all .otherSymbol⟩,
  ⟨0x10AC9,0x10AE4,.all .otherLetter⟩, ⟨0x10AE5,0x10AE6,.all .nonspacingMark⟩,
  ⟨0x10AEB,0x10AEF,.all .otherNumber⟩, ⟨0x10AF0,0x10AF6,.all .otherPunctuation⟩,
  ⟨0x10B00,0x10B35,.all .otherLetter⟩, ⟨0x10B39,0x10B3F,.all .otherPunctuation⟩,
  ⟨0x10B40,0x10B55,.all .otherLetter⟩, ⟨0x10B58,0x10B5F,.all .otherNumber⟩,
  ⟨0x10B60,0x10B72,.all .otherLetter⟩, ⟨0x10B78,0x10B7F,.all .otherNumber⟩,
  ⟨0x10B80,0x10B91,.all .otherLetter⟩, ⟨0x10B99,0x10B9C,.all .otherPunctuation⟩,
  ⟨0x10BA9,0x10BAF,.all .otherNumber⟩, ⟨0x10C00,0x10C48,.all .otherLetter⟩,
  ⟨0x10C80,0x10CB2,.all .uppercaseLetter⟩, ⟨0x10CC0,0x10CF2,.all .lowercaseLetter⟩,
  ⟨0x10CFA,0x10CFF,.all .otherNumber⟩, ⟨0x10D00,0x10D23,.all .otherLetter⟩,
  ⟨0x10D24,0x10D27,.all .nonspacingMark⟩, ⟨0x10D30,0x10D39,.all .decimalNumber⟩,
  ⟨0x10D40,0x10D49,.all .decimalNumber⟩, ⟨0x10D4A,0x10D4D,.all .otherLetter⟩,
  ⟨0x10D4E,0x10D4E,.all .modifierLetter⟩, ⟨0x10D4F,0x10D4F,.all .otherLetter⟩,
  ⟨0x10D50,0x10D65,.all .uppercaseLetter⟩, ⟨0x10D69,0x10D6D,.all .nonspacingMark⟩,
  ⟨0x10D6E,0x10D6E,.all .dashPunctuation⟩, ⟨0x10D6F,0x10D6F,.all .modifierLetter⟩,
  ⟨0x10D70,0x10D85,.all .lowercaseLetter⟩, ⟨0x10D8E,0x10D8F,.all .mathSymbol⟩,
  ⟨0x10E60,0x10E7E,.all .otherNumber⟩, ⟨0x10E80,0x10EA9,.all .otherLetter⟩,
  ⟨0x10EAB,0x10EAC,.all .nonspacingMark⟩, ⟨0x10EAD,0x10EAD,.all .dashPunctuation⟩,
  ⟨0x10EB0,0x10EB1,.all .otherLetter⟩, ⟨0x10EC2,0x10EC4,.all .otherLetter⟩,
  ⟨0x10EC5,0x10EC5,.all .modifierLetter⟩, ⟨0x10EC6,0x10EC7,.all .otherLetter⟩,
  ⟨0x10ED0,0x10ED0,.all .otherPunctuation⟩, ⟨0x10ED1,0x10ED8,.all .otherSymbol⟩,
  ⟨0x10EFA,0x10EFF,.all .nonspacingMark⟩, ⟨0x10F00,0x10F1C,.all .otherLetter⟩,
  ⟨0x10F1D,0x10F26,.all .otherNumber⟩, ⟨0x10F27,0x10F27,.all .otherLetter⟩,
  ⟨0x10F30,0x10F45,.all .otherLetter⟩, ⟨0x10F46,0x10F50,.all .nonspacingMark⟩,
  ⟨0x10F51,0x10F54,.all .otherNumber⟩, ⟨0x10F55,0x10F59,.all .otherPunctuation⟩,
  ⟨0x10F70,0x10F81,.all .otherLetter⟩, ⟨0x10F82,0x10F85,.all .nonspacingMark⟩,
  ⟨0x10F86,0x10F89,.all .otherPunctuation⟩, ⟨0x10FB0,0x10FC4,.all .otherLetter⟩,
  ⟨0x10FC5,0x10FCB,.all .otherNumber⟩, ⟨0x10FE0,0x10FF6,.all .otherLetter⟩,
  ⟨0x11000,0x11000,.all .spacingMark⟩, ⟨0x11001,0x11001,.all .nonspacingMark⟩,
  ⟨0x11002,0x11002,.all .spacingMark⟩, ⟨0x11003,0x11037,.all .otherLetter⟩,
  ⟨0x11038,0x11046,.all .nonspacingMark⟩, ⟨0x11047,0x1104D,.all .otherPunctuation⟩,
  ⟨0x11052,0x11065,.all .otherNumber⟩, ⟨0x11066,0x1106F,.all .decimalNumber⟩,
  ⟨0x11070,0x11070,.all .nonspacingMark⟩, ⟨0x11071,0x11072,.all .otherLetter⟩,
  ⟨0x11073,0x11074,.all .nonspacingMark⟩, ⟨0x11075,0x11075,.all .otherLetter⟩,
  ⟨0x1107F,0x11081,.all .nonspacingMark⟩, ⟨0x11082,0x11082,.all .spacingMark⟩,
  ⟨0x11083,0x110AF,.all .otherLetter⟩, ⟨0x110B0,0x110B2,.all .spacingMark⟩,
  ⟨0x110B3,0x110B6,.all .nonspacingMark⟩, ⟨0x110B7,0x110B8,.all .spacingMark⟩,
  ⟨0x110B9,0x110BA,.all .nonspacingMark⟩, ⟨0x110BB,0x110BC,.all .otherPunctuation⟩,
  ⟨0x110BD,0x110BD,.all .format⟩, ⟨0x110BE,0x110C1,.all .otherPunctuation⟩,
  ⟨0x110C2,0x110C2,.all .nonspacingMark⟩, ⟨0x110CD,0x110CD,.all .format⟩,
  ⟨0x110D0,0x110E8,.all .otherLetter⟩, ⟨0x110F0,0x110F9,.all .decimalNumber⟩,
  ⟨0x11100,0x11102,.all .nonspacingMark⟩, ⟨0x11103,0x11126,.all .otherLetter⟩,
  ⟨0x11127,0x1112B,.all .nonspacingMark⟩, ⟨0x1112C,0x1112C,.all .spacingMark⟩,
  ⟨0x1112D,0x11134,.all .nonspacingMark⟩, ⟨0x11136,0x1113F,.all .decimalNumber⟩,
  ⟨0x11140,0x11143,.all .otherPunctuation⟩, ⟨0x11144,0x11144,.all .otherLetter⟩,
  ⟨0x11145,0x11146,.all .spacingMark⟩, ⟨0x11147,0x11147,.all .otherLetter⟩,
  ⟨0x11150,0x11172,.all .otherLetter⟩, ⟨0x11173,0x11173,.all .nonspacingMark⟩,
  ⟨0x11174,0x11175,.all .otherPunctuation⟩, ⟨0x11176,0x11176,.all .otherLetter⟩,
  ⟨0x11180,0x11181,.all .nonspacingMark⟩, ⟨0x11182,0x11182,.all .spacingMark⟩,
  ⟨0x11183,0x111B2,.all .otherLetter⟩, ⟨0x111B3,0x111B5,.all .spacingMark⟩,
  ⟨0x111B6,0x111BE,.all .nonspacingMark⟩, ⟨0x111BF,0x111C0,.all .spacingMark⟩,
  ⟨0x111C1,0x111C4,.all .otherLetter⟩, ⟨0x111C5,0x111C8,.all .otherPunctuation⟩,
  ⟨0x111C9,0x111CC,.all .nonspacingMark⟩, ⟨0x111CD,0x111CD,.all .otherPunctuation⟩,
  ⟨0x111CE,0x111CE,.all .spacingMark⟩, ⟨0x111CF,0x111CF,.all .nonspacingMark⟩]

def segments111D0 : List Segment := [
  ⟨0x111D0,0x111D9,.all .decimalNumber⟩, ⟨0x111DA,0x111DA,.all .otherLetter⟩,
  ⟨0x111DB,0x111DB,.all .otherPunctuation⟩, ⟨0x111DC,0x111DC,.all .otherLetter⟩,
  ⟨0x111DD,0x111DF,.all .otherPunctuation⟩, ⟨0x111E1,0x111F4,.all .otherNumber⟩,
  ⟨0x11200,0x11211,.all .otherLetter⟩, ⟨0x11213,0x1122B,.all .otherLetter⟩,
  ⟨0x1122C,0x1122E,.all .spacingMark⟩, ⟨0x1122F,0x11231,.all .nonspacingMark⟩,
  ⟨0x11232,0x11233,.all .spacingMark⟩, ⟨0x11234,0x11234,.all .nonspacingMark⟩,
  ⟨0x11235,0x11235,.all .spacingMark⟩, ⟨0x11236,0x11237,.all .nonspacingMark⟩,
  ⟨0x11238,0x1123D,.all .otherPunctuation⟩, ⟨0x1123E,0x1123E,.all .nonspacingMark⟩,
  ⟨0x1123F,0x11240,.all .otherLetter⟩, ⟨0x11241,0x11241,.all .nonspacingMark⟩,
  ⟨0x11280,0x11286,.all .otherLetter⟩, ⟨0x11288,0x11288,.all .otherLetter⟩,
  ⟨0x1128A,0x1128D,.all .otherLetter⟩, ⟨0x1128F,0x1129D,.all .otherLetter⟩,
  ⟨0x1129F,0x112A8,.all .otherLetter⟩, ⟨0x112A9,0x112A9,.all .otherPunctuation⟩,
  ⟨0x112B0,0x112DE,.all .otherLetter⟩, ⟨0x112DF,0x112DF,.all .nonspacingMark⟩,
  ⟨0x112E0,0x112E2,.all .spacingMark⟩, ⟨0x112E3,0x112EA,.all .nonspacingMark⟩,
  ⟨0x112F0,0x112F9,.all .decimalNumber⟩, ⟨0x11300,0x11301,.all .nonspacingMark⟩,
  ⟨0x11302,0x11303,.all .spacingMark⟩, ⟨0x11305,0x1130C,.all .otherLetter⟩,
  ⟨0x1130F,0x11310,.all .otherLetter⟩, ⟨0x11313,0x11328,.all .otherLetter⟩,
  ⟨0x1132A,0x11330,.all .otherLetter⟩, ⟨0x11332,0x11333,.all .otherLetter⟩,
  ⟨0x11335,0x11339,.all .otherLetter⟩, ⟨0x1133B,0x1133C,.all .nonspacingMark⟩,
  ⟨0x1133D,0x1133D,.all .otherLetter⟩, ⟨0x1133E,0x1133F,.all .spacingMark⟩,
  ⟨0x11340,0x11340,.all .nonspacingMark⟩, ⟨0x11341,0x11344,.all .spacingMark⟩,
  ⟨0x11347,0x11348,.all .spacingMark⟩, ⟨0x1134B,0x1134D,.all .spacingMark⟩,
  ⟨0x11350,0x11350,.all .otherLetter⟩, ⟨0x11357,0x11357,.all .spacingMark⟩,
  ⟨0x1135D,0x11361,.all .otherLetter⟩, ⟨0x11362,0x11363,.all .spacingMark⟩,
  ⟨0x11366,0x1136C,.all .nonspacingMark⟩, ⟨0x11370,0x11374,.all .nonspacingMark⟩,
  ⟨0x11380,0x11389,.all .otherLetter⟩, ⟨0x1138B,0x1138B,.all .otherLetter⟩,
  ⟨0x1138E,0x1138E,.all .otherLetter⟩, ⟨0x11390,0x113B5,.all .otherLetter⟩,
  ⟨0x113B7,0x113B7,.all .otherLetter⟩, ⟨0x113B8,0x113BA,.all .spacingMark⟩,
  ⟨0x113BB,0x113C0,.all .nonspacingMark⟩, ⟨0x113C2,0x113C2,.all .spacingMark⟩,
  ⟨0x113C5,0x113C5,.all .spacingMark⟩, ⟨0x113C7,0x113CA,.all .spacingMark⟩,
  ⟨0x113CC,0x113CD,.all .spacingMark⟩, ⟨0x113CE,0x113CE,.all .nonspacingMark⟩,
  ⟨0x113CF,0x113CF,.all .spacingMark⟩, ⟨0x113D0,0x113D0,.all .nonspacingMark⟩,
  ⟨0x113D1,0x113D1,.all .otherLetter⟩, ⟨0x113D2,0x113D2,.all .nonspacingMark⟩,
  ⟨0x113D3,0x113D3,.all .otherLetter⟩, ⟨0x113D4,0x113D5,.all .otherPunctuation⟩,
  ⟨0x113D7,0x113D8,.all .otherPunctuation⟩, ⟨0x113E1,0x113E2,.all .nonspacingMark⟩,
  ⟨0x11400,0x11434,.all .otherLetter⟩, ⟨0x11435,0x11437,.all .spacingMark⟩,
  ⟨0x11438,0x1143F,.all .nonspacingMark⟩, ⟨0x11440,0x11441,.all .spacingMark⟩,
  ⟨0x11442,0x11444,.all .nonspacingMark⟩, ⟨0x11445,0x11445,.all .spacingMark⟩,
  ⟨0x11446,0x11446,.all .nonspacingMark⟩, ⟨0x11447,0x1144A,.all .otherLetter⟩,
  ⟨0x1144B,0x1144F,.all .otherPunctuation⟩, ⟨0x11450,0x11459,.all .decimalNumber⟩,
  ⟨0x1145A,0x1145B,.all .otherPunctuation⟩, ⟨0x1145D,0x1145D,.all .otherPunctuation⟩,
  ⟨0x1145E,0x1145E,.all .nonspacingMark⟩, ⟨0x1145F,0x11461,.all .otherLetter⟩,
  ⟨0x11480,0x114AF,.all .otherLetter⟩, ⟨0x114B0,0x114B2,.all .spacingMark⟩,
  ⟨0x114B3,0x114B8,.all .nonspacingMark⟩, ⟨0x114B9,0x114B9,.all .spacingMark⟩,
  ⟨0x114BA,0x114BA,.all .nonspacingMark⟩, ⟨0x114BB,0x114BE,.all .spacingMark⟩,
  ⟨0x114BF,0x114C0,.all .nonspacingMark⟩, ⟨0x114C1,0x114C1,.all .spacingMark⟩,
  ⟨0x114C2,0x114C3,.all .nonspacingMark⟩, ⟨0x114C4,0x114C5,.all .otherLetter⟩,
  ⟨0x114C6,0x114C6,.all .otherPunctuation⟩, ⟨0x114C7,0x114C7,.all .otherLetter⟩,
  ⟨0x114D0,0x114D9,.all .decimalNumber⟩, ⟨0x11580,0x115AE,.all .otherLetter⟩,
  ⟨0x115AF,0x115B1,.all .spacingMark⟩, ⟨0x115B2,0x115B5,.all .nonspacingMark⟩,
  ⟨0x115B8,0x115BB,.all .spacingMark⟩, ⟨0x115BC,0x115BD,.all .nonspacingMark⟩,
  ⟨0x115BE,0x115BE,.all .spacingMark⟩, ⟨0x115BF,0x115C0,.all .nonspacingMark⟩,
  ⟨0x115C1,0x115D7,.all .otherPunctuation⟩, ⟨0x115D8,0x115DB,.all .otherLetter⟩,
  ⟨0x115DC,0x115DD,.all .nonspacingMark⟩, ⟨0x11600,0x1162F,.all .otherLetter⟩,
  ⟨0x11630,0x11632,.all .spacingMark⟩, ⟨0x11633,0x1163A,.all .nonspacingMark⟩,
  ⟨0x1163B,0x1163C,.all .spacingMark⟩, ⟨0x1163D,0x1163D,.all .nonspacingMark⟩,
  ⟨0x1163E,0x1163E,.all .spacingMark⟩, ⟨0x1163F,0x11640,.all .nonspacingMark⟩,
  ⟨0x11641,0x11643,.all .otherPunctuation⟩, ⟨0x11644,0x11644,.all .otherLetter⟩,
  ⟨0x11650,0x11659,.all .decimalNumber⟩, ⟨0x11660,0x1166C,.all .otherPunctuation⟩,
  ⟨0x11680,0x116AA,.all .otherLetter⟩, ⟨0x116AB,0x116AB,.all .nonspacingMark⟩,
  ⟨0x116AC,0x116AC,.all .spacingMark⟩, ⟨0x116AD,0x116AD,.all .nonspacingMark⟩,
  ⟨0x116AE,0x116AF,.all .spacingMark⟩, ⟨0x116B0,0x116B5,.all .nonspacingMark⟩,
  ⟨0x116B6,0x116B6,.all .spacingMark⟩, ⟨0x116B7,0x116B7,.all .nonspacingMark⟩,
  ⟨0x116B8,0x116B8,.all .otherLetter⟩, ⟨0x116B9,0x116B9,.all .otherPunctuation⟩,
  ⟨0x116C0,0x116C9,.all .decimalNumber⟩, ⟨0x116D0,0x116E3,.all .decimalNumber⟩,
  ⟨0x11700,0x1171A,.all .otherLetter⟩, ⟨0x1171D,0x1171D,.all .nonspacingMark⟩,
  ⟨0x1171E,0x1171E,.all .spacingMark⟩, ⟨0x1171F,0x1171F,.all .nonspacingMark⟩,
  ⟨0x11720,0x11721,.all .spacingMark⟩, ⟨0x11722,0x11725,.all .nonspacingMark⟩,
  ⟨0x11726,0x11726,.all .spacingMark⟩, ⟨0x11727,0x1172B,.all .nonspacingMark⟩,
  ⟨0x11730,0x11739,.all .decimalNumber⟩, ⟨0x1173A,0x1173B,.all .otherNumber⟩,
  ⟨0x1173C,0x1173E,.all .otherPunctuation⟩, ⟨0x1173F,0x1173F,.all .otherSymbol⟩,
  ⟨0x11740,0x11746,.all .otherLetter⟩, ⟨0x11800,0x1182B,.all .otherLetter⟩,
  ⟨0x1182C,0x1182E,.all .spacingMark⟩, ⟨0x1182F,0x11837,.all .nonspacingMark⟩,
  ⟨0x11838,0x11838,.all .spacingMark⟩, ⟨0x11839,0x1183A,.all .nonspacingMark⟩,
  ⟨0x1183B,0x1183B,.all .otherPunctuation⟩, ⟨0x118A0,0x118BF,.all .uppercaseLetter⟩]

def segments118C0 : List Segment := [
  ⟨0x118C0,0x118DF,.all .lowercaseLetter⟩, ⟨0x118E0,0x118E9,.all .decimalNumber⟩,
  ⟨0x118EA,0x118F2,.all .otherNumber⟩, ⟨0x118FF,0x11906,.all .otherLetter⟩,
  ⟨0x11909,0x11909,.all .otherLetter⟩, ⟨0x1190C,0x11913,.all .otherLetter⟩,
  ⟨0x11915,0x11916,.all .otherLetter⟩, ⟨0x11918,0x1192F,.all .otherLetter⟩,
  ⟨0x11930,0x11935,.all .spacingMark⟩, ⟨0x11937,0x11938,.all .spacingMark⟩,
  ⟨0x1193B,0x1193C,.all .nonspacingMark⟩, ⟨0x1193D,0x1193D,.all .spacingMark⟩,
  ⟨0x1193E,0x1193E,.all .nonspacingMark⟩, ⟨0x1193F,0x1193F,.all .otherLetter⟩,
  ⟨0x11940,0x11940,.all .spacingMark⟩, ⟨0x11941,0x11941,.all .otherLetter⟩,
  ⟨0x11942,0x11942,.all .spacingMark⟩, ⟨0x11943,0x11943,.all .nonspacingMark⟩,
  ⟨0x11944,0x11946,.all .otherPunctuation⟩, ⟨0x11950,0x11959,.all .decimalNumber⟩,
  ⟨0x119A0,0x119A7,.all .otherLetter⟩, ⟨0x119AA,0x119D0,.all .otherLetter⟩,
  ⟨0x119D1,0x119D3,.all .spacingMark⟩, ⟨0x119D4,0x119D7,.all .nonspacingMark⟩,
  ⟨0x119DA,0x119DB,.all .nonspacingMark⟩, ⟨0x119DC,0x119DF,.all .spacingMark⟩,
  ⟨0x119E0,0x119E0,.all .nonspacingMark⟩, ⟨0x119E1,0x119E1,.all .otherLetter⟩,
  ⟨0x119E2,0x119E2,.all .otherPunctuation⟩, ⟨0x119E3,0x119E3,.all .otherLetter⟩,
  ⟨0x119E4,0x119E4,.all .spacingMark⟩, ⟨0x11A00,0x11A00,.all .otherLetter⟩,
  ⟨0x11A01,0x11A0A,.all .nonspacingMark⟩, ⟨0x11A0B,0x11A32,.all .otherLetter⟩,
  ⟨0x11A33,0x11A38,.all .nonspacingMark⟩, ⟨0x11A39,0x11A39,.all .spacingMark⟩,
  ⟨0x11A3A,0x11A3A,.all .otherLetter⟩, ⟨0x11A3B,0x11A3E,.all .nonspacingMark⟩,
  ⟨0x11A3F,0x11A46,.all .otherPunctuation⟩, ⟨0x11A47,0x11A47,.all .nonspacingMark⟩,
  ⟨0x11A50,0x11A50,.all .otherLetter⟩, ⟨0x11A51,0x11A56,.all .nonspacingMark⟩,
  ⟨0x11A57,0x11A58,.all .spacingMark⟩, ⟨0x11A59,0x11A5B,.all .nonspacingMark⟩,
  ⟨0x11A5C,0x11A89,.all .otherLetter⟩, ⟨0x11A8A,0x11A96,.all .nonspacingMark⟩,
  ⟨0x11A97,0x11A97,.all .spacingMark⟩, ⟨0x11A98,0x11A99,.all .nonspacingMark⟩,
  ⟨0x11A9A,0x11A9C,.all .otherPunctuation⟩, ⟨0x11A9D,0x11A9D,.all .otherLetter⟩,
  ⟨0x11A9E,0x11AA2,.all .otherPunctuation⟩, ⟨0x11AB0,0x11AF8,.all .otherLetter⟩,
  ⟨0x11B00,0x11B09,.all .otherPunctuation⟩, ⟨0x11B60,0x11B60,.all .nonspacingMark⟩,
  ⟨0x11B61,0x11B61,.all .spacingMark⟩, ⟨0x11B62,0x11B64,.all .nonspacingMark⟩,
  ⟨0x11B65,0x11B65,.all .spacingMark⟩, ⟨0x11B66,0x11B66,.all .nonspacingMark⟩,
  ⟨0x11B67,0x11B67,.all .spacingMark⟩, ⟨0x11BC0,0x11BE0,.all .otherLetter⟩,
  ⟨0x11BE1,0x11BE1,.all .otherPunctuation⟩, ⟨0x11BF0,0x11BF9,.all .decimalNumber⟩,
  ⟨0x11C00,0x11C08,.all .otherLetter⟩, ⟨0x11C0A,0x11C2E,.all .otherLetter⟩,
  ⟨0x11C2F,0x11C2F,.all .spacingMark⟩, ⟨0x11C30,0x11C36,.all .nonspacingMark⟩,
  ⟨0x11C38,0x11C3D,.all .nonspacingMark⟩, ⟨0x11C3E,0x11C3E,.all .spacingMark⟩,
  ⟨0x11C3F,0x11C3F,.all .nonspacingMark⟩, ⟨0x11C40,0x11C40,.all .otherLetter⟩,
  ⟨0x11C41,0x11C45,.all .otherPunctuation⟩, ⟨0x11C50,0x11C59,.all .decimalNumber⟩,
  ⟨0x11C5A,0x11C6C,.all .otherNumber⟩, ⟨0x11C70,0x11C71,.all .otherPunctuation⟩,
  ⟨0x11C72,0x11C8F,.all .otherLetter⟩, ⟨0x11C92,0x11CA7,.all .nonspacingMark⟩,
  ⟨0x11CA9,0x11CA9,.all .spacingMark⟩, ⟨0x11CAA,0x11CB0,.all .nonspacingMark⟩,
  ⟨0x11CB1,0x11CB1,.all .spacingMark⟩, ⟨0x11CB2,0x11CB3,.all .nonspacingMark⟩,
  ⟨0x11CB4,0x11CB4,.all .spacingMark⟩, ⟨0x11CB5,0x11CB6,.all .nonspacingMark⟩,
  ⟨0x11D00,0x11D06,.all .otherLetter⟩, ⟨0x11D08,0x11D09,.all .otherLetter⟩,
  ⟨0x11D0B,0x11D30,.all .otherLetter⟩, ⟨0x11D31,0x11D36,.all .nonspacingMark⟩,
  ⟨0x11D3A,0x11D3A,.all .nonspacingMark⟩, ⟨0x11D3C,0x11D3D,.all .nonspacingMark⟩,
  ⟨0x11D3F,0x11D45,.all .nonspacingMark⟩, ⟨0x11D46,0x11D46,.all .otherLetter⟩,
  ⟨0x11D47,0x11D47,.all .nonspacingMark⟩, ⟨0x11D50,0x11D59,.all .decimalNumber⟩,
  ⟨0x11D60,0x11D65,.all .otherLetter⟩, ⟨0x11D67,0x11D68,.all .otherLetter⟩,
  ⟨0x11D6A,0x11D89,.all .otherLetter⟩, ⟨0x11D8A,0x11D8E,.all .spacingMark⟩,
  ⟨0x11D90,0x11D91,.all .nonspacingMark⟩, ⟨0x11D93,0x11D94,.all .spacingMark⟩,
  ⟨0x11D95,0x11D95,.all .nonspacingMark⟩, ⟨0x11D96,0x11D96,.all .spacingMark⟩,
  ⟨0x11D97,0x11D97,.all .nonspacingMark⟩, ⟨0x11D98,0x11D98,.all .otherLetter⟩,
  ⟨0x11DA0,0x11DA9,.all .decimalNumber⟩, ⟨0x11DB0,0x11DD8,.all .otherLetter⟩,
  ⟨0x11DD9,0x11DD9,.all .modifierLetter⟩, ⟨0x11DDA,0x11DDB,.all .otherLetter⟩,
  ⟨0x11DE0,0x11DE9,.all .decimalNumber⟩, ⟨0x11EE0,0x11EF2,.all .otherLetter⟩,
  ⟨0x11EF3,0x11EF4,.all .nonspacingMark⟩, ⟨0x11EF5,0x11EF6,.all .spacingMark⟩,
  ⟨0x11EF7,0x11EF8,.all .otherPunctuation⟩, ⟨0x11F00,0x11F01,.all .nonspacingMark⟩,
  ⟨0x11F02,0x11F02,.all .otherLetter⟩, ⟨0x11F03,0x11F03,.all .spacingMark⟩,
  ⟨0x11F04,0x11F10,.all .otherLetter⟩, ⟨0x11F12,0x11F33,.all .otherLetter⟩,
  ⟨0x11F34,0x11F35,.all .spacingMark⟩, ⟨0x11F36,0x11F3A,.all .nonspacingMark⟩,
  ⟨0x11F3E,0x11F3F,.all .spacingMark⟩, ⟨0x11F40,0x11F40,.all .nonspacingMark⟩,
  ⟨0x11F41,0x11F41,.all .spacingMark⟩, ⟨0x11F42,0x11F42,.all .nonspacingMark⟩,
  ⟨0x11F43,0x11F4F,.all .otherPunctuation⟩, ⟨0x11F50,0x11F59,.all .decimalNumber⟩,
  ⟨0x11F5A,0x11F5A,.all .nonspacingMark⟩, ⟨0x11FB0,0x11FB0,.all .otherLetter⟩,
  ⟨0x11FC0,0x11FD4,.all .otherNumber⟩, ⟨0x11FD5,0x11FDC,.all .otherSymbol⟩,
  ⟨0x11FDD,0x11FE0,.all .currencySymbol⟩, ⟨0x11FE1,0x11FF1,.all .otherSymbol⟩,
  ⟨0x11FFF,0x11FFF,.all .otherPunctuation⟩, ⟨0x12000,0x12399,.all .otherLetter⟩,
  ⟨0x12400,0x1246E,.all .letterNumber⟩, ⟨0x12470,0x12474,.all .otherPunctuation⟩,
  ⟨0x12480,0x12543,.all .otherLetter⟩, ⟨0x12F90,0x12FF0,.all .otherLetter⟩,
  ⟨0x12FF1,0x12FF2,.all .otherPunctuation⟩, ⟨0x13000,0x1342F,.all .otherLetter⟩,
  ⟨0x13430,0x1343F,.all .format⟩, ⟨0x13440,0x13440,.all .nonspacingMark⟩,
  ⟨0x13441,0x13446,.all .otherLetter⟩, ⟨0x13447,0x13455,.all .nonspacingMark⟩,
  ⟨0x13460,0x143FA,.all .otherLetter⟩, ⟨0x14400,0x14646,.all .otherLetter⟩,
  ⟨0x16100,0x1611D,.all .otherLetter⟩, ⟨0x1611E,0x16129,.all .nonspacingMark⟩,
  ⟨0x1612A,0x1612C,.all .spacingMark⟩, ⟨0x1612D,0x1612F,.all .nonspacingMark⟩,
  ⟨0x16130,0x16139,.all .decimalNumber⟩, ⟨0x16800,0x16A38,.all .otherLetter⟩]

def segments16A40 : List Segment := [
  ⟨0x16A40,0x16A5E,.all .otherLetter⟩, ⟨0x16A60,0x16A69,.all .decimalNumber⟩,
  ⟨0x16A6E,0x16A6F,.all .otherPunctuation⟩, ⟨0x16A70,0x16ABE,.all .otherLetter⟩,
  ⟨0x16AC0,0x16AC9,.all .decimalNumber⟩, ⟨0x16AD0,0x16AED,.all .otherLetter⟩,
  ⟨0x16AF0,0x16AF4,.all .nonspacingMark⟩, ⟨0x16AF5,0x16AF5,.all .otherPunctuation⟩,
  ⟨0x16B00,0x16B2F,.all .otherLetter⟩, ⟨0x16B30,0x16B36,.all .nonspacingMark⟩,
  ⟨0x16B37,0x16B3B,.all .otherPunctuation⟩, ⟨0x16B3C,0x16B3F,.all .otherSymbol⟩,
  ⟨0x16B40,0x16B43,.all .modifierLetter⟩, ⟨0x16B44,0x16B44,.all .otherPunctuation⟩,
  ⟨0x16B45,0x16B45,.all .otherSymbol⟩, ⟨0x16B50,0x16B59,.all .decimalNumber⟩,
  ⟨0x16B5B,0x16B61,.all .otherNumber⟩, ⟨0x16B63,0x16B77,.all .otherLetter⟩,
  ⟨0x16B7D,0x16B8F,.all .otherLetter⟩, ⟨0x16D40,0x16D42,.all .modifierLetter⟩,
  ⟨0x16D43,0x16D6A,.all .otherLetter⟩, ⟨0x16D6B,0x16D6C,.all .modifierLetter⟩,
  ⟨0x16D6D,0x16D6F,.all .otherPunctuation⟩, ⟨0x16D70,0x16D79,.all .decimalNumber⟩,
  ⟨0x16E40,0x16E5F,.all .uppercaseLetter⟩, ⟨0x16E60,0x16E7F,.all .lowercaseLetter⟩,
  ⟨0x16E80,0x16E96,.all .otherNumber⟩, ⟨0x16E97,0x16E9A,.all .otherPunctuation⟩,
  ⟨0x16EA0,0x16EB8,.all .uppercaseLetter⟩, ⟨0x16EBB,0x16ED3,.all .lowercaseLetter⟩,
  ⟨0x16F00,0x16F4A,.all .otherLetter⟩, ⟨0x16F4F,0x16F4F,.all .nonspacingMark⟩,
  ⟨0x16F50,0x16F50,.all .otherLetter⟩, ⟨0x16F51,0x16F87,.all .spacingMark⟩,
  ⟨0x16F8F,0x16F92,.all .nonspacingMark⟩, ⟨0x16F93,0x16F9F,.all .modifierLetter⟩,
  ⟨0x16FE0,0x16FE1,.all .modifierLetter⟩, ⟨0x16FE2,0x16FE2,.all .otherPunctuation⟩,
  ⟨0x16FE3,0x16FE3,.all .modifierLetter⟩, ⟨0x16FE4,0x16FE4,.all .nonspacingMark⟩,
  ⟨0x16FF0,0x16FF1,.all .spacingMark⟩, ⟨0x16FF2,0x16FF3,.all .modifierLetter⟩,
  ⟨0x16FF4,0x16FF6,.all .letterNumber⟩, ⟨0x17000,0x18CD5,.all .otherLetter⟩,
  ⟨0x18CFF,0x18D1E,.all .otherLetter⟩, ⟨0x18D80,0x18DF2,.all .otherLetter⟩,
  ⟨0x1AFF0,0x1AFF3,.all .modifierLetter⟩, ⟨0x1AFF5,0x1AFFB,.all .modifierLetter⟩,
  ⟨0x1AFFD,0x1AFFE,.all .modifierLetter⟩, ⟨0x1B000,0x1B122,.all .otherLetter⟩,
  ⟨0x1B132,0x1B132,.all .otherLetter⟩, ⟨0x1B150,0x1B152,.all .otherLetter⟩,
  ⟨0x1B155,0x1B155,.all .otherLetter⟩, ⟨0x1B164,0x1B167,.all .otherLetter⟩,
  ⟨0x1B170,0x1B2FB,.all .otherLetter⟩, ⟨0x1BC00,0x1BC6A,.all .otherLetter⟩,
  ⟨0x1BC70,0x1BC7C,.all .otherLetter⟩, ⟨0x1BC80,0x1BC88,.all .otherLetter⟩,
  ⟨0x1BC90,0x1BC99,.all .otherLetter⟩, ⟨0x1BC9C,0x1BC9C,.all .otherSymbol⟩,
  ⟨0x1BC9D,0x1BC9E,.all .nonspacingMark⟩, ⟨0x1BC9F,0x1BC9F,.all .otherPunctuation⟩,
  ⟨0x1BCA0,0x1BCA3,.all .format⟩, ⟨0x1CC00,0x1CCEF,.all .otherSymbol⟩,
  ⟨0x1CCF0,0x1CCF9,.all .decimalNumber⟩, ⟨0x1CCFA,0x1CCFC,.all .otherSymbol⟩,
  ⟨0x1CD00,0x1CEB3,.all .otherSymbol⟩, ⟨0x1CEBA,0x1CED0,.all .otherSymbol⟩,
  ⟨0x1CEE0,0x1CEEF,.all .otherSymbol⟩, ⟨0x1CEF0,0x1CEF0,.all .mathSymbol⟩,
  ⟨0x1CF00,0x1CF2D,.all .nonspacingMark⟩, ⟨0x1CF30,0x1CF46,.all .nonspacingMark⟩,
  ⟨0x1CF50,0x1CFC3,.all .otherSymbol⟩, ⟨0x1D000,0x1D0F5,.all .otherSymbol⟩,
  ⟨0x1D100,0x1D126,.all .otherSymbol⟩, ⟨0x1D129,0x1D164,.all .otherSymbol⟩,
  ⟨0x1D165,0x1D166,.all .spacingMark⟩, ⟨0x1D167,0x1D169,.all .nonspacingMark⟩,
  ⟨0x1D16A,0x1D16C,.all .otherSymbol⟩, ⟨0x1D16D,0x1D172,.all .spacingMark⟩,
  ⟨0x1D173,0x1D17A,.all .format⟩, ⟨0x1D17B,0x1D182,.all .nonspacingMark⟩,
  ⟨0x1D183,0x1D184,.all .otherSymbol⟩, ⟨0x1D185,0x1D18B,.all .nonspacingMark⟩,
  ⟨0x1D18C,0x1D1A9,.all .otherSymbol⟩, ⟨0x1D1AA,0x1D1AD,.all .nonspacingMark⟩,
  ⟨0x1D1AE,0x1D1EA,.all .otherSymbol⟩, ⟨0x1D200,0x1D241,.all .otherSymbol⟩,
  ⟨0x1D242,0x1D244,.all .nonspacingMark⟩, ⟨0x1D245,0x1D245,.all .otherSymbol⟩,
  ⟨0x1D2C0,0x1D2D3,.all .otherNumber⟩, ⟨0x1D2E0,0x1D2F3,.all .otherNumber⟩,
  ⟨0x1D300,0x1D356,.all .otherSymbol⟩, ⟨0x1D360,0x1D378,.all .otherNumber⟩,
  ⟨0x1D400,0x1D419,.all .uppercaseLetter⟩, ⟨0x1D41A,0x1D433,.all .lowercaseLetter⟩,
  ⟨0x1D434,0x1D44D,.all .uppercaseLetter⟩, ⟨0x1D44E,0x1D454,.all .lowercaseLetter⟩,
  ⟨0x1D456,0x1D467,.all .lowercaseLetter⟩, ⟨0x1D468,0x1D481,.all .uppercaseLetter⟩,
  ⟨0x1D482,0x1D49B,.all .lowercaseLetter⟩, ⟨0x1D49C,0x1D49C,.all .uppercaseLetter⟩,
  ⟨0x1D49E,0x1D49F,.all .uppercaseLetter⟩, ⟨0x1D4A2,0x1D4A2,.all .uppercaseLetter⟩,
  ⟨0x1D4A5,0x1D4A6,.all .uppercaseLetter⟩, ⟨0x1D4A9,0x1D4AC,.all .uppercaseLetter⟩,
  ⟨0x1D4AE,0x1D4B5,.all .uppercaseLetter⟩, ⟨0x1D4B6,0x1D4B9,.all .lowercaseLetter⟩,
  ⟨0x1D4BB,0x1D4BB,.all .lowercaseLetter⟩, ⟨0x1D4BD,0x1D4C3,.all .lowercaseLetter⟩,
  ⟨0x1D4C5,0x1D4CF,.all .lowercaseLetter⟩, ⟨0x1D4D0,0x1D4E9,.all .uppercaseLetter⟩,
  ⟨0x1D4EA,0x1D503,.all .lowercaseLetter⟩, ⟨0x1D504,0x1D505,.all .uppercaseLetter⟩,
  ⟨0x1D507,0x1D50A,.all .uppercaseLetter⟩, ⟨0x1D50D,0x1D514,.all .uppercaseLetter⟩,
  ⟨0x1D516,0x1D51C,.all .uppercaseLetter⟩, ⟨0x1D51E,0x1D537,.all .lowercaseLetter⟩,
  ⟨0x1D538,0x1D539,.all .uppercaseLetter⟩, ⟨0x1D53B,0x1D53E,.all .uppercaseLetter⟩,
  ⟨0x1D540,0x1D544,.all .uppercaseLetter⟩, ⟨0x1D546,0x1D546,.all .uppercaseLetter⟩,
  ⟨0x1D54A,0x1D550,.all .uppercaseLetter⟩, ⟨0x1D552,0x1D56B,.all .lowercaseLetter⟩,
  ⟨0x1D56C,0x1D585,.all .uppercaseLetter⟩, ⟨0x1D586,0x1D59F,.all .lowercaseLetter⟩,
  ⟨0x1D5A0,0x1D5B9,.all .uppercaseLetter⟩, ⟨0x1D5BA,0x1D5D3,.all .lowercaseLetter⟩,
  ⟨0x1D5D4,0x1D5ED,.all .uppercaseLetter⟩, ⟨0x1D5EE,0x1D607,.all .lowercaseLetter⟩,
  ⟨0x1D608,0x1D621,.all .uppercaseLetter⟩, ⟨0x1D622,0x1D63B,.all .lowercaseLetter⟩,
  ⟨0x1D63C,0x1D655,.all .uppercaseLetter⟩, ⟨0x1D656,0x1D66F,.all .lowercaseLetter⟩,
  ⟨0x1D670,0x1D689,.all .uppercaseLetter⟩, ⟨0x1D68A,0x1D6A5,.all .lowercaseLetter⟩,
  ⟨0x1D6A8,0x1D6C0,.all .uppercaseLetter⟩, ⟨0x1D6C1,0x1D6C1,.all .mathSymbol⟩,
  ⟨0x1D6C2,0x1D6DA,.all .lowercaseLetter⟩, ⟨0x1D6DB,0x1D6DB,.all .mathSymbol⟩,
  ⟨0x1D6DC,0x1D6E1,.all .lowercaseLetter⟩, ⟨0x1D6E2,0x1D6FA,.all .uppercaseLetter⟩,
  ⟨0x1D6FB,0x1D6FB,.all .mathSymbol⟩, ⟨0x1D6FC,0x1D714,.all .lowercaseLetter⟩,
  ⟨0x1D715,0x1D715,.all .mathSymbol⟩, ⟨0x1D716,0x1D71B,.all .lowercaseLetter⟩,
  ⟨0x1D71C,0x1D734,.all .uppercaseLetter⟩, ⟨0x1D735,0x1D735,.all .mathSymbol⟩,
  ⟨0x1D736,0x1D74E,.all .lowercaseLetter⟩, ⟨0x1D74F,0x1D74F,.all .mathSymbol⟩]

def segments1D750 : List Segment := [
  ⟨0x1D750,0x1D755,.all .lowercaseLetter⟩, ⟨0x1D756,0x1D76E,.all .uppercaseLetter⟩,
  ⟨0x1D76F,0x1D76F,.all .mathSymbol⟩, ⟨0x1D770,0x1D788,.all .lowercaseLetter⟩,
  ⟨0x1D789,0x1D789,.all .mathSymbol⟩, ⟨0x1D78A,0x1D78F,.all .lowercaseLetter⟩,
  ⟨0x1D790,0x1D7A8,.all .uppercaseLetter⟩, ⟨0x1D7A9,0x1D7A9,.all .mathSymbol⟩,
  ⟨0x1D7AA,0x1D7C2,.all .lowercaseLetter⟩, ⟨0x1D7C3,0x1D7C3,.all .mathSymbol⟩,
  ⟨0x1D7C4,0x1D7C9,.all .lowercaseLetter⟩, ⟨0x1D7CA,0x1D7CA,.all .uppercaseLetter⟩,
  ⟨0x1D7CB,0x1D7CB,.all .lowercaseLetter⟩, ⟨0x1D7CE,0x1D7FF,.all .decimalNumber⟩,
  ⟨0x1D800,0x1D9FF,.all .otherSymbol⟩, ⟨0x1DA00,0x1DA36,.all .nonspacingMark⟩,
  ⟨0x1DA37,0x1DA3A,.all .otherSymbol⟩, ⟨0x1DA3B,0x1DA6C,.all .nonspacingMark⟩,
  ⟨0x1DA6D,0x1DA74,.all .otherSymbol⟩, ⟨0x1DA75,0x1DA75,.all .nonspacingMark⟩,
  ⟨0x1DA76,0x1DA83,.all .otherSymbol⟩, ⟨0x1DA84,0x1DA84,.all .nonspacingMark⟩,
  ⟨0x1DA85,0x1DA86,.all .otherSymbol⟩, ⟨0x1DA87,0x1DA8B,.all .otherPunctuation⟩,
  ⟨0x1DA9B,0x1DA9F,.all .nonspacingMark⟩, ⟨0x1DAA1,0x1DAAF,.all .nonspacingMark⟩,
  ⟨0x1DF00,0x1DF09,.all .lowercaseLetter⟩, ⟨0x1DF0A,0x1DF0A,.all .otherLetter⟩,
  ⟨0x1DF0B,0x1DF1E,.all .lowercaseLetter⟩, ⟨0x1DF25,0x1DF2A,.all .lowercaseLetter⟩,
  ⟨0x1E000,0x1E006,.all .nonspacingMark⟩, ⟨0x1E008,0x1E018,.all .nonspacingMark⟩,
  ⟨0x1E01B,0x1E021,.all .nonspacingMark⟩, ⟨0x1E023,0x1E024,.all .nonspacingMark⟩,
  ⟨0x1E026,0x1E02A,.all .nonspacingMark⟩, ⟨0x1E030,0x1E06D,.all .modifierLetter⟩,
  ⟨0x1E08F,0x1E08F,.all .nonspacingMark⟩, ⟨0x1E100,0x1E12C,.all .otherLetter⟩,
  ⟨0x1E130,0x1E136,.all .nonspacingMark⟩, ⟨0x1E137,0x1E13D,.all .modifierLetter⟩,
  ⟨0x1E140,0x1E149,.all .decimalNumber⟩, ⟨0x1E14E,0x1E14E,.all .otherLetter⟩,
  ⟨0x1E14F,0x1E14F,.all .otherSymbol⟩, ⟨0x1E290,0x1E2AD,.all .otherLetter⟩,
  ⟨0x1E2AE,0x1E2AE,.all .nonspacingMark⟩, ⟨0x1E2C0,0x1E2EB,.all .otherLetter⟩,
  ⟨0x1E2EC,0x1E2EF,.all .nonspacingMark⟩, ⟨0x1E2F0,0x1E2F9,.all .decimalNumber⟩,
  ⟨0x1E2FF,0x1E2FF,.all .currencySymbol⟩, ⟨0x1E4D0,0x1E4EA,.all .otherLetter⟩,
  ⟨0x1E4EB,0x1E4EB,.all .modifierLetter⟩, ⟨0x1E4EC,0x1E4EF,.all .nonspacingMark⟩,
  ⟨0x1E4F0,0x1E4F9,.all .decimalNumber⟩, ⟨0x1E5D0,0x1E5ED,.all .otherLetter⟩,
  ⟨0x1E5EE,0x1E5EF,.all .nonspacingMark⟩, ⟨0x1E5F0,0x1E5F0,.all .otherLetter⟩,
  ⟨0x1E5F1,0x1E5FA,.all .decimalNumber⟩, ⟨0x1E5FF,0x1E5FF,.all .otherPunctuation⟩,
  ⟨0x1E6C0,0x1E6DE,.all .otherLetter⟩, ⟨0x1E6E0,0x1E6E2,.all .otherLetter⟩,
  ⟨0x1E6E3,0x1E6E3,.all .nonspacingMark⟩, ⟨0x1E6E4,0x1E6E5,.all .otherLetter⟩,
  ⟨0x1E6E6,0x1E6E6,.all .nonspacingMark⟩, ⟨0x1E6E7,0x1E6ED,.all .otherLetter⟩,
  ⟨0x1E6EE,0x1E6EF,.all .nonspacingMark⟩, ⟨0x1E6F0,0x1E6F4,.all .otherLetter⟩,
  ⟨0x1E6F5,0x1E6F5,.all .nonspacingMark⟩, ⟨0x1E6FE,0x1E6FE,.all .otherLetter⟩,
  ⟨0x1E6FF,0x1E6FF,.all .modifierLetter⟩, ⟨0x1E7E0,0x1E7E6,.all .otherLetter⟩,
  ⟨0x1E7E8,0x1E7EB,.all .otherLetter⟩, ⟨0x1E7ED,0x1E7EE,.all .otherLetter⟩,
  ⟨0x1E7F0,0x1E7FE,.all .otherLetter⟩, ⟨0x1E800,0x1E8C4,.all .otherLetter⟩,
  ⟨0x1E8C7,0x1E8CF,.all .otherNumber⟩, ⟨0x1E8D0,0x1E8D6,.all .nonspacingMark⟩,
  ⟨0x1E900,0x1E921,.all .uppercaseLetter⟩, ⟨0x1E922,0x1E943,.all .lowercaseLetter⟩,
  ⟨0x1E944,0x1E94A,.all .nonspacingMark⟩, ⟨0x1E94B,0x1E94B,.all .modifierLetter⟩,
  ⟨0x1E950,0x1E959,.all .decimalNumber⟩, ⟨0x1E95E,0x1E95F,.all .otherPunctuation⟩,
  ⟨0x1EC71,0x1ECAB,.all .otherNumber⟩, ⟨0x1ECAC,0x1ECAC,.all .otherSymbol⟩,
  ⟨0x1ECAD,0x1ECAF,.all .otherNumber⟩, ⟨0x1ECB0,0x1ECB0,.all .currencySymbol⟩,
  ⟨0x1ECB1,0x1ECB4,.all .otherNumber⟩, ⟨0x1ED01,0x1ED2D,.all .otherNumber⟩,
  ⟨0x1ED2E,0x1ED2E,.all .otherSymbol⟩, ⟨0x1ED2F,0x1ED3D,.all .otherNumber⟩,
  ⟨0x1EE00,0x1EE03,.all .otherLetter⟩, ⟨0x1EE05,0x1EE1F,.all .otherLetter⟩,
  ⟨0x1EE21,0x1EE22,.all .otherLetter⟩, ⟨0x1EE24,0x1EE24,.all .otherLetter⟩,
  ⟨0x1EE27,0x1EE27,.all .otherLetter⟩, ⟨0x1EE29,0x1EE32,.all .otherLetter⟩,
  ⟨0x1EE34,0x1EE37,.all .otherLetter⟩, ⟨0x1EE39,0x1EE39,.all .otherLetter⟩,
  ⟨0x1EE3B,0x1EE3B,.all .otherLetter⟩, ⟨0x1EE42,0x1EE42,.all .otherLetter⟩,
  ⟨0x1EE47,0x1EE47,.all .otherLetter⟩, ⟨0x1EE49,0x1EE49,.all .otherLetter⟩,
  ⟨0x1EE4B,0x1EE4B,.all .otherLetter⟩, ⟨0x1EE4D,0x1EE4F,.all .otherLetter⟩,
  ⟨0x1EE51,0x1EE52,.all .otherLetter⟩, ⟨0x1EE54,0x1EE54,.all .otherLetter⟩,
  ⟨0x1EE57,0x1EE57,.all .otherLetter⟩, ⟨0x1EE59,0x1EE59,.all .otherLetter⟩,
  ⟨0x1EE5B,0x1EE5B,.all .otherLetter⟩, ⟨0x1EE5D,0x1EE5D,.all .otherLetter⟩,
  ⟨0x1EE5F,0x1EE5F,.all .otherLetter⟩, ⟨0x1EE61,0x1EE62,.all .otherLetter⟩,
  ⟨0x1EE64,0x1EE64,.all .otherLetter⟩, ⟨0x1EE67,0x1EE6A,.all .otherLetter⟩,
  ⟨0x1EE6C,0x1EE72,.all .otherLetter⟩, ⟨0x1EE74,0x1EE77,.all .otherLetter⟩,
  ⟨0x1EE79,0x1EE7C,.all .otherLetter⟩, ⟨0x1EE7E,0x1EE7E,.all .otherLetter⟩,
  ⟨0x1EE80,0x1EE89,.all .otherLetter⟩, ⟨0x1EE8B,0x1EE9B,.all .otherLetter⟩,
  ⟨0x1EEA1,0x1EEA3,.all .otherLetter⟩, ⟨0x1EEA5,0x1EEA9,.all .otherLetter⟩,
  ⟨0x1EEAB,0x1EEBB,.all .otherLetter⟩, ⟨0x1EEF0,0x1EEF1,.all .mathSymbol⟩,
  ⟨0x1F000,0x1F02B,.all .otherSymbol⟩, ⟨0x1F030,0x1F093,.all .otherSymbol⟩,
  ⟨0x1F0A0,0x1F0AE,.all .otherSymbol⟩, ⟨0x1F0B1,0x1F0BF,.all .otherSymbol⟩,
  ⟨0x1F0C1,0x1F0CF,.all .otherSymbol⟩, ⟨0x1F0D1,0x1F0F5,.all .otherSymbol⟩,
  ⟨0x1F100,0x1F10C,.all .otherNumber⟩, ⟨0x1F10D,0x1F1AD,.all .otherSymbol⟩,
  ⟨0x1F1E6,0x1F202,.all .otherSymbol⟩, ⟨0x1F210,0x1F23B,.all .otherSymbol⟩,
  ⟨0x1F240,0x1F248,.all .otherSymbol⟩, ⟨0x1F250,0x1F251,.all .otherSymbol⟩,
  ⟨0x1F260,0x1F265,.all .otherSymbol⟩, ⟨0x1F300,0x1F3FA,.all .otherSymbol⟩,
  ⟨0x1F3FB,0x1F3FF,.all .modifierSymbol⟩, ⟨0x1F400,0x1F6D8,.all .otherSymbol⟩,
  ⟨0x1F6DC,0x1F6EC,.all .otherSymbol⟩, ⟨0x1F6F0,0x1F6FC,.all .otherSymbol⟩,
  ⟨0x1F700,0x1F7D9,.all .otherSymbol⟩, ⟨0x1F7E0,0x1F7EB,.all .otherSymbol⟩,
  ⟨0x1F7F0,0x1F7F0,.all .otherSymbol⟩, ⟨0x1F800,0x1F80B,.all .otherSymbol⟩,
  ⟨0x1F810,0x1F847,.all .otherSymbol⟩, ⟨0x1F850,0x1F859,.all .otherSymbol⟩,
  ⟨0x1F860,0x1F887,.all .otherSymbol⟩, ⟨0x1F890,0x1F8AD,.all .otherSymbol⟩]

def segments1F8B0 : List Segment := [
  ⟨0x1F8B0,0x1F8BB,.all .otherSymbol⟩, ⟨0x1F8C0,0x1F8C1,.all .otherSymbol⟩,
  ⟨0x1F8D0,0x1F8D8,.all .mathSymbol⟩, ⟨0x1F900,0x1FA57,.all .otherSymbol⟩,
  ⟨0x1FA60,0x1FA6D,.all .otherSymbol⟩, ⟨0x1FA70,0x1FA7C,.all .otherSymbol⟩,
  ⟨0x1FA80,0x1FA8A,.all .otherSymbol⟩, ⟨0x1FA8E,0x1FAC6,.all .otherSymbol⟩,
  ⟨0x1FAC8,0x1FAC8,.all .otherSymbol⟩, ⟨0x1FACD,0x1FADC,.all .otherSymbol⟩,
  ⟨0x1FADF,0x1FAEA,.all .otherSymbol⟩, ⟨0x1FAEF,0x1FAF8,.all .otherSymbol⟩,
  ⟨0x1FB00,0x1FB92,.all .otherSymbol⟩, ⟨0x1FB94,0x1FBEF,.all .otherSymbol⟩,
  ⟨0x1FBF0,0x1FBF9,.all .decimalNumber⟩, ⟨0x1FBFA,0x1FBFA,.all .otherSymbol⟩,
  ⟨0x20000,0x2A6DF,.all .otherLetter⟩, ⟨0x2A700,0x2B81D,.all .otherLetter⟩,
  ⟨0x2B820,0x2CEAD,.all .otherLetter⟩, ⟨0x2CEB0,0x2EBE0,.all .otherLetter⟩,
  ⟨0x2EBF0,0x2EE5D,.all .otherLetter⟩, ⟨0x2F800,0x2FA1D,.all .otherLetter⟩,
  ⟨0x30000,0x3134A,.all .otherLetter⟩, ⟨0x31350,0x33479,.all .otherLetter⟩,
  ⟨0xE0001,0xE0001,.all .format⟩, ⟨0xE0020,0xE007F,.all .format⟩,
  ⟨0xE0100,0xE01EF,.all .nonspacingMark⟩, ⟨0xF0000,0xFFFFD,.all .privateUse⟩,
  ⟨0x100000,0x10FFFD,.all .privateUse⟩]

def segments : List Segment :=
  segments0000 ++ segments0300 ++ segments094E ++ segments0C5C ++ segments105E ++ segments1ABF ++ segments203B ++
  segments27E8 ++ segments3008 ++ segmentsA882 ++ segmentsFE38 ++ segments10808 ++ segments111D0 ++ segments118C0 ++
  segments16A40 ++ segments1D750 ++ segments1F8B0

end Marking.Text.Category

namespace Marking.Text

def category (c : Char) : Category := Category.find Category.segments c.toNat

end Marking.Text
