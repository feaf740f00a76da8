import Stencil.Unicode.BinaryProperty

/-!
This module contains the classes of characters by which text is cut into graphemes, words and
sentences (Unicode 16).
-/

namespace Stencil

structure BreakClass where
  names : List String
  set : CharSet
  deriving Repr, DecidableEq, Inhabited

namespace BreakClass

def carriageReturn : BreakClass := ⟨["cr"], .single '\r'⟩

def lineFeed : BreakClass := ⟨["lf"], .single '\n'⟩

def joiner : BreakClass := ⟨["zwj"], .ofText "200d"⟩

def regionalIndicator : BreakClass :=
  ⟨["regionalindicator", "ri"], BinaryProperty.regionalIndicator⟩

def graphemeExtend : CharSet :=
  .union BinaryProperty.graphemeExtend BinaryProperty.emojiModifier

def graphemeControl : CharSet :=
  .diff (.anyOf [Category.lineSeparator.set, Category.paragraphSeparator.set, Category.control.set,
      Category.format.set, .inter Category.unassigned.set BinaryProperty.defaultIgnorable])
    (.anyOf [.ofText "a d 200c-200d", BinaryProperty.prependedMark, BinaryProperty.graphemeExtend])

def graphemeSpacingMark : CharSet :=
  .diff (.union Category.spacingMark.set (.ofText "e33 eb3")) (.union graphemeExtend standing)
where
  standing : CharSet := .ofText
    "102b-102c 1038 1062-1064 1067-106d 1083 1087-108c 108f 109a-109c 1a61 1a63-1a64 aa7b aa7d
     11720-11721"

def graphemePrepend : CharSet := .ofText
  "600-605 6dd 70f 890-891 8e2 d4e 110bd 110cd 111c2-111c3 113d1 1193f 11941 11a3a 11a84-11a89
   11d46 11f02"

def openSyllable : CharSet := .ofText
  "ac00-d788/1c"

def graphemeClasses : List BreakClass :=
  [carriageReturn, lineFeed, joiner, regionalIndicator,
   ⟨["control", "cn"], graphemeControl⟩,
   ⟨["extend", "ex"], graphemeExtend⟩,
   ⟨["prepend", "pp"], graphemePrepend⟩,
   ⟨["spacingmark", "sm"], graphemeSpacingMark⟩,
   ⟨["l"], .ofText "1100-115f a960-a97c"⟩,
   ⟨["v"], .ofText "1160-11a7 d7b0-d7c6 16d63 16d67-16d6a"⟩,
   ⟨["t"], .ofText "11a8-11ff d7cb-d7fb"⟩,
   ⟨["lv"], openSyllable⟩,
   ⟨["lvt"], .diff (.ofText "ac00-d7a3") openSyllable⟩]

def katakana : CharSet := .ofText
  "3031-3035 309b-309c 30a0-30fa 30fc-30ff 31f0-31ff 32d0-32fe 3300-3357 ff66-ff9d 1aff0-1aff3
   1aff5-1affb 1affd-1affe 1b000 1b120-1b122 1b155 1b164-1b167"

def hebrewLetter : CharSet := .ofText
  "5d0-5ea 5ef-5f2 fb1d fb1f-fb28 fb2a-fb36 fb38-fb3c fb3e fb40-fb41 fb43-fb44 fb46-fb4f"

def wordExtend : CharSet :=
  .diff (.anyOf [BinaryProperty.graphemeExtend, Category.spacingMark.set,
      BinaryProperty.emojiModifier])
    joiner.set

def wordLetter : CharSet :=
  .diff (.union BinaryProperty.alphabetic others)
    (.anyOf [BinaryProperty.ideographic, katakana, hebrewLetter, wordExtend, unparted])
where
  others : CharSet := .ofText
    "2c2-2c5 2d2-2d7 2de-2df 2e5-2eb 2ed 2ef-2ff 55a-55c 55e 58a 5f3 70f a708-a716 a720-a721
     a789-a78a ab5b"
  unparted : CharSet := .ofText
    "e01-e30 e32-e33 e40-e46 e81-e82 e84 e86-e8a e8c-ea3 ea5 ea7-eb0 eb2-eb3 ebd ec0-ec4 ec6
     edc-edf 1000-102a 103f 1050-1055 105a-105d 1061 1065-1066 106e-1070 1075-1081 108e 1780-17b3
     17d7 17dc 1950-196d 1970-1974 1980-19ab 19b0-19c9 1a20-1a54 1aa7 3041-3096 309d-309f
     a9e0-a9e4 a9e6-a9ef a9fa-a9fe aa60-aa76 aa7a aa7e-aaaf aab1 aab5-aab6 aab9-aabd aac0 aac2
     aadb-aadd 11700-1171a 11740-11746 1b001-1b11f 1b132 1b150-1b152"

def numeric : CharSet :=
  .union Category.decimalNumber.set
    (.ofText "600-605 66b 6dd 890-891 8e2 19da 110bd 110cd")

def wordClasses : List BreakClass :=
  [carriageReturn, lineFeed, joiner, regionalIndicator,
   ⟨["newline", "nl"], .ofText "b-c 85 2028-2029"⟩,
   ⟨["extend"], wordExtend⟩,
   ⟨["format", "fo"], .diff Category.format.set
    (.ofText "600-605 6dd 70f 890-891 8e2 200b-200d 110bd 110cd e0020-e007f")⟩,
   ⟨["katakana", "ka"], katakana⟩,
   ⟨["hebrewletter", "hl"], hebrewLetter⟩,
   ⟨["aletter", "le"], wordLetter⟩,
   ⟨["singlequote", "sq"], .ofText "27"⟩,
   ⟨["doublequote", "dq"], .ofText "22"⟩,
   ⟨["midnumlet", "mb"], .ofText "2e 2018-2019 2024 fe52 ff07 ff0e"⟩,
   ⟨["midletter", "ml"], .ofText "3a b7 387 55f 5f4 2027 fe13 fe55 ff1a"⟩,
   ⟨["midnum", "mn"], .ofText "2c 3b 37e 589 60c-60d 66c 7f8 2044 fe50 fe54 ff0c ff1b"⟩,
   ⟨["numeric", "nu"], numeric⟩,
   ⟨["extendnumlet", "ex"], .union Category.connectorPunctuation.set (.ofText "202f")⟩,
   ⟨["wsegspace"], .ofText "20 1680 2000-2006 2008-200a 205f 3000"⟩]

def sentenceExtend : CharSet :=
  .anyOf [BinaryProperty.graphemeExtend, Category.spacingMark.set, joiner.set]

def sentenceLower : CharSet :=
  .diff BinaryProperty.lowercase
    (.union BinaryProperty.graphemeExtend (.ofText "10d0-10fa 10fd-10ff"))

def sentenceUpper : CharSet :=
  .diff (.union BinaryProperty.uppercase Category.titlecaseLetter.set)
    (.ofText "1c90-1cba 1cbd-1cbf")

def fullStop : CharSet := .ofText
  "2e 2024 fe52 ff0e"

def separator : CharSet := .ofText
  "85 2028-2029"

def sentenceClasses : List BreakClass :=
  [carriageReturn, lineFeed,
   ⟨["sep", "se"], separator⟩,
   ⟨["sp"], .diff BinaryProperty.blank (.anyOf [separator, .single '\r', .single '\n'])⟩,
   ⟨["extend", "ex"], sentenceExtend⟩,
   ⟨["format", "fo"], .diff Category.format.set
    (.ofText "600-605 6dd 890-891 8e2 200c-200d 110bd 110cd e0020-e007f")⟩,
   ⟨["lower", "lo"], sentenceLower⟩,
   ⟨["upper", "up"], sentenceUpper⟩,
   ⟨["oletter", "le"], .diff (.union BinaryProperty.alphabetic (.ofText "5f3"))
    (.anyOf [sentenceLower, sentenceUpper, sentenceExtend])⟩,
   ⟨["numeric", "nu"], .union numeric (.ofText "66c")⟩,
   ⟨["aterm", "at"], fullStop⟩,
   ⟨["sterm", "st"], .diff BinaryProperty.sentenceTerminal fullStop⟩,
   ⟨["close", "cl"],
    .ofText "22 27-29 5b 5d 7b 7d ab bb f3a-f3d 169b-169c 2018-201f 2039-203a 2045-2046 207d-207e
             208d-208e 2308-230b 2329-232a 275b-2760 2768-2775 27c5-27c6 27e6-27ef 2983-2998
             29d8-29db 29fc-29fd 2e00-2e0d 2e1c-2e1d 2e20-2e29 2e42 2e55-2e5c 3008-3011 3014-301b
             301d-301f fd3e-fd3f fe17-fe18 fe35-fe44 fe47-fe48 fe59-fe5e ff08-ff09 ff3b ff3d ff5b
             ff5d ff5f-ff60 ff62-ff63 1f676-1f678"⟩,
   ⟨["scontinue", "sc"],
    .ofText "2c-2d 3a-3b 37e 55d 60c-60d 7f8 1802 1808 2013-2014 3001 fe10-fe11 fe13-fe14
             fe31-fe32 fe50-fe51 fe54-fe55 fe58 fe63 ff0c-ff0d ff1a-ff1b ff64"⟩]

def find? (classes : List BreakClass) (name : String) : Option BreakClass :=
  classes.find? (·.names.contains name)

end BreakClass

end Stencil
