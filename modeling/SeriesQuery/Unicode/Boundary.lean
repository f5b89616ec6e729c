import SeriesQuery.Unicode.Property

/-! # Classes of the boundary rules

The rules that find the boundaries of user-perceived characters, words and sentences divide the
characters into classes. A class follows from other properties where the standard has a rule for it.
-/

namespace SeriesQuery.Unicode

open Ranges

/-- The Hangul syllables whose last consonant has a number from `first` to `last`; zero is none. -/
private def syllables (first last : Nat) : Ranges :=
  (List.range 399).map fun k => (0xAC00 + 28 * k + first, 0xAC00 + 28 * k + last)

private def graphemeExtension : Ranges := union graphemeExtend (listed "emod")

/-- Spacing marks but for those that begin a character of their own. -/
private def graphemeSpacing : Ranges :=
  union (.ofText "E33 EB3") (diff (categoryRanges ["mc"]) (.ofText
      "9BE 9D7 B3E B57 BBE BD7 CC0 CC2 CC7-CC8 CCA-CCB CD5-CD6 D3E D57 DCF DDF 102B-102C 1038
      1062-1064 1067-106D 1083 1087-108C 108F 109A-109C 1715 1734 1A61 1A63-1A64 1B35 1B3B 1B3D
      1B43-1B44 1BAA 1BF2-1BF3 302E-302F A953 A9C0 AA7B AA7D 111C0 11235 1133E 1134D 11357
      113B8 113C2 113C5 113C7-113C9 113CF 114B0 114BD 115AF 116B6 11720-11721 11930 1193D 11F41
      16FF0-16FF1 1D165-1D166 1D16D-1D172"))

def graphemeBreaks : List NamedRanges := [
  ⟨["cr"], .ofText "D"⟩,
  ⟨["lf"], .ofText "A"⟩,
  ⟨["cn", "control"], .ofText
    "0-9 B-C E-1F 7F-9F AD 61C 180E 200B 200E-200F 2028-202E 2060-206F FEFF FFF0-FFFB
    13430-1343F 1BCA0-1BCA3 1D173-1D17A E0000-E001F E0080-E00FF E01F0-E0FFF"⟩,
  ⟨["ex", "extend"], graphemeExtension⟩,
  ⟨["zwj"], .ofText "200D"⟩,
  ⟨["ri", "regionalindicator"], listed "ri"⟩,
  ⟨["pp", "prepend"], .ofText
    "600-605 6DD 70F 890-891 8E2 D4E 110BD 110CD 111C2-111C3 113D1 1193F 11941 11A3A 11A84-11A89
    11D46 11F02"⟩,
  ⟨["sm", "spacingmark"], graphemeSpacing⟩,
  ⟨["l"], .ofText "1100-115F A960-A97C"⟩,
  ⟨["v"], .ofText "1160-11A7 D7B0-D7C6 16D63 16D67-16D6A"⟩,
  ⟨["t"], .ofText "11A8-11FF D7CB-D7FB"⟩,
  ⟨["lv"], syllables 0 0⟩,
  ⟨["lvt"], syllables 1 27⟩
]

private def wordExtension : Ranges :=
  union graphemeExtend (categoryRanges ["mc"] ++ listed "emod")

private def wordKatakana : Ranges := .ofText
    "3031-3035 309B-309C 30A0-30FA 30FC-30FF 31F0-31FF 32D0-32FE 3300-3357 FF66-FF9D 1AFF0-1AFF3
    1AFF5-1AFFB 1AFFD-1AFFE 1B000 1B120-1B122 1B155 1B164-1B167"

private def hebrewLetters : Ranges := .ofText
    "5D0-5EA 5EF-5F2 FB1D FB1F-FB28 FB2A-FB36 FB38-FB3C FB3E FB40-FB41 FB43-FB44 FB46-FB4F"

/-- Letters that make up words: neither ideographs nor letters of scripts without blanks. -/
private def wordLetters : Ranges :=
  union (.ofText
      "2C2-2C5 2D2-2D7 2DE-2DF 2E5-2EB 2ED 2EF-2FF 55A-55C 55E 58A 5F3 70F A708-A716 A720-A721
      A789-A78A AB5B")
    (diff (diff alphabetic (union (wordExtension ++ wordKatakana) (hebrewLetters ++ listed "ideo")))
      (.ofText
        "E01-E30 E32-E33 E40-E46 E81-E82 E84 E86-E8A E8C-EA3 EA5 EA7-EB0 EB2-EB3 EBD EC0-EC4 EC6
        EDC-EDF 1000-102A 103F 1050-1055 105A-105D 1061 1065-1066 106E-1070 1075-1081 108E
        1780-17B3 17D7 17DC 1950-196D 1970-1974 1980-19AB 19B0-19C9 1A20-1A54 1AA7 3041-3096
        309D-309F A9E0-A9E4 A9E6-A9EF A9FA-A9FE AA60-AA76 AA7A AA7E-AAAF AAB1 AAB5-AAB6
        AAB9-AABD AAC0 AAC2 AADB-AADD 11700-1171A 11740-11746 1B001-1B11F 1B132 1B150-1B152"))

def wordBreaks : List NamedRanges := [
  ⟨["cr"], .ofText "D"⟩,
  ⟨["lf"], .ofText "A"⟩,
  ⟨["nl", "newline"], .ofText "B-C 85 2028-2029"⟩,
  ⟨["extend"], wordExtension⟩,
  ⟨["zwj"], .ofText "200D"⟩,
  ⟨["fo", "format"], .ofText
    "AD 61C 180E 200E-200F 202A-202E 2060-2064 2066-206F FEFF FFF9-FFFB 13430-1343F 1BCA0-1BCA3
    1D173-1D17A E0001"⟩,
  ⟨["ri", "regionalindicator"], listed "ri"⟩,
  ⟨["ka", "katakana"], wordKatakana⟩,
  ⟨["hl", "hebrewletter"], hebrewLetters⟩,
  ⟨["le", "aletter"], wordLetters⟩,
  ⟨["sq", "singlequote"], .ofText "27"⟩,
  ⟨["dq", "doublequote"], .ofText "22"⟩,
  ⟨["mb", "midnumlet"], .ofText "2E 2018-2019 2024 FE52 FF07 FF0E"⟩,
  ⟨["ml", "midletter"], .ofText "3A B7 387 55F 5F4 2027 FE13 FE55 FF1A"⟩,
  ⟨["mn", "midnum"], .ofText "2C 3B 37E 589 60C-60D 66C 7F8 2044 FE50 FE54 FF0C FF1B"⟩,
  ⟨["nu", "numeric"],
    union (categoryRanges ["nd"]) (.ofText "600-605 66B 6DD 890-891 8E2 19DA 110BD 110CD")⟩,
  ⟨["ex", "extendnumlet"], .ofText "5F 202F 203F-2040 2054 FE33-FE34 FE4D-FE4F FF3F"⟩,
  ⟨["wsegspace"], .ofText "20 1680 2000-2006 2008-200A 205F 3000"⟩
]

private def sentenceExtension : Ranges :=
  union graphemeExtend (categoryRanges ["mc"] ++ listed "joinc")

private def sentenceDots : Ranges := .ofText "2E 2024 FE52 FF0E"

/-- Small letters; those of Georgian begin sentences as well. -/
private def sentenceLower : Ranges :=
  diff (diff lowercase graphemeExtend) (.ofText "10D0-10FA 10FD-10FF")

private def sentenceUpper : Ranges :=
  diff (union uppercase titlecase) (.ofText "1C90-1CBA 1CBD-1CBF")

private def sentenceLetters : Ranges :=
  union (.ofText "5F3")
    (diff alphabetic (union (sentenceLower ++ sentenceUpper) sentenceExtension))

def sentenceBreaks : List NamedRanges := [
  ⟨["cr"], .ofText "D"⟩,
  ⟨["lf"], .ofText "A"⟩,
  ⟨["se", "sep"], .ofText "85 2028-2029"⟩,
  ⟨["ex", "extend"], sentenceExtension⟩,
  ⟨["fo", "format"], .ofText
    "AD 61C 70F 180E 200B 200E-200F 202A-202E 2060-2064 2066-206F FEFF FFF9-FFFB 13430-1343F
    1BCA0-1BCA3 1D173-1D17A E0001"⟩,
  ⟨["sp"], diff (listed "wspace") (.ofText "A D 85 2028-2029")⟩,
  ⟨["lo", "lower"], sentenceLower⟩,
  ⟨["up", "upper"], sentenceUpper⟩,
  ⟨["le", "oletter"], sentenceLetters⟩,
  ⟨["nu", "numeric"],
    union (categoryRanges ["nd"]) (.ofText "600-605 66B-66C 6DD 890-891 8E2 19DA 110BD 110CD")⟩,
  ⟨["at", "aterm"], sentenceDots⟩,
  ⟨["sc", "scontinue"], .ofText
    "2C-2D 3A-3B 37E 55D 60C-60D 7F8 1802 1808 2013-2014 3001 FE10-FE11 FE13-FE14 FE31-FE32
    FE50-FE51 FE54-FE55 FE58 FE63 FF0C-FF0D FF1A-FF1B FF64"⟩,
  ⟨["st", "sterm"], diff (listed "sterm") sentenceDots⟩,
  ⟨["cl", "close"],
    union (categoryRanges ["ps", "pe", "pi", "pf"])
      (.ofText "22 27 275B-2760 2E00-2E01 2E06-2E08 2E0B 1F676-1F678")⟩
]

end SeriesQuery.Unicode
