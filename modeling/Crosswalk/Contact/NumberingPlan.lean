/-!
Numbering plans: which telephone numbers a region has.

The patterns are of the national number in digits. Regions that share a country code follow each other,
the main one first.
-/

namespace Crosswalk.Contact

structure NumberingPlan where
  region : String
  code : Nat
  /-- The prefix of calls abroad. -/
  abroad : String := "00"
  /-- The prefix of calls between areas, empty for none. -/
  trunk : String := "0"
  /-- The lengths that national numbers have. -/
  lengths : List Nat
  /-- The lengths of numbers that are dialled within an area only. -/
  localLengths : List Nat := []
  /-- All national numbers. -/
  general : String
  /-- The numbers of each service. -/
  services : List String

namespace NumberingPlan

/-- The numbers of an area of the North American plan. -/
def american (region : String) (areas : String) : NumberingPlan where
  region
  code := 1
  abroad := "011"
  trunk := "1"
  lengths := [10]
  localLengths := [7]
  general := "[2-9][0-9]{9}"
  services := [areas, "8(?:00|33|44|55|66|77|88)[2-9][0-9]{6}", "900[2-9][0-9]{6}",
    "5(?:00|2[125-9]|33|44|66|77|88)[2-9][0-9]{6}"]

def unitedStates : NumberingPlan := american "US" <|
  "(?:274[27]|(?:472|983)[2-47-9])[0-9]{6}|" ++
  "(?:2(?:0[1-35-9]|1[02-9]|2[03-57-9]|3[1459]|4[08]|5[1-46]|6[0279]|7[0269]|8[13])|" ++
  "3(?:0[1-57-9]|1[02-9]|2[013-79]|3[0-24679]|4[167]|5[0-3]|6[01349]|8[056])|" ++
  "4(?:0[124-9]|1[02-579]|2[3-5]|3[0245]|4[023578]|58|6[349]|7[0589]|8[04])|" ++
  "5(?:0[1-57-9]|1[0235-8]|20|3[0149]|4[01]|5[179]|6[1-47]|7[0-5]|8[0256])|" ++
  "6(?:0[1-35-9]|1[024-9]|2[03689]|3[016]|4[0156]|5[01679]|6[0-279]|78|8[0-269])|" ++
  "7(?:0[1-46-8]|1[2-9]|2[04-8]|3[0-2478]|4[0378]|5[47]|6[02359]|7[0-59]|8[156])|" ++
  "8(?:0[1-68]|1[02-8]|2[0168]|3[0-2589]|4[03578]|5[046-9]|6[02-5]|7[028])|" ++
  "9(?:0[1346-9]|1[02-9]|2[0589]|3[0146-8]|4[01357-9]|5[12469]|7[0-3589]|8[04-69]))[2-9][0-9]{6}"

def canada : NumberingPlan := american "CA" <|
  "(?:2(?:04|[23]6|[48]9|5[07]|63)|3(?:06|43|54|6[578]|82)|4(?:03|1[68]|[26]8|3[178]|50|74)|" ++
  "5(?:06|1[49]|48|79|8[147])|6(?:04|[18]3|39|47|72)|7(?:0[59]|42|53|78|8[02])|" ++
  "8(?:[06]7|19|25|7[39])|9(?:0[25]|42))[2-9][0-9]{6}"

def bahamas : NumberingPlan := american "BS" <|
  "242(?:3(?:02|[236][1-9]|4[0-24-9]|5[0-68]|7[347]|8[0-4]|9[2-467])|461|502|" ++
  "6(?:0[1-5]|12|2[013]|[45]0|7[67]|8[78]|9[89])|7(?:02|88))[0-9]{4}|" ++
  "242(?:3(?:5[79]|7[56]|95)|4(?:[23][1-9]|4[1-35-9]|5[1-8]|6[2-8]|7[0-9]|81)|" ++
  "5(?:2[45]|3[35]|44|5[1-46-9]|65|77)|6[34]6|7(?:27|38)|" ++
  "8(?:0[1-9]|1[02-9]|2[0-9]|[89]9))[0-9]{4}"

/-- The islands of the plan whose areas are theirs alone. -/
def islands : List (String × String) :=
  [("AG", "268"), ("AI", "264"), ("AS", "684"), ("BB", "246"), ("BM", "441"), ("DM", "767"),
    ("DO", "8(?:[024]9)"), ("GD", "473"), ("GU", "671"), ("JM", "(?:658|876)"), ("KN", "869"),
    ("KY", "345"), ("LC", "758"), ("MP", "670"), ("MS", "664"), ("PR", "(?:787|939)"),
    ("SX", "721"), ("TC", "649"), ("TT", "868"), ("VC", "784"), ("VG", "284"), ("VI", "340")]

def britain (region : String) : NumberingPlan where
  region
  code := 44
  lengths := [7, 9, 10]
  localLengths := [4, 5, 6, 8]
  general := "[1-357-9][0-9]{9}|[18][0-9]{8}|8[0-9]{6}"
  services := [
    "(?:1(?:1(?:3[0-58]|4[0-5]|[5-8][0-9])[0-9]|[2-9][0-9]{3})|" ++
      "2(?:0[013478]|3[0189]|4[017]|8[0-46-9]|9[0-2])[0-9])[0-9]{6}",
    "1[2-9][0-9]{7}",
    "7(?:457[0-57-9]|700[01]|911[028])[0-9]{5}|" ++
      "7(?:[1-3][0-9][0-9]|4(?:[0-46-9][0-9]|5[0-689])|5(?:0[0-8]|[13-9][0-9]|2[0-35-9])|" ++
      "7(?:0[1-9]|[1-7][0-9]|8[02-9]|9[0-689])|8(?:[014-9][0-9]|[23][0-8])|" ++
      "9(?:[024-9][0-9]|1[02-9]|3[0-689]))[0-9]{6}",
    "80[08][0-9]{7}|800[0-9]{6}|8001111",
    "(?:8(?:4[2-5]|7[0-3])|9(?:[01][0-9]|8[2-49]))[0-9]{7}|845464[0-9]",
    "70[0-9]{8}", "56[0-9]{8}", "(?:3[0347]|55)[0-9]{8}",
    "76(?:464|652)[0-9]{5}|" ++
      "76(?:0[0-28]|2[356]|34|4[01347]|5[49]|6[0-369]|77|8[14]|9[139])[0-9]{6}"]

def france : NumberingPlan where
  region := "FR"
  code := 33
  lengths := [9]
  general := "[1-9][0-9]{8}"
  services := [
    "(?:26[013-9]|59[1-35-9])[0-9]{6}|(?:[13][0-9]|2[0-57-9]|4[1-9]|5[0-8])[0-9]{7}",
    "(?:6(?:[0-24-8][0-9]|3[0-8]|9[589])|7[3-9][0-9])[0-9]{6}",
    "80[0-5][0-9]{6}", "8[1-9][0-9]{7}", "9[0-9]{8}", "80[6-9][0-9]{6}"]

/-- A plan of a region with a trunk prefix of zero. -/
def simple (region : String) (code : Nat) (lengths : List Nat) (services : List String)
    (trunk : String) : NumberingPlan where
  region
  code
  trunk
  lengths
  general := "|".intercalate services
  services

/-- The plans that are known. -/
def all : List NumberingPlan :=
  unitedStates ::
    islands.map (fun e => american e.1 (e.2 ++ "[2-9][0-9]{6}")) ++
    [bahamas, canada, britain "GB", france,
      simple "DE" 49 [5, 6, 7, 8, 9, 10, 11, 12, 13, 14, 15]
        ["[2-9][0-9]{4,10}", "1(?:5[0-9]{9}|6[023][0-9]{7,8}|7[0-9]{8,9})", "800[0-9]{7,12}"] "0",
      simple "ES" 34 [9] ["(?:8[1-9]|9[0-9])[0-9]{7}", "(?:6[0-9]|7[1-4])[0-9]{7}", "80[0-9]{7}"] "",
      simple "IT" 39 [6, 7, 8, 9, 10, 11] ["0[1-9][0-9]{4,9}", "3[1-9][0-9]{8}|3[2-9][0-9]{7}",
        "80(?:0[0-9]{3}|3)[0-9]{3}"] "",
      simple "NL" 31 [9] ["(?:1[0-9]|2[0-9]|3[0-9]|4[0-9]|5[0-9]|7[0-9])[0-9]{7}", "6[1-58][0-9]{7}",
        "8[58][0-9]{7}"] "0",
      simple "BE" 32 [8, 9] ["[1-9][0-9]{7}", "4[5-9][0-9]{7}"] "0",
      simple "CH" 41 [9] ["[23456][0-9]{8}", "7[4-9][0-9]{7}", "80[0-9]{7}"] "0",
      simple "AT" 43 [7, 8, 9, 10, 11, 12, 13] ["[1-57][0-9]{6,12}", "6[4-9][0-9]{8,10}"] "0",
      simple "IE" 353 [7, 8, 9] ["(?:1|2[1-9]|4[0-9]|5[0-9]|6[0-9]|7[14]|9[0-9])[0-9]{5,7}",
        "8(?:22|[35-9][0-9])[0-9]{6}"] "0",
      simple "PT" 351 [9] ["2[1-9][0-9]{7}", "9[1-36][0-9]{7}", "80[0-9]{7}"] "",
      simple "SE" 46 [7, 8, 9] ["[1-689][0-9]{6,8}", "7[02369][0-9]{7}"] "0",
      simple "NO" 47 [8] ["[2-79][0-9]{7}", "80[0-9]{6}"] "",
      simple "DK" 45 [8] ["[2-9][0-9]{7}"] "",
      simple "PL" 48 [9] ["[1-9][0-9]{8}"] "",
      simple "AU" 61 [6, 7, 8, 9, 10] ["[2378][0-9]{8}", "4[0-9]{8}", "1[38]00[0-9]{6}", "13[0-9]{4}"]
        "0",
      simple "NZ" 64 [8, 9, 10] ["[34679][0-9]{7}", "2[0-9]{7,9}", "800[0-9]{6,7}"] "0",
      simple "JP" 81 [9, 10] ["[1-9][1-9][0-9]{7}|[1-9]0[0-9]{7}", "[7-9]0[1-9][0-9]{7}",
        "120[0-9]{6}"] "0",
      simple "CN" 86 [10, 11] ["(?:10|2[0-9])[0-9]{8}|[3-9][0-9]{9,10}", "1[3-9][0-9]{9}"] "0",
      simple "IN" 91 [10] ["[1-5][1-9][0-9]{8}", "[6-9][0-9]{9}"] "0",
      simple "KR" 82 [8, 9, 10] ["2[1-9][0-9]{6,7}|[3-6][1-5][1-9][0-9]{6,7}", "1[0-9]{8,9}"] "0",
      simple "BR" 55 [10, 11] ["[1-9][1-9][2-5][0-9]{7}", "[1-9][1-9]9[0-9]{8}"] "0",
      simple "MX" 52 [10] ["[2-9][0-9]{9}"] "",
      simple "RU" 7 [10] ["[3489][0-9]{9}"] "8",
      simple "ZA" 27 [9] ["[1-5][0-9]{8}", "[67][0-9]{8}|8[1-4][0-9]{7}"] "0",
      simple "SG" 65 [8] ["6[1-9][0-9]{6}", "[89][0-9]{7}"] "",
      simple "HK" 852 [8] ["[23][0-9]{7}", "[5679][0-9]{7}"] "",
      simple "IL" 972 [8, 9] ["[23489][0-9]{7}", "5[0-9]{8}"] "0",
      simple "AE" 971 [8, 9] ["[2-4679][2-8][0-9]{6}", "5[024-68][0-9]{7}"] "0",
      simple "TR" 90 [10] ["[2-4][1-9][0-9]{8}", "5[0-9]{9}"] "0",
      simple "GR" 30 [10] ["2[1-9][0-9]{8}", "69[0-9]{8}"] ""]

end NumberingPlan

end Crosswalk.Contact
