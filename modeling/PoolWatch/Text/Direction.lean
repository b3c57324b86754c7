import PoolWatch.Text.CodeTable

/-! # Directions

    In which direction a character is written, which decides how it may stand
    beside characters of the other direction.  Ranges run on over characters
    that no name of a host may hold. -/

namespace PoolWatch.Text

/-- The direction of a character. -/
inductive Direction where
  | left
  | right
  | arabic
  | number
  | arabicNumber
  | numberSeparator
  | numberTerminator
  | commonSeparator
  | mark
  | boundary
  | neutral
  | blank
  deriving DecidableEq, Repr

namespace Direction

/-- The directions of characters beyond ASCII, but for those written from left
    to right. -/
def tables : List (Direction × CodeTable) := [
  (.right, .ofText
    ["5BE 5C0 5C3 5C6 5D0-5F4 7C0-7EA 7F4-7F5 7FA 7FE-815 81A 824 828 830-858 85E 10800-1091B",
    "10920-10A00 10A10-10A35 10A40-10AE4 10AEB-10B35 10B40-10CFF 10D4A-10D4F 10D6F-10D8F",
    "10E80-10EA9 10EAD-10EB1 10F00-10F27 10F70-10F81 10F86-10FF6 1E800-1E8CF 1E922-1E943",
    "1E94B-1E95F"]),
  (.arabic, .ofText
    ["608 60B 60D 61B-64A 66D-66F 671-6D5 6E5-6E6 6EE-6EF 6FA-710 712-72F 74D-7A5 7B1 860-88F",
    "8A0-8C9 FBB2-FBC2 FE73 10D00-10D23 10EC2-10EC7 10F30-10F45 10F51-10F59 1EC71-1ED3D"]),
  (.arabicNumber, .ofText
    ["660-669 66B-66C 10D30-10D49 10E60-10E7E"]),
  (.number, .ofText
    ["6F0-6F9 102E1-102FB"]),
  (.numberSeparator, .ofText
    ["2212"]),
  (.numberTerminator, .ofText
    ["A2-A5 B0-B1 58F 609-60A 66A 9F2-9F3 9FB AF1 BF9 E3F 17DB 2030-2032 20A0-20C1 212E 2213",
    "A838-A839 11FDD-11FE0 1E2FF"]),
  (.commonSeparator, .ofText
    ["60C 2044"]),
  (.mark, .ofText
    ["300-36F 483-489 591-5BD 5BF 5C1-5C2 5C4-5C5 5C7 610-61A 64B-65F 670 6D6-6DC 6DF-6E4 6E7-6E8",
    "6EA-6ED 711 730-74A 7A6-7B0 7EB-7F3 7FD 816-819 81B-823 825-827 829-82D 859-85B 897-89F",
    "8CA-902 93A 93C 941-948 94D 951-957 962-963 981 9BC 9C1-9C4 9CD 9E2-9E3 9FE-A02 A3C A41-A51",
    "A70-A71 A75 A81-A82 ABC AC1-AC8 ACD AE2-AE3 AFA-B01 B3C B3F B41-B44 B4D-B56 B62-B63 B82 BC0",
    "BCD C00 C04 C3C C3E-C40 C46-C56 C62-C63 C81 CBC CCC-CCD CE2-CE3 D00-D01 D3B-D3C D41-D44 D4D",
    "D62-D63 D81 DCA DD2-DD6 E31 E34-E3A E47-E4E EB1 EB4-EBC EC8-ECE F18-F19 F35 F37 F39 F71-F7E",
    "F80-F84 F86-F87 F8D-FBC FC6 102D-1030 1032-1037 1039-103A 103D-103E 1058-1059 105E-1060",
    "1071-1074 1082 1085-1086 108D 109D 135D-135F 1712-1714 1732-1733 1752-1753 1772-1773",
    "17B7-17BD 17C6 17C9-17D3 17DD 1885-1886 18A9 1920-1922 1927-1928 1932 1939-193B 1A17-1A18",
    "1A1B 1A56 1A58-1A60 1A62 1A65-1A6C 1A73-1A7F 1AB0-1B03 1B34 1B36-1B3A 1B3C 1B42 1B6B-1B73",
    "1B80-1B81 1BA2-1BA5 1BA8-1BA9 1BAB-1BAD 1BE6 1BE8-1BE9 1BED 1BEF-1BF1 1C2C-1C33 1C36-1C37",
    "1CD0-1CD2 1CD4-1CE0 1CE2-1CE8 1CED 1CF4 1CF8-1CF9 1DC0-1DFF 20D0-20F0 2CEF-2CF1 2D7F",
    "2DE0-2DFF 302A-302D 3099-309A A66F-A672 A674-A67D A69E-A69F A6F0-A6F1 A802 A806 A80B",
    "A825-A826 A82C A8C4-A8C5 A8E0-A8F1 A8FF A926-A92D A947-A951 A980-A982 A9B3 A9B6-A9B9",
    "A9BC-A9BD A9E5 AA29-AA2E AA31-AA32 AA35-AA36 AA43 AA4C AA7C AAB0 AAB2-AAB4 AAB7-AAB8",
    "AABE-AABF AAC1 AAEC-AAED AAF6 ABE5 ABE8 ABED FB1E FE20-FE2F 101FD 102E0 10376-1037A",
    "10A01-10A0F 10A38-10A3F 10AE5-10AE6 10D24-10D27 10D69-10D6D 10EAB-10EAC 10EFA-10EFF",
    "10F46-10F50 10F82-10F85 11001 11038-11046 11070 11073-11074 1107F-11081 110B3-110B6",
    "110B9-110BA 110C2 11100-11102 11127-1112B 1112D-11134 11173 11180-11181 111B6-111BE",
    "111C9-111CC 111CF 1122F-11231 11234 11236-11237 1123E 11241 112DF 112E3-112EA 11300-11301",
    "1133B-1133C 11340 11366-11374 113BB-113C0 113CE 113D0 113D2 113E1-113E2 11438-1143F",
    "11442-11444 11446 1145E 114B3-114B8 114BA 114BF-114C0 114C2-114C3 115B2-115B5 115BC-115BD",
    "115BF-115C0 115DC-115DD 11633-1163A 1163D 1163F-11640 116AB 116AD 116B0-116B5 116B7 1171D",
    "1171F 11722-11725 11727-1172B 1182F-11837 11839-1183A 1193B-1193C 1193E 11943 119D4-119DB",
    "119E0 11A01-11A06 11A09-11A0A 11A33-11A38 11A3B-11A3E 11A47 11A51-11A56 11A59-11A5B",
    "11A8A-11A96 11A98-11A99 11B60 11B62-11B64 11B66 11C30-11C3D 11C92-11CA7 11CAA-11CB0",
    "11CB2-11CB3 11CB5-11CB6 11D31-11D45 11D47 11D90-11D91 11D95 11D97 11EF3-11EF4 11F00-11F01",
    "11F36-11F3A 11F40 11F42 11F5A 13440 13447-13455 1611E-16129 1612D-1612F 16AF0-16AF4",
    "16B30-16B36 16F4F 16F8F-16F92 16FE4 1BC9D-1BC9E 1CF00-1CF46 1D167-1D169 1D17B-1D182",
    "1D185-1D18B 1D1AA-1D1AD 1D242-1D244 1DA00-1DA36 1DA3B-1DA6C 1DA75 1DA84 1DA9B-1DAAF",
    "1E000-1E08F 1E130-1E136 1E2AE 1E2EC-1E2EF 1E4EC-1E4EF 1E5EE-1E5EF 1E6E3 1E6E6 1E6EE-1E6EF",
    "1E6F5 1E8D0-1E8D6 1E944-1E94A"]),
  (.boundary, .ofText
    ["200C-200D"]),
  (.neutral, .ofText
    ["A1 A6-AE B6-D7 F7 2B9-2BA 2C2-2CF 2D2-2ED 2EF-2FF 375 3F6 58A-58E 606-607 60E-60F 6DE 6E9",
    "7F6-7F9 BF3-BF8 BFA C78-C7E F3A-F3D 1390-1399 1400 169B-169C 17F0-180A 1940-1945 19DE-19FF",
    "2010-2027 2035-2043 2045-205E 2104-2129 213A-214D 218A-2211 2214-2335 237B-2394 2396-26AB",
    "26AD-27FF 2900-2BFF 2CE5-2CEA 2CF9-2CFF 2E00-3004 3008-3020 3030 3037 303D-303F 30A0 30FB",
    "31C0-31E5 4DC0-4DFF A490-A4C6 A60D-A60F A673 A67E-A67F A700-A721 A788 A828-A82B A874-A877",
    "AB6A-AB6B FBC3-FDFF FE45-FE46 10101 10140-1018C 10190-101A0 1091F 10B39-10B3F 10D6E",
    "10ED0-10ED8 11052-11065 11660-1166C 11FD5-11FDC 11FE1-11FF1 16FE2 1CC00-1CEF0 1D1E9-1D241",
    "1D245 1D300-1D356 1EEF0-1F12F 1F16D-1F16F 1F1AD 1F260-1FBFA"])]

/-- The direction of a character of ASCII. -/
def ofAscii (c : Char) : Direction :=
  if ('a' ≤ c && c ≤ 'z') || ('A' ≤ c && c ≤ 'Z') then .left
  else if '0' ≤ c && c ≤ '9' then .number
  else if c = '+' || c = '-' then .numberSeparator
  else if c = '#' || c = '$' || c = '%' then .numberTerminator
  else if c = ',' || c = '.' || c = '/' || c = ':' then .commonSeparator
  else if '\t' ≤ c && c ≤ '\r' || '\x1c' ≤ c && c ≤ ' ' then .blank
  else if c < ' ' || c = '\x7f' then .boundary
  else .neutral

/-- The direction of a character. -/
def ofChar (c : Char) : Direction :=
  if c.toNat < 0x80 then ofAscii c
  else
    match tables.find? fun (_, table) => table.contains c.toNat with
    | some (d, _) => d
    | none => .left

/-- A direction that makes a name one in which directions mix. -/
def isRightward (d : Direction) : Bool :=
  d = .right || d = .arabic || d = .arabicNumber

end Direction

/-! ## Labels

    Where directions mix, every label has to keep its own: it starts with a
    letter, and holds and ends with what the direction of that letter
    allows. -/

namespace Direction

/-- What a label may hold whatever its direction. -/
def isShared (d : Direction) : Bool :=
  d = .number || d = .numberSeparator || d = .commonSeparator || d = .numberTerminator ||
    d = .neutral || d = .boundary || d = .mark

/-- Whether directions may stand in a label that starts from the left. -/
def keepsLeft (ds : List Direction) : Bool :=
  ds.all (fun d => d = .left || d.isShared) &&
    match (ds.reverse.dropWhile (· = .mark)).head? with
    | some last => last = .left || last = .number
    | none => false

/-- Whether directions may stand in a label that starts from the right, where
    numbers are of one kind. -/
def keepsRight (ds : List Direction) : Bool :=
  ds.all (fun d => d.isRightward || d.isShared) &&
    !(ds.contains .number && ds.contains .arabicNumber) &&
    match (ds.reverse.dropWhile (· = .mark)).head? with
    | some last => last.isRightward || last = .number
    | none => false

/-- Whether a label keeps its direction. -/
def keeps (label : List Char) : Bool :=
  let ds := label.map ofChar
  match ds.head? with
  | none => true
  | some .left => keepsLeft ds
  | some .right | some .arabic => keepsRight ds
  | some _ => false

end Direction

end PoolWatch.Text
