/-!
# Writing directions

Unicode 14.0 data: the writing directions of the code points that may stand in a host name. Those
in no table are written from left to right. Ranges are written `first-last`, bounds included, in
increasing order and in hexadecimal.
-/

namespace RequestSurface.HostName

/-- Letters written from right to left. -/
def rightToLeftRanges : List String :=
  ["5D0-5EA 5EF-5F4 7C0-7EA 7F4-7F5 800-815 81A-81A 824-824 828-828 840-858 10800-10805",
    "10808-10808 1080A-10835 10837-10838 1083C-1083C 1083F-10855 10860-10876 10880-1089E",
    "108E0-108F2 108F4-108F5 10900-10915 10920-10939 10980-109B7 109BE-109BF 10A00-10A00",
    "10A10-10A13 10A15-10A17 10A19-10A35 10A60-10A7C 10A80-10A9C 10AC0-10AC7 10AC9-10AE4",
    "10B00-10B35 10B40-10B55 10B60-10B72 10B80-10B91 10C00-10C48 10CC0-10CF2 10E80-10EA9",
    "10EB0-10EB1 10F00-10F1C 10F27-10F27 10F70-10F81 10FB0-10FC4 10FE0-10FF6 1E800-1E8C4",
    "1E922-1E943 1E94B-1E94B 1E950-1E959"]

/-- Arabic letters. -/
def arabicLetterRanges : List String :=
  ["620-63F 641-64A 66E-66F 671-674 679-6D3 6D5-6D5 6E5-6E6 6EE-6EF 6FA-6FF 710-710 712-72F",
    "74D-7A5 7B1-7B1 860-86A 870-887 889-88E 8A0-8C9 FE73-FE73 10D00-10D23 10F30-10F45"]

/-- Arabic numbers. -/
def arabicNumberRanges : List String :=
  ["660-669 10D30-10D39"]

/-- European numbers. -/
def europeanNumberRanges : List String :=
  ["30-39 6F0-6F9"]

/-- Marks. -/
def markRanges : List String :=
  ["300-33F 342-342 346-34E 350-36F 483-487 591-5BD 5BF-5BF 5C1-5C2 5C4-5C5 5C7-5C7 610-61A",
    "64B-65F 670-670 6D6-6DC 6DF-6E4 6E7-6E8 6EA-6ED 711-711 730-74A 7A6-7B0 7EB-7F3 7FD-7FD",
    "816-819 81B-823 825-827 829-82D 859-85B 898-89F 8CA-8E1 8E3-902 93A-93A 93C-93C 941-948",
    "94D-94D 951-957 962-963 981-981 9BC-9BC 9C1-9C4 9CD-9CD 9E2-9E3 9FE-9FE A01-A02 A3C-A3C",
    "A41-A42 A47-A48 A4B-A4D A51-A51 A70-A71 A75-A75 A81-A82 ABC-ABC AC1-AC5 AC7-AC8 ACD-ACD",
    "AE2-AE3 AFA-AFF B01-B01 B3C-B3C B3F-B3F B41-B44 B4D-B4D B55-B56 B62-B63 B82-B82 BC0-BC0",
    "BCD-BCD C00-C00 C04-C04 C3C-C3C C3E-C40 C46-C48 C4A-C4D C55-C56 C62-C63 C81-C81 CBC-CBC",
    "CCC-CCD CE2-CE3 D00-D01 D3B-D3C D41-D44 D4D-D4D D62-D63 D81-D81 DCA-DCA DD2-DD4 DD6-DD6",
    "E31-E31 E34-E3A E47-E4E EB1-EB1 EB4-EBC EC8-ECD F18-F19 F35-F35 F37-F37 F39-F39 F71-F72",
    "F74-F74 F7A-F7E F80-F80 F82-F84 F86-F87 F8D-F92 F94-F97 F99-F9C F9E-FA1 FA3-FA6 FA8-FAB",
    "FAD-FB8 FBA-FBC FC6-FC6 102D-1030 1032-1037 1039-103A 103D-103E 1058-1059 105E-1060",
    "1071-1074 1082-1082 1085-1086 108D-108D 109D-109D 135D-135F 1712-1714 1732-1733 1752-1753",
    "1772-1773 17B7-17BD 17C6-17C6 17C9-17D3 17DD-17DD 1885-1886 18A9-18A9 1920-1922 1927-1928",
    "1932-1932 1939-193B 1A17-1A18 1A1B-1A1B 1A56-1A56 1A58-1A5E 1A60-1A60 1A62-1A62 1A65-1A6C",
    "1A73-1A7C 1A7F-1A7F 1AB0-1ABD 1ABF-1ACE 1B00-1B03 1B34-1B34 1B36-1B3A 1B3C-1B3C 1B42-1B42",
    "1B6B-1B73 1B80-1B81 1BA2-1BA5 1BA8-1BA9 1BAB-1BAD 1BE6-1BE6 1BE8-1BE9 1BED-1BED 1BEF-1BF1",
    "1C2C-1C33 1C36-1C37 1CD0-1CD2 1CD4-1CE0 1CE2-1CE8 1CED-1CED 1CF4-1CF4 1CF8-1CF9 1DC0-1DFF",
    "2CEF-2CF1 2D7F-2D7F 2DE0-2DFF 302A-302D 3099-309A A66F-A66F A674-A67D A69E-A69F A6F0-A6F1",
    "A802-A802 A806-A806 A80B-A80B A825-A826 A82C-A82C A8C4-A8C5 A8E0-A8F1 A8FF-A8FF A926-A92D",
    "A947-A951 A980-A982 A9B3-A9B3 A9B6-A9B9 A9BC-A9BD A9E5-A9E5 AA29-AA2E AA31-AA32 AA35-AA36",
    "AA43-AA43 AA4C-AA4C AA7C-AA7C AAB0-AAB0 AAB2-AAB4 AAB7-AAB8 AABE-AABF AAC1-AAC1 AAEC-AAED",
    "AAF6-AAF6 ABE5-ABE5 ABE8-ABE8 ABED-ABED FB1E-FB1E FE20-FE2F 101FD-101FD 102E0-102E0",
    "10376-1037A 10A01-10A03 10A05-10A06 10A0C-10A0F 10A38-10A3A 10A3F-10A3F 10AE5-10AE6",
    "10D24-10D27 10EAB-10EAC 10F46-10F50 10F82-10F85 11001-11001 11038-11046 11070-11070",
    "11073-11074 1107F-11081 110B3-110B6 110B9-110BA 110C2-110C2 11100-11102 11127-1112B",
    "1112D-11134 11173-11173 11180-11181 111B6-111BE 111C9-111CC 111CF-111CF 1122F-11231",
    "11234-11234 11236-11237 1123E-1123E 112DF-112DF 112E3-112EA 11300-11301 1133B-1133C",
    "11340-11340 11366-1136C 11370-11374 11438-1143F 11442-11444 11446-11446 1145E-1145E",
    "114B3-114B8 114BA-114BA 114BF-114C0 114C2-114C3 115B2-115B5 115BC-115BD 115BF-115C0",
    "115DC-115DD 11633-1163A 1163D-1163D 1163F-11640 116AB-116AB 116AD-116AD 116B0-116B5",
    "116B7-116B7 1171D-1171F 11722-11725 11727-1172B 1182F-11837 11839-1183A 1193B-1193C",
    "1193E-1193E 11943-11943 119D4-119D7 119DA-119DB 119E0-119E0 11A01-11A06 11A09-11A0A",
    "11A33-11A38 11A3B-11A3E 11A47-11A47 11A51-11A56 11A59-11A5B 11A8A-11A96 11A98-11A99",
    "11C30-11C36 11C38-11C3D 11C92-11CA7 11CAA-11CB0 11CB2-11CB3 11CB5-11CB6 11D31-11D36",
    "11D3A-11D3A 11D3C-11D3D 11D3F-11D45 11D47-11D47 11D90-11D91 11D95-11D95 11D97-11D97",
    "11EF3-11EF4 16AF0-16AF4 16B30-16B36 16F4F-16F4F 16F8F-16F92 16FE4-16FE4 1BC9D-1BC9E",
    "1CF00-1CF2D 1CF30-1CF46 1DA00-1DA36 1DA3B-1DA6C 1DA75-1DA75 1DA84-1DA84 1DA9B-1DA9F",
    "1DAA1-1DAAF 1E000-1E006 1E008-1E018 1E01B-1E021 1E023-1E024 1E026-1E02A 1E130-1E136",
    "1E2AE-1E2AE 1E2EC-1E2EF 1E8D0-1E8D6 1E944-1E94A"]

/-- Neutral code points. -/
def neutralRanges : List String :=
  ["B7-B7 2B9-2BA 2C6-2CF 2EC-2EC 375-375 2E2F-2E2F 30FB-30FB A67F-A67F A717-A71F A788-A788"]

/-- Boundaries. -/
def boundaryRanges : List String :=
  ["200C-200D"]

/-- Separators of European numbers. -/
def separatorRanges : List String :=
  ["2D-2D"]

/-- Permitted code points whose direction is not known. -/
def unknownRanges : List String :=
  ["CF3-CF3 ECE-ECE 10EFD-10EFF 1123F-11241 11F00-11F10 11F12-11F3A 11F3E-11F42 11F50-11F59",
    "1342F-1342F 13440-13455 1B132-1B132 1B155-1B155 1DF25-1DF2A 1E08F-1E08F 1E4D0-1E4F9",
    "2B739-2B739 2EBF0-2EE5D 31350-323AF"]

end RequestSurface.HostName
