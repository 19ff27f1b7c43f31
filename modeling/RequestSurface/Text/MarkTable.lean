/-!
# Marks

Unicode 14.0 data: the combining marks of every kind.
-/

namespace RequestSurface.Text

/-- Ranges `first-last`, bounds included, in increasing order and in hexadecimal. -/
def markRanges : List String :=
  ["300-36F 483-489 591-5BD 5BF-5BF 5C1-5C2 5C4-5C5 5C7-5C7 610-61A 64B-65F 670-670 6D6-6DC",
    "6DF-6E4 6E7-6E8 6EA-6ED 711-711 730-74A 7A6-7B0 7EB-7F3 7FD-7FD 816-819 81B-823 825-827",
    "829-82D 859-85B 898-89F 8CA-8E1 8E3-903 93A-93C 93E-94F 951-957 962-963 981-983 9BC-9BC",
    "9BE-9C4 9C7-9C8 9CB-9CD 9D7-9D7 9E2-9E3 9FE-9FE A01-A03 A3C-A3C A3E-A42 A47-A48 A4B-A4D",
    "A51-A51 A70-A71 A75-A75 A81-A83 ABC-ABC ABE-AC5 AC7-AC9 ACB-ACD AE2-AE3 AFA-AFF B01-B03",
    "B3C-B3C B3E-B44 B47-B48 B4B-B4D B55-B57 B62-B63 B82-B82 BBE-BC2 BC6-BC8 BCA-BCD BD7-BD7",
    "C00-C04 C3C-C3C C3E-C44 C46-C48 C4A-C4D C55-C56 C62-C63 C81-C83 CBC-CBC CBE-CC4 CC6-CC8",
    "CCA-CCD CD5-CD6 CE2-CE3 D00-D03 D3B-D3C D3E-D44 D46-D48 D4A-D4D D57-D57 D62-D63 D81-D83",
    "DCA-DCA DCF-DD4 DD6-DD6 DD8-DDF DF2-DF3 E31-E31 E34-E3A E47-E4E EB1-EB1 EB4-EBC EC8-ECD",
    "F18-F19 F35-F35 F37-F37 F39-F39 F3E-F3F F71-F84 F86-F87 F8D-F97 F99-FBC FC6-FC6 102B-103E",
    "1056-1059 105E-1060 1062-1064 1067-106D 1071-1074 1082-108D 108F-108F 109A-109D 135D-135F",
    "1712-1715 1732-1734 1752-1753 1772-1773 17B4-17D3 17DD-17DD 180B-180D 180F-180F 1885-1886",
    "18A9-18A9 1920-192B 1930-193B 1A17-1A1B 1A55-1A5E 1A60-1A7C 1A7F-1A7F 1AB0-1ACE 1B00-1B04",
    "1B34-1B44 1B6B-1B73 1B80-1B82 1BA1-1BAD 1BE6-1BF3 1C24-1C37 1CD0-1CD2 1CD4-1CE8 1CED-1CED",
    "1CF4-1CF4 1CF7-1CF9 1DC0-1DFF 20D0-20F0 2CEF-2CF1 2D7F-2D7F 2DE0-2DFF 302A-302F 3099-309A",
    "A66F-A672 A674-A67D A69E-A69F A6F0-A6F1 A802-A802 A806-A806 A80B-A80B A823-A827 A82C-A82C",
    "A880-A881 A8B4-A8C5 A8E0-A8F1 A8FF-A8FF A926-A92D A947-A953 A980-A983 A9B3-A9C0 A9E5-A9E5",
    "AA29-AA36 AA43-AA43 AA4C-AA4D AA7B-AA7D AAB0-AAB0 AAB2-AAB4 AAB7-AAB8 AABE-AABF AAC1-AAC1",
    "AAEB-AAEF AAF5-AAF6 ABE3-ABEA ABEC-ABED FB1E-FB1E FE00-FE0F FE20-FE2F 101FD-101FD",
    "102E0-102E0 10376-1037A 10A01-10A03 10A05-10A06 10A0C-10A0F 10A38-10A3A 10A3F-10A3F",
    "10AE5-10AE6 10D24-10D27 10EAB-10EAC 10F46-10F50 10F82-10F85 11000-11002 11038-11046",
    "11070-11070 11073-11074 1107F-11082 110B0-110BA 110C2-110C2 11100-11102 11127-11134",
    "11145-11146 11173-11173 11180-11182 111B3-111C0 111C9-111CC 111CE-111CF 1122C-11237",
    "1123E-1123E 112DF-112EA 11300-11303 1133B-1133C 1133E-11344 11347-11348 1134B-1134D",
    "11357-11357 11362-11363 11366-1136C 11370-11374 11435-11446 1145E-1145E 114B0-114C3",
    "115AF-115B5 115B8-115C0 115DC-115DD 11630-11640 116AB-116B7 1171D-1172B 1182C-1183A",
    "11930-11935 11937-11938 1193B-1193E 11940-11940 11942-11943 119D1-119D7 119DA-119E0",
    "119E4-119E4 11A01-11A0A 11A33-11A39 11A3B-11A3E 11A47-11A47 11A51-11A5B 11A8A-11A99",
    "11C2F-11C36 11C38-11C3F 11C92-11CA7 11CA9-11CB6 11D31-11D36 11D3A-11D3A 11D3C-11D3D",
    "11D3F-11D45 11D47-11D47 11D8A-11D8E 11D90-11D91 11D93-11D97 11EF3-11EF6 16AF0-16AF4",
    "16B30-16B36 16F4F-16F4F 16F51-16F87 16F8F-16F92 16FE4-16FE4 16FF0-16FF1 1BC9D-1BC9E",
    "1CF00-1CF2D 1CF30-1CF46 1D165-1D169 1D16D-1D172 1D17B-1D182 1D185-1D18B 1D1AA-1D1AD",
    "1D242-1D244 1DA00-1DA36 1DA3B-1DA6C 1DA75-1DA75 1DA84-1DA84 1DA9B-1DA9F 1DAA1-1DAAF",
    "1E000-1E006 1E008-1E018 1E01B-1E021 1E023-1E024 1E026-1E02A 1E130-1E136 1E2AE-1E2AE",
    "1E2EC-1E2EF 1E8D0-1E8D6 1E944-1E94A E0100-E01EF"]

end RequestSurface.Text
