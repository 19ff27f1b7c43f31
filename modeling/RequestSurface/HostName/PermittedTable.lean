/-!
# Permitted code points

Unicode 15.1 data: the code points that may stand anywhere in a label of a host name.
-/

namespace RequestSurface.HostName

/-- Ranges `first-last`, bounds included, in increasing order and in hexadecimal. -/
def permittedRanges : List String :=
  ["2D-2D 30-39 61-7A DF-F6 F8-FF 101-101 103-103 105-105 107-107 109-109 10B-10B 10D-10D",
    "10F-10F 111-111 113-113 115-115 117-117 119-119 11B-11B 11D-11D 11F-11F 121-121 123-123",
    "125-125 127-127 129-129 12B-12B 12D-12D 12F-12F 131-131 135-135 137-138 13A-13A 13C-13C",
    "13E-13E 142-142 144-144 146-146 148-148 14B-14B 14D-14D 14F-14F 151-151 153-153 155-155",
    "157-157 159-159 15B-15B 15D-15D 15F-15F 161-161 163-163 165-165 167-167 169-169 16B-16B",
    "16D-16D 16F-16F 171-171 173-173 175-175 177-177 17A-17A 17C-17C 17E-17E 180-180 183-183",
    "185-185 188-188 18C-18D 192-192 195-195 199-19B 19E-19E 1A1-1A1 1A3-1A3 1A5-1A5 1A8-1A8",
    "1AA-1AB 1AD-1AD 1B0-1B0 1B4-1B4 1B6-1B6 1B9-1BB 1BD-1C3 1CE-1CE 1D0-1D0 1D2-1D2 1D4-1D4",
    "1D6-1D6 1D8-1D8 1DA-1DA 1DC-1DD 1DF-1DF 1E1-1E1 1E3-1E3 1E5-1E5 1E7-1E7 1E9-1E9 1EB-1EB",
    "1ED-1ED 1EF-1F0 1F5-1F5 1F9-1F9 1FB-1FB 1FD-1FD 1FF-1FF 201-201 203-203 205-205 207-207",
    "209-209 20B-20B 20D-20D 20F-20F 211-211 213-213 215-215 217-217 219-219 21B-21B 21D-21D",
    "21F-21F 221-221 223-223 225-225 227-227 229-229 22B-22B 22D-22D 22F-22F 231-231 233-239",
    "23C-23C 23F-240 242-242 247-247 249-249 24B-24B 24D-24D 24F-2AF 2B9-2C1 2C6-2D1 2EC-2EC",
    "2EE-2EE 300-33F 342-342 346-34E 350-36F 371-371 373-373 377-377 37B-37D 390-390 3AC-3CE",
    "3D7-3D7 3D9-3D9 3DB-3DB 3DD-3DD 3DF-3DF 3E1-3E1 3E3-3E3 3E5-3E5 3E7-3E7 3E9-3E9 3EB-3EB",
    "3ED-3ED 3EF-3EF 3F3-3F3 3F8-3F8 3FB-3FC 430-45F 461-461 463-463 465-465 467-467 469-469",
    "46B-46B 46D-46D 46F-46F 471-471 473-473 475-475 477-477 479-479 47B-47B 47D-47D 47F-47F",
    "481-481 483-487 48B-48B 48D-48D 48F-48F 491-491 493-493 495-495 497-497 499-499 49B-49B",
    "49D-49D 49F-49F 4A1-4A1 4A3-4A3 4A5-4A5 4A7-4A7 4A9-4A9 4AB-4AB 4AD-4AD 4AF-4AF 4B1-4B1",
    "4B3-4B3 4B5-4B5 4B7-4B7 4B9-4B9 4BB-4BB 4BD-4BD 4BF-4BF 4C2-4C2 4C4-4C4 4C6-4C6 4C8-4C8",
    "4CA-4CA 4CC-4CC 4CE-4CF 4D1-4D1 4D3-4D3 4D5-4D5 4D7-4D7 4D9-4D9 4DB-4DB 4DD-4DD 4DF-4DF",
    "4E1-4E1 4E3-4E3 4E5-4E5 4E7-4E7 4E9-4E9 4EB-4EB 4ED-4ED 4EF-4EF 4F1-4F1 4F3-4F3 4F5-4F5",
    "4F7-4F7 4F9-4F9 4FB-4FB 4FD-4FD 4FF-4FF 501-501 503-503 505-505 507-507 509-509 50B-50B",
    "50D-50D 50F-50F 511-511 513-513 515-515 517-517 519-519 51B-51B 51D-51D 51F-51F 521-521",
    "523-523 525-525 527-527 529-529 52B-52B 52D-52D 52F-52F 559-559 560-586 588-588 591-5BD",
    "5BF-5BF 5C1-5C2 5C4-5C5 5C7-5C7 5D0-5EA 5EF-5F2 610-61A 620-63F 641-65F 66E-674 679-6D3",
    "6D5-6DC 6DF-6E8 6EA-6EF 6FA-6FF 710-74A 74D-7B1 7C0-7F5 7FD-7FD 800-82D 840-85B 860-86A",
    "870-887 889-88E 898-8E1 8E3-957 960-963 966-96F 971-983 985-98C 98F-990 993-9A8 9AA-9B0",
    "9B2-9B2 9B6-9B9 9BC-9C4 9C7-9C8 9CB-9CE 9D7-9D7 9E0-9E3 9E6-9F1 9FC-9FC 9FE-9FE A01-A03",
    "A05-A0A A0F-A10 A13-A28 A2A-A30 A32-A32 A35-A35 A38-A39 A3C-A3C A3E-A42 A47-A48 A4B-A4D",
    "A51-A51 A5C-A5C A66-A75 A81-A83 A85-A8D A8F-A91 A93-AA8 AAA-AB0 AB2-AB3 AB5-AB9 ABC-AC5",
    "AC7-AC9 ACB-ACD AD0-AD0 AE0-AE3 AE6-AEF AF9-AFF B01-B03 B05-B0C B0F-B10 B13-B28 B2A-B30",
    "B32-B33 B35-B39 B3C-B44 B47-B48 B4B-B4D B55-B57 B5F-B63 B66-B6F B71-B71 B82-B83 B85-B8A",
    "B8E-B90 B92-B95 B99-B9A B9C-B9C B9E-B9F BA3-BA4 BA8-BAA BAE-BB9 BBE-BC2 BC6-BC8 BCA-BCD",
    "BD0-BD0 BD7-BD7 BE6-BEF C00-C0C C0E-C10 C12-C28 C2A-C39 C3C-C44 C46-C48 C4A-C4D C55-C56",
    "C58-C5A C5D-C5D C60-C63 C66-C6F C80-C83 C85-C8C C8E-C90 C92-CA8 CAA-CB3 CB5-CB9 CBC-CC4",
    "CC6-CC8 CCA-CCD CD5-CD6 CDD-CDE CE0-CE3 CE6-CEF CF1-CF3 D00-D0C D0E-D10 D12-D44 D46-D48",
    "D4A-D4E D54-D57 D5F-D63 D66-D6F D7A-D7F D81-D83 D85-D96 D9A-DB1 DB3-DBB DBD-DBD DC0-DC6",
    "DCA-DCA DCF-DD4 DD6-DD6 DD8-DDF DE6-DEF DF2-DF3 E01-E32 E34-E3A E40-E4E E50-E59 E81-E82",
    "E84-E84 E86-E8A E8C-EA3 EA5-EA5 EA7-EB2 EB4-EBD EC0-EC4 EC6-EC6 EC8-ECE ED0-ED9 EDE-EDF",
    "F00-F00 F0B-F0B F18-F19 F20-F29 F35-F35 F37-F37 F39-F39 F3E-F42 F44-F47 F49-F4C F4E-F51",
    "F53-F56 F58-F5B F5D-F68 F6A-F6C F71-F72 F74-F74 F7A-F80 F82-F84 F86-F92 F94-F97 F99-F9C",
    "F9E-FA1 FA3-FA6 FA8-FAB FAD-FB8 FBA-FBC FC6-FC6 1000-1049 1050-109D 10D0-10FA 10FD-10FF",
    "1200-1248 124A-124D 1250-1256 1258-1258 125A-125D 1260-1288 128A-128D 1290-12B0 12B2-12B5",
    "12B8-12BE 12C0-12C0 12C2-12C5 12C8-12D6 12D8-1310 1312-1315 1318-135A 135D-135F 1380-138F",
    "13A0-13F5 1401-166C 166F-167F 1681-169A 16A0-16EA 16F1-16F8 1700-1715 171F-1734 1740-1753",
    "1760-176C 176E-1770 1772-1773 1780-17B3 17B6-17D3 17D7-17D7 17DC-17DD 17E0-17E9 1810-1819",
    "1820-1878 1880-18AA 18B0-18F5 1900-191E 1920-192B 1930-193B 1946-196D 1970-1974 1980-19AB",
    "19B0-19C9 19D0-19D9 1A00-1A1B 1A20-1A5E 1A60-1A7C 1A7F-1A89 1A90-1A99 1AA7-1AA7 1AB0-1ABD",
    "1ABF-1ACE 1B00-1B4C 1B50-1B59 1B6B-1B73 1B80-1BF3 1C00-1C37 1C40-1C49 1C4D-1C7D 1CD0-1CD2",
    "1CD4-1CFA 1D00-1D2B 1D2F-1D2F 1D3B-1D3B 1D4E-1D4E 1D6B-1D77 1D79-1D9A 1DC0-1DFF 1E01-1E01",
    "1E03-1E03 1E05-1E05 1E07-1E07 1E09-1E09 1E0B-1E0B 1E0D-1E0D 1E0F-1E0F 1E11-1E11 1E13-1E13",
    "1E15-1E15 1E17-1E17 1E19-1E19 1E1B-1E1B 1E1D-1E1D 1E1F-1E1F 1E21-1E21 1E23-1E23 1E25-1E25",
    "1E27-1E27 1E29-1E29 1E2B-1E2B 1E2D-1E2D 1E2F-1E2F 1E31-1E31 1E33-1E33 1E35-1E35 1E37-1E37",
    "1E39-1E39 1E3B-1E3B 1E3D-1E3D 1E3F-1E3F 1E41-1E41 1E43-1E43 1E45-1E45 1E47-1E47 1E49-1E49",
    "1E4B-1E4B 1E4D-1E4D 1E4F-1E4F 1E51-1E51 1E53-1E53 1E55-1E55 1E57-1E57 1E59-1E59 1E5B-1E5B",
    "1E5D-1E5D 1E5F-1E5F 1E61-1E61 1E63-1E63 1E65-1E65 1E67-1E67 1E69-1E69 1E6B-1E6B 1E6D-1E6D",
    "1E6F-1E6F 1E71-1E71 1E73-1E73 1E75-1E75 1E77-1E77 1E79-1E79 1E7B-1E7B 1E7D-1E7D 1E7F-1E7F",
    "1E81-1E81 1E83-1E83 1E85-1E85 1E87-1E87 1E89-1E89 1E8B-1E8B 1E8D-1E8D 1E8F-1E8F 1E91-1E91",
    "1E93-1E93 1E95-1E99 1E9C-1E9D 1E9F-1E9F 1EA1-1EA1 1EA3-1EA3 1EA5-1EA5 1EA7-1EA7 1EA9-1EA9",
    "1EAB-1EAB 1EAD-1EAD 1EAF-1EAF 1EB1-1EB1 1EB3-1EB3 1EB5-1EB5 1EB7-1EB7 1EB9-1EB9 1EBB-1EBB",
    "1EBD-1EBD 1EBF-1EBF 1EC1-1EC1 1EC3-1EC3 1EC5-1EC5 1EC7-1EC7 1EC9-1EC9 1ECB-1ECB 1ECD-1ECD",
    "1ECF-1ECF 1ED1-1ED1 1ED3-1ED3 1ED5-1ED5 1ED7-1ED7 1ED9-1ED9 1EDB-1EDB 1EDD-1EDD 1EDF-1EDF",
    "1EE1-1EE1 1EE3-1EE3 1EE5-1EE5 1EE7-1EE7 1EE9-1EE9 1EEB-1EEB 1EED-1EED 1EEF-1EEF 1EF1-1EF1",
    "1EF3-1EF3 1EF5-1EF5 1EF7-1EF7 1EF9-1EF9 1EFB-1EFB 1EFD-1EFD 1EFF-1F07 1F10-1F15 1F20-1F27",
    "1F30-1F37 1F40-1F45 1F50-1F57 1F60-1F67 1F70-1F70 1F72-1F72 1F74-1F74 1F76-1F76 1F78-1F78",
    "1F7A-1F7A 1F7C-1F7C 1FB0-1FB1 1FB6-1FB6 1FC6-1FC6 1FD0-1FD2 1FD6-1FD7 1FE0-1FE2 1FE4-1FE7",
    "1FF6-1FF6 214E-214E 2184-2184 2C30-2C5F 2C61-2C61 2C65-2C66 2C68-2C68 2C6A-2C6A 2C6C-2C6C",
    "2C71-2C71 2C73-2C74 2C76-2C7B 2C81-2C81 2C83-2C83 2C85-2C85 2C87-2C87 2C89-2C89 2C8B-2C8B",
    "2C8D-2C8D 2C8F-2C8F 2C91-2C91 2C93-2C93 2C95-2C95 2C97-2C97 2C99-2C99 2C9B-2C9B 2C9D-2C9D",
    "2C9F-2C9F 2CA1-2CA1 2CA3-2CA3 2CA5-2CA5 2CA7-2CA7 2CA9-2CA9 2CAB-2CAB 2CAD-2CAD 2CAF-2CAF",
    "2CB1-2CB1 2CB3-2CB3 2CB5-2CB5 2CB7-2CB7 2CB9-2CB9 2CBB-2CBB 2CBD-2CBD 2CBF-2CBF 2CC1-2CC1",
    "2CC3-2CC3 2CC5-2CC5 2CC7-2CC7 2CC9-2CC9 2CCB-2CCB 2CCD-2CCD 2CCF-2CCF 2CD1-2CD1 2CD3-2CD3",
    "2CD5-2CD5 2CD7-2CD7 2CD9-2CD9 2CDB-2CDB 2CDD-2CDD 2CDF-2CDF 2CE1-2CE1 2CE3-2CE4 2CEC-2CEC",
    "2CEE-2CF1 2CF3-2CF3 2D00-2D25 2D27-2D27 2D2D-2D2D 2D30-2D67 2D7F-2D96 2DA0-2DA6 2DA8-2DAE",
    "2DB0-2DB6 2DB8-2DBE 2DC0-2DC6 2DC8-2DCE 2DD0-2DD6 2DD8-2DDE 2DE0-2DFF 2E2F-2E2F 3005-3007",
    "302A-302D 303C-303C 3041-3096 3099-309A 309D-309E 30A1-30FA 30FC-30FE 3105-312F 31A0-31BF",
    "31F0-31FF 3400-4DBF 4E00-A48C A4D0-A4FD A500-A60C A610-A62B A641-A641 A643-A643 A645-A645",
    "A647-A647 A649-A649 A64B-A64B A64D-A64D A64F-A64F A651-A651 A653-A653 A655-A655 A657-A657",
    "A659-A659 A65B-A65B A65D-A65D A65F-A65F A661-A661 A663-A663 A665-A665 A667-A667 A669-A669",
    "A66B-A66B A66D-A66F A674-A67D A67F-A67F A681-A681 A683-A683 A685-A685 A687-A687 A689-A689",
    "A68B-A68B A68D-A68D A68F-A68F A691-A691 A693-A693 A695-A695 A697-A697 A699-A699 A69B-A69B",
    "A69E-A6E5 A6F0-A6F1 A717-A71F A723-A723 A725-A725 A727-A727 A729-A729 A72B-A72B A72D-A72D",
    "A72F-A731 A733-A733 A735-A735 A737-A737 A739-A739 A73B-A73B A73D-A73D A73F-A73F A741-A741",
    "A743-A743 A745-A745 A747-A747 A749-A749 A74B-A74B A74D-A74D A74F-A74F A751-A751 A753-A753",
    "A755-A755 A757-A757 A759-A759 A75B-A75B A75D-A75D A75F-A75F A761-A761 A763-A763 A765-A765",
    "A767-A767 A769-A769 A76B-A76B A76D-A76D A76F-A76F A771-A778 A77A-A77A A77C-A77C A77F-A77F",
    "A781-A781 A783-A783 A785-A785 A787-A788 A78C-A78C A78E-A78F A791-A791 A793-A795 A797-A797",
    "A799-A799 A79B-A79B A79D-A79D A79F-A79F A7A1-A7A1 A7A3-A7A3 A7A5-A7A5 A7A7-A7A7 A7A9-A7A9",
    "A7AF-A7AF A7B5-A7B5 A7B7-A7B7 A7B9-A7B9 A7BB-A7BB A7BD-A7BD A7BF-A7BF A7C1-A7C1 A7C3-A7C3",
    "A7C8-A7C8 A7CA-A7CA A7D1-A7D1 A7D3-A7D3 A7D5-A7D5 A7D7-A7D7 A7D9-A7D9 A7F6-A7F7 A7FA-A827",
    "A82C-A82C A840-A873 A880-A8C5 A8D0-A8D9 A8E0-A8F7 A8FB-A8FB A8FD-A92D A930-A953 A980-A9C0",
    "A9CF-A9D9 A9E0-A9FE AA00-AA36 AA40-AA4D AA50-AA59 AA60-AA76 AA7A-AAC2 AADB-AADD AAE0-AAEF",
    "AAF2-AAF6 AB01-AB06 AB09-AB0E AB11-AB16 AB20-AB26 AB28-AB2E AB30-AB5A AB60-AB68 ABC0-ABEA",
    "ABEC-ABED ABF0-ABF9 AC00-D7A3 FA0E-FA0F FA11-FA11 FA13-FA14 FA1F-FA1F FA21-FA21 FA23-FA24",
    "FA27-FA29 FB1E-FB1E FE20-FE2F FE73-FE73 10000-1000B 1000D-10026 10028-1003A 1003C-1003D",
    "1003F-1004D 10050-1005D 10080-100FA 101FD-101FD 10280-1029C 102A0-102D0 102E0-102E0",
    "10300-1031F 1032D-10340 10342-10349 10350-1037A 10380-1039D 103A0-103C3 103C8-103CF",
    "10428-1049D 104A0-104A9 104D8-104FB 10500-10527 10530-10563 10597-105A1 105A3-105B1",
    "105B3-105B9 105BB-105BC 10600-10736 10740-10755 10760-10767 10780-10780 10800-10805",
    "10808-10808 1080A-10835 10837-10838 1083C-1083C 1083F-10855 10860-10876 10880-1089E",
    "108E0-108F2 108F4-108F5 10900-10915 10920-10939 10980-109B7 109BE-109BF 10A00-10A03",
    "10A05-10A06 10A0C-10A13 10A15-10A17 10A19-10A35 10A38-10A3A 10A3F-10A3F 10A60-10A7C",
    "10A80-10A9C 10AC0-10AC7 10AC9-10AE6 10B00-10B35 10B40-10B55 10B60-10B72 10B80-10B91",
    "10C00-10C48 10CC0-10CF2 10D00-10D27 10D30-10D39 10E80-10EA9 10EAB-10EAC 10EB0-10EB1",
    "10EFD-10F1C 10F27-10F27 10F30-10F50 10F70-10F85 10FB0-10FC4 10FE0-10FF6 11000-11046",
    "11066-11075 1107F-110BA 110C2-110C2 110D0-110E8 110F0-110F9 11100-11134 11136-1113F",
    "11144-11147 11150-11173 11176-11176 11180-111C4 111C9-111CC 111CE-111DA 111DC-111DC",
    "11200-11211 11213-11237 1123E-11241 11280-11286 11288-11288 1128A-1128D 1128F-1129D",
    "1129F-112A8 112B0-112EA 112F0-112F9 11300-11303 11305-1130C 1130F-11310 11313-11328",
    "1132A-11330 11332-11333 11335-11339 1133B-11344 11347-11348 1134B-1134D 11350-11350",
    "11357-11357 1135D-11363 11366-1136C 11370-11374 11400-1144A 11450-11459 1145E-11461",
    "11480-114C5 114C7-114C7 114D0-114D9 11580-115B5 115B8-115C0 115D8-115DD 11600-11640",
    "11644-11644 11650-11659 11680-116B8 116C0-116C9 11700-1171A 1171D-1172B 11730-11739",
    "11740-11746 11800-1183A 118C0-118E9 118FF-11906 11909-11909 1190C-11913 11915-11916",
    "11918-11935 11937-11938 1193B-11943 11950-11959 119A0-119A7 119AA-119D7 119DA-119E1",
    "119E3-119E4 11A00-11A3E 11A47-11A47 11A50-11A99 11A9D-11A9D 11AB0-11AF8 11C00-11C08",
    "11C0A-11C36 11C38-11C40 11C50-11C59 11C72-11C8F 11C92-11CA7 11CA9-11CB6 11D00-11D06",
    "11D08-11D09 11D0B-11D36 11D3A-11D3A 11D3C-11D3D 11D3F-11D47 11D50-11D59 11D60-11D65",
    "11D67-11D68 11D6A-11D8E 11D90-11D91 11D93-11D98 11DA0-11DA9 11EE0-11EF6 11F00-11F10",
    "11F12-11F3A 11F3E-11F42 11F50-11F59 11FB0-11FB0 12000-12399 12480-12543 12F90-12FF0",
    "13000-1342F 13440-13455 14400-14646 16800-16A38 16A40-16A5E 16A60-16A69 16A70-16ABE",
    "16AC0-16AC9 16AD0-16AED 16AF0-16AF4 16B00-16B36 16B40-16B43 16B50-16B59 16B63-16B77",
    "16B7D-16B8F 16E60-16E7F 16F00-16F4A 16F4F-16F87 16F8F-16F9F 16FE0-16FE1 16FE3-16FE4",
    "16FF0-16FF1 17000-187F7 18800-18CD5 18D00-18D08 1AFF0-1AFF3 1AFF5-1AFFB 1AFFD-1AFFE",
    "1B000-1B122 1B132-1B132 1B150-1B152 1B155-1B155 1B164-1B167 1B170-1B2FB 1BC00-1BC6A",
    "1BC70-1BC7C 1BC80-1BC88 1BC90-1BC99 1BC9D-1BC9E 1CF00-1CF2D 1CF30-1CF46 1DA00-1DA36",
    "1DA3B-1DA6C 1DA75-1DA75 1DA84-1DA84 1DA9B-1DA9F 1DAA1-1DAAF 1DF00-1DF1E 1DF25-1DF2A",
    "1E000-1E006 1E008-1E018 1E01B-1E021 1E023-1E024 1E026-1E02A 1E08F-1E08F 1E100-1E12C",
    "1E130-1E13D 1E140-1E149 1E14E-1E14E 1E290-1E2AE 1E2C0-1E2F9 1E4D0-1E4F9 1E7E0-1E7E6",
    "1E7E8-1E7EB 1E7ED-1E7EE 1E7F0-1E7FE 1E800-1E8C4 1E8D0-1E8D6 1E922-1E94B 1E950-1E959",
    "20000-2A6DF 2A700-2B739 2B740-2B81D 2B820-2CEA1 2CEB0-2EBE0 2EBF0-2EE5D 30000-3134A",
    "31350-323AF"]

end RequestSurface.HostName
