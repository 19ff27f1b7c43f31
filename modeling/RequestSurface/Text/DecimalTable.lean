/-!
# Decimal digits

Unicode 14.0 data: the decimal digits of every script. Each script has ten of them in a row.
-/

namespace RequestSurface.Text

/-- The digits zero, as ranges `first-last`, bounds included, in increasing order and in
hexadecimal. -/
def zeroRanges : List String :=
  ["30-30 660-660 6F0-6F0 7C0-7C0 966-966 9E6-9E6 A66-A66 AE6-AE6 B66-B66 BE6-BE6 C66-C66",
    "CE6-CE6 D66-D66 DE6-DE6 E50-E50 ED0-ED0 F20-F20 1040-1040 1090-1090 17E0-17E0 1810-1810",
    "1946-1946 19D0-19D0 1A80-1A80 1A90-1A90 1B50-1B50 1BB0-1BB0 1C40-1C40 1C50-1C50 A620-A620",
    "A8D0-A8D0 A900-A900 A9D0-A9D0 A9F0-A9F0 AA50-AA50 ABF0-ABF0 FF10-FF10 104A0-104A0",
    "10D30-10D30 11066-11066 110F0-110F0 11136-11136 111D0-111D0 112F0-112F0 11450-11450",
    "114D0-114D0 11650-11650 116C0-116C0 11730-11730 118E0-118E0 11950-11950 11C50-11C50",
    "11D50-11D50 11DA0-11DA0 16A60-16A60 16AC0-16AC0 16B50-16B50 1D7CE-1D7CE 1D7D8-1D7D8",
    "1D7E2-1D7E2 1D7EC-1D7EC 1D7F6-1D7F6 1E140-1E140 1E2F0-1E2F0 1E950-1E950 1FBF0-1FBF0"]

end RequestSurface.Text
