/-!
# Scripts

Unicode 15.1 data: the scripts that some code points of a host name must stand beside. Ranges are
written `first-last`, bounds included, in increasing order and in hexadecimal.
-/

namespace RequestSurface.HostName

/-- Greek. -/
def greekRanges : List String :=
  ["370-373 375-377 37A-37D 37F-37F 384-384 386-386 388-38A 38C-38C 38E-3A1 3A3-3E1 3F0-3FF",
    "1D26-1D2A 1D5D-1D61 1D66-1D6A 1DBF-1DBF 1F00-1F15 1F18-1F1D 1F20-1F45 1F48-1F4D 1F50-1F57",
    "1F59-1F59 1F5B-1F5B 1F5D-1F5D 1F5F-1F7D 1F80-1FB4 1FB6-1FC4 1FC6-1FD3 1FD6-1FDB 1FDD-1FEF",
    "1FF2-1FF4 1FF6-1FFE 2126-2126 AB65-AB65 10140-1018E 101A0-101A0 1D200-1D245"]

/-- Hebrew. -/
def hebrewRanges : List String :=
  ["591-5C7 5D0-5EA 5EF-5F4 FB1D-FB36 FB38-FB3C FB3E-FB3E FB40-FB41 FB43-FB44 FB46-FB4F"]

/-- Hiragana, Katakana and Han. -/
def japaneseRanges : List String :=
  ["2E80-2E99 2E9B-2EF3 2F00-2FD5 3005-3005 3007-3007 3021-3029 3038-303B 3041-3096 309D-309F",
    "30A1-30FA 30FD-30FF 31F0-31FF 32D0-32FE 3300-3357 3400-4DBF 4E00-9FFF F900-FA6D FA70-FAD9",
    "FF66-FF6F FF71-FF9D 16FE2-16FE3 16FF0-16FF1 1AFF0-1AFF3 1AFF5-1AFFB 1AFFD-1AFFE 1B000-1B122",
    "1B132-1B132 1B150-1B152 1B155-1B155 1B164-1B167 1F200-1F200 20000-2A6DF 2A700-2B739",
    "2B740-2B81D 2B820-2CEA1 2CEB0-2EBE0 2EBF0-2EE5D 2F800-2FA1D 30000-3134A 31350-323AF"]

end RequestSurface.HostName
