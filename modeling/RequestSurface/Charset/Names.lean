import RequestSurface.Charset.Basic
import RequestSurface.Charset.DesktopTables
import RequestSurface.Charset.MainframeTables
import RequestSurface.Charset.StandardTables
import RequestSurface.Charset.TerminalTables
import RequestSurface.Charset.WindowsTables
import RequestSurface.Text.Pieces

/-!
# Names of charsets

Charsets are known by many names, in which neither case nor the marks between words count.
-/

namespace RequestSurface.Charset

/-- The names of a charset: its own one first, then others, with blanks between. -/
def namedCharsets : List (String × Charset) :=
  [("utf_8 cp65001 u8 utf utf8 utf8_ucs2 utf8_ucs4", .utf8),
    ("utf_8_sig", .markedUtf8),
    ("utf_16 u16 utf16", .pairs none),
    ("utf_16_le unicodelittleunmarked utf_16le", .pairs (some .little)),
    ("utf_16_be unicodebigunmarked utf_16be", .pairs (some .big)),
    ("utf_32 u32 utf32", .quads none),
    ("utf_32_le utf_32le", .quads (some .little)),
    ("utf_32_be utf_32be", .quads (some .big)),
    ("utf_7 u7 unicode_1_1_utf_7 utf7", .shifted),
    ("unicode_escape", .escaped true),
    ("raw_unicode_escape", .escaped false),
    ("latin_1 8859 cp819 csisolatin1 ibm819 iso8859 iso8859_1 iso_8859_1 iso_8859_1_1987 " ++
      "iso_ir_100 l1 latin latin1", .bytes .latin),
    ("iso8859_1", .bytes .latin),
    ("charmap", .bytes .latin),
    ("ascii 646 ansi_x3.4_1968 ansi_x3.4_1986 ansi_x3_4_1968 cp367 csascii ibm367 " ++
      "iso646_us iso_646.irv_1991 iso_ir_6 us us_ascii", .bytes ascii),
    ("iso8859_2 csisolatin2 iso_8859_2 iso_8859_2_1987 iso_ir_101 l2 latin2", .bytes iso88592),
    ("iso8859_3 csisolatin3 iso_8859_3 iso_8859_3_1988 iso_ir_109 l3 latin3", .bytes iso88593),
    ("iso8859_4 csisolatin4 iso_8859_4 iso_8859_4_1988 iso_ir_110 l4 latin4", .bytes iso88594),
    ("iso8859_5 csisolatincyrillic cyrillic iso_8859_5 iso_8859_5_1988 iso_ir_144",
      .bytes iso88595),
    ("iso8859_6 arabic asmo_708 csisolatinarabic ecma_114 iso_8859_6 iso_8859_6_1987 " ++
      "iso_ir_127", .bytes iso88596),
    ("iso8859_7 csisolatingreek ecma_118 elot_928 greek greek8 iso_8859_7 iso_8859_7_1987 " ++
      "iso_ir_126", .bytes iso88597),
    ("iso8859_8 csisolatinhebrew hebrew iso_8859_8 iso_8859_8_1988 iso_ir_138", .bytes iso88598),
    ("iso8859_9 csisolatin5 iso_8859_9 iso_8859_9_1989 iso_ir_148 l5 latin5", .bytes iso88599),
    ("iso8859_10 csisolatin6 iso_8859_10 iso_8859_10_1992 iso_ir_157 l6 latin6", .bytes iso885910),
    ("iso8859_11 iso_8859_11 iso_8859_11_2001 thai", .bytes iso885911),
    ("iso8859_13 iso_8859_13 l7 latin7", .bytes iso885913),
    ("iso8859_14 iso_8859_14 iso_8859_14_1998 iso_celtic iso_ir_199 l8 latin8", .bytes iso885914),
    ("iso8859_15 iso_8859_15 l9 latin9", .bytes iso885915),
    ("iso8859_16 iso_8859_16 iso_8859_16_2001 iso_ir_226 l10 latin10", .bytes iso885916),
    ("tis_620 iso_ir_166 tis620 tis_620_0 tis_620_2529_0 tis_620_2529_1", .bytes tis620),
    ("cp874", .bytes cp874),
    ("cp1250 1250 windows_1250", .bytes cp1250),
    ("cp1251 1251 windows_1251", .bytes cp1251),
    ("cp1252 1252 windows_1252", .bytes cp1252),
    ("cp1253 1253 windows_1253", .bytes cp1253),
    ("cp1254 1254 windows_1254", .bytes cp1254),
    ("cp1255 1255 windows_1255", .bytes cp1255),
    ("cp1256 1256 windows_1256", .bytes cp1256),
    ("cp1257 1257 windows_1257", .bytes cp1257),
    ("cp1258 1258 windows_1258", .bytes cp1258),
    ("palmos", .bytes palmos),
    ("kz1048 kz_1048 rk1048 strk1048_2002", .bytes kz1048),
    ("ptcp154 cp154 csptcp154 cyrillic_asian pt154", .bytes ptcp154),
    ("cp437 437 cspc8codepage437 ibm437", .bytes cp437),
    ("cp720", .bytes cp720),
    ("cp737", .bytes cp737),
    ("cp775 775 cspc775baltic ibm775", .bytes cp775),
    ("cp850 850 cspc850multilingual ibm850", .bytes cp850),
    ("cp852 852 cspcp852 ibm852", .bytes cp852),
    ("cp855 855 csibm855 ibm855", .bytes cp855),
    ("cp856", .bytes cp856),
    ("cp857 857 csibm857 ibm857", .bytes cp857),
    ("cp858 858 csibm858 ibm858", .bytes cp858),
    ("cp860 860 csibm860 ibm860", .bytes cp860),
    ("cp861 861 cp_is csibm861 ibm861", .bytes cp861),
    ("cp862 862 cspc862latinhebrew ibm862", .bytes cp862),
    ("cp863 863 csibm863 ibm863", .bytes cp863),
    ("cp864 864 csibm864 ibm864", .bytes cp864),
    ("cp865 865 csibm865 ibm865", .bytes cp865),
    ("cp866 866 csibm866 ibm866", .bytes cp866),
    ("cp869 869 cp_gr csibm869 ibm869", .bytes cp869),
    ("cp1006", .bytes cp1006),
    ("cp1125 1125 cp866u ibm1125 ruscii", .bytes cp1125),
    ("koi8_r cskoi8r", .bytes koi8R),
    ("koi8_t", .bytes koi8T),
    ("koi8_u", .bytes koi8U),
    ("hp_roman8 cp1051 ibm1051 r8 roman8", .bytes hpRoman8),
    ("mac_roman macintosh macroman", .bytes macRoman),
    ("mac_arabic", .bytes macArabic),
    ("mac_croatian", .bytes macCroatian),
    ("mac_cyrillic maccyrillic", .bytes macCyrillic),
    ("mac_farsi", .bytes macFarsi),
    ("mac_greek macgreek", .bytes macGreek),
    ("mac_iceland maciceland", .bytes macIceland),
    ("mac_latin2 mac_centeuro maccentraleurope maclatin2", .bytes macLatin2),
    ("mac_romanian", .bytes macRomanian),
    ("mac_turkish macturkish", .bytes macTurkish),
    ("cp037 037 csibm037 ebcdic_cp_ca ebcdic_cp_nl ebcdic_cp_us ebcdic_cp_wt ibm037 " ++
      "ibm039", .bytes cp037),
    ("cp273 273 csibm273 ibm273", .bytes cp273),
    ("cp424 424 csibm424 ebcdic_cp_he ibm424", .bytes cp424),
    ("cp500 500 csibm500 ebcdic_cp_be ebcdic_cp_ch ibm500", .bytes cp500),
    ("cp875", .bytes cp875),
    ("cp1026 1026 csibm1026 ibm1026", .bytes cp1026),
    ("cp1140 1140 ibm1140", .bytes cp1140),
    ("shift_jis csshiftjis s_jis shiftjis sjis x_mac_japanese", .signs readShiftJis),
    ("cp932 932 ms932 ms_kanji mskanji", .signs readCp932),
    ("shift_jis_2004 s_jis_2004 shiftjis2004 sjis_2004", .signs (readShiftJis2004 .revised)),
    ("shift_jisx0213 s_jisx0213 shiftjisx0213 sjisx0213", .signs (readShiftJis2004 .original)),
    ("euc_jp eucjp u_jis ujis", .signs readEucJp),
    ("euc_jis_2004 euc_jis2004 eucjis2004 jisx0213", .signs (readEucJis .revised)),
    ("euc_jisx0213 eucjisx0213", .signs (readEucJis .original)),
    ("iso2022_jp csiso2022jp iso2022jp iso_2022_jp",
      .designated { sets := [.jisX0208, .oldJisX0208, .roman] }),
    ("iso2022_jp_1 iso2022jp_1 iso_2022_jp_1",
      .designated { sets := [.jisX0208, .oldJisX0208, .roman, .jisX0212] }),
    ("iso2022_jp_2 iso2022jp_2 iso_2022_jp_2",
      .designated
        { sets :=
            [.jisX0208, .oldJisX0208, .jisX0212, .ksX1001, .gb2312, .roman, .latin, .greek],
          hasThird := true }),
    ("iso2022_jp_2004 iso2022jp_2004 iso_2022_jp_2004",
      .designated { sets := [.firstPlane .revised, .jisX0208, .secondPlane] }),
    ("iso2022_jp_3 iso2022jp_3 iso_2022_jp_3",
      .designated { sets := [.firstPlane .original, .jisX0208, .secondPlane] }),
    ("iso2022_jp_ext iso2022jp_ext iso_2022_jp_ext",
      .designated { sets := [.jisX0208, .oldJisX0208, .roman, .kana, .jisX0212] }),
    ("gb2312 chinese csiso58gb231280 euc_cn euccn eucgb2312_cn gb2312_1980 gb2312_80 " ++
      "iso_ir_58 x_mac_simp_chinese", .signs readGb2312),
    ("gbk 936 cp936 ms936", .signs readGbk),
    ("gb18030 gb18030_2000", .signs readGb18030),
    ("hz hz_gb hz_gb_2312 hzgb", .braced),
    ("big5 big5_tw csbig5 x_mac_trad_chinese", .signs readBig5),
    ("cp950 950 ms950", .signs readCp950),
    ("big5hkscs big5_hkscs hkscs", .signs readBig5Hkscs),
    ("euc_kr euckr korean ks_c_5601 ks_c_5601_1987 ks_x_1001 ksc5601 ksx1001 x_mac_korean",
      .signs readEucKr),
    ("cp949 949 ms949 uhc", .signs readCp949),
    ("johab cp1361 ms1361", .signs readJohab),
    ("iso2022_kr csiso2022kr iso2022kr iso_2022_kr",
      .designated { sets := [.ksX1001], mayTurn := true, hasPrefix := false }),
    ("punycode", .placed),
    ("base64_codec base64 base_64", .unfit .packed),
    ("bz2_codec bz2", .unfit .packed),
    ("hex_codec hex", .unfit .packed),
    ("quopri_codec quopri quoted_printable quotedprintable", .unfit .packed),
    ("uu_codec uu", .unfit .packed),
    ("zlib_codec zip zlib", .unfit .packed),
    ("rot_13 rot13", .unfit .cipher),
    ("idna", .unfit .hostNames),
    ("undefined", .unfit .nothing)]

/-- A name with one underscore for each row of marks between words, and none around them. Points
stay. -/
def plainName (name : List Char) : List Char :=
  let keeps (character : Char) := character.isAlphanum || character == '.'
  let words := (Text.piecesBy (!keeps ·) name).filter (!·.isEmpty)
  (List.intercalate ['_'] words).map Char.toLower

/-- The charset of a name. In names other than its own one, a point may stand for an underscore. -/
def ofName? (name : List Char) : Option Charset :=
  let plain := plainName name
  let pointless := plain.map fun character => if character == '.' then '_' else character
  namedCharsets.findSome? fun (names, charset) =>
    match Text.piecesAt ' ' names.toList with
    | [] => none
    | own :: others =>
        if own == plain || others.contains plain || others.contains pointless then some charset
        else none

end RequestSurface.Charset
