import PushRelay.Octets.Charset
import PushRelay.Octets.Page.Ibm
import PushRelay.Octets.Page.Macintosh
import PushRelay.Octets.Page.Mainframe
import PushRelay.Octets.Page.National
import PushRelay.Octets.Page.Windows
import PushRelay.Text.Ascii

/-!
# Names of character sets

A character set has names of its own and other names. The other names may have
points where they have underscores; whatever else stands between letters and
digits counts as one underscore.
-/

namespace PushRelay.Octets

/-- A character set with its names. -/
structure CharsetEntry where
  charset : Charset
  own : List String
  others : List String

namespace Charset

/-- All character sets with their names. -/
def entries : List CharsetEntry := [
  ⟨.plain .utf8, ["utf_8"], ["cp65001", "u8", "utf", "utf8", "utf8_ucs2", "utf8_ucs4"]⟩,
  ⟨.plain .latin1, ["latin_1", "charmap"], ["8859", "cp819", "csisolatin1", "ibm819", "iso8859",
    "iso8859_1", "iso_8859_1", "iso_8859_1_1987", "iso_ir_100", "l1", "latin", "latin1"]⟩,
  ⟨.plain .ascii, ["ascii"], ["646", "ansi_x3.4_1968", "ansi_x3.4_1986", "ansi_x3_4_1968", "cp367",
    "csascii", "ibm367", "iso646_us", "iso_646.irv_1991", "iso_ir_6", "us", "us_ascii"]⟩,
  ⟨.plain (.utf16 .little), ["utf_16_le"], ["unicodelittleunmarked", "utf_16le"]⟩,
  ⟨.plain (.utf16 .big), ["utf_16_be"], ["unicodebigunmarked", "utf_16be"]⟩,
  ⟨.plain (.utf32 .little), ["utf_32_le"], ["utf_32le"]⟩,
  ⟨.plain (.utf32 .big), ["utf_32_be"], ["utf_32be"]⟩,
  ⟨.marked8, ["utf_8_sig"], []⟩,
  ⟨.marked16, ["utf_16"], ["u16", "utf16"]⟩,
  ⟨.marked32, ["utf_32"], ["u32", "utf32"]⟩,
  ⟨.utf7, ["utf_7"], ["u7", "unicode_1_1_utf_7", "utf7"]⟩,
  ⟨.page Page.latin2, ["iso8859_2"], ["csisolatin2", "iso_8859_2", "iso_8859_2_1987", "iso_ir_101",
    "l2", "latin2"]⟩,
  ⟨.page Page.latin3, ["iso8859_3"], ["csisolatin3", "iso_8859_3", "iso_8859_3_1988", "iso_ir_109",
    "l3", "latin3"]⟩,
  ⟨.page Page.latin4, ["iso8859_4"], ["csisolatin4", "iso_8859_4", "iso_8859_4_1988", "iso_ir_110",
    "l4", "latin4"]⟩,
  ⟨.page Page.latinCyrillic, ["iso8859_5"], ["csisolatincyrillic", "cyrillic", "iso_8859_5",
    "iso_8859_5_1988", "iso_ir_144"]⟩,
  ⟨.page Page.latinArabic, ["iso8859_6"], ["arabic", "asmo_708", "csisolatinarabic", "ecma_114",
    "iso_8859_6", "iso_8859_6_1987", "iso_ir_127"]⟩,
  ⟨.page Page.latinGreek, ["iso8859_7"], ["csisolatingreek", "ecma_118", "elot_928", "greek",
    "greek8", "iso_8859_7", "iso_8859_7_1987", "iso_ir_126"]⟩,
  ⟨.page Page.latinHebrew, ["iso8859_8"], ["csisolatinhebrew", "hebrew", "iso_8859_8",
    "iso_8859_8_1988", "iso_ir_138"]⟩,
  ⟨.page Page.latin5, ["iso8859_9"], ["csisolatin5", "iso_8859_9", "iso_8859_9_1989", "iso_ir_148",
    "l5", "latin5"]⟩,
  ⟨.page Page.latin6, ["iso8859_10"], ["csisolatin6", "iso_8859_10", "iso_8859_10_1992",
    "iso_ir_157", "l6", "latin6"]⟩,
  ⟨.page Page.latinThai, ["iso8859_11"], ["iso_8859_11", "iso_8859_11_2001", "thai"]⟩,
  ⟨.page Page.latin7, ["iso8859_13"], ["iso_8859_13", "l7", "latin7"]⟩,
  ⟨.page Page.latin8, ["iso8859_14"], ["iso_8859_14", "iso_8859_14_1998", "iso_celtic",
    "iso_ir_199", "l8", "latin8"]⟩,
  ⟨.page Page.latin9, ["iso8859_15"], ["iso_8859_15", "l9", "latin9"]⟩,
  ⟨.page Page.latin10, ["iso8859_16"], ["iso_8859_16", "iso_8859_16_2001", "iso_ir_226", "l10",
    "latin10"]⟩,
  ⟨.page Page.thai, ["tis_620"], ["iso_ir_166", "tis620", "tis_620_0", "tis_620_2529_0",
    "tis_620_2529_1"]⟩,
  ⟨.page Page.windows874, ["cp874"], []⟩,
  ⟨.page Page.windows1250, ["cp1250"], ["1250", "windows_1250"]⟩,
  ⟨.page Page.windows1251, ["cp1251"], ["1251", "windows_1251"]⟩,
  ⟨.page Page.windows1252, ["cp1252"], ["1252", "windows_1252"]⟩,
  ⟨.page Page.windows1253, ["cp1253"], ["1253", "windows_1253"]⟩,
  ⟨.page Page.windows1254, ["cp1254"], ["1254", "windows_1254"]⟩,
  ⟨.page Page.windows1255, ["cp1255"], ["1255", "windows_1255"]⟩,
  ⟨.page Page.windows1256, ["cp1256"], ["1256", "windows_1256"]⟩,
  ⟨.page Page.windows1257, ["cp1257"], ["1257", "windows_1257"]⟩,
  ⟨.page Page.windows1258, ["cp1258"], ["1258", "windows_1258"]⟩,
  ⟨.page Page.palmOs, ["palmos"], []⟩,
  ⟨.page Page.ibm437, ["cp437"], ["437", "cspc8codepage437", "ibm437"]⟩,
  ⟨.page Page.ibm720, ["cp720"], []⟩,
  ⟨.page Page.ibm737, ["cp737"], []⟩,
  ⟨.page Page.ibm775, ["cp775"], ["775", "cspc775baltic", "ibm775"]⟩,
  ⟨.page Page.ibm850, ["cp850"], ["850", "cspc850multilingual", "ibm850"]⟩,
  ⟨.page Page.ibm852, ["cp852"], ["852", "cspcp852", "ibm852"]⟩,
  ⟨.page Page.ibm855, ["cp855"], ["855", "csibm855", "ibm855"]⟩,
  ⟨.page Page.ibm856, ["cp856"], []⟩,
  ⟨.page Page.ibm857, ["cp857"], ["857", "csibm857", "ibm857"]⟩,
  ⟨.page Page.ibm858, ["cp858"], ["858", "csibm858", "ibm858"]⟩,
  ⟨.page Page.ibm860, ["cp860"], ["860", "csibm860", "ibm860"]⟩,
  ⟨.page Page.ibm861, ["cp861"], ["861", "cp_is", "csibm861", "ibm861"]⟩,
  ⟨.page Page.ibm862, ["cp862"], ["862", "cspc862latinhebrew", "ibm862"]⟩,
  ⟨.page Page.ibm863, ["cp863"], ["863", "csibm863", "ibm863"]⟩,
  ⟨.page Page.ibm864, ["cp864"], ["864", "csibm864", "ibm864"]⟩,
  ⟨.page Page.ibm865, ["cp865"], ["865", "csibm865", "ibm865"]⟩,
  ⟨.page Page.ibm866, ["cp866"], ["866", "csibm866", "ibm866"]⟩,
  ⟨.page Page.ibm869, ["cp869"], ["869", "cp_gr", "csibm869", "ibm869"]⟩,
  ⟨.page Page.ibm1006, ["cp1006"], []⟩,
  ⟨.page Page.ibm1125, ["cp1125"], ["1125", "cp866u", "ibm1125", "ruscii"]⟩,
  ⟨.page Page.ebcdic37, ["cp037"], ["037", "csibm037", "ebcdic_cp_ca", "ebcdic_cp_nl",
    "ebcdic_cp_us", "ebcdic_cp_wt", "ibm037", "ibm039"]⟩,
  ⟨.page Page.ebcdic273, ["cp273"], ["273", "csibm273", "ibm273"]⟩,
  ⟨.page Page.ebcdic424, ["cp424"], ["424", "csibm424", "ebcdic_cp_he", "ibm424"]⟩,
  ⟨.page Page.ebcdic500, ["cp500"], ["500", "csibm500", "ebcdic_cp_be", "ebcdic_cp_ch", "ibm500"]⟩,
  ⟨.page Page.ebcdic875, ["cp875"], []⟩,
  ⟨.page Page.ebcdic1026, ["cp1026"], ["1026", "csibm1026", "ibm1026"]⟩,
  ⟨.page Page.ebcdic1140, ["cp1140"], ["1140", "ibm1140"]⟩,
  ⟨.page Page.macArabic, ["mac_arabic"], []⟩,
  ⟨.page Page.macCroatian, ["mac_croatian"], []⟩,
  ⟨.page Page.macCyrillic, ["mac_cyrillic"], ["maccyrillic"]⟩,
  ⟨.page Page.macFarsi, ["mac_farsi"], []⟩,
  ⟨.page Page.macGreek, ["mac_greek"], ["macgreek"]⟩,
  ⟨.page Page.macIceland, ["mac_iceland"], ["maciceland"]⟩,
  ⟨.page Page.macLatin2, ["mac_latin2"], ["mac_centeuro", "maccentraleurope", "maclatin2"]⟩,
  ⟨.page Page.macRoman, ["mac_roman"], ["macintosh", "macroman"]⟩,
  ⟨.page Page.macRomanian, ["mac_romanian"], []⟩,
  ⟨.page Page.macTurkish, ["mac_turkish"], ["macturkish"]⟩,
  ⟨.page Page.koi8R, ["koi8_r"], ["cskoi8r"]⟩,
  ⟨.page Page.koi8T, ["koi8_t"], []⟩,
  ⟨.page Page.koi8U, ["koi8_u"], []⟩,
  ⟨.page Page.kz1048, ["kz1048"], ["kz_1048", "rk1048", "strk1048_2002"]⟩,
  ⟨.page Page.ptcp154, ["ptcp154"], ["cp154", "csptcp154", "cyrillic_asian", "pt154"]⟩,
  ⟨.page Page.hpRoman8, ["hp_roman8"], ["cp1051", "csHPRoman8", "ibm1051", "r8", "roman8"]⟩,
  ⟨.eastAsian .gb2312, ["gb2312"], ["chinese", "csiso58gb231280", "euc_cn", "euccn", "eucgb2312_cn",
    "gb2312_1980", "gb2312_80", "iso_ir_58", "x_mac_simp_chinese"]⟩,
  ⟨.eastAsian .gbk, ["gbk"], ["936", "cp936", "ms936"]⟩,
  ⟨.eastAsian .gb18030, ["gb18030"], ["gb18030_2000"]⟩,
  ⟨.eastAsian .hz, ["hz"], ["hz_gb", "hz_gb_2312", "hzgb"]⟩,
  ⟨.eastAsian .big5, ["big5"], ["big5_tw", "csbig5", "x_mac_trad_chinese"]⟩,
  ⟨.eastAsian .windows950, ["cp950"], ["950", "ms950"]⟩,
  ⟨.eastAsian .hongKong, ["big5hkscs"], ["big5_hkscs", "hkscs"]⟩,
  ⟨.eastAsian .eucKr, ["euc_kr"], ["euckr", "korean", "ks_c_5601", "ks_c_5601_1987", "ks_x_1001",
    "ksc5601", "ksx1001", "x_mac_korean"]⟩,
  ⟨.eastAsian .windows949, ["cp949"], ["949", "ms949", "uhc"]⟩,
  ⟨.eastAsian .johab, ["johab"], ["cp1361", "ms1361"]⟩,
  ⟨.eastAsian .eucJp, ["euc_jp"], ["eucjp", "u_jis", "ujis"]⟩,
  ⟨.eastAsian (.eucJis .of2000), ["euc_jisx0213"], ["eucjisx0213"]⟩,
  ⟨.eastAsian (.eucJis .of2004), ["euc_jis_2004"], ["euc_jis2004", "eucjis2004", "jisx0213"]⟩,
  ⟨.eastAsian .shiftJis, ["shift_jis"], ["csshiftjis", "s_jis", "shiftjis", "sjis",
    "x_mac_japanese"]⟩,
  ⟨.eastAsian (.shiftJisX .of2000), ["shift_jisx0213"], ["s_jisx0213", "shiftjisx0213",
    "sjisx0213"]⟩,
  ⟨.eastAsian (.shiftJisX .of2004), ["shift_jis_2004"], ["s_jis_2004", "shiftjis2004",
    "sjis_2004"]⟩,
  ⟨.eastAsian .windows932, ["cp932"], ["932", "ms932", "ms_kanji", "mskanji"]⟩,
  ⟨.eastAsian .iso2022Jp, ["iso2022_jp"], ["csiso2022jp", "iso2022jp", "iso_2022_jp"]⟩,
  ⟨.eastAsian .iso2022Jp1, ["iso2022_jp_1"], ["iso2022jp_1", "iso_2022_jp_1"]⟩,
  ⟨.eastAsian .iso2022Jp2, ["iso2022_jp_2"], ["iso2022jp_2", "iso_2022_jp_2"]⟩,
  ⟨.eastAsian (.iso2022JpX .of2000), ["iso2022_jp_3"], ["iso2022jp_3", "iso_2022_jp_3"]⟩,
  ⟨.eastAsian (.iso2022JpX .of2004), ["iso2022_jp_2004"], ["iso2022jp_2004", "iso_2022_jp_2004"]⟩,
  ⟨.eastAsian .iso2022JpExt, ["iso2022_jp_ext"], ["iso2022jp_ext", "iso_2022_jp_ext"]⟩,
  ⟨.eastAsian .iso2022Kr, ["iso2022_kr"], ["csiso2022kr", "iso2022kr", "iso_2022_kr"]⟩,
  ⟨.punycode, ["punycode"], []⟩,
  ⟨.escaped, ["unicode_escape"], []⟩,
  ⟨.rawEscaped, ["raw_unicode_escape"], []⟩,
  ⟨.hostName, ["idna"], []⟩,
  ⟨.rotated, ["rot_13"], ["rot13"]⟩,
  ⟨.undefined, ["undefined"], []⟩,
  ⟨.untextual, ["base64_codec"], ["base64", "base_64"]⟩,
  ⟨.untextual, ["bz2_codec"], ["bz2"]⟩,
  ⟨.untextual, ["hex_codec"], ["hex"]⟩,
  ⟨.untextual, ["quopri_codec"], ["quopri", "quoted_printable", "quotedprintable"]⟩,
  ⟨.untextual, ["uu_codec"], ["uu"]⟩,
  ⟨.untextual, ["zlib_codec"], ["zip", "zlib"]⟩]

/-- The name of a character set in the form in which it is looked up: letters,
digits and points, with one underscore for whatever else stands between
them. Characters that are not ASCII count for nothing. -/
def lookupName (name : List Char) : List Char :=
  go false ((name.filter Text.isAscii).dropWhile (!isPart ·))
where
  isPart (c : Char) : Bool := c.isAlphanum || c == '.'
  go : (gap : Bool) → List Char → List Char
    | _, [] => []
    | gap, c :: cs =>
      if isPart c then (if gap then ['_'] else []) ++ c.toLower :: go false cs else go true cs

/-- The character set that has this among its other names. -/
def byOtherName? (name : String) : Option Charset :=
  (entries.find? (·.others.contains name)).map (·.charset)

/-- The character set of a name. Other names are preferred to own ones. -/
def named? (name : List Char) : Option Charset :=
  let form := lookupName name
  let pointless := form.map fun c => if c = '.' then '_' else c
  (byOtherName? (String.ofList form)).or ((byOtherName? (String.ofList pointless)).or
    ((entries.find? (·.own.contains (String.ofList form))).map (·.charset)))

end Charset
end PushRelay.Octets
