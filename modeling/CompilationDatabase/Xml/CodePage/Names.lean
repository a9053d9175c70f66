import CompilationDatabase.Xml.CodePage.Basic

/-!
# Names of encodings without a code page

Some names stand for ASCII, or for the first 256 characters as they are. Others are known and of no
use for a document: their pages move the characters of ASCII, they write characters in several
octets, they refuse single octets, or they are no way to write characters at all.
-/

namespace CompilationDatabase.Xml.CodePage

/-- Names for octets that are characters of ASCII; of encodings that write further characters in
    several octets, this part alone is read. -/
def asciiNames : List EncodingNames := [
  ⟨"ascii",
    ["ansi_x3.4_1968", "ansi_x3.4_1986", "ansi_x3_4_1968", "cp367", "csascii", "ibm367",
     "iso646_us", "iso_646.irv_1991", "iso_ir_6", "us", "us_ascii"]⟩,
  ⟨"hz", ["hz_gb", "hz_gb_2312", "hzgb"]⟩,
  ⟨"iso2022_jp", ["csiso2022jp", "iso2022jp", "iso_2022_jp"]⟩,
  ⟨"iso2022_jp_1", ["iso2022jp_1", "iso_2022_jp_1"]⟩,
  ⟨"iso2022_jp_2", ["iso2022jp_2", "iso_2022_jp_2"]⟩,
  ⟨"iso2022_jp_3", ["iso2022jp_3", "iso_2022_jp_3"]⟩,
  ⟨"iso2022_jp_2004", ["iso2022jp_2004", "iso_2022_jp_2004"]⟩,
  ⟨"iso2022_jp_ext", ["iso2022jp_ext", "iso_2022_jp_ext"]⟩,
  ⟨"utf_8", ["cp65001", "u8", "utf", "utf8", "utf8_ucs2", "utf8_ucs4"]⟩, ⟨"utf_8_sig", []⟩]

/-- Names for one octet for each of the first 256 characters; of encodings with escapes, no escape is
    read. -/
def latin1Names : List EncodingNames := [
  ⟨"latin_1",
    ["cp819", "csisolatin1", "ibm819", "iso8859", "iso8859_1", "iso_8859_1", "iso_8859_1_1987",
     "iso_ir_100", "l1", "latin", "latin1"]⟩,
  ⟨"charmap", []⟩, ⟨"raw_unicode_escape", []⟩, ⟨"unicode_escape", []⟩]

/-- Names of pages on which characters of ASCII have other octets than their own. -/
def movedNames : List EncodingNames := [
  ⟨"cp037",
    ["csibm037", "ebcdic_cp_ca", "ebcdic_cp_nl", "ebcdic_cp_us", "ebcdic_cp_wt", "ibm037",
     "ibm039"]⟩,
  ⟨"cp273", ["csibm273", "ibm273"]⟩, ⟨"cp424", ["csibm424", "ebcdic_cp_he", "ibm424"]⟩,
  ⟨"cp500", ["csibm500", "ebcdic_cp_be", "ebcdic_cp_ch", "ibm500"]⟩,
  ⟨"cp864", ["csibm864", "ibm864"]⟩, ⟨"cp875", []⟩, ⟨"cp1026", ["csibm1026", "ibm1026"]⟩,
  ⟨"cp1140", ["ibm1140"]⟩, ⟨"mac_arabic", []⟩, ⟨"mac_farsi", []⟩]

/-- Names of encodings that write characters in several octets. -/
def wideNames : List EncodingNames := [
  ⟨"big5", ["big5_tw", "csbig5", "x_mac_trad_chinese"]⟩, ⟨"big5hkscs", ["big5_hkscs", "hkscs"]⟩,
  ⟨"cp932", ["ms932", "ms_kanji", "mskanji"]⟩, ⟨"cp949", ["ms949", "uhc"]⟩, ⟨"cp950", ["ms950"]⟩,
  ⟨"euc_jis_2004", ["euc_jis2004", "eucjis2004", "jisx0213"]⟩, ⟨"euc_jisx0213", ["eucjisx0213"]⟩,
  ⟨"euc_jp", ["eucjp", "u_jis", "ujis"]⟩,
  ⟨"euc_kr",
    ["euckr", "korean", "ks_c_5601", "ks_c_5601_1987", "ks_x_1001", "ksc5601", "ksx1001",
     "x_mac_korean"]⟩,
  ⟨"gb2312",
    ["chinese", "csiso58gb231280", "euc_cn", "euccn", "eucgb2312_cn", "gb2312_1980",
     "gb2312_80", "iso_ir_58", "x_mac_simp_chinese"]⟩,
  ⟨"gb18030", ["gb18030_2000"]⟩, ⟨"gbk", ["cp936", "ms936"]⟩,
  ⟨"iso2022_kr", ["csiso2022kr", "iso2022kr", "iso_2022_kr"]⟩, ⟨"johab", ["cp1361", "ms1361"]⟩,
  ⟨"shift_jis", ["csshiftjis", "s_jis", "shiftjis", "sjis", "x_mac_japanese"]⟩,
  ⟨"shift_jis_2004", ["s_jis_2004", "shiftjis2004", "sjis_2004"]⟩,
  ⟨"shift_jisx0213", ["s_jisx0213", "shiftjisx0213", "sjisx0213"]⟩,
  ⟨"utf_7", ["u7", "unicode_1_1_utf_7", "utf7"]⟩, ⟨"utf_16", ["u16", "utf16"]⟩,
  ⟨"utf_16_be", ["unicodebigunmarked", "utf_16be"]⟩,
  ⟨"utf_16_le", ["unicodelittleunmarked", "utf_16le"]⟩, ⟨"utf_32", ["u32", "utf32"]⟩,
  ⟨"utf_32_be", ["utf_32be"]⟩, ⟨"utf_32_le", ["utf_32le"]⟩]

/-- Names of encodings that refuse octets that are read one by one. -/
def refusingNames : List EncodingNames := [⟨"idna", []⟩, ⟨"punycode", []⟩, ⟨"undefined", []⟩]

/-- What such an encoding says, from its spelling and from its name as it is written. -/
def refusal (spelling name : Text) : Text :=
  let failed (words : String) : Text :=
    "decoding with '".toList ++ name ++ "' codec failed (UnicodeError: ".toList ++ words.toList ++ [')']
  if spelling = "idna".toList then failed "Unsupported error handling replace"
  else if spelling = "undefined".toList then failed "undefined encoding"
  else "'ascii' codec can't decode byte 0x80 in position 82: ordinal not in range(128)".toList

/-- Names of what is known as an encoding and writes no characters. -/
def transformNames : List EncodingNames := [
  ⟨"base64_codec", ["base64", "base_64"]⟩, ⟨"bz2_codec", ["bz2"]⟩, ⟨"hex_codec", ["hex"]⟩,
  ⟨"quopri_codec", ["quopri", "quoted_printable", "quotedprintable"]⟩, ⟨"rot_13", ["rot13"]⟩,
  ⟨"uu_codec", ["uu"]⟩, ⟨"zlib_codec", ["zip", "zlib"]⟩]

end CompilationDatabase.Xml.CodePage
