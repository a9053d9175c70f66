import CompilationDatabase.Xml.CodePage.Basic

/-!
# Standard code pages

The parts of the standard for eight-bit characters, and the one for Thai.
-/

namespace CompilationDatabase.Xml.CodePage

/-- The standard pages. -/
def standard : List CodePage := [
  { names := ⟨"iso8859_2",
      ["csisolatin2", "iso_8859_2", "iso_8859_2_1987", "iso_ir_101", "l2", "latin2"]⟩
    runs := [(0xA1, "Ą˘Ł¤ĽŚ§¨ŠŞŤŹ"), (0xAE, "ŽŻ°ą˛ł´ľśˇ¸šşťź˝žżŔÁÂĂÄĹĆÇČÉĘËĚÍÎĎĐŃŇÓÔŐÖ×ŘŮÚŰÜÝŢß"),
      (0xE0, "ŕáâăäĺćçčéęëěíîďđńňóôőö÷řůúűüýţ˙")] },
  { names := ⟨"iso8859_3",
      ["csisolatin3", "iso_8859_3", "iso_8859_3_1988", "iso_ir_109", "l3", "latin3"]⟩
    runs := [(0xA1, "Ħ˘£¤�Ĥ§¨İŞĞĴ"), (0xAE, "�Ż°ħ²³´µĥ·¸ışğĵ½�żÀÁÂ�ÄĊĈ"),
      (0xD0, "�ÑÒÓÔĠÖ×ĜÙÚÛÜŬŜßàáâ�äċĉ"), (0xF0, "�ñòóôġö÷ĝùúûüŭŝ˙")] },
  { names := ⟨"iso8859_4",
      ["csisolatin4", "iso_8859_4", "iso_8859_4_1988", "iso_ir_110", "l4", "latin4"]⟩
    runs := [(0xA1, "ĄĸŖ¤ĨĻ§¨ŠĒĢŦ"), (0xAE, "Ž¯°ą˛ŗ´ĩļˇ¸šēģŧŊžŋĀ"), (0xC7, "ĮČÉĘËĖÍÎĪĐŅŌĶ"),
      (0xD9, "ŲÚÛÜŨŪßā"), (0xE7, "įčéęëėíîīđņōķ"), (0xF9, "ųúûüũū˙")] },
  { names := ⟨"iso8859_5",
      ["csisolatincyrillic", "cyrillic", "iso_8859_5", "iso_8859_5_1988", "iso_ir_144"]⟩
    runs := [(0xA1, "ЁЂЃЄЅІЇЈЉЊЋЌ"), (0xAE, "ЎЏАБВГДЕЖЗИЙКЛМНОПРСТУФХЦЧШЩЪЫЬЭЮЯабвгдежзийклмноп"),
      (0xE0, "рстуфхцчшщъыьэюя№ёђѓєѕіїјљњћќ§ўџ")] },
  { names := ⟨"iso8859_6",
      ["arabic", "asmo_708", "csisolatinarabic", "ecma_114", "iso_8859_6", "iso_8859_6_1987",
       "iso_ir_127"]⟩
    runs := [(0xA1, "���¤�������،"),
      (0xAE, "�������������\u061b���\u061f�\u0621\u0622\u0623\u0624\u0625\u0626\u0627\u0628"),
      (0xC9, "\u0629\u062a\u062b\u062c\u062d\u062e\u062f\u0630\u0631\u0632\u0633\u0634\u0635"),
      (0xD6, "\u0636\u0637\u0638\u0639\u063a�����\u0640\u0641\u0642\u0643\u0644\u0645\u0646"),
      (0xE7, "\u0647\u0648\u0649\u064a\u064b\u064c\u064d\u064e\u064f\u0650\u0651\u0652��������"),
      (0xFB, "�����")] },
  { names := ⟨"iso8859_7",
      ["csisolatingreek", "ecma_118", "elot_928", "greek", "greek8", "iso_8859_7",
       "iso_8859_7_1987", "iso_ir_126"]⟩
    runs := [(0xA1, "‘’£€₯¦§¨©ͺ"), (0xAE, "�―°±²³΄΅Ά·ΈΉΊ»Ό½ΎΏΐΑΒΓΔΕΖΗΘΙΚΛΜΝΞΟΠΡ�ΣΤΥΦΧΨΩΪΫάέήί"),
      (0xE0, "ΰαβγδεζηθικλμνξοπρςστυφχψωϊϋόύώ�")] },
  { names := ⟨"iso8859_8",
      ["csisolatinhebrew", "hebrew", "iso_8859_8", "iso_8859_8_1988", "iso_ir_138"]⟩
    runs := [(0xA1, "�"), (0xAA, "×"),
      (0xBA, "÷»¼½¾��������������������������������‗\u05d0\u05d1\u05d2\u05d3\u05d4\u05d5\u05d6"),
      (0xE7, "\u05d7\u05d8\u05d9\u05da\u05db\u05dc\u05dd\u05de\u05df\u05e0\u05e1\u05e2\u05e3"),
      (0xF4, "\u05e4\u05e5\u05e6\u05e7\u05e8\u05e9\u05ea��\u200e\u200f�")] },
  { names := ⟨"iso8859_9",
      ["csisolatin5", "iso_8859_9", "iso_8859_9_1989", "iso_ir_148", "l5", "latin5"]⟩
    runs := [(0xD0, "Ğ"), (0xDD, "İŞ"), (0xF0, "ğ"), (0xFD, "ış")] },
  { names := ⟨"iso8859_10",
      ["csisolatin6", "iso_8859_10", "iso_8859_10_1992", "iso_ir_157", "l6", "latin6"]⟩
    runs := [(0xA1, "ĄĒĢĪĨĶ§ĻĐŠŦŽ"), (0xAE, "ŪŊ°ąēģīĩķ·ļđšŧž―ūŋĀ"), (0xC7, "ĮČÉĘËĖÍÎÏÐŅŌÓÔÕÖŨØŲ"),
      (0xE0, "ā"), (0xE7, "įčéęëėíîïðņōóôõöũøų"), (0xFF, "ĸ")] },
  { names := ⟨"iso8859_11", ["iso_8859_11", "iso_8859_11_2001", "thai"]⟩
    runs := [
      (0xA1, "กขฃคฅฆงจฉชซฌญฎฏฐฑฒณดตถทธนบปผฝพฟภมยรฤลฦวศษสหฬอฮฯะ\u0e31าำ\u0e34\u0e35\u0e36\u0e37"),
      (0xD8, "\u0e38\u0e39\u0e3a����฿เแโใไๅๆ\u0e47\u0e48\u0e49\u0e4a\u0e4b\u0e4c\u0e4d\u0e4e๏๐"),
      (0xF1, "๑๒๓๔๕๖๗๘๙๚๛����")] },
  { names := ⟨"iso8859_13", ["iso_8859_13", "l7", "latin7"]⟩
    runs := [(0xA1, "”¢£¤„¦§Ø©Ŗ"), (0xAF, "Æ°±²³“µ¶·ø¹ŗ»¼½¾æĄĮĀĆÄÅĘĒČÉŹĖĢĶĪĻŠŃŅÓŌÕÖ×ŲŁŚŪÜŻŽß"),
      (0xE0, "ąįāćäåęēčéźėģķīļšńņóōõö÷ųłśūüżž’")] },
  { names := ⟨"iso8859_14",
      ["iso_8859_14", "iso_8859_14_1998", "iso_celtic", "iso_ir_199", "l8", "latin8"]⟩
    runs := [(0xA1, "Ḃḃ£ĊċḊ§Ẁ©ẂḋỲ"), (0xAF, "ŸḞḟĠġṀṁ¶ṖẁṗẃṠỳẄẅṡ"), (0xD0, "Ŵ"), (0xD7, "Ṫ"),
      (0xDE, "Ŷ"), (0xF0, "ŵ"), (0xF7, "ṫ"), (0xFE, "ŷ")] },
  { names := ⟨"iso8859_15", ["iso_8859_15", "l9", "latin9"]⟩
    runs := [(0xA4, "€¥Š§š"), (0xB4, "Žµ¶·ž¹º»ŒœŸ")] },
  { names := ⟨"iso8859_16", ["iso_8859_16", "iso_8859_16_2001", "iso_ir_226", "l10", "latin10"]⟩
    runs := [(0xA1, "ĄąŁ€„Š§š©Ș«Ź"), (0xAE, "źŻ°±ČłŽ”¶·žčș»ŒœŸżÀÁÂĂÄĆ"),
      (0xD0, "ĐŃÒÓÔŐÖŚŰÙÚÛÜĘȚßàáâăäć"), (0xF0, "đńòóôőöśűùúûüęț")] },
  { names := ⟨"tis_620",
      ["iso_ir_166", "tis620", "tis_620_0", "tis_620_2529_0", "tis_620_2529_1"]⟩
    runs := [(0xA0, "�กขฃคฅฆงจฉชซฌญฎฏฐฑฒณดตถทธนบปผฝพฟภมยรฤลฦวศษสหฬอฮฯ"),
      (0xD0, "ะ\u0e31าำ\u0e34\u0e35\u0e36\u0e37\u0e38\u0e39\u0e3a����฿เแโใไๅๆ\u0e47\u0e48"),
      (0xE9, "\u0e49\u0e4a\u0e4b\u0e4c\u0e4d\u0e4e๏๐๑๒๓๔๕๖๗๘๙๚๛����")] }]

end CompilationDatabase.Xml.CodePage
