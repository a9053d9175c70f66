import CompilationDatabase.Xml.CodePage.Basic

/-!
# Code pages of window systems

The numbered pages of window systems, then further ones that go by a name.
-/

namespace CompilationDatabase.Xml.CodePage

/-- The numbered pages of window systems. -/
def windowed : List CodePage := [
  { names := ⟨"cp1250", ["windows_1250"]⟩
    runs := [(0x80, "€�‚�„…†‡�‰Š‹ŚŤŽŹ�‘’“”•–—�™š›śťžź"), (0xA1, "ˇ˘Ł¤Ą¦§¨©Ş"), (0xAF, "Ż°±˛ł"),
      (0xB9, "ąş»Ľ˝ľżŔÁÂĂÄĹĆÇČÉĘËĚÍÎĎĐŃŇÓÔŐÖ×ŘŮÚŰÜÝŢßŕáâăäĺćçčéęëěíîď"),
      (0xF0, "đńňóôőö÷řůúűüýţ˙")] },
  { names := ⟨"cp1251", ["windows_1251"]⟩
    runs := [(0x80, "ЂЃ‚ѓ„…†‡€‰Љ‹ЊЌЋЏђ‘’“”•–—�™љ›њќћџ"), (0xA1, "ЎўЈ¤Ґ¦§Ё©Є"),
      (0xAF, "Ї°±Ііґµ¶·ё№є»јЅѕїАБВГДЕЖЗИЙКЛМНОПРСТУФХЦЧШЩЪЫЬЭЮЯ"),
      (0xE0, "абвгдежзийклмнопрстуфхцчшщъыьэюя")] },
  { names := ⟨"cp1252", ["windows_1252"]⟩
    runs := [(0x80, "€�‚ƒ„…†‡ˆ‰Š‹Œ�Ž��‘’“”•–—˜™š›œ�žŸ")] },
  { names := ⟨"cp1253", ["windows_1253"]⟩
    runs := [(0x80, "€�‚ƒ„…†‡�‰�‹�����‘’“”•–—�™�›����"), (0xA1, "΅Ά"), (0xAA, "�"),
      (0xAF, "―°±²³΄µ¶·ΈΉΊ»Ό½ΎΏΐΑΒΓΔΕΖΗΘΙΚΛΜΝΞΟΠΡ�ΣΤΥΦΧΨΩΪΫάέήί"),
      (0xE0, "ΰαβγδεζηθικλμνξοπρςστυφχψωϊϋόύώ�")] },
  { names := ⟨"cp1254", ["windows_1254"]⟩
    runs := [(0x80, "€�‚ƒ„…†‡ˆ‰Š‹Œ����‘’“”•–—˜™š›œ��Ÿ"), (0xD0, "Ğ"), (0xDD, "İŞ"), (0xF0, "ğ"),
      (0xFD, "ış")] },
  { names := ⟨"cp1255", ["windows_1255"]⟩
    runs := [(0x80, "€�‚ƒ„…†‡ˆ‰�‹�����‘’“”•–—˜™�›����"), (0xA4, "₪"), (0xAA, "×"), (0xBA, "÷"),
      (0xC0, "\u05b0\u05b1\u05b2\u05b3\u05b4\u05b5\u05b6\u05b7\u05b8\u05b9�\u05bb\u05bc\u05bd"),
      (0xCE, "\u05be\u05bf\u05c0\u05c1\u05c2\u05c3\u05f0\u05f1\u05f2\u05f3\u05f4�������\u05d0"),
      (0xE1, "\u05d1\u05d2\u05d3\u05d4\u05d5\u05d6\u05d7\u05d8\u05d9\u05da\u05db\u05dc\u05dd"),
      (0xEE, "\u05de\u05df\u05e0\u05e1\u05e2\u05e3\u05e4\u05e5\u05e6\u05e7\u05e8\u05e9\u05ea��"),
      (0xFD, "\u200e\u200f�")] },
  { names := ⟨"cp1256", ["windows_1256"]⟩
    runs := [(0x80, "€\u067e‚ƒ„…†‡ˆ‰\u0679‹Œ\u0686\u0698\u0688\u06af‘’“”•–—\u06a9™\u0691›œ\u200c"),
      (0x9E, "\u200d\u06ba"), (0xA1, "،"), (0xAA, "\u06be"),
      (0xBA, "\u061b»¼½¾\u061f\u06c1\u0621\u0622\u0623\u0624\u0625\u0626\u0627\u0628\u0629"),
      (0xCA, "\u062a\u062b\u062c\u062d\u062e\u062f\u0630\u0631\u0632\u0633\u0634\u0635\u0636×"),
      (0xD8, "\u0637\u0638\u0639\u063a\u0640\u0641\u0642\u0643à\u0644â\u0645\u0646\u0647\u0648"),
      (0xEC, "\u0649\u064aîï\u064b\u064c\u064d\u064eô\u064f\u0650÷\u0651ù\u0652ûü\u200e\u200f"),
      (0xFF, "\u06d2")] },
  { names := ⟨"cp1257", ["windows_1257"]⟩
    runs := [(0x80, "€�‚�„…†‡�‰�‹�¨ˇ¸�‘’“”•–—�™�›�¯˛�"), (0xA1, "�¢£¤�¦§Ø©Ŗ"), (0xAF, "Æ"),
      (0xB8, "ø¹ŗ»¼½¾æĄĮĀĆÄÅĘĒČÉŹĖĢĶĪĻŠŃŅÓŌÕÖ×ŲŁŚŪÜŻŽßąįāćäåęēčéźėģķīļ"),
      (0xF0, "šńņóōõö÷ųłśūüżž˙")] },
  { names := ⟨"cp1258", ["windows_1258"]⟩
    runs := [(0x80, "€�‚ƒ„…†‡ˆ‰�‹Œ����‘’“”•–—˜™�›œ��Ÿ"), (0xC3, "Ă"),
      (0xCC, "\u0300ÍÎÏĐÑ\u0309ÓÔƠ"), (0xDD, "Ư\u0303ßàáâă"), (0xEC, "\u0301íîïđñ\u0323óôơ"),
      (0xFD, "ư₫")] }]

/-- Pages that go by a name. -/
def further : List CodePage := [
  { names := ⟨"cp1006", []⟩
    runs := [(0xA1, "۰۱۲۳۴۵۶۷۸۹،\u061b"),
      (0xAE, "\u061f\ufe81\ufe8d\ufe8e\ufe8e\ufe8f\ufe91\ufb56\ufb58\ufe93\ufe95\ufe97\ufb66"),
      (0xBB, "\ufb68\ufe99\ufe9b\ufe9d\ufe9f\ufb7a\ufb7c\ufea1\ufea3\ufea5\ufea7\ufea9\ufb84"),
      (0xC8, "\ufeab\ufead\ufb8c\ufeaf\ufb8a\ufeb1\ufeb3\ufeb5\ufeb7\ufeb9\ufebb\ufebd\ufebf"),
      (0xD5, "\ufec1\ufec5\ufec9\ufeca\ufecb\ufecc\ufecd\ufece\ufecf\ufed0\ufed1\ufed3\ufed5"),
      (0xE2, "\ufed7\ufed9\ufedb\ufb92\ufb94\ufedd\ufedf\ufee0\ufee1\ufee3\ufb9e\ufee5\ufee7"),
      (0xEF, "\ufe85\ufeed\ufba6\ufba8\ufba9\ufbaa\ufe80\ufe89\ufe8a\ufe8b\ufef1\ufef2\ufef3"),
      (0xFC, "\ufbb0\ufbae\ufe7c\ufe7d")] },
  { names := ⟨"cp1125", ["cp866u", "ibm1125", "ruscii"]⟩
    runs := [(0x80, "АБВГДЕЖЗИЙКЛМНОПРСТУФХЦЧШЩЪЫЬЭЮЯабвгдежзийклмноп"),
      (0xB0, "░▒▓│┤╡╢╖╕╣║╗╝╜╛┐└┴┬├─┼╞╟╚╔╩╦╠═╬╧╨╤╥╙╘╒╓╫╪┘┌█▄▌▐▀"),
      (0xE0, "рстуфхцчшщъыьэюяЁёҐґЄєІіЇї·√№¤■\u00a0")] },
  { names := ⟨"hp_roman8", ["cp1051", "ibm1051", "r8", "roman8"]⟩
    runs := [(0xA1, "ÀÂÈÊËÎÏ´ˋˆ¨˜ÙÛ₤¯Ýý°ÇçÑñ¡¿¤£¥§ƒ¢âêôûáéóúàèòùäëöüÅîØÆåíøæÄìÖÜÉïßÔ"),
      (0xE0, "ÁÃãÐðÍÌÓÒÕõŠšÚŸÿÞþ·µ¶¾—¼½ªº«■»±�")] },
  { names := ⟨"koi8_r", ["cskoi8r"]⟩
    runs := [(0x80, "─│┌┐└┘├┤┬┴┼▀▄█▌▐░▒▓⌠■∙√≈≤≥\u00a0⌡°²·÷═║╒ё╓╔╕╖╗╘╙╚╛╜╝╞"),
      (0xB0, "╟╠╡Ё╢╣╤╥╦╧╨╩╪╫╬©юабцдефгхийклмнопярстужвьызшэщчъ"),
      (0xE0, "ЮАБЦДЕФГХИЙКЛМНОПЯРСТУЖВЬЫЗШЭЩЧЪ")] },
  { names := ⟨"koi8_t", []⟩
    runs := [(0x80, "қғ‚Ғ„…†‡�‰ҳ‹ҲҷҶ�Қ‘’“”•–—�™�›�����ӯӮё¤ӣ¦§���"),
      (0xAF, "�°±²Ё�Ӣ¶·�№�»���©юабцдефгхийклмнопярстужвьызшэщчъ"),
      (0xE0, "ЮАБЦДЕФГХИЙКЛМНОПЯРСТУЖВЬЫЗШЭЩЧЪ")] },
  { names := ⟨"koi8_u", []⟩
    runs := [(0x80, "─│┌┐└┘├┤┬┴┼▀▄█▌▐░▒▓⌠■∙√≈≤≥\u00a0⌡°²·÷═║╒ёє╔ії╗╘╙╚╛ґ╝╞"),
      (0xB0, "╟╠╡ЁЄ╣ІЇ╦╧╨╩╪Ґ╬©юабцдефгхийклмнопярстужвьызшэщчъ"),
      (0xE0, "ЮАБЦДЕФГХИЙКЛМНОПЯРСТУЖВЬЫЗШЭЩЧЪ")] },
  { names := ⟨"kz1048", ["kz_1048", "rk1048", "strk1048_2002"]⟩
    runs := [(0x80, "ЂЃ‚ѓ„…†‡€‰Љ‹ЊҚҺЏђ‘’“”•–—�™љ›њқһџ"), (0xA1, "ҰұӘ¤Ө¦§Ё©Ғ"),
      (0xAF, "Ү°±Ііөµ¶·ё№ғ»әҢңүАБВГДЕЖЗИЙКЛМНОПРСТУФХЦЧШЩЪЫЬЭЮЯ"),
      (0xE0, "абвгдежзийклмнопрстуфхцчшщъыьэюя")] },
  { names := ⟨"mac_croatian", []⟩
    runs := [(0x80, "ÄÅÇÉÑÖÜáàâäãåçéèêëíìîïñóòôöõúùûü†°¢£§•¶ß®Š™´¨≠ŽØ"),
      (0xB0, "∞±≤≥∆µ∂∑∏š∫ªºΩžø¿¡¬√ƒ≈Ć«Č…\u00a0ÀÃÕŒœĐ—“”‘’÷◊\uf8ff©⁄€‹›Æ»"),
      (0xE0, "–·‚„‰ÂćÁčÈÍÎÏÌÓÔđÒÚÛÙıˆ˜¯πË˚¸Êæˇ")] },
  { names := ⟨"mac_cyrillic", ["maccyrillic"]⟩
    runs := [(0x80, "АБВГДЕЖЗИЙКЛМНОПРСТУФХЦЧШЩЪЫЬЭЮЯ†°Ґ£§•¶І®©™Ђђ≠Ѓѓ"),
      (0xB0, "∞±≤≥іµґЈЄєЇїЉљЊњјЅ¬√ƒ≈∆«»…\u00a0ЋћЌќѕ–—“”‘’÷„ЎўЏџ№Ёёя"),
      (0xE0, "абвгдежзийклмнопрстуфхцчшщъыьэю€")] },
  { names := ⟨"mac_greek", ["macgreek"]⟩
    runs := [(0x80, "Ä¹²É³ÖÜ΅àâä΄¨çéèêë£™îï•½‰ôö¦€ùûü†ΓΔΘΛΞΠß®©ΣΪ§≠°·"),
      (0xB0, "Α±≤≥¥ΒΕΖΗΙΚΜΦΫΨΩάΝ¬ΟΡ≈Τ«»…\u00a0ΥΧΆΈœ–―“”‘’÷ΉΊΌΎέήίόΏ"),
      (0xE0, "ύαβψδεφγηιξκλμνοπώρστθωςχυζϊϋΐΰ\u00ad")] },
  { names := ⟨"mac_iceland", ["maciceland"]⟩
    runs := [(0x80, "ÄÅÇÉÑÖÜáàâäãåçéèêëíìîïñóòôöõúùûüÝ°¢£§•¶ß®©™´¨≠ÆØ"),
      (0xB0, "∞±≤≥¥µ∂∑∏π∫ªºΩæø¿¡¬√ƒ≈∆«»…\u00a0ÀÃÕŒœ–—“”‘’÷◊ÿŸ⁄€ÐðÞþ"),
      (0xE0, "ý·‚„‰ÂÊÁËÈÍÎÏÌÓÔ\uf8ffÒÚÛÙıˆ˜¯˘˙˚¸˝˛ˇ")] },
  { names := ⟨"mac_latin2", ["mac_centeuro", "maccentraleurope", "maclatin2"]⟩
    runs := [(0x80, "ÄĀāÉĄÖÜáąČäčĆćéŹźĎíďĒēĖóėôöõúĚěü†°Ę£§•¶ß®©™ę¨≠ģĮ"),
      (0xB0, "įĪ≤≥īĶ∂∑łĻļĽľĹĺŅņŃ¬√ńŇ∆«»…\u00a0ňŐÕőŌ–—“”‘’÷◊ōŔŕŘ‹›řŖ"),
      (0xE0, "ŗŠ‚„šŚśÁŤťÍŽžŪÓÔūŮÚůŰűŲųÝýķŻŁżĢˇ")] },
  { names := ⟨"mac_roman", ["macintosh", "macroman"]⟩
    runs := [(0x80, "ÄÅÇÉÑÖÜáàâäãåçéèêëíìîïñóòôöõúùûü†°¢£§•¶ß®©™´¨≠ÆØ"),
      (0xB0, "∞±≤≥¥µ∂∑∏π∫ªºΩæø¿¡¬√ƒ≈∆«»…\u00a0ÀÃÕŒœ–—“”‘’÷◊ÿŸ⁄€‹›ﬁﬂ"),
      (0xE0, "‡·‚„‰ÂÊÁËÈÍÎÏÌÓÔ\uf8ffÒÚÛÙıˆ˜¯˘˙˚¸˝˛ˇ")] },
  { names := ⟨"mac_romanian", []⟩
    runs := [(0x80, "ÄÅÇÉÑÖÜáàâäãåçéèêëíìîïñóòôöõúùûü†°¢£§•¶ß®©™´¨≠ĂȘ"),
      (0xB0, "∞±≤≥¥µ∂∑∏π∫ªºΩăș¿¡¬√ƒ≈∆«»…\u00a0ÀÃÕŒœ–—“”‘’÷◊ÿŸ⁄€‹›Țț"),
      (0xE0, "‡·‚„‰ÂÊÁËÈÍÎÏÌÓÔ\uf8ffÒÚÛÙıˆ˜¯˘˙˚¸˝˛ˇ")] },
  { names := ⟨"mac_turkish", ["macturkish"]⟩
    runs := [(0x80, "ÄÅÇÉÑÖÜáàâäãåçéèêëíìîïñóòôöõúùûü†°¢£§•¶ß®©™´¨≠ÆØ"),
      (0xB0, "∞±≤≥¥µ∂∑∏π∫ªºΩæø¿¡¬√ƒ≈∆«»…\u00a0ÀÃÕŒœ–—“”‘’÷◊ÿŸĞğİıŞş"),
      (0xE0, "‡·‚„‰ÂÊÁËÈÍÎÏÌÓÔ\uf8ffÒÚÛÙ\uf8a0ˆ˜¯˘˙˚¸˝˛ˇ")] },
  { names := ⟨"palmos", []⟩
    runs := [(0x80, "€"), (0x82, "‚ƒ„…†‡ˆ‰Š‹Œ♦♣♥♠‘’“”•–—˜™š"), (0x9C, "œ"), (0x9F, "Ÿ")] },
  { names := ⟨"ptcp154", ["cp154", "csptcp154", "cyrillic_asian", "pt154"]⟩
    runs := [(0x80, "ҖҒӮғ„…ҶҮҲүҠӢҢҚҺҸҗ‘’“”•–—ҳҷҡӣңқһҹ"),
      (0xA1, "ЎўЈӨҘҰ§Ё©Ә«¬ӯ®Ҝ°ұІіҙө¶·ё№ә»јҪҫҝАБВГДЕЖЗИЙКЛМНОПРСТУФХЦЧШЩЪЫЬЭЮЯ"),
      (0xE0, "абвгдежзийклмнопрстуфхцчшщъыьэюя")] }]

end CompilationDatabase.Xml.CodePage
