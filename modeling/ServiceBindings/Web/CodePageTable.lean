/-! # Code pages

The code pages in use on the web and elsewhere: `codePages` lists each with its names and the
characters that its bytes stand for, in order. A page with 128 characters gives those of the **upper
half** and has the characters of ASCII in the lower half. A byte without a character stands for
U+FFFD. -/

namespace ServiceBindings

/-- The characters that bytes stand for. -/
structure CodePage where
  /-- The names of the page, in lower case, with underscores between their parts. -/
  names : List String
  /-- The characters of all bytes, or of those from 128 on, in rows. -/
  rows : List String
  deriving DecidableEq, Repr

/-- The code pages. -/
def codePages : List CodePage := [
  ⟨["cp037", "037", "csibm037", "ebcdic_cp_ca", "ebcdic_cp_nl", "ebcdic_cp_us", "ebcdic_cp_wt",
      "ibm037", "ibm039"],
  ["\x00\x01\x02\x03\x9c\x09\x86\x7f\x97\x8d\x8e\x0b\x0c\x0d\x0e\x0f\x10\x11\x12\x13\x9d\x85\x08",
    "\x87\x18\x19\x92\x8f\x1c\x1d\x1e\x1f\x80\x81\x82\x83\x84\x0a\x17\x1b\x88\x89\x8a\x8b\x8c\x05",
    "\x06\x07\x90\x91\x16\x93\x94\x95\x96\x04\x98\x99\x9a\x9b\x14\x15\x9e\x1a \xa0âäàáãåçñ¢.<(+|&",
    "éêëèíîïìß!$*);¬-\x2fÂÄÀÁÃÅÇÑ¦,%_>?øÉÊËÈÍÎÏÌ\x60:#@\x27=\x22Øabcdefghi«»ðýþ±°jklmnopqrªºæ¸Æ¤µ",
    "~stuvwxyz¡¿ÐÝÞ®^£¥·©§¶¼½¾[]¯¨´×\x7bABCDEFGHI\xadôöòóõ\x7dJKLMNOPQR¹ûüùúÿ\x5c÷STUVWXYZ²ÔÖÒÓÕ0",
    "123456789³ÛÜÙÚ\x9f"]⟩,
  ⟨["cp1006"],
  ["\x80\x81\x82\x83\x84\x85\x86\x87\x88\x89\x8a\x8b\x8c\x8d\x8e\x8f\x90\x91\x92\x93\x94\x95\x96",
    "\x97\x98\x99\x9a\x9b\x9c\x9d\x9e\x9f\xa0۰۱۲۳۴۵۶۷۸۹،\u061B\xad\u061F\uFE81\uFE8D\uFE8E\uFE8E",
    "\uFE8F\uFE91\uFB56\uFB58\uFE93\uFE95\uFE97\uFB66\uFB68\uFE99\uFE9B\uFE9D\uFE9F\uFB7A\uFB7C",
    "\uFEA1\uFEA3\uFEA5\uFEA7\uFEA9\uFB84\uFEAB\uFEAD\uFB8C\uFEAF\uFB8A\uFEB1\uFEB3\uFEB5\uFEB7",
    "\uFEB9\uFEBB\uFEBD\uFEBF\uFEC1\uFEC5\uFEC9\uFECA\uFECB\uFECC\uFECD\uFECE\uFECF\uFED0\uFED1",
    "\uFED3\uFED5\uFED7\uFED9\uFEDB\uFB92\uFB94\uFEDD\uFEDF\uFEE0\uFEE1\uFEE3\uFB9E\uFEE5\uFEE7",
    "\uFE85\uFEED\uFBA6\uFBA8\uFBA9\uFBAA\uFE80\uFE89\uFE8A\uFE8B\uFEF1\uFEF2\uFEF3\uFBB0\uFBAE",
    "\uFE7C\uFE7D"]⟩,
  ⟨["cp1026", "1026", "csibm1026", "ibm1026"],
  ["\x00\x01\x02\x03\x9c\x09\x86\x7f\x97\x8d\x8e\x0b\x0c\x0d\x0e\x0f\x10\x11\x12\x13\x9d\x85\x08",
    "\x87\x18\x19\x92\x8f\x1c\x1d\x1e\x1f\x80\x81\x82\x83\x84\x0a\x17\x1b\x88\x89\x8a\x8b\x8c\x05",
    "\x06\x07\x90\x91\x16\x93\x94\x95\x96\x04\x98\x99\x9a\x9b\x14\x15\x9e\x1a \xa0âäàáãå\x7bñÇ.<(",
    "+!&éêëèíîïìßĞİ*);^-\x2fÂÄÀÁÃÅ[Ñş,%_>?øÉÊËÈÍÎÏÌı:ÖŞ\x27=ÜØabcdefghi«»\x7d\x60¦±°jklmnopqrªºæ¸",
    "Æ¤µöstuvwxyz¡¿]$@®¢£¥·©§¶¼½¾¬|¯¨´×çABCDEFGHI\xadô~òóõğJKLMNOPQR¹û\x5cùúÿü÷STUVWXYZ²Ô#ÒÓÕ0123",
    "456789³Û\x22ÙÚ\x9f"]⟩,
  ⟨["cp1125", "1125", "cp866u", "ibm1125", "ruscii"],
  ["АБВГДЕЖЗИЙКЛМНОПРСТУФХЦЧШЩЪЫЬЭЮЯабвгдежзийклмноп░▒▓│┤╡╢╖╕╣║╗╝╜╛┐└┴┬├─┼╞╟╚╔╩╦╠═╬╧╨╤╥╙╘╒╓╫╪┘┌█",
    "▄▌▐▀рстуфхцчшщъыьэюяЁёҐґЄєІіЇї·√№¤■\xa0"]⟩,
  ⟨["cp1140", "1140", "ibm1140"],
  ["\x00\x01\x02\x03\x9c\x09\x86\x7f\x97\x8d\x8e\x0b\x0c\x0d\x0e\x0f\x10\x11\x12\x13\x9d\x85\x08",
    "\x87\x18\x19\x92\x8f\x1c\x1d\x1e\x1f\x80\x81\x82\x83\x84\x0a\x17\x1b\x88\x89\x8a\x8b\x8c\x05",
    "\x06\x07\x90\x91\x16\x93\x94\x95\x96\x04\x98\x99\x9a\x9b\x14\x15\x9e\x1a \xa0âäàáãåçñ¢.<(+|&",
    "éêëèíîïìß!$*);¬-\x2fÂÄÀÁÃÅÇÑ¦,%_>?øÉÊËÈÍÎÏÌ\x60:#@\x27=\x22Øabcdefghi«»ðýþ±°jklmnopqrªºæ¸Æ€µ",
    "~stuvwxyz¡¿ÐÝÞ®^£¥·©§¶¼½¾[]¯¨´×\x7bABCDEFGHI\xadôöòóõ\x7dJKLMNOPQR¹ûüùúÿ\x5c÷STUVWXYZ²ÔÖÒÓÕ0",
    "123456789³ÛÜÙÚ\x9f"]⟩,
  ⟨["cp1250", "1250", "windows_1250"],
  ["€\uFFFD‚\uFFFD„…†‡\uFFFD‰Š‹ŚŤŽŹ\uFFFD‘’“”•–—\uFFFD™š›śťžź\xa0ˇ˘Ł¤Ą¦§¨©Ş«¬\xad®Ż°±˛ł´µ¶·¸ąş»Ľ",
    "˝ľżŔÁÂĂÄĹĆÇČÉĘËĚÍÎĎĐŃŇÓÔŐÖ×ŘŮÚŰÜÝŢßŕáâăäĺćçčéęëěíîďđńňóôőö÷řůúűüýţ˙"]⟩,
  ⟨["cp1251", "1251", "windows_1251"],
  ["ЂЃ‚ѓ„…†‡€‰Љ‹ЊЌЋЏђ‘’“”•–—\uFFFD™љ›њќћџ\xa0ЎўЈ¤Ґ¦§Ё©Є«¬\xad®Ї°±Ііґµ¶·ё№є»јЅѕїАБВГДЕЖЗИЙКЛМНОПР",
    "СТУФХЦЧШЩЪЫЬЭЮЯабвгдежзийклмнопрстуфхцчшщъыьэюя"]⟩,
  ⟨["cp1252", "1252", "windows_1252"],
  ["€\uFFFD‚ƒ„…†‡ˆ‰Š‹Œ\uFFFDŽ\uFFFD\uFFFD‘’“”•–—˜™š›œ\uFFFDžŸ\xa0¡¢£¤¥¦§¨©ª«¬\xad®¯°±²³´µ¶·¸¹º»¼",
    "½¾¿ÀÁÂÃÄÅÆÇÈÉÊËÌÍÎÏÐÑÒÓÔÕÖ×ØÙÚÛÜÝÞßàáâãäåæçèéêëìíîïðñòóôõö÷øùúûüýþÿ"]⟩,
  ⟨["cp1253", "1253", "windows_1253"],
  ["€\uFFFD‚ƒ„…†‡\uFFFD‰\uFFFD‹\uFFFD\uFFFD\uFFFD\uFFFD\uFFFD‘’“”•–—\uFFFD™\uFFFD›\uFFFD\uFFFD",
    "\uFFFD\uFFFD\xa0΅Ά£¤¥¦§¨©\uFFFD«¬\xad®―°±²³΄µ¶·ΈΉΊ»Ό½ΎΏΐΑΒΓΔΕΖΗΘΙΚΛΜΝΞΟΠΡ\uFFFDΣΤΥΦΧΨΩΪΫάέήί",
    "ΰαβγδεζηθικλμνξοπρςστυφχψωϊϋόύώ\uFFFD"]⟩,
  ⟨["cp1254", "1254", "windows_1254"],
  ["€\uFFFD‚ƒ„…†‡ˆ‰Š‹Œ\uFFFD\uFFFD\uFFFD\uFFFD‘’“”•–—˜™š›œ\uFFFD\uFFFDŸ\xa0¡¢£¤¥¦§¨©ª«¬\xad®¯°±²",
    "³´µ¶·¸¹º»¼½¾¿ÀÁÂÃÄÅÆÇÈÉÊËÌÍÎÏĞÑÒÓÔÕÖ×ØÙÚÛÜİŞßàáâãäåæçèéêëìíîïğñòóôõö÷øùúûüışÿ"]⟩,
  ⟨["cp1255", "1255", "windows_1255"],
  ["€\uFFFD‚ƒ„…†‡ˆ‰\uFFFD‹\uFFFD\uFFFD\uFFFD\uFFFD\uFFFD‘’“”•–—˜™\uFFFD›\uFFFD\uFFFD\uFFFD\uFFFD",
    "\xa0¡¢£₪¥¦§¨©×«¬\xad®¯°±²³´µ¶·¸¹÷»¼½¾¿\u05B0\u05B1\u05B2\u05B3\u05B4\u05B5\u05B6\u05B7\u05B8",
    "\u05B9\uFFFD\u05BB\u05BC\u05BD\u05BE\u05BF\u05C0\u05C1\u05C2\u05C3\u05F0\u05F1\u05F2\u05F3",
    "\u05F4\uFFFD\uFFFD\uFFFD\uFFFD\uFFFD\uFFFD\uFFFD\u05D0\u05D1\u05D2\u05D3\u05D4\u05D5\u05D6",
    "\u05D7\u05D8\u05D9\u05DA\u05DB\u05DC\u05DD\u05DE\u05DF\u05E0\u05E1\u05E2\u05E3\u05E4\u05E5",
    "\u05E6\u05E7\u05E8\u05E9\u05EA\uFFFD\uFFFD\u200E\u200F\uFFFD"]⟩,
  ⟨["cp1256", "1256", "windows_1256"],
  ["€\u067E‚ƒ„…†‡ˆ‰\u0679‹Œ\u0686\u0698\u0688\u06AF‘’“”•–—\u06A9™\u0691›œ\u200C\u200D\u06BA\xa0،",
    "¢£¤¥¦§¨©\u06BE«¬\xad®¯°±²³´µ¶·¸¹\u061B»¼½¾\u061F\u06C1\u0621\u0622\u0623\u0624\u0625\u0626",
    "\u0627\u0628\u0629\u062A\u062B\u062C\u062D\u062E\u062F\u0630\u0631\u0632\u0633\u0634\u0635",
    "\u0636×\u0637\u0638\u0639\u063A\u0640\u0641\u0642\u0643à\u0644â\u0645\u0646\u0647\u0648çèéêë",
    "\u0649\u064Aîï\u064B\u064C\u064D\u064Eô\u064F\u0650÷\u0651ù\u0652ûü\u200E\u200F\u06D2"]⟩,
  ⟨["cp1257", "1257", "windows_1257"],
  ["€\uFFFD‚\uFFFD„…†‡\uFFFD‰\uFFFD‹\uFFFD¨ˇ¸\uFFFD‘’“”•–—\uFFFD™\uFFFD›\uFFFD¯˛\uFFFD\xa0\uFFFD",
    "¢£¤\uFFFD¦§Ø©Ŗ«¬\xad®Æ°±²³´µ¶·ø¹ŗ»¼½¾æĄĮĀĆÄÅĘĒČÉŹĖĢĶĪĻŠŃŅÓŌÕÖ×ŲŁŚŪÜŻŽßąįāćäåęēčéźėģķīļšńņóōõ",
    "ö÷ųłśūüżž˙"]⟩,
  ⟨["cp1258", "1258", "windows_1258"],
  ["€\uFFFD‚ƒ„…†‡ˆ‰\uFFFD‹Œ\uFFFD\uFFFD\uFFFD\uFFFD‘’“”•–—˜™\uFFFD›œ\uFFFD\uFFFDŸ\xa0¡¢£¤¥¦§¨©ª«",
    "¬\xad®¯°±²³´µ¶·¸¹º»¼½¾¿ÀÁÂĂÄÅÆÇÈÉÊË\u0300ÍÎÏĐÑ\u0309ÓÔƠÖ×ØÙÚÛÜƯ\u0303ßàáâăäåæçèéêë\u0301íîïđ",
    "ñ\u0323óôơö÷øùúûüư₫ÿ"]⟩,
  ⟨["cp273", "273", "csibm273", "ibm273"],
  ["\x00\x01\x02\x03\x9c\x09\x86\x7f\x97\x8d\x8e\x0b\x0c\x0d\x0e\x0f\x10\x11\x12\x13\x9d\x85\x08",
    "\x87\x18\x19\x92\x8f\x1c\x1d\x1e\x1f\x80\x81\x82\x83\x84\x0a\x17\x1b\x88\x89\x8a\x8b\x8c\x05",
    "\x06\x07\x90\x91\x16\x93\x94\x95\x96\x04\x98\x99\x9a\x9b\x14\x15\x9e\x1a \xa0â\x7bàáãåçñÄ.<(",
    "+!&éêëèíîïì~Ü$*);^-\x2fÂ[ÀÁÃÅÇÑö,%_>?øÉÊËÈÍÎÏÌ\x60:#§\x27=\x22Øabcdefghi«»ðýþ±°jklmnopqrªºæ¸",
    "Æ¤µßstuvwxyz¡¿ÐÝÞ®¢£¥·©@¶¼½¾¬|‾¨´×äABCDEFGHI\xadô¦òóõüJKLMNOPQR¹û\x7dùúÿÖ÷STUVWXYZ²Ô\x5cÒÓÕ0",
    "123456789³Û]ÙÚ\x9f"]⟩,
  ⟨["cp424", "424", "csibm424", "ebcdic_cp_he", "ibm424"],
  ["\x00\x01\x02\x03\x9c\x09\x86\x7f\x97\x8d\x8e\x0b\x0c\x0d\x0e\x0f\x10\x11\x12\x13\x9d\x85\x08",
    "\x87\x18\x19\x92\x8f\x1c\x1d\x1e\x1f\x80\x81\x82\x83\x84\x0a\x17\x1b\x88\x89\x8a\x8b\x8c\x05",
    "\x06\x07\x90\x91\x16\x93\x94\x95\x96\x04\x98\x99\x9a\x9b\x14\x15\x9e\x1a \u05D0\u05D1\u05D2",
    "\u05D3\u05D4\u05D5\u05D6\u05D7\u05D8¢.<(+|&\u05D9\u05DA\u05DB\u05DC\u05DD\u05DE\u05DF\u05E0",
    "\u05E1!$*);¬-\x2f\u05E2\u05E3\u05E4\u05E5\u05E6\u05E7\u05E8\u05E9¦,%_>?\uFFFD\u05EA\uFFFD",
    "\uFFFD\xa0\uFFFD\uFFFD\uFFFD‗\x60:#@\x27=\x22\uFFFDabcdefghi«»\uFFFD\uFFFD\uFFFD±°jklmnopqr",
    "\uFFFD\uFFFD\uFFFD¸\uFFFD¤µ~stuvwxyz\uFFFD\uFFFD\uFFFD\uFFFD\uFFFD®^£¥·©§¶¼½¾[]¯¨´×\x7bABCDE",
    "FGHI\xad\uFFFD\uFFFD\uFFFD\uFFFD\uFFFD\x7dJKLMNOPQR¹\uFFFD\uFFFD\uFFFD\uFFFD\uFFFD\x5c÷STUVW",
    "XYZ²\uFFFD\uFFFD\uFFFD\uFFFD\uFFFD0123456789³\uFFFD\uFFFD\uFFFD\uFFFD\x9f"]⟩,
  ⟨["cp437", "437", "cspc8codepage437", "ibm437"],
  ["ÇüéâäàåçêëèïîìÄÅÉæÆôöòûùÿÖÜ¢£¥₧ƒáíóúñÑªº¿⌐¬½¼¡«»░▒▓│┤╡╢╖╕╣║╗╝╜╛┐└┴┬├─┼╞╟╚╔╩╦╠═╬╧╨╤╥╙╘╒╓╫╪┘┌█",
    "▄▌▐▀αßΓπΣσµτΦΘΩδ∞φε∩≡±≥≤⌠⌡÷≈°∙·√ⁿ²■\xa0"]⟩,
  ⟨["cp500", "500", "csibm500", "ebcdic_cp_be", "ebcdic_cp_ch", "ibm500"],
  ["\x00\x01\x02\x03\x9c\x09\x86\x7f\x97\x8d\x8e\x0b\x0c\x0d\x0e\x0f\x10\x11\x12\x13\x9d\x85\x08",
    "\x87\x18\x19\x92\x8f\x1c\x1d\x1e\x1f\x80\x81\x82\x83\x84\x0a\x17\x1b\x88\x89\x8a\x8b\x8c\x05",
    "\x06\x07\x90\x91\x16\x93\x94\x95\x96\x04\x98\x99\x9a\x9b\x14\x15\x9e\x1a \xa0âäàáãåçñ[.<(+!&",
    "éêëèíîïìß]$*);^-\x2fÂÄÀÁÃÅÇÑ¦,%_>?øÉÊËÈÍÎÏÌ\x60:#@\x27=\x22Øabcdefghi«»ðýþ±°jklmnopqrªºæ¸Æ¤µ",
    "~stuvwxyz¡¿ÐÝÞ®¢£¥·©§¶¼½¾¬|¯¨´×\x7bABCDEFGHI\xadôöòóõ\x7dJKLMNOPQR¹ûüùúÿ\x5c÷STUVWXYZ²ÔÖÒÓÕ0",
    "123456789³ÛÜÙÚ\x9f"]⟩,
  ⟨["cp720"],
  ["\x80\x81éâ\x84à\x86çêëèïî\x8d\x8e\x8f\x90\u0651\u0652ô¤\u0640ûù\u0621\u0622\u0623\u0624£",
    "\u0625\u0626\u0627\u0628\u0629\u062A\u062B\u062C\u062D\u062E\u062F\u0630\u0631\u0632\u0633",
    "\u0634\u0635«»░▒▓│┤╡╢╖╕╣║╗╝╜╛┐└┴┬├─┼╞╟╚╔╩╦╠═╬╧╨╤╥╙╘╒╓╫╪┘┌█▄▌▐▀\u0636\u0637\u0638\u0639\u063A",
    "\u0641µ\u0642\u0643\u0644\u0645\u0646\u0647\u0648\u0649\u064A≡\u064B\u064C\u064D\u064E\u064F",
    "\u0650≈°∙·√ⁿ²■\xa0"]⟩,
  ⟨["cp737"],
  ["ΑΒΓΔΕΖΗΘΙΚΛΜΝΞΟΠΡΣΤΥΦΧΨΩαβγδεζηθικλμνξοπρσςτυφχψ░▒▓│┤╡╢╖╕╣║╗╝╜╛┐└┴┬├─┼╞╟╚╔╩╦╠═╬╧╨╤╥╙╘╒╓╫╪┘┌█",
    "▄▌▐▀ωάέήϊίόύϋώΆΈΉΊΌΎΏ±≥≤ΪΫ÷≈°∙·√ⁿ²■\xa0"]⟩,
  ⟨["cp775", "775", "cspc775baltic", "ibm775"],
  ["ĆüéāäģåćłēŖŗīŹÄÅÉæÆōöĢ¢ŚśÖÜø£Ø×¤ĀĪóŻżź”¦©®¬½¼Ł«»░▒▓│┤ĄČĘĖ╣║╗╝ĮŠ┐└┴┬├─┼ŲŪ╚╔╩╦╠═╬Žąčęėįšųūž┘┌█",
    "▄▌▐▀ÓßŌŃõÕµńĶķĻļņĒŅ’\xad±“¾¶§÷„°∙·¹³²■\xa0"]⟩,
  ⟨["cp850", "850", "cspc850multilingual", "ibm850"],
  ["ÇüéâäàåçêëèïîìÄÅÉæÆôöòûùÿÖÜø£Ø×ƒáíóúñÑªº¿®¬½¼¡«»░▒▓│┤ÁÂÀ©╣║╗╝¢¥┐└┴┬├─┼ãÃ╚╔╩╦╠═╬¤ðÐÊËÈıÍÎÏ┘┌█",
    "▄¦Ì▀ÓßÔÒõÕµþÞÚÛÙýÝ¯´\xad±‗¾¶§÷¸°¨·¹³²■\xa0"]⟩,
  ⟨["cp852", "852", "cspcp852", "ibm852"],
  ["ÇüéâäůćçłëŐőîŹÄĆÉĹĺôöĽľŚśÖÜŤťŁ×čáíóúĄąŽžĘę¬źČş«»░▒▓│┤ÁÂĚŞ╣║╗╝Żż┐└┴┬├─┼Ăă╚╔╩╦╠═╬¤đĐĎËďŇÍÎě┘┌█",
    "▄ŢŮ▀ÓßÔŃńňŠšŔÚŕŰýÝţ´\xad˝˛ˇ˘§÷¸°¨˙űŘř■\xa0"]⟩,
  ⟨["cp855", "855", "csibm855", "ibm855"],
  ["ђЂѓЃёЁєЄѕЅіІїЇјЈљЉњЊћЋќЌўЎџЏюЮъЪаАбБцЦдДеЕфФгГ«»░▒▓│┤хХиИ╣║╗╝йЙ┐└┴┬├─┼кК╚╔╩╦╠═╬¤лЛмМнНоОп┘┌█",
    "▄Пя▀ЯрРсСтТуУжЖвВьЬ№\xadыЫзЗшШэЭщЩчЧ§■\xa0"]⟩,
  ⟨["cp856"],
  ["\u05D0\u05D1\u05D2\u05D3\u05D4\u05D5\u05D6\u05D7\u05D8\u05D9\u05DA\u05DB\u05DC\u05DD\u05DE",
    "\u05DF\u05E0\u05E1\u05E2\u05E3\u05E4\u05E5\u05E6\u05E7\u05E8\u05E9\u05EA\uFFFD£\uFFFD×\uFFFD",
    "\uFFFD\uFFFD\uFFFD\uFFFD\uFFFD\uFFFD\uFFFD\uFFFD\uFFFD®¬½¼\uFFFD«»░▒▓│┤\uFFFD\uFFFD\uFFFD©╣║",
    "╗╝¢¥┐└┴┬├─┼\uFFFD\uFFFD╚╔╩╦╠═╬¤\uFFFD\uFFFD\uFFFD\uFFFD\uFFFD\uFFFD\uFFFD\uFFFD\uFFFD┘┌█▄¦",
    "\uFFFD▀\uFFFD\uFFFD\uFFFD\uFFFD\uFFFD\uFFFDµ\uFFFD\uFFFD\uFFFD\uFFFD\uFFFD\uFFFD\uFFFD¯´\xad",
    "±‗¾¶§÷¸°¨·¹³²■\xa0"]⟩,
  ⟨["cp857", "857", "csibm857", "ibm857"],
  ["ÇüéâäàåçêëèïîıÄÅÉæÆôöòûùİÖÜø£ØŞşáíóúñÑĞğ¿®¬½¼¡«»░▒▓│┤ÁÂÀ©╣║╗╝¢¥┐└┴┬├─┼ãÃ╚╔╩╦╠═╬¤ºªÊËÈ\uFFFDÍ",
    "ÎÏ┘┌█▄¦Ì▀ÓßÔÒõÕµ\uFFFD×ÚÛÙìÿ¯´\xad±\uFFFD¾¶§÷¸°¨·¹³²■\xa0"]⟩,
  ⟨["cp858", "858", "csibm858", "ibm858"],
  ["ÇüéâäàåçêëèïîìÄÅÉæÆôöòûùÿÖÜø£Ø×ƒáíóúñÑªº¿®¬½¼¡«»░▒▓│┤ÁÂÀ©╣║╗╝¢¥┐└┴┬├─┼ãÃ╚╔╩╦╠═╬¤ðÐÊËÈ€ÍÎÏ┘┌█",
    "▄¦Ì▀ÓßÔÒõÕµþÞÚÛÙýÝ¯´\xad±‗¾¶§÷¸°¨·¹³²■\xa0"]⟩,
  ⟨["cp860", "860", "csibm860", "ibm860"],
  ["ÇüéâãàÁçêÊèÍÔìÃÂÉÀÈôõòÚùÌÕÜ¢£Ù₧ÓáíóúñÑªº¿Ò¬½¼¡«»░▒▓│┤╡╢╖╕╣║╗╝╜╛┐└┴┬├─┼╞╟╚╔╩╦╠═╬╧╨╤╥╙╘╒╓╫╪┘┌█",
    "▄▌▐▀αßΓπΣσµτΦΘΩδ∞φε∩≡±≥≤⌠⌡÷≈°∙·√ⁿ²■\xa0"]⟩,
  ⟨["cp861", "861", "cp_is", "csibm861", "ibm861"],
  ["ÇüéâäàåçêëèÐðÞÄÅÉæÆôöþûÝýÖÜø£Ø₧ƒáíóúÁÍÓÚ¿⌐¬½¼¡«»░▒▓│┤╡╢╖╕╣║╗╝╜╛┐└┴┬├─┼╞╟╚╔╩╦╠═╬╧╨╤╥╙╘╒╓╫╪┘┌█",
    "▄▌▐▀αßΓπΣσµτΦΘΩδ∞φε∩≡±≥≤⌠⌡÷≈°∙·√ⁿ²■\xa0"]⟩,
  ⟨["cp862", "862", "cspc862latinhebrew", "ibm862"],
  ["\u05D0\u05D1\u05D2\u05D3\u05D4\u05D5\u05D6\u05D7\u05D8\u05D9\u05DA\u05DB\u05DC\u05DD\u05DE",
    "\u05DF\u05E0\u05E1\u05E2\u05E3\u05E4\u05E5\u05E6\u05E7\u05E8\u05E9\u05EA¢£¥₧ƒáíóúñÑªº¿⌐¬½¼¡«",
    "»░▒▓│┤╡╢╖╕╣║╗╝╜╛┐└┴┬├─┼╞╟╚╔╩╦╠═╬╧╨╤╥╙╘╒╓╫╪┘┌█▄▌▐▀αßΓπΣσµτΦΘΩδ∞φε∩≡±≥≤⌠⌡÷≈°∙·√ⁿ²■\xa0"]⟩,
  ⟨["cp863", "863", "csibm863", "ibm863"],
  ["ÇüéâÂà¶çêëèïî‗À§ÉÈÊôËÏûù¤ÔÜ¢£ÙÛƒ¦´óú¨¸³¯Î⌐¬½¼¾«»░▒▓│┤╡╢╖╕╣║╗╝╜╛┐└┴┬├─┼╞╟╚╔╩╦╠═╬╧╨╤╥╙╘╒╓╫╪┘┌█",
    "▄▌▐▀αßΓπΣσµτΦΘΩδ∞φε∩≡±≥≤⌠⌡÷≈°∙·√ⁿ²■\xa0"]⟩,
  ⟨["cp864", "864", "csibm864", "ibm864"],
  ["\x00\x01\x02\x03\x04\x05\x06\x07\x08\x09\x0a\x0b\x0c\x0d\x0e\x0f\x10\x11\x12\x13\x14\x15\x16",
    "\x17\x18\x19\x1a\x1b\x1c\x1d\x1e\x1f !\x22#$٪&\x27()*+,-.\x2f0123456789:;<=>?@ABCDEFGHIJKLMN",
    "OPQRSTUVWXYZ[\x5c]^_\x60abcdefghijklmnopqrstuvwxyz\x7b|\x7d~\x7f°·∙√▒─│┼┤┬├┴┐┌└┘β∞φ±½¼≈«»",
    "\uFEF7\uFEF8\uFFFD\uFFFD\uFEFB\uFEFC\uFFFD\xa0\xad\uFE82£¤\uFE84\uFFFD\uFFFD\uFE8E\uFE8F",
    "\uFE95\uFE99،\uFE9D\uFEA1\uFEA5\u0660\u0661\u0662\u0663\u0664\u0665\u0666\u0667\u0668\u0669",
    "\uFED1\u061B\uFEB1\uFEB5\uFEB9\u061F¢\uFE80\uFE81\uFE83\uFE85\uFECA\uFE8B\uFE8D\uFE91\uFE93",
    "\uFE97\uFE9B\uFE9F\uFEA3\uFEA7\uFEA9\uFEAB\uFEAD\uFEAF\uFEB3\uFEB7\uFEBB\uFEBF\uFEC1\uFEC5",
    "\uFECB\uFECF¦¬÷×\uFEC9\u0640\uFED3\uFED7\uFEDB\uFEDF\uFEE3\uFEE7\uFEEB\uFEED\uFEEF\uFEF3",
    "\uFEBD\uFECC\uFECE\uFECD\uFEE1\uFE7D\u0651\uFEE5\uFEE9\uFEEC\uFEF0\uFEF2\uFED0\uFED5\uFEF5",
    "\uFEF6\uFEDD\uFED9\uFEF1■\uFFFD"]⟩,
  ⟨["cp865", "865", "csibm865", "ibm865"],
  ["ÇüéâäàåçêëèïîìÄÅÉæÆôöòûùÿÖÜø£Ø₧ƒáíóúñÑªº¿⌐¬½¼¡«¤░▒▓│┤╡╢╖╕╣║╗╝╜╛┐└┴┬├─┼╞╟╚╔╩╦╠═╬╧╨╤╥╙╘╒╓╫╪┘┌█",
    "▄▌▐▀αßΓπΣσµτΦΘΩδ∞φε∩≡±≥≤⌠⌡÷≈°∙·√ⁿ²■\xa0"]⟩,
  ⟨["cp866", "866", "csibm866", "ibm866"],
  ["АБВГДЕЖЗИЙКЛМНОПРСТУФХЦЧШЩЪЫЬЭЮЯабвгдежзийклмноп░▒▓│┤╡╢╖╕╣║╗╝╜╛┐└┴┬├─┼╞╟╚╔╩╦╠═╬╧╨╤╥╙╘╒╓╫╪┘┌█",
    "▄▌▐▀рстуфхцчшщъыьэюяЁёЄєЇїЎў°∙·√№¤■\xa0"]⟩,
  ⟨["cp869", "869", "cp_gr", "csibm869", "ibm869"],
  ["\uFFFD\uFFFD\uFFFD\uFFFD\uFFFD\uFFFDΆ\uFFFD·¬¦‘’Έ―ΉΊΪΌ\uFFFD\uFFFDΎΫ©Ώ²³ά£έήίϊΐόύΑΒΓΔΕΖΗ½ΘΙ«",
    "»░▒▓│┤ΚΛΜΝ╣║╗╝ΞΟ┐└┴┬├─┼ΠΡ╚╔╩╦╠═╬ΣΤΥΦΧΨΩαβγ┘┌█▄δε▀ζηθικλμνξοπρσςτ΄\xad±υφχ§ψ΅°¨ωϋΰώ■\xa0"]⟩,
  ⟨["cp874"],
  ["€\uFFFD\uFFFD\uFFFD\uFFFD…\uFFFD\uFFFD\uFFFD\uFFFD\uFFFD\uFFFD\uFFFD\uFFFD\uFFFD\uFFFD\uFFFD",
    "‘’“”•–—\uFFFD\uFFFD\uFFFD\uFFFD\uFFFD\uFFFD\uFFFD\uFFFD\xa0กขฃคฅฆงจฉชซฌญฎฏฐฑฒณดตถทธนบปผฝพฟภม",
    "ยรฤลฦวศษสหฬอฮฯะ\u0E31าำ\u0E34\u0E35\u0E36\u0E37\u0E38\u0E39\u0E3A\uFFFD\uFFFD\uFFFD\uFFFD฿เแ",
    "โใไๅๆ\u0E47\u0E48\u0E49\u0E4A\u0E4B\u0E4C\u0E4D\u0E4E๏๐๑๒๓๔๕๖๗๘๙๚๛\uFFFD\uFFFD\uFFFD\uFFFD"]⟩,
  ⟨["cp875"],
  ["\x00\x01\x02\x03\x9c\x09\x86\x7f\x97\x8d\x8e\x0b\x0c\x0d\x0e\x0f\x10\x11\x12\x13\x9d\x85\x08",
    "\x87\x18\x19\x92\x8f\x1c\x1d\x1e\x1f\x80\x81\x82\x83\x84\x0a\x17\x1b\x88\x89\x8a\x8b\x8c\x05",
    "\x06\x07\x90\x91\x16\x93\x94\x95\x96\x04\x98\x99\x9a\x9b\x14\x15\x9e\x1a ΑΒΓΔΕΖΗΘΙ[.<(+!&ΚΛΜ",
    "ΝΞΟΠΡΣ]$*);^-\x2fΤΥΦΧΨΩΪΫ|,%_>?¨ΆΈΉ\xa0ΊΌΎΏ\x60:#@\x27=\x22΅abcdefghiαβγδεζ°jklmnopqrηθικλμ´",
    "~stuvwxyzνξοπρσ£άέήϊίόύϋώςτυφχψ\x7bABCDEFGHI\xadωΐΰ‘―\x7dJKLMNOPQR±½\x1a·’¦\x5c\x1aSTUVWXYZ²",
    "§\x1a\x1a«¬0123456789³©\x1a\x1a»\x9f"]⟩,
  ⟨["hp_roman8", "cp1051", "csHPRoman8", "ibm1051", "r8", "roman8"],
  ["\x80\x81\x82\x83\x84\x85\x86\x87\x88\x89\x8a\x8b\x8c\x8d\x8e\x8f\x90\x91\x92\x93\x94\x95\x96",
    "\x97\x98\x99\x9a\x9b\x9c\x9d\x9e\x9f\xa0ÀÂÈÊËÎÏ´ˋˆ¨˜ÙÛ₤¯Ýý°ÇçÑñ¡¿¤£¥§ƒ¢âêôûáéóúàèòùäëöüÅîØÆå",
    "íøæÄìÖÜÉïßÔÁÃãÐðÍÌÓÒÕõŠšÚŸÿÞþ·µ¶¾—¼½ªº«■»±\uFFFD"]⟩,
  ⟨["iso8859_1"],
  ["\x80\x81\x82\x83\x84\x85\x86\x87\x88\x89\x8a\x8b\x8c\x8d\x8e\x8f\x90\x91\x92\x93\x94\x95\x96",
    "\x97\x98\x99\x9a\x9b\x9c\x9d\x9e\x9f\xa0¡¢£¤¥¦§¨©ª«¬\xad®¯°±²³´µ¶·¸¹º»¼½¾¿ÀÁÂÃÄÅÆÇÈÉÊËÌÍÎÏÐÑ",
    "ÒÓÔÕÖ×ØÙÚÛÜÝÞßàáâãäåæçèéêëìíîïðñòóôõö÷øùúûüýþÿ"]⟩,
  ⟨["iso8859_10", "csisolatin6", "iso_8859_10", "iso_8859_10_1992", "iso_ir_157", "l6", "latin6"],
  ["\x80\x81\x82\x83\x84\x85\x86\x87\x88\x89\x8a\x8b\x8c\x8d\x8e\x8f\x90\x91\x92\x93\x94\x95\x96",
    "\x97\x98\x99\x9a\x9b\x9c\x9d\x9e\x9f\xa0ĄĒĢĪĨĶ§ĻĐŠŦŽ\xadŪŊ°ąēģīĩķ·ļđšŧž―ūŋĀÁÂÃÄÅÆĮČÉĘËĖÍÎÏÐŅ",
    "ŌÓÔÕÖŨØŲÚÛÜÝÞßāáâãäåæįčéęëėíîïðņōóôõöũøųúûüýþĸ"]⟩,
  ⟨["iso8859_11", "iso_8859_11", "iso_8859_11_2001", "thai"],
  ["\x80\x81\x82\x83\x84\x85\x86\x87\x88\x89\x8a\x8b\x8c\x8d\x8e\x8f\x90\x91\x92\x93\x94\x95\x96",
    "\x97\x98\x99\x9a\x9b\x9c\x9d\x9e\x9f\xa0กขฃคฅฆงจฉชซฌญฎฏฐฑฒณดตถทธนบปผฝพฟภมยรฤลฦวศษสหฬอฮฯะ",
    "\u0E31าำ\u0E34\u0E35\u0E36\u0E37\u0E38\u0E39\u0E3A\uFFFD\uFFFD\uFFFD\uFFFD฿เแโใไๅๆ\u0E47",
    "\u0E48\u0E49\u0E4A\u0E4B\u0E4C\u0E4D\u0E4E๏๐๑๒๓๔๕๖๗๘๙๚๛\uFFFD\uFFFD\uFFFD\uFFFD"]⟩,
  ⟨["iso8859_13", "iso_8859_13", "l7", "latin7"],
  ["\x80\x81\x82\x83\x84\x85\x86\x87\x88\x89\x8a\x8b\x8c\x8d\x8e\x8f\x90\x91\x92\x93\x94\x95\x96",
    "\x97\x98\x99\x9a\x9b\x9c\x9d\x9e\x9f\xa0”¢£¤„¦§Ø©Ŗ«¬\xad®Æ°±²³“µ¶·ø¹ŗ»¼½¾æĄĮĀĆÄÅĘĒČÉŹĖĢĶĪĻŠŃ",
    "ŅÓŌÕÖ×ŲŁŚŪÜŻŽßąįāćäåęēčéźėģķīļšńņóōõö÷ųłśūüżž’"]⟩,
  ⟨["iso8859_14", "iso_8859_14", "iso_8859_14_1998", "iso_celtic", "iso_ir_199", "l8", "latin8"],
  ["\x80\x81\x82\x83\x84\x85\x86\x87\x88\x89\x8a\x8b\x8c\x8d\x8e\x8f\x90\x91\x92\x93\x94\x95\x96",
    "\x97\x98\x99\x9a\x9b\x9c\x9d\x9e\x9f\xa0Ḃḃ£ĊċḊ§Ẁ©ẂḋỲ\xad®ŸḞḟĠġṀṁ¶ṖẁṗẃṠỳẄẅṡÀÁÂÃÄÅÆÇÈÉÊËÌÍÎÏŴÑ",
    "ÒÓÔÕÖṪØÙÚÛÜÝŶßàáâãäåæçèéêëìíîïŵñòóôõöṫøùúûüýŷÿ"]⟩,
  ⟨["iso8859_15", "iso_8859_15", "l9", "latin9"],
  ["\x80\x81\x82\x83\x84\x85\x86\x87\x88\x89\x8a\x8b\x8c\x8d\x8e\x8f\x90\x91\x92\x93\x94\x95\x96",
    "\x97\x98\x99\x9a\x9b\x9c\x9d\x9e\x9f\xa0¡¢£€¥Š§š©ª«¬\xad®¯°±²³Žµ¶·ž¹º»ŒœŸ¿ÀÁÂÃÄÅÆÇÈÉÊËÌÍÎÏÐÑ",
    "ÒÓÔÕÖ×ØÙÚÛÜÝÞßàáâãäåæçèéêëìíîïðñòóôõö÷øùúûüýþÿ"]⟩,
  ⟨["iso8859_16", "iso_8859_16", "iso_8859_16_2001", "iso_ir_226", "l10", "latin10"],
  ["\x80\x81\x82\x83\x84\x85\x86\x87\x88\x89\x8a\x8b\x8c\x8d\x8e\x8f\x90\x91\x92\x93\x94\x95\x96",
    "\x97\x98\x99\x9a\x9b\x9c\x9d\x9e\x9f\xa0ĄąŁ€„Š§š©Ș«Ź\xadźŻ°±ČłŽ”¶·žčș»ŒœŸżÀÁÂĂÄĆÆÇÈÉÊËÌÍÎÏĐŃ",
    "ÒÓÔŐÖŚŰÙÚÛÜĘȚßàáâăäćæçèéêëìíîïđńòóôőöśűùúûüęțÿ"]⟩,
  ⟨["iso8859_2", "csisolatin2", "iso_8859_2", "iso_8859_2_1987", "iso_ir_101", "l2", "latin2"],
  ["\x80\x81\x82\x83\x84\x85\x86\x87\x88\x89\x8a\x8b\x8c\x8d\x8e\x8f\x90\x91\x92\x93\x94\x95\x96",
    "\x97\x98\x99\x9a\x9b\x9c\x9d\x9e\x9f\xa0Ą˘Ł¤ĽŚ§¨ŠŞŤŹ\xadŽŻ°ą˛ł´ľśˇ¸šşťź˝žżŔÁÂĂÄĹĆÇČÉĘËĚÍÎĎĐŃ",
    "ŇÓÔŐÖ×ŘŮÚŰÜÝŢßŕáâăäĺćçčéęëěíîďđńňóôőö÷řůúűüýţ˙"]⟩,
  ⟨["iso8859_3", "csisolatin3", "iso_8859_3", "iso_8859_3_1988", "iso_ir_109", "l3", "latin3"],
  ["\x80\x81\x82\x83\x84\x85\x86\x87\x88\x89\x8a\x8b\x8c\x8d\x8e\x8f\x90\x91\x92\x93\x94\x95\x96",
    "\x97\x98\x99\x9a\x9b\x9c\x9d\x9e\x9f\xa0Ħ˘£¤\uFFFDĤ§¨İŞĞĴ\xad\uFFFDŻ°ħ²³´µĥ·¸ışğĵ½\uFFFDżÀÁÂ",
    "\uFFFDÄĊĈÇÈÉÊËÌÍÎÏ\uFFFDÑÒÓÔĠÖ×ĜÙÚÛÜŬŜßàáâ\uFFFDäċĉçèéêëìíîï\uFFFDñòóôġö÷ĝùúûüŭŝ˙"]⟩,
  ⟨["iso8859_4", "csisolatin4", "iso_8859_4", "iso_8859_4_1988", "iso_ir_110", "l4", "latin4"],
  ["\x80\x81\x82\x83\x84\x85\x86\x87\x88\x89\x8a\x8b\x8c\x8d\x8e\x8f\x90\x91\x92\x93\x94\x95\x96",
    "\x97\x98\x99\x9a\x9b\x9c\x9d\x9e\x9f\xa0ĄĸŖ¤ĨĻ§¨ŠĒĢŦ\xadŽ¯°ą˛ŗ´ĩļˇ¸šēģŧŊžŋĀÁÂÃÄÅÆĮČÉĘËĖÍÎĪĐŅ",
    "ŌĶÔÕÖ×ØŲÚÛÜŨŪßāáâãäåæįčéęëėíîīđņōķôõö÷øųúûüũū˙"]⟩,
  ⟨["iso8859_5", "csisolatincyrillic", "cyrillic", "iso_8859_5", "iso_8859_5_1988", "iso_ir_144"],
  ["\x80\x81\x82\x83\x84\x85\x86\x87\x88\x89\x8a\x8b\x8c\x8d\x8e\x8f\x90\x91\x92\x93\x94\x95\x96",
    "\x97\x98\x99\x9a\x9b\x9c\x9d\x9e\x9f\xa0ЁЂЃЄЅІЇЈЉЊЋЌ\xadЎЏАБВГДЕЖЗИЙКЛМНОПРСТУФХЦЧШЩЪЫЬЭЮЯаб",
    "вгдежзийклмнопрстуфхцчшщъыьэюя№ёђѓєѕіїјљњћќ§ўџ"]⟩,
  ⟨["iso8859_6", "arabic", "asmo_708", "csisolatinarabic", "ecma_114", "iso_8859_6",
      "iso_8859_6_1987", "iso_ir_127"],
  ["\x80\x81\x82\x83\x84\x85\x86\x87\x88\x89\x8a\x8b\x8c\x8d\x8e\x8f\x90\x91\x92\x93\x94\x95\x96",
    "\x97\x98\x99\x9a\x9b\x9c\x9d\x9e\x9f\xa0\uFFFD\uFFFD\uFFFD¤\uFFFD\uFFFD\uFFFD\uFFFD\uFFFD",
    "\uFFFD\uFFFD،\xad\uFFFD\uFFFD\uFFFD\uFFFD\uFFFD\uFFFD\uFFFD\uFFFD\uFFFD\uFFFD\uFFFD\uFFFD",
    "\uFFFD\u061B\uFFFD\uFFFD\uFFFD\u061F\uFFFD\u0621\u0622\u0623\u0624\u0625\u0626\u0627\u0628",
    "\u0629\u062A\u062B\u062C\u062D\u062E\u062F\u0630\u0631\u0632\u0633\u0634\u0635\u0636\u0637",
    "\u0638\u0639\u063A\uFFFD\uFFFD\uFFFD\uFFFD\uFFFD\u0640\u0641\u0642\u0643\u0644\u0645\u0646",
    "\u0647\u0648\u0649\u064A\u064B\u064C\u064D\u064E\u064F\u0650\u0651\u0652\uFFFD\uFFFD\uFFFD",
    "\uFFFD\uFFFD\uFFFD\uFFFD\uFFFD\uFFFD\uFFFD\uFFFD\uFFFD\uFFFD"]⟩,
  ⟨["iso8859_7", "csisolatingreek", "ecma_118", "elot_928", "greek", "greek8", "iso_8859_7",
      "iso_8859_7_1987", "iso_ir_126"],
  ["\x80\x81\x82\x83\x84\x85\x86\x87\x88\x89\x8a\x8b\x8c\x8d\x8e\x8f\x90\x91\x92\x93\x94\x95\x96",
    "\x97\x98\x99\x9a\x9b\x9c\x9d\x9e\x9f\xa0‘’£€₯¦§¨©ͺ«¬\xad\uFFFD―°±²³΄΅Ά·ΈΉΊ»Ό½ΎΏΐΑΒΓΔΕΖΗΘΙΚΛΜ",
    "ΝΞΟΠΡ\uFFFDΣΤΥΦΧΨΩΪΫάέήίΰαβγδεζηθικλμνξοπρςστυφχψωϊϋόύώ\uFFFD"]⟩,
  ⟨["iso8859_8", "csisolatinhebrew", "hebrew", "iso_8859_8", "iso_8859_8_1988", "iso_ir_138"],
  ["\x80\x81\x82\x83\x84\x85\x86\x87\x88\x89\x8a\x8b\x8c\x8d\x8e\x8f\x90\x91\x92\x93\x94\x95\x96",
    "\x97\x98\x99\x9a\x9b\x9c\x9d\x9e\x9f\xa0\uFFFD¢£¤¥¦§¨©×«¬\xad®¯°±²³´µ¶·¸¹÷»¼½¾\uFFFD\uFFFD",
    "\uFFFD\uFFFD\uFFFD\uFFFD\uFFFD\uFFFD\uFFFD\uFFFD\uFFFD\uFFFD\uFFFD\uFFFD\uFFFD\uFFFD\uFFFD",
    "\uFFFD\uFFFD\uFFFD\uFFFD\uFFFD\uFFFD\uFFFD\uFFFD\uFFFD\uFFFD\uFFFD\uFFFD\uFFFD\uFFFD\uFFFD‗",
    "\u05D0\u05D1\u05D2\u05D3\u05D4\u05D5\u05D6\u05D7\u05D8\u05D9\u05DA\u05DB\u05DC\u05DD\u05DE",
    "\u05DF\u05E0\u05E1\u05E2\u05E3\u05E4\u05E5\u05E6\u05E7\u05E8\u05E9\u05EA\uFFFD\uFFFD\u200E",
    "\u200F\uFFFD"]⟩,
  ⟨["iso8859_9", "csisolatin5", "iso_8859_9", "iso_8859_9_1989", "iso_ir_148", "l5", "latin5"],
  ["\x80\x81\x82\x83\x84\x85\x86\x87\x88\x89\x8a\x8b\x8c\x8d\x8e\x8f\x90\x91\x92\x93\x94\x95\x96",
    "\x97\x98\x99\x9a\x9b\x9c\x9d\x9e\x9f\xa0¡¢£¤¥¦§¨©ª«¬\xad®¯°±²³´µ¶·¸¹º»¼½¾¿ÀÁÂÃÄÅÆÇÈÉÊËÌÍÎÏĞÑ",
    "ÒÓÔÕÖ×ØÙÚÛÜİŞßàáâãäåæçèéêëìíîïğñòóôõö÷øùúûüışÿ"]⟩,
  ⟨["koi8_r", "cskoi8r"],
  ["─│┌┐└┘├┤┬┴┼▀▄█▌▐░▒▓⌠■∙√≈≤≥\xa0⌡°²·÷═║╒ё╓╔╕╖╗╘╙╚╛╜╝╞╟╠╡Ё╢╣╤╥╦╧╨╩╪╫╬©юабцдефгхийклмнопярстужвь",
    "ызшэщчъЮАБЦДЕФГХИЙКЛМНОПЯРСТУЖВЬЫЗШЭЩЧЪ"]⟩,
  ⟨["koi8_t"],
  ["қғ‚Ғ„…†‡\uFFFD‰ҳ‹ҲҷҶ\uFFFDҚ‘’“”•–—\uFFFD™\uFFFD›\uFFFD\uFFFD\uFFFD\uFFFD\uFFFDӯӮё¤ӣ¦§\uFFFD",
    "\uFFFD\uFFFD«¬\xad®\uFFFD°±²Ё\uFFFDӢ¶·\uFFFD№\uFFFD»\uFFFD\uFFFD\uFFFD©юабцдефгхийклмнопярст",
    "ужвьызшэщчъЮАБЦДЕФГХИЙКЛМНОПЯРСТУЖВЬЫЗШЭЩЧЪ"]⟩,
  ⟨["koi8_u"],
  ["─│┌┐└┘├┤┬┴┼▀▄█▌▐░▒▓⌠■∙√≈≤≥\xa0⌡°²·÷═║╒ёє╔ії╗╘╙╚╛ґ╝╞╟╠╡ЁЄ╣ІЇ╦╧╨╩╪Ґ╬©юабцдефгхийклмнопярстужвь",
    "ызшэщчъЮАБЦДЕФГХИЙКЛМНОПЯРСТУЖВЬЫЗШЭЩЧЪ"]⟩,
  ⟨["kz1048", "kz_1048", "rk1048", "strk1048_2002"],
  ["ЂЃ‚ѓ„…†‡€‰Љ‹ЊҚҺЏђ‘’“”•–—\uFFFD™љ›њқһџ\xa0ҰұӘ¤Ө¦§Ё©Ғ«¬\xad®Ү°±Ііөµ¶·ё№ғ»әҢңүАБВГДЕЖЗИЙКЛМНОПР",
    "СТУФХЦЧШЩЪЫЬЭЮЯабвгдежзийклмнопрстуфхцчшщъыьэюя"]⟩,
  ⟨["mac_arabic"],
  ["Ä\xa0ÇÉÑÖÜáàâä\u06BA«çéèêëí…îïñó»ôö÷úùûü !\x22#$٪&\x27()*+،-.\x2f\u0660\u0661\u0662\u0663",
    "\u0664\u0665\u0666\u0667\u0668\u0669:\u061B<=>\u061F❊\u0621\u0622\u0623\u0624\u0625\u0626",
    "\u0627\u0628\u0629\u062A\u062B\u062C\u062D\u062E\u062F\u0630\u0631\u0632\u0633\u0634\u0635",
    "\u0636\u0637\u0638\u0639\u063A[\x5c]^_\u0640\u0641\u0642\u0643\u0644\u0645\u0646\u0647\u0648",
    "\u0649\u064A\u064B\u064C\u064D\u064E\u064F\u0650\u0651\u0652\u067E\u0679\u0686\u06D5\u06A4",
    "\u06AF\u0688\u0691\x7b|\x7d\u0698\u06D2"]⟩,
  ⟨["mac_croatian"],
  ["ÄÅÇÉÑÖÜáàâäãåçéèêëíìîïñóòôöõúùûü†°¢£§•¶ß®Š™´¨≠ŽØ∞±≤≥∆µ∂∑∏š∫ªºΩžø¿¡¬√ƒ≈Ć«Č…\xa0ÀÃÕŒœĐ—“”‘’÷◊",
    "\uF8FF©⁄€‹›Æ»–·‚„‰ÂćÁčÈÍÎÏÌÓÔđÒÚÛÙıˆ˜¯πË˚¸Êæˇ"]⟩,
  ⟨["mac_cyrillic", "maccyrillic"],
  ["АБВГДЕЖЗИЙКЛМНОПРСТУФХЦЧШЩЪЫЬЭЮЯ†°Ґ£§•¶І®©™Ђђ≠Ѓѓ∞±≤≥іµґЈЄєЇїЉљЊњјЅ¬√ƒ≈∆«»…\xa0ЋћЌќѕ–—“”‘’÷„Ў",
    "ўЏџ№Ёёяабвгдежзийклмнопрстуфхцчшщъыьэю€"]⟩,
  ⟨["mac_farsi"],
  ["Ä\xa0ÇÉÑÖÜáàâä\u06BA«çéèêëí…îïñó»ôö÷úùûü !\x22#$٪&\x27()*+،-.\x2f۰۱۲۳۴۵۶۷۸۹:\u061B<=>\u061F❊",
    "\u0621\u0622\u0623\u0624\u0625\u0626\u0627\u0628\u0629\u062A\u062B\u062C\u062D\u062E\u062F",
    "\u0630\u0631\u0632\u0633\u0634\u0635\u0636\u0637\u0638\u0639\u063A[\x5c]^_\u0640\u0641\u0642",
    "\u0643\u0644\u0645\u0646\u0647\u0648\u0649\u064A\u064B\u064C\u064D\u064E\u064F\u0650\u0651",
    "\u0652\u067E\u0679\u0686\u06D5\u06A4\u06AF\u0688\u0691\x7b|\x7d\u0698\u06D2"]⟩,
  ⟨["mac_greek", "macgreek"],
  ["Ä¹²É³ÖÜ΅àâä΄¨çéèêë£™îï•½‰ôö¦€ùûü†ΓΔΘΛΞΠß®©ΣΪ§≠°·Α±≤≥¥ΒΕΖΗΙΚΜΦΫΨΩάΝ¬ΟΡ≈Τ«»…\xa0ΥΧΆΈœ–―“”‘’÷ΉΊ",
    "ΌΎέήίόΏύαβψδεφγηιξκλμνοπώρστθωςχυζϊϋΐΰ\xad"]⟩,
  ⟨["mac_iceland", "maciceland"],
  ["ÄÅÇÉÑÖÜáàâäãåçéèêëíìîïñóòôöõúùûüÝ°¢£§•¶ß®©™´¨≠ÆØ∞±≤≥¥µ∂∑∏π∫ªºΩæø¿¡¬√ƒ≈∆«»…\xa0ÀÃÕŒœ–—“”‘’÷◊ÿ",
    "Ÿ⁄€ÐðÞþý·‚„‰ÂÊÁËÈÍÎÏÌÓÔ\uF8FFÒÚÛÙıˆ˜¯˘˙˚¸˝˛ˇ"]⟩,
  ⟨["mac_latin2", "mac_centeuro", "maccentraleurope", "maclatin2"],
  ["ÄĀāÉĄÖÜáąČäčĆćéŹźĎíďĒēĖóėôöõúĚěü†°Ę£§•¶ß®©™ę¨≠ģĮįĪ≤≥īĶ∂∑łĻļĽľĹĺŅņŃ¬√ńŇ∆«»…\xa0ňŐÕőŌ–—“”‘’÷◊ō",
    "ŔŕŘ‹›řŖŗŠ‚„šŚśÁŤťÍŽžŪÓÔūŮÚůŰűŲųÝýķŻŁżĢˇ"]⟩,
  ⟨["mac_roman", "macintosh", "macroman"],
  ["ÄÅÇÉÑÖÜáàâäãåçéèêëíìîïñóòôöõúùûü†°¢£§•¶ß®©™´¨≠ÆØ∞±≤≥¥µ∂∑∏π∫ªºΩæø¿¡¬√ƒ≈∆«»…\xa0ÀÃÕŒœ–—“”‘’÷◊ÿ",
    "Ÿ⁄€‹›ﬁﬂ‡·‚„‰ÂÊÁËÈÍÎÏÌÓÔ\uF8FFÒÚÛÙıˆ˜¯˘˙˚¸˝˛ˇ"]⟩,
  ⟨["mac_romanian"],
  ["ÄÅÇÉÑÖÜáàâäãåçéèêëíìîïñóòôöõúùûü†°¢£§•¶ß®©™´¨≠ĂȘ∞±≤≥¥µ∂∑∏π∫ªºΩăș¿¡¬√ƒ≈∆«»…\xa0ÀÃÕŒœ–—“”‘’÷◊ÿ",
    "Ÿ⁄€‹›Țț‡·‚„‰ÂÊÁËÈÍÎÏÌÓÔ\uF8FFÒÚÛÙıˆ˜¯˘˙˚¸˝˛ˇ"]⟩,
  ⟨["mac_turkish", "macturkish"],
  ["ÄÅÇÉÑÖÜáàâäãåçéèêëíìîïñóòôöõúùûü†°¢£§•¶ß®©™´¨≠ÆØ∞±≤≥¥µ∂∑∏π∫ªºΩæø¿¡¬√ƒ≈∆«»…\xa0ÀÃÕŒœ–—“”‘’÷◊ÿ",
    "ŸĞğİıŞş‡·‚„‰ÂÊÁËÈÍÎÏÌÓÔ\uF8FFÒÚÛÙ\uF8A0ˆ˜¯˘˙˚¸˝˛ˇ"]⟩,
  ⟨["palmos"],
  ["€\x81‚ƒ„…†‡ˆ‰Š‹Œ♦♣♥♠‘’“”•–—˜™š\x9bœ\x9d\x9eŸ\xa0¡¢£¤¥¦§¨©ª«¬\xad®¯°±²³´µ¶·¸¹º»¼½¾¿ÀÁÂÃÄÅÆÇÈÉ",
    "ÊËÌÍÎÏÐÑÒÓÔÕÖ×ØÙÚÛÜÝÞßàáâãäåæçèéêëìíîïðñòóôõö÷øùúûüýþÿ"]⟩,
  ⟨["ptcp154", "cp154", "csptcp154", "cyrillic_asian", "pt154"],
  ["ҖҒӮғ„…ҶҮҲүҠӢҢҚҺҸҗ‘’“”•–—ҳҷҡӣңқһҹ\xa0ЎўЈӨҘҰ§Ё©Ә«¬ӯ®Ҝ°ұІіҙө¶·ё№ә»јҪҫҝАБВГДЕЖЗИЙКЛМНОПРСТУФХЦЧШ",
    "ЩЪЫЬЭЮЯабвгдежзийклмнопрстуфхцчшщъыьэюя"]⟩,
  ⟨["tis_620", "iso_ir_166", "tis620", "tis_620_0", "tis_620_2529_0", "tis_620_2529_1"],
  ["\x80\x81\x82\x83\x84\x85\x86\x87\x88\x89\x8a\x8b\x8c\x8d\x8e\x8f\x90\x91\x92\x93\x94\x95\x96",
    "\x97\x98\x99\x9a\x9b\x9c\x9d\x9e\x9f\uFFFDกขฃคฅฆงจฉชซฌญฎฏฐฑฒณดตถทธนบปผฝพฟภมยรฤลฦวศษสหฬอฮฯะ",
    "\u0E31าำ\u0E34\u0E35\u0E36\u0E37\u0E38\u0E39\u0E3A\uFFFD\uFFFD\uFFFD\uFFFD฿เแโใไๅๆ\u0E47",
    "\u0E48\u0E49\u0E4A\u0E4B\u0E4C\u0E4D\u0E4E๏๐๑๒๓๔๕๖๗๘๙๚๛\uFFFD\uFFFD\uFFFD\uFFFD"]⟩]

end ServiceBindings
