import MailQuote.Octets

namespace MailQuote

/-- A character set, as the function that reads octets in it. Each ill-formed part of them
becomes a replacement character. -/
structure Charset where
  decode : Octets → List Char

namespace Charset

def replacement : Char := '\ufffd'

def ascii? (octet : UInt8) : Option Char :=
  if octet < 0x80 then some (Char.ofNat octet.toNat) else none

/-- The character set that extends ASCII by a character for each octet from 80 on. -/
def overAscii (upper : Nat → Char) : Charset where
  decode octets := octets.map fun octet => (ascii? octet).getD (upper octet.toNat)

def ascii : Charset := overAscii fun _ => replacement

/-- The character set in which the octets from 80 on are characters for private use. -/
def userDefined : Charset := overAscii fun octet => Char.ofNat (0xF700 + octet)

/-- The character of an octet when those of the last octets are given. Any other octet is the
number of its character. -/
def charAmong (last : List Char) (octet : Nat) : Char :=
  if octet + last.length < 256 then Char.ofNat octet
  else (last[octet + last.length - 256]?).getD replacement

def singleByte (last : String) : Charset := overAscii (charAmong last.toList)

/-- The characters of the last octets and the labels of each character set in which an octet is
a character. -/
def singleByteLabels : List (String × List String) := [
  ("АБВГДЕЖЗИЙКЛМНОПРСТУФХЦЧШЩЪЫЬЭЮЯабвгдежзийклмноп░▒▓│┤╡╢╖╕╣║╗╝╜╛┐└┴┬├─┼╞╟╚╔╩╦╠═╬╧╨╤╥╙╘╒" ++
    "╓╫╪┘┌█▄▌▐▀рстуфхцчшщъыьэюяЁёЄєЇїЎў°∙·√№¤■\xa0",
    ["866", "cp866", "csibm866", "ibm866"]),
  ("Ą˘Ł¤ĽŚ§¨ŠŞŤŹ\xadŽŻ°ą˛ł´ľśˇ¸šşťź˝žżŔÁÂĂÄĹĆÇČÉĘËĚÍÎĎĐŃŇÓÔŐÖ×ŘŮÚŰÜÝŢßŕáâăäĺćçčéęëěíîďđńňó" ++
    "ôőö÷řůúűüýţ˙",
    ["csisolatin2", "iso-8859-2", "iso-ir-101", "iso8859-2", "iso88592", "iso_8859-2",
     "iso_8859-2:1987", "l2", "latin2"]),
  ("Ħ˘£¤\ufffdĤ§¨İŞĞĴ\xad\ufffdŻ°ħ²³´µĥ·¸ışğĵ½\ufffdżÀÁÂ\ufffdÄĊĈÇÈÉÊËÌÍÎÏ\ufffdÑÒÓÔĠÖ×ĜÙÚ" ++
    "ÛÜŬŜßàáâ\ufffdäċĉçèéêëìíîï\ufffdñòóôġö÷ĝùúûüŭŝ˙",
    ["csisolatin3", "iso-8859-3", "iso-ir-109", "iso8859-3", "iso88593", "iso_8859-3",
     "iso_8859-3:1988", "l3", "latin3"]),
  ("ĄĸŖ¤ĨĻ§¨ŠĒĢŦ\xadŽ¯°ą˛ŗ´ĩļˇ¸šēģŧŊžŋĀÁÂÃÄÅÆĮČÉĘËĖÍÎĪĐŅŌĶÔÕÖ×ØŲÚÛÜŨŪßāáâãäåæįčéęëėíîīđņōķ" ++
    "ôõö÷øųúûüũū˙",
    ["csisolatin4", "iso-8859-4", "iso-ir-110", "iso8859-4", "iso88594", "iso_8859-4",
     "iso_8859-4:1988", "l4", "latin4"]),
  ("ЁЂЃЄЅІЇЈЉЊЋЌ\xadЎЏАБВГДЕЖЗИЙКЛМНОПРСТУФХЦЧШЩЪЫЬЭЮЯабвгдежзийклмнопрстуфхцчшщъыьэюя№ёђѓ" ++
    "єѕіїјљњћќ§ўџ",
    ["csisolatincyrillic", "cyrillic", "iso-8859-5", "iso-ir-144", "iso8859-5", "iso88595",
     "iso_8859-5", "iso_8859-5:1988"]),
  ("\ufffd\ufffd\ufffd¤\ufffd\ufffd\ufffd\ufffd\ufffd\ufffd\ufffd،\xad\ufffd\ufffd\ufffd" ++
    "\ufffd\ufffd\ufffd\ufffd\ufffd\ufffd\ufffd\ufffd\ufffd\ufffd\u061b\ufffd\ufffd\ufffd" ++
    "\u061f\ufffd\u0621\u0622\u0623\u0624\u0625\u0626\u0627\u0628\u0629\u062a\u062b\u062c" ++
    "\u062d\u062e\u062f\u0630\u0631\u0632\u0633\u0634\u0635\u0636\u0637\u0638\u0639\u063a" ++
    "\ufffd\ufffd\ufffd\ufffd\ufffd\u0640\u0641\u0642\u0643\u0644\u0645\u0646\u0647\u0648" ++
    "\u0649\u064a\u064b\u064c\u064d\u064e\u064f\u0650\u0651\u0652\ufffd\ufffd\ufffd\ufffd" ++
    "\ufffd\ufffd\ufffd\ufffd\ufffd\ufffd\ufffd\ufffd\ufffd",
    ["arabic", "asmo-708", "csiso88596e", "csiso88596i", "csisolatinarabic", "ecma-114",
     "iso-8859-6", "iso-8859-6-e", "iso-8859-6-i", "iso-ir-127", "iso8859-6", "iso88596",
     "iso_8859-6", "iso_8859-6:1987"]),
  ("‘’£€₯¦§¨©ͺ«¬\xad\ufffd―°±²³΄΅Ά·ΈΉΊ»Ό½ΎΏΐΑΒΓΔΕΖΗΘΙΚΛΜΝΞΟΠΡ\ufffdΣΤΥΦΧΨΩΪΫάέήίΰαβγδεζηθι" ++
    "κλμνξοπρςστυφχψωϊϋόύώ\ufffd",
    ["csisolatingreek", "ecma-118", "elot_928", "greek", "greek8", "iso-8859-7", "iso-ir-126",
     "iso8859-7", "iso88597", "iso_8859-7", "iso_8859-7:1987", "sun_eu_greek"]),
  ("\ufffd¢£¤¥¦§¨©×«¬\xad®¯°±²³´µ¶·¸¹÷»¼½¾\ufffd\ufffd\ufffd\ufffd\ufffd\ufffd\ufffd\ufffd" ++
    "\ufffd\ufffd\ufffd\ufffd\ufffd\ufffd\ufffd\ufffd\ufffd\ufffd\ufffd\ufffd\ufffd\ufffd" ++
    "\ufffd\ufffd\ufffd\ufffd\ufffd\ufffd\ufffd\ufffd\ufffd\ufffd‗\u05d0\u05d1\u05d2\u05d3" ++
    "\u05d4\u05d5\u05d6\u05d7\u05d8\u05d9\u05da\u05db\u05dc\u05dd\u05de\u05df\u05e0\u05e1" ++
    "\u05e2\u05e3\u05e4\u05e5\u05e6\u05e7\u05e8\u05e9\u05ea\ufffd\ufffd\u200e\u200f\ufffd",
    ["csiso88598e", "csiso88598i", "csisolatinhebrew", "hebrew", "iso-8859-8", "iso-8859-8-e",
     "iso-8859-8-i", "iso-ir-138", "iso8859-8", "iso88598", "iso_8859-8", "iso_8859-8:1988",
     "logical", "visual"]),
  ("ĄĒĢĪĨĶ§ĻĐŠŦŽ\xadŪŊ°ąēģīĩķ·ļđšŧž―ūŋĀÁÂÃÄÅÆĮČÉĘËĖÍÎÏÐŅŌÓÔÕÖŨØŲÚÛÜÝÞßāáâãäåæįčéęëėíîïðņōó" ++
    "ôõöũøųúûüýþĸ",
    ["csisolatin6", "iso-8859-10", "iso-ir-157", "iso8859-10", "iso885910", "l6", "latin6"]),
  ("”¢£¤„¦§Ø©Ŗ«¬\xad®Æ°±²³“µ¶·ø¹ŗ»¼½¾æĄĮĀĆÄÅĘĒČÉŹĖĢĶĪĻŠŃŅÓŌÕÖ×ŲŁŚŪÜŻŽßąįāćäåęēčéźėģķīļšńņó" ++
    "ōõö÷ųłśūüżž’",
    ["iso-8859-13", "iso8859-13", "iso885913"]),
  ("Ḃḃ£ĊċḊ§Ẁ©ẂḋỲ\xad®ŸḞḟĠġṀṁ¶ṖẁṗẃṠỳẄẅṡÀÁÂÃÄÅÆÇÈÉÊËÌÍÎÏŴÑÒÓÔÕÖṪØÙÚÛÜÝŶßàáâãäåæçèéêëìíîïŵñòó" ++
    "ôõöṫøùúûüýŷÿ",
    ["iso-8859-14", "iso8859-14", "iso885914"]),
  ("€¥Š§š©ª«¬\xad®¯°±²³Žµ¶·ž¹º»ŒœŸ¿ÀÁÂÃÄÅÆÇÈÉÊËÌÍÎÏÐÑÒÓÔÕÖ×ØÙÚÛÜÝÞßàáâãäåæçèéêëìíîïðñòóôõö" ++
    "÷øùúûüýþÿ",
    ["csisolatin9", "iso-8859-15", "iso8859-15", "iso885915", "iso_8859-15", "l9"]),
  ("ĄąŁ€„Š§š©Ș«Ź\xadźŻ°±ČłŽ”¶·žčș»ŒœŸżÀÁÂĂÄĆÆÇÈÉÊËÌÍÎÏĐŃÒÓÔŐÖŚŰÙÚÛÜĘȚßàáâăäćæçèéêëìíîïđńòó" ++
    "ôőöśűùúûüęțÿ",
    ["iso-8859-16"]),
  ("─│┌┐└┘├┤┬┴┼▀▄█▌▐░▒▓⌠■∙√≈≤≥\xa0⌡°²·÷═║╒ё╓╔╕╖╗╘╙╚╛╜╝╞╟╠╡Ё╢╣╤╥╦╧╨╩╪╫╬©юабцдефгхийклмнопяр" ++
    "стужвьызшэщчъЮАБЦДЕФГХИЙКЛМНОПЯРСТУЖВЬЫЗШЭЩЧЪ",
    ["cskoi8r", "koi", "koi8", "koi8-r", "koi8_r"]),
  ("─│┌┐└┘├┤┬┴┼▀▄█▌▐░▒▓⌠■∙√≈≤≥\xa0⌡°²·÷═║╒ёє╔ії╗╘╙╚╛ґў╞╟╠╡ЁЄ╣ІЇ╦╧╨╩╪ҐЎ©юабцдефгхийклмнопяр" ++
    "стужвьызшэщчъЮАБЦДЕФГХИЙКЛМНОПЯРСТУЖВЬЫЗШЭЩЧЪ",
    ["koi8-ru", "koi8-u"]),
  ("ÄÅÇÉÑÖÜáàâäãåçéèêëíìîïñóòôöõúùûü†°¢£§•¶ß®©™´¨≠ÆØ∞±≤≥¥µ∂∑∏π∫ªºΩæø¿¡¬√ƒ≈∆«»…\xa0ÀÃÕŒœ–—“" ++
    "”‘’÷◊ÿŸ⁄€‹›ﬁﬂ‡·‚„‰ÂÊÁËÈÍÎÏÌÓÔ\uf8ffÒÚÛÙıˆ˜¯˘˙˚¸˝˛ˇ",
    ["csmacintosh", "mac", "macintosh", "x-mac-roman"]),
  ("€\x81\x82\x83\x84…\x86\x87\x88\x89\x8a\x8b\x8c\x8d\x8e\x8f\x90‘’“”•–—\x98\x99\x9a\x9b" ++
    "\x9c\x9d\x9e\x9f\xa0กขฃคฅฆงจฉชซฌญฎฏฐฑฒณดตถทธนบปผฝพฟภมยรฤลฦวศษสหฬอฮฯะ\u0e31าำ\u0e34" ++
    "\u0e35\u0e36\u0e37\u0e38\u0e39\u0e3a\ufffd\ufffd\ufffd\ufffd฿เแโใไๅๆ\u0e47\u0e48\u0e49" ++
    "\u0e4a\u0e4b\u0e4c\u0e4d\u0e4e๏๐๑๒๓๔๕๖๗๘๙๚๛\ufffd\ufffd\ufffd\ufffd",
    ["dos-874", "iso-8859-11", "iso8859-11", "iso885911", "tis-620", "windows-874"]),
  ("€\x81‚\x83„…†‡\x88‰Š‹ŚŤŽŹ\x90‘’“”•–—\x98™š›śťžź\xa0ˇ˘Ł¤Ą¦§¨©Ş«¬\xad®Ż°±˛ł´µ¶·¸ąş»Ľ˝ľżŔ" ++
    "ÁÂĂÄĹĆÇČÉĘËĚÍÎĎĐŃŇÓÔŐÖ×ŘŮÚŰÜÝŢßŕáâăäĺćçčéęëěíîďđńňóôőö÷řůúűüýţ˙",
    ["cp1250", "windows-1250", "x-cp1250"]),
  ("ЂЃ‚ѓ„…†‡€‰Љ‹ЊЌЋЏђ‘’“”•–—\x98™љ›њќћџ\xa0ЎўЈ¤Ґ¦§Ё©Є«¬\xad®Ї°±Ііґµ¶·ё№є»јЅѕїАБВГДЕЖЗИЙКЛМ" ++
    "НОПРСТУФХЦЧШЩЪЫЬЭЮЯабвгдежзийклмнопрстуфхцчшщъыьэюя",
    ["cp1251", "windows-1251", "x-cp1251"]),
  ("€\x81‚ƒ„…†‡ˆ‰Š‹Œ\x8dŽ\x8f\x90‘’“”•–—˜™š›œ\x9džŸ\xa0¡¢£¤¥¦§¨©ª«¬\xad®¯°±²³´µ¶·¸¹º»¼½¾¿À" ++
    "ÁÂÃÄÅÆÇÈÉÊËÌÍÎÏÐÑÒÓÔÕÖ×ØÙÚÛÜÝÞßàáâãäåæçèéêëìíîïðñòóôõö÷øùúûüýþÿ",
    ["ansi_x3.4-1968", "ascii", "cp1252", "cp819", "csisolatin1", "ibm819", "iso-8859-1",
     "iso-ir-100", "iso8859-1", "iso88591", "iso_8859-1", "iso_8859-1:1987", "l1", "latin1",
     "us-ascii", "windows-1252", "x-cp1252"]),
  ("€\x81‚ƒ„…†‡\x88‰\x8a‹\x8c\x8d\x8e\x8f\x90‘’“”•–—\x98™\x9a›\x9c\x9d\x9e\x9f\xa0΅Ά£¤¥¦§¨" ++
    "©\ufffd«¬\xad®―°±²³΄µ¶·ΈΉΊ»Ό½ΎΏΐΑΒΓΔΕΖΗΘΙΚΛΜΝΞΟΠΡ\ufffdΣΤΥΦΧΨΩΪΫάέήίΰαβγδεζηθικλμνξοπρ" ++
    "ςστυφχψωϊϋόύώ\ufffd",
    ["cp1253", "windows-1253", "x-cp1253"]),
  ("€\x81‚ƒ„…†‡ˆ‰Š‹Œ\x8d\x8e\x8f\x90‘’“”•–—˜™š›œ\x9d\x9eŸ\xa0¡¢£¤¥¦§¨©ª«¬\xad®¯°±²³´µ¶·¸¹º" ++
    "»¼½¾¿ÀÁÂÃÄÅÆÇÈÉÊËÌÍÎÏĞÑÒÓÔÕÖ×ØÙÚÛÜİŞßàáâãäåæçèéêëìíîïğñòóôõö÷øùúûüışÿ",
    ["cp1254", "csisolatin5", "iso-8859-9", "iso-ir-148", "iso8859-9", "iso88599",
     "iso_8859-9", "iso_8859-9:1989", "l5", "latin5", "windows-1254", "x-cp1254"]),
  ("€\x81‚ƒ„…†‡ˆ‰\x8a‹\x8c\x8d\x8e\x8f\x90‘’“”•–—˜™\x9a›\x9c\x9d\x9e\x9f\xa0¡¢£₪¥¦§¨©×«¬" ++
    "\xad®¯°±²³´µ¶·¸¹÷»¼½¾¿\u05b0\u05b1\u05b2\u05b3\u05b4\u05b5\u05b6\u05b7\u05b8\u05b9" ++
    "\u05ba\u05bb\u05bc\u05bd\u05be\u05bf\u05c0\u05c1\u05c2\u05c3\u05f0\u05f1\u05f2\u05f3" ++
    "\u05f4\ufffd\ufffd\ufffd\ufffd\ufffd\ufffd\ufffd\u05d0\u05d1\u05d2\u05d3\u05d4\u05d5" ++
    "\u05d6\u05d7\u05d8\u05d9\u05da\u05db\u05dc\u05dd\u05de\u05df\u05e0\u05e1\u05e2\u05e3" ++
    "\u05e4\u05e5\u05e6\u05e7\u05e8\u05e9\u05ea\ufffd\ufffd\u200e\u200f\ufffd",
    ["cp1255", "windows-1255", "x-cp1255"]),
  ("€\u067e‚ƒ„…†‡ˆ‰\u0679‹Œ\u0686\u0698\u0688\u06af‘’“”•–—\u06a9™\u0691›œ\u200c\u200d" ++
    "\u06ba\xa0،¢£¤¥¦§¨©\u06be«¬\xad®¯°±²³´µ¶·¸¹\u061b»¼½¾\u061f\u06c1\u0621\u0622\u0623" ++
    "\u0624\u0625\u0626\u0627\u0628\u0629\u062a\u062b\u062c\u062d\u062e\u062f\u0630\u0631" ++
    "\u0632\u0633\u0634\u0635\u0636×\u0637\u0638\u0639\u063a\u0640\u0641\u0642\u0643à\u0644" ++
    "â\u0645\u0646\u0647\u0648çèéêë\u0649\u064aîï\u064b\u064c\u064d\u064eô\u064f\u0650÷" ++
    "\u0651ù\u0652ûü\u200e\u200f\u06d2",
    ["cp1256", "windows-1256", "x-cp1256"]),
  ("€\x81‚\x83„…†‡\x88‰\x8a‹\x8c¨ˇ¸\x90‘’“”•–—\x98™\x9a›\x9c¯˛\x9f\xa0\ufffd¢£¤\ufffd¦§Ø©Ŗ" ++
    "«¬\xad®Æ°±²³´µ¶·ø¹ŗ»¼½¾æĄĮĀĆÄÅĘĒČÉŹĖĢĶĪĻŠŃŅÓŌÕÖ×ŲŁŚŪÜŻŽßąįāćäåęēčéźėģķīļšńņóōõö÷ųłśūüż" ++
    "ž˙",
    ["cp1257", "windows-1257", "x-cp1257"]),
  ("€\x81‚ƒ„…†‡ˆ‰\x8a‹Œ\x8d\x8e\x8f\x90‘’“”•–—˜™\x9a›œ\x9d\x9eŸ\xa0¡¢£¤¥¦§¨©ª«¬\xad®¯°±²³´" ++
    "µ¶·¸¹º»¼½¾¿ÀÁÂĂÄÅÆÇÈÉÊË\u0300ÍÎÏĐÑ\u0309ÓÔƠÖ×ØÙÚÛÜƯ\u0303ßàáâăäåæçèéêë\u0301íîïđñ" ++
    "\u0323óôơö÷øùúûüư₫ÿ",
    ["cp1258", "windows-1258", "x-cp1258"]),
  ("АБВГДЕЖЗИЙКЛМНОПРСТУФХЦЧШЩЪЫЬЭЮЯ†°Ґ£§•¶І®©™Ђђ≠Ѓѓ∞±≤≥іµґЈЄєЇїЉљЊњјЅ¬√ƒ≈∆«»…\xa0ЋћЌќѕ–—“" ++
    "”‘’÷„ЎўЏџ№Ёёяабвгдежзийклмнопрстуфхцчшщъыьэю€",
    ["x-mac-cyrillic", "x-mac-ukrainian"])]

end Charset

namespace Utf8

abbrev Bounds := Nat × Nat

/-- The bounds of an octet that continues a character, its second one mostly
apart. -/
def continuing : Bounds := (0x80, 0xBF)

/-- A character that is not complete: the part of its number that is known, and
the bounds of the octets that are missing. -/
structure Pending where
  known : Nat
  missing : List Bounds

/-- What an octet at the beginning of a character says: the bits it gives and
the bounds of the octets that must follow. -/
def lead? (octet : Nat) : Option Pending :=
  if octet < 0x80 then some ⟨octet, []⟩
  else if 0xC2 ≤ octet ∧ octet ≤ 0xDF then some ⟨octet - 0xC0, [continuing]⟩
  else if octet = 0xE0 then some ⟨0, [(0xA0, 0xBF), continuing]⟩
  else if octet = 0xED then some ⟨0xD, [(0x80, 0x9F), continuing]⟩
  else if 0xE1 ≤ octet ∧ octet ≤ 0xEF then
    some ⟨octet - 0xE0, [continuing, continuing]⟩
  else if octet = 0xF0 then some ⟨0, [(0x90, 0xBF), continuing, continuing]⟩
  else if 0xF1 ≤ octet ∧ octet ≤ 0xF3 then
    some ⟨octet - 0xF0, [continuing, continuing, continuing]⟩
  else if octet = 0xF4 then some ⟨4, [(0x80, 0x8F), continuing, continuing]⟩
  else none

/-- What is known after the octet that begins a character: the character, an
ill-formed sequence, or a character that is not complete. -/
def begin (octet : Nat) : List (Option Char) × Option Pending :=
  match lead? octet with
  | none => ([none], none)
  | some ⟨known, []⟩ => ([some (Char.ofNat known)], none)
  | some pending => ([], some pending)

def step (pending : Option Pending) (octet : Nat) :
    List (Option Char) × Option Pending :=
  match pending with
  | none => begin octet
  | some ⟨_, []⟩ => begin octet
  | some ⟨known, (low, high) :: missing⟩ =>
      if low ≤ octet ∧ octet ≤ high then
        let number := known * 64 + (octet - 0x80)
        if missing.isEmpty then ([some (Char.ofNat number)], none)
        else ([], some ⟨number, missing⟩)
      else
        let (read, pending) := begin octet
        (none :: read, pending)

/-- The characters of octets, and nothing in the place of each ill-formed
sequence, when a character that is not complete precedes them. -/
def readAfter : (pending : Option Pending) → Octets → List (Option Char)
  | none, [] => []
  | some _, [] => [none]
  | pending, octet :: rest =>
      let (read, pending) := step pending octet.toNat
      read ++ readAfter pending rest

def read (octets : Octets) : List (Option Char) :=
  readAfter none octets

def decode? (octets : Octets) : Option (List Char) :=
  (read octets).mapM id

end Utf8

namespace Utf16

inductive Order where
  | littleEndian
  | bigEndian
deriving DecidableEq, Repr

def Order.unit : Order → UInt8 → UInt8 → Nat
  | .littleEndian, first, second => second.toNat * 256 + first.toNat
  | .bigEndian, first, second => first.toNat * 256 + second.toNat

def isHigh (unit : Nat) : Bool :=
  0xD800 ≤ unit && unit < 0xDC00

def isLow (unit : Nat) : Bool :=
  0xDC00 ≤ unit && unit < 0xE000

def pair (high low : Nat) : Char :=
  Char.ofNat (0x10000 + (high - 0xD800) * 0x400 + (low - 0xDC00))

/-- What is known after a unit that no surrogate precedes: a character, an
ill-formed unit, or a surrogate that waits for its partner. -/
def begin (unit : Nat) : List (Option Char) × Option Nat :=
  if isHigh unit then ([], some unit)
  else if isLow unit then ([none], none)
  else ([some (Char.ofNat unit)], none)

def step (waiting : Option Nat) (unit : Nat) : List (Option Char) × Option Nat :=
  match waiting with
  | none => begin unit
  | some high =>
      if isLow unit then ([some (pair high unit)], none)
      else
        let (read, waiting) := begin unit
        (none :: read, waiting)

/-- The characters of octets, and nothing in the place of each ill-formed part,
when a surrogate that waits for its partner precedes them. -/
def readAfter (order : Order) : (waiting : Option Nat) → Octets → List (Option Char)
  | none, [] => []
  | some _, [] => [none]
  | _, [_] => [none]
  | waiting, first :: second :: rest =>
      let (read, waiting) := step waiting (order.unit first second)
      read ++ readAfter order waiting rest

def read (order : Order) (octets : Octets) : List (Option Char) :=
  readAfter order none octets

end Utf16

/-- The character sets that a reader of messages knows, by the labels that name them. -/
abbrev Charsets := (label : List Char) → Option Charset

namespace Charset

def utf8 : Charset where
  decode octets := (Utf8.read octets).map fun c => c.getD replacement

def utf16 (order : Utf16.Order) : Charset where
  decode octets := (Utf16.read order octets).map fun c => c.getD replacement

/-- The labels of the character sets of the web. ASCII and the first Latin character set are read
in the one of Windows, which extends both. Left out are the character sets of East Asia in which
a character takes several octets (Big5, EUC-JP, EUC-KR, GBK, GB18030, ISO-2022-JP, Shift JIS),
UTF-7, and the labels under which a text is replaced as a whole, such as ISO-2022-KR. A reader
that knows them is given as other `Charsets`. -/
def labels : List (Charset × List String) := [
  (utf8, ["unicode-1-1-utf-8", "unicode11utf8", "unicode20utf8", "utf-8", "utf8",
    "x-unicode20utf8"]),
  (utf16 .littleEndian, ["csunicode", "iso-10646-ucs-2", "ucs-2", "unicode",
    "unicodefeff", "utf-16", "utf-16le"]),
  (utf16 .bigEndian, ["unicodefffe", "utf-16be"]),
  (userDefined, ["x-user-defined"])] ++
  singleByteLabels.map fun (last, names) => (singleByte last, names)

def isLabelBlank (c : Char) : Bool :=
  c == ' ' || c == '\t' || c == '\n' || c == '\x0c' || c == '\r'

/-- A label without white space at either end, and in lower case. -/
def normalLabel (label : List Char) : List Char :=
  let opened := label.dropWhile isLabelBlank
  ((opened.reverse.dropWhile isLabelBlank).reverse).map Text.lowerAscii

def ofLabel? : Charsets := fun label =>
  let label := String.ofList (normalLabel label)
  (labels.find? fun entry => entry.2.contains label).map Prod.fst

/-- The marks of byte order at the beginning of a text, with the character set
that each gives away. -/
def marks : List (Octets × Charset) :=
  [([0xEF, 0xBB, 0xBF], utf8), ([0xFF, 0xFE], utf16 .littleEndian),
    ([0xFE, 0xFF], utf16 .bigEndian)]

/-- The character set that the mark at the beginning of octets gives away, and
the octets after the mark. -/
def marked? (octets : Octets) : Option (Charset × Octets) :=
  marks.findSome? fun (mark, charset) =>
    (Text.after? mark octets).map fun rest => (charset, rest)

/-- The text of octets in a character set, unless a mark gives away another
one. -/
def decodeMarked (charset : Charset) (octets : Octets) : List Char :=
  match marked? octets with
  | some (marked, rest) => marked.decode rest
  | none => charset.decode octets

end Charset

/-- The text of octets under a label. Under an unknown label only ASCII is
readable. -/
def Charsets.textUnder (charsets : Charsets) (label : String) (octets : Octets) :
    List Char :=
  match charsets label.toList with
  | some charset => charset.decodeMarked octets
  | none => Charset.ascii.decode octets

end MailQuote
