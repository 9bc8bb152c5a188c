import PushRelay.Octets.Table

/-!
# Code pages of Windows

The pages with typographic signs where ISO 8859 has controls.
-/

namespace PushRelay.Octets.Page

/-- Thai letters. -/
def windows874 : Table := [
  (0x80, "€\ufffd\ufffd\ufffd\ufffd…\ufffd\ufffd\ufffd\ufffd\ufffd\ufffd\ufffd\ufffd\ufffd\ufffd"),
  (0x90, "\ufffd‘’“”•–—\ufffd\ufffd\ufffd\ufffd\ufffd\ufffd\ufffd\ufffd"),
  (0xA0, "\xa0กขฃคฅฆงจฉชซฌญฎฏฐฑฒณดตถทธนบปผฝพฟ"),
  (0xC0, "ภมยรฤลฦวศษสหฬอฮฯะ\u0e31าำ\u0e34\u0e35\u0e36\u0e37\u0e38\u0e39\u0e3a\ufffd\ufffd\ufffd"),
  (0xDE, "\ufffd฿"),
  (0xE0, "เแโใไๅๆ\u0e47\u0e48\u0e49\u0e4a\u0e4b\u0e4c\u0e4d\u0e4e๏๐๑๒๓๔๕๖๗๘๙๚๛\ufffd\ufffd\ufffd"),
  (0xFF, "\ufffd")]

/-- Central European letters. -/
def windows1250 : Table := [
  (0x80, "€\ufffd‚\ufffd„…†‡\ufffd‰Š‹ŚŤŽŹ\ufffd‘’“”•–—\ufffd™š›śťžź"),
  (0xA0, "\xa0ˇ˘Ł¤Ą¦§¨©Ş«¬\xad®Ż°±˛ł´µ¶·¸ąş»Ľ˝ľż"), (0xC0, "ŔÁÂĂÄĹĆÇČÉĘËĚÍÎĎĐŃŇÓÔŐÖ×ŘŮÚŰÜÝŢß"),
  (0xE0, "ŕáâăäĺćçčéęëěíîďđńňóôőö÷řůúűüýţ˙")]

/-- Cyrillic letters. -/
def windows1251 : Table := [
  (0x80, "ЂЃ‚ѓ„…†‡€‰Љ‹ЊЌЋЏђ‘’“”•–—\ufffd™љ›њќћџ"), (0xA0, "\xa0ЎўЈ¤Ґ¦§Ё©Є«¬\xad®Ї°±Ііґµ¶·ё№є»јЅѕї"),
  (0xC0, "АБВГДЕЖЗИЙКЛМНОПРСТУФХЦЧШЩЪЫЬЭЮЯ"), (0xE0, "абвгдежзийклмнопрстуфхцчшщъыьэюя")]

/-- Western European letters. -/
def windows1252 : Table := [
  (0x80, "€\ufffd‚ƒ„…†‡ˆ‰Š‹Œ\ufffdŽ\ufffd\ufffd‘’“”•–—˜™š›œ\ufffdžŸ")]

/-- Greek letters. -/
def windows1253 : Table := [
  (0x80, "€\ufffd‚ƒ„…†‡\ufffd‰\ufffd‹\ufffd\ufffd\ufffd\ufffd\ufffd‘’“”•–—\ufffd™\ufffd›\ufffd"),
  (0x9D, "\ufffd\ufffd\ufffd"), (0xA0, "\xa0΅Ά"), (0xAA, "\ufffd«¬\xad®―°±²³΄µ¶·ΈΉΊ»Ό½ΎΏ"),
  (0xC0, "ΐΑΒΓΔΕΖΗΘΙΚΛΜΝΞΟΠΡ\ufffdΣΤΥΦΧΨΩΪΫάέήί"), (0xE0, "ΰαβγδεζηθικλμνξοπρςστυφχψωϊϋόύώ\ufffd")]

/-- Turkish letters. -/
def windows1254 : Table := [
  (0x80, "€\ufffd‚ƒ„…†‡ˆ‰Š‹Œ\ufffd\ufffd\ufffd\ufffd‘’“”•–—˜™š›œ\ufffd\ufffdŸ"), (0xD0, "Ğ"),
  (0xDD, "İŞ"), (0xF0, "ğ"), (0xFD, "ış")]

/-- Hebrew letters. -/
def windows1255 : Table := [
  (0x80, "€\ufffd‚ƒ„…†‡ˆ‰\ufffd‹\ufffd\ufffd\ufffd\ufffd\ufffd‘’“”•–—˜™\ufffd›\ufffd\ufffd\ufffd"),
  (0x9F, "\ufffd"), (0xA0, "\xa0¡¢£₪¥¦§¨©×"), (0xBA, "÷»¼½¾¿"),
  (0xC0, "\u05b0\u05b1\u05b2\u05b3\u05b4\u05b5\u05b6\u05b7\u05b8\u05b9\ufffd\u05bb\u05bc\u05bd"),
  (0xCE, "\u05be\u05bf\u05c0\u05c1\u05c2\u05c3\u05f0\u05f1\u05f2\u05f3\u05f4\ufffd\ufffd\ufffd"),
  (0xDC, "\ufffd\ufffd\ufffd\ufffd"),
  (0xE0, "\u05d0\u05d1\u05d2\u05d3\u05d4\u05d5\u05d6\u05d7\u05d8\u05d9\u05da\u05db\u05dc\u05dd"),
  (0xEE, "\u05de\u05df\u05e0\u05e1\u05e2\u05e3\u05e4\u05e5\u05e6\u05e7\u05e8\u05e9\u05ea\ufffd"),
  (0xFC, "\ufffd\u200e\u200f\ufffd")]

/-- Arabic letters. -/
def windows1256 : Table := [
  (0x80, "€\u067e‚ƒ„…†‡ˆ‰\u0679‹Œ\u0686\u0698\u0688\u06af‘’“”•–—\u06a9™\u0691›œ\u200c\u200d\u06ba"),
  (0xA0, "\xa0،"), (0xAA, "\u06be"), (0xBA, "\u061b»¼½¾\u061f"),
  (0xC0, "\u06c1\u0621\u0622\u0623\u0624\u0625\u0626\u0627\u0628\u0629\u062a\u062b\u062c\u062d"),
  (0xCE, "\u062e\u062f\u0630\u0631\u0632\u0633\u0634\u0635\u0636×\u0637\u0638\u0639\u063a\u0640"),
  (0xDD, "\u0641\u0642\u0643"),
  (0xE0, "à\u0644â\u0645\u0646\u0647\u0648çèéêë\u0649\u064aîï\u064b\u064c\u064d\u064eô\u064f"),
  (0xF6, "\u0650÷\u0651ù\u0652ûü\u200e\u200f\u06d2")]

/-- Baltic letters. -/
def windows1257 : Table := [
  (0x80, "€\ufffd‚\ufffd„…†‡\ufffd‰\ufffd‹\ufffd¨ˇ¸\ufffd‘’“”•–—\ufffd™\ufffd›\ufffd¯˛\ufffd"),
  (0xA0, "\xa0\ufffd¢£¤\ufffd¦§Ø©Ŗ«¬\xad®Æ"), (0xB8, "ø¹ŗ»¼½¾æ"),
  (0xC0, "ĄĮĀĆÄÅĘĒČÉŹĖĢĶĪĻŠŃŅÓŌÕÖ×ŲŁŚŪÜŻŽß"), (0xE0, "ąįāćäåęēčéźėģķīļšńņóōõö÷ųłśūüżž˙")]

/-- Vietnamese letters. -/
def windows1258 : Table := [
  (0x80, "€\ufffd‚ƒ„…†‡ˆ‰\ufffd‹Œ\ufffd\ufffd\ufffd\ufffd‘’“”•–—˜™\ufffd›œ\ufffd\ufffdŸ"),
  (0xC3, "Ă"), (0xCC, "\u0300ÍÎÏĐÑ\u0309ÓÔƠ"), (0xDD, "Ư\u0303ß"), (0xE0, "àáâă"),
  (0xEC, "\u0301íîïđñ\u0323óôơ"), (0xFD, "ư₫")]

/-- Western European letters, as handhelds had them. -/
def palmOs : Table := [
  (0x80, "€\x81‚ƒ„…†‡ˆ‰Š‹Œ♦♣♥♠‘’“”•–—˜™š\x9bœ\x9d\x9eŸ")]

end PushRelay.Octets.Page
