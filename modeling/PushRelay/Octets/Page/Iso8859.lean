import PushRelay.Octets.Table

/-!
# Code pages of ISO 8859

The parts of ISO 8859, which leave the lower half of the octets and the
controls above it alone.
-/

namespace PushRelay.Octets.Page

/-- Central European letters. -/
def latin2 : Table := [
  (0xA1, "Ą˘Ł¤ĽŚ§¨ŠŞŤŹ\xadŽŻ°ą˛ł´ľśˇ¸šşťź˝žż"), (0xC0, "ŔÁÂĂÄĹĆÇČÉĘËĚÍÎĎĐŃŇÓÔŐÖ×ŘŮÚŰÜÝŢß"),
  (0xE0, "ŕáâăäĺćçčéęëěíîďđńňóôőö÷řůúűüýţ˙")]

/-- South European letters. -/
def latin3 : Table := [
  (0xA1, "Ħ˘£¤\ufffdĤ§¨İŞĞĴ\xad\ufffdŻ°ħ²³´µĥ·¸ışğĵ½\ufffdż"), (0xC0, "ÀÁÂ\ufffdÄĊĈ"),
  (0xD0, "\ufffdÑÒÓÔĠÖ×ĜÙÚÛÜŬŜß"), (0xE0, "àáâ\ufffdäċĉ"), (0xF0, "\ufffdñòóôġö÷ĝùúûüŭŝ˙")]

/-- North European letters. -/
def latin4 : Table := [
  (0xA1, "ĄĸŖ¤ĨĻ§¨ŠĒĢŦ\xadŽ¯°ą˛ŗ´ĩļˇ¸šēģŧŊžŋ"), (0xC0, "Ā"), (0xC7, "ĮČÉĘËĖÍÎĪĐŅŌĶÔÕÖ×ØŲÚÛÜŨŪß"),
  (0xE0, "ā"), (0xE7, "įčéęëėíîīđņōķôõö÷øųúûüũū˙")]

/-- Cyrillic letters. -/
def latinCyrillic : Table := [
  (0xA1, "ЁЂЃЄЅІЇЈЉЊЋЌ\xadЎЏАБВГДЕЖЗИЙКЛМНОП"), (0xC0, "РСТУФХЦЧШЩЪЫЬЭЮЯабвгдежзийклмноп"),
  (0xE0, "рстуфхцчшщъыьэюя№ёђѓєѕіїјљњћќ§ўџ")]

/-- Arabic letters. -/
def latinArabic : Table := [
  (0xA1, "\ufffd\ufffd\ufffd¤\ufffd\ufffd\ufffd\ufffd\ufffd\ufffd\ufffd،\xad\ufffd\ufffd\ufffd"),
  (0xB1, "\ufffd\ufffd\ufffd\ufffd\ufffd\ufffd\ufffd\ufffd\ufffd\ufffd\u061b\ufffd\ufffd\ufffd"),
  (0xBF, "\u061f"),
  (0xC0, "\ufffd\u0621\u0622\u0623\u0624\u0625\u0626\u0627\u0628\u0629\u062a\u062b\u062c\u062d"),
  (0xCE, "\u062e\u062f\u0630\u0631\u0632\u0633\u0634\u0635\u0636\u0637\u0638\u0639\u063a\ufffd"),
  (0xDC, "\ufffd\ufffd\ufffd\ufffd"),
  (0xE0, "\u0640\u0641\u0642\u0643\u0644\u0645\u0646\u0647\u0648\u0649\u064a\u064b\u064c\u064d"),
  (0xEE, "\u064e\u064f\u0650\u0651\u0652\ufffd\ufffd\ufffd\ufffd\ufffd\ufffd\ufffd\ufffd\ufffd"),
  (0xFC, "\ufffd\ufffd\ufffd\ufffd")]

/-- Greek letters. -/
def latinGreek : Table := [
  (0xA1, "‘’£€₯¦§¨©ͺ«¬\xad\ufffd―°±²³΄΅Ά·ΈΉΊ»Ό½ΎΏ"),
  (0xC0, "ΐΑΒΓΔΕΖΗΘΙΚΛΜΝΞΟΠΡ\ufffdΣΤΥΦΧΨΩΪΫάέήί"), (0xE0, "ΰαβγδεζηθικλμνξοπρςστυφχψωϊϋόύώ\ufffd")]

/-- Hebrew letters. -/
def latinHebrew : Table := [
  (0xA1, "\ufffd"), (0xAA, "×"), (0xBA, "÷»¼½¾\ufffd"),
  (0xC0, "\ufffd\ufffd\ufffd\ufffd\ufffd\ufffd\ufffd\ufffd\ufffd\ufffd\ufffd\ufffd\ufffd\ufffd"),
  (0xCE, "\ufffd\ufffd\ufffd\ufffd\ufffd\ufffd\ufffd\ufffd\ufffd\ufffd\ufffd\ufffd\ufffd\ufffd"),
  (0xDC, "\ufffd\ufffd\ufffd‗"),
  (0xE0, "\u05d0\u05d1\u05d2\u05d3\u05d4\u05d5\u05d6\u05d7\u05d8\u05d9\u05da\u05db\u05dc\u05dd"),
  (0xEE, "\u05de\u05df\u05e0\u05e1\u05e2\u05e3\u05e4\u05e5\u05e6\u05e7\u05e8\u05e9\u05ea\ufffd"),
  (0xFC, "\ufffd\u200e\u200f\ufffd")]

/-- Turkish letters. -/
def latin5 : Table := [
  (0xD0, "Ğ"), (0xDD, "İŞ"), (0xF0, "ğ"), (0xFD, "ış")]

/-- Nordic letters. -/
def latin6 : Table := [
  (0xA1, "ĄĒĢĪĨĶ§ĻĐŠŦŽ\xadŪŊ°ąēģīĩķ·ļđšŧž―ūŋ"), (0xC0, "Ā"), (0xC7, "ĮČÉĘËĖÍÎÏÐŅŌÓÔÕÖŨØŲ"),
  (0xE0, "ā"), (0xE7, "įčéęëėíîïðņōóôõöũøųúûüýþĸ")]

/-- Thai letters. -/
def latinThai : Table := [
  (0xA1, "กขฃคฅฆงจฉชซฌญฎฏฐฑฒณดตถทธนบปผฝพฟ"),
  (0xC0, "ภมยรฤลฦวศษสหฬอฮฯะ\u0e31าำ\u0e34\u0e35\u0e36\u0e37\u0e38\u0e39\u0e3a\ufffd\ufffd\ufffd"),
  (0xDE, "\ufffd฿"),
  (0xE0, "เแโใไๅๆ\u0e47\u0e48\u0e49\u0e4a\u0e4b\u0e4c\u0e4d\u0e4e๏๐๑๒๓๔๕๖๗๘๙๚๛\ufffd\ufffd\ufffd"),
  (0xFF, "\ufffd")]

/-- Baltic letters. -/
def latin7 : Table := [
  (0xA1, "”¢£¤„¦§Ø©Ŗ«¬\xad®Æ°±²³“µ¶·ø¹ŗ»¼½¾æ"), (0xC0, "ĄĮĀĆÄÅĘĒČÉŹĖĢĶĪĻŠŃŅÓŌÕÖ×ŲŁŚŪÜŻŽß"),
  (0xE0, "ąįāćäåęēčéźėģķīļšńņóōõö÷ųłśūüżž’")]

/-- Celtic letters. -/
def latin8 : Table := [
  (0xA1, "Ḃḃ£ĊċḊ§Ẁ©ẂḋỲ\xad®ŸḞḟĠġṀṁ¶ṖẁṗẃṠỳẄẅṡ"), (0xD0, "Ŵ"), (0xD7, "Ṫ"), (0xDE, "Ŷ"), (0xF0, "ŵ"),
  (0xF7, "ṫ"), (0xFE, "ŷ")]

/-- Western European letters with the euro sign. -/
def latin9 : Table := [
  (0xA4, "€¥Š§š"), (0xB4, "Žµ¶·ž¹º»ŒœŸ")]

/-- South-eastern European letters. -/
def latin10 : Table := [
  (0xA1, "ĄąŁ€„Š§š©Ș«Ź\xadźŻ°±ČłŽ”¶·žčș»ŒœŸż"), (0xC0, "ÀÁÂĂÄĆ"), (0xD0, "ĐŃÒÓÔŐÖŚŰÙÚÛÜĘȚß"),
  (0xE0, "àáâăäć"), (0xF0, "đńòóôőöśűùúûüęț")]

/-- Thai letters without a space that does not break. -/
def thai : Table := [
  (0xA0, "\ufffdกขฃคฅฆงจฉชซฌญฎฏฐฑฒณดตถทธนบปผฝพฟ"),
  (0xC0, "ภมยรฤลฦวศษสหฬอฮฯะ\u0e31าำ\u0e34\u0e35\u0e36\u0e37\u0e38\u0e39\u0e3a\ufffd\ufffd\ufffd"),
  (0xDE, "\ufffd฿"),
  (0xE0, "เแโใไๅๆ\u0e47\u0e48\u0e49\u0e4a\u0e4b\u0e4c\u0e4d\u0e4e๏๐๑๒๓๔๕๖๗๘๙๚๛\ufffd\ufffd\ufffd"),
  (0xFF, "\ufffd")]

end PushRelay.Octets.Page
