import PushRelay.Octets.Table

/-!
# Code pages of nations and makers

The pages that one country, one people or one maker of terminals has gone by.
-/

namespace PushRelay.Octets.Page

/-- Russian letters, in the order of the Latin ones. -/
def koi8R : Table := [
  (0x80, "─│┌┐└┘├┤┬┴┼▀▄█▌▐░▒▓⌠■∙√≈≤≥\xa0⌡°²·÷"), (0xA0, "═║╒ё╓╔╕╖╗╘╙╚╛╜╝╞╟╠╡Ё╢╣╤╥╦╧╨╩╪╫╬©"),
  (0xC0, "юабцдефгхийклмнопярстужвьызшэщчъ"), (0xE0, "ЮАБЦДЕФГХИЙКЛМНОПЯРСТУЖВЬЫЗШЭЩЧЪ")]

/-- Tajik letters, in the order of the Latin ones. -/
def koi8T : Table := [
  (0x80, "қғ‚Ғ„…†‡\ufffd‰ҳ‹ҲҷҶ\ufffdҚ‘’“”•–—\ufffd™\ufffd›\ufffd\ufffd\ufffd\ufffd"),
  (0xA0, "\ufffdӯӮё¤ӣ¦§\ufffd\ufffd\ufffd«¬\xad®\ufffd°±²Ё\ufffdӢ¶·\ufffd№\ufffd»\ufffd\ufffd"),
  (0xBE, "\ufffd©"), (0xC0, "юабцдефгхийклмнопярстужвьызшэщчъ"),
  (0xE0, "ЮАБЦДЕФГХИЙКЛМНОПЯРСТУЖВЬЫЗШЭЩЧЪ")]

/-- Ukrainian letters, in the order of the Latin ones. -/
def koi8U : Table := [
  (0x80, "─│┌┐└┘├┤┬┴┼▀▄█▌▐░▒▓⌠■∙√≈≤≥\xa0⌡°²·÷"), (0xA0, "═║╒ёє╔ії╗╘╙╚╛ґ╝╞╟╠╡ЁЄ╣ІЇ╦╧╨╩╪Ґ╬©"),
  (0xC0, "юабцдефгхийклмнопярстужвьызшэщчъ"), (0xE0, "ЮАБЦДЕФГХИЙКЛМНОПЯРСТУЖВЬЫЗШЭЩЧЪ")]

/-- Kazakh letters. -/
def kz1048 : Table := [
  (0x80, "ЂЃ‚ѓ„…†‡€‰Љ‹ЊҚҺЏђ‘’“”•–—\ufffd™љ›њқһџ"), (0xA0, "\xa0ҰұӘ¤Ө¦§Ё©Ғ«¬\xad®Ү°±Ііөµ¶·ё№ғ»әҢңү"),
  (0xC0, "АБВГДЕЖЗИЙКЛМНОПРСТУФХЦЧШЩЪЫЬЭЮЯ"), (0xE0, "абвгдежзийклмнопрстуфхцчшщъыьэюя")]

/-- Cyrillic letters of Asian languages. -/
def ptcp154 : Table := [
  (0x80, "ҖҒӮғ„…ҶҮҲүҠӢҢҚҺҸҗ‘’“”•–—ҳҷҡӣңқһҹ"), (0xA0, "\xa0ЎўЈӨҘҰ§Ё©Ә«¬ӯ®Ҝ°ұІіҙө¶·ё№ә»јҪҫҝ"),
  (0xC0, "АБВГДЕЖЗИЙКЛМНОПРСТУФХЦЧШЩЪЫЬЭЮЯ"), (0xE0, "абвгдежзийклмнопрстуфхцчшщъыьэюя")]

/-- Western European letters, in the order of accents. -/
def hpRoman8 : Table := [
  (0xA1, "ÀÂÈÊËÎÏ´ˋˆ¨˜ÙÛ₤¯Ýý°ÇçÑñ¡¿¤£¥§ƒ¢"), (0xC0, "âêôûáéóúàèòùäëöüÅîØÆåíøæÄìÖÜÉïßÔ"),
  (0xE0, "ÁÃãÐðÍÌÓÒÕõŠšÚŸÿÞþ·µ¶¾—¼½ªº«■»±\ufffd")]

end PushRelay.Octets.Page
