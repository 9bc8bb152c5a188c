import PushRelay.Octets.Table

/-!
# Code pages of mainframes

The pages in which even Latin letters have places of their own, in three
groups for either case.
-/

namespace PushRelay.Octets.Page

/-- Western European letters, for North America. -/
def ebcdic37 : Table := [
  (0x4, "\x9c\x09\x86\x7f\x97\x8d\x8e"), (0x14, "\x9d\x85\x08\x87\x18\x19\x92\x8f\x1c\x1d\x1e\x1f"),
  (0x20, "\x80\x81\x82\x83\x84\x0a\x17\x1b\x88\x89\x8a\x8b\x8c\x05\x06\x07\x90\x91\x16\x93\x94"),
  (0x35, "\x95\x96\x04\x98\x99\x9a\x9b\x14\x15\x9e\x1a"),
  (0x40, " \xa0âäàáãåçñ¢.<(+|&éêëèíîïìß!$*);¬"), (0x60, "-/ÂÄÀÁÃÅÇÑ¦,%_>?øÉÊËÈÍÎÏÌ\x60:#@'=\""),
  (0x80, "Øabcdefghi«»ðýþ±°jklmnopqrªºæ¸Æ¤"), (0xA0, "µ~stuvwxyz¡¿ÐÝÞ®^£¥·©§¶¼½¾[]¯¨´×"),
  (0xC0, "\x7bABCDEFGHI\xadôöòóõ\x7dJKLMNOPQR¹ûüùúÿ"),
  (0xE0, "\\÷STUVWXYZ²ÔÖÒÓÕ0123456789³ÛÜÙÚ\x9f")]

/-- Western European letters, for German. -/
def ebcdic273 : Table := [
  (0x4, "\x9c\x09\x86\x7f\x97\x8d\x8e"), (0x14, "\x9d\x85\x08\x87\x18\x19\x92\x8f\x1c\x1d\x1e\x1f"),
  (0x20, "\x80\x81\x82\x83\x84\x0a\x17\x1b\x88\x89\x8a\x8b\x8c\x05\x06\x07\x90\x91\x16\x93\x94"),
  (0x35, "\x95\x96\x04\x98\x99\x9a\x9b\x14\x15\x9e\x1a"),
  (0x40, " \xa0â\x7bàáãåçñÄ.<(+!&éêëèíîïì~Ü$*);^"), (0x60, "-/Â[ÀÁÃÅÇÑö,%_>?øÉÊËÈÍÎÏÌ\x60:#§'=\""),
  (0x80, "Øabcdefghi«»ðýþ±°jklmnopqrªºæ¸Æ¤"), (0xA0, "µßstuvwxyz¡¿ÐÝÞ®¢£¥·©@¶¼½¾¬|‾¨´×"),
  (0xC0, "äABCDEFGHI\xadô¦òóõüJKLMNOPQR¹û\x7dùúÿ"), (0xE0, "Ö÷STUVWXYZ²Ô\\ÒÓÕ0123456789³Û]ÙÚ\x9f")]

/-- Hebrew letters. -/
def ebcdic424 : Table := [
  (0x4, "\x9c\x09\x86\x7f\x97\x8d\x8e"), (0x14, "\x9d\x85\x08\x87\x18\x19\x92\x8f\x1c\x1d\x1e\x1f"),
  (0x20, "\x80\x81\x82\x83\x84\x0a\x17\x1b\x88\x89\x8a\x8b\x8c\x05\x06\x07\x90\x91\x16\x93\x94"),
  (0x35, "\x95\x96\x04\x98\x99\x9a\x9b\x14\x15\x9e\x1a"),
  (0x40, " \u05d0\u05d1\u05d2\u05d3\u05d4\u05d5\u05d6\u05d7\u05d8¢.<(+|&\u05d9\u05da\u05db\u05dc"),
  (0x55, "\u05dd\u05de\u05df\u05e0\u05e1!$*);¬"),
  (0x60, "-/\u05e2\u05e3\u05e4\u05e5\u05e6\u05e7\u05e8\u05e9¦,%_>?\ufffd\u05ea\ufffd\ufffd\xa0"),
  (0x75, "\ufffd\ufffd\ufffd‗\x60:#@'=\""),
  (0x80, "\ufffdabcdefghi«»\ufffd\ufffd\ufffd±°jklmnopqr\ufffd\ufffd\ufffd¸\ufffd¤"),
  (0xA0, "µ~stuvwxyz\ufffd\ufffd\ufffd\ufffd\ufffd®^£¥·©§¶¼½¾[]¯¨´×"),
  (0xC0, "\x7bABCDEFGHI\xad\ufffd\ufffd\ufffd\ufffd\ufffd\x7dJKLMNOPQR¹\ufffd\ufffd\ufffd\ufffd"),
  (0xDF, "\ufffd"),
  (0xE0, "\\÷STUVWXYZ²\ufffd\ufffd\ufffd\ufffd\ufffd0123456789³\ufffd\ufffd\ufffd\ufffd\x9f")]

/-- Western European letters, for all of Europe. -/
def ebcdic500 : Table := [
  (0x4, "\x9c\x09\x86\x7f\x97\x8d\x8e"), (0x14, "\x9d\x85\x08\x87\x18\x19\x92\x8f\x1c\x1d\x1e\x1f"),
  (0x20, "\x80\x81\x82\x83\x84\x0a\x17\x1b\x88\x89\x8a\x8b\x8c\x05\x06\x07\x90\x91\x16\x93\x94"),
  (0x35, "\x95\x96\x04\x98\x99\x9a\x9b\x14\x15\x9e\x1a"),
  (0x40, " \xa0âäàáãåçñ[.<(+!&éêëèíîïìß]$*);^"), (0x60, "-/ÂÄÀÁÃÅÇÑ¦,%_>?øÉÊËÈÍÎÏÌ\x60:#@'=\""),
  (0x80, "Øabcdefghi«»ðýþ±°jklmnopqrªºæ¸Æ¤"), (0xA0, "µ~stuvwxyz¡¿ÐÝÞ®¢£¥·©§¶¼½¾¬|¯¨´×"),
  (0xC0, "\x7bABCDEFGHI\xadôöòóõ\x7dJKLMNOPQR¹ûüùúÿ"),
  (0xE0, "\\÷STUVWXYZ²ÔÖÒÓÕ0123456789³ÛÜÙÚ\x9f")]

/-- Greek letters. -/
def ebcdic875 : Table := [
  (0x4, "\x9c\x09\x86\x7f\x97\x8d\x8e"), (0x14, "\x9d\x85\x08\x87\x18\x19\x92\x8f\x1c\x1d\x1e\x1f"),
  (0x20, "\x80\x81\x82\x83\x84\x0a\x17\x1b\x88\x89\x8a\x8b\x8c\x05\x06\x07\x90\x91\x16\x93\x94"),
  (0x35, "\x95\x96\x04\x98\x99\x9a\x9b\x14\x15\x9e\x1a"),
  (0x40, " ΑΒΓΔΕΖΗΘΙ[.<(+!&ΚΛΜΝΞΟΠΡΣ]$*);^"), (0x60, "-/ΤΥΦΧΨΩΪΫ|,%_>?¨ΆΈΉ\xa0ΊΌΎΏ\x60:#@'=\""),
  (0x80, "΅abcdefghiαβγδεζ°jklmnopqrηθικλμ"), (0xA0, "´~stuvwxyzνξοπρσ£άέήϊίόύϋώςτυφχψ"),
  (0xC0, "\x7bABCDEFGHI\xadωΐΰ‘―\x7dJKLMNOPQR±½\x1a\u0387’¦"),
  (0xE0, "\\\x1aSTUVWXYZ²§\x1a\x1a«¬0123456789³©\x1a\x1a»\x9f")]

/-- Turkish letters. -/
def ebcdic1026 : Table := [
  (0x4, "\x9c\x09\x86\x7f\x97\x8d\x8e"), (0x14, "\x9d\x85\x08\x87\x18\x19\x92\x8f\x1c\x1d\x1e\x1f"),
  (0x20, "\x80\x81\x82\x83\x84\x0a\x17\x1b\x88\x89\x8a\x8b\x8c\x05\x06\x07\x90\x91\x16\x93\x94"),
  (0x35, "\x95\x96\x04\x98\x99\x9a\x9b\x14\x15\x9e\x1a"),
  (0x40, " \xa0âäàáãå\x7bñÇ.<(+!&éêëèíîïìßĞİ*);^"), (0x60, "-/ÂÄÀÁÃÅ[Ñş,%_>?øÉÊËÈÍÎÏÌı:ÖŞ'=Ü"),
  (0x80, "Øabcdefghi«»\x7d\x60¦±°jklmnopqrªºæ¸Æ¤"), (0xA0, "µöstuvwxyz¡¿]$@®¢£¥·©§¶¼½¾¬|¯¨´×"),
  (0xC0, "çABCDEFGHI\xadô~òóõğJKLMNOPQR¹û\\ùúÿ"), (0xE0, "ü÷STUVWXYZ²Ô#ÒÓÕ0123456789³Û\"ÙÚ\x9f")]

/-- Western European letters with the euro sign. -/
def ebcdic1140 : Table := [
  (0x4, "\x9c\x09\x86\x7f\x97\x8d\x8e"), (0x14, "\x9d\x85\x08\x87\x18\x19\x92\x8f\x1c\x1d\x1e\x1f"),
  (0x20, "\x80\x81\x82\x83\x84\x0a\x17\x1b\x88\x89\x8a\x8b\x8c\x05\x06\x07\x90\x91\x16\x93\x94"),
  (0x35, "\x95\x96\x04\x98\x99\x9a\x9b\x14\x15\x9e\x1a"),
  (0x40, " \xa0âäàáãåçñ¢.<(+|&éêëèíîïìß!$*);¬"), (0x60, "-/ÂÄÀÁÃÅÇÑ¦,%_>?øÉÊËÈÍÎÏÌ\x60:#@'=\""),
  (0x80, "Øabcdefghi«»ðýþ±°jklmnopqrªºæ¸Æ€"), (0xA0, "µ~stuvwxyz¡¿ÐÝÞ®^£¥·©§¶¼½¾[]¯¨´×"),
  (0xC0, "\x7bABCDEFGHI\xadôöòóõ\x7dJKLMNOPQR¹ûüùúÿ"),
  (0xE0, "\\÷STUVWXYZ²ÔÖÒÓÕ0123456789³ÛÜÙÚ\x9f")]

end PushRelay.Octets.Page
