import PushRelay.Octets.Iso2022

/-!
# East Asian encodings

All encodings that take several octets for an ideograph, whatever standards
they are made of.
-/

namespace PushRelay.Octets

/-- An encoding of East Asia. -/
inductive EastAsian where
  | gb2312
  | gbk
  | gb18030
  | hz
  | big5
  /-- Big5 as Windows has it. -/
  | windows950
  /-- Big5 with the supplement of Hong Kong. -/
  | hongKong
  | eucKr
  /-- The Korean encoding of Windows. -/
  | windows949
  | johab
  | eucJp
  /-- EUC with the planes of JIS X 0213. -/
  | eucJis (edition : Edition)
  | shiftJis
  /-- Shift JIS with the planes of JIS X 0213. -/
  | shiftJisX (edition : Edition)
  /-- Shift JIS as Windows has it. -/
  | windows932
  | iso2022Jp
  | iso2022Jp1
  | iso2022Jp2
  /-- The switching encoding with the planes of JIS X 0213. -/
  | iso2022JpX (edition : Edition)
  | iso2022JpExt
  | iso2022Kr
  deriving DecidableEq, Repr

/-- Decodes octets. -/
def EastAsian.decode : EastAsian → List UInt8 → Decoded
  | .gb2312 => gb2312Decoder.run ()
  | .gbk => gbkDecoder.run ()
  | .gb18030 => gb18030Decoder.run ()
  | .hz => hzDecoder.run false
  | .big5 => big5Decoder.run ()
  | .windows950 => cp950Decoder.run ()
  | .hongKong => hongKongDecoder.run ()
  | .eucKr => eucKrDecoder.run ()
  | .windows949 => cp949Decoder.run ()
  | .johab => johabDecoder.run ()
  | .eucJp => eucJpDecoder.run ()
  | .eucJis edition => (eucJisDecoder edition).run ()
  | .shiftJis => shiftJisDecoder.run ()
  | .shiftJisX edition => (shiftJisXDecoder edition).run ()
  | .windows932 => windows932Decoder.run ()
  | .iso2022Jp => Iso2022.jp.decoder.run {}
  | .iso2022Jp1 => Iso2022.jp1.decoder.run {}
  | .iso2022Jp2 => Iso2022.jp2.decoder.run {}
  | .iso2022JpX edition => (Iso2022.jpX edition).decoder.run {}
  | .iso2022JpExt => Iso2022.jpExt.decoder.run {}
  | .iso2022Kr => Iso2022.kr.decoder.run {}

end PushRelay.Octets
