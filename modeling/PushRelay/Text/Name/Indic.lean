/-!
# Names of letters of India

The letters of the scripts of India, in runs of neighbours. Each name begins
with the number of words that it shares with the one before.
-/

namespace PushRelay.Text

/-- The letters of the scripts of India, by name. -/
def indicNames : List (Nat × String) := [
  (0x900, "0DEVANAGARI SIGN INVERTED CANDRABINDU;2CANDRABINDU;2ANUSVARA;2VISARGA;1LETTER SHORT A"),
  (0x905, "2A;2AA;2I;2II;2U;2UU;2VOCALIC R;3L;2CANDRA E;2SHORT E;2E;2AI;2CANDRA O;2SHORT O;2O;2AU"),
  (0x915, "2KA;2KHA;2GA;2GHA;2NGA;2CA;2CHA;2JA;2JHA;2NYA;2TTA;2TTHA;2DDA;2DDHA;2NNA;2TA;2THA;2DA"),
  (0x927, "2DHA;2NA;2NNNA;2PA;2PHA;2BA;2BHA;2MA;2YA;2RA;2RRA;2LA;2LLA;2LLLA;2VA;2SHA;2SSA;2SA;2HA"),
  (0x93A, "1VOWEL SIGN OE;3OOE;1SIGN NUKTA;2AVAGRAHA;1VOWEL SIGN AA;3I;3II;3U;3UU;3VOCALIC R;4RR"),
  (0x945, "3CANDRA E;3SHORT E;3E;3AI;3CANDRA O;3SHORT O;3O;3AU;1SIGN VIRAMA"),
  (0x94E, "1VOWEL SIGN PRISHTHAMATRA E;3AW;1OM;1STRESS SIGN UDATTA;3ANUDATTA;1GRAVE ACCENT"),
  (0x954, "1ACUTE ACCENT;1VOWEL SIGN CANDRA LONG E;3UE;3UUE;1LETTER QA;2KHHA;2GHHA;2ZA;2DDDHA"),
  (0x95D, "2RHA;2FA;2YYA;2VOCALIC RR;3LL;1VOWEL SIGN VOCALIC L;4LL;1DANDA;1DOUBLE DANDA"),
  (0x966, "1DIGIT ZERO;2ONE;2TWO;2THREE;2FOUR;2FIVE;2SIX;2SEVEN;2EIGHT;2NINE;1ABBREVIATION SIGN"),
  (0x971, "1SIGN HIGH SPACING DOT;1LETTER CANDRA A;2OE;2OOE;2AW;2UE;2UUE;2MARWARI DDA;2ZHA"),
  (0x97A, "2HEAVY YA;2GGA;2JJA;2GLOTTAL STOP;2DDDA;2BBA;0BENGALI ANJI;1SIGN CANDRABINDU;2ANUSVARA"),
  (0x983, "2VISARGA"), (0x985, "1LETTER A;2AA;2I;2II;2U;2UU;2VOCALIC R;3L"), (0x98F, "2E;2AI"),
  (0x993, "2O;2AU;2KA;2KHA;2GA;2GHA;2NGA;2CA;2CHA;2JA;2JHA;2NYA;2TTA;2TTHA;2DDA;2DDHA;2NNA;2TA"),
  (0x9A5, "2THA;2DA;2DHA;2NA"), (0x9AA, "2PA;2PHA;2BA;2BHA;2MA;2YA;2RA"), (0x9B2, "2LA"),
  (0x9B6, "2SHA;2SSA;2SA;2HA"),
  (0x9BC, "1SIGN NUKTA;2AVAGRAHA;1VOWEL SIGN AA;3I;3II;3U;3UU;3VOCALIC R;4RR"), (0x9C7, "3E;3AI"),
  (0x9CB, "3O;3AU;1SIGN VIRAMA;1LETTER KHANDA TA"), (0x9D7, "1AU LENGTH MARK"),
  (0x9DC, "1LETTER RRA;2RHA"), (0x9DF, "2YYA;2VOCALIC RR;3LL;1VOWEL SIGN VOCALIC L;4LL"),
  (0x9E6, "1DIGIT ZERO;2ONE;2TWO;2THREE;2FOUR;2FIVE;2SIX;2SEVEN;2EIGHT;2NINE"),
  (0x9F0, "1LETTER RA WITH MIDDLE DIAGONAL;4LOWER DIAGONAL;1RUPEE MARK;2SIGN"),
  (0x9F4, "1CURRENCY NUMERATOR ONE;3TWO;3THREE;3FOUR;3ONE LESS THAN THE DENOMINATOR"),
  (0x9F9, "2DENOMINATOR SIXTEEN;1ISSHAR;1GANDA MARK;1LETTER VEDIC ANUSVARA;1ABBREVIATION SIGN"),
  (0x9FE, "1SANDHI MARK"), (0xA01, "0GURMUKHI SIGN ADAK BINDI;2BINDI;2VISARGA"),
  (0xA05, "1LETTER A;2AA;2I;2II;2U;2UU"), (0xA0F, "2EE;2AI"),
  (0xA13, "2OO;2AU;2KA;2KHA;2GA;2GHA;2NGA;2CA;2CHA;2JA;2JHA;2NYA;2TTA;2TTHA;2DDA;2DDHA;2NNA;2TA"),
  (0xA25, "2THA;2DA;2DHA;2NA"), (0xA2A, "2PA;2PHA;2BA;2BHA;2MA;2YA;2RA"), (0xA32, "2LA;2LLA"),
  (0xA35, "2VA;2SHA"), (0xA38, "2SA;2HA"), (0xA3C, "1SIGN NUKTA"),
  (0xA3E, "1VOWEL SIGN AA;3I;3II;3U;3UU"), (0xA47, "3EE;3AI"), (0xA4B, "3OO;3AU;1SIGN VIRAMA"),
  (0xA51, "2UDAAT"), (0xA59, "1LETTER KHHA;2GHHA;2ZA;2RRA"), (0xA5E, "2FA"),
  (0xA66, "1DIGIT ZERO;2ONE;2TWO;2THREE;2FOUR;2FIVE;2SIX;2SEVEN;2EIGHT;2NINE;1TIPPI;1ADDAK;1IRI"),
  (0xA73, "1URA;1EK ONKAR;1SIGN YAKASH;1ABBREVIATION SIGN"),
  (0xA81, "0GUJARATI SIGN CANDRABINDU;2ANUSVARA;2VISARGA"),
  (0xA85, "1LETTER A;2AA;2I;2II;2U;2UU;2VOCALIC R;3L;1VOWEL CANDRA E"),
  (0xA8F, "1LETTER E;2AI;1VOWEL CANDRA O"),
  (0xA93, "1LETTER O;2AU;2KA;2KHA;2GA;2GHA;2NGA;2CA;2CHA;2JA;2JHA;2NYA;2TTA;2TTHA;2DDA;2DDHA;2NNA"),
  (0xAA4, "2TA;2THA;2DA;2DHA;2NA"), (0xAAA, "2PA;2PHA;2BA;2BHA;2MA;2YA;2RA"), (0xAB2, "2LA;2LLA"),
  (0xAB5, "2VA;2SHA;2SSA;2SA;2HA"),
  (0xABC, "1SIGN NUKTA;2AVAGRAHA;1VOWEL SIGN AA;3I;3II;3U;3UU;3VOCALIC R;4RR;3CANDRA E"),
  (0xAC7, "3E;3AI;3CANDRA O"), (0xACB, "3O;3AU;1SIGN VIRAMA"), (0xAD0, "1OM"),
  (0xAE0, "1LETTER VOCALIC RR;3LL;1VOWEL SIGN VOCALIC L;4LL"),
  (0xAE6, "1DIGIT ZERO;2ONE;2TWO;2THREE;2FOUR;2FIVE;2SIX;2SEVEN;2EIGHT;2NINE;1ABBREVIATION SIGN"),
  (0xAF1, "1RUPEE SIGN"),
  (0xAF9, "1LETTER ZHA;1SIGN SUKUN;2SHADDA;2MADDAH;2THREE-DOT NUKTA ABOVE;2CIRCLE NUKTA ABOVE"),
  (0xAFF, "2TWO-CIRCLE NUKTA ABOVE"), (0xB01, "0ORIYA SIGN CANDRABINDU;2ANUSVARA;2VISARGA"),
  (0xB05, "1LETTER A;2AA;2I;2II;2U;2UU;2VOCALIC R;3L"), (0xB0F, "2E;2AI"),
  (0xB13, "2O;2AU;2KA;2KHA;2GA;2GHA;2NGA;2CA;2CHA;2JA;2JHA;2NYA;2TTA;2TTHA;2DDA;2DDHA;2NNA;2TA"),
  (0xB25, "2THA;2DA;2DHA;2NA"), (0xB2A, "2PA;2PHA;2BA;2BHA;2MA;2YA;2RA"), (0xB32, "2LA;2LLA"),
  (0xB35, "2VA;2SHA;2SSA;2SA;2HA"),
  (0xB3C, "1SIGN NUKTA;2AVAGRAHA;1VOWEL SIGN AA;3I;3II;3U;3UU;3VOCALIC R;4RR"), (0xB47, "3E;3AI"),
  (0xB4B, "3O;3AU;1SIGN VIRAMA"), (0xB55, "2OVERLINE;1AI LENGTH MARK;1AU LENGTH MARK"),
  (0xB5C, "1LETTER RRA;2RHA"), (0xB5F, "2YYA;2VOCALIC RR;3LL;1VOWEL SIGN VOCALIC L;4LL"),
  (0xB66, "1DIGIT ZERO;2ONE;2TWO;2THREE;2FOUR;2FIVE;2SIX;2SEVEN;2EIGHT;2NINE;1ISSHAR;1LETTER WA"),
  (0xB72, "1FRACTION ONE QUARTER;3HALF;2THREE QUARTERS;2ONE SIXTEENTH;3EIGHTH;2THREE SIXTEENTHS"),
  (0xB82, "0TAMIL SIGN ANUSVARA;2VISARGA"), (0xB85, "1LETTER A;2AA;2I;2II;2U;2UU"),
  (0xB8E, "2E;2EE;2AI"), (0xB92, "2O;2OO;2AU;2KA"), (0xB99, "2NGA;2CA"), (0xB9C, "2JA"),
  (0xB9E, "2NYA;2TTA"), (0xBA3, "2NNA;2TA"), (0xBA8, "2NA;2NNNA;2PA"),
  (0xBAE, "2MA;2YA;2RA;2RRA;2LA;2LLA;2LLLA;2VA;2SHA;2SSA;2SA;2HA"),
  (0xBBE, "1VOWEL SIGN AA;3I;3II;3U;3UU"), (0xBC6, "3E;3EE;3AI"),
  (0xBCA, "3O;3OO;3AU;1SIGN VIRAMA"), (0xBD0, "1OM"), (0xBD7, "1AU LENGTH MARK"),
  (0xBE6, "1DIGIT ZERO;2ONE;2TWO;2THREE;2FOUR;2FIVE;2SIX;2SEVEN;2EIGHT;2NINE;1NUMBER TEN"),
  (0xBF1, "2ONE HUNDRED;3THOUSAND;1DAY SIGN;1MONTH SIGN;1YEAR SIGN;1DEBIT SIGN;1CREDIT SIGN"),
  (0xBF8, "1AS ABOVE SIGN;1RUPEE SIGN;1NUMBER SIGN"),
  (0xC00, "0TELUGU SIGN COMBINING CANDRABINDU ABOVE;2CANDRABINDU;2ANUSVARA;2VISARGA"),
  (0xC04, "2COMBINING ANUSVARA ABOVE;1LETTER A;2AA;2I;2II;2U;2UU;2VOCALIC R;3L"),
  (0xC0E, "2E;2EE;2AI"),
  (0xC12, "2O;2OO;2AU;2KA;2KHA;2GA;2GHA;2NGA;2CA;2CHA;2JA;2JHA;2NYA;2TTA;2TTHA;2DDA;2DDHA;2NNA"),
  (0xC24, "2TA;2THA;2DA;2DHA;2NA"),
  (0xC2A, "2PA;2PHA;2BA;2BHA;2MA;2YA;2RA;2RRA;2LA;2LLA;2LLLA;2VA;2SHA;2SSA;2SA;2HA"),
  (0xC3C, "1SIGN NUKTA;2AVAGRAHA;1VOWEL SIGN AA;3I;3II;3U;3UU;3VOCALIC R;4RR"),
  (0xC46, "3E;3EE;3AI"), (0xC4A, "3O;3OO;3AU;1SIGN VIRAMA"),
  (0xC55, "1LENGTH MARK;1AI LENGTH MARK"), (0xC58, "1LETTER TSA;2DZA;2RRRA"),
  (0xC5D, "2NAKAARA POLLU"), (0xC60, "2VOCALIC RR;3LL;1VOWEL SIGN VOCALIC L;4LL"),
  (0xC66, "1DIGIT ZERO;2ONE;2TWO;2THREE;2FOUR;2FIVE;2SIX;2SEVEN;2EIGHT;2NINE"),
  (0xC77, "1SIGN SIDDHAM;1FRACTION DIGIT ZERO FOR ODD POWERS OF FOUR;3ONE FOR ODD POWERS OF FOUR"),
  (0xC7A, "3TWO FOR ODD POWERS OF FOUR;3THREE FOR ODD POWERS OF FOUR;3ONE FOR EVEN POWERS OF FOUR"),
  (0xC7D, "3TWO FOR EVEN POWERS OF FOUR;3THREE FOR EVEN POWERS OF FOUR;1SIGN TUUMU"),
  (0xC80, "0KANNADA SIGN SPACING CANDRABINDU;2CANDRABINDU;2ANUSVARA;2VISARGA;2SIDDHAM;1LETTER A"),
  (0xC86, "2AA;2I;2II;2U;2UU;2VOCALIC R;3L"), (0xC8E, "2E;2EE;2AI"),
  (0xC92, "2O;2OO;2AU;2KA;2KHA;2GA;2GHA;2NGA;2CA;2CHA;2JA;2JHA;2NYA;2TTA;2TTHA;2DDA;2DDHA;2NNA"),
  (0xCA4, "2TA;2THA;2DA;2DHA;2NA"), (0xCAA, "2PA;2PHA;2BA;2BHA;2MA;2YA;2RA;2RRA;2LA;2LLA"),
  (0xCB5, "2VA;2SHA;2SSA;2SA;2HA"),
  (0xCBC, "1SIGN NUKTA;2AVAGRAHA;1VOWEL SIGN AA;3I;3II;3U;3UU;3VOCALIC R;4RR"),
  (0xCC6, "3E;3EE;3AI"), (0xCCA, "3O;3OO;3AU;1SIGN VIRAMA"),
  (0xCD5, "1LENGTH MARK;1AI LENGTH MARK"), (0xCDD, "1LETTER NAKAARA POLLU;2FA"),
  (0xCE0, "2VOCALIC RR;3LL;1VOWEL SIGN VOCALIC L;4LL"),
  (0xCE6, "1DIGIT ZERO;2ONE;2TWO;2THREE;2FOUR;2FIVE;2SIX;2SEVEN;2EIGHT;2NINE"),
  (0xCF1, "1SIGN JIHVAMULIYA;2UPADHMANIYA"),
  (0xD00, "0MALAYALAM SIGN COMBINING ANUSVARA ABOVE;2CANDRABINDU;2ANUSVARA;2VISARGA"),
  (0xD04, "1LETTER VEDIC ANUSVARA;2A;2AA;2I;2II;2U;2UU;2VOCALIC R;3L"), (0xD0E, "2E;2EE;2AI"),
  (0xD12, "2O;2OO;2AU;2KA;2KHA;2GA;2GHA;2NGA;2CA;2CHA;2JA;2JHA;2NYA;2TTA;2TTHA;2DDA;2DDHA;2NNA"),
  (0xD24, "2TA;2THA;2DA;2DHA;2NA;2NNNA;2PA;2PHA;2BA;2BHA;2MA;2YA;2RA;2RRA;2LA;2LLA;2LLLA;2VA;2SHA"),
  (0xD37, "2SSA;2SA;2HA;2TTTA;1SIGN VERTICAL BAR VIRAMA;2CIRCULAR VIRAMA;2AVAGRAHA;1VOWEL SIGN AA"),
  (0xD3F, "3I;3II;3U;3UU;3VOCALIC R;4RR"), (0xD46, "3E;3EE;3AI"),
  (0xD4A, "3O;3OO;3AU;1SIGN VIRAMA;1LETTER DOT REPH;1SIGN PARA"),
  (0xD54, "1LETTER CHILLU M;3Y;3LLL;1AU LENGTH MARK;1FRACTION ONE ONE-HUNDRED-AND-SIXTIETH"),
  (0xD59, "3FORTIETH;2THREE EIGHTIETHS;2ONE TWENTIETH;3TENTH;2THREE TWENTIETHS;2ONE FIFTH"),
  (0xD5F, "1LETTER ARCHAIC II;2VOCALIC RR;3LL;1VOWEL SIGN VOCALIC L;4LL"),
  (0xD66, "1DIGIT ZERO;2ONE;2TWO;2THREE;2FOUR;2FIVE;2SIX;2SEVEN;2EIGHT;2NINE;1NUMBER TEN"),
  (0xD71, "2ONE HUNDRED;3THOUSAND;1FRACTION ONE QUARTER;3HALF;2THREE QUARTERS;2ONE SIXTEENTH"),
  (0xD77, "3EIGHTH;2THREE SIXTEENTHS;1DATE MARK;1LETTER CHILLU NN;3N;3RR;3L;3LL;3K"),
  (0xD81, "0SINHALA SIGN CANDRABINDU;2ANUSVARAYA;2VISARGAYA"),
  (0xD85, "1LETTER AYANNA;2AAYANNA;2AEYANNA;2AEEYANNA;2IYANNA;2IIYANNA;2UYANNA;2UUYANNA;2IRUYANNA"),
  (0xD8E, "2IRUUYANNA;2ILUYANNA;2ILUUYANNA;2EYANNA;2EEYANNA;2AIYANNA;2OYANNA;2OOYANNA;2AUYANNA"),
  (0xD9A, "2ALPAPRAANA KAYANNA;2MAHAAPRAANA KAYANNA;2ALPAPRAANA GAYANNA;2MAHAAPRAANA GAYANNA"),
  (0xD9E, "2KANTAJA NAASIKYAYA;2SANYAKA GAYANNA;2ALPAPRAANA CAYANNA;2MAHAAPRAANA CAYANNA"),
  (0xDA2, "2ALPAPRAANA JAYANNA;2MAHAAPRAANA JAYANNA;2TAALUJA NAASIKYAYA;3SANYOOGA NAAKSIKYAYA"),
  (0xDA6, "2SANYAKA JAYANNA;2ALPAPRAANA TTAYANNA;2MAHAAPRAANA TTAYANNA;2ALPAPRAANA DDAYANNA"),
  (0xDAA, "2MAHAAPRAANA DDAYANNA;2MUURDHAJA NAYANNA;2SANYAKA DDAYANNA;2ALPAPRAANA TAYANNA"),
  (0xDAE, "2MAHAAPRAANA TAYANNA;2ALPAPRAANA DAYANNA;2MAHAAPRAANA DAYANNA;2DANTAJA NAYANNA"),
  (0xDB3, "2SANYAKA DAYANNA;2ALPAPRAANA PAYANNA;2MAHAAPRAANA PAYANNA;2ALPAPRAANA BAYANNA"),
  (0xDB7, "2MAHAAPRAANA BAYANNA;2MAYANNA;2AMBA BAYANNA;2YAYANNA;2RAYANNA"),
  (0xDBD, "2DANTAJA LAYANNA"),
  (0xDC0, "2VAYANNA;2TAALUJA SAYANNA;2MUURDHAJA SAYANNA;2DANTAJA SAYANNA;2HAYANNA"),
  (0xDC5, "2MUURDHAJA LAYANNA;2FAYANNA"), (0xDCA, "1SIGN AL-LAKUNA"),
  (0xDCF, "1VOWEL SIGN AELA-PILLA;3KETTI AEDA-PILLA;3DIGA AEDA-PILLA;3KETTI IS-PILLA"),
  (0xDD3, "3DIGA IS-PILLA;3KETTI PAA-PILLA"), (0xDD6, "3DIGA PAA-PILLA"),
  (0xDD8, "3GAETTA-PILLA;3KOMBUVA;3DIGA KOMBUVA;3KOMBU DEKA;3KOMBUVA HAA AELA-PILLA"),
  (0xDDD, "5DIGA AELA-PILLA;5GAYANUKITTA;3GAYANUKITTA"),
  (0xDE6, "1LITH DIGIT ZERO;3ONE;3TWO;3THREE;3FOUR;3FIVE;3SIX;3SEVEN;3EIGHT;3NINE"),
  (0xDF2, "1VOWEL SIGN DIGA GAETTA-PILLA;4GAYANUKITTA;1PUNCTUATION KUNDDALIYA")]

end PushRelay.Text
