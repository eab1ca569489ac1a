/-!
# Names of letters and marks

The larger alphabets and Kana. Each group is the words that its names begin with, and their endings
between commas.
-/

namespace InteropGen.Text

private def letterNamesPart1 : List (String × String) :=
  [("LATIN CAPITAL LETTER", "A, B, C, D, E, F, F WITH HOOK, F WITH DOT ABOVE, G, H, I, J,
     J WITH CIRCUMFLEX, J WITH STROKE, K, L, M, M WITH ACUTE, M WITH DOT ABOVE, M WITH DOT BELOW,
     N, O, P, P WITH HOOK, P WITH ACUTE, P WITH DOT ABOVE, Q, R, S, T, U, U BAR, V, V WITH HOOK,
     V WITH TILDE, V WITH DOT BELOW, W, X, X WITH DOT ABOVE, X WITH DIAERESIS, Y, Z, AE,
     AE WITH MACRON, AE WITH ACUTE, ETH, THORN, ENG, TONE SIX, TONE TWO, TONE FIVE, OPEN O,
     OPEN E, AFRICAN D, REVERSED E, SCHWA, GAMMA, IOTA, TURNED M, TURNED V, OI, ESH, UPSILON, EZH,
     EZH REVERSED, EZH WITH CARON, DZ WITH CARON, DZ, LJ, NJ, HWAIR, WYNN, YOGH, OU, GLOTTAL STOP,
     SMALL Q WITH HOOK TAIL, SHARP S, MIDDLE-WELSH LL, MIDDLE-WELSH V"),
   ("LATIN CAPITAL LETTER A WITH", "GRAVE, ACUTE, CIRCUMFLEX, TILDE, DIAERESIS,
     DIAERESIS AND MACRON, RING ABOVE, RING ABOVE AND ACUTE, RING BELOW, MACRON, BREVE, OGONEK,
     CARON, DOT ABOVE AND MACRON, DOT ABOVE, DOT BELOW, DOUBLE GRAVE, INVERTED BREVE, STROKE,
     HOOK ABOVE"),
   ("LATIN CAPITAL LETTER A WITH CIRCUMFLEX AND", "ACUTE, GRAVE, HOOK ABOVE, TILDE, DOT BELOW"),
   ("LATIN CAPITAL LETTER A WITH BREVE AND", "ACUTE, GRAVE, HOOK ABOVE, TILDE, DOT BELOW"),
   ("LATIN CAPITAL LETTER B WITH", "HOOK, TOPBAR, STROKE, DOT ABOVE, DOT BELOW, LINE BELOW"),
   ("LATIN CAPITAL LETTER C WITH", "CEDILLA, CEDILLA AND ACUTE, ACUTE, CIRCUMFLEX, DOT ABOVE,
     CARON, HOOK, STROKE"),
   ("LATIN CAPITAL LETTER D WITH", "CARON, STROKE, HOOK, TOPBAR, SMALL LETTER Z WITH CARON,
     SMALL LETTER Z, DOT ABOVE, DOT BELOW, LINE BELOW, CEDILLA, CIRCUMFLEX BELOW"),
   ("LATIN CAPITAL LETTER E WITH", "GRAVE, ACUTE, CIRCUMFLEX, CIRCUMFLEX BELOW, DIAERESIS, MACRON,
     MACRON AND GRAVE, MACRON AND ACUTE, BREVE, DOT ABOVE, DOT BELOW, OGONEK, CARON, DOUBLE GRAVE,
     INVERTED BREVE, CEDILLA, CEDILLA AND BREVE, STROKE, TILDE BELOW, TILDE, HOOK ABOVE"),
   ("LATIN CAPITAL LETTER E WITH CIRCUMFLEX AND", "ACUTE, GRAVE, HOOK ABOVE, TILDE, DOT BELOW"),
   ("LATIN CAPITAL LETTER G WITH", "CIRCUMFLEX, BREVE, DOT ABOVE, CEDILLA, HOOK, STROKE, CARON,
     ACUTE, MACRON"),
   ("LATIN CAPITAL LETTER H WITH", "CIRCUMFLEX, STROKE, CARON, DOT ABOVE, DOT BELOW, DIAERESIS,
     CEDILLA, BREVE BELOW"),
   ("LATIN CAPITAL LETTER I WITH", "GRAVE, ACUTE, CIRCUMFLEX, DIAERESIS, DIAERESIS AND ACUTE,
     TILDE, TILDE BELOW, MACRON, BREVE, OGONEK, DOT ABOVE, DOT BELOW, STROKE, CARON, DOUBLE GRAVE,
     INVERTED BREVE, HOOK ABOVE"),
   ("LATIN CAPITAL LETTER K WITH", "CEDILLA, HOOK, CARON, ACUTE, DOT BELOW, LINE BELOW"),
   ("LATIN CAPITAL LETTER L WITH", "ACUTE, CEDILLA, CARON, MIDDLE DOT, STROKE, SMALL LETTER J,
     BAR, DOT BELOW, DOT BELOW AND MACRON, LINE BELOW, CIRCUMFLEX BELOW"),
   ("LATIN CAPITAL LETTER N WITH", "TILDE, ACUTE, CEDILLA, CARON, LEFT HOOK, SMALL LETTER J,
     GRAVE, LONG RIGHT LEG, DOT ABOVE, DOT BELOW, LINE BELOW, CIRCUMFLEX BELOW"),
   ("LATIN CAPITAL LETTER O WITH", "GRAVE, ACUTE, CIRCUMFLEX, TILDE, TILDE AND MACRON,
     TILDE AND ACUTE, TILDE AND DIAERESIS, DIAERESIS, DIAERESIS AND MACRON, STROKE,
     STROKE AND ACUTE, MACRON, MACRON AND GRAVE, MACRON AND ACUTE, BREVE, DOUBLE ACUTE,
     DOUBLE GRAVE, MIDDLE TILDE, HORN, CARON, OGONEK, OGONEK AND MACRON, INVERTED BREVE,
     DOT ABOVE, DOT ABOVE AND MACRON, DOT BELOW, HOOK ABOVE"),
   ("LATIN CAPITAL LETTER O WITH CIRCUMFLEX AND", "ACUTE, GRAVE, HOOK ABOVE, TILDE, DOT BELOW"),
   ("LATIN CAPITAL LETTER O WITH HORN AND", "ACUTE, GRAVE, HOOK ABOVE, TILDE, DOT BELOW"),
   ("LATIN CAPITAL LETTER R WITH", "ACUTE, CEDILLA, CARON, DOUBLE GRAVE, INVERTED BREVE, STROKE,
     DOT ABOVE, DOT BELOW, DOT BELOW AND MACRON, LINE BELOW"),
   ("LATIN CAPITAL LETTER S WITH", "ACUTE, ACUTE AND DOT ABOVE, CIRCUMFLEX, CEDILLA, CARON,
     CARON AND DOT ABOVE, COMMA BELOW, DOT ABOVE, DOT BELOW, DOT BELOW AND DOT ABOVE"),
   ("LATIN CAPITAL LETTER T WITH", "CEDILLA, CARON, STROKE, HOOK, RETROFLEX HOOK, COMMA BELOW,
     DIAGONAL STROKE, DOT ABOVE, DOT BELOW, LINE BELOW, CIRCUMFLEX BELOW"),
   ("LATIN CAPITAL LETTER U WITH", "GRAVE, ACUTE, CIRCUMFLEX, CIRCUMFLEX BELOW, DIAERESIS,
     DIAERESIS BELOW, TILDE, TILDE BELOW, TILDE AND ACUTE, MACRON, MACRON AND DIAERESIS, BREVE,
     RING ABOVE, DOUBLE ACUTE, DOUBLE GRAVE, OGONEK, HORN, CARON, INVERTED BREVE, DOT BELOW,
     HOOK ABOVE"),
   ("LATIN CAPITAL LETTER U WITH DIAERESIS AND", "MACRON, ACUTE, CARON, GRAVE"),
   ("LATIN CAPITAL LETTER U WITH HORN AND", "ACUTE, GRAVE, HOOK ABOVE, TILDE, DOT BELOW"),
   ("LATIN CAPITAL LETTER W WITH", "CIRCUMFLEX, GRAVE, ACUTE, DIAERESIS, DOT ABOVE, DOT BELOW"),
   ("LATIN CAPITAL LETTER Y WITH", "ACUTE, CIRCUMFLEX, DIAERESIS, HOOK, HOOK ABOVE, MACRON,
     STROKE, DOT ABOVE, DOT BELOW, GRAVE, TILDE, LOOP"),
   ("LATIN CAPITAL LETTER Z WITH", "ACUTE, DOT ABOVE, DOT BELOW, CARON, STROKE, HOOK, CIRCUMFLEX,
     LINE BELOW"),
   ("LATIN CAPITAL LIGATURE", "IJ, OE"),
   ("LATIN SMALL LETTER", "A, B, C, D, E, F, F WITH HOOK, F WITH DOT ABOVE, G, H, I, J,
     J WITH CIRCUMFLEX, J WITH CARON, J WITH STROKE, J WITH CROSSED-TAIL, K, L, M, M WITH HOOK,
     M WITH ACUTE, M WITH DOT ABOVE, M WITH DOT BELOW, N, N PRECEDED BY APOSTROPHE, O, P,
     P WITH HOOK, P WITH ACUTE, P WITH DOT ABOVE, Q, Q WITH HOOK TAIL, Q WITH HOOK, R, S, T, U,
     U BAR, V, V WITH HOOK, V WITH TILDE, V WITH DOT BELOW, W, X, X WITH DOT ABOVE,
     X WITH DIAERESIS, Y, Z, SHARP S, AE, AE WITH MACRON, AE WITH ACUTE, ETH, THORN, KRA, ENG,
     LONG S, TONE SIX, TONE TWO, TONE FIVE, HV, LAMBDA WITH STROKE, OI, EZH REVERSED,
     EZH WITH TAIL, EZH WITH CARON, EZH WITH CURL, EZH, DZ WITH CARON, DZ, DZ DIGRAPH,
     DZ DIGRAPH WITH CURL, LJ, NJ, YOGH, OU, DB DIGRAPH, QP DIGRAPH, GLOTTAL STOP, ALPHA, OPEN O,
     OPEN E, SCHWA, SCHWA WITH HOOK, CLOSED REVERSED OPEN E, CLOSED OMEGA, CLOSED OPEN E,
     SCRIPT G, GAMMA, RAMS HORN, HENG WITH HOOK, IOTA, LEZH, BARRED O, PHI, ESH, ESH WITH CURL,
     SQUAT REVERSED ESH, UPSILON, DEZH DIGRAPH, TS DIGRAPH, TESH DIGRAPH, TC DIGRAPH WITH CURL,
     FENG DIGRAPH, LS DIGRAPH, LZ DIGRAPH, DELTA, MIDDLE-WELSH LL, MIDDLE-WELSH V"),
   ("LATIN SMALL LETTER A WITH", "GRAVE, ACUTE, CIRCUMFLEX, TILDE, DIAERESIS,
     DIAERESIS AND MACRON, RING ABOVE, RING ABOVE AND ACUTE, RING BELOW, MACRON, BREVE, OGONEK,
     CARON, DOT ABOVE AND MACRON, DOT ABOVE, DOT BELOW, DOUBLE GRAVE, INVERTED BREVE,
     RIGHT HALF RING, HOOK ABOVE"),
   ("LATIN SMALL LETTER A WITH CIRCUMFLEX AND", "ACUTE, GRAVE, HOOK ABOVE, TILDE, DOT BELOW"),
   ("LATIN SMALL LETTER A WITH BREVE AND", "ACUTE, GRAVE, HOOK ABOVE, TILDE, DOT BELOW"),
   ("LATIN SMALL LETTER B WITH", "STROKE, TOPBAR, HOOK, DOT ABOVE, DOT BELOW, LINE BELOW"),
   ("LATIN SMALL LETTER C WITH", "CEDILLA, CEDILLA AND ACUTE, ACUTE, CIRCUMFLEX, DOT ABOVE, CARON,
     HOOK, STROKE, CURL"),
   ("LATIN SMALL LETTER D WITH", "CARON, STROKE, TOPBAR, CURL, TAIL, HOOK, DOT ABOVE, DOT BELOW,
     LINE BELOW, CEDILLA, CIRCUMFLEX BELOW"),
   ("LATIN SMALL LETTER E WITH", "GRAVE, ACUTE, CIRCUMFLEX, CIRCUMFLEX BELOW, DIAERESIS, MACRON,
     MACRON AND GRAVE, MACRON AND ACUTE, BREVE, DOT ABOVE, DOT BELOW, OGONEK, CARON, DOUBLE GRAVE,
     INVERTED BREVE, CEDILLA, CEDILLA AND BREVE, STROKE, TILDE BELOW, TILDE, HOOK ABOVE"),
   ("LATIN SMALL LETTER E WITH CIRCUMFLEX AND", "ACUTE, GRAVE, HOOK ABOVE, TILDE, DOT BELOW"),
   ("LATIN SMALL LETTER G WITH", "CIRCUMFLEX, BREVE, DOT ABOVE, CEDILLA, STROKE, CARON, ACUTE,
     HOOK, MACRON"),
   ("LATIN SMALL LETTER H WITH", "CIRCUMFLEX, STROKE, CARON, HOOK, DOT ABOVE, DOT BELOW,
     DIAERESIS, CEDILLA, BREVE BELOW, LINE BELOW"),
   ("LATIN SMALL LETTER I WITH", "GRAVE, ACUTE, CIRCUMFLEX, DIAERESIS, DIAERESIS AND ACUTE, TILDE,
     TILDE BELOW, MACRON, BREVE, OGONEK, CARON, DOUBLE GRAVE, INVERTED BREVE, STROKE, HOOK ABOVE,
     DOT BELOW"),
   ("LATIN SMALL LETTER K WITH", "CEDILLA, HOOK, CARON, ACUTE, DOT BELOW, LINE BELOW"),
   ("LATIN SMALL LETTER L WITH", "ACUTE, CEDILLA, CARON, MIDDLE DOT, MIDDLE TILDE, STROKE, BAR,
     CURL, BELT, RETROFLEX HOOK, DOT BELOW, DOT BELOW AND MACRON, LINE BELOW, CIRCUMFLEX BELOW"),
   ("LATIN SMALL LETTER N WITH", "TILDE, ACUTE, CEDILLA, CARON, LONG RIGHT LEG, GRAVE, CURL,
     LEFT HOOK, RETROFLEX HOOK, DOT ABOVE, DOT BELOW, LINE BELOW, CIRCUMFLEX BELOW"),
   ("LATIN SMALL LETTER O WITH", "GRAVE, ACUTE, CIRCUMFLEX, TILDE, TILDE AND MACRON,
     TILDE AND ACUTE, TILDE AND DIAERESIS, DIAERESIS, DIAERESIS AND MACRON, STROKE,
     STROKE AND ACUTE, MACRON, MACRON AND GRAVE, MACRON AND ACUTE, BREVE, DOUBLE ACUTE,
     DOUBLE GRAVE, HORN, CARON, OGONEK, OGONEK AND MACRON, INVERTED BREVE, DOT ABOVE,
     DOT ABOVE AND MACRON, DOT BELOW, HOOK ABOVE"),
   ("LATIN SMALL LETTER O WITH CIRCUMFLEX AND", "ACUTE, GRAVE, HOOK ABOVE, TILDE, DOT BELOW"),
   ("LATIN SMALL LETTER O WITH HORN AND", "ACUTE, GRAVE, HOOK ABOVE, TILDE, DOT BELOW"),
   ("LATIN SMALL LETTER R WITH", "ACUTE, CEDILLA, CARON, DOUBLE GRAVE, INVERTED BREVE, STROKE,
     LONG LEG, TAIL, FISHHOOK, DOT ABOVE, DOT BELOW, DOT BELOW AND MACRON, LINE BELOW"),
   ("LATIN SMALL LETTER S WITH", "ACUTE, ACUTE AND DOT ABOVE, CIRCUMFLEX, CEDILLA, CARON,
     CARON AND DOT ABOVE, COMMA BELOW, SWASH TAIL, HOOK, DOT ABOVE, DOT BELOW,
     DOT BELOW AND DOT ABOVE"),
   ("LATIN SMALL LETTER T WITH", "CEDILLA, CARON, STROKE, PALATAL HOOK, HOOK, COMMA BELOW, CURL,
     RETROFLEX HOOK, DOT ABOVE, DOT BELOW, LINE BELOW, CIRCUMFLEX BELOW, DIAERESIS"),
   ("LATIN SMALL LETTER U WITH", "GRAVE, ACUTE, CIRCUMFLEX, CIRCUMFLEX BELOW, DIAERESIS,
     DIAERESIS BELOW, TILDE, TILDE BELOW, TILDE AND ACUTE, MACRON, MACRON AND DIAERESIS, BREVE,
     RING ABOVE, DOUBLE ACUTE, DOUBLE GRAVE, OGONEK, HORN, CARON, INVERTED BREVE, DOT BELOW,
     HOOK ABOVE"),
   ("LATIN SMALL LETTER U WITH DIAERESIS AND", "MACRON, ACUTE, CARON, GRAVE"),
   ("LATIN SMALL LETTER U WITH HORN AND", "ACUTE, GRAVE, HOOK ABOVE, TILDE, DOT BELOW"),
   ("LATIN SMALL LETTER W WITH", "CIRCUMFLEX, GRAVE, ACUTE, DIAERESIS, DOT ABOVE, DOT BELOW,
     RING ABOVE"),
   ("LATIN SMALL LETTER Y WITH", "ACUTE, DIAERESIS, CIRCUMFLEX, HOOK, HOOK ABOVE, MACRON, STROKE,
     DOT ABOVE, DOT BELOW, RING ABOVE, GRAVE, TILDE, LOOP"),
   ("LATIN SMALL LETTER Z WITH", "ACUTE, DOT ABOVE, DOT BELOW, CARON, STROKE, HOOK, SWASH TAIL,
     RETROFLEX HOOK, CURL, CIRCUMFLEX, LINE BELOW"),
   ("LATIN SMALL LETTER DOTLESS", "I, J, J WITH STROKE, J WITH STROKE AND HOOK"),
   ("LATIN SMALL LETTER LONG S WITH", "DOT ABOVE, DIAGONAL STROKE, HIGH STROKE")]

private def letterNamesPart2 : List (String × String) :=
  [("LATIN SMALL LETTER TURNED", "DELTA, E, A, ALPHA, H, H WITH FISHHOOK,
     H WITH FISHHOOK AND TAIL, M, M WITH LONG LEG, R, R WITH LONG LEG, R WITH HOOK, T, V, W, Y,
     K"),
   ("LATIN SMALL LETTER REVERSED", "E, OPEN E, OPEN E WITH HOOK, R WITH FISHHOOK"),
   ("LATIN SMALL LIGATURE", "IJ, OE"),
   ("LATIN LETTER", "YR, REVERSED ESH LOOP, REVERSED GLOTTAL STOP WITH STROKE, TWO WITH STROKE,
     INVERTED GLOTTAL STOP WITH STROKE, INVERTED GLOTTAL STOP, WYNN, DENTAL CLICK, LATERAL CLICK,
     ALVEOLAR CLICK, RETROFLEX CLICK, GLOTTAL STOP, GLOTTAL STOP WITH STROKE,
     PHARYNGEAL VOICED FRICATIVE, STRETCHED C, BILABIAL CLICK, BILABIAL PERCUSSIVE,
     BIDENTAL PERCUSSIVE"),
   ("LATIN LETTER SMALL CAPITAL", "G, G WITH HOOK, I, N, OE, R, INVERTED R, Y, B, H, L"),
   ("", "FEMININE ORDINAL INDICATOR, MICRO SIGN, MASCULINE ORDINAL INDICATOR, MULTIPLICATION SIGN,
     DIVISION SIGN, CARON, BREVE, DOT ABOVE, RING ABOVE, OGONEK, SMALL TILDE, DOUBLE ACUTE ACCENT,
     ARABIC TATWEEL"),
   ("MODIFIER LETTER SMALL", "H, H WITH HOOK, J, R, TURNED R, TURNED R WITH HOOK,
     CAPITAL INVERTED R, W, Y, GAMMA, L, S, X, REVERSED GLOTTAL STOP"),
   ("MODIFIER LETTER", "PRIME, DOUBLE PRIME, DOUBLE APOSTROPHE, TURNED COMMA, APOSTROPHE,
     REVERSED COMMA, REVERSED GLOTTAL STOP, RIGHT HALF RING, RIGHT ARROWHEAD, LEFT HALF RING,
     LEFT ARROWHEAD, GLOTTAL STOP, UP ARROWHEAD, UP TACK, DOWN ARROWHEAD, DOWN TACK,
     CIRCUMFLEX ACCENT, VERTICAL LINE, MACRON, ACUTE ACCENT, GRAVE ACCENT, TRIANGULAR COLON,
     HALF TRIANGULAR COLON, CENTRED RIGHT HALF RING, CENTRED LEFT HALF RING, PLUS SIGN,
     MINUS SIGN, RHOTIC HOOK, CROSS ACCENT, EXTRA-HIGH TONE BAR, HIGH TONE BAR, MID TONE BAR,
     EXTRA-LOW TONE BAR, YIN DEPARTING TONE MARK, YANG DEPARTING TONE MARK, VOICING, UNASPIRATED,
     MIDDLE GRAVE ACCENT, MIDDLE DOUBLE GRAVE ACCENT, MIDDLE DOUBLE ACUTE ACCENT, RAISED COLON,
     BEGIN HIGH TONE, BEGIN LOW TONE, END HIGH TONE, END LOW TONE, SHELF, OPEN SHELF"),
   ("MODIFIER LETTER LOW", "VERTICAL LINE, MACRON, GRAVE ACCENT, ACUTE ACCENT, TONE BAR,
     DOWN ARROWHEAD, UP ARROWHEAD, LEFT ARROWHEAD, LEFT ARROW, RIGHT ARROWHEAD, RING, TILDE"),
   ("COMBINING", "GRAVE ACCENT, GRAVE ACCENT BELOW, GRAVE TONE MARK, ACUTE ACCENT,
     ACUTE ACCENT BELOW, ACUTE TONE MARK, CIRCUMFLEX ACCENT, CIRCUMFLEX ACCENT BELOW, TILDE,
     TILDE BELOW, TILDE OVERLAY, MACRON, MACRON BELOW, OVERLINE, BREVE, BREVE BELOW, DOT ABOVE,
     DOT ABOVE RIGHT, DOT BELOW, DIAERESIS, DIAERESIS BELOW, HOOK ABOVE, RING ABOVE, RING BELOW,
     CARON, CARON BELOW, CANDRABINDU, TURNED COMMA ABOVE, COMMA ABOVE, COMMA ABOVE RIGHT,
     COMMA BELOW, REVERSED COMMA ABOVE, RIGHT TACK BELOW, HORN, UP TACK BELOW, DOWN TACK BELOW,
     PLUS SIGN BELOW, MINUS SIGN BELOW, PALATALIZED HOOK BELOW, RETROFLEX HOOK BELOW, CEDILLA,
     OGONEK, BRIDGE BELOW, BRIDGE ABOVE, LOW LINE, SHORT STROKE OVERLAY, SHORT SOLIDUS OVERLAY,
     LONG STROKE OVERLAY, LONG SOLIDUS OVERLAY, SQUARE BELOW, SEAGULL BELOW, X ABOVE, X BELOW,
     EQUALS SIGN BELOW, NOT TILDE ABOVE, HOMOTHETIC ABOVE, ALMOST EQUAL TO ABOVE,
     UPWARDS ARROW BELOW, GRAPHEME JOINER, FERMATA, ASTERISK BELOW, ZIGZAG ABOVE"),
   ("COMBINING DOUBLE", "ACUTE ACCENT, VERTICAL LINE ABOVE, VERTICAL LINE BELOW, GRAVE ACCENT,
     LOW LINE, OVERLINE, RING BELOW, BREVE BELOW, BREVE, MACRON, MACRON BELOW, TILDE,
     INVERTED BREVE, RIGHTWARDS ARROW BELOW"),
   ("COMBINING VERTICAL", "LINE ABOVE, LINE BELOW, TILDE"),
   ("COMBINING INVERTED", "BREVE, BREVE BELOW, DOUBLE ARCH BELOW, BRIDGE BELOW"),
   ("COMBINING LEFT", "TACK BELOW, ANGLE ABOVE, ANGLE BELOW, HALF RING BELOW, HALF RING ABOVE,
     RIGHT ARROW BELOW, ARROWHEAD BELOW"),
   ("COMBINING RIGHT HALF RING", "BELOW, ABOVE"),
   ("COMBINING RIGHT ARROWHEAD", "ABOVE, BELOW, AND UP ARROWHEAD BELOW"),
   ("COMBINING GREEK", "PERISPOMENI, KORONIS, DIALYTIKA TONOS, YPOGEGRAMMENI"),
   ("COMBINING LATIN SMALL LETTER", "A, E, I, O, U, C, D, H, M, R, T, V, X"),
   ("COMBINING CYRILLIC", "TITLO, PALATALIZATION, DASIA PNEUMATA, PSILI PNEUMATA, POKRYTIE,
     HUNDRED THOUSANDS SIGN, MILLIONS SIGN"),
   ("COMBINING KATAKANA-HIRAGANA", "VOICED SOUND MARK, SEMI-VOICED SOUND MARK"),
   ("GREEK CAPITAL LETTER", "HETA, ARCHAIC SAMPI, PAMPHYLIAN DIGAMMA, YOT, ALPHA WITH TONOS,
     ALPHA, EPSILON WITH TONOS, EPSILON, ETA WITH TONOS, ETA, IOTA WITH TONOS,
     IOTA WITH DIALYTIKA, IOTA, OMICRON WITH TONOS, OMICRON, UPSILON WITH TONOS,
     UPSILON WITH DIALYTIKA, UPSILON, OMEGA WITH TONOS, OMEGA, BETA, GAMMA, DELTA, ZETA, THETA,
     KAPPA, LAMDA, MU, NU, XI, PI, RHO, SIGMA, TAU, PHI, CHI, PSI, SHO, SAN"),
   ("GREEK CAPITAL", "KAI SYMBOL, THETA SYMBOL, LUNATE SIGMA SYMBOL, REVERSED LUNATE SIGMA SYMBOL,
     REVERSED DOTTED LUNATE SIGMA SYMBOL, DOTTED LUNATE SIGMA SYMBOL"),
   ("GREEK SMALL LETTER", "HETA, ARCHAIC SAMPI, ARCHAIC KOPPA, PAMPHYLIAN DIGAMMA,
     IOTA WITH DIALYTIKA AND TONOS, IOTA WITH DIALYTIKA, IOTA WITH TONOS, IOTA, ALPHA WITH TONOS,
     ALPHA, EPSILON WITH TONOS, EPSILON, ETA WITH TONOS, ETA, UPSILON, BETA, GAMMA, DELTA, ZETA,
     THETA, KAPPA, LAMDA, MU, NU, XI, OMICRON, OMICRON WITH TONOS, PI, RHO, FINAL SIGMA, SIGMA,
     TAU, PHI, CHI, PSI, OMEGA, OMEGA WITH TONOS, STIGMA, DIGAMMA, KOPPA, SAMPI, SHO, SAN"),
   ("GREEK SMALL LETTER UPSILON WITH", "DIALYTIKA AND TONOS, DIALYTIKA, TONOS"),
   ("GREEK SMALL REVERSED", "LUNATE SIGMA SYMBOL, DOTTED LUNATE SIGMA SYMBOL"),
   ("GREEK", "SMALL DOTTED LUNATE SIGMA SYMBOL, NUMERAL SIGN, LOWER NUMERAL SIGN, YPOGEGRAMMENI,
     QUESTION MARK, TONOS, DIALYTIKA TONOS, ANO TELEIA, BETA SYMBOL, THETA SYMBOL, PHI SYMBOL,
     PI SYMBOL, KAI SYMBOL, KAPPA SYMBOL, RHO SYMBOL, RHO WITH STROKE SYMBOL, LUNATE SIGMA SYMBOL,
     LUNATE EPSILON SYMBOL, REVERSED LUNATE EPSILON SYMBOL"),
   ("GREEK UPSILON WITH", "HOOK SYMBOL, ACUTE AND HOOK SYMBOL, DIAERESIS AND HOOK SYMBOL"),
   ("GREEK LETTER", "ARCHAIC KOPPA, STIGMA, DIGAMMA, KOPPA, SAMPI, YOT"),
   ("COPTIC CAPITAL LETTER", "SHEI, FEI, KHEI, HORI, GANGIA, SHIMA, DEI"),
   ("COPTIC SMALL LETTER", "SHEI, FEI, KHEI, HORI, GANGIA, SHIMA, DEI"),
   ("CYRILLIC CAPITAL LETTER", "IE WITH GRAVE, IE WITH BREVE, IE, IO, DJE, GJE, UKRAINIAN IE, DZE,
     BYELORUSSIAN-UKRAINIAN I, YI, JE, LJE, NJE, TSHE, KJE, I WITH GRAVE, I WITH MACRON,
     I WITH DIAERESIS, I, SHORT U, SHORT I, SHORT I WITH TAIL, DZHE, A, A WITH BREVE,
     A WITH DIAERESIS, BE, VE, GHE, DE, ZHE, ZHE WITH DESCENDER, ZHE WITH BREVE,
     ZHE WITH DIAERESIS, ZE, ZE WITH DESCENDER, ZE WITH DIAERESIS, KA, KA WITH DESCENDER,
     KA WITH VERTICAL STROKE, KA WITH STROKE, KA WITH HOOK, EL, EL WITH TAIL, EM, EM WITH TAIL,
     EN, EN WITH DESCENDER, EN WITH HOOK, EN WITH TAIL, O, O WITH DIAERESIS, PE,
     PE WITH MIDDLE HOOK, ER, ER WITH TICK, ES, ES WITH DESCENDER, TE, TE WITH DESCENDER, U,
     U WITH MACRON, U WITH DIAERESIS, U WITH DOUBLE ACUTE, EF, HA, HA WITH DESCENDER,
     HA WITH HOOK, HA WITH STROKE, TSE, CHE, CHE WITH DESCENDER, CHE WITH VERTICAL STROKE,
     CHE WITH DIAERESIS, SHA, SHCHA, HARD SIGN, YERU, YERU WITH DIAERESIS, SOFT SIGN, E,
     E WITH DIAERESIS, YU, YA, OMEGA, OMEGA WITH TITLO, YAT, IOTIFIED E, IOTIFIED LITTLE YUS,
     IOTIFIED BIG YUS, LITTLE YUS, BIG YUS, KSI, PSI, FITA, IZHITSA,
     IZHITSA WITH DOUBLE GRAVE ACCENT, UK, ROUND OMEGA, OT, KOPPA, SEMISOFT SIGN, BASHKIR KA,
     STRAIGHT U, STRAIGHT U WITH STROKE, SHHA, KHAKASSIAN CHE, SCHWA, SCHWA WITH DIAERESIS,
     BARRED O, BARRED O WITH DIAERESIS"),
   ("CYRILLIC CAPITAL LETTER GHE WITH", "UPTURN, STROKE, STROKE AND HOOK, MIDDLE HOOK,
     DESCENDER"),
   ("CYRILLIC CAPITAL LETTER ABKHASIAN", "HA, CHE, CHE WITH DESCENDER, DZE"),
   ("CYRILLIC CAPITAL LIGATURE", "EN GHE, TE TSE, A IE"),
   ("CYRILLIC SMALL LETTER", "A, A WITH BREVE, A WITH DIAERESIS, BE, VE, GHE, DE, IE,
     IE WITH GRAVE, IE WITH BREVE, ZHE, ZHE WITH DESCENDER, ZHE WITH BREVE, ZHE WITH DIAERESIS,
     ZE, ZE WITH DESCENDER, ZE WITH DIAERESIS, I, I WITH GRAVE, I WITH MACRON, I WITH DIAERESIS,
     SHORT I, SHORT I WITH TAIL, SHORT U, KA, KA WITH DESCENDER, KA WITH VERTICAL STROKE,
     KA WITH STROKE, KA WITH HOOK, EL, EL WITH TAIL, EM, EM WITH TAIL, EN, EN WITH DESCENDER,
     EN WITH HOOK, EN WITH TAIL, O, O WITH DIAERESIS, PE, PE WITH MIDDLE HOOK, ER, ER WITH TICK,
     ES, ES WITH DESCENDER, TE, TE WITH DESCENDER, U, U WITH MACRON, U WITH DIAERESIS,
     U WITH DOUBLE ACUTE, EF, HA, HA WITH DESCENDER, HA WITH HOOK, HA WITH STROKE, TSE, CHE,
     CHE WITH DESCENDER, CHE WITH VERTICAL STROKE, CHE WITH DIAERESIS, SHA, SHCHA, HARD SIGN,
     YERU, YERU WITH DIAERESIS, SOFT SIGN, E, E WITH DIAERESIS, YU, YA, IO, DJE, GJE,
     UKRAINIAN IE, DZE, BYELORUSSIAN-UKRAINIAN I, YI, JE, LJE, NJE, TSHE, KJE, DZHE, OMEGA,
     OMEGA WITH TITLO, YAT, IOTIFIED E, IOTIFIED LITTLE YUS, IOTIFIED BIG YUS, LITTLE YUS,
     BIG YUS, KSI, PSI, FITA, IZHITSA, IZHITSA WITH DOUBLE GRAVE ACCENT, UK, ROUND OMEGA, OT,
     KOPPA, SEMISOFT SIGN, BASHKIR KA, STRAIGHT U, STRAIGHT U WITH STROKE, SHHA, KHAKASSIAN CHE,
     PALOCHKA, SCHWA, SCHWA WITH DIAERESIS, BARRED O, BARRED O WITH DIAERESIS"),
   ("CYRILLIC SMALL LETTER GHE WITH", "UPTURN, STROKE, STROKE AND HOOK, MIDDLE HOOK, DESCENDER"),
   ("CYRILLIC SMALL LETTER ABKHASIAN", "HA, CHE, CHE WITH DESCENDER, DZE"),
   ("CYRILLIC SMALL LIGATURE", "EN GHE, TE TSE, A IE"),
   ("CYRILLIC", "THOUSANDS SIGN, LETTER PALOCHKA"),
   ("ARMENIAN CAPITAL LETTER", "AYB, BEN, GIM, DA, ECH, ZA, EH, ET, TO, ZHE, INI, LIWN, XEH, CA,
     KEN, HO, JA, GHAD, CHEH, MEN, YI, NOW, SHA, VO, CHA, PEH, JHEH, RA, SEH, VEW, TIWN, REH, CO,
     YIWN, PIWR, KEH, OH, FEH"),
   ("ARMENIAN", "MODIFIER LETTER LEFT HALF RING, APOSTROPHE, EMPHASIS MARK, EXCLAMATION MARK,
     COMMA, QUESTION MARK, ABBREVIATION MARK, SMALL LIGATURE ECH YIWN"),
   ("ARMENIAN SMALL LETTER", "TURNED AYB, AYB, BEN, GIM, DA, ECH, ZA, EH, ET, TO, ZHE, INI, LIWN,
     XEH, CA, KEN, HO, JA, GHAD, CHEH, MEN, YI, NOW, SHA, VO, CHA, PEH, JHEH, RA, SEH, VEW, TIWN,
     REH, CO, YIWN, PIWR, KEH, OH, FEH"),
   ("HEBREW LETTER", "ALEF, BET, GIMEL, DALET, HE, VAV, ZAYIN, HET, TET, YOD, KAF, LAMED, MEM,
     NUN, SAMEKH, AYIN, PE, TSADI, QOF, RESH, SHIN, TAV"),
   ("HEBREW LETTER FINAL", "KAF, MEM, NUN, PE, TSADI"),
   ("ARABIC LETTER", "HAMZA, ALEF, ALEF MAKSURA, WAW WITH HAMZA ABOVE, WAW, YEH WITH HAMZA ABOVE,
     YEH, BEH, TEH MARBUTA, TEH, THEH, JEEM, HAH, KHAH, DAL, THAL, REH, ZAIN, SEEN, SHEEN, SAD,
     DAD, TAH, ZAH, AIN, GHAIN, KEHEH WITH TWO DOTS ABOVE, KEHEH WITH THREE DOTS BELOW, FEH, QAF,
     KAF, LAM, MEEM, NOON, HEH"),
   ("ARABIC LETTER ALEF WITH", "MADDA ABOVE, HAMZA ABOVE, HAMZA BELOW"),
   ("ARABIC LETTER FARSI YEH WITH", "INVERTED V, TWO DOTS ABOVE, THREE DOTS ABOVE")]

private def letterNamesPart3 : List (String × String) :=
  [("DEVANAGARI LETTER", "SHORT A, SHORT E, SHORT O, A, AA, I, II, U, UU, VOCALIC R, VOCALIC L,
     CANDRA E, CANDRA O, E, AI, O, AU, KA, KHA, GA, GHA, NGA, CA, CHA, JA, JHA, NYA, TTA, TTHA,
     DDA, DDHA, NNA, TA, THA, DA, DHA, NA, NNNA, PA, PHA, BA, BHA, MA, YA, RA, RRA, LA, LLA, LLLA,
     VA, SHA, SSA, SA, HA"),
   ("GEORGIAN LETTER", "AN, BAN, GAN, DON, EN, VIN, ZEN, TAN, IN, KAN, LAS, MAN, NAR, ON, PAR,
     ZHAR, RAE, SAN, TAR, UN, PHAR, KHAR, GHAN, QAR, SHIN, CHIN, CAN, JIL, CIL, CHAR, XAN, JHAN,
     HAE, HE, HIE, WE, HAR, HOE, FI, YN, ELIFI, TURNED GAN, AIN"),
   ("HIRAGANA LETTER SMALL", "A, I, U, E, O, TU, YA, YU, YO, WA, KA, KE"),
   ("HIRAGANA LETTER", "A, I, U, E, O, KA, GA, KI, GI, KU, GU, KE, GE, KO, GO, SA, ZA, SI, ZI, SU,
     ZU, SE, ZE, SO, ZO, TA, DA, TI, DI, TU, DU, TE, DE, TO, DO, NA, NI, NU, NE, NO, HA, BA, PA,
     HI, BI, PI, HU, BU, PU, HE, BE, PE, HO, BO, PO, MA, MI, MU, ME, MO, YA, YU, YO, RA, RI, RU,
     RE, RO, WA, WI, WE, WO, N, VU"),
   ("HIRAGANA", "ITERATION MARK, VOICED ITERATION MARK, DIGRAPH YORI"),
   ("KATAKANA-HIRAGANA", "VOICED SOUND MARK, SEMI-VOICED SOUND MARK, DOUBLE HYPHEN,
     PROLONGED SOUND MARK"),
   ("KATAKANA LETTER SMALL", "A, I, U, E, O, TU, YA, YU, YO, WA, KA, KE"),
   ("KATAKANA LETTER", "A, I, U, E, O, KA, GA, KI, GI, KU, GU, KE, GE, KO, GO, SA, ZA, SI, ZI, SU,
     ZU, SE, ZE, SO, ZO, TA, DA, TI, DI, TU, DU, TE, DE, TO, DO, NA, NI, NU, NE, NO, HA, BA, PA,
     HI, BI, PI, HU, BU, PU, HE, BE, PE, HO, BO, PO, MA, MI, MU, ME, MO, YA, YU, YO, RA, RI, RU,
     RE, RO, WA, WI, WE, WO, N, VU, VA, VI, VE, VO"),
   ("KATAKANA", "MIDDLE DOT, ITERATION MARK, VOICED ITERATION MARK, DIGRAPH KOTO")]

/-- The names of letters and marks. -/
def letterNames : List (String × String) :=
  [letterNamesPart1, letterNamesPart2, letterNamesPart3].flatten

end InteropGen.Text
