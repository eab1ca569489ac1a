/-!
# Names of punctuation, digits and symbols

Each group is the words that its names begin with, and their endings between commas.
-/

namespace InteropGen.Text

private def symbolNamesPart1 : List (String × String) :=
  [("", "SPACE, QUOTATION MARK, DOLLAR SIGN, PERCENT SIGN, AMPERSAND, APOSTROPHE, ASTERISK,
     ASTERISK OPERATOR, PLUS SIGN, COMMA, HYPHEN-MINUS, SOLIDUS, COLON, COLON SIGN, COLON EQUALS,
     SEMICOLON, REVERSE SOLIDUS, REVERSE SOLIDUS PRECEDING SUBSET, CIRCUMFLEX ACCENT,
     GRAVE ACCENT, TILDE, TILDE OPERATOR, NO-BREAK SPACE, CENT SIGN, POUND SIGN, CURRENCY SIGN,
     YEN SIGN, SECTION SIGN, DIAERESIS, COPYRIGHT SIGN, SOFT HYPHEN, REGISTERED SIGN, MACRON,
     PLUS-MINUS SIGN, ACUTE ACCENT, PILCROW SIGN, MIDDLE DOT, CEDILLA, THREE-PER-EM SPACE,
     FOUR-PER-EM SPACE, SIX-PER-EM SPACE, PUNCTUATION SPACE, THIN SPACE, HAIR SPACE, HYPHEN,
     HYPHEN BULLET, NON-BREAKING HYPHEN, DAGGER, BULLET, BULLET OPERATOR, TRIANGULAR BULLET,
     ONE DOT LEADER, TWO ASTERISKS ALIGNED VERTICALLY, HYPHENATION POINT, LINE SEPARATOR,
     PARAGRAPH SEPARATOR, NARROW NO-BREAK SPACE, PRIME, CARET, CARET INSERTION POINT,
     REFERENCE MARK, INTERROBANG, OVERLINE, UNDERTIE, CHARACTER TIE, ASTERISM, TIRONIAN SIGN ET,
     CLOSE UP, SWUNG DASH, FLOWER PUNCTUATION MARK, QUADRUPLE PRIME, FIVE DOT PUNCTUATION,
     DOTTED CROSS, TRICOLON, WORD JOINER, FUNCTION APPLICATION, FIRST STRONG ISOLATE,
     NATIONAL DIGIT SHAPES, NOMINAL DIGIT SHAPES, LATIN SMALL LETTER REVERSED C,
     EURO-CURRENCY SIGN, CRUZEIRO SIGN, FRENCH FRANC SIGN, LIRA SIGN, MILL SIGN, NAIRA SIGN,
     PESETA SIGN, RUPEE SIGN, WON SIGN, NEW SHEQEL SIGN, DONG SIGN, EURO SIGN, KIP SIGN,
     TUGRIK SIGN, DRACHMA SIGN, GERMAN PENNY SIGN, PESO SIGN, GUARANI SIGN, AUSTRAL SIGN,
     HRYVNIA SIGN, CEDI SIGN, LIVRE TOURNOIS SIGN, SPESMILO SIGN, TENGE SIGN, INDIAN RUPEE SIGN,
     TURKISH LIRA SIGN, NORDIC MARK SIGN, MANAT SIGN, RUBLE SIGN, LARI SIGN, BITCOIN SIGN,
     SOM SIGN, ACCOUNT OF, ADDRESSED TO THE SUBJECT, CENTRE LINE SYMBOL, CARE OF, CADA UNA,
     EULER CONSTANT, SCRUPLE, PLANCK CONSTANT, PLANCK CONSTANT OVER TWO PI, L B BAR SYMBOL,
     NUMERO SIGN, SOUND RECORDING COPYRIGHT, PRESCRIPTION TAKE, RESPONSE, SERVICE MARK,
     TRADE MARK SIGN, VERSICLE, OUNCE SIGN, OHM SIGN, KELVIN SIGN, ANGSTROM SIGN,
     ESTIMATED SYMBOL, ALEF SYMBOL, BET SYMBOL, GIMEL SYMBOL, DALET SYMBOL, INFORMATION SOURCE,
     ROTATED CAPITAL Q, FACSIMILE SIGN, PROPERTY LINE, AKTIESELSKAB, SMALL ELEMENT OF, FOR ALL,
     COMPLEMENT, PARTIAL DIFFERENTIAL, EMPTY SET, INCREMENT, NABLA, ELEMENT OF,
     ELEMENT OF OPENING UPWARDS, END OF PROOF, MINUS-OR-PLUS SIGN, SET MINUS, CUBE ROOT,
     FOURTH ROOT, PROPORTIONAL TO, INFINITY, ANGLE, SPHERICAL ANGLE, DIVIDES, PARALLEL TO,
     INTERSECTION, UNION, INTEGRAL, INTEGRAL EXTENSION, CONTOUR INTEGRAL, SURFACE INTEGRAL,
     VOLUME INTEGRAL, THEREFORE, BECAUSE, RATIO, PROPORTION, EXCESS, GEOMETRIC PROPORTION,
     HOMOTHETIC, SINE WAVE, WREATH PRODUCT, ASYMPTOTICALLY EQUAL TO, EQUIVALENT TO,
     DIFFERENCE BETWEEN, APPROACHES THE LIMIT, IMAGE OF OR APPROXIMATELY EQUAL TO, IMAGE OF,
     CORRESPONDS TO, ESTIMATES, EQUIANGULAR TO, DELTA EQUAL TO, QUESTIONED EQUAL TO, IDENTICAL TO,
     STRICTLY EQUIVALENT TO, BETWEEN, PRECEDES, PRECEDES UNDER RELATION,
     PRECEDES BUT NOT EQUIVALENT TO, SUCCEEDS, SUCCEEDS UNDER RELATION,
     SUCCEEDS BUT NOT EQUIVALENT TO, SUBSET OF, SUBSET OF OR EQUAL TO,
     SUBSET OF WITH NOT EQUAL TO, MULTISET, MULTISET MULTIPLICATION, MULTISET UNION, ASSERTION,
     MODELS, TRUE, FORCES, NEGATED DOUBLE VERTICAL BAR DOUBLE RIGHT TURNSTILE, NORMAL SUBGROUP OF,
     NORMAL SUBGROUP OF OR EQUAL TO, MULTIMAP, HERMITIAN CONJUGATE MATRIX, INTERCALATE, XOR, NAND,
     NOR, DIAMOND OPERATOR, BOWTIE, CURLY BRACKET EXTENSION, PITCHFORK,
     MIDLINE HORIZONTAL ELLIPSIS, Z NOTATION BAG MEMBERSHIP, DIAMETER SIGN, ELECTRIC ARROW, HOUSE,
     PROJECTIVE, PERSPECTIVE, ARC, SEGMENT, SECTOR, POSITION INDICATOR, VIEWDATA SQUARE,
     PLACE OF INTEREST SIGN, WATCH, HOURGLASS, HOURGLASS WITH FLOWING SAND, FROWN, SMILE,
     OPTION KEY, X IN A RECTANGLE BOX, KEYBOARD, BENZENE RING, BENZENE RING WITH CIRCLE,
     CYLINDRICITY, SYMMETRY, TOTAL RUNOUT, DIMENSION ORIGIN, CONICAL TAPER, SLOPE, COUNTERBORE,
     COUNTERSINK, SHOULDERED OPEN BOX, BELL SYMBOL, INSERTION SYMBOL, CONTINUOUS UNDERLINE SYMBOL,
     DISCONTINUOUS UNDERLINE SYMBOL, EMPHASIS SYMBOL, COMPOSITION SYMBOL, ENTER SYMBOL,
     ALTERNATIVE KEY SYMBOL, HELM SYMBOL, UNDO SYMBOL, MONOSTABLE SYMBOL, HYSTERESIS SYMBOL,
     PASSIVE-PULL-DOWN-OUTPUT SYMBOL, PASSIVE-PULL-UP-OUTPUT SYMBOL,
     DIRECT CURRENT SYMBOL FORM TWO, SOFTWARE-FUNCTION SYMBOL, PREVIOUS PAGE, NEXT PAGE,
     PRINT SCREEN SYMBOL, CLEAR SCREEN SYMBOL, RADICAL SYMBOL BOTTOM, RETURN SYMBOL, EJECT SYMBOL,
     EARTH GROUND, FUSE, STRAIGHTNESS, FLATNESS, AC CURRENT, ELECTRICAL INTERSECTION, ALARM CLOCK,
     STOPWATCH, TIMER CLOCK, OBSERVER EYE SYMBOL, BLANK SYMBOL, NEGATIVE CIRCLED DIGIT ZERO,
     LIGHT SHADE, DARK SHADE, PERPENDICULAR, OR WITH DOT INSIDE, AND WITH DOT,
     LOZENGE DIVIDED BY HORIZONTAL RULE, DITTO MARK, JAPANESE INDUSTRIAL STANDARD SYMBOL,
     POSTAL MARK, POSTAL MARK FACE, GETA MARK, WAVE DASH, MASU MARK, PART ALTERNATION MARK"),
   ("EXCLAMATION", "MARK, QUESTION MARK"),
   ("NUMBER", "SIGN, TEN FULL STOP, ELEVEN FULL STOP, TWELVE FULL STOP, THIRTEEN FULL STOP,
     FOURTEEN FULL STOP, FIFTEEN FULL STOP, SIXTEEN FULL STOP, SEVENTEEN FULL STOP,
     EIGHTEEN FULL STOP, NINETEEN FULL STOP, TWENTY FULL STOP"),
   ("LEFT", "PARENTHESIS, PARENTHESIS UPPER HOOK, PARENTHESIS EXTENSION, PARENTHESIS LOWER HOOK,
     SQUARE BRACKET, SQUARE BRACKET WITH QUILL, SQUARE BRACKET UPPER CORNER,
     SQUARE BRACKET EXTENSION, SQUARE BRACKET LOWER CORNER, CURLY BRACKET,
     CURLY BRACKET UPPER HOOK, CURLY BRACKET MIDDLE PIECE, CURLY BRACKET LOWER HOOK,
     SINGLE QUOTATION MARK, DOUBLE QUOTATION MARK, DOUBLE ANGLE BRACKET, TACK,
     NORMAL FACTOR SEMIDIRECT PRODUCT, SEMIDIRECT PRODUCT, CEILING, FLOOR, VERTICAL BOX LINE,
     SEVEN EIGHTHS BLOCK, THREE QUARTERS BLOCK, THREE EIGHTHS BLOCK, FIVE EIGHTHS BLOCK,
     HALF BLOCK, ONE QUARTER BLOCK, ONE EIGHTH BLOCK, S-SHAPED BAG DELIMITER, OUTER JOIN,
     MULTIMAP, ANGLE BRACKET, CORNER BRACKET, BLACK LENTICULAR BRACKET, TORTOISE SHELL BRACKET"),
   ("LEFT RIGHT", "ARROW, WAVE ARROW, DOUBLE ARROW WITH STROKE, DOUBLE ARROW, OPEN-HEADED ARROW"),
   ("LEFT RIGHT ARROW WITH", "STROKE, VERTICAL STROKE, DOUBLE VERTICAL STROKE"),
   ("LEFT AND RIGHT", "DOUBLE TURNSTILE, TACK"),
   ("LEFT WHITE", "CORNER BRACKET, LENTICULAR BRACKET, TORTOISE SHELL BRACKET, SQUARE BRACKET"),
   ("RIGHT", "PARENTHESIS, PARENTHESIS UPPER HOOK, PARENTHESIS EXTENSION, PARENTHESIS LOWER HOOK,
     SQUARE BRACKET, SQUARE BRACKET WITH QUILL, SQUARE BRACKET UPPER CORNER,
     SQUARE BRACKET EXTENSION, SQUARE BRACKET LOWER CORNER, CURLY BRACKET,
     CURLY BRACKET UPPER HOOK, CURLY BRACKET MIDDLE PIECE, CURLY BRACKET LOWER HOOK,
     SINGLE QUOTATION MARK, DOUBLE QUOTATION MARK, DOUBLE ANGLE BRACKET, ANGLE, ANGLE BRACKET,
     TACK, TRIANGLE, NORMAL FACTOR SEMIDIRECT PRODUCT, SEMIDIRECT PRODUCT, CEILING, FLOOR,
     VERTICAL BOX LINE, HALF BLOCK, ONE EIGHTH BLOCK, S-SHAPED BAG DELIMITER, OUTER JOIN,
     CORNER BRACKET, BLACK LENTICULAR BRACKET, TORTOISE SHELL BRACKET"),
   ("RIGHT ARROW WITH", "SMALL CIRCLE, CIRCLED PLUS"),
   ("RIGHT ANGLE WITH", "ARC, DOWNWARDS ZIGZAG ARROW"),
   ("RIGHT WHITE", "CORNER BRACKET, LENTICULAR BRACKET, TORTOISE SHELL BRACKET, SQUARE BRACKET"),
   ("FULL", "STOP, BLOCK, OUTER JOIN"),
   ("DIGIT", "ZERO, ONE, ONE FULL STOP, TWO, TWO FULL STOP, THREE, THREE FULL STOP, FOUR,
     FOUR FULL STOP, FIVE, FIVE FULL STOP, SIX, SIX FULL STOP, SEVEN, SEVEN FULL STOP, EIGHT,
     EIGHT FULL STOP, NINE, NINE FULL STOP"),
   ("LESS-THAN", "SIGN, OR EQUAL TO, OR EQUIVALENT TO, OR GREATER-THAN, OVER EQUAL TO,
     BUT NOT EQUAL TO, BUT NOT EQUIVALENT TO, WITH DOT, EQUAL TO OR GREATER-THAN"),
   ("EQUALS", "SIGN, COLON"),
   ("GREATER-THAN", "SIGN, OR EQUAL TO, OR EQUIVALENT TO, OR LESS-THAN, OVER EQUAL TO,
     BUT NOT EQUAL TO, BUT NOT EQUIVALENT TO, WITH DOT, EQUAL TO OR LESS-THAN"),
   ("QUESTION", "MARK, EXCLAMATION MARK"),
   ("COMMERCIAL", "AT, MINUS SIGN"),
   ("LOW", "LINE, ASTERISK, DOUBLE PRIME QUOTATION MARK"),
   ("VERTICAL", "LINE, LINE WITH MIDDLE DOT, LINE EXTENSION, FOUR DOTS, ELLIPSIS,
     BAR WITH HORIZONTAL STROKE, IDEOGRAPHIC ITERATION MARK"),
   ("VERTICAL KANA REPEAT", "MARK, MARK UPPER HALF, MARK LOWER HALF, WITH VOICED SOUND MARK,
     WITH VOICED SOUND MARK UPPER HALF"),
   ("INVERTED", "EXCLAMATION MARK, QUESTION MARK, UNDERTIE, OHM SIGN, LAZY S"),
   ("BROKEN", "BAR, CIRCLE WITH NORTHWEST ARROW"),
   ("LEFT-POINTING", "DOUBLE ANGLE QUOTATION MARK, ANGLE BRACKET"),
   ("NOT", "SIGN, AN ELEMENT OF, PARALLEL TO, TILDE, ASYMPTOTICALLY EQUAL TO, ALMOST EQUAL TO,
     EQUAL TO, IDENTICAL TO, EQUIVALENT TO, LESS-THAN, GREATER-THAN, A SUBSET OF, A SUPERSET OF,
     TRUE, SQUARE IMAGE OF OR EQUAL TO, NORMAL SUBGROUP OF, NORMAL SUBGROUP OF OR EQUAL TO,
     CHECK MARK"),
   ("DEGREE", "SIGN, CELSIUS, FAHRENHEIT"),
   ("SUPERSCRIPT", "TWO, THREE, ONE, ZERO, FOUR, FIVE, SIX, SEVEN, EIGHT, NINE, PLUS SIGN, MINUS,
     EQUALS SIGN, LEFT PARENTHESIS, RIGHT PARENTHESIS"),
   ("SUPERSCRIPT LATIN SMALL LETTER", "I, N"),
   ("RIGHT-POINTING", "DOUBLE ANGLE QUOTATION MARK, ANGLE BRACKET"),
   ("VULGAR FRACTION ONE", "QUARTER, HALF, SEVENTH, NINTH, TENTH, THIRD, FIFTH, SIXTH, EIGHTH"),
   ("VULGAR FRACTION", "THREE QUARTERS, THREE FIFTHS, THREE EIGHTHS, TWO THIRDS, TWO FIFTHS,
     FOUR FIFTHS, FIVE SIXTHS, FIVE EIGHTHS, SEVEN EIGHTHS, ZERO THIRDS"),
   ("EN", "QUAD, SPACE, DASH"),
   ("EM", "QUAD, SPACE, DASH"),
   ("FIGURE", "SPACE, DASH"),
   ("ZERO WIDTH", "SPACE, NON-JOINER, JOINER"),
   ("LEFT-TO-RIGHT", "MARK, EMBEDDING, OVERRIDE, ISOLATE"),
   ("RIGHT-TO-LEFT", "MARK, EMBEDDING, OVERRIDE, ISOLATE"),
   ("HORIZONTAL", "BAR, ELLIPSIS, LINE EXTENSION"),
   ("HORIZONTAL SCAN", "LINE-1, LINE-3, LINE-7, LINE-9"),
   ("DOUBLE VERTICAL", "LINE, BAR DOUBLE RIGHT TURNSTILE, BAR"),
   ("DOUBLE", "LOW LINE, LOW-9 QUOTATION MARK, HIGH-REVERSED-9 QUOTATION MARK, DAGGER, PRIME,
     PRIME QUOTATION MARK, EXCLAMATION MARK, QUESTION MARK, INTEGRAL, SUBSET, SUPERSET,
     INTERSECTION, UNION, CIRCLED NUMBER TEN"),
   ("DOUBLE CIRCLED DIGIT", "ONE, TWO, THREE, FOUR, FIVE, SIX, SEVEN, EIGHT, NINE"),
   ("SINGLE", "LOW-9 QUOTATION MARK, HIGH-REVERSED-9 QUOTATION MARK,
     LEFT-POINTING ANGLE QUOTATION MARK, RIGHT-POINTING ANGLE QUOTATION MARK")]

private def symbolNamesPart2 : List (String × String) :=
  [("TWO DOT", "LEADER, PUNCTUATION"),
   ("POP DIRECTIONAL", "FORMATTING, ISOLATE"),
   ("PER", "MILLE SIGN, TEN THOUSAND SIGN, SIGN"),
   ("TRIPLE", "PRIME, INTEGRAL, TILDE, VERTICAL BAR RIGHT TURNSTILE"),
   ("REVERSED", "PRIME, DOUBLE PRIME, DOUBLE PRIME QUOTATION MARK, TRIPLE PRIME, PILCROW SIGN,
     SEMICOLON, SANS-SERIF CAPITAL L, TILDE, TILDE EQUALS, NOT SIGN"),
   ("FRACTION", "SLASH, NUMERATOR ONE"),
   ("BLACK", "LEFTWARDS BULLET, RIGHTWARDS BULLET, LEFT-POINTING DOUBLE TRIANGLE,
     LEFT-POINTING DOUBLE TRIANGLE WITH VERTICAL BAR, UP-POINTING DOUBLE TRIANGLE,
     DOWN-POINTING DOUBLE TRIANGLE, SQUARE FOR STOP, CIRCLE FOR RECORD"),
   ("BLACK RIGHT-POINTING", "DOUBLE TRIANGLE, DOUBLE TRIANGLE WITH VERTICAL BAR,
     TRIANGLE WITH DOUBLE VERTICAL BAR"),
   ("BLACK MEDIUM", "LEFT-POINTING TRIANGLE, RIGHT-POINTING TRIANGLE, UP-POINTING TRIANGLE,
     DOWN-POINTING TRIANGLE"),
   ("THREE", "DOT PUNCTUATION, RIGHTWARDS ARROWS, DIMENSIONAL ANGLE"),
   ("FOUR DOT", "PUNCTUATION, MARK"),
   ("MEDIUM", "MATHEMATICAL SPACE, SHADE"),
   ("INVISIBLE", "TIMES, SEPARATOR, PLUS"),
   ("INHIBIT", "SYMMETRIC SWAPPING, ARABIC FORM SHAPING"),
   ("ACTIVATE", "SYMMETRIC SWAPPING, ARABIC FORM SHAPING"),
   ("SUBSCRIPT", "ZERO, ONE, TWO, THREE, FOUR, FIVE, SIX, SEVEN, EIGHT, NINE, PLUS SIGN, MINUS,
     EQUALS SIGN, LEFT PARENTHESIS, RIGHT PARENTHESIS"),
   ("LATIN SUBSCRIPT SMALL LETTER", "A, E, O, X, SCHWA, H, K, L, M, N, P, S, T"),
   ("COMBINING LEFT", "HARPOON ABOVE, ARROW ABOVE, ARROW BELOW, RIGHT ARROW ABOVE"),
   ("COMBINING", "RIGHT HARPOON ABOVE, RIGHT ARROW ABOVE, RIGHT ARROW BELOW,
     LONG VERTICAL LINE OVERLAY, LONG DOUBLE SOLIDUS OVERLAY, SHORT VERTICAL LINE OVERLAY,
     CLOCKWISE ARROW ABOVE, CLOCKWISE RING OVERLAY, RING OVERLAY, THREE DOTS ABOVE,
     FOUR DOTS ABOVE, REVERSE SOLIDUS OVERLAY, DOUBLE VERTICAL STROKE OVERLAY, ANNUITY SYMBOL,
     TRIPLE UNDERDOT, WIDE BRIDGE ABOVE, LEFTWARDS ARROW OVERLAY,
     LEFTWARDS HARPOON WITH BARB DOWNWARDS, RIGHTWARDS HARPOON WITH BARB DOWNWARDS,
     ASTERISK ABOVE"),
   ("COMBINING ANTICLOCKWISE", "ARROW ABOVE, RING OVERLAY"),
   ("COMBINING ENCLOSING", "CIRCLE, CIRCLE BACKSLASH, SQUARE, DIAMOND, SCREEN, KEYCAP,
     UPWARD POINTING TRIANGLE"),
   ("DOUBLE-STRUCK CAPITAL", "C, H, N, P, Q, R, Z, GAMMA, PI"),
   ("DOUBLE-STRUCK", "SMALL PI, SMALL GAMMA, N-ARY SUMMATION, ITALIC CAPITAL D"),
   ("DOUBLE-STRUCK ITALIC SMALL", "D, E, I, J"),
   ("SCRIPT SMALL", "G, L, E, O"),
   ("SCRIPT CAPITAL", "H, I, L, P, R, B, E, F, M"),
   ("BLACK-LETTER CAPITAL", "H, I, R, Z, C"),
   ("TELEPHONE", "SIGN, RECORDER"),
   ("TURNED", "GREEK SMALL LETTER IOTA, CAPITAL F, AMPERSAND, SMALL F, DIGIT TWO, DIGIT THREE,
     NOT SIGN"),
   ("TURNED SANS-SERIF CAPITAL", "G, L, Y"),
   ("SYMBOL FOR", "SAMARITAN SOURCE, NULL, START OF HEADING, START OF TEXT, ENQUIRY, ACKNOWLEDGE,
     BELL, BACKSPACE, HORIZONTAL TABULATION, LINE FEED, VERTICAL TABULATION, FORM FEED,
     CARRIAGE RETURN, SHIFT OUT, SHIFT IN, DATA LINK ESCAPE, NEGATIVE ACKNOWLEDGE,
     SYNCHRONOUS IDLE, CANCEL, SUBSTITUTE, SUBSTITUTE FORM TWO, ESCAPE, FILE SEPARATOR,
     GROUP SEPARATOR, RECORD SEPARATOR, UNIT SEPARATOR, SPACE, DELETE, DELETE FORM TWO, NEWLINE"),
   ("SYMBOL FOR END OF", "TEXT, TRANSMISSION, TRANSMISSION BLOCK, MEDIUM"),
   ("SYMBOL FOR DEVICE CONTROL", "ONE, TWO, THREE, FOUR"),
   ("ROMAN NUMERAL", "ONE, ONE HUNDRED, ONE HUNDRED THOUSAND, ONE THOUSAND, ONE THOUSAND C D, TWO,
     THREE, FOUR, FIVE, FIVE HUNDRED, FIVE THOUSAND, SIX, SIX LATE FORM, SEVEN, EIGHT, NINE, TEN,
     TEN THOUSAND, ELEVEN, TWELVE, FIFTY, FIFTY EARLY FORM, FIFTY THOUSAND,
     REVERSED ONE HUNDRED"),
   ("SMALL ROMAN NUMERAL", "ONE, ONE HUNDRED, ONE THOUSAND, TWO, THREE, FOUR, FIVE, FIVE HUNDRED,
     SIX, SEVEN, EIGHT, NINE, TEN, ELEVEN, TWELVE, FIFTY"),
   ("SMALL ELEMENT OF WITH", "VERTICAL BAR AT END OF HORIZONTAL STROKE, OVERBAR"),
   ("SMALL CONTAINS", "AS MEMBER, WITH VERTICAL BAR AT END OF HORIZONTAL STROKE, WITH OVERBAR"),
   ("LEFTWARDS", "ARROW, ARROW FROM BAR, ARROW TO BAR OVER RIGHTWARDS ARROW TO BAR, ARROW TO BAR,
     ARROW OVER RIGHTWARDS ARROW, WAVE ARROW, TWO HEADED ARROW, HARPOON OVER RIGHTWARDS HARPOON,
     PAIRED ARROWS, DOUBLE ARROW WITH STROKE, DOUBLE ARROW, TRIPLE ARROW, SQUIGGLE ARROW,
     DASHED ARROW, WHITE ARROW, OPEN-HEADED ARROW"),
   ("LEFTWARDS ARROW WITH", "STROKE, TAIL, HOOK, LOOP, VERTICAL STROKE, DOUBLE VERTICAL STROKE"),
   ("LEFTWARDS HARPOON WITH BARB", "UPWARDS, DOWNWARDS"),
   ("UPWARDS", "ARROW, ARROW FROM BAR, ARROW LEFTWARDS OF DOWNWARDS ARROW, TWO HEADED ARROW,
     PAIRED ARROWS, DOUBLE ARROW, DASHED ARROW, QUADRUPLE ARROW"),
   ("UPWARDS ARROW WITH", "TIP LEFTWARDS, TIP RIGHTWARDS, DOUBLE STROKE"),
   ("UPWARDS HARPOON WITH BARB", "RIGHTWARDS, LEFTWARDS"),
   ("UPWARDS WHITE", "ARROW, ARROW FROM BAR, ARROW ON PEDESTAL, DOUBLE ARROW,
     DOUBLE ARROW ON PEDESTAL"),
   ("UPWARDS WHITE ARROW ON PEDESTAL WITH", "HORIZONTAL BAR, VERTICAL BAR"),
   ("RIGHTWARDS", "ARROW, ARROW FROM BAR, ARROW OVER LEFTWARDS ARROW, ARROW TO BAR, WAVE ARROW,
     TWO HEADED ARROW, HARPOON OVER LEFTWARDS HARPOON, PAIRED ARROWS, DOUBLE ARROW WITH STROKE,
     DOUBLE ARROW, TRIPLE ARROW, SQUIGGLE ARROW, DASHED ARROW, WHITE ARROW, WHITE ARROW FROM WALL,
     OPEN-HEADED ARROW"),
   ("RIGHTWARDS ARROW WITH", "STROKE, TAIL, HOOK, LOOP, CORNER DOWNWARDS, VERTICAL STROKE,
     DOUBLE VERTICAL STROKE"),
   ("RIGHTWARDS HARPOON WITH BARB", "UPWARDS, DOWNWARDS"),
   ("DOWNWARDS", "ARROW, ARROW FROM BAR, ARROW LEFTWARDS OF UPWARDS ARROW, TWO HEADED ARROW,
     ZIGZAG ARROW, PAIRED ARROWS, DOUBLE ARROW, DASHED ARROW, WHITE ARROW, QUADRUPLE ARROW"),
   ("DOWNWARDS ARROW WITH", "TIP LEFTWARDS, TIP RIGHTWARDS, CORNER LEFTWARDS, DOUBLE STROKE"),
   ("DOWNWARDS HARPOON WITH BARB", "RIGHTWARDS, LEFTWARDS"),
   ("UP DOWN", "ARROW, ARROW WITH BASE, DOUBLE ARROW, WHITE ARROW"),
   ("UP", "TACK, TACK WITH CIRCLE ABOVE, RIGHT DIAGONAL ELLIPSIS, ARROWHEAD,
     ARROWHEAD BETWEEN TWO HORIZONTAL BARS"),
   ("NORTH WEST", "ARROW, ARROW TO LONG BAR, ARROW TO CORNER, DOUBLE ARROW"),
   ("NORTH EAST", "ARROW, DOUBLE ARROW"),
   ("SOUTH EAST", "ARROW, ARROW TO CORNER, DOUBLE ARROW"),
   ("SOUTH WEST", "ARROW, DOUBLE ARROW"),
   ("ANTICLOCKWISE", "TOP SEMICIRCLE ARROW, OPEN CIRCLE ARROW, CONTOUR INTEGRAL,
     GAPPED CIRCLE ARROW"),
   ("CLOCKWISE", "TOP SEMICIRCLE ARROW, OPEN CIRCLE ARROW, INTEGRAL, CONTOUR INTEGRAL,
     GAPPED CIRCLE ARROW"),
   ("THERE", "EXISTS, DOES NOT EXIST"),
   ("ELEMENT OF WITH", "LONG HORIZONTAL STROKE, VERTICAL BAR AT END OF HORIZONTAL STROKE,
     DOT ABOVE, OVERBAR, UNDERBAR, TWO HORIZONTAL STROKES"),
   ("CONTAINS AS", "MEMBER, NORMAL SUBGROUP, NORMAL SUBGROUP OR EQUAL TO"),
   ("CONTAINS WITH", "LONG HORIZONTAL STROKE, VERTICAL BAR AT END OF HORIZONTAL STROKE, OVERBAR"),
   ("DOES NOT CONTAIN AS", "MEMBER, NORMAL SUBGROUP, NORMAL SUBGROUP OR EQUAL"),
   ("DOES NOT", "DIVIDE, PRECEDE, PRECEDE OR EQUAL, SUCCEED, SUCCEED OR EQUAL, PROVE, FORCE"),
   ("N-ARY", "PRODUCT, COPRODUCT, SUMMATION, LOGICAL AND, LOGICAL OR, INTERSECTION, UNION"),
   ("MINUS", "SIGN, TILDE"),
   ("DOT", "PLUS, MINUS, OPERATOR"),
   ("DIVISION", "SLASH, TIMES"),
   ("RING", "OPERATOR, IN EQUAL TO, EQUAL TO"),
   ("SQUARE", "ROOT, IMAGE OF, CAP, CUP, LOZENGE, FOOT"),
   ("SQUARE IMAGE OF OR", "EQUAL TO, NOT EQUAL TO"),
   ("MEASURED", "ANGLE, BY"),
   ("LOGICAL", "AND, OR"),
   ("APPROXIMATELY", "EQUAL TO, EQUAL TO OR THE IMAGE OF, BUT NOT ACTUALLY EQUAL TO"),
   ("NEITHER", "APPROXIMATELY NOR ACTUALLY EQUAL TO, A SUBSET OF NOR EQUAL TO,
     A SUPERSET OF NOR EQUAL TO"),
   ("NEITHER LESS-THAN NOR", "EQUAL TO, EQUIVALENT TO, GREATER-THAN"),
   ("NEITHER GREATER-THAN NOR", "EQUAL TO, EQUIVALENT TO, LESS-THAN"),
   ("ALMOST EQUAL", "TO, OR EQUAL TO"),
   ("ALL", "EQUAL TO, AROUND-PROFILE"),
   ("GEOMETRICALLY", "EQUIVALENT TO, EQUAL TO"),
   ("STAR", "EQUALS, OPERATOR"),
   ("EQUAL", "TO BY DEFINITION, AND PARALLEL TO"),
   ("EQUAL TO OR", "LESS-THAN, GREATER-THAN, PRECEDES, SUCCEEDS"),
   ("MUCH", "LESS-THAN, GREATER-THAN"),
   ("PRECEDES OR", "EQUAL TO, EQUIVALENT TO"),
   ("SUCCEEDS OR", "EQUAL TO, EQUIVALENT TO"),
   ("SUPERSET", "OF, OF OR EQUAL TO, OF WITH NOT EQUAL TO, PRECEDING SOLIDUS"),
   ("CIRCLED", "PLUS, MINUS, TIMES, DIVISION SLASH, DOT OPERATOR, RING OPERATOR,
     ASTERISK OPERATOR, EQUALS, DASH, HORIZONTAL BAR WITH NOTCH, TRIANGLE DOWN, POSTAL MARK"),
   ("CIRCLED DIGIT", "ONE, TWO, THREE, FOUR, FIVE, SIX, SEVEN, EIGHT, NINE, ZERO"),
   ("CIRCLED NUMBER", "TEN, ELEVEN, TWELVE, THIRTEEN, FOURTEEN, FIFTEEN, SIXTEEN, SEVENTEEN,
     EIGHTEEN, NINETEEN, TWENTY")]

private def symbolNamesPart3 : List (String × String) :=
  [("CIRCLED LATIN CAPITAL LETTER", "A, B, C, D, E, F, G, H, I, J, K, L, M, N, O, P, Q, R, S, T,
     U, V, W, X, Y, Z"),
   ("CIRCLED LATIN SMALL LETTER", "A, B, C, D, E, F, G, H, I, J, K, L, M, N, O, P, Q, R, S, T, U,
     V, W, X, Y, Z"),
   ("SQUARED", "PLUS, MINUS, TIMES, DOT OPERATOR, LOGICAL AND, LOGICAL OR"),
   ("DOWN", "TACK, RIGHT DIAGONAL ELLIPSIS, ARROWHEAD"),
   ("CURLY LOGICAL", "OR, AND"),
   ("VERY MUCH", "LESS-THAN, GREATER-THAN"),
   ("WAVY", "LINE, DASH"),
   ("BOTTOM", "RIGHT CROP, RIGHT CORNER, LEFT CROP, LEFT CORNER, HALF INTEGRAL, SQUARE BRACKET,
     SQUARE BRACKET OVER TOP SQUARE BRACKET, PARENTHESIS, CURLY BRACKET, TORTOISE SHELL BRACKET"),
   ("TOP", "RIGHT CROP, RIGHT CORNER, LEFT CROP, LEFT CORNER, HALF INTEGRAL, SQUARE BRACKET,
     PARENTHESIS, CURLY BRACKET, TORTOISE SHELL BRACKET"),
   ("ERASE TO THE", "RIGHT, LEFT"),
   ("APL FUNCTIONAL SYMBOL", "I-BEAM, SQUISH QUAD, QUAD EQUAL, QUAD DIVIDE, QUAD DIAMOND,
     QUAD JOT, QUAD CIRCLE, QUAD SLASH, QUAD BACKSLASH, QUAD LESS-THAN, QUAD GREATER-THAN,
     QUAD LEFTWARDS ARROW, QUAD RIGHTWARDS ARROW, QUAD DOWN CARET, QUAD DELTA, QUAD UPWARDS ARROW,
     QUAD UP CARET, QUAD DEL, QUAD DOWNWARDS ARROW, QUAD COLON, QUAD NOT EQUAL, QUAD QUESTION,
     QUAD, SLASH BAR, BACKSLASH BAR, LEFTWARDS VANE, RIGHTWARDS VANE, DOWN TACK UNDERBAR,
     DOWN TACK JOT, DOWN SHOE STILE, DOWN CARET TILDE, DELTA STILE, DELTA UNDERBAR, UPWARDS VANE,
     UP TACK OVERBAR, UP TACK JOT, UP TACK DIAERESIS, UP SHOE JOT, UP CARET TILDE, DEL STILE,
     DEL DIAERESIS, DEL TILDE, DOWNWARDS VANE, QUOTE UNDERBAR, QUOTE QUAD, DIAMOND UNDERBAR,
     JOT UNDERBAR, JOT DIAERESIS, STAR DIAERESIS, LEFT SHOE STILE, TILDE DIAERESIS,
     GREATER-THAN DIAERESIS, COMMA BAR, ZILDE, STILE TILDE, SEMICOLON UNDERBAR, IOTA,
     IOTA UNDERBAR, RHO, OMEGA, OMEGA UNDERBAR, ALPHA UNDERBAR, ALPHA, EPSILON UNDERBAR"),
   ("APL FUNCTIONAL SYMBOL CIRCLE", "STILE, JOT, BACKSLASH, UNDERBAR, STAR, DIAERESIS"),
   ("WHITE SQUARE WITH", "CENTRE VERTICAL LINE, LEFTWARDS TICK, RIGHTWARDS TICK"),
   ("WHITE", "TRAPEZIUM, TRIANGLE CONTAINING SMALL WHITE TRIANGLE, DIAMOND WITH CENTRED DOT,
     CONCAVE-SIDED DIAMOND"),
   ("WHITE CONCAVE-SIDED DIAMOND WITH", "LEFTWARDS TICK, RIGHTWARDS TICK"),
   ("OPEN-CIRCUIT-OUTPUT", "H-TYPE SYMBOL, L-TYPE SYMBOL"),
   ("DECIMAL", "SEPARATOR KEY SYMBOL, EXPONENT SYMBOL"),
   ("UPPER", "LEFT OR LOWER RIGHT CURLY BRACKET SECTION, LEFT CORNER WITH DOT,
     RIGHT OR LOWER LEFT CURLY BRACKET SECTION, HALF BLOCK, ONE EIGHTH BLOCK"),
   ("SUMMATION", "TOP, BOTTOM"),
   ("DENTISTRY SYMBOL LIGHT VERTICAL", "AND TOP RIGHT, AND TOP LEFT, AND BOTTOM RIGHT,
     AND BOTTOM LEFT, AND WAVE, WITH CIRCLE, WITH TRIANGLE"),
   ("DENTISTRY SYMBOL LIGHT DOWN AND HORIZONTAL WITH", "CIRCLE, TRIANGLE, WAVE"),
   ("DENTISTRY SYMBOL LIGHT", "DOWN AND HORIZONTAL, UP AND HORIZONTAL"),
   ("DENTISTRY SYMBOL LIGHT UP AND HORIZONTAL WITH", "CIRCLE, TRIANGLE, WAVE"),
   ("METRICAL", "BREVE, LONG OVER SHORT, LONG OVER TWO SHORTS, SHORT OVER LONG,
     TWO SHORTS OVER LONG, TWO SHORTS JOINED, TRISEME, TETRASEME, PENTASEME"),
   ("POWER", "SYMBOL, ON-OFF SYMBOL, ON SYMBOL, SLEEP SYMBOL"),
   ("OPEN", "BOX, SUBSET, SUPERSET"),
   ("OCR", "HOOK, CHAIR, FORK, INVERTED FORK, BELT BUCKLE, BOW TIE, BRANCH BANK IDENTIFICATION,
     AMOUNT OF CHECK, DASH, CUSTOMER ACCOUNT NUMBER, DOUBLE BACKSLASH"),
   ("PARENTHESIZED DIGIT", "ONE, TWO, THREE, FOUR, FIVE, SIX, SEVEN, EIGHT, NINE"),
   ("PARENTHESIZED NUMBER", "TEN, ELEVEN, TWELVE, THIRTEEN, FOURTEEN, FIFTEEN, SIXTEEN, SEVENTEEN,
     EIGHTEEN, NINETEEN, TWENTY"),
   ("PARENTHESIZED LATIN SMALL LETTER", "A, B, C, D, E, F, G, H, I, J, K, L, M, N, O, P, Q, R, S,
     T, U, V, W, X, Y, Z"),
   ("NEGATIVE CIRCLED NUMBER", "ELEVEN, TWELVE, THIRTEEN, FOURTEEN, FIFTEEN, SIXTEEN, SEVENTEEN,
     EIGHTEEN, NINETEEN, TWENTY"),
   ("BOX DRAWINGS LIGHT", "HORIZONTAL, VERTICAL, TRIPLE DASH HORIZONTAL, TRIPLE DASH VERTICAL,
     QUADRUPLE DASH HORIZONTAL, QUADRUPLE DASH VERTICAL, DOWN AND RIGHT, DOWN AND LEFT,
     DOWN AND HORIZONTAL, DOWN, UP AND RIGHT, UP AND LEFT, UP AND HORIZONTAL, UP AND HEAVY DOWN,
     UP, DOUBLE DASH HORIZONTAL, DOUBLE DASH VERTICAL, ARC DOWN AND RIGHT, ARC DOWN AND LEFT,
     ARC UP AND LEFT, ARC UP AND RIGHT, DIAGONAL UPPER RIGHT TO LOWER LEFT,
     DIAGONAL UPPER LEFT TO LOWER RIGHT, DIAGONAL CROSS, LEFT, LEFT AND HEAVY RIGHT, RIGHT"),
   ("BOX DRAWINGS LIGHT VERTICAL AND", "RIGHT, LEFT, HORIZONTAL"),
   ("BOX DRAWINGS HEAVY", "HORIZONTAL, VERTICAL, TRIPLE DASH HORIZONTAL, TRIPLE DASH VERTICAL,
     QUADRUPLE DASH HORIZONTAL, QUADRUPLE DASH VERTICAL, DOWN AND RIGHT, DOWN AND LEFT,
     DOWN AND HORIZONTAL, DOWN, UP AND RIGHT, UP AND LEFT, UP AND HORIZONTAL, UP AND LIGHT DOWN,
     UP, DOUBLE DASH HORIZONTAL, DOUBLE DASH VERTICAL, LEFT, LEFT AND LIGHT RIGHT, RIGHT"),
   ("BOX DRAWINGS HEAVY VERTICAL AND", "RIGHT, LEFT, HORIZONTAL"),
   ("BOX DRAWINGS DOWN LIGHT AND", "RIGHT HEAVY, RIGHT UP HEAVY, LEFT HEAVY, LEFT UP HEAVY,
     HORIZONTAL HEAVY, UP HORIZONTAL HEAVY"),
   ("BOX DRAWINGS DOWN HEAVY AND", "RIGHT LIGHT, RIGHT UP LIGHT, LEFT LIGHT, LEFT UP LIGHT,
     HORIZONTAL LIGHT, UP HORIZONTAL LIGHT"),
   ("BOX DRAWINGS DOWN SINGLE AND", "RIGHT DOUBLE, LEFT DOUBLE, HORIZONTAL DOUBLE"),
   ("BOX DRAWINGS DOWN DOUBLE AND", "RIGHT SINGLE, LEFT SINGLE, HORIZONTAL SINGLE"),
   ("BOX DRAWINGS UP LIGHT AND", "RIGHT HEAVY, RIGHT DOWN HEAVY, LEFT HEAVY, LEFT DOWN HEAVY,
     HORIZONTAL HEAVY, DOWN HORIZONTAL HEAVY"),
   ("BOX DRAWINGS UP HEAVY AND", "RIGHT LIGHT, RIGHT DOWN LIGHT, LEFT LIGHT, LEFT DOWN LIGHT,
     HORIZONTAL LIGHT, DOWN HORIZONTAL LIGHT"),
   ("BOX DRAWINGS UP SINGLE AND", "RIGHT DOUBLE, LEFT DOUBLE, HORIZONTAL DOUBLE"),
   ("BOX DRAWINGS UP DOUBLE AND", "RIGHT SINGLE, LEFT SINGLE, HORIZONTAL SINGLE"),
   ("BOX DRAWINGS VERTICAL LIGHT AND", "RIGHT HEAVY, LEFT HEAVY, HORIZONTAL HEAVY"),
   ("BOX DRAWINGS VERTICAL HEAVY AND", "RIGHT LIGHT, LEFT LIGHT, HORIZONTAL LIGHT"),
   ("BOX DRAWINGS VERTICAL SINGLE AND", "RIGHT DOUBLE, LEFT DOUBLE, HORIZONTAL DOUBLE"),
   ("BOX DRAWINGS VERTICAL DOUBLE AND", "RIGHT SINGLE, LEFT SINGLE, HORIZONTAL SINGLE"),
   ("BOX DRAWINGS LEFT HEAVY AND RIGHT", "DOWN LIGHT, UP LIGHT, VERTICAL LIGHT"),
   ("BOX DRAWINGS LEFT LIGHT AND RIGHT", "DOWN HEAVY, UP HEAVY, VERTICAL HEAVY"),
   ("BOX DRAWINGS", "LEFT UP HEAVY AND RIGHT DOWN LIGHT, LEFT DOWN HEAVY AND RIGHT UP LIGHT,
     RIGHT UP HEAVY AND LEFT DOWN LIGHT, RIGHT DOWN HEAVY AND LEFT UP LIGHT"),
   ("BOX DRAWINGS RIGHT HEAVY AND LEFT", "DOWN LIGHT, UP LIGHT, VERTICAL LIGHT"),
   ("BOX DRAWINGS RIGHT LIGHT AND LEFT", "DOWN HEAVY, UP HEAVY, VERTICAL HEAVY"),
   ("BOX DRAWINGS DOUBLE", "HORIZONTAL, VERTICAL, DOWN AND RIGHT, DOWN AND LEFT,
     DOWN AND HORIZONTAL, UP AND RIGHT, UP AND LEFT, UP AND HORIZONTAL"),
   ("BOX DRAWINGS DOUBLE VERTICAL AND", "RIGHT, LEFT, HORIZONTAL"),
   ("LOWER", "ONE EIGHTH BLOCK, ONE QUARTER BLOCK, THREE EIGHTHS BLOCK, THREE QUARTERS BLOCK,
     HALF BLOCK, FIVE EIGHTHS BLOCK, SEVEN EIGHTHS BLOCK, RIGHT CORNER WITH DOT"),
   ("QUADRANT LOWER", "LEFT, RIGHT"),
   ("QUADRANT UPPER", "LEFT, LEFT AND LOWER LEFT AND LOWER RIGHT, LEFT AND LOWER RIGHT, RIGHT,
     RIGHT AND LOWER LEFT, RIGHT AND LOWER LEFT AND LOWER RIGHT"),
   ("QUADRANT UPPER LEFT AND UPPER RIGHT AND LOWER", "LEFT, RIGHT"),
   ("MATHEMATICAL", "RISING DIAGONAL, FALLING DIAGONAL"),
   ("MATHEMATICAL LEFT", "WHITE SQUARE BRACKET, WHITE TORTOISE SHELL BRACKET, ANGLE BRACKET,
     DOUBLE ANGLE BRACKET, FLATTENED PARENTHESIS"),
   ("MATHEMATICAL RIGHT", "WHITE SQUARE BRACKET, WHITE TORTOISE SHELL BRACKET, ANGLE BRACKET,
     DOUBLE ANGLE BRACKET, FLATTENED PARENTHESIS"),
   ("LONG", "DIVISION, RIGHT TACK, LEFT TACK"),
   ("LONG LEFT RIGHT", "ARROW, DOUBLE ARROW"),
   ("LONG LEFTWARDS", "ARROW, ARROW FROM BAR, DOUBLE ARROW, DOUBLE ARROW FROM BAR"),
   ("LONG RIGHTWARDS", "ARROW, ARROW FROM BAR, DOUBLE ARROW, DOUBLE ARROW FROM BAR,
     SQUIGGLE ARROW"),
   ("LARGE", "UP TACK, DOWN TACK"),
   ("IDEOGRAPHIC", "SPACE, COMMA, FULL STOP, ITERATION MARK, CLOSING MARK, NUMBER ZERO,
     LEVEL TONE MARK, RISING TONE MARK, DEPARTING TONE MARK, ENTERING TONE MARK,
     TELEGRAPH LINE FEED SEPARATOR SYMBOL, VARIATION INDICATOR, HALF FILL SPACE"),
   ("HANGZHOU NUMERAL", "ONE, TWO, THREE, FOUR, FIVE, SIX, SEVEN, EIGHT, NINE, TEN, TWENTY,
     THIRTY"),
   ("HANGUL", "SINGLE DOT TONE MARK, DOUBLE DOT TONE MARK"),
   ("FULLWIDTH", "EXCLAMATION MARK, QUOTATION MARK, NUMBER SIGN, DOLLAR SIGN, PERCENT SIGN,
     AMPERSAND, APOSTROPHE, LEFT PARENTHESIS, RIGHT PARENTHESIS, ASTERISK, PLUS SIGN, COMMA,
     HYPHEN-MINUS, FULL STOP, SOLIDUS")]

/-- The names of punctuation, digits and symbols. -/
def symbolNames : List (String × String) :=
  [symbolNamesPart1, symbolNamesPart2, symbolNamesPart3].flatten

end InteropGen.Text
