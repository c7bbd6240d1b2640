/-!
# Characters by name

The names of the characters that people write in patterns by name: those of ASCII and the western
languages, Greek and Russian letters, punctuation and currencies, arrows, and a few signs and faces.
A name counts without regard to the case of its letters.
-/

namespace MailTriage.Pattern

/-- Names of successive characters, joined by semicolons, with the code point of the first. -/
def nameRows : List (Nat × String) :=
  [(0x20, "SPACE;EXCLAMATION MARK;QUOTATION MARK;NUMBER SIGN;DOLLAR SIGN;PERCENT SIGN;AMPERSAND"),
   (0x27, "APOSTROPHE;LEFT PARENTHESIS;RIGHT PARENTHESIS;ASTERISK;PLUS SIGN;COMMA;HYPHEN-MINUS"),
   (0x2e, "FULL STOP;SOLIDUS;DIGIT ZERO;DIGIT ONE;DIGIT TWO;DIGIT THREE;DIGIT FOUR;DIGIT FIVE"),
   (0x36, "DIGIT SIX;DIGIT SEVEN;DIGIT EIGHT;DIGIT NINE;COLON;SEMICOLON;LESS-THAN SIGN"),
   (0x3d, "EQUALS SIGN;GREATER-THAN SIGN;QUESTION MARK;COMMERCIAL AT"),
   (0x5b, "LEFT SQUARE BRACKET;REVERSE SOLIDUS;RIGHT SQUARE BRACKET;CIRCUMFLEX ACCENT;LOW LINE"),
   (0x60, "GRAVE ACCENT"),
   (0x7b, "LEFT CURLY BRACKET;VERTICAL LINE;RIGHT CURLY BRACKET;TILDE"),
   (0xa0, "NO-BREAK SPACE;INVERTED EXCLAMATION MARK;CENT SIGN;POUND SIGN;CURRENCY SIGN;YEN SIGN"),
   (0xa6, "BROKEN BAR;SECTION SIGN;DIAERESIS;COPYRIGHT SIGN;FEMININE ORDINAL INDICATOR"),
   (0xab, "LEFT-POINTING DOUBLE ANGLE QUOTATION MARK;NOT SIGN;SOFT HYPHEN;REGISTERED SIGN"),
   (0xaf, "MACRON;DEGREE SIGN;PLUS-MINUS SIGN;SUPERSCRIPT TWO;SUPERSCRIPT THREE;ACUTE ACCENT"),
   (0xb5, "MICRO SIGN;PILCROW SIGN;MIDDLE DOT;CEDILLA;SUPERSCRIPT ONE"),
   (0xba, "MASCULINE ORDINAL INDICATOR;RIGHT-POINTING DOUBLE ANGLE QUOTATION MARK"),
   (0xbc, "VULGAR FRACTION ONE QUARTER;VULGAR FRACTION ONE HALF;VULGAR FRACTION THREE QUARTERS"),
   (0xbf, "INVERTED QUESTION MARK;LATIN CAPITAL LETTER A WITH GRAVE"),
   (0xc1, "LATIN CAPITAL LETTER A WITH ACUTE;LATIN CAPITAL LETTER A WITH CIRCUMFLEX"),
   (0xc3, "LATIN CAPITAL LETTER A WITH TILDE;LATIN CAPITAL LETTER A WITH DIAERESIS"),
   (0xc5, "LATIN CAPITAL LETTER A WITH RING ABOVE;LATIN CAPITAL LETTER AE"),
   (0xc7, "LATIN CAPITAL LETTER C WITH CEDILLA;LATIN CAPITAL LETTER E WITH GRAVE"),
   (0xc9, "LATIN CAPITAL LETTER E WITH ACUTE;LATIN CAPITAL LETTER E WITH CIRCUMFLEX"),
   (0xcb, "LATIN CAPITAL LETTER E WITH DIAERESIS;LATIN CAPITAL LETTER I WITH GRAVE"),
   (0xcd, "LATIN CAPITAL LETTER I WITH ACUTE;LATIN CAPITAL LETTER I WITH CIRCUMFLEX"),
   (0xcf, "LATIN CAPITAL LETTER I WITH DIAERESIS;LATIN CAPITAL LETTER ETH"),
   (0xd1, "LATIN CAPITAL LETTER N WITH TILDE;LATIN CAPITAL LETTER O WITH GRAVE"),
   (0xd3, "LATIN CAPITAL LETTER O WITH ACUTE;LATIN CAPITAL LETTER O WITH CIRCUMFLEX"),
   (0xd5, "LATIN CAPITAL LETTER O WITH TILDE;LATIN CAPITAL LETTER O WITH DIAERESIS"),
   (0xd7, "MULTIPLICATION SIGN;LATIN CAPITAL LETTER O WITH STROKE"),
   (0xd9, "LATIN CAPITAL LETTER U WITH GRAVE;LATIN CAPITAL LETTER U WITH ACUTE"),
   (0xdb, "LATIN CAPITAL LETTER U WITH CIRCUMFLEX;LATIN CAPITAL LETTER U WITH DIAERESIS"),
   (0xdd, "LATIN CAPITAL LETTER Y WITH ACUTE;LATIN CAPITAL LETTER THORN"),
   (0xdf, "LATIN SMALL LETTER SHARP S;LATIN SMALL LETTER A WITH GRAVE"),
   (0xe1, "LATIN SMALL LETTER A WITH ACUTE;LATIN SMALL LETTER A WITH CIRCUMFLEX"),
   (0xe3, "LATIN SMALL LETTER A WITH TILDE;LATIN SMALL LETTER A WITH DIAERESIS"),
   (0xe5, "LATIN SMALL LETTER A WITH RING ABOVE;LATIN SMALL LETTER AE"),
   (0xe7, "LATIN SMALL LETTER C WITH CEDILLA;LATIN SMALL LETTER E WITH GRAVE"),
   (0xe9, "LATIN SMALL LETTER E WITH ACUTE;LATIN SMALL LETTER E WITH CIRCUMFLEX"),
   (0xeb, "LATIN SMALL LETTER E WITH DIAERESIS;LATIN SMALL LETTER I WITH GRAVE"),
   (0xed, "LATIN SMALL LETTER I WITH ACUTE;LATIN SMALL LETTER I WITH CIRCUMFLEX"),
   (0xef, "LATIN SMALL LETTER I WITH DIAERESIS;LATIN SMALL LETTER ETH"),
   (0xf1, "LATIN SMALL LETTER N WITH TILDE;LATIN SMALL LETTER O WITH GRAVE"),
   (0xf3, "LATIN SMALL LETTER O WITH ACUTE;LATIN SMALL LETTER O WITH CIRCUMFLEX"),
   (0xf5, "LATIN SMALL LETTER O WITH TILDE;LATIN SMALL LETTER O WITH DIAERESIS;DIVISION SIGN"),
   (0xf8, "LATIN SMALL LETTER O WITH STROKE;LATIN SMALL LETTER U WITH GRAVE"),
   (0xfa, "LATIN SMALL LETTER U WITH ACUTE;LATIN SMALL LETTER U WITH CIRCUMFLEX"),
   (0xfc, "LATIN SMALL LETTER U WITH DIAERESIS;LATIN SMALL LETTER Y WITH ACUTE"),
   (0xfe, "LATIN SMALL LETTER THORN;LATIN SMALL LETTER Y WITH DIAERESIS"),
   (0x152, "LATIN CAPITAL LIGATURE OE;LATIN SMALL LIGATURE OE"),
   (0x160, "LATIN CAPITAL LETTER S WITH CARON;LATIN SMALL LETTER S WITH CARON"),
   (0x178, "LATIN CAPITAL LETTER Y WITH DIAERESIS"),
   (0x17d, "LATIN CAPITAL LETTER Z WITH CARON;LATIN SMALL LETTER Z WITH CARON"),
   (0x391, "GREEK CAPITAL LETTER ALPHA;GREEK CAPITAL LETTER BETA;GREEK CAPITAL LETTER GAMMA"),
   (0x394, "GREEK CAPITAL LETTER DELTA;GREEK CAPITAL LETTER EPSILON;GREEK CAPITAL LETTER ZETA"),
   (0x397, "GREEK CAPITAL LETTER ETA;GREEK CAPITAL LETTER THETA;GREEK CAPITAL LETTER IOTA"),
   (0x39a, "GREEK CAPITAL LETTER KAPPA;GREEK CAPITAL LETTER LAMDA;GREEK CAPITAL LETTER MU"),
   (0x39d, "GREEK CAPITAL LETTER NU;GREEK CAPITAL LETTER XI;GREEK CAPITAL LETTER OMICRON"),
   (0x3a0, "GREEK CAPITAL LETTER PI;GREEK CAPITAL LETTER RHO"),
   (0x3a3, "GREEK CAPITAL LETTER SIGMA;GREEK CAPITAL LETTER TAU;GREEK CAPITAL LETTER UPSILON"),
   (0x3a6, "GREEK CAPITAL LETTER PHI;GREEK CAPITAL LETTER CHI;GREEK CAPITAL LETTER PSI"),
   (0x3a9, "GREEK CAPITAL LETTER OMEGA"),
   (0x3b1, "GREEK SMALL LETTER ALPHA;GREEK SMALL LETTER BETA;GREEK SMALL LETTER GAMMA"),
   (0x3b4, "GREEK SMALL LETTER DELTA;GREEK SMALL LETTER EPSILON;GREEK SMALL LETTER ZETA"),
   (0x3b7, "GREEK SMALL LETTER ETA;GREEK SMALL LETTER THETA;GREEK SMALL LETTER IOTA"),
   (0x3ba, "GREEK SMALL LETTER KAPPA;GREEK SMALL LETTER LAMDA;GREEK SMALL LETTER MU"),
   (0x3bd, "GREEK SMALL LETTER NU;GREEK SMALL LETTER XI;GREEK SMALL LETTER OMICRON"),
   (0x3c0, "GREEK SMALL LETTER PI;GREEK SMALL LETTER RHO;GREEK SMALL LETTER FINAL SIGMA"),
   (0x3c3, "GREEK SMALL LETTER SIGMA;GREEK SMALL LETTER TAU;GREEK SMALL LETTER UPSILON"),
   (0x3c6, "GREEK SMALL LETTER PHI;GREEK SMALL LETTER CHI;GREEK SMALL LETTER PSI"),
   (0x3c9, "GREEK SMALL LETTER OMEGA"),
   (0x401, "CYRILLIC CAPITAL LETTER IO"),
   (0x410, "CYRILLIC CAPITAL LETTER A;CYRILLIC CAPITAL LETTER BE;CYRILLIC CAPITAL LETTER VE"),
   (0x413, "CYRILLIC CAPITAL LETTER GHE;CYRILLIC CAPITAL LETTER DE;CYRILLIC CAPITAL LETTER IE"),
   (0x416, "CYRILLIC CAPITAL LETTER ZHE;CYRILLIC CAPITAL LETTER ZE;CYRILLIC CAPITAL LETTER I"),
   (0x419, "CYRILLIC CAPITAL LETTER SHORT I;CYRILLIC CAPITAL LETTER KA"),
   (0x41b, "CYRILLIC CAPITAL LETTER EL;CYRILLIC CAPITAL LETTER EM;CYRILLIC CAPITAL LETTER EN"),
   (0x41e, "CYRILLIC CAPITAL LETTER O;CYRILLIC CAPITAL LETTER PE;CYRILLIC CAPITAL LETTER ER"),
   (0x421, "CYRILLIC CAPITAL LETTER ES;CYRILLIC CAPITAL LETTER TE;CYRILLIC CAPITAL LETTER U"),
   (0x424, "CYRILLIC CAPITAL LETTER EF;CYRILLIC CAPITAL LETTER HA;CYRILLIC CAPITAL LETTER TSE"),
   (0x427, "CYRILLIC CAPITAL LETTER CHE;CYRILLIC CAPITAL LETTER SHA"),
   (0x429, "CYRILLIC CAPITAL LETTER SHCHA;CYRILLIC CAPITAL LETTER HARD SIGN"),
   (0x42b, "CYRILLIC CAPITAL LETTER YERU;CYRILLIC CAPITAL LETTER SOFT SIGN"),
   (0x42d, "CYRILLIC CAPITAL LETTER E;CYRILLIC CAPITAL LETTER YU;CYRILLIC CAPITAL LETTER YA"),
   (0x430, "CYRILLIC SMALL LETTER A;CYRILLIC SMALL LETTER BE;CYRILLIC SMALL LETTER VE"),
   (0x433, "CYRILLIC SMALL LETTER GHE;CYRILLIC SMALL LETTER DE;CYRILLIC SMALL LETTER IE"),
   (0x436, "CYRILLIC SMALL LETTER ZHE;CYRILLIC SMALL LETTER ZE;CYRILLIC SMALL LETTER I"),
   (0x439, "CYRILLIC SMALL LETTER SHORT I;CYRILLIC SMALL LETTER KA;CYRILLIC SMALL LETTER EL"),
   (0x43c, "CYRILLIC SMALL LETTER EM;CYRILLIC SMALL LETTER EN;CYRILLIC SMALL LETTER O"),
   (0x43f, "CYRILLIC SMALL LETTER PE;CYRILLIC SMALL LETTER ER;CYRILLIC SMALL LETTER ES"),
   (0x442, "CYRILLIC SMALL LETTER TE;CYRILLIC SMALL LETTER U;CYRILLIC SMALL LETTER EF"),
   (0x445, "CYRILLIC SMALL LETTER HA;CYRILLIC SMALL LETTER TSE;CYRILLIC SMALL LETTER CHE"),
   (0x448, "CYRILLIC SMALL LETTER SHA;CYRILLIC SMALL LETTER SHCHA"),
   (0x44a, "CYRILLIC SMALL LETTER HARD SIGN;CYRILLIC SMALL LETTER YERU"),
   (0x44c, "CYRILLIC SMALL LETTER SOFT SIGN;CYRILLIC SMALL LETTER E;CYRILLIC SMALL LETTER YU"),
   (0x44f, "CYRILLIC SMALL LETTER YA"),
   (0x451, "CYRILLIC SMALL LETTER IO"),
   (0x2002, "EN SPACE;EM SPACE;THREE-PER-EM SPACE;FOUR-PER-EM SPACE;SIX-PER-EM SPACE;FIGURE SPACE"),
   (0x2008, "PUNCTUATION SPACE;THIN SPACE;HAIR SPACE;ZERO WIDTH SPACE;ZERO WIDTH NON-JOINER"),
   (0x200d, "ZERO WIDTH JOINER;LEFT-TO-RIGHT MARK;RIGHT-TO-LEFT MARK;HYPHEN;NON-BREAKING HYPHEN"),
   (0x2012, "FIGURE DASH;EN DASH;EM DASH;HORIZONTAL BAR;DOUBLE VERTICAL LINE;DOUBLE LOW LINE"),
   (0x2018, "LEFT SINGLE QUOTATION MARK;RIGHT SINGLE QUOTATION MARK;SINGLE LOW-9 QUOTATION MARK"),
   (0x201b, "SINGLE HIGH-REVERSED-9 QUOTATION MARK;LEFT DOUBLE QUOTATION MARK"),
   (0x201d, "RIGHT DOUBLE QUOTATION MARK;DOUBLE LOW-9 QUOTATION MARK"),
   (0x201f, "DOUBLE HIGH-REVERSED-9 QUOTATION MARK;DAGGER;DOUBLE DAGGER;BULLET;TRIANGULAR BULLET"),
   (0x2024, "ONE DOT LEADER;TWO DOT LEADER;HORIZONTAL ELLIPSIS;HYPHENATION POINT;LINE SEPARATOR"),
   (0x2029, "PARAGRAPH SEPARATOR;LEFT-TO-RIGHT EMBEDDING;RIGHT-TO-LEFT EMBEDDING"),
   (0x202c, "POP DIRECTIONAL FORMATTING;LEFT-TO-RIGHT OVERRIDE;RIGHT-TO-LEFT OVERRIDE"),
   (0x202f, "NARROW NO-BREAK SPACE;PER MILLE SIGN;PER TEN THOUSAND SIGN;PRIME;DOUBLE PRIME"),
   (0x2034, "TRIPLE PRIME;REVERSED PRIME;REVERSED DOUBLE PRIME;REVERSED TRIPLE PRIME;CARET"),
   (0x2039, "SINGLE LEFT-POINTING ANGLE QUOTATION MARK;SINGLE RIGHT-POINTING ANGLE QUOTATION MARK"),
   (0x20a0, "EURO-CURRENCY SIGN;COLON SIGN;CRUZEIRO SIGN;FRENCH FRANC SIGN;LIRA SIGN;MILL SIGN"),
   (0x20a6, "NAIRA SIGN;PESETA SIGN;RUPEE SIGN;WON SIGN;NEW SHEQEL SIGN;DONG SIGN;EURO SIGN"),
   (0x20ad, "KIP SIGN;TUGRIK SIGN;DRACHMA SIGN;GERMAN PENNY SIGN;PESO SIGN;GUARANI SIGN"),
   (0x20b3, "AUSTRAL SIGN;HRYVNIA SIGN;CEDI SIGN;LIVRE TOURNOIS SIGN;SPESMILO SIGN;TENGE SIGN"),
   (0x20b9, "INDIAN RUPEE SIGN;TURKISH LIRA SIGN;NORDIC MARK SIGN;MANAT SIGN;RUBLE SIGN;LARI SIGN"),
   (0x20bf, "BITCOIN SIGN"),
   (0x2122, "TRADE MARK SIGN"),
   (0x2190, "LEFTWARDS ARROW;UPWARDS ARROW;RIGHTWARDS ARROW;DOWNWARDS ARROW;LEFT RIGHT ARROW"),
   (0x2195, "UP DOWN ARROW;NORTH WEST ARROW;NORTH EAST ARROW;SOUTH EAST ARROW;SOUTH WEST ARROW"),
   (0x2212, "MINUS SIGN"),
   (0x221a, "SQUARE ROOT"),
   (0x221e, "INFINITY"),
   (0x2248, "ALMOST EQUAL TO"),
   (0x2260, "NOT EQUAL TO"),
   (0x2264, "LESS-THAN OR EQUAL TO;GREATER-THAN OR EQUAL TO"),
   (0x25cf, "BLACK CIRCLE"),
   (0x2600, "BLACK SUN WITH RAYS;CLOUD;UMBRELLA;SNOWMAN;COMET;BLACK STAR;WHITE STAR"),
   (0x2611, "BALLOT BOX WITH CHECK"),
   (0x263a, "WHITE SMILING FACE"),
   (0x2660, "BLACK SPADE SUIT;WHITE HEART SUIT;WHITE DIAMOND SUIT;BLACK CLUB SUIT"),
   (0x2664, "WHITE SPADE SUIT;BLACK HEART SUIT;BLACK DIAMOND SUIT;WHITE CLUB SUIT"),
   (0x26a0, "WARNING SIGN;HIGH VOLTAGE SIGN"),
   (0x2705, "WHITE HEAVY CHECK MARK"),
   (0x2709, "ENVELOPE"),
   (0x2713, "CHECK MARK;HEAVY CHECK MARK;MULTIPLICATION X;HEAVY MULTIPLICATION X;BALLOT X"),
   (0x274c, "CROSS MARK"),
   (0x2764, "HEAVY BLACK HEART"),
   (0xfeff, "ZERO WIDTH NO-BREAK SPACE"),
   (0xfffd, "REPLACEMENT CHARACTER"),
   (0x1f389, "PARTY POPPER"),
   (0x1f44b, "WAVING HAND SIGN;OK HAND SIGN;THUMBS UP SIGN;THUMBS DOWN SIGN;CLAPPING HANDS SIGN"),
   (0x1f4a9, "PILE OF POO"),
   (0x1f4e7, "E-MAIL SYMBOL;INCOMING ENVELOPE;ENVELOPE WITH DOWNWARDS ARROW ABOVE"),
   (0x1f525, "FIRE"),
   (0x1f600, "GRINNING FACE;GRINNING FACE WITH SMILING EYES;FACE WITH TEARS OF JOY"),
   (0x1f603, "SMILING FACE WITH OPEN MOUTH;SMILING FACE WITH OPEN MOUTH AND SMILING EYES"),
   (0x1f605, "SMILING FACE WITH OPEN MOUTH AND COLD SWEAT"),
   (0x1f606, "SMILING FACE WITH OPEN MOUTH AND TIGHTLY-CLOSED EYES;SMILING FACE WITH HALO"),
   (0x1f608, "SMILING FACE WITH HORNS;WINKING FACE;SMILING FACE WITH SMILING EYES"),
   (0x1f60b, "FACE SAVOURING DELICIOUS FOOD;RELIEVED FACE;SMILING FACE WITH HEART-SHAPED EYES"),
   (0x1f60e, "SMILING FACE WITH SUNGLASSES;SMIRKING FACE;NEUTRAL FACE;EXPRESSIONLESS FACE"),
   (0x1f612, "UNAMUSED FACE;FACE WITH COLD SWEAT;PENSIVE FACE;CONFUSED FACE;CONFOUNDED FACE"),
   (0x1f617, "KISSING FACE;FACE THROWING A KISS;KISSING FACE WITH SMILING EYES"),
   (0x1f61a, "KISSING FACE WITH CLOSED EYES;FACE WITH STUCK-OUT TONGUE"),
   (0x1f61c, "FACE WITH STUCK-OUT TONGUE AND WINKING EYE"),
   (0x1f61d, "FACE WITH STUCK-OUT TONGUE AND TIGHTLY-CLOSED EYES;DISAPPOINTED FACE;WORRIED FACE"),
   (0x1f620, "ANGRY FACE;POUTING FACE;CRYING FACE;PERSEVERING FACE;FACE WITH LOOK OF TRIUMPH"),
   (0x1f625, "DISAPPOINTED BUT RELIEVED FACE;FROWNING FACE WITH OPEN MOUTH;ANGUISHED FACE"),
   (0x1f628, "FEARFUL FACE;WEARY FACE;SLEEPY FACE;TIRED FACE;GRIMACING FACE;LOUDLY CRYING FACE"),
   (0x1f62e, "FACE WITH OPEN MOUTH;HUSHED FACE;FACE WITH OPEN MOUTH AND COLD SWEAT"),
   (0x1f631, "FACE SCREAMING IN FEAR;ASTONISHED FACE;FLUSHED FACE;SLEEPING FACE;DIZZY FACE"),
   (0x1f636, "FACE WITHOUT MOUTH;FACE WITH MEDICAL MASK;GRINNING CAT FACE WITH SMILING EYES"),
   (0x1f639, "CAT FACE WITH TEARS OF JOY;SMILING CAT FACE WITH OPEN MOUTH"),
   (0x1f63b, "SMILING CAT FACE WITH HEART-SHAPED EYES;CAT FACE WITH WRY SMILE"),
   (0x1f63d, "KISSING CAT FACE WITH CLOSED EYES;POUTING CAT FACE;CRYING CAT FACE;WEARY CAT FACE"),
   (0x1f641,
     "SLIGHTLY FROWNING FACE;SLIGHTLY SMILING FACE;UPSIDE-DOWN FACE;FACE WITH ROLLING EYES"),
   (0x1f645, "FACE WITH NO GOOD GESTURE;FACE WITH OK GESTURE;PERSON BOWING DEEPLY"),
   (0x1f648, "SEE-NO-EVIL MONKEY;HEAR-NO-EVIL MONKEY;SPEAK-NO-EVIL MONKEY"),
   (0x1f64b, "HAPPY PERSON RAISING ONE HAND;PERSON RAISING BOTH HANDS IN CELEBRATION"),
   (0x1f64d, "PERSON FROWNING;PERSON WITH POUTING FACE;PERSON WITH FOLDED HANDS"),
   (0x1f680, "ROCKET"),
   (0x1f923, "ROLLING ON THE FLOOR LAUGHING")]

def otherNames : List (String × Nat) :=
  [("NULL", 0x0), ("ALERT", 0x7), ("BACKSPACE", 0x8), ("CHARACTER TABULATION", 0x9),
   ("LINE FEED", 0xa), ("LINE TABULATION", 0xb), ("FORM FEED", 0xc), ("CARRIAGE RETURN", 0xd),
   ("ESCAPE", 0x1b), ("DELETE", 0x7f), ("NEXT LINE", 0x85), ("TAB", 0x9),
   ("HORIZONTAL TABULATION", 0x9), ("HT", 0x9), ("NEW LINE", 0xa), ("END OF LINE", 0xa),
   ("LF", 0xa), ("NL", 0xa), ("EOL", 0xa), ("FF", 0xc), ("CR", 0xd), ("ESC", 0x1b), ("DEL", 0x7f),
   ("NUL", 0x0), ("NBSP", 0xa0), ("SHY", 0xad), ("SP", 0x20), ("ZWSP", 0x200b), ("ZWNJ", 0x200c),
   ("ZWJ", 0x200d), ("LRM", 0x200e), ("RLM", 0x200f), ("BOM", 0xfeff), ("ZWNBSP", 0xfeff),
   ("BYTE ORDER MARK", 0xfeff), ("NNBSP", 0x202f)]

def indexOfName? (name : List Char) : List (List Char) → Option Nat
  | [] => none
  | other :: rest => if other = name then some 0 else (indexOfName? name rest).map (· + 1)

def namesOf (row : List Char) : List (List Char) :=
  let next (c : Char) (names : List (List Char)) : List (List Char) :=
    if c = ';' then [] :: names
    else
      match names with
      | [] => [[c]]
      | name :: rest => (c :: name) :: rest
  row.foldr next [[]]

def letterNamed? (name : List Char) : Option Nat :=
  let letterAfter? (start : String) : Option Char :=
    if start.toList.isPrefixOf name then
      match name.drop start.length with
      | [c] => if c.isUpper then some c else none
      | _ => none
    else none
  match letterAfter? "LATIN CAPITAL LETTER ", letterAfter? "LATIN SMALL LETTER " with
  | some c, _ => some c.toNat
  | _, some c => some c.toLower.toNat
  | _, _ => none

def rowNamed? (name : List Char) : Option Nat :=
  nameRows.findSome? fun (first, row) =>
    (indexOfName? name (namesOf row.toList)).map fun index => first + index

def characterNamed? (name : String) : Option Nat :=
  let upper := name.toList.map Char.toUpper
  ((letterNamed? upper).or (rowNamed? upper)).or (otherNames.lookup (String.ofList upper))

end MailTriage.Pattern
