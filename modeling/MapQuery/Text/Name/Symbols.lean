/-!
# Names of characters: symbols

The names of the characters from U+2000 to U+FFFF, in the order of their codes (Unicode 14.0), as
`MapQuery.Text.Name` reads them: punctuation, symbols, scripts of the East, and compatible forms.
-/

namespace MapQuery.Text.Name

/-- The names from U+2000 to U+FFFF. -/
def symbols : String :=
  "=2000;EN QUAD;EM QUAD;EN SPACE;EM SPACE;THREE-PER-EM SPACE;FOUR-PER-EM SPACE;SIX-PER-EM SPACE
  FIGURE SPACE;PUNCTUATION SPACE;THIN SPACE;HAIR SPACE;ZERO WIDTH SPACE;bNON-JOINER;bJOINER
  LEFT-TO-RIGHT MARK;RIGHT-TO-LEFT MARK;HYPHEN;NON-BREAKING HYPHEN;FIGURE DASH;EN DASH;EM DASH
  HORIZONTAL BAR;DOUBLE VERTICAL LINE;aLOW LINE;LEFT SINGLE QUOTATION MARK
  RIGHT SINGLE QUOTATION MARK;SINGLE LOW-9 QUOTATION MARK;aHIGH-REVERSED-9 QUOTATION MARK
  LEFT DOUBLE QUOTATION MARK;RIGHT DOUBLE QUOTATION MARK;DOUBLE LOW-9 QUOTATION MARK
  aHIGH-REVERSED-9 QUOTATION MARK;DAGGER;DOUBLE DAGGER;BULLET;TRIANGULAR BULLET;ONE DOT LEADER
  TWO DOT LEADER;HORIZONTAL ELLIPSIS;HYPHENATION POINT;LINE SEPARATOR;PARAGRAPH SEPARATOR
  LEFT-TO-RIGHT EMBEDDING;RIGHT-TO-LEFT EMBEDDING;POP DIRECTIONAL FORMATTING;LEFT-TO-RIGHT OVERRIDE
  RIGHT-TO-LEFT OVERRIDE;NARROW NO-BREAK SPACE;PER MILLE SIGN;aTEN THOUSAND SIGN;PRIME;DOUBLE PRIME
  TRIPLE PRIME;REVERSED PRIME;aDOUBLE PRIME;aTRIPLE PRIME;CARET
  SINGLE LEFT-POINTING ANGLE QUOTATION MARK;aRIGHT-POINTING ANGLE QUOTATION MARK;REFERENCE MARK
  DOUBLE EXCLAMATION MARK;INTERROBANG;OVERLINE;UNDERTIE;CHARACTER TIE;CARET INSERTION POINT
  ASTERISM;HYPHEN BULLET;FRACTION SLASH;LEFT SQUARE BRACKET WITH QUILL
  RIGHT SQUARE BRACKET WITH QUILL;DOUBLE QUESTION MARK;QUESTION EXCLAMATION MARK
  EXCLAMATION QUESTION MARK;TIRONIAN SIGN ET;REVERSED PILCROW SIGN;BLACK LEFTWARDS BULLET
  aRIGHTWARDS BULLET;LOW ASTERISK;REVERSED SEMICOLON;CLOSE UP;TWO ASTERISKS ALIGNED VERTICALLY
  COMMERCIAL MINUS SIGN;SWUNG DASH;INVERTED UNDERTIE;FLOWER PUNCTUATION MARK;THREE DOT PUNCTUATION
  QUADRUPLE PRIME;FOUR DOT PUNCTUATION;FIVE DOT PUNCTUATION;TWO DOT PUNCTUATION;FOUR DOT MARK
  DOTTED CROSS;TRICOLON;VERTICAL FOUR DOTS;MEDIUM MATHEMATICAL SPACE;WORD JOINER
  FUNCTION APPLICATION;INVISIBLE TIMES;aSEPARATOR;aPLUS;=2066;LEFT-TO-RIGHT ISOLATE
  RIGHT-TO-LEFT ISOLATE;FIRST STRONG ISOLATE;POP DIRECTIONAL ISOLATE;INHIBIT SYMMETRIC SWAPPING
  ACTIVATE SYMMETRIC SWAPPING;INHIBIT ARABIC FORM SHAPING;ACTIVATE ARABIC FORM SHAPING
  NATIONAL DIGIT SHAPES;NOMINAL DIGIT SHAPES;SUPERSCRIPT ZERO;aLATIN SMALL LETTER I;=2074;aFOUR
  aFIVE;aSIX;aSEVEN;aEIGHT;aNINE;aPLUS SIGN;aMINUS;aEQUALS SIGN;aLEFT PARENTHESIS
  aRIGHT PARENTHESIS;aLATIN SMALL LETTER N;SUBSCRIPT ZERO;aONE;aTWO;aTHREE;aFOUR;aFIVE;aSIX;aSEVEN
  aEIGHT;aNINE;aPLUS SIGN;aMINUS;aEQUALS SIGN;aLEFT PARENTHESIS;aRIGHT PARENTHESIS;=2090
  LATIN SUBSCRIPT SMALL LETTER A;dE;dO;dX;dSCHWA;dH;dK;dL;dM;dN;dP;dS;dT;=20A0;EURO-CURRENCY SIGN
  COLON SIGN;CRUZEIRO SIGN;FRENCH FRANC SIGN;LIRA SIGN;MILL SIGN;NAIRA SIGN;PESETA SIGN;RUPEE SIGN
  WON SIGN;NEW SHEQEL SIGN;DONG SIGN;EURO SIGN;KIP SIGN;TUGRIK SIGN;DRACHMA SIGN;GERMAN PENNY SIGN
  PESO SIGN;GUARANI SIGN;AUSTRAL SIGN;HRYVNIA SIGN;CEDI SIGN;LIVRE TOURNOIS SIGN;SPESMILO SIGN
  TENGE SIGN;INDIAN RUPEE SIGN;TURKISH LIRA SIGN;NORDIC MARK SIGN;MANAT SIGN;RUBLE SIGN;LARI SIGN
  BITCOIN SIGN;SOM SIGN;=20D0;COMBINING LEFT HARPOON ABOVE;aRIGHT HARPOON ABOVE
  aLONG VERTICAL LINE OVERLAY;aSHORT VERTICAL LINE OVERLAY;aANTICLOCKWISE ARROW ABOVE
  aCLOCKWISE ARROW ABOVE;aLEFT ARROW ABOVE;aRIGHT ARROW ABOVE;aRING OVERLAY;aCLOCKWISE RING OVERLAY
  aANTICLOCKWISE RING OVERLAY;aTHREE DOTS ABOVE;aFOUR DOTS ABOVE;aENCLOSING CIRCLE;bSQUARE;bDIAMOND
  bCIRCLE BACKSLASH;aLEFT RIGHT ARROW ABOVE;aENCLOSING SCREEN;bKEYCAP;bUPWARD POINTING TRIANGLE
  aREVERSE SOLIDUS OVERLAY;aDOUBLE VERTICAL STROKE OVERLAY;aANNUITY SYMBOL;aTRIPLE UNDERDOT
  aWIDE BRIDGE ABOVE;aLEFTWARDS ARROW OVERLAY;aLONG DOUBLE SOLIDUS OVERLAY
  aRIGHTWARDS HARPOON WITH BARB DOWNWARDS;aLEFTWARDS HARPOON WITH BARB DOWNWARDS;aLEFT ARROW BELOW
  aRIGHT ARROW BELOW;aASTERISK ABOVE;=2100;ACCOUNT OF;ADDRESSED TO THE SUBJECT
  DOUBLE-STRUCK CAPITAL C;DEGREE CELSIUS;CENTRE LINE SYMBOL;CARE OF;CADA UNA;EULER CONSTANT;SCRUPLE
  DEGREE FAHRENHEIT;SCRIPT SMALL G;aCAPITAL H;BLACK-LETTER CAPITAL H;DOUBLE-STRUCK CAPITAL H
  PLANCK CONSTANT;bOVER TWO PI;SCRIPT CAPITAL I;BLACK-LETTER CAPITAL I;SCRIPT CAPITAL L;aSMALL L
  L B BAR SYMBOL;DOUBLE-STRUCK CAPITAL N;NUMERO SIGN;SOUND RECORDING COPYRIGHT;SCRIPT CAPITAL P
  DOUBLE-STRUCK CAPITAL P;bQ;SCRIPT CAPITAL R;BLACK-LETTER CAPITAL R;DOUBLE-STRUCK CAPITAL R
  PRESCRIPTION TAKE;RESPONSE;SERVICE MARK;TELEPHONE SIGN;TRADE MARK SIGN;VERSICLE
  DOUBLE-STRUCK CAPITAL Z;OUNCE SIGN;OHM SIGN;INVERTED OHM SIGN;BLACK-LETTER CAPITAL Z
  TURNED GREEK SMALL LETTER IOTA;KELVIN SIGN;ANGSTROM SIGN;SCRIPT CAPITAL B;BLACK-LETTER CAPITAL C
  ESTIMATED SYMBOL;SCRIPT SMALL E;aCAPITAL E;bF;TURNED CAPITAL F;SCRIPT CAPITAL M;aSMALL O
  ALEF SYMBOL;BET SYMBOL;GIMEL SYMBOL;DALET SYMBOL;INFORMATION SOURCE;ROTATED CAPITAL Q
  FACSIMILE SIGN;DOUBLE-STRUCK SMALL PI;bGAMMA;aCAPITAL GAMMA;bPI;aN-ARY SUMMATION
  TURNED SANS-SERIF CAPITAL G;cL;REVERSED SANS-SERIF CAPITAL L;TURNED SANS-SERIF CAPITAL Y
  DOUBLE-STRUCK ITALIC CAPITAL D;bSMALL D;cE;cI;cJ;PROPERTY LINE;TURNED AMPERSAND;PER SIGN
  AKTIESELSKAB;TURNED SMALL F;SYMBOL FOR SAMARITAN SOURCE;VULGAR FRACTION ONE SEVENTH;cNINTH;cTENTH
  cTHIRD;bTWO THIRDS;bONE FIFTH;bTWO FIFTHS;bTHREE FIFTHS;bFOUR FIFTHS;bONE SIXTH;bFIVE SIXTHS
  bONE EIGHTH;bTHREE EIGHTHS;bFIVE EIGHTHS;bSEVEN EIGHTHS;FRACTION NUMERATOR ONE;ROMAN NUMERAL ONE
  bTWO;bTHREE;bFOUR;bFIVE;bSIX;bSEVEN;bEIGHT;bNINE;bTEN;bELEVEN;bTWELVE;bFIFTY;bONE HUNDRED
  bFIVE HUNDRED;bONE THOUSAND;SMALL ROMAN NUMERAL ONE;cTWO;cTHREE;cFOUR;cFIVE;cSIX;cSEVEN;cEIGHT
  cNINE;cTEN;cELEVEN;cTWELVE;cFIFTY;cONE HUNDRED;cFIVE HUNDRED;cONE THOUSAND
  ROMAN NUMERAL ONE THOUSAND C D;bFIVE THOUSAND;bTEN THOUSAND;bREVERSED ONE HUNDRED
  LATIN SMALL LETTER REVERSED C;ROMAN NUMERAL SIX LATE FORM;bFIFTY EARLY FORM;cTHOUSAND
  bONE HUNDRED THOUSAND;VULGAR FRACTION ZERO THIRDS;TURNED DIGIT TWO;bTHREE;=2190;LEFTWARDS ARROW
  UPWARDS ARROW;RIGHTWARDS ARROW;DOWNWARDS ARROW;LEFT RIGHT ARROW;UP DOWN ARROW;NORTH WEST ARROW
  aEAST ARROW;SOUTH EAST ARROW;aWEST ARROW;LEFTWARDS ARROW WITH STROKE;RIGHTWARDS ARROW WITH STROKE
  LEFTWARDS WAVE ARROW;RIGHTWARDS WAVE ARROW;LEFTWARDS TWO HEADED ARROW;UPWARDS TWO HEADED ARROW
  RIGHTWARDS TWO HEADED ARROW;DOWNWARDS TWO HEADED ARROW;LEFTWARDS ARROW WITH TAIL
  RIGHTWARDS ARROW WITH TAIL;LEFTWARDS ARROW FROM BAR;UPWARDS ARROW FROM BAR
  RIGHTWARDS ARROW FROM BAR;DOWNWARDS ARROW FROM BAR;UP DOWN ARROW WITH BASE
  LEFTWARDS ARROW WITH HOOK;RIGHTWARDS ARROW WITH HOOK;LEFTWARDS ARROW WITH LOOP
  RIGHTWARDS ARROW WITH LOOP;LEFT RIGHT WAVE ARROW;bARROW WITH STROKE;DOWNWARDS ZIGZAG ARROW
  UPWARDS ARROW WITH TIP LEFTWARDS;dRIGHTWARDS;DOWNWARDS ARROW WITH TIP LEFTWARDS;dRIGHTWARDS
  RIGHTWARDS ARROW WITH CORNER DOWNWARDS;DOWNWARDS ARROW WITH CORNER LEFTWARDS
  ANTICLOCKWISE TOP SEMICIRCLE ARROW;CLOCKWISE TOP SEMICIRCLE ARROW;NORTH WEST ARROW TO LONG BAR
  LEFTWARDS ARROW TO BAR OVER RIGHTWARDS ARROW TO BAR;ANTICLOCKWISE OPEN CIRCLE ARROW
  CLOCKWISE OPEN CIRCLE ARROW;LEFTWARDS HARPOON WITH BARB UPWARDS;dDOWNWARDS
  UPWARDS HARPOON WITH BARB RIGHTWARDS;dLEFTWARDS;RIGHTWARDS HARPOON WITH BARB UPWARDS;dDOWNWARDS
  DOWNWARDS HARPOON WITH BARB RIGHTWARDS;dLEFTWARDS;RIGHTWARDS ARROW OVER LEFTWARDS ARROW
  UPWARDS ARROW LEFTWARDS OF DOWNWARDS ARROW;LEFTWARDS ARROW OVER RIGHTWARDS ARROW;aPAIRED ARROWS
  UPWARDS PAIRED ARROWS;RIGHTWARDS PAIRED ARROWS;DOWNWARDS PAIRED ARROWS
  LEFTWARDS HARPOON OVER RIGHTWARDS HARPOON;RIGHTWARDS HARPOON OVER LEFTWARDS HARPOON
  LEFTWARDS DOUBLE ARROW WITH STROKE;LEFT RIGHT DOUBLE ARROW WITH STROKE
  RIGHTWARDS DOUBLE ARROW WITH STROKE;LEFTWARDS DOUBLE ARROW;UPWARDS DOUBLE ARROW
  RIGHTWARDS DOUBLE ARROW;DOWNWARDS DOUBLE ARROW;LEFT RIGHT DOUBLE ARROW;UP DOWN DOUBLE ARROW
  NORTH WEST DOUBLE ARROW;aEAST DOUBLE ARROW;SOUTH EAST DOUBLE ARROW;aWEST DOUBLE ARROW
  LEFTWARDS TRIPLE ARROW;RIGHTWARDS TRIPLE ARROW;LEFTWARDS SQUIGGLE ARROW;RIGHTWARDS SQUIGGLE ARROW
  UPWARDS ARROW WITH DOUBLE STROKE;DOWNWARDS ARROW WITH DOUBLE STROKE;LEFTWARDS DASHED ARROW
  UPWARDS DASHED ARROW;RIGHTWARDS DASHED ARROW;DOWNWARDS DASHED ARROW;LEFTWARDS ARROW TO BAR
  RIGHTWARDS ARROW TO BAR;LEFTWARDS WHITE ARROW;UPWARDS WHITE ARROW;RIGHTWARDS WHITE ARROW
  DOWNWARDS WHITE ARROW;UPWARDS WHITE ARROW FROM BAR;cON PEDESTAL;eWITH HORIZONTAL BAR
  fVERTICAL BAR;bDOUBLE ARROW;dON PEDESTAL;RIGHTWARDS WHITE ARROW FROM WALL
  NORTH WEST ARROW TO CORNER;SOUTH EAST ARROW TO CORNER;UP DOWN WHITE ARROW
  RIGHT ARROW WITH SMALL CIRCLE;DOWNWARDS ARROW LEFTWARDS OF UPWARDS ARROW;THREE RIGHTWARDS ARROWS
  LEFTWARDS ARROW WITH VERTICAL STROKE;RIGHTWARDS ARROW WITH VERTICAL STROKE
  LEFT RIGHT ARROW WITH VERTICAL STROKE;LEFTWARDS ARROW WITH DOUBLE VERTICAL STROKE
  RIGHTWARDS ARROW WITH DOUBLE VERTICAL STROKE;LEFT RIGHT ARROW WITH DOUBLE VERTICAL STROKE
  LEFTWARDS OPEN-HEADED ARROW;RIGHTWARDS OPEN-HEADED ARROW;LEFT RIGHT OPEN-HEADED ARROW;FOR ALL
  COMPLEMENT;PARTIAL DIFFERENTIAL;THERE EXISTS;aDOES NOT EXIST;EMPTY SET;INCREMENT;NABLA;ELEMENT OF
  NOT AN ELEMENT OF;SMALL ELEMENT OF;CONTAINS AS MEMBER;DOES NOT CONTAIN AS MEMBER
  SMALL CONTAINS AS MEMBER;END OF PROOF;N-ARY PRODUCT;aCOPRODUCT;aSUMMATION;MINUS SIGN
  MINUS-OR-PLUS SIGN;DOT PLUS;DIVISION SLASH;SET MINUS;ASTERISK OPERATOR;RING OPERATOR
  BULLET OPERATOR;SQUARE ROOT;CUBE ROOT;FOURTH ROOT;PROPORTIONAL TO;INFINITY;RIGHT ANGLE;ANGLE
  MEASURED ANGLE;SPHERICAL ANGLE;DIVIDES;DOES NOT DIVIDE;PARALLEL TO;NOT PARALLEL TO;LOGICAL AND
  aOR;INTERSECTION;UNION;INTEGRAL;DOUBLE INTEGRAL;TRIPLE INTEGRAL;CONTOUR INTEGRAL;SURFACE INTEGRAL
  VOLUME INTEGRAL;CLOCKWISE INTEGRAL;aCONTOUR INTEGRAL;ANTICLOCKWISE CONTOUR INTEGRAL;THEREFORE
  BECAUSE;RATIO;PROPORTION;DOT MINUS;EXCESS;GEOMETRIC PROPORTION;HOMOTHETIC;TILDE OPERATOR
  REVERSED TILDE;INVERTED LAZY S;SINE WAVE;WREATH PRODUCT;NOT TILDE;MINUS TILDE
  ASYMPTOTICALLY EQUAL TO;NOT ASYMPTOTICALLY EQUAL TO;APPROXIMATELY EQUAL TO
  aBUT NOT ACTUALLY EQUAL TO;NEITHER APPROXIMATELY NOR ACTUALLY EQUAL TO;ALMOST EQUAL TO
  NOT ALMOST EQUAL TO;ALMOST EQUAL OR EQUAL TO;TRIPLE TILDE;ALL EQUAL TO;EQUIVALENT TO
  GEOMETRICALLY EQUIVALENT TO;DIFFERENCE BETWEEN;APPROACHES THE LIMIT;GEOMETRICALLY EQUAL TO
  APPROXIMATELY EQUAL TO OR THE IMAGE OF;IMAGE OF OR APPROXIMATELY EQUAL TO;COLON EQUALS
  EQUALS COLON;RING IN EQUAL TO;aEQUAL TO;CORRESPONDS TO;ESTIMATES;EQUIANGULAR TO;STAR EQUALS
  DELTA EQUAL TO;EQUAL TO BY DEFINITION;MEASURED BY;QUESTIONED EQUAL TO;NOT EQUAL TO;IDENTICAL TO
  NOT IDENTICAL TO;STRICTLY EQUIVALENT TO;LESS-THAN OR EQUAL TO;GREATER-THAN OR EQUAL TO
  LESS-THAN OVER EQUAL TO;GREATER-THAN OVER EQUAL TO;LESS-THAN BUT NOT EQUAL TO
  GREATER-THAN BUT NOT EQUAL TO;MUCH LESS-THAN;aGREATER-THAN;BETWEEN;NOT EQUIVALENT TO;aLESS-THAN
  aGREATER-THAN;NEITHER LESS-THAN NOR EQUAL TO;aGREATER-THAN NOR EQUAL TO
  LESS-THAN OR EQUIVALENT TO;GREATER-THAN OR EQUIVALENT TO;NEITHER LESS-THAN NOR EQUIVALENT TO
  aGREATER-THAN NOR EQUIVALENT TO;LESS-THAN OR GREATER-THAN;GREATER-THAN OR LESS-THAN
  NEITHER LESS-THAN NOR GREATER-THAN;aGREATER-THAN NOR LESS-THAN;PRECEDES;SUCCEEDS
  PRECEDES OR EQUAL TO;SUCCEEDS OR EQUAL TO;PRECEDES OR EQUIVALENT TO;SUCCEEDS OR EQUIVALENT TO
  DOES NOT PRECEDE;bSUCCEED;SUBSET OF;SUPERSET OF;NOT A SUBSET OF;bSUPERSET OF
  SUBSET OF OR EQUAL TO;SUPERSET OF OR EQUAL TO;NEITHER A SUBSET OF NOR EQUAL TO
  bSUPERSET OF NOR EQUAL TO;SUBSET OF WITH NOT EQUAL TO;SUPERSET OF WITH NOT EQUAL TO;MULTISET
  aMULTIPLICATION;aUNION;SQUARE IMAGE OF;aORIGINAL OF;aIMAGE OF OR EQUAL TO
  aORIGINAL OF OR EQUAL TO;aCAP;aCUP;CIRCLED PLUS;aMINUS;aTIMES;aDIVISION SLASH;aDOT OPERATOR
  aRING OPERATOR;aASTERISK OPERATOR;aEQUALS;aDASH;SQUARED PLUS;aMINUS;aTIMES;aDOT OPERATOR
  RIGHT TACK;LEFT TACK;DOWN TACK;UP TACK;ASSERTION;MODELS;TRUE;FORCES
  TRIPLE VERTICAL BAR RIGHT TURNSTILE;DOUBLE VERTICAL BAR DOUBLE RIGHT TURNSTILE;DOES NOT PROVE
  NOT TRUE;DOES NOT FORCE;NEGATED DOUBLE VERTICAL BAR DOUBLE RIGHT TURNSTILE
  PRECEDES UNDER RELATION;SUCCEEDS UNDER RELATION;NORMAL SUBGROUP OF;CONTAINS AS NORMAL SUBGROUP
  NORMAL SUBGROUP OF OR EQUAL TO;CONTAINS AS NORMAL SUBGROUP OR EQUAL TO;ORIGINAL OF;IMAGE OF
  MULTIMAP;HERMITIAN CONJUGATE MATRIX;INTERCALATE;XOR;NAND;NOR;RIGHT ANGLE WITH ARC;aTRIANGLE
  N-ARY LOGICAL AND;bOR;aINTERSECTION;aUNION;DIAMOND OPERATOR;DOT OPERATOR;STAR OPERATOR
  DIVISION TIMES;BOWTIE;LEFT NORMAL FACTOR SEMIDIRECT PRODUCT
  RIGHT NORMAL FACTOR SEMIDIRECT PRODUCT;LEFT SEMIDIRECT PRODUCT;RIGHT SEMIDIRECT PRODUCT
  REVERSED TILDE EQUALS;CURLY LOGICAL OR;bAND;DOUBLE SUBSET;aSUPERSET;aINTERSECTION;aUNION
  PITCHFORK;EQUAL AND PARALLEL TO;LESS-THAN WITH DOT;GREATER-THAN WITH DOT;VERY MUCH LESS-THAN
  bGREATER-THAN;LESS-THAN EQUAL TO OR GREATER-THAN;GREATER-THAN EQUAL TO OR LESS-THAN
  EQUAL TO OR LESS-THAN;cGREATER-THAN;cPRECEDES;cSUCCEEDS;DOES NOT PRECEDE OR EQUAL
  bSUCCEED OR EQUAL;NOT SQUARE IMAGE OF OR EQUAL TO;bORIGINAL OF OR EQUAL TO
  SQUARE IMAGE OF OR NOT EQUAL TO;aORIGINAL OF OR NOT EQUAL TO;LESS-THAN BUT NOT EQUIVALENT TO
  GREATER-THAN BUT NOT EQUIVALENT TO;PRECEDES BUT NOT EQUIVALENT TO;SUCCEEDS BUT NOT EQUIVALENT TO
  NOT NORMAL SUBGROUP OF;DOES NOT CONTAIN AS NORMAL SUBGROUP;NOT NORMAL SUBGROUP OF OR EQUAL TO
  DOES NOT CONTAIN AS NORMAL SUBGROUP OR EQUAL;VERTICAL ELLIPSIS;MIDLINE HORIZONTAL ELLIPSIS
  UP RIGHT DIAGONAL ELLIPSIS;DOWN RIGHT DIAGONAL ELLIPSIS;ELEMENT OF WITH LONG HORIZONTAL STROKE
  cVERTICAL BAR AT END OF HORIZONTAL STROKE
  SMALL ELEMENT OF WITH VERTICAL BAR AT END OF HORIZONTAL STROKE;ELEMENT OF WITH DOT ABOVE;cOVERBAR
  SMALL ELEMENT OF WITH OVERBAR;ELEMENT OF WITH UNDERBAR;cTWO HORIZONTAL STROKES
  CONTAINS WITH LONG HORIZONTAL STROKE;bVERTICAL BAR AT END OF HORIZONTAL STROKE
  SMALL CONTAINS WITH VERTICAL BAR AT END OF HORIZONTAL STROKE;CONTAINS WITH OVERBAR
  SMALL CONTAINS WITH OVERBAR;Z NOTATION BAG MEMBERSHIP;DIAMETER SIGN;ELECTRIC ARROW;HOUSE
  UP ARROWHEAD;DOWN ARROWHEAD;PROJECTIVE;PERSPECTIVE;WAVY LINE;LEFT CEILING;RIGHT CEILING
  LEFT FLOOR;RIGHT FLOOR;BOTTOM RIGHT CROP;aLEFT CROP;TOP RIGHT CROP;aLEFT CROP;REVERSED NOT SIGN
  SQUARE LOZENGE;ARC;SEGMENT;SECTOR;TELEPHONE RECORDER;POSITION INDICATOR;VIEWDATA SQUARE
  PLACE OF INTEREST SIGN;TURNED NOT SIGN;WATCH;HOURGLASS;TOP LEFT CORNER;aRIGHT CORNER
  BOTTOM LEFT CORNER;aRIGHT CORNER;TOP HALF INTEGRAL;BOTTOM HALF INTEGRAL;FROWN;SMILE
  UP ARROWHEAD BETWEEN TWO HORIZONTAL BARS;OPTION KEY;ERASE TO THE RIGHT;X IN A RECTANGLE BOX
  KEYBOARD;LEFT-POINTING ANGLE BRACKET;RIGHT-POINTING ANGLE BRACKET;ERASE TO THE LEFT;BENZENE RING
  CYLINDRICITY;ALL AROUND-PROFILE;SYMMETRY;TOTAL RUNOUT;DIMENSION ORIGIN;CONICAL TAPER;SLOPE
  COUNTERBORE;COUNTERSINK;APL FUNCTIONAL SYMBOL I-BEAM;cSQUISH QUAD;cQUAD EQUAL;dDIVIDE;dDIAMOND
  dJOT;dCIRCLE;cCIRCLE STILE;dJOT;cSLASH BAR;cBACKSLASH BAR;cQUAD SLASH;dBACKSLASH;dLESS-THAN
  dGREATER-THAN;cLEFTWARDS VANE;cRIGHTWARDS VANE;cQUAD LEFTWARDS ARROW;dRIGHTWARDS ARROW
  cCIRCLE BACKSLASH;cDOWN TACK UNDERBAR;cDELTA STILE;cQUAD DOWN CARET;dDELTA;cDOWN TACK JOT
  cUPWARDS VANE;cQUAD UPWARDS ARROW;cUP TACK OVERBAR;cDEL STILE;cQUAD UP CARET;dDEL;cUP TACK JOT
  cDOWNWARDS VANE;cQUAD DOWNWARDS ARROW;cQUOTE UNDERBAR;cDELTA UNDERBAR;cDIAMOND UNDERBAR
  cJOT UNDERBAR;cCIRCLE UNDERBAR;cUP SHOE JOT;cQUOTE QUAD;cCIRCLE STAR;cQUAD COLON
  cUP TACK DIAERESIS;cDEL DIAERESIS;cSTAR DIAERESIS;cJOT DIAERESIS;cCIRCLE DIAERESIS
  cDOWN SHOE STILE;cLEFT SHOE STILE;cTILDE DIAERESIS;cGREATER-THAN DIAERESIS;cCOMMA BAR;cDEL TILDE
  cZILDE;cSTILE TILDE;cSEMICOLON UNDERBAR;cQUAD NOT EQUAL;dQUESTION;cDOWN CARET TILDE
  cUP CARET TILDE;cIOTA;cRHO;cOMEGA;cALPHA UNDERBAR;cEPSILON UNDERBAR;cIOTA UNDERBAR
  cOMEGA UNDERBAR;cALPHA;NOT CHECK MARK;RIGHT ANGLE WITH DOWNWARDS ZIGZAG ARROW;SHOULDERED OPEN BOX
  BELL SYMBOL;VERTICAL LINE WITH MIDDLE DOT;INSERTION SYMBOL;CONTINUOUS UNDERLINE SYMBOL
  DISCONTINUOUS UNDERLINE SYMBOL;EMPHASIS SYMBOL;COMPOSITION SYMBOL
  WHITE SQUARE WITH CENTRE VERTICAL LINE;ENTER SYMBOL;ALTERNATIVE KEY SYMBOL;HELM SYMBOL
  CIRCLED HORIZONTAL BAR WITH NOTCH;aTRIANGLE DOWN;BROKEN CIRCLE WITH NORTHWEST ARROW;UNDO SYMBOL
  MONOSTABLE SYMBOL;HYSTERESIS SYMBOL;OPEN-CIRCUIT-OUTPUT H-TYPE SYMBOL;aL-TYPE SYMBOL
  PASSIVE-PULL-DOWN-OUTPUT SYMBOL;PASSIVE-PULL-UP-OUTPUT SYMBOL;DIRECT CURRENT SYMBOL FORM TWO
  SOFTWARE-FUNCTION SYMBOL;APL FUNCTIONAL SYMBOL QUAD;DECIMAL SEPARATOR KEY SYMBOL;PREVIOUS PAGE
  NEXT PAGE;PRINT SCREEN SYMBOL;CLEAR SCREEN SYMBOL;LEFT PARENTHESIS UPPER HOOK;bEXTENSION
  bLOWER HOOK;RIGHT PARENTHESIS UPPER HOOK;bEXTENSION;bLOWER HOOK;LEFT SQUARE BRACKET UPPER CORNER
  cEXTENSION;cLOWER CORNER;RIGHT SQUARE BRACKET UPPER CORNER;cEXTENSION;cLOWER CORNER
  LEFT CURLY BRACKET UPPER HOOK;cMIDDLE PIECE;cLOWER HOOK;CURLY BRACKET EXTENSION
  RIGHT CURLY BRACKET UPPER HOOK;cMIDDLE PIECE;cLOWER HOOK;INTEGRAL EXTENSION
  HORIZONTAL LINE EXTENSION;UPPER LEFT OR LOWER RIGHT CURLY BRACKET SECTION
  aRIGHT OR LOWER LEFT CURLY BRACKET SECTION;SUMMATION TOP;aBOTTOM;TOP SQUARE BRACKET
  BOTTOM SQUARE BRACKET;cOVER TOP SQUARE BRACKET;RADICAL SYMBOL BOTTOM;LEFT VERTICAL BOX LINE
  RIGHT VERTICAL BOX LINE;HORIZONTAL SCAN LINE-1;bLINE-3;bLINE-7;bLINE-9
  DENTISTRY SYMBOL LIGHT VERTICAL AND TOP RIGHT;eBOTTOM RIGHT;dWITH CIRCLE
  cDOWN AND HORIZONTAL WITH CIRCLE;cUP AND HORIZONTAL WITH CIRCLE;cVERTICAL WITH TRIANGLE
  cDOWN AND HORIZONTAL WITH TRIANGLE;cUP AND HORIZONTAL WITH TRIANGLE;cVERTICAL AND WAVE
  cDOWN AND HORIZONTAL WITH WAVE;cUP AND HORIZONTAL WITH WAVE;cDOWN AND HORIZONTAL
  cUP AND HORIZONTAL;cVERTICAL AND TOP LEFT;eBOTTOM LEFT;SQUARE FOOT;RETURN SYMBOL;EJECT SYMBOL
  VERTICAL LINE EXTENSION;METRICAL BREVE;aLONG OVER SHORT;aSHORT OVER LONG;aLONG OVER TWO SHORTS
  aTWO SHORTS OVER LONG;cJOINED;aTRISEME;aTETRASEME;aPENTASEME;EARTH GROUND;FUSE;TOP PARENTHESIS
  BOTTOM PARENTHESIS;TOP CURLY BRACKET;BOTTOM CURLY BRACKET;TOP TORTOISE SHELL BRACKET
  BOTTOM TORTOISE SHELL BRACKET;WHITE TRAPEZIUM;BENZENE RING WITH CIRCLE;STRAIGHTNESS;FLATNESS
  AC CURRENT;ELECTRICAL INTERSECTION;DECIMAL EXPONENT SYMBOL;BLACK RIGHT-POINTING DOUBLE TRIANGLE
  aLEFT-POINTING DOUBLE TRIANGLE;aUP-POINTING DOUBLE TRIANGLE;aDOWN-POINTING DOUBLE TRIANGLE
  aRIGHT-POINTING DOUBLE TRIANGLE WITH VERTICAL BAR
  aLEFT-POINTING DOUBLE TRIANGLE WITH VERTICAL BAR
  aRIGHT-POINTING TRIANGLE WITH DOUBLE VERTICAL BAR;ALARM CLOCK;STOPWATCH;TIMER CLOCK
  HOURGLASS WITH FLOWING SAND;BLACK MEDIUM LEFT-POINTING TRIANGLE;bRIGHT-POINTING TRIANGLE
  bUP-POINTING TRIANGLE;bDOWN-POINTING TRIANGLE;DOUBLE VERTICAL BAR;BLACK SQUARE FOR STOP
  aCIRCLE FOR RECORD;POWER SYMBOL;aON-OFF SYMBOL;aON SYMBOL;aSLEEP SYMBOL;OBSERVER EYE SYMBOL
  SYMBOL FOR NULL;bSTART OF HEADING;dTEXT;bEND OF TEXT;dTRANSMISSION;bENQUIRY;bACKNOWLEDGE;bBELL
  bBACKSPACE;bHORIZONTAL TABULATION;bLINE FEED;bVERTICAL TABULATION;bFORM FEED;bCARRIAGE RETURN
  bSHIFT OUT;cIN;bDATA LINK ESCAPE;bDEVICE CONTROL ONE;dTWO;dTHREE;dFOUR;bNEGATIVE ACKNOWLEDGE
  bSYNCHRONOUS IDLE;bEND OF TRANSMISSION BLOCK;bCANCEL;bEND OF MEDIUM;bSUBSTITUTE;bESCAPE
  bFILE SEPARATOR;bGROUP SEPARATOR;bRECORD SEPARATOR;bUNIT SEPARATOR;bSPACE;bDELETE;BLANK SYMBOL
  OPEN BOX;SYMBOL FOR NEWLINE;bDELETE FORM TWO;bSUBSTITUTE FORM TWO;=2440;OCR HOOK;aCHAIR;aFORK
  aINVERTED FORK;aBELT BUCKLE;aBOW TIE;aBRANCH BANK IDENTIFICATION;aAMOUNT OF CHECK;aDASH
  aCUSTOMER ACCOUNT NUMBER;aDOUBLE BACKSLASH;=2460;CIRCLED DIGIT ONE;bTWO;bTHREE;bFOUR;bFIVE;bSIX
  bSEVEN;bEIGHT;bNINE;aNUMBER TEN;bELEVEN;bTWELVE;bTHIRTEEN;bFOURTEEN;bFIFTEEN;bSIXTEEN;bSEVENTEEN
  bEIGHTEEN;bNINETEEN;bTWENTY;PARENTHESIZED DIGIT ONE;bTWO;bTHREE;bFOUR;bFIVE;bSIX;bSEVEN;bEIGHT
  bNINE;aNUMBER TEN;bELEVEN;bTWELVE;bTHIRTEEN;bFOURTEEN;bFIFTEEN;bSIXTEEN;bSEVENTEEN;bEIGHTEEN
  bNINETEEN;bTWENTY;DIGIT ONE FULL STOP;aTWO FULL STOP;aTHREE FULL STOP;aFOUR FULL STOP
  aFIVE FULL STOP;aSIX FULL STOP;aSEVEN FULL STOP;aEIGHT FULL STOP;aNINE FULL STOP
  NUMBER TEN FULL STOP;aELEVEN FULL STOP;aTWELVE FULL STOP;aTHIRTEEN FULL STOP;aFOURTEEN FULL STOP
  aFIFTEEN FULL STOP;aSIXTEEN FULL STOP;aSEVENTEEN FULL STOP;aEIGHTEEN FULL STOP
  aNINETEEN FULL STOP;aTWENTY FULL STOP;PARENTHESIZED LATIN SMALL LETTER A;dB;dC;dD;dE;dF;dG;dH;dI
  dJ;dK;dL;dM;dN;dO;dP;dQ;dR;dS;dT;dU;dV;dW;dX;dY;dZ;CIRCLED LATIN CAPITAL LETTER A;dB;dC;dD;dE;dF
  dG;dH;dI;dJ;dK;dL;dM;dN;dO;dP;dQ;dR;dS;dT;dU;dV;dW;dX;dY;dZ;bSMALL LETTER A;dB;dC;dD;dE;dF;dG;dH
  dI;dJ;dK;dL;dM;dN;dO;dP;dQ;dR;dS;dT;dU;dV;dW;dX;dY;dZ;aDIGIT ZERO;NEGATIVE CIRCLED NUMBER ELEVEN
  cTWELVE;cTHIRTEEN;cFOURTEEN;cFIFTEEN;cSIXTEEN;cSEVENTEEN;cEIGHTEEN;cNINETEEN;cTWENTY
  DOUBLE CIRCLED DIGIT ONE;cTWO;cTHREE;cFOUR;cFIVE;cSIX;cSEVEN;cEIGHT;cNINE;bNUMBER TEN
  NEGATIVE CIRCLED DIGIT ZERO;BOX DRAWINGS LIGHT HORIZONTAL;bHEAVY HORIZONTAL;bLIGHT VERTICAL
  bHEAVY VERTICAL;bLIGHT TRIPLE DASH HORIZONTAL;bHEAVY TRIPLE DASH HORIZONTAL
  bLIGHT TRIPLE DASH VERTICAL;bHEAVY TRIPLE DASH VERTICAL;bLIGHT QUADRUPLE DASH HORIZONTAL
  bHEAVY QUADRUPLE DASH HORIZONTAL;bLIGHT QUADRUPLE DASH VERTICAL;bHEAVY QUADRUPLE DASH VERTICAL
  bLIGHT DOWN AND RIGHT;bDOWN LIGHT AND RIGHT HEAVY;cHEAVY AND RIGHT LIGHT;bHEAVY DOWN AND RIGHT
  bLIGHT DOWN AND LEFT;bDOWN LIGHT AND LEFT HEAVY;cHEAVY AND LEFT LIGHT;bHEAVY DOWN AND LEFT
  bLIGHT UP AND RIGHT;bUP LIGHT AND RIGHT HEAVY;cHEAVY AND RIGHT LIGHT;bHEAVY UP AND RIGHT
  bLIGHT UP AND LEFT;bUP LIGHT AND LEFT HEAVY;cHEAVY AND LEFT LIGHT;bHEAVY UP AND LEFT
  bLIGHT VERTICAL AND RIGHT;bVERTICAL LIGHT AND RIGHT HEAVY;bUP HEAVY AND RIGHT DOWN LIGHT
  bDOWN HEAVY AND RIGHT UP LIGHT;bVERTICAL HEAVY AND RIGHT LIGHT;bDOWN LIGHT AND RIGHT UP HEAVY
  bUP LIGHT AND RIGHT DOWN HEAVY;bHEAVY VERTICAL AND RIGHT;bLIGHT VERTICAL AND LEFT
  bVERTICAL LIGHT AND LEFT HEAVY;bUP HEAVY AND LEFT DOWN LIGHT;bDOWN HEAVY AND LEFT UP LIGHT
  bVERTICAL HEAVY AND LEFT LIGHT;bDOWN LIGHT AND LEFT UP HEAVY;bUP LIGHT AND LEFT DOWN HEAVY
  bHEAVY VERTICAL AND LEFT;bLIGHT DOWN AND HORIZONTAL;bLEFT HEAVY AND RIGHT DOWN LIGHT
  bRIGHT HEAVY AND LEFT DOWN LIGHT;bDOWN LIGHT AND HORIZONTAL HEAVY;cHEAVY AND HORIZONTAL LIGHT
  bRIGHT LIGHT AND LEFT DOWN HEAVY;bLEFT LIGHT AND RIGHT DOWN HEAVY;bHEAVY DOWN AND HORIZONTAL
  bLIGHT UP AND HORIZONTAL;bLEFT HEAVY AND RIGHT UP LIGHT;bRIGHT HEAVY AND LEFT UP LIGHT
  bUP LIGHT AND HORIZONTAL HEAVY;cHEAVY AND HORIZONTAL LIGHT;bRIGHT LIGHT AND LEFT UP HEAVY
  bLEFT LIGHT AND RIGHT UP HEAVY;bHEAVY UP AND HORIZONTAL;bLIGHT VERTICAL AND HORIZONTAL
  bLEFT HEAVY AND RIGHT VERTICAL LIGHT;bRIGHT HEAVY AND LEFT VERTICAL LIGHT
  bVERTICAL LIGHT AND HORIZONTAL HEAVY;bUP HEAVY AND DOWN HORIZONTAL LIGHT
  bDOWN HEAVY AND UP HORIZONTAL LIGHT;bVERTICAL HEAVY AND HORIZONTAL LIGHT
  bLEFT UP HEAVY AND RIGHT DOWN LIGHT;bRIGHT UP HEAVY AND LEFT DOWN LIGHT
  bLEFT DOWN HEAVY AND RIGHT UP LIGHT;bRIGHT DOWN HEAVY AND LEFT UP LIGHT
  bDOWN LIGHT AND UP HORIZONTAL HEAVY;bUP LIGHT AND DOWN HORIZONTAL HEAVY
  bRIGHT LIGHT AND LEFT VERTICAL HEAVY;bLEFT LIGHT AND RIGHT VERTICAL HEAVY
  bHEAVY VERTICAL AND HORIZONTAL;bLIGHT DOUBLE DASH HORIZONTAL;bHEAVY DOUBLE DASH HORIZONTAL
  bLIGHT DOUBLE DASH VERTICAL;bHEAVY DOUBLE DASH VERTICAL;bDOUBLE HORIZONTAL;cVERTICAL
  bDOWN SINGLE AND RIGHT DOUBLE;cDOUBLE AND RIGHT SINGLE;bDOUBLE DOWN AND RIGHT
  bDOWN SINGLE AND LEFT DOUBLE;cDOUBLE AND LEFT SINGLE;bDOUBLE DOWN AND LEFT
  bUP SINGLE AND RIGHT DOUBLE;cDOUBLE AND RIGHT SINGLE;bDOUBLE UP AND RIGHT
  bUP SINGLE AND LEFT DOUBLE;cDOUBLE AND LEFT SINGLE;bDOUBLE UP AND LEFT
  bVERTICAL SINGLE AND RIGHT DOUBLE;cDOUBLE AND RIGHT SINGLE;bDOUBLE VERTICAL AND RIGHT
  bVERTICAL SINGLE AND LEFT DOUBLE;cDOUBLE AND LEFT SINGLE;bDOUBLE VERTICAL AND LEFT
  bDOWN SINGLE AND HORIZONTAL DOUBLE;cDOUBLE AND HORIZONTAL SINGLE;bDOUBLE DOWN AND HORIZONTAL
  bUP SINGLE AND HORIZONTAL DOUBLE;cDOUBLE AND HORIZONTAL SINGLE;bDOUBLE UP AND HORIZONTAL
  bVERTICAL SINGLE AND HORIZONTAL DOUBLE;cDOUBLE AND HORIZONTAL SINGLE
  bDOUBLE VERTICAL AND HORIZONTAL;bLIGHT ARC DOWN AND RIGHT;fLEFT;dUP AND LEFT;fRIGHT
  cDIAGONAL UPPER RIGHT TO LOWER LEFT;eLEFT TO LOWER RIGHT;dCROSS;cLEFT;cUP;cRIGHT;cDOWN
  bHEAVY LEFT;cUP;cRIGHT;cDOWN;bLIGHT LEFT AND HEAVY RIGHT;cUP AND HEAVY DOWN
  bHEAVY LEFT AND LIGHT RIGHT;cUP AND LIGHT DOWN;UPPER HALF BLOCK;LOWER ONE EIGHTH BLOCK
  bQUARTER BLOCK;aTHREE EIGHTHS BLOCK;aHALF BLOCK;aFIVE EIGHTHS BLOCK;aTHREE QUARTERS BLOCK
  aSEVEN EIGHTHS BLOCK;FULL BLOCK;LEFT SEVEN EIGHTHS BLOCK;aTHREE QUARTERS BLOCK
  aFIVE EIGHTHS BLOCK;aHALF BLOCK;aTHREE EIGHTHS BLOCK;aONE QUARTER BLOCK;bEIGHTH BLOCK
  RIGHT HALF BLOCK;LIGHT SHADE;MEDIUM SHADE;DARK SHADE;UPPER ONE EIGHTH BLOCK
  RIGHT ONE EIGHTH BLOCK;QUADRANT LOWER LEFT;bRIGHT;aUPPER LEFT;cAND LOWER LEFT AND LOWER RIGHT
  eRIGHT;dUPPER RIGHT AND LOWER LEFT;hRIGHT;bRIGHT;cAND LOWER LEFT;fAND LOWER RIGHT;BLACK SQUARE
  WHITE SQUARE;bWITH ROUNDED CORNERS;bCONTAINING BLACK SMALL SQUARE;SQUARE WITH HORIZONTAL FILL
  bVERTICAL FILL;bORTHOGONAL CROSSHATCH FILL;bUPPER LEFT TO LOWER RIGHT FILL
  cRIGHT TO LOWER LEFT FILL;bDIAGONAL CROSSHATCH FILL;BLACK SMALL SQUARE;WHITE SMALL SQUARE
  BLACK RECTANGLE;WHITE RECTANGLE;BLACK VERTICAL RECTANGLE;WHITE VERTICAL RECTANGLE
  BLACK PARALLELOGRAM;WHITE PARALLELOGRAM;BLACK UP-POINTING TRIANGLE;WHITE UP-POINTING TRIANGLE
  BLACK UP-POINTING SMALL TRIANGLE;WHITE UP-POINTING SMALL TRIANGLE;BLACK RIGHT-POINTING TRIANGLE
  WHITE RIGHT-POINTING TRIANGLE;BLACK RIGHT-POINTING SMALL TRIANGLE
  WHITE RIGHT-POINTING SMALL TRIANGLE;BLACK RIGHT-POINTING POINTER;WHITE RIGHT-POINTING POINTER
  BLACK DOWN-POINTING TRIANGLE;WHITE DOWN-POINTING TRIANGLE;BLACK DOWN-POINTING SMALL TRIANGLE
  WHITE DOWN-POINTING SMALL TRIANGLE;BLACK LEFT-POINTING TRIANGLE;WHITE LEFT-POINTING TRIANGLE
  BLACK LEFT-POINTING SMALL TRIANGLE;WHITE LEFT-POINTING SMALL TRIANGLE;BLACK LEFT-POINTING POINTER
  WHITE LEFT-POINTING POINTER;BLACK DIAMOND;WHITE DIAMOND;bCONTAINING BLACK SMALL DIAMOND;FISHEYE
  LOZENGE;WHITE CIRCLE;DOTTED CIRCLE;CIRCLE WITH VERTICAL FILL;BULLSEYE;BLACK CIRCLE
  CIRCLE WITH LEFT HALF BLACK;bRIGHT HALF BLACK;bLOWER HALF BLACK;bUPPER HALF BLACK
  cRIGHT QUADRANT BLACK;bALL BUT UPPER LEFT QUADRANT BLACK;LEFT HALF BLACK CIRCLE
  RIGHT HALF BLACK CIRCLE;INVERSE BULLET;aWHITE CIRCLE;UPPER HALF INVERSE WHITE CIRCLE
  LOWER HALF INVERSE WHITE CIRCLE;UPPER LEFT QUADRANT CIRCULAR ARC;aRIGHT QUADRANT CIRCULAR ARC
  LOWER RIGHT QUADRANT CIRCULAR ARC;aLEFT QUADRANT CIRCULAR ARC;UPPER HALF CIRCLE;LOWER HALF CIRCLE
  BLACK LOWER RIGHT TRIANGLE;bLEFT TRIANGLE;aUPPER LEFT TRIANGLE;bRIGHT TRIANGLE;WHITE BULLET
  SQUARE WITH LEFT HALF BLACK;bRIGHT HALF BLACK;bUPPER LEFT DIAGONAL HALF BLACK
  bLOWER RIGHT DIAGONAL HALF BLACK;WHITE SQUARE WITH VERTICAL BISECTING LINE
  aUP-POINTING TRIANGLE WITH DOT;UP-POINTING TRIANGLE WITH LEFT HALF BLACK;cRIGHT HALF BLACK
  LARGE CIRCLE;WHITE SQUARE WITH UPPER LEFT QUADRANT;cLOWER LEFT QUADRANT;dRIGHT QUADRANT
  cUPPER RIGHT QUADRANT;aCIRCLE WITH UPPER LEFT QUADRANT;cLOWER LEFT QUADRANT;dRIGHT QUADRANT
  cUPPER RIGHT QUADRANT;UPPER LEFT TRIANGLE;aRIGHT TRIANGLE;LOWER LEFT TRIANGLE;WHITE MEDIUM SQUARE
  BLACK MEDIUM SQUARE;WHITE MEDIUM SMALL SQUARE;BLACK MEDIUM SMALL SQUARE;LOWER RIGHT TRIANGLE
  BLACK SUN WITH RAYS;CLOUD;UMBRELLA;SNOWMAN;COMET;BLACK STAR;WHITE STAR;LIGHTNING;THUNDERSTORM;SUN
  ASCENDING NODE;DESCENDING NODE;CONJUNCTION;OPPOSITION;BLACK TELEPHONE;WHITE TELEPHONE;BALLOT BOX
  bWITH CHECK;cX;SALTIRE;UMBRELLA WITH RAIN DROPS;HOT BEVERAGE;WHITE SHOGI PIECE;BLACK SHOGI PIECE
  SHAMROCK;REVERSED ROTATED FLORAL HEART BULLET;BLACK LEFT POINTING INDEX;aRIGHT POINTING INDEX
  WHITE LEFT POINTING INDEX;aUP POINTING INDEX;aRIGHT POINTING INDEX;aDOWN POINTING INDEX
  SKULL AND CROSSBONES;CAUTION SIGN;RADIOACTIVE SIGN;BIOHAZARD SIGN;CADUCEUS;ANKH;ORTHODOX CROSS
  CHI RHO;CROSS OF LORRAINE;bJERUSALEM;STAR AND CRESCENT;FARSI SYMBOL;ADI SHAKTI;HAMMER AND SICKLE
  PEACE SYMBOL;YIN YANG;TRIGRAM FOR HEAVEN;bLAKE;bFIRE;bTHUNDER;bWIND;bWATER;bMOUNTAIN;bEARTH
  WHEEL OF DHARMA;WHITE FROWNING FACE;aSMILING FACE;BLACK SMILING FACE;WHITE SUN WITH RAYS
  FIRST QUARTER MOON;LAST QUARTER MOON;MERCURY;FEMALE SIGN;EARTH;MALE SIGN;JUPITER;SATURN;URANUS
  NEPTUNE;PLUTO;ARIES;TAURUS;GEMINI;CANCER;LEO;VIRGO;LIBRA;SCORPIUS;SAGITTARIUS;CAPRICORN;AQUARIUS
  PISCES;WHITE CHESS KING;bQUEEN;bROOK;bBISHOP;bKNIGHT;bPAWN;BLACK CHESS KING;bQUEEN;bROOK;bBISHOP
  bKNIGHT;bPAWN;aSPADE SUIT;WHITE HEART SUIT;aDIAMOND SUIT;BLACK CLUB SUIT;WHITE SPADE SUIT
  BLACK HEART SUIT;aDIAMOND SUIT;WHITE CLUB SUIT;HOT SPRINGS;QUARTER NOTE;EIGHTH NOTE
  BEAMED EIGHTH NOTES;aSIXTEENTH NOTES;MUSIC FLAT SIGN;aNATURAL SIGN;aSHARP SIGN;WEST SYRIAC CROSS
  EAST SYRIAC CROSS;UNIVERSAL RECYCLING SYMBOL;RECYCLING SYMBOL FOR TYPE-1 PLASTICS
  cTYPE-2 PLASTICS;cTYPE-3 PLASTICS;cTYPE-4 PLASTICS;cTYPE-5 PLASTICS;cTYPE-6 PLASTICS
  cTYPE-7 PLASTICS;cGENERIC MATERIALS;BLACK UNIVERSAL RECYCLING SYMBOL;RECYCLED PAPER SYMBOL
  PARTIALLY-RECYCLED PAPER SYMBOL;PERMANENT PAPER SIGN;WHEELCHAIR SYMBOL;DIE FACE-1;aFACE-2;aFACE-3
  aFACE-4;aFACE-5;aFACE-6;WHITE CIRCLE WITH DOT RIGHT;cTWO DOTS;BLACK CIRCLE WITH WHITE DOT RIGHT
  cTWO WHITE DOTS;MONOGRAM FOR YANG;bYIN;DIGRAM FOR GREATER YANG;bLESSER YIN;cYANG;bGREATER YIN
  WHITE FLAG;BLACK FLAG;HAMMER AND PICK;ANCHOR;CROSSED SWORDS;STAFF OF AESCULAPIUS;SCALES;ALEMBIC
  FLOWER;GEAR;STAFF OF HERMES;ATOM SYMBOL;FLEUR-DE-LIS;OUTLINED WHITE STAR
  THREE LINES CONVERGING RIGHT;cLEFT;WARNING SIGN;HIGH VOLTAGE SIGN;DOUBLED FEMALE SIGN;aMALE SIGN
  INTERLOCKED FEMALE AND MALE SIGN;MALE AND FEMALE SIGN;aWITH STROKE SIGN;cAND MALE AND FEMALE SIGN
  VERTICAL MALE WITH STROKE SIGN;HORIZONTAL MALE WITH STROKE SIGN;MEDIUM WHITE CIRCLE;aBLACK CIRCLE
  aSMALL WHITE CIRCLE;MARRIAGE SYMBOL;DIVORCE SYMBOL;UNMARRIED PARTNERSHIP SYMBOL;COFFIN
  FUNERAL URN;NEUTER;CERES;PALLAS;JUNO;VESTA;CHIRON;BLACK MOON LILITH;SEXTILE;SEMISEXTILE;QUINCUNX
  SESQUIQUADRATE;SOCCER BALL;BASEBALL;SQUARED KEY;WHITE DRAUGHTS MAN;bKING;BLACK DRAUGHTS MAN;bKING
  SNOWMAN WITHOUT SNOW;SUN BEHIND CLOUD;RAIN;BLACK SNOWMAN;THUNDER CLOUD AND RAIN
  TURNED WHITE SHOGI PIECE;aBLACK SHOGI PIECE;WHITE DIAMOND IN SQUARE;CROSSING LANES;DISABLED CAR
  OPHIUCHUS;PICK;CAR SLIDING;HELMET WITH WHITE CROSS;CIRCLED CROSSING LANES;CHAINS;NO ENTRY
  ALTERNATE ONE-WAY LEFT WAY TRAFFIC;BLACK TWO-WAY LEFT WAY TRAFFIC;WHITE TWO-WAY LEFT WAY TRAFFIC
  BLACK LEFT LANE MERGE;WHITE LEFT LANE MERGE;DRIVE SLOW SIGN;HEAVY WHITE DOWN-POINTING TRIANGLE
  LEFT CLOSED ENTRY;SQUARED SALTIRE;FALLING DIAGONAL IN WHITE CIRCLE IN BLACK SQUARE;BLACK TRUCK
  RESTRICTED LEFT ENTRY-1;bENTRY-2;ASTRONOMICAL SYMBOL FOR URANUS
  HEAVY CIRCLE WITH STROKE AND TWO DOTS ABOVE;PENTAGRAM;RIGHT-HANDED INTERLACED PENTAGRAM
  LEFT-HANDED INTERLACED PENTAGRAM;INVERTED PENTAGRAM;BLACK CROSS ON SHIELD;SHINTO SHRINE;CHURCH
  CASTLE;HISTORIC SITE;GEAR WITHOUT HUB;aWITH HANDLES;MAP SYMBOL FOR LIGHTHOUSE;MOUNTAIN
  UMBRELLA ON GROUND;FOUNTAIN;FLAG IN HOLE;FERRY;SAILBOAT;SQUARE FOUR CORNERS;SKIER;ICE SKATE
  PERSON WITH BALL;TENT;JAPANESE BANK SYMBOL;HEADSTONE GRAVEYARD SYMBOL;FUEL PUMP
  CUP ON BLACK SQUARE;WHITE FLAG WITH HORIZONTAL MIDDLE BLACK STRIPE;BLACK SAFETY SCISSORS
  UPPER BLADE SCISSORS;BLACK SCISSORS;LOWER BLADE SCISSORS;WHITE SCISSORS;aHEAVY CHECK MARK
  TELEPHONE LOCATION SIGN;TAPE DRIVE;AIRPLANE;ENVELOPE;RAISED FIST;aHAND;VICTORY HAND;WRITING HAND
  LOWER RIGHT PENCIL;PENCIL;UPPER RIGHT PENCIL;WHITE NIB;BLACK NIB;CHECK MARK;HEAVY CHECK MARK
  MULTIPLICATION X;HEAVY MULTIPLICATION X;BALLOT X;HEAVY BALLOT X;OUTLINED GREEK CROSS
  HEAVY GREEK CROSS;OPEN CENTRE CROSS;HEAVY OPEN CENTRE CROSS;LATIN CROSS
  SHADOWED WHITE LATIN CROSS;OUTLINED LATIN CROSS;MALTESE CROSS;STAR OF DAVID
  FOUR TEARDROP-SPOKED ASTERISK;aBALLOON-SPOKED ASTERISK;HEAVY FOUR BALLOON-SPOKED ASTERISK
  FOUR CLUB-SPOKED ASTERISK;BLACK FOUR POINTED STAR;WHITE FOUR POINTED STAR;SPARKLES
  STRESS OUTLINED WHITE STAR;CIRCLED WHITE STAR;OPEN CENTRE BLACK STAR;BLACK CENTRE WHITE STAR
  OUTLINED BLACK STAR;HEAVY OUTLINED BLACK STAR;PINWHEEL STAR;SHADOWED WHITE STAR;HEAVY ASTERISK
  OPEN CENTRE ASTERISK;EIGHT SPOKED ASTERISK;aPOINTED BLACK STAR;bPINWHEEL STAR
  SIX POINTED BLACK STAR;EIGHT POINTED RECTILINEAR BLACK STAR
  HEAVY EIGHT POINTED RECTILINEAR BLACK STAR;TWELVE POINTED BLACK STAR;SIXTEEN POINTED ASTERISK
  TEARDROP-SPOKED ASTERISK;OPEN CENTRE TEARDROP-SPOKED ASTERISK;HEAVY TEARDROP-SPOKED ASTERISK
  SIX PETALLED BLACK AND WHITE FLORETTE;BLACK FLORETTE;WHITE FLORETTE
  EIGHT PETALLED OUTLINED BLACK FLORETTE;CIRCLED OPEN CENTRE EIGHT POINTED STAR
  HEAVY TEARDROP-SPOKED PINWHEEL ASTERISK;SNOWFLAKE;TIGHT TRIFOLIATE SNOWFLAKE
  HEAVY CHEVRON SNOWFLAKE;SPARKLE;HEAVY SPARKLE;BALLOON-SPOKED ASTERISK
  EIGHT TEARDROP-SPOKED PROPELLER ASTERISK;HEAVY EIGHT TEARDROP-SPOKED PROPELLER ASTERISK
  CROSS MARK;SHADOWED WHITE CIRCLE;NEGATIVE SQUARED CROSS MARK
  LOWER RIGHT DROP-SHADOWED WHITE SQUARE;UPPER RIGHT DROP-SHADOWED WHITE SQUARE
  LOWER RIGHT SHADOWED WHITE SQUARE;UPPER RIGHT SHADOWED WHITE SQUARE;BLACK QUESTION MARK ORNAMENT
  WHITE QUESTION MARK ORNAMENT;aEXCLAMATION MARK ORNAMENT;BLACK DIAMOND MINUS WHITE X
  HEAVY EXCLAMATION MARK SYMBOL;LIGHT VERTICAL BAR;MEDIUM VERTICAL BAR;HEAVY VERTICAL BAR
  aSINGLE TURNED COMMA QUOTATION MARK ORNAMENT;bCOMMA QUOTATION MARK ORNAMENT
  aDOUBLE TURNED COMMA QUOTATION MARK ORNAMENT;bCOMMA QUOTATION MARK ORNAMENT
  aLOW SINGLE COMMA QUOTATION MARK ORNAMENT;bDOUBLE COMMA QUOTATION MARK ORNAMENT
  CURVED STEM PARAGRAPH SIGN ORNAMENT;HEAVY EXCLAMATION MARK ORNAMENT
  aHEART EXCLAMATION MARK ORNAMENT;aBLACK HEART;ROTATED HEAVY BLACK HEART BULLET;FLORAL HEART
  ROTATED FLORAL HEART BULLET;MEDIUM LEFT PARENTHESIS ORNAMENT;aRIGHT PARENTHESIS ORNAMENT
  aFLATTENED LEFT PARENTHESIS ORNAMENT;bRIGHT PARENTHESIS ORNAMENT
  aLEFT-POINTING ANGLE BRACKET ORNAMENT;aRIGHT-POINTING ANGLE BRACKET ORNAMENT
  HEAVY LEFT-POINTING ANGLE QUOTATION MARK ORNAMENT;aRIGHT-POINTING ANGLE QUOTATION MARK ORNAMENT
  aLEFT-POINTING ANGLE BRACKET ORNAMENT;aRIGHT-POINTING ANGLE BRACKET ORNAMENT
  LIGHT LEFT TORTOISE SHELL BRACKET ORNAMENT;aRIGHT TORTOISE SHELL BRACKET ORNAMENT
  MEDIUM LEFT CURLY BRACKET ORNAMENT;aRIGHT CURLY BRACKET ORNAMENT
  DINGBAT NEGATIVE CIRCLED DIGIT ONE;dTWO;dTHREE;dFOUR;dFIVE;dSIX;dSEVEN;dEIGHT;dNINE;cNUMBER TEN
  aCIRCLED SANS-SERIF DIGIT ONE;dTWO;dTHREE;dFOUR;dFIVE;dSIX;dSEVEN;dEIGHT;dNINE;cNUMBER TEN
  aNEGATIVE CIRCLED SANS-SERIF DIGIT ONE;eTWO;eTHREE;eFOUR;eFIVE;eSIX;eSEVEN;eEIGHT;eNINE
  dNUMBER TEN;HEAVY WIDE-HEADED RIGHTWARDS ARROW;aPLUS SIGN;aMINUS SIGN;aDIVISION SIGN
  aSOUTH EAST ARROW;aRIGHTWARDS ARROW;aNORTH EAST ARROW;DRAFTING POINT RIGHTWARDS ARROW
  HEAVY ROUND-TIPPED RIGHTWARDS ARROW;TRIANGLE-HEADED RIGHTWARDS ARROW
  HEAVY TRIANGLE-HEADED RIGHTWARDS ARROW;DASHED TRIANGLE-HEADED RIGHTWARDS ARROW
  HEAVY DASHED TRIANGLE-HEADED RIGHTWARDS ARROW;BLACK RIGHTWARDS ARROW
  THREE-D TOP-LIGHTED RIGHTWARDS ARROWHEAD;aBOTTOM-LIGHTED RIGHTWARDS ARROWHEAD
  BLACK RIGHTWARDS ARROWHEAD;HEAVY BLACK CURVED DOWNWARDS AND RIGHTWARDS ARROW
  cUPWARDS AND RIGHTWARDS ARROW;SQUAT BLACK RIGHTWARDS ARROW
  HEAVY CONCAVE-POINTED BLACK RIGHTWARDS ARROW;RIGHT-SHADED WHITE RIGHTWARDS ARROW
  LEFT-SHADED WHITE RIGHTWARDS ARROW;BACK-TILTED SHADOWED WHITE RIGHTWARDS ARROW
  FRONT-TILTED SHADOWED WHITE RIGHTWARDS ARROW;HEAVY LOWER RIGHT-SHADOWED WHITE RIGHTWARDS ARROW
  aUPPER RIGHT-SHADOWED WHITE RIGHTWARDS ARROW;NOTCHED LOWER RIGHT-SHADOWED WHITE RIGHTWARDS ARROW
  CURLY LOOP;NOTCHED UPPER RIGHT-SHADOWED WHITE RIGHTWARDS ARROW
  CIRCLED HEAVY WHITE RIGHTWARDS ARROW;WHITE-FEATHERED RIGHTWARDS ARROW
  BLACK-FEATHERED SOUTH EAST ARROW;aRIGHTWARDS ARROW;aNORTH EAST ARROW
  HEAVY BLACK-FEATHERED SOUTH EAST ARROW;bRIGHTWARDS ARROW;bNORTH EAST ARROW
  TEARDROP-BARBED RIGHTWARDS ARROW;HEAVY TEARDROP-SHANKED RIGHTWARDS ARROW
  WEDGE-TAILED RIGHTWARDS ARROW;HEAVY WEDGE-TAILED RIGHTWARDS ARROW;OPEN-OUTLINED RIGHTWARDS ARROW
  DOUBLE CURLY LOOP;THREE DIMENSIONAL ANGLE;WHITE TRIANGLE CONTAINING SMALL WHITE TRIANGLE
  PERPENDICULAR;OPEN SUBSET;aSUPERSET;LEFT S-SHAPED BAG DELIMITER;RIGHT S-SHAPED BAG DELIMITER
  OR WITH DOT INSIDE;REVERSE SOLIDUS PRECEDING SUBSET;SUPERSET PRECEDING SOLIDUS
  VERTICAL BAR WITH HORIZONTAL STROKE;MATHEMATICAL RISING DIAGONAL;LONG DIVISION
  MATHEMATICAL FALLING DIAGONAL;SQUARED LOGICAL AND;bOR;WHITE DIAMOND WITH CENTRED DOT;AND WITH DOT
  ELEMENT OF OPENING UPWARDS;LOWER RIGHT CORNER WITH DOT;UPPER LEFT CORNER WITH DOT;LEFT OUTER JOIN
  RIGHT OUTER JOIN;FULL OUTER JOIN;LARGE UP TACK;aDOWN TACK;LEFT AND RIGHT DOUBLE TURNSTILE;cTACK
  aMULTIMAP;LONG RIGHT TACK;aLEFT TACK;UP TACK WITH CIRCLE ABOVE;LOZENGE DIVIDED BY HORIZONTAL RULE
  WHITE CONCAVE-SIDED DIAMOND;cWITH LEFTWARDS TICK;dRIGHTWARDS TICK;aSQUARE WITH LEFTWARDS TICK
  cRIGHTWARDS TICK;MATHEMATICAL LEFT WHITE SQUARE BRACKET;aRIGHT WHITE SQUARE BRACKET
  aLEFT ANGLE BRACKET;aRIGHT ANGLE BRACKET;aLEFT DOUBLE ANGLE BRACKET;aRIGHT DOUBLE ANGLE BRACKET
  aLEFT WHITE TORTOISE SHELL BRACKET;aRIGHT WHITE TORTOISE SHELL BRACKET
  aLEFT FLATTENED PARENTHESIS;aRIGHT FLATTENED PARENTHESIS;UPWARDS QUADRUPLE ARROW
  DOWNWARDS QUADRUPLE ARROW;ANTICLOCKWISE GAPPED CIRCLE ARROW;CLOCKWISE GAPPED CIRCLE ARROW
  RIGHT ARROW WITH CIRCLED PLUS;LONG LEFTWARDS ARROW;aRIGHTWARDS ARROW;aLEFT RIGHT ARROW
  aLEFTWARDS DOUBLE ARROW;aRIGHTWARDS DOUBLE ARROW;aLEFT RIGHT DOUBLE ARROW
  aLEFTWARDS ARROW FROM BAR;aRIGHTWARDS ARROW FROM BAR;aLEFTWARDS DOUBLE ARROW FROM BAR
  aRIGHTWARDS DOUBLE ARROW FROM BAR;bSQUIGGLE ARROW;BRAILLE PATTERN BLANK;bDOTS-1;bDOTS-2;bDOTS-12
  bDOTS-3;bDOTS-13;bDOTS-23;bDOTS-123;bDOTS-4;bDOTS-14;bDOTS-24;bDOTS-124;bDOTS-34;bDOTS-134
  bDOTS-234;bDOTS-1234;bDOTS-5;bDOTS-15;bDOTS-25;bDOTS-125;bDOTS-35;bDOTS-135;bDOTS-235;bDOTS-1235
  bDOTS-45;bDOTS-145;bDOTS-245;bDOTS-1245;bDOTS-345;bDOTS-1345;bDOTS-2345;bDOTS-12345;bDOTS-6
  bDOTS-16;bDOTS-26;bDOTS-126;bDOTS-36;bDOTS-136;bDOTS-236;bDOTS-1236;bDOTS-46;bDOTS-146;bDOTS-246
  bDOTS-1246;bDOTS-346;bDOTS-1346;bDOTS-2346;bDOTS-12346;bDOTS-56;bDOTS-156;bDOTS-256;bDOTS-1256
  bDOTS-356;bDOTS-1356;bDOTS-2356;bDOTS-12356;bDOTS-456;bDOTS-1456;bDOTS-2456;bDOTS-12456
  bDOTS-3456;bDOTS-13456;bDOTS-23456;bDOTS-123456;bDOTS-7;bDOTS-17;bDOTS-27;bDOTS-127;bDOTS-37
  bDOTS-137;bDOTS-237;bDOTS-1237;bDOTS-47;bDOTS-147;bDOTS-247;bDOTS-1247;bDOTS-347;bDOTS-1347
  bDOTS-2347;bDOTS-12347;bDOTS-57;bDOTS-157;bDOTS-257;bDOTS-1257;bDOTS-357;bDOTS-1357;bDOTS-2357
  bDOTS-12357;bDOTS-457;bDOTS-1457;bDOTS-2457;bDOTS-12457;bDOTS-3457;bDOTS-13457;bDOTS-23457
  bDOTS-123457;bDOTS-67;bDOTS-167;bDOTS-267;bDOTS-1267;bDOTS-367;bDOTS-1367;bDOTS-2367;bDOTS-12367
  bDOTS-467;bDOTS-1467;bDOTS-2467;bDOTS-12467;bDOTS-3467;bDOTS-13467;bDOTS-23467;bDOTS-123467
  bDOTS-567;bDOTS-1567;bDOTS-2567;bDOTS-12567;bDOTS-3567;bDOTS-13567;bDOTS-23567;bDOTS-123567
  bDOTS-4567;bDOTS-14567;bDOTS-24567;bDOTS-124567;bDOTS-34567;bDOTS-134567;bDOTS-234567
  bDOTS-1234567;bDOTS-8;bDOTS-18;bDOTS-28;bDOTS-128;bDOTS-38;bDOTS-138;bDOTS-238;bDOTS-1238
  bDOTS-48;bDOTS-148;bDOTS-248;bDOTS-1248;bDOTS-348;bDOTS-1348;bDOTS-2348;bDOTS-12348;bDOTS-58
  bDOTS-158;bDOTS-258;bDOTS-1258;bDOTS-358;bDOTS-1358;bDOTS-2358;bDOTS-12358;bDOTS-458;bDOTS-1458
  bDOTS-2458;bDOTS-12458;bDOTS-3458;bDOTS-13458;bDOTS-23458;bDOTS-123458;bDOTS-68;bDOTS-168
  bDOTS-268;bDOTS-1268;bDOTS-368;bDOTS-1368;bDOTS-2368;bDOTS-12368;bDOTS-468;bDOTS-1468;bDOTS-2468
  bDOTS-12468;bDOTS-3468;bDOTS-13468;bDOTS-23468;bDOTS-123468;bDOTS-568;bDOTS-1568;bDOTS-2568
  bDOTS-12568;bDOTS-3568;bDOTS-13568;bDOTS-23568;bDOTS-123568;bDOTS-4568;bDOTS-14568;bDOTS-24568
  bDOTS-124568;bDOTS-34568;bDOTS-134568;bDOTS-234568;bDOTS-1234568;bDOTS-78;bDOTS-178;bDOTS-278
  bDOTS-1278;bDOTS-378;bDOTS-1378;bDOTS-2378;bDOTS-12378;bDOTS-478;bDOTS-1478;bDOTS-2478
  bDOTS-12478;bDOTS-3478;bDOTS-13478;bDOTS-23478;bDOTS-123478;bDOTS-578;bDOTS-1578;bDOTS-2578
  bDOTS-12578;bDOTS-3578;bDOTS-13578;bDOTS-23578;bDOTS-123578;bDOTS-4578;bDOTS-14578;bDOTS-24578
  bDOTS-124578;bDOTS-34578;bDOTS-134578;bDOTS-234578;bDOTS-1234578;bDOTS-678;bDOTS-1678;bDOTS-2678
  bDOTS-12678;bDOTS-3678;bDOTS-13678;bDOTS-23678;bDOTS-123678;bDOTS-4678;bDOTS-14678;bDOTS-24678
  bDOTS-124678;bDOTS-34678;bDOTS-134678;bDOTS-234678;bDOTS-1234678;bDOTS-5678;bDOTS-15678
  bDOTS-25678;bDOTS-125678;bDOTS-35678;bDOTS-135678;bDOTS-235678;bDOTS-1235678;bDOTS-45678
  bDOTS-145678;bDOTS-245678;bDOTS-1245678;bDOTS-345678;bDOTS-1345678;bDOTS-2345678;bDOTS-12345678
  RIGHTWARDS TWO-HEADED ARROW WITH VERTICAL STROKE;dDOUBLE VERTICAL STROKE
  LEFTWARDS DOUBLE ARROW WITH VERTICAL STROKE;RIGHTWARDS DOUBLE ARROW WITH VERTICAL STROKE
  LEFT RIGHT DOUBLE ARROW WITH VERTICAL STROKE;RIGHTWARDS TWO-HEADED ARROW FROM BAR
  LEFTWARDS DOUBLE ARROW FROM BAR;RIGHTWARDS DOUBLE ARROW FROM BAR
  DOWNWARDS ARROW WITH HORIZONTAL STROKE;UPWARDS ARROW WITH HORIZONTAL STROKE;aTRIPLE ARROW
  DOWNWARDS TRIPLE ARROW;LEFTWARDS DOUBLE DASH ARROW;RIGHTWARDS DOUBLE DASH ARROW
  LEFTWARDS TRIPLE DASH ARROW;RIGHTWARDS TRIPLE DASH ARROW;aTWO-HEADED TRIPLE DASH ARROW
  aARROW WITH DOTTED STEM;UPWARDS ARROW TO BAR;DOWNWARDS ARROW TO BAR
  RIGHTWARDS ARROW WITH TAIL WITH VERTICAL STROKE;eDOUBLE VERTICAL STROKE
  aTWO-HEADED ARROW WITH TAIL;eWITH VERTICAL STROKE;fDOUBLE VERTICAL STROKE;LEFTWARDS ARROW-TAIL
  RIGHTWARDS ARROW-TAIL;LEFTWARDS DOUBLE ARROW-TAIL;RIGHTWARDS DOUBLE ARROW-TAIL
  LEFTWARDS ARROW TO BLACK DIAMOND;RIGHTWARDS ARROW TO BLACK DIAMOND
  LEFTWARDS ARROW FROM BAR TO BLACK DIAMOND;RIGHTWARDS ARROW FROM BAR TO BLACK DIAMOND
  NORTH WEST AND SOUTH EAST ARROW;aEAST AND SOUTH WEST ARROW;aWEST ARROW WITH HOOK
  aEAST ARROW WITH HOOK;SOUTH EAST ARROW WITH HOOK;aWEST ARROW WITH HOOK
  NORTH WEST ARROW AND NORTH EAST ARROW;aEAST ARROW AND SOUTH EAST ARROW
  SOUTH EAST ARROW AND SOUTH WEST ARROW;aWEST ARROW AND NORTH WEST ARROW
  RISING DIAGONAL CROSSING FALLING DIAGONAL;FALLING DIAGONAL CROSSING RISING DIAGONAL
  SOUTH EAST ARROW CROSSING NORTH EAST ARROW;NORTH EAST ARROW CROSSING SOUTH EAST ARROW
  FALLING DIAGONAL CROSSING NORTH EAST ARROW;RISING DIAGONAL CROSSING SOUTH EAST ARROW
  NORTH EAST ARROW CROSSING NORTH WEST ARROW;aWEST ARROW CROSSING NORTH EAST ARROW
  WAVE ARROW POINTING DIRECTLY RIGHT;ARROW POINTING RIGHTWARDS THEN CURVING UPWARDS;eDOWNWARDS
  bDOWNWARDS THEN CURVING LEFTWARDS;eRIGHTWARDS;RIGHT-SIDE ARC CLOCKWISE ARROW
  LEFT-SIDE ARC ANTICLOCKWISE ARROW;TOP ARC ANTICLOCKWISE ARROW;BOTTOM ARC ANTICLOCKWISE ARROW
  TOP ARC CLOCKWISE ARROW WITH MINUS;bANTICLOCKWISE ARROW WITH PLUS
  LOWER RIGHT SEMICIRCULAR CLOCKWISE ARROW;aLEFT SEMICIRCULAR ANTICLOCKWISE ARROW
  ANTICLOCKWISE CLOSED CIRCLE ARROW;CLOCKWISE CLOSED CIRCLE ARROW
  RIGHTWARDS ARROW ABOVE SHORT LEFTWARDS ARROW;LEFTWARDS ARROW ABOVE SHORT RIGHTWARDS ARROW
  SHORT RIGHTWARDS ARROW ABOVE LEFTWARDS ARROW;RIGHTWARDS ARROW WITH PLUS BELOW
  LEFTWARDS ARROW WITH PLUS BELOW;RIGHTWARDS ARROW THROUGH X;LEFT RIGHT ARROW THROUGH SMALL CIRCLE
  UPWARDS TWO-HEADED ARROW FROM SMALL CIRCLE;LEFT BARB UP RIGHT BARB DOWN HARPOON
  bDOWN RIGHT BARB UP HARPOON;UP BARB RIGHT DOWN BARB LEFT HARPOON;bLEFT DOWN BARB RIGHT HARPOON
  LEFT BARB UP RIGHT BARB UP HARPOON;UP BARB RIGHT DOWN BARB RIGHT HARPOON
  LEFT BARB DOWN RIGHT BARB DOWN HARPOON;UP BARB LEFT DOWN BARB LEFT HARPOON
  LEFTWARDS HARPOON WITH BARB UP TO BAR;RIGHTWARDS HARPOON WITH BARB UP TO BAR
  UPWARDS HARPOON WITH BARB RIGHT TO BAR;DOWNWARDS HARPOON WITH BARB RIGHT TO BAR
  LEFTWARDS HARPOON WITH BARB DOWN TO BAR;RIGHTWARDS HARPOON WITH BARB DOWN TO BAR
  UPWARDS HARPOON WITH BARB LEFT TO BAR;DOWNWARDS HARPOON WITH BARB LEFT TO BAR
  LEFTWARDS HARPOON WITH BARB UP FROM BAR;RIGHTWARDS HARPOON WITH BARB UP FROM BAR
  UPWARDS HARPOON WITH BARB RIGHT FROM BAR;DOWNWARDS HARPOON WITH BARB RIGHT FROM BAR
  LEFTWARDS HARPOON WITH BARB DOWN FROM BAR;RIGHTWARDS HARPOON WITH BARB DOWN FROM BAR
  UPWARDS HARPOON WITH BARB LEFT FROM BAR;DOWNWARDS HARPOON WITH BARB LEFT FROM BAR
  LEFTWARDS HARPOON WITH BARB UP ABOVE LEFTWARDS HARPOON WITH BARB DOWN
  UPWARDS HARPOON WITH BARB LEFT BESIDE UPWARDS HARPOON WITH BARB RIGHT
  RIGHTWARDS HARPOON WITH BARB UP ABOVE RIGHTWARDS HARPOON WITH BARB DOWN
  DOWNWARDS HARPOON WITH BARB LEFT BESIDE DOWNWARDS HARPOON WITH BARB RIGHT
  LEFTWARDS HARPOON WITH BARB UP ABOVE RIGHTWARDS HARPOON WITH BARB UP
  dDOWN ABOVE RIGHTWARDS HARPOON WITH BARB DOWN
  RIGHTWARDS HARPOON WITH BARB UP ABOVE LEFTWARDS HARPOON WITH BARB UP
  dDOWN ABOVE LEFTWARDS HARPOON WITH BARB DOWN;LEFTWARDS HARPOON WITH BARB UP ABOVE LONG DASH
  dDOWN BELOW LONG DASH;RIGHTWARDS HARPOON WITH BARB UP ABOVE LONG DASH;dDOWN BELOW LONG DASH
  UPWARDS HARPOON WITH BARB LEFT BESIDE DOWNWARDS HARPOON WITH BARB RIGHT
  DOWNWARDS HARPOON WITH BARB LEFT BESIDE UPWARDS HARPOON WITH BARB RIGHT
  RIGHT DOUBLE ARROW WITH ROUNDED HEAD;EQUALS SIGN ABOVE RIGHTWARDS ARROW
  TILDE OPERATOR ABOVE RIGHTWARDS ARROW;LEFTWARDS ARROW ABOVE TILDE OPERATOR
  RIGHTWARDS ARROW ABOVE TILDE OPERATOR;cALMOST EQUAL TO;LESS-THAN ABOVE LEFTWARDS ARROW
  LEFTWARDS ARROW THROUGH LESS-THAN;GREATER-THAN ABOVE RIGHTWARDS ARROW
  SUBSET ABOVE RIGHTWARDS ARROW;LEFTWARDS ARROW THROUGH SUBSET;SUPERSET ABOVE LEFTWARDS ARROW
  LEFT FISH TAIL;RIGHT FISH TAIL;UP FISH TAIL;DOWN FISH TAIL;TRIPLE VERTICAL BAR DELIMITER
  Z NOTATION SPOT;bTYPE COLON;LEFT WHITE CURLY BRACKET;RIGHT WHITE CURLY BRACKET
  LEFT WHITE PARENTHESIS;RIGHT WHITE PARENTHESIS;Z NOTATION LEFT IMAGE BRACKET;bRIGHT IMAGE BRACKET
  bLEFT BINDING BRACKET;bRIGHT BINDING BRACKET;LEFT SQUARE BRACKET WITH UNDERBAR
  RIGHT SQUARE BRACKET WITH UNDERBAR;LEFT SQUARE BRACKET WITH TICK IN TOP CORNER
  RIGHT SQUARE BRACKET WITH TICK IN BOTTOM CORNER;LEFT SQUARE BRACKET WITH TICK IN BOTTOM CORNER
  RIGHT SQUARE BRACKET WITH TICK IN TOP CORNER;LEFT ANGLE BRACKET WITH DOT
  RIGHT ANGLE BRACKET WITH DOT;LEFT ARC LESS-THAN BRACKET;RIGHT ARC GREATER-THAN BRACKET
  DOUBLE LEFT ARC GREATER-THAN BRACKET;aRIGHT ARC LESS-THAN BRACKET
  LEFT BLACK TORTOISE SHELL BRACKET;RIGHT BLACK TORTOISE SHELL BRACKET;DOTTED FENCE
  VERTICAL ZIGZAG LINE;MEASURED ANGLE OPENING LEFT;RIGHT ANGLE VARIANT WITH SQUARE
  MEASURED RIGHT ANGLE WITH DOT;ANGLE WITH S INSIDE;ACUTE ANGLE;SPHERICAL ANGLE OPENING LEFT;cUP
  TURNED ANGLE;REVERSED ANGLE;ANGLE WITH UNDERBAR;REVERSED ANGLE WITH UNDERBAR
  OBLIQUE ANGLE OPENING UP;cDOWN;MEASURED ANGLE WITH OPEN ARM ENDING IN ARROW POINTING UP AND RIGHT
  kLEFT;iDOWN AND RIGHT;kLEFT;iRIGHT AND UP;iLEFT AND UP;iRIGHT AND DOWN;iLEFT AND DOWN
  REVERSED EMPTY SET;EMPTY SET WITH OVERBAR;cSMALL CIRCLE ABOVE;cRIGHT ARROW ABOVE
  cLEFT ARROW ABOVE;CIRCLE WITH HORIZONTAL BAR;CIRCLED VERTICAL BAR;aPARALLEL;aREVERSE SOLIDUS
  aPERPENDICULAR;CIRCLE DIVIDED BY HORIZONTAL BAR AND TOP HALF DIVIDED BY VERTICAL BAR
  aWITH SUPERIMPOSED X;CIRCLED ANTICLOCKWISE-ROTATED DIVISION SIGN;UP ARROW THROUGH CIRCLE
  CIRCLED WHITE BULLET;aBULLET;aLESS-THAN;aGREATER-THAN;CIRCLE WITH SMALL CIRCLE TO THE RIGHT
  bTWO HORIZONTAL STROKES TO THE RIGHT;SQUARED RISING DIAGONAL SLASH;aFALLING DIAGONAL SLASH
  aASTERISK;aSMALL CIRCLE;aSQUARE;TWO JOINED SQUARES;TRIANGLE WITH DOT ABOVE;bUNDERBAR
  S IN TRIANGLE;TRIANGLE WITH SERIFS AT BOTTOM;RIGHT TRIANGLE ABOVE LEFT TRIANGLE
  LEFT TRIANGLE BESIDE VERTICAL BAR;VERTICAL BAR BESIDE RIGHT TRIANGLE;BOWTIE WITH LEFT HALF BLACK
  bRIGHT HALF BLACK;BLACK BOWTIE;TIMES WITH LEFT HALF BLACK;bRIGHT HALF BLACK;WHITE HOURGLASS
  BLACK HOURGLASS;LEFT WIGGLY FENCE;RIGHT WIGGLY FENCE;LEFT DOUBLE WIGGLY FENCE
  RIGHT DOUBLE WIGGLY FENCE;INCOMPLETE INFINITY;TIE OVER INFINITY
  INFINITY NEGATED WITH VERTICAL BAR;DOUBLE-ENDED MULTIMAP;SQUARE WITH CONTOURED OUTLINE
  INCREASES AS;SHUFFLE PRODUCT;EQUALS SIGN AND SLANTED PARALLEL;eWITH TILDE ABOVE
  IDENTICAL TO AND SLANTED PARALLEL;GLEICH STARK;THERMODYNAMIC
  DOWN-POINTING TRIANGLE WITH LEFT HALF BLACK;cRIGHT HALF BLACK;BLACK DIAMOND WITH DOWN ARROW
  aLOZENGE;WHITE CIRCLE WITH DOWN ARROW;BLACK CIRCLE WITH DOWN ARROW;ERROR-BARRED WHITE SQUARE
  aBLACK SQUARE;aWHITE DIAMOND;aBLACK DIAMOND;aWHITE CIRCLE;aBLACK CIRCLE;RULE-DELAYED
  REVERSE SOLIDUS OPERATOR;SOLIDUS WITH OVERBAR;REVERSE SOLIDUS WITH HORIZONTAL STROKE;BIG SOLIDUS
  aREVERSE SOLIDUS;DOUBLE PLUS;TRIPLE PLUS;LEFT-POINTING CURVED ANGLE BRACKET
  RIGHT-POINTING CURVED ANGLE BRACKET;TINY;MINY;N-ARY CIRCLED DOT OPERATOR;bPLUS OPERATOR
  bTIMES OPERATOR;aUNION OPERATOR WITH DOT;dPLUS;aSQUARE INTERSECTION OPERATOR;bUNION OPERATOR
  TWO LOGICAL AND OPERATOR;bOR OPERATOR;N-ARY TIMES OPERATOR;MODULO TWO SUM;SUMMATION WITH INTEGRAL
  QUADRUPLE INTEGRAL OPERATOR;FINITE PART INTEGRAL;INTEGRAL WITH DOUBLE STROKE;aAVERAGE WITH SLASH
  CIRCULATION FUNCTION;ANTICLOCKWISE INTEGRATION;LINE INTEGRATION WITH RECTANGULAR PATH AROUND POLE
  cSEMICIRCULAR PATH AROUND POLE;bNOT INCLUDING THE POLE;INTEGRAL AROUND A POINT OPERATOR
  QUATERNION INTEGRAL OPERATOR;INTEGRAL WITH LEFTWARDS ARROW WITH HOOK;bTIMES SIGN;bINTERSECTION
  bUNION;bOVERBAR;bUNDERBAR;JOIN;LARGE LEFT TRIANGLE OPERATOR;Z NOTATION SCHEMA COMPOSITION;cPIPING
  cPROJECTION;PLUS SIGN WITH SMALL CIRCLE ABOVE;cCIRCUMFLEX ACCENT ABOVE;cTILDE ABOVE;cDOT BELOW
  cTILDE BELOW;cSUBSCRIPT TWO;cBLACK TRIANGLE;MINUS SIGN WITH COMMA ABOVE;cDOT BELOW;cFALLING DOTS
  cRISING DOTS;PLUS SIGN IN LEFT HALF CIRCLE;cRIGHT HALF CIRCLE;VECTOR OR CROSS PRODUCT
  MULTIPLICATION SIGN WITH DOT ABOVE;cUNDERBAR;SEMIDIRECT PRODUCT WITH BOTTOM CLOSED;SMASH PRODUCT
  MULTIPLICATION SIGN IN LEFT HALF CIRCLE;cRIGHT HALF CIRCLE
  CIRCLED MULTIPLICATION SIGN WITH CIRCUMFLEX ACCENT;MULTIPLICATION SIGN IN DOUBLE CIRCLE
  CIRCLED DIVISION SIGN;PLUS SIGN IN TRIANGLE;MINUS SIGN IN TRIANGLE
  MULTIPLICATION SIGN IN TRIANGLE;INTERIOR PRODUCT;RIGHTHAND INTERIOR PRODUCT
  Z NOTATION RELATIONAL COMPOSITION;AMALGAMATION OR COPRODUCT;INTERSECTION WITH DOT
  UNION WITH MINUS SIGN;bOVERBAR;INTERSECTION WITH OVERBAR;bLOGICAL AND;UNION WITH LOGICAL OR
  aABOVE INTERSECTION;INTERSECTION ABOVE UNION;UNION ABOVE BAR ABOVE INTERSECTION
  INTERSECTION ABOVE BAR ABOVE UNION;UNION BESIDE AND JOINED WITH UNION
  INTERSECTION BESIDE AND JOINED WITH INTERSECTION;CLOSED UNION WITH SERIFS
  aINTERSECTION WITH SERIFS;DOUBLE SQUARE INTERSECTION;bUNION
  CLOSED UNION WITH SERIFS AND SMASH PRODUCT;LOGICAL AND WITH DOT ABOVE;aOR WITH DOT ABOVE
  DOUBLE LOGICAL AND;bOR;TWO INTERSECTING LOGICAL AND;cOR;SLOPING LARGE OR;bAND
  LOGICAL OR OVERLAPPING LOGICAL AND;aAND WITH MIDDLE STEM;aOR WITH MIDDLE STEM
  aAND WITH HORIZONTAL DASH;aOR WITH HORIZONTAL DASH;aAND WITH DOUBLE OVERBAR;cUNDERBAR
  cDOUBLE UNDERBAR;SMALL VEE WITH UNDERBAR;LOGICAL OR WITH DOUBLE OVERBAR;dUNDERBAR
  Z NOTATION DOMAIN ANTIRESTRICTION;bRANGE ANTIRESTRICTION;EQUALS SIGN WITH DOT BELOW
  IDENTICAL WITH DOT ABOVE;TRIPLE HORIZONTAL BAR WITH DOUBLE VERTICAL STROKE
  dTRIPLE VERTICAL STROKE;TILDE OPERATOR WITH DOT ABOVE;cRISING DOTS;SIMILAR MINUS SIMILAR
  CONGRUENT WITH DOT ABOVE;EQUALS WITH ASTERISK;ALMOST EQUAL TO WITH CIRCUMFLEX ACCENT
  APPROXIMATELY EQUAL OR EQUAL TO;EQUALS SIGN ABOVE PLUS SIGN;PLUS SIGN ABOVE EQUALS SIGN
  EQUALS SIGN ABOVE TILDE OPERATOR;DOUBLE COLON EQUAL;TWO CONSECUTIVE EQUALS SIGNS
  THREE CONSECUTIVE EQUALS SIGNS;EQUALS SIGN WITH TWO DOTS ABOVE AND TWO DOTS BELOW
  EQUIVALENT WITH FOUR DOTS ABOVE;LESS-THAN WITH CIRCLE INSIDE;GREATER-THAN WITH CIRCLE INSIDE
  LESS-THAN WITH QUESTION MARK ABOVE;GREATER-THAN WITH QUESTION MARK ABOVE
  LESS-THAN OR SLANTED EQUAL TO;GREATER-THAN OR SLANTED EQUAL TO
  LESS-THAN OR SLANTED EQUAL TO WITH DOT INSIDE;GREATER-THAN OR SLANTED EQUAL TO WITH DOT INSIDE
  LESS-THAN OR SLANTED EQUAL TO WITH DOT ABOVE;GREATER-THAN OR SLANTED EQUAL TO WITH DOT ABOVE
  LESS-THAN OR SLANTED EQUAL TO WITH DOT ABOVE RIGHT
  GREATER-THAN OR SLANTED EQUAL TO WITH DOT ABOVE LEFT;LESS-THAN OR APPROXIMATE
  GREATER-THAN OR APPROXIMATE;LESS-THAN AND SINGLE-LINE NOT EQUAL TO
  GREATER-THAN AND SINGLE-LINE NOT EQUAL TO;LESS-THAN AND NOT APPROXIMATE
  GREATER-THAN AND NOT APPROXIMATE;LESS-THAN ABOVE DOUBLE-LINE EQUAL ABOVE GREATER-THAN
  GREATER-THAN ABOVE DOUBLE-LINE EQUAL ABOVE LESS-THAN;LESS-THAN ABOVE SIMILAR OR EQUAL
  GREATER-THAN ABOVE SIMILAR OR EQUAL;LESS-THAN ABOVE SIMILAR ABOVE GREATER-THAN
  GREATER-THAN ABOVE SIMILAR ABOVE LESS-THAN;LESS-THAN ABOVE GREATER-THAN ABOVE DOUBLE-LINE EQUAL
  GREATER-THAN ABOVE LESS-THAN ABOVE DOUBLE-LINE EQUAL
  LESS-THAN ABOVE SLANTED EQUAL ABOVE GREATER-THAN ABOVE SLANTED EQUAL
  GREATER-THAN ABOVE SLANTED EQUAL ABOVE LESS-THAN ABOVE SLANTED EQUAL
  SLANTED EQUAL TO OR LESS-THAN;dGREATER-THAN;dLESS-THAN WITH DOT INSIDE
  dGREATER-THAN WITH DOT INSIDE;DOUBLE-LINE EQUAL TO OR LESS-THAN;dGREATER-THAN
  aSLANTED EQUAL TO OR LESS-THAN;eGREATER-THAN;SIMILAR OR LESS-THAN;bGREATER-THAN
  aABOVE LESS-THAN ABOVE EQUALS SIGN;bGREATER-THAN ABOVE EQUALS SIGN;DOUBLE NESTED LESS-THAN
  bGREATER-THAN;bLESS-THAN WITH UNDERBAR;GREATER-THAN OVERLAPPING LESS-THAN;aBESIDE LESS-THAN
  LESS-THAN CLOSED BY CURVE;GREATER-THAN CLOSED BY CURVE
  LESS-THAN CLOSED BY CURVE ABOVE SLANTED EQUAL;GREATER-THAN CLOSED BY CURVE ABOVE SLANTED EQUAL
  SMALLER THAN;LARGER THAN;SMALLER THAN OR EQUAL TO;LARGER THAN OR EQUAL TO
  EQUALS SIGN WITH BUMPY ABOVE;PRECEDES ABOVE SINGLE-LINE EQUALS SIGN
  SUCCEEDS ABOVE SINGLE-LINE EQUALS SIGN;PRECEDES ABOVE SINGLE-LINE NOT EQUAL TO
  SUCCEEDS ABOVE SINGLE-LINE NOT EQUAL TO;PRECEDES ABOVE EQUALS SIGN;SUCCEEDS ABOVE EQUALS SIGN
  PRECEDES ABOVE NOT EQUAL TO;SUCCEEDS ABOVE NOT EQUAL TO;PRECEDES ABOVE ALMOST EQUAL TO
  SUCCEEDS ABOVE ALMOST EQUAL TO;PRECEDES ABOVE NOT ALMOST EQUAL TO
  SUCCEEDS ABOVE NOT ALMOST EQUAL TO;DOUBLE PRECEDES;aSUCCEEDS;SUBSET WITH DOT;SUPERSET WITH DOT
  SUBSET WITH PLUS SIGN BELOW;SUPERSET WITH PLUS SIGN BELOW;SUBSET WITH MULTIPLICATION SIGN BELOW
  SUPERSET WITH MULTIPLICATION SIGN BELOW;SUBSET OF OR EQUAL TO WITH DOT ABOVE
  SUPERSET OF OR EQUAL TO WITH DOT ABOVE;SUBSET OF ABOVE EQUALS SIGN;SUPERSET OF ABOVE EQUALS SIGN
  SUBSET OF ABOVE TILDE OPERATOR;SUPERSET OF ABOVE TILDE OPERATOR;SUBSET OF ABOVE ALMOST EQUAL TO
  SUPERSET OF ABOVE ALMOST EQUAL TO;SUBSET OF ABOVE NOT EQUAL TO;SUPERSET OF ABOVE NOT EQUAL TO
  SQUARE LEFT OPEN BOX OPERATOR;aRIGHT OPEN BOX OPERATOR;CLOSED SUBSET;aSUPERSET
  aSUBSET OR EQUAL TO;aSUPERSET OR EQUAL TO;SUBSET ABOVE SUPERSET;SUPERSET ABOVE SUBSET
  SUBSET ABOVE SUBSET;SUPERSET ABOVE SUPERSET;aBESIDE SUBSET;bAND JOINED BY DASH WITH SUBSET
  ELEMENT OF OPENING DOWNWARDS;PITCHFORK WITH TEE TOP;TRANSVERSAL INTERSECTION;FORKING;NONFORKING
  SHORT LEFT TACK;aDOWN TACK;aUP TACK;PERPENDICULAR WITH S;VERTICAL BAR TRIPLE RIGHT TURNSTILE
  DOUBLE VERTICAL BAR LEFT TURNSTILE;VERTICAL BAR DOUBLE LEFT TURNSTILE
  DOUBLE VERTICAL BAR DOUBLE LEFT TURNSTILE;LONG DASH FROM LEFT MEMBER OF DOUBLE VERTICAL
  SHORT DOWN TACK WITH OVERBAR;aUP TACK WITH UNDERBAR;cABOVE SHORT DOWN TACK;DOUBLE DOWN TACK
  aUP TACK;aSTROKE NOT SIGN;REVERSED DOUBLE STROKE NOT SIGN
  DOES NOT DIVIDE WITH REVERSED NEGATION SLASH;VERTICAL LINE WITH CIRCLE ABOVE;dBELOW
  DOWN TACK WITH CIRCLE BELOW;PARALLEL WITH HORIZONTAL STROKE;bTILDE OPERATOR
  TRIPLE VERTICAL BAR BINARY RELATION;cWITH HORIZONTAL STROKE;aCOLON OPERATOR;aNESTED LESS-THAN
  bGREATER-THAN;DOUBLE-LINE SLANTED LESS-THAN OR EQUAL TO;bGREATER-THAN OR EQUAL TO
  TRIPLE SOLIDUS BINARY RELATION;LARGE TRIPLE VERTICAL BAR OPERATOR;DOUBLE SOLIDUS OPERATOR
  WHITE VERTICAL BAR;N-ARY WHITE VERTICAL BAR;NORTH EAST WHITE ARROW;aWEST WHITE ARROW
  SOUTH EAST WHITE ARROW;aWEST WHITE ARROW;LEFT RIGHT WHITE ARROW;LEFTWARDS BLACK ARROW
  UPWARDS BLACK ARROW;DOWNWARDS BLACK ARROW;NORTH EAST BLACK ARROW;aWEST BLACK ARROW
  SOUTH EAST BLACK ARROW;aWEST BLACK ARROW;LEFT RIGHT BLACK ARROW;UP DOWN BLACK ARROW
  RIGHTWARDS ARROW WITH TIP DOWNWARDS;dUPWARDS;LEFTWARDS ARROW WITH TIP DOWNWARDS;dUPWARDS
  SQUARE WITH TOP HALF BLACK;bBOTTOM HALF BLACK;bUPPER RIGHT DIAGONAL HALF BLACK
  bLOWER LEFT DIAGONAL HALF BLACK;DIAMOND WITH LEFT HALF BLACK;bRIGHT HALF BLACK;bTOP HALF BLACK
  bBOTTOM HALF BLACK;DOTTED SQUARE;BLACK LARGE SQUARE;WHITE LARGE SQUARE;BLACK VERY SMALL SQUARE
  WHITE VERY SMALL SQUARE;BLACK PENTAGON;WHITE PENTAGON;aHEXAGON;BLACK HEXAGON
  HORIZONTAL BLACK HEXAGON;BLACK LARGE CIRCLE;aMEDIUM DIAMOND;WHITE MEDIUM DIAMOND
  BLACK MEDIUM LOZENGE;WHITE MEDIUM LOZENGE;BLACK SMALL DIAMOND;bLOZENGE;WHITE SMALL LOZENGE
  BLACK HORIZONTAL ELLIPSE;WHITE HORIZONTAL ELLIPSE;BLACK VERTICAL ELLIPSE;WHITE VERTICAL ELLIPSE
  LEFT ARROW WITH SMALL CIRCLE;THREE LEFTWARDS ARROWS;LEFT ARROW WITH CIRCLED PLUS
  LONG LEFTWARDS SQUIGGLE ARROW;LEFTWARDS TWO-HEADED ARROW WITH VERTICAL STROKE
  dDOUBLE VERTICAL STROKE;cFROM BAR;bTRIPLE DASH ARROW;aARROW WITH DOTTED STEM
  cTAIL WITH VERTICAL STROKE;eDOUBLE VERTICAL STROKE;aTWO-HEADED ARROW WITH TAIL
  eWITH VERTICAL STROKE;fDOUBLE VERTICAL STROKE;aARROW THROUGH X;WAVE ARROW POINTING DIRECTLY LEFT
  EQUALS SIGN ABOVE LEFTWARDS ARROW;REVERSE TILDE OPERATOR ABOVE LEFTWARDS ARROW
  LEFTWARDS ARROW ABOVE REVERSE ALMOST EQUAL TO;RIGHTWARDS ARROW THROUGH GREATER-THAN;cSUPERSET
  LEFTWARDS QUADRUPLE ARROW;RIGHTWARDS QUADRUPLE ARROW
  REVERSE TILDE OPERATOR ABOVE RIGHTWARDS ARROW;RIGHTWARDS ARROW ABOVE REVERSE ALMOST EQUAL TO
  TILDE OPERATOR ABOVE LEFTWARDS ARROW;LEFTWARDS ARROW ABOVE ALMOST EQUAL TO
  cREVERSE TILDE OPERATOR;RIGHTWARDS ARROW ABOVE REVERSE TILDE OPERATOR
  DOWNWARDS TRIANGLE-HEADED ZIGZAG ARROW;SHORT SLANTED NORTH ARROW;aBACKSLANTED SOUTH ARROW
  WHITE MEDIUM STAR;BLACK SMALL STAR;WHITE SMALL STAR;BLACK RIGHT-POINTING PENTAGON
  WHITE RIGHT-POINTING PENTAGON;HEAVY LARGE CIRCLE;aOVAL WITH OVAL INSIDE
  aCIRCLE WITH CIRCLE INSIDE;aCIRCLE;aCIRCLED SALTIRE;SLANTED NORTH ARROW WITH HOOKED HEAD
  BACKSLANTED SOUTH ARROW WITH HOOKED TAIL;SLANTED NORTH ARROW WITH HORIZONTAL TAIL
  BACKSLANTED SOUTH ARROW WITH HORIZONTAL TAIL;BENT ARROW POINTING DOWNWARDS THEN NORTH EAST
  SHORT BENT ARROW POINTING DOWNWARDS THEN NORTH EAST;LEFTWARDS TRIANGLE-HEADED ARROW
  UPWARDS TRIANGLE-HEADED ARROW;RIGHTWARDS TRIANGLE-HEADED ARROW;DOWNWARDS TRIANGLE-HEADED ARROW
  LEFT RIGHT TRIANGLE-HEADED ARROW;UP DOWN TRIANGLE-HEADED ARROW;NORTH WEST TRIANGLE-HEADED ARROW
  aEAST TRIANGLE-HEADED ARROW;SOUTH EAST TRIANGLE-HEADED ARROW;aWEST TRIANGLE-HEADED ARROW
  LEFTWARDS TRIANGLE-HEADED DASHED ARROW;UPWARDS TRIANGLE-HEADED DASHED ARROW
  RIGHTWARDS TRIANGLE-HEADED DASHED ARROW;DOWNWARDS TRIANGLE-HEADED DASHED ARROW
  CLOCKWISE TRIANGLE-HEADED OPEN CIRCLE ARROW;ANTICLOCKWISE TRIANGLE-HEADED OPEN CIRCLE ARROW
  LEFTWARDS TRIANGLE-HEADED ARROW TO BAR;UPWARDS TRIANGLE-HEADED ARROW TO BAR
  RIGHTWARDS TRIANGLE-HEADED ARROW TO BAR;DOWNWARDS TRIANGLE-HEADED ARROW TO BAR;=2B76
  NORTH WEST TRIANGLE-HEADED ARROW TO BAR;aEAST TRIANGLE-HEADED ARROW TO BAR
  SOUTH EAST TRIANGLE-HEADED ARROW TO BAR;aWEST TRIANGLE-HEADED ARROW TO BAR
  LEFTWARDS TRIANGLE-HEADED ARROW WITH DOUBLE HORIZONTAL STROKE
  UPWARDS TRIANGLE-HEADED ARROW WITH DOUBLE HORIZONTAL STROKE
  RIGHTWARDS TRIANGLE-HEADED ARROW WITH DOUBLE HORIZONTAL STROKE
  DOWNWARDS TRIANGLE-HEADED ARROW WITH DOUBLE HORIZONTAL STROKE;HORIZONTAL TAB KEY;VERTICAL TAB KEY
  LEFTWARDS TRIANGLE-HEADED ARROW OVER RIGHTWARDS TRIANGLE-HEADED ARROW
  UPWARDS TRIANGLE-HEADED ARROW LEFTWARDS OF DOWNWARDS TRIANGLE-HEADED ARROW
  RIGHTWARDS TRIANGLE-HEADED ARROW OVER LEFTWARDS TRIANGLE-HEADED ARROW
  DOWNWARDS TRIANGLE-HEADED ARROW LEFTWARDS OF UPWARDS TRIANGLE-HEADED ARROW
  LEFTWARDS TRIANGLE-HEADED PAIRED ARROWS;UPWARDS TRIANGLE-HEADED PAIRED ARROWS
  RIGHTWARDS TRIANGLE-HEADED PAIRED ARROWS;DOWNWARDS TRIANGLE-HEADED PAIRED ARROWS
  LEFTWARDS BLACK CIRCLED WHITE ARROW;UPWARDS BLACK CIRCLED WHITE ARROW
  RIGHTWARDS BLACK CIRCLED WHITE ARROW;DOWNWARDS BLACK CIRCLED WHITE ARROW
  ANTICLOCKWISE TRIANGLE-HEADED RIGHT U-SHAPED ARROW;bBOTTOM U-SHAPED ARROW;bLEFT U-SHAPED ARROW
  bTOP U-SHAPED ARROW;RETURN LEFT;aRIGHT;NEWLINE LEFT;aRIGHT
  FOUR CORNER ARROWS CIRCLING ANTICLOCKWISE;RIGHTWARDS BLACK ARROW;=2B97
  SYMBOL FOR TYPE A ELECTRONICS;THREE-D TOP-LIGHTED LEFTWARDS EQUILATERAL ARROWHEAD
  aRIGHT-LIGHTED UPWARDS EQUILATERAL ARROWHEAD;aTOP-LIGHTED RIGHTWARDS EQUILATERAL ARROWHEAD
  aLEFT-LIGHTED DOWNWARDS EQUILATERAL ARROWHEAD;BLACK LEFTWARDS EQUILATERAL ARROWHEAD
  aUPWARDS EQUILATERAL ARROWHEAD;aRIGHTWARDS EQUILATERAL ARROWHEAD;aDOWNWARDS EQUILATERAL ARROWHEAD
  DOWNWARDS TRIANGLE-HEADED ARROW WITH LONG TIP LEFTWARDS;fRIGHTWARDS
  UPWARDS TRIANGLE-HEADED ARROW WITH LONG TIP LEFTWARDS;fRIGHTWARDS
  LEFTWARDS TRIANGLE-HEADED ARROW WITH LONG TIP UPWARDS
  RIGHTWARDS TRIANGLE-HEADED ARROW WITH LONG TIP UPWARDS
  LEFTWARDS TRIANGLE-HEADED ARROW WITH LONG TIP DOWNWARDS
  RIGHTWARDS TRIANGLE-HEADED ARROW WITH LONG TIP DOWNWARDS
  BLACK CURVED DOWNWARDS AND LEFTWARDS ARROW;dRIGHTWARDS ARROW;bUPWARDS AND LEFTWARDS ARROW
  dRIGHTWARDS ARROW;bLEFTWARDS AND UPWARDS ARROW;bRIGHTWARDS AND UPWARDS ARROW
  bLEFTWARDS AND DOWNWARDS ARROW;bRIGHTWARDS AND DOWNWARDS ARROW;RIBBON ARROW DOWN LEFT;cRIGHT
  bUP LEFT;cRIGHT;bLEFT UP;bRIGHT UP;bLEFT DOWN;bRIGHT DOWN
  UPWARDS WHITE ARROW FROM BAR WITH HORIZONTAL BAR;UP ARROWHEAD IN A RECTANGLE BOX
  OVERLAPPING WHITE SQUARES;bAND BLACK SQUARES;aBLACK SQUARES;BALLOT BOX WITH LIGHT X;CIRCLED X
  aBOLD X;BLACK SQUARE CENTRED;aDIAMOND CENTRED;TURNED BLACK PENTAGON;HORIZONTAL BLACK OCTAGON
  BLACK OCTAGON;aMEDIUM UP-POINTING TRIANGLE CENTRED;bDOWN-POINTING TRIANGLE CENTRED
  bLEFT-POINTING TRIANGLE CENTRED;bRIGHT-POINTING TRIANGLE CENTRED;NEPTUNE FORM TWO
  TOP HALF BLACK CIRCLE;BOTTOM HALF BLACK CIRCLE;LIGHT FOUR POINTED BLACK CUSP
  ROTATED LIGHT FOUR POINTED BLACK CUSP;WHITE FOUR POINTED CUSP;ROTATED WHITE FOUR POINTED CUSP
  SQUARE POSITION INDICATOR;UNCERTAINTY SIGN;GROUP MARK;PLUTO FORM TWO;bTHREE;bFOUR;bFIVE
  TRANSPLUTO;PROSERPINA;ASTRAEA;HYGIEA;PHOLUS;NESSUS;WHITE MOON SELENA;BLACK DIAMOND ON CROSS
  TRUE LIGHT MOON ARTA;CUPIDO;HADES;ZEUS;KRONOS;APOLLON;ADMETOS;VULCANUS;POSEIDON
  LEFT HALF BLACK STAR;RIGHT HALF BLACK STAR;STAR WITH LEFT HALF BLACK;bRIGHT HALF BLACK
  LEFTWARDS TWO-HEADED ARROW WITH TRIANGLE ARROWHEADS
  UPWARDS TWO-HEADED ARROW WITH TRIANGLE ARROWHEADS
  RIGHTWARDS TWO-HEADED ARROW WITH TRIANGLE ARROWHEADS
  DOWNWARDS TWO-HEADED ARROW WITH TRIANGLE ARROWHEADS;ERIS FORM ONE;bTWO;SEDNA
  RUSSIAN ASTROLOGICAL SYMBOL VIGINTILE;cNOVILE;cQUINTILE;cBINOVILE;cSENTAGON;cTREDECILE
  EQUALS SIGN WITH INFINITY BELOW;UNITED SYMBOL;SEPARATED SYMBOL;DOUBLED SYMBOL;PASSED SYMBOL
  REVERSED RIGHT ANGLE;HELLSCHREIBER PAUSE SYMBOL;GLAGOLITIC CAPITAL LETTER AZU;cBUKY;cVEDE
  cGLAGOLI;cDOBRO;cYESTU;cZHIVETE;cDZELO;cZEMLJA;cIZHE;cINITIAL IZHE;cI;cDJERVI;cKAKO;cLJUDIJE
  cMYSLITE;cNASHI;cONU;cPOKOJI;cRITSI;cSLOVO;cTVRIDO;cUKU;cFRITU;cHERU;cOTU;cPE;cSHTA;cTSI;cCHRIVI
  cSHA;cYERU;cYERI;cYATI;cSPIDERY HA;cYU;cSMALL YUS;eWITH TAIL;cYO;cIOTATED SMALL YUS;cBIG YUS
  cIOTATED BIG YUS;cFITA;cIZHITSA;cSHTAPIC;cTROKUTASTI A;cLATINATE MYSLITE;cCAUDATE CHRIVI
  aSMALL LETTER AZU;cBUKY;cVEDE;cGLAGOLI;cDOBRO;cYESTU;cZHIVETE;cDZELO;cZEMLJA;cIZHE;cINITIAL IZHE
  cI;cDJERVI;cKAKO;cLJUDIJE;cMYSLITE;cNASHI;cONU;cPOKOJI;cRITSI;cSLOVO;cTVRIDO;cUKU;cFRITU;cHERU
  cOTU;cPE;cSHTA;cTSI;cCHRIVI;cSHA;cYERU;cYERI;cYATI;cSPIDERY HA;cYU;cSMALL YUS;eWITH TAIL;cYO
  cIOTATED SMALL YUS;cBIG YUS;cIOTATED BIG YUS;cFITA;cIZHITSA;cSHTAPIC;cTROKUTASTI A
  cLATINATE MYSLITE;cCAUDATE CHRIVI;LATIN CAPITAL LETTER L WITH DOUBLE BAR
  aSMALL LETTER L WITH DOUBLE BAR;aCAPITAL LETTER L WITH MIDDLE TILDE;cP WITH STROKE;cR WITH TAIL
  aSMALL LETTER A WITH STROKE;cT WITH DIAGONAL STROKE;aCAPITAL LETTER H WITH DESCENDER
  aSMALL LETTER H WITH DESCENDER;aCAPITAL LETTER K WITH DESCENDER;aSMALL LETTER K WITH DESCENDER
  aCAPITAL LETTER Z WITH DESCENDER;aSMALL LETTER Z WITH DESCENDER;aCAPITAL LETTER ALPHA
  cM WITH HOOK;cTURNED A;dALPHA;aSMALL LETTER V WITH RIGHT HOOK;aCAPITAL LETTER W WITH HOOK
  aSMALL LETTER W WITH HOOK;cV WITH CURL;aCAPITAL LETTER HALF H;aSMALL LETTER HALF H;cTAILLESS PHI
  cE WITH NOTCH;cTURNED R WITH TAIL;cO WITH LOW RING INSIDE;aLETTER SMALL CAPITAL TURNED E
  aSUBSCRIPT SMALL LETTER J;MODIFIER LETTER CAPITAL V;LATIN CAPITAL LETTER S WITH SWASH TAIL
  cZ WITH SWASH TAIL;COPTIC CAPITAL LETTER ALFA;aSMALL LETTER ALFA;aCAPITAL LETTER VIDA
  aSMALL LETTER VIDA;aCAPITAL LETTER GAMMA;aSMALL LETTER GAMMA;aCAPITAL LETTER DALDA
  aSMALL LETTER DALDA;aCAPITAL LETTER EIE;aSMALL LETTER EIE;aCAPITAL LETTER SOU;aSMALL LETTER SOU
  aCAPITAL LETTER ZATA;aSMALL LETTER ZATA;aCAPITAL LETTER HATE;aSMALL LETTER HATE
  aCAPITAL LETTER THETHE;aSMALL LETTER THETHE;aCAPITAL LETTER IAUDA;aSMALL LETTER IAUDA
  aCAPITAL LETTER KAPA;aSMALL LETTER KAPA;aCAPITAL LETTER LAULA;aSMALL LETTER LAULA
  aCAPITAL LETTER MI;aSMALL LETTER MI;aCAPITAL LETTER NI;aSMALL LETTER NI;aCAPITAL LETTER KSI
  aSMALL LETTER KSI;aCAPITAL LETTER O;aSMALL LETTER O;aCAPITAL LETTER PI;aSMALL LETTER PI
  aCAPITAL LETTER RO;aSMALL LETTER RO;aCAPITAL LETTER SIMA;aSMALL LETTER SIMA;aCAPITAL LETTER TAU
  aSMALL LETTER TAU;aCAPITAL LETTER UA;aSMALL LETTER UA;aCAPITAL LETTER FI;aSMALL LETTER FI
  aCAPITAL LETTER KHI;aSMALL LETTER KHI;aCAPITAL LETTER PSI;aSMALL LETTER PSI;aCAPITAL LETTER OOU
  aSMALL LETTER OOU;aCAPITAL LETTER DIALECT-P ALEF;aSMALL LETTER DIALECT-P ALEF
  aCAPITAL LETTER OLD COPTIC AIN;aSMALL LETTER OLD COPTIC AIN;aCAPITAL LETTER CRYPTOGRAMMIC EIE
  aSMALL LETTER CRYPTOGRAMMIC EIE;aCAPITAL LETTER DIALECT-P KAPA;aSMALL LETTER DIALECT-P KAPA
  aCAPITAL LETTER DIALECT-P NI;aSMALL LETTER DIALECT-P NI;aCAPITAL LETTER CRYPTOGRAMMIC NI
  aSMALL LETTER CRYPTOGRAMMIC NI;aCAPITAL LETTER OLD COPTIC OOU;aSMALL LETTER OLD COPTIC OOU
  aCAPITAL LETTER SAMPI;aSMALL LETTER SAMPI;aCAPITAL LETTER CROSSED SHEI;aSMALL LETTER CROSSED SHEI
  aCAPITAL LETTER OLD COPTIC SHEI;aSMALL LETTER OLD COPTIC SHEI;aCAPITAL LETTER OLD COPTIC ESH
  aSMALL LETTER OLD COPTIC ESH;aCAPITAL LETTER AKHMIMIC KHEI;aSMALL LETTER AKHMIMIC KHEI
  aCAPITAL LETTER DIALECT-P HORI;aSMALL LETTER DIALECT-P HORI;aCAPITAL LETTER OLD COPTIC HORI
  aSMALL LETTER OLD COPTIC HORI;aCAPITAL LETTER OLD COPTIC HA;aSMALL LETTER OLD COPTIC HA
  aCAPITAL LETTER L-SHAPED HA;aSMALL LETTER L-SHAPED HA;aCAPITAL LETTER OLD COPTIC HEI
  aSMALL LETTER OLD COPTIC HEI;aCAPITAL LETTER OLD COPTIC HAT;aSMALL LETTER OLD COPTIC HAT
  aCAPITAL LETTER OLD COPTIC GANGIA;aSMALL LETTER OLD COPTIC GANGIA;aCAPITAL LETTER OLD COPTIC DJA
  aSMALL LETTER OLD COPTIC DJA;aCAPITAL LETTER OLD COPTIC SHIMA;aSMALL LETTER OLD COPTIC SHIMA
  aCAPITAL LETTER OLD NUBIAN SHIMA;aSMALL LETTER OLD NUBIAN SHIMA;aCAPITAL LETTER OLD NUBIAN NGI
  aSMALL LETTER OLD NUBIAN NGI;aCAPITAL LETTER OLD NUBIAN NYI;aSMALL LETTER OLD NUBIAN NYI
  aCAPITAL LETTER OLD NUBIAN WAU;aSMALL LETTER OLD NUBIAN WAU;aSYMBOL KAI;bMI RO;bPI RO;bSTAUROS
  bTAU RO;bKHI RO;bSHIMA SIMA;aCAPITAL LETTER CRYPTOGRAMMIC SHEI;aSMALL LETTER CRYPTOGRAMMIC SHEI
  aCAPITAL LETTER CRYPTOGRAMMIC GANGIA;aSMALL LETTER CRYPTOGRAMMIC GANGIA;aCOMBINING NI ABOVE
  bSPIRITUS ASPER;cLENIS;aCAPITAL LETTER BOHAIRIC KHEI;aSMALL LETTER BOHAIRIC KHEI;=2CF9
  aOLD NUBIAN FULL STOP;cDIRECT QUESTION MARK;cINDIRECT QUESTION MARK;cVERSE DIVIDER
  aFRACTION ONE HALF;aFULL STOP;aMORPHOLOGICAL DIVIDER;GEORGIAN SMALL LETTER AN;cBAN;cGAN;cDON;cEN
  cVIN;cZEN;cTAN;cIN;cKAN;cLAS;cMAN;cNAR;cON;cPAR;cZHAR;cRAE;cSAN;cTAR;cUN;cPHAR;cKHAR;cGHAN;cQAR
  cSHIN;cCHIN;cCAN;cJIL;cCIL;cCHAR;cXAN;cJHAN;cHAE;cHE;cHIE;cWE;cHAR;cHOE;=2D27;cYN;=2D2D;cAEN
  =2D30;TIFINAGH LETTER YA;bYAB;bYABH;bYAG;bYAGHH;bBERBER ACADEMY YAJ;bYAJ;bYAD;bYADH;bYADD;bYADDH
  bYEY;bYAF;bYAK;bTUAREG YAK;bYAKHH;bYAH;bBERBER ACADEMY YAH;bTUAREG YAH;bYAHH;bYAA;bYAKH
  bTUAREG YAKH;bYAQ;bTUAREG YAQ;bYI;bYAZH;bAHAGGAR YAZH;bTUAREG YAZH;bYAL;bYAM;bYAN;bTUAREG YAGN
  cYANG;bYAP;bYU;bYAR;bYARR;bYAGH;bTUAREG YAGH;bAYER YAGH;bYAS;bYASS;bYASH;bYAT;bYATH;bYACH;bYATT
  bYAV;bYAW;bYAY;bYAZ;bTAWELLEMET YAZ;bYAZZ;bYE;bYO;=2D6F;aMODIFIER LETTER LABIALIZATION MARK
  aSEPARATOR MARK;=2D7F;aCONSONANT JOINER;ETHIOPIC SYLLABLE LOA;bMOA;bROA;bSOA;bSHOA;bBOA;bTOA;bCOA
  bNOA;bNYOA;bGLOTTAL OA;bZOA;bDOA;bDDOA;bJOA;bTHOA;bCHOA;bPHOA;bPOA;bGGWA;bGGWI;bGGWEE;bGGWE;=2DA0
  bSSA;bSSU;bSSI;bSSAA;bSSEE;bSSE;bSSO;=2DA8;bCCA;bCCU;bCCI;bCCAA;bCCEE;bCCE;bCCO;=2DB0;bZZA;bZZU
  bZZI;bZZAA;bZZEE;bZZE;bZZO;=2DB8;bCCHA;bCCHU;bCCHI;bCCHAA;bCCHEE;bCCHE;bCCHO;=2DC0;bQYA;bQYU;bQYI
  bQYAA;bQYEE;bQYE;bQYO;=2DC8;bKYA;bKYU;bKYI;bKYAA;bKYEE;bKYE;bKYO;=2DD0;bXYA;bXYU;bXYI;bXYAA;bXYEE
  bXYE;bXYO;=2DD8;bGYA;bGYU;bGYI;bGYAA;bGYEE;bGYE;bGYO;=2DE0;COMBINING CYRILLIC LETTER BE;cVE;cGHE
  cDE;cZHE;cZE;cKA;cEL;cEM;cEN;cO;cPE;cER;cES;cTE;cHA;cTSE;cCHE;cSHA;cSHCHA;cFITA;cES-TE;cA;cIE
  cDJERV;cMONOGRAPH UK;cYAT;cYU;cIOTIFIED A;cLITTLE YUS;cBIG YUS;cIOTIFIED BIG YUS
  RIGHT ANGLE SUBSTITUTION MARKER;bDOTTED SUBSTITUTION MARKER;LEFT SUBSTITUTION BRACKET
  RIGHT SUBSTITUTION BRACKET;LEFT DOTTED SUBSTITUTION BRACKET;RIGHT DOTTED SUBSTITUTION BRACKET
  RAISED INTERPOLATION MARKER;aDOTTED INTERPOLATION MARKER;DOTTED TRANSPOSITION MARKER
  LEFT TRANSPOSITION BRACKET;RIGHT TRANSPOSITION BRACKET;RAISED SQUARE;LEFT RAISED OMISSION BRACKET
  RIGHT RAISED OMISSION BRACKET;EDITORIAL CORONIS;PARAGRAPHOS;FORKED PARAGRAPHOS
  REVERSED FORKED PARAGRAPHOS;HYPODIASTOLE;DOTTED OBELOS;DOWNWARDS ANCORA;UPWARDS ANCORA
  DOTTED RIGHT-POINTING ANGLE;DOUBLE OBLIQUE HYPHEN;INVERTED INTERROBANG;PALM BRANCH
  HYPHEN WITH DIAERESIS;TILDE WITH RING ABOVE;LEFT LOW PARAPHRASE BRACKET
  RIGHT LOW PARAPHRASE BRACKET;TILDE WITH DOT ABOVE;cBELOW;LEFT VERTICAL BAR WITH QUILL
  RIGHT VERTICAL BAR WITH QUILL;TOP LEFT HALF BRACKET;aRIGHT HALF BRACKET;BOTTOM LEFT HALF BRACKET
  aRIGHT HALF BRACKET;LEFT SIDEWAYS U BRACKET;RIGHT SIDEWAYS U BRACKET;LEFT DOUBLE PARENTHESIS
  RIGHT DOUBLE PARENTHESIS;TWO DOTS OVER ONE DOT PUNCTUATION;ONE DOT OVER TWO DOTS PUNCTUATION
  SQUARED FOUR DOT PUNCTUATION;FIVE DOT MARK;REVERSED QUESTION MARK;VERTICAL TILDE;RING POINT
  WORD SEPARATOR MIDDLE DOT;TURNED COMMA;RAISED DOT;aCOMMA;TURNED SEMICOLON;DAGGER WITH LEFT GUARD
  bRIGHT GUARD;TURNED DAGGER;TOP HALF SECTION SIGN;TWO-EM DASH;THREE-EM DASH;STENOGRAPHIC FULL STOP
  VERTICAL SIX DOTS;WIGGLY VERTICAL LINE;CAPITULUM;DOUBLE HYPHEN;REVERSED COMMA
  DOUBLE LOW-REVERSED-9 QUOTATION MARK;DASH WITH LEFT UPTURN;DOUBLE SUSPENSION MARK
  INVERTED LOW KAVYKA;cWITH KAVYKA ABOVE;LOW KAVYKA;bWITH DOT;DOUBLE STACKED COMMA;DOTTED SOLIDUS
  TRIPLE DAGGER;MEDIEVAL COMMA;PARAGRAPHUS MARK;PUNCTUS ELEVATUS MARK;CORNISH VERSE DIVIDER
  CROSS PATTY WITH RIGHT CROSSBAR;cLEFT CROSSBAR;TIRONIAN SIGN CAPITAL ET;MEDIEVAL EXCLAMATION MARK
  aQUESTION MARK;LEFT SQUARE BRACKET WITH STROKE;RIGHT SQUARE BRACKET WITH STROKE
  LEFT SQUARE BRACKET WITH DOUBLE STROKE;RIGHT SQUARE BRACKET WITH DOUBLE STROKE
  TOP HALF LEFT PARENTHESIS;bRIGHT PARENTHESIS;BOTTOM HALF LEFT PARENTHESIS;bRIGHT PARENTHESIS
  OBLIQUE HYPHEN;=2E80;CJK RADICAL REPEAT;bCLIFF;bSECOND ONE;cTWO;cTHREE;bPERSON;bBOX;bTABLE
  bKNIFE ONE;cTWO;bDIVINATION;bSEAL;bSMALL ONE;cTWO;bLAME ONE;cTWO;cTHREE;cFOUR;bSNAKE;bTHREAD
  bSNOUT ONE;cTWO;bHEART ONE;cTWO;bHAND;bRAP;=2E9B;bCHOKE;bSUN;bMOON;bDEATH;bMOTHER;bCIVILIAN
  bWATER ONE;cTWO;bFIRE;bPAW ONE;cTWO;bSIMPLIFIED HALF TREE TRUNK;bCOW;bDOG;bJADE;bBOLT OF CLOTH
  bEYE;bSPIRIT ONE;cTWO;bBAMBOO;bSILK;bC-SIMPLIFIED SILK;bNET ONE;cTWO;cTHREE;cFOUR;bMESH;bSHEEP
  bRAM;bEWE;bOLD;bBRUSH ONE;cTWO;bMEAT;bMORTAR;bGRASS ONE;cTWO;cTHREE;bTIGER;bCLOTHES;bWEST ONE
  cTWO;bC-SIMPLIFIED SEE;bSIMPLIFIED HORN;bHORN;bC-SIMPLIFIED SPEECH;cSHELL;bFOOT
  bC-SIMPLIFIED CART;bSIMPLIFIED WALK;bWALK ONE;cTWO;bCITY;bC-SIMPLIFIED GOLD;bLONG ONE;cTWO
  bC-SIMPLIFIED LONG;cGATE;bMOUND ONE;cTWO;bRAIN;bBLUE;bC-SIMPLIFIED TANNED LEATHER;cLEAF;cWIND
  cFLY;bEAT ONE;cTWO;cTHREE;bC-SIMPLIFIED EAT;bHEAD;bC-SIMPLIFIED HORSE;bBONE;bGHOST
  bC-SIMPLIFIED FISH;cBIRD;cSALT;bSIMPLIFIED WHEAT;cYELLOW;bC-SIMPLIFIED FROG;bJ-SIMPLIFIED EVEN
  bC-SIMPLIFIED EVEN;bJ-SIMPLIFIED TOOTH;bC-SIMPLIFIED TOOTH;bJ-SIMPLIFIED DRAGON
  bC-SIMPLIFIED DRAGON;bTURTLE;bJ-SIMPLIFIED TURTLE;bC-SIMPLIFIED TURTLE;=2F00;KANGXI RADICAL ONE
  bLINE;bDOT;bSLASH;bSECOND;bHOOK;bTWO;bLID;bMAN;bLEGS;bENTER;bEIGHT;bDOWN BOX;bCOVER;bICE;bTABLE
  bOPEN BOX;bKNIFE;bPOWER;bWRAP;bSPOON;bRIGHT OPEN BOX;bHIDING ENCLOSURE;bTEN;bDIVINATION;bSEAL
  bCLIFF;bPRIVATE;bAGAIN;bMOUTH;bENCLOSURE;bEARTH;bSCHOLAR;bGO;cSLOWLY;bEVENING;bBIG;bWOMAN;bCHILD
  bROOF;bINCH;bSMALL;bLAME;bCORPSE;bSPROUT;bMOUNTAIN;bRIVER;bWORK;bONESELF;bTURBAN;bDRY
  bSHORT THREAD;bDOTTED CLIFF;bLONG STRIDE;bTWO HANDS;bSHOOT;bBOW;bSNOUT;bBRISTLE;bSTEP;bHEART
  bHALBERD;bDOOR;bHAND;bBRANCH;bRAP;bSCRIPT;bDIPPER;bAXE;bSQUARE;bNOT;bSUN;bSAY;bMOON;bTREE;bLACK
  bSTOP;bDEATH;bWEAPON;bDO NOT;bCOMPARE;bFUR;bCLAN;bSTEAM;bWATER;bFIRE;bCLAW;bFATHER;bDOUBLE X
  bHALF TREE TRUNK;bSLICE;bFANG;bCOW;bDOG;bPROFOUND;bJADE;bMELON;bTILE;bSWEET;bLIFE;bUSE;bFIELD
  bBOLT OF CLOTH;bSICKNESS;bDOTTED TENT;bWHITE;bSKIN;bDISH;bEYE;bSPEAR;bARROW;bSTONE;bSPIRIT;bTRACK
  bGRAIN;bCAVE;bSTAND;bBAMBOO;bRICE;bSILK;bJAR;bNET;bSHEEP;bFEATHER;bOLD;bAND;bPLOW;bEAR;bBRUSH
  bMEAT;bMINISTER;bSELF;bARRIVE;bMORTAR;bTONGUE;bOPPOSE;bBOAT;bSTOPPING;bCOLOR;bGRASS;bTIGER
  bINSECT;bBLOOD;bWALK ENCLOSURE;bCLOTHES;bWEST;bSEE;bHORN;bSPEECH;bVALLEY;bBEAN;bPIG;bBADGER
  bSHELL;bRED;bRUN;bFOOT;bBODY;bCART;bBITTER;bMORNING;bWALK;bCITY;bWINE;bDISTINGUISH;bVILLAGE;bGOLD
  bLONG;bGATE;bMOUND;bSLAVE;bSHORT TAILED BIRD;bRAIN;bBLUE;bWRONG;bFACE;bLEATHER;bTANNED LEATHER
  bLEEK;bSOUND;bLEAF;bWIND;bFLY;bEAT;bHEAD;bFRAGRANT;bHORSE;bBONE;bTALL;bHAIR;bFIGHT
  bSACRIFICIAL WINE;bCAULDRON;bGHOST;bFISH;bBIRD;bSALT;bDEER;bWHEAT;bHEMP;bYELLOW;bMILLET;bBLACK
  bEMBROIDERY;bFROG;bTRIPOD;bDRUM;bRAT;bNOSE;bEVEN;bTOOTH;bDRAGON;bTURTLE;bFLUTE;=2FF0
  IDEOGRAPHIC DESCRIPTION CHARACTER LEFT TO RIGHT;cABOVE TO BELOW;cLEFT TO MIDDLE AND RIGHT
  cABOVE TO MIDDLE AND BELOW;cFULL SURROUND;cSURROUND FROM ABOVE;eBELOW;eLEFT;eUPPER LEFT;fRIGHT
  eLOWER LEFT;cOVERLAID;=3000;aSPACE;aCOMMA;aFULL STOP;DITTO MARK
  JAPANESE INDUSTRIAL STANDARD SYMBOL;IDEOGRAPHIC ITERATION MARK;aCLOSING MARK;aNUMBER ZERO
  LEFT ANGLE BRACKET;RIGHT ANGLE BRACKET;LEFT DOUBLE ANGLE BRACKET;RIGHT DOUBLE ANGLE BRACKET
  LEFT CORNER BRACKET;RIGHT CORNER BRACKET;LEFT WHITE CORNER BRACKET;RIGHT WHITE CORNER BRACKET
  LEFT BLACK LENTICULAR BRACKET;RIGHT BLACK LENTICULAR BRACKET;POSTAL MARK;GETA MARK
  LEFT TORTOISE SHELL BRACKET;RIGHT TORTOISE SHELL BRACKET;LEFT WHITE LENTICULAR BRACKET
  RIGHT WHITE LENTICULAR BRACKET;LEFT WHITE TORTOISE SHELL BRACKET
  RIGHT WHITE TORTOISE SHELL BRACKET;LEFT WHITE SQUARE BRACKET;RIGHT WHITE SQUARE BRACKET;WAVE DASH
  REVERSED DOUBLE PRIME QUOTATION MARK;DOUBLE PRIME QUOTATION MARK;LOW DOUBLE PRIME QUOTATION MARK
  POSTAL MARK FACE;HANGZHOU NUMERAL ONE;bTWO;bTHREE;bFOUR;bFIVE;bSIX;bSEVEN;bEIGHT;bNINE
  IDEOGRAPHIC LEVEL TONE MARK;aRISING TONE MARK;aDEPARTING TONE MARK;aENTERING TONE MARK
  HANGUL SINGLE DOT TONE MARK;aDOUBLE DOT TONE MARK;WAVY DASH;VERTICAL KANA REPEAT MARK
  cWITH VOICED SOUND MARK;cMARK UPPER HALF;cWITH VOICED SOUND MARK UPPER HALF;cMARK LOWER HALF
  CIRCLED POSTAL MARK;IDEOGRAPHIC TELEGRAPH LINE FEED SEPARATOR SYMBOL;HANGZHOU NUMERAL TEN;bTWENTY
  bTHIRTY;VERTICAL IDEOGRAPHIC ITERATION MARK;MASU MARK;PART ALTERNATION MARK
  IDEOGRAPHIC VARIATION INDICATOR;aHALF FILL SPACE;=3041;HIRAGANA LETTER SMALL A;bA;bSMALL I;bI
  bSMALL U;bU;bSMALL E;bE;bSMALL O;bO;bKA;bGA;bKI;bGI;bKU;bGU;bKE;bGE;bKO;bGO;bSA;bZA;bSI;bZI;bSU
  bZU;bSE;bZE;bSO;bZO;bTA;bDA;bTI;bDI;bSMALL TU;bTU;bDU;bTE;bDE;bTO;bDO;bNA;bNI;bNU;bNE;bNO;bHA;bBA
  bPA;bHI;bBI;bPI;bHU;bBU;bPU;bHE;bBE;bPE;bHO;bBO;bPO;bMA;bMI;bMU;bME;bMO;bSMALL YA;bYA;bSMALL YU
  bYU;bSMALL YO;bYO;bRA;bRI;bRU;bRE;bRO;bSMALL WA;bWA;bWI;bWE;bWO;bN;bVU;bSMALL KA;cKE;=3099
  COMBINING KATAKANA-HIRAGANA VOICED SOUND MARK;bSEMI-VOICED SOUND MARK
  KATAKANA-HIRAGANA VOICED SOUND MARK;aSEMI-VOICED SOUND MARK;HIRAGANA ITERATION MARK
  aVOICED ITERATION MARK;aDIGRAPH YORI;KATAKANA-HIRAGANA DOUBLE HYPHEN;KATAKANA LETTER SMALL A;bA
  bSMALL I;bI;bSMALL U;bU;bSMALL E;bE;bSMALL O;bO;bKA;bGA;bKI;bGI;bKU;bGU;bKE;bGE;bKO;bGO;bSA;bZA
  bSI;bZI;bSU;bZU;bSE;bZE;bSO;bZO;bTA;bDA;bTI;bDI;bSMALL TU;bTU;bDU;bTE;bDE;bTO;bDO;bNA;bNI;bNU;bNE
  bNO;bHA;bBA;bPA;bHI;bBI;bPI;bHU;bBU;bPU;bHE;bBE;bPE;bHO;bBO;bPO;bMA;bMI;bMU;bME;bMO;bSMALL YA;bYA
  bSMALL YU;bYU;bSMALL YO;bYO;bRA;bRI;bRU;bRE;bRO;bSMALL WA;bWA;bWI;bWE;bWO;bN;bVU;bSMALL KA;cKE
  bVA;bVI;bVE;bVO;aMIDDLE DOT;KATAKANA-HIRAGANA PROLONGED SOUND MARK;KATAKANA ITERATION MARK
  aVOICED ITERATION MARK;aDIGRAPH KOTO;=3105;BOPOMOFO LETTER B;bP;bM;bF;bD;bT;bN;bL;bG;bK;bH;bJ;bQ
  bX;bZH;bCH;bSH;bR;bZ;bC;bS;bA;bO;bE;bEH;bAI;bEI;bAU;bOU;bAN;bEN;bANG;bENG;bER;bI;bU;bIU;bV;bNG
  bGN;bIH;bO WITH DOT ABOVE;bNN;=3131;HANGUL LETTER KIYEOK;bSSANGKIYEOK;bKIYEOK-SIOS;bNIEUN
  bNIEUN-CIEUC;bNIEUN-HIEUH;bTIKEUT;bSSANGTIKEUT;bRIEUL;bRIEUL-KIYEOK;bRIEUL-MIEUM;bRIEUL-PIEUP
  bRIEUL-SIOS;bRIEUL-THIEUTH;bRIEUL-PHIEUPH;bRIEUL-HIEUH;bMIEUM;bPIEUP;bSSANGPIEUP;bPIEUP-SIOS
  bSIOS;bSSANGSIOS;bIEUNG;bCIEUC;bSSANGCIEUC;bCHIEUCH;bKHIEUKH;bTHIEUTH;bPHIEUPH;bHIEUH;bA;bAE;bYA
  bYAE;bEO;bE;bYEO;bYE;bO;bWA;bWAE;bOE;bYO;bU;bWEO;bWE;bWI;bYU;bEU;bYI;bI;aFILLER
  aLETTER SSANGNIEUN;bNIEUN-TIKEUT;bNIEUN-SIOS;bNIEUN-PANSIOS;bRIEUL-KIYEOK-SIOS;bRIEUL-TIKEUT
  bRIEUL-PIEUP-SIOS;bRIEUL-PANSIOS;bRIEUL-YEORINHIEUH;bMIEUM-PIEUP;bMIEUM-SIOS;bMIEUM-PANSIOS
  bKAPYEOUNMIEUM;bPIEUP-KIYEOK;bPIEUP-TIKEUT;bPIEUP-SIOS-KIYEOK;bPIEUP-SIOS-TIKEUT;bPIEUP-CIEUC
  bPIEUP-THIEUTH;bKAPYEOUNPIEUP;bKAPYEOUNSSANGPIEUP;bSIOS-KIYEOK;bSIOS-NIEUN;bSIOS-TIKEUT
  bSIOS-PIEUP;bSIOS-CIEUC;bPANSIOS;bSSANGIEUNG;bYESIEUNG;bYESIEUNG-SIOS;bYESIEUNG-PANSIOS
  bKAPYEOUNPHIEUPH;bSSANGHIEUH;bYEORINHIEUH;bYO-YA;bYO-YAE;bYO-I;bYU-YEO;bYU-YE;bYU-I;bARAEA
  bARAEAE;=3190;IDEOGRAPHIC ANNOTATION LINKING MARK;bREVERSE MARK;bONE MARK;bTWO MARK;bTHREE MARK
  bFOUR MARK;bTOP MARK;bMIDDLE MARK;bBOTTOM MARK;bFIRST MARK;bSECOND MARK;bTHIRD MARK;bFOURTH MARK
  bHEAVEN MARK;bEARTH MARK;bMAN MARK;BOPOMOFO LETTER BU;bZI;bJI;bGU;bEE;bENN;bOO;bONN;bIR;bANN;bINN
  bUNN;bIM;bNGG;bAINN;bAUNN;bAM;bOM;bONG;bINNN;aFINAL LETTER P;cT;cK;cH;aLETTER GH;bLH;bZY
  aFINAL LETTER G;aLETTER GW;bKW;bOE;bAH;CJK STROKE T;bWG;bXG;bBXG;bSW;bHZZ;bHZG;bHP;bHZWG;bSZWG
  bHZT;bHZZP;bHPWG;bHZW;bHZZZ;bN;bH;bS;bP;bSP;bD;bHZ;bHG;bSZ;bSWZ;bST;bSG;bPD;bPZ;bTN;bSZZ;bSWG
  bHXWG;bHZZZG;bPG;bQ;=31F0;KATAKANA LETTER SMALL KU;cSI;cSU;cTO;cNU;cHA;cHI;cHU;cHE;cHO;cMU;cRA
  cRI;cRU;cRE;cRO;PARENTHESIZED HANGUL KIYEOK;bNIEUN;bTIKEUT;bRIEUL;bMIEUM;bPIEUP;bSIOS;bIEUNG
  bCIEUC;bCHIEUCH;bKHIEUKH;bTHIEUTH;bPHIEUPH;bHIEUH;bKIYEOK A;bNIEUN A;bTIKEUT A;bRIEUL A;bMIEUM A
  bPIEUP A;bSIOS A;bIEUNG A;bCIEUC A;bCHIEUCH A;bKHIEUKH A;bTHIEUTH A;bPHIEUPH A;bHIEUH A;bCIEUC U
  aKOREAN CHARACTER OJEON;cO HU;=3220;aIDEOGRAPH ONE;bTWO;bTHREE;bFOUR;bFIVE;bSIX;bSEVEN;bEIGHT
  bNINE;bTEN;bMOON;bFIRE;bWATER;bWOOD;bMETAL;bEARTH;bSUN;bSTOCK;bHAVE;bSOCIETY;bNAME;bSPECIAL
  bFINANCIAL;bCONGRATULATION;bLABOR;bREPRESENT;bCALL;bSTUDY;bSUPERVISE;bENTERPRISE;bRESOURCE
  bALLIANCE;bFESTIVAL;bREST;bSELF;bREACH;CIRCLED IDEOGRAPH QUESTION;bKINDERGARTEN;bSCHOOL;bKOTO
  aNUMBER TEN ON BLACK SQUARE;bTWENTY ON BLACK SQUARE;bTHIRTY ON BLACK SQUARE
  bFORTY ON BLACK SQUARE;bFIFTY ON BLACK SQUARE;bSIXTY ON BLACK SQUARE;bSEVENTY ON BLACK SQUARE
  bEIGHTY ON BLACK SQUARE;PARTNERSHIP SIGN;CIRCLED NUMBER TWENTY ONE;cTWO;cTHREE;cFOUR;cFIVE;cSIX
  cSEVEN;cEIGHT;cNINE;bTHIRTY;cONE;cTWO;cTHREE;cFOUR;cFIVE;aHANGUL KIYEOK;bNIEUN;bTIKEUT;bRIEUL
  bMIEUM;bPIEUP;bSIOS;bIEUNG;bCIEUC;bCHIEUCH;bKHIEUKH;bTHIEUTH;bPHIEUPH;bHIEUH;bKIYEOK A;bNIEUN A
  bTIKEUT A;bRIEUL A;bMIEUM A;bPIEUP A;bSIOS A;bIEUNG A;bCIEUC A;bCHIEUCH A;bKHIEUKH A;bTHIEUTH A
  bPHIEUPH A;bHIEUH A;aKOREAN CHARACTER CHAMKO;cJUEUI;aHANGUL IEUNG U;KOREAN STANDARD SYMBOL
  CIRCLED IDEOGRAPH ONE;bTWO;bTHREE;bFOUR;bFIVE;bSIX;bSEVEN;bEIGHT;bNINE;bTEN;bMOON;bFIRE;bWATER
  bWOOD;bMETAL;bEARTH;bSUN;bSTOCK;bHAVE;bSOCIETY;bNAME;bSPECIAL;bFINANCIAL;bCONGRATULATION;bLABOR
  bSECRET;bMALE;bFEMALE;bSUITABLE;bEXCELLENT;bPRINT;bATTENTION;bITEM;bREST;bCOPY;bCORRECT;bHIGH
  bCENTRE;bLOW;bLEFT;bRIGHT;bMEDICINE;bRELIGION;bSTUDY;bSUPERVISE;bENTERPRISE;bRESOURCE;bALLIANCE
  bNIGHT;aNUMBER THIRTY SIX;cSEVEN;cEIGHT;cNINE;bFORTY;cONE;cTWO;cTHREE;cFOUR;cFIVE;cSIX;cSEVEN
  cEIGHT;cNINE;bFIFTY;IDEOGRAPHIC TELEGRAPH SYMBOL FOR JANUARY;dFEBRUARY;dMARCH;dAPRIL;dMAY;dJUNE
  dJULY;dAUGUST;dSEPTEMBER;dOCTOBER;dNOVEMBER;dDECEMBER;SQUARE HG;aERG;aEV;LIMITED LIABILITY SIGN
  CIRCLED KATAKANA A;bI;bU;bE;bO;bKA;bKI;bKU;bKE;bKO;bSA;bSI;bSU;bSE;bSO;bTA;bTI;bTU;bTE;bTO;bNA
  bNI;bNU;bNE;bNO;bHA;bHI;bHU;bHE;bHO;bMA;bMI;bMU;bME;bMO;bYA;bYU;bYO;bRA;bRI;bRU;bRE;bRO;bWA;bWI
  bWE;bWO;SQUARE ERA NAME REIWA;aAPAATO;aARUHUA;aANPEA;aAARU;aININGU;aINTI;aUON;aESUKUUDO;aEEKAA
  aONSU;aOOMU;aKAIRI;aKARATTO;aKARORII;aGARON;aGANMA;aGIGA;aGINII;aKYURII;aGIRUDAA;aKIRO
  aKIROGURAMU;aKIROMEETORU;aKIROWATTO;aGURAMU;aGURAMUTON;aKURUZEIRO;aKUROONE;aKEESU;aKORUNA;aKOOPO
  aSAIKURU;aSANTIIMU;aSIRINGU;aSENTI;aSENTO;aDAASU;aDESI;aDORU;aTON;aNANO;aNOTTO;aHAITU;aPAASENTO
  aPAATU;aBAARERU;aPIASUTORU;aPIKURU;aPIKO;aBIRU;aHUARADDO;aHUIITO;aBUSSYERU;aHURAN;aHEKUTAARU
  aPESO;aPENIHI;aHERUTU;aPENSU;aPEEZI;aBEETA;aPOINTO;aBORUTO;aHON;aPONDO;aHOORU;aHOON;aMAIKURO
  aMAIRU;aMAHHA;aMARUKU;aMANSYON;aMIKURON;aMIRI;aMIRIBAARU;aMEGA;aMEGATON;aMEETORU;aYAADO;aYAARU
  aYUAN;aRITTORU;aRIRA;aRUPII;aRUUBURU;aREMU;aRENTOGEN;aWATTO
  IDEOGRAPHIC TELEGRAPH SYMBOL FOR HOUR ZERO;eONE;eTWO;eTHREE;eFOUR;eFIVE;eSIX;eSEVEN;eEIGHT;eNINE
  eTEN;eELEVEN;eTWELVE;eTHIRTEEN;eFOURTEEN;eFIFTEEN;eSIXTEEN;eSEVENTEEN;eEIGHTEEN;eNINETEEN;eTWENTY
  eTWENTY-ONE;eTWENTY-TWO;eTWENTY-THREE;eTWENTY-FOUR;SQUARE HPA;aDA;aAU;aBAR;aOV;aPC;aDM;bSQUARED
  bCUBED;aIU;aERA NAME HEISEI;cSYOUWA;cTAISYOU;cMEIZI;aCORPORATION;aPA AMPS;aNA;aMU A;aMA;aKA;aKB
  aMB;aGB;aCAL;aKCAL;aPF;aNF;aMU F;bG;aMG;aKG;aHZ;aKHZ;aMHZ;aGHZ;aTHZ;aMU L;aML;aDL;aKL;aFM;aNM
  aMU M;aMM;aCM;aKM;aMM SQUARED;aCM SQUARED;aM SQUARED;aKM SQUARED;aMM CUBED;aCM CUBED;aM CUBED
  aKM CUBED;aM OVER S;dSQUARED;aPA;aKPA;aMPA;aGPA;aRAD;bOVER S;dSQUARED;aPS;aNS;aMU S;aMS;aPV;aNV
  aMU V;aMV;aKV;aMV MEGA;aPW;aNW;aMU W;aMW;aKW;aMW MEGA;aK OHM;aM OHM;aAM;aBQ;aCC;aCD;aC OVER KG
  aCO;aDB;aGY;aHA;aHP;aIN;aKK;aKM CAPITAL;aKT;aLM;aLN;aLOG;aLX;aMB SMALL;aMIL;aMOL;aPH;aPM;aPPM;aPR
  aSR;aSV;aWB;aV OVER M;aA OVER M;IDEOGRAPHIC TELEGRAPH SYMBOL FOR DAY ONE;eTWO;eTHREE;eFOUR;eFIVE
  eSIX;eSEVEN;eEIGHT;eNINE;eTEN;eELEVEN;eTWELVE;eTHIRTEEN;eFOURTEEN;eFIFTEEN;eSIXTEEN;eSEVENTEEN
  eEIGHTEEN;eNINETEEN;eTWENTY;eTWENTY-ONE;eTWENTY-TWO;eTWENTY-THREE;eTWENTY-FOUR;eTWENTY-FIVE
  eTWENTY-SIX;eTWENTY-SEVEN;eTWENTY-EIGHT;eTWENTY-NINE;eTHIRTY;eTHIRTY-ONE;SQUARE GAL;=4DC0
  HEXAGRAM FOR THE CREATIVE HEAVEN;cRECEPTIVE EARTH;bDIFFICULTY AT THE BEGINNING;bYOUTHFUL FOLLY
  bWAITING;bCONFLICT;bTHE ARMY;bHOLDING TOGETHER;bSMALL TAMING;bTREADING;bPEACE;bSTANDSTILL
  bFELLOWSHIP;bGREAT POSSESSION;bMODESTY;bENTHUSIASM;bFOLLOWING;bWORK ON THE DECAYED;bAPPROACH
  bCONTEMPLATION;bBITING THROUGH;bGRACE;bSPLITTING APART;bRETURN;bINNOCENCE;bGREAT TAMING
  bMOUTH CORNERS;bGREAT PREPONDERANCE;bTHE ABYSMAL WATER;cCLINGING FIRE;bINFLUENCE;bDURATION
  bRETREAT;bGREAT POWER;bPROGRESS;bDARKENING OF THE LIGHT;bTHE FAMILY;bOPPOSITION;bOBSTRUCTION
  bDELIVERANCE;bDECREASE;bINCREASE;bBREAKTHROUGH;bCOMING TO MEET;bGATHERING TOGETHER
  bPUSHING UPWARD;bOPPRESSION;bTHE WELL;bREVOLUTION;bTHE CAULDRON;cAROUSING THUNDER
  cKEEPING STILL MOUNTAIN;bDEVELOPMENT;bTHE MARRYING MAIDEN;bABUNDANCE;bTHE WANDERER;cGENTLE WIND
  cJOYOUS LAKE;bDISPERSION;bLIMITATION;bINNER TRUTH;bSMALL PREPONDERANCE;bAFTER COMPLETION
  bBEFORE COMPLETION;=A000;YI SYLLABLE IT;bIX;bI;bIP;bIET;bIEX;bIE;bIEP;bAT;bAX;bA;bAP;bUOX;bUO
  bUOP;bOT;bOX;bO;bOP;bEX;bE;bWU;bBIT;bBIX;bBI;bBIP;bBIET;bBIEX;bBIE;bBIEP;bBAT;bBAX;bBA;bBAP;bBUOX
  bBUO;bBUOP;bBOT;bBOX;bBO;bBOP;bBEX;bBE;bBEP;bBUT;bBUX;bBU;bBUP;bBURX;bBUR;bBYT;bBYX;bBY;bBYP
  bBYRX;bBYR;bPIT;bPIX;bPI;bPIP;bPIEX;bPIE;bPIEP;bPAT;bPAX;bPA;bPAP;bPUOX;bPUO;bPUOP;bPOT;bPOX;bPO
  bPOP;bPUT;bPUX;bPU;bPUP;bPURX;bPUR;bPYT;bPYX;bPY;bPYP;bPYRX;bPYR;bBBIT;bBBIX;bBBI;bBBIP;bBBIET
  bBBIEX;bBBIE;bBBIEP;bBBAT;bBBAX;bBBA;bBBAP;bBBUOX;bBBUO;bBBUOP;bBBOT;bBBOX;bBBO;bBBOP;bBBEX;bBBE
  bBBEP;bBBUT;bBBUX;bBBU;bBBUP;bBBURX;bBBUR;bBBYT;bBBYX;bBBY;bBBYP;bNBIT;bNBIX;bNBI;bNBIP;bNBIEX
  bNBIE;bNBIEP;bNBAT;bNBAX;bNBA;bNBAP;bNBOT;bNBOX;bNBO;bNBOP;bNBUT;bNBUX;bNBU;bNBUP;bNBURX;bNBUR
  bNBYT;bNBYX;bNBY;bNBYP;bNBYRX;bNBYR;bHMIT;bHMIX;bHMI;bHMIP;bHMIEX;bHMIE;bHMIEP;bHMAT;bHMAX;bHMA
  bHMAP;bHMUOX;bHMUO;bHMUOP;bHMOT;bHMOX;bHMO;bHMOP;bHMUT;bHMUX;bHMU;bHMUP;bHMURX;bHMUR;bHMYX;bHMY
  bHMYP;bHMYRX;bHMYR;bMIT;bMIX;bMI;bMIP;bMIEX;bMIE;bMIEP;bMAT;bMAX;bMA;bMAP;bMUOT;bMUOX;bMUO;bMUOP
  bMOT;bMOX;bMO;bMOP;bMEX;bME;bMUT;bMUX;bMU;bMUP;bMURX;bMUR;bMYT;bMYX;bMY;bMYP;bFIT;bFIX;bFI;bFIP
  bFAT;bFAX;bFA;bFAP;bFOX;bFO;bFOP;bFUT;bFUX;bFU;bFUP;bFURX;bFUR;bFYT;bFYX;bFY;bFYP;bVIT;bVIX;bVI
  bVIP;bVIET;bVIEX;bVIE;bVIEP;bVAT;bVAX;bVA;bVAP;bVOT;bVOX;bVO;bVOP;bVEX;bVEP;bVUT;bVUX;bVU;bVUP
  bVURX;bVUR;bVYT;bVYX;bVY;bVYP;bVYRX;bVYR;bDIT;bDIX;bDI;bDIP;bDIEX;bDIE;bDIEP;bDAT;bDAX;bDA;bDAP
  bDUOX;bDUO;bDOT;bDOX;bDO;bDOP;bDEX;bDE;bDEP;bDUT;bDUX;bDU;bDUP;bDURX;bDUR;bTIT;bTIX;bTI;bTIP
  bTIEX;bTIE;bTIEP;bTAT;bTAX;bTA;bTAP;bTUOT;bTUOX;bTUO;bTUOP;bTOT;bTOX;bTO;bTOP;bTEX;bTE;bTEP;bTUT
  bTUX;bTU;bTUP;bTURX;bTUR;bDDIT;bDDIX;bDDI;bDDIP;bDDIEX;bDDIE;bDDIEP;bDDAT;bDDAX;bDDA;bDDAP;bDDUOX
  bDDUO;bDDUOP;bDDOT;bDDOX;bDDO;bDDOP;bDDEX;bDDE;bDDEP;bDDUT;bDDUX;bDDU;bDDUP;bDDURX;bDDUR;bNDIT
  bNDIX;bNDI;bNDIP;bNDIEX;bNDIE;bNDAT;bNDAX;bNDA;bNDAP;bNDOT;bNDOX;bNDO;bNDOP;bNDEX;bNDE;bNDEP
  bNDUT;bNDUX;bNDU;bNDUP;bNDURX;bNDUR;bHNIT;bHNIX;bHNI;bHNIP;bHNIET;bHNIEX;bHNIE;bHNIEP;bHNAT;bHNAX
  bHNA;bHNAP;bHNUOX;bHNUO;bHNOT;bHNOX;bHNOP;bHNEX;bHNE;bHNEP;bHNUT;bNIT;bNIX;bNI;bNIP;bNIEX;bNIE
  bNIEP;bNAX;bNA;bNAP;bNUOX;bNUO;bNUOP;bNOT;bNOX;bNO;bNOP;bNEX;bNE;bNEP;bNUT;bNUX;bNU;bNUP;bNURX
  bNUR;bHLIT;bHLIX;bHLI;bHLIP;bHLIEX;bHLIE;bHLIEP;bHLAT;bHLAX;bHLA;bHLAP;bHLUOX;bHLUO;bHLUOP;bHLOX
  bHLO;bHLOP;bHLEX;bHLE;bHLEP;bHLUT;bHLUX;bHLU;bHLUP;bHLURX;bHLUR;bHLYT;bHLYX;bHLY;bHLYP;bHLYRX
  bHLYR;bLIT;bLIX;bLI;bLIP;bLIET;bLIEX;bLIE;bLIEP;bLAT;bLAX;bLA;bLAP;bLUOT;bLUOX;bLUO;bLUOP;bLOT
  bLOX;bLO;bLOP;bLEX;bLE;bLEP;bLUT;bLUX;bLU;bLUP;bLURX;bLUR;bLYT;bLYX;bLY;bLYP;bLYRX;bLYR;bGIT;bGIX
  bGI;bGIP;bGIET;bGIEX;bGIE;bGIEP;bGAT;bGAX;bGA;bGAP;bGUOT;bGUOX;bGUO;bGUOP;bGOT;bGOX;bGO;bGOP;bGET
  bGEX;bGE;bGEP;bGUT;bGUX;bGU;bGUP;bGURX;bGUR;bKIT;bKIX;bKI;bKIP;bKIEX;bKIE;bKIEP;bKAT;bKAX;bKA
  bKAP;bKUOX;bKUO;bKUOP;bKOT;bKOX;bKO;bKOP;bKET;bKEX;bKE;bKEP;bKUT;bKUX;bKU;bKUP;bKURX;bKUR;bGGIT
  bGGIX;bGGI;bGGIEX;bGGIE;bGGIEP;bGGAT;bGGAX;bGGA;bGGAP;bGGUOT;bGGUOX;bGGUO;bGGUOP;bGGOT;bGGOX;bGGO
  bGGOP;bGGET;bGGEX;bGGE;bGGEP;bGGUT;bGGUX;bGGU;bGGUP;bGGURX;bGGUR;bMGIEX;bMGIE;bMGAT;bMGAX;bMGA
  bMGAP;bMGUOX;bMGUO;bMGUOP;bMGOT;bMGOX;bMGO;bMGOP;bMGEX;bMGE;bMGEP;bMGUT;bMGUX;bMGU;bMGUP;bMGURX
  bMGUR;bHXIT;bHXIX;bHXI;bHXIP;bHXIET;bHXIEX;bHXIE;bHXIEP;bHXAT;bHXAX;bHXA;bHXAP;bHXUOT;bHXUOX
  bHXUO;bHXUOP;bHXOT;bHXOX;bHXO;bHXOP;bHXEX;bHXE;bHXEP;bNGIEX;bNGIE;bNGIEP;bNGAT;bNGAX;bNGA;bNGAP
  bNGUOT;bNGUOX;bNGUO;bNGOT;bNGOX;bNGO;bNGOP;bNGEX;bNGE;bNGEP;bHIT;bHIEX;bHIE;bHAT;bHAX;bHA;bHAP
  bHUOT;bHUOX;bHUO;bHUOP;bHOT;bHOX;bHO;bHOP;bHEX;bHE;bHEP;bWAT;bWAX;bWA;bWAP;bWUOX;bWUO;bWUOP;bWOX
  bWO;bWOP;bWEX;bWE;bWEP;bZIT;bZIX;bZI;bZIP;bZIEX;bZIE;bZIEP;bZAT;bZAX;bZA;bZAP;bZUOX;bZUO;bZUOP
  bZOT;bZOX;bZO;bZOP;bZEX;bZE;bZEP;bZUT;bZUX;bZU;bZUP;bZURX;bZUR;bZYT;bZYX;bZY;bZYP;bZYRX;bZYR;bCIT
  bCIX;bCI;bCIP;bCIET;bCIEX;bCIE;bCIEP;bCAT;bCAX;bCA;bCAP;bCUOX;bCUO;bCUOP;bCOT;bCOX;bCO;bCOP;bCEX
  bCE;bCEP;bCUT;bCUX;bCU;bCUP;bCURX;bCUR;bCYT;bCYX;bCY;bCYP;bCYRX;bCYR;bZZIT;bZZIX;bZZI;bZZIP
  bZZIET;bZZIEX;bZZIE;bZZIEP;bZZAT;bZZAX;bZZA;bZZAP;bZZOX;bZZO;bZZOP;bZZEX;bZZE;bZZEP;bZZUX;bZZU
  bZZUP;bZZURX;bZZUR;bZZYT;bZZYX;bZZY;bZZYP;bZZYRX;bZZYR;bNZIT;bNZIX;bNZI;bNZIP;bNZIEX;bNZIE;bNZIEP
  bNZAT;bNZAX;bNZA;bNZAP;bNZUOX;bNZUO;bNZOX;bNZOP;bNZEX;bNZE;bNZUX;bNZU;bNZUP;bNZURX;bNZUR;bNZYT
  bNZYX;bNZY;bNZYP;bNZYRX;bNZYR;bSIT;bSIX;bSI;bSIP;bSIEX;bSIE;bSIEP;bSAT;bSAX;bSA;bSAP;bSUOX;bSUO
  bSUOP;bSOT;bSOX;bSO;bSOP;bSEX;bSE;bSEP;bSUT;bSUX;bSU;bSUP;bSURX;bSUR;bSYT;bSYX;bSY;bSYP;bSYRX
  bSYR;bSSIT;bSSIX;bSSI;bSSIP;bSSIEX;bSSIE;bSSIEP;bSSAT;bSSAX;bSSA;bSSAP;bSSOT;bSSOX;bSSO;bSSOP
  bSSEX;bSSE;bSSEP;bSSUT;bSSUX;bSSU;bSSUP;bSSYT;bSSYX;bSSY;bSSYP;bSSYRX;bSSYR;bZHAT;bZHAX;bZHA
  bZHAP;bZHUOX;bZHUO;bZHUOP;bZHOT;bZHOX;bZHO;bZHOP;bZHET;bZHEX;bZHE;bZHEP;bZHUT;bZHUX;bZHU;bZHUP
  bZHURX;bZHUR;bZHYT;bZHYX;bZHY;bZHYP;bZHYRX;bZHYR;bCHAT;bCHAX;bCHA;bCHAP;bCHUOT;bCHUOX;bCHUO
  bCHUOP;bCHOT;bCHOX;bCHO;bCHOP;bCHET;bCHEX;bCHE;bCHEP;bCHUX;bCHU;bCHUP;bCHURX;bCHUR;bCHYT;bCHYX
  bCHY;bCHYP;bCHYRX;bCHYR;bRRAX;bRRA;bRRUOX;bRRUO;bRROT;bRROX;bRRO;bRROP;bRRET;bRREX;bRRE;bRREP
  bRRUT;bRRUX;bRRU;bRRUP;bRRURX;bRRUR;bRRYT;bRRYX;bRRY;bRRYP;bRRYRX;bRRYR;bNRAT;bNRAX;bNRA;bNRAP
  bNROX;bNRO;bNROP;bNRET;bNREX;bNRE;bNREP;bNRUT;bNRUX;bNRU;bNRUP;bNRURX;bNRUR;bNRYT;bNRYX;bNRY
  bNRYP;bNRYRX;bNRYR;bSHAT;bSHAX;bSHA;bSHAP;bSHUOX;bSHUO;bSHUOP;bSHOT;bSHOX;bSHO;bSHOP;bSHET;bSHEX
  bSHE;bSHEP;bSHUT;bSHUX;bSHU;bSHUP;bSHURX;bSHUR;bSHYT;bSHYX;bSHY;bSHYP;bSHYRX;bSHYR;bRAT;bRAX;bRA
  bRAP;bRUOX;bRUO;bRUOP;bROT;bROX;bRO;bROP;bREX;bRE;bREP;bRUT;bRUX;bRU;bRUP;bRURX;bRUR;bRYT;bRYX
  bRY;bRYP;bRYRX;bRYR;bJIT;bJIX;bJI;bJIP;bJIET;bJIEX;bJIE;bJIEP;bJUOT;bJUOX;bJUO;bJUOP;bJOT;bJOX
  bJO;bJOP;bJUT;bJUX;bJU;bJUP;bJURX;bJUR;bJYT;bJYX;bJY;bJYP;bJYRX;bJYR;bQIT;bQIX;bQI;bQIP;bQIET
  bQIEX;bQIE;bQIEP;bQUOT;bQUOX;bQUO;bQUOP;bQOT;bQOX;bQO;bQOP;bQUT;bQUX;bQU;bQUP;bQURX;bQUR;bQYT
  bQYX;bQY;bQYP;bQYRX;bQYR;bJJIT;bJJIX;bJJI;bJJIP;bJJIET;bJJIEX;bJJIE;bJJIEP;bJJUOX;bJJUO;bJJUOP
  bJJOT;bJJOX;bJJO;bJJOP;bJJUT;bJJUX;bJJU;bJJUP;bJJURX;bJJUR;bJJYT;bJJYX;bJJY;bJJYP;bNJIT;bNJIX
  bNJI;bNJIP;bNJIET;bNJIEX;bNJIE;bNJIEP;bNJUOX;bNJUO;bNJOT;bNJOX;bNJO;bNJOP;bNJUX;bNJU;bNJUP;bNJURX
  bNJUR;bNJYT;bNJYX;bNJY;bNJYP;bNJYRX;bNJYR;bNYIT;bNYIX;bNYI;bNYIP;bNYIET;bNYIEX;bNYIE;bNYIEP
  bNYUOX;bNYUO;bNYUOP;bNYOT;bNYOX;bNYO;bNYOP;bNYUT;bNYUX;bNYU;bNYUP;bXIT;bXIX;bXI;bXIP;bXIET;bXIEX
  bXIE;bXIEP;bXUOX;bXUO;bXOT;bXOX;bXO;bXOP;bXYT;bXYX;bXY;bXYP;bXYRX;bXYR;bYIT;bYIX;bYI;bYIP;bYIET
  bYIEX;bYIE;bYIEP;bYUOT;bYUOX;bYUO;bYUOP;bYOT;bYOX;bYO;bYOP;bYUT;bYUX;bYU;bYUP;bYURX;bYUR;bYYT
  bYYX;bYY;bYYP;bYYRX;bYYR;=A490;aRADICAL QOT;bLI;bKIT;bNYIP;bCYP;bSSI;bGGOP;bGEP;bMI;bHXIT;bLYR
  bBBUT;bMOP;bYO;bPUT;bHXUO;bTAT;bGA;bZUP;bCYT;bDDUR;bBUR;bGGUO;bNYOP;bTU;bOP;bJJUT;bZOT;bPYT;bHMO
  bYIT;bVUR;bSHY;bVEP;bZA;bJO;bNZUP;bJJY;bGOT;bJJIE;bWO;bDU;bSHUR;bLIE;bCY;bCUOP;bCIP;bHXOP;bSHAT
  bZUR;bSHOP;bCHE;bZZIET;bNBIE;bKE;=A4D0;LISU LETTER BA;bPA;bPHA;bDA;bTA;bTHA;bGA;bKA;bKHA;bJA;bCA
  bCHA;bDZA;bTSA;bTSHA;bMA;bNA;bLA;bSA;bZHA;bZA;bNGA;bHA;bXA;bHHA;bFA;bWA;bSHA;bYA;bGHA;bA;bAE;bE
  bEU;bI;bO;bU;bUE;bUH;bOE;bTONE MYA TI;cNA PO;cMYA CYA;dBO;dNA;dJEU;aPUNCTUATION COMMA;bFULL STOP
  VAI SYLLABLE EE;bEEN;bHEE;bWEE;bWEEN;bPEE;bBHEE;bBEE;bMBEE;bKPEE;bMGBEE;bGBEE;bFEE;bVEE;bTEE
  bTHEE;bDHEE;bDHHEE;bLEE;bREE;bDEE;bNDEE;bSEE;bSHEE;bZEE;bZHEE;bCEE;bJEE;bNJEE;bYEE;bKEE;bNGGEE
  bGEE;bMEE;bNEE;bNYEE;bI;bIN;bHI;bHIN;bWI;bWIN;bPI;bBHI;bBI;bMBI;bKPI;bMGBI;bGBI;bFI;bVI;bTI;bTHI
  bDHI;bDHHI;bLI;bRI;bDI;bNDI;bSI;bSHI;bZI;bZHI;bCI;bJI;bNJI;bYI;bKI;bNGGI;bGI;bMI;bNI;bNYI;bA;bAN
  bNGAN;bHA;bHAN;bWA;bWAN;bPA;bBHA;bBA;bMBA;bKPA;bKPAN;bMGBA;bGBA;bFA;bVA;bTA;bTHA;bDHA;bDHHA;bLA
  bRA;bDA;bNDA;bSA;bSHA;bZA;bZHA;bCA;bJA;bNJA;bYA;bKA;bKAN;bNGGA;bGA;bMA;bNA;bNYA;bOO;bOON;bHOO
  bWOO;bWOON;bPOO;bBHOO;bBOO;bMBOO;bKPOO;bMGBOO;bGBOO;bFOO;bVOO;bTOO;bTHOO;bDHOO;bDHHOO;bLOO;bROO
  bDOO;bNDOO;bSOO;bSHOO;bZOO;bZHOO;bCOO;bJOO;bNJOO;bYOO;bKOO;bNGGOO;bGOO;bMOO;bNOO;bNYOO;bU;bUN;bHU
  bHUN;bWU;bWUN;bPU;bBHU;bBU;bMBU;bKPU;bMGBU;bGBU;bFU;bVU;bTU;bTHU;bDHU;bDHHU;bLU;bRU;bDU;bNDU;bSU
  bSHU;bZU;bZHU;bCU;bJU;bNJU;bYU;bKU;bNGGU;bGU;bMU;bNU;bNYU;bO;bON;bNGON;bHO;bHON;bWO;bWON;bPO;bBHO
  bBO;bMBO;bKPO;bMGBO;bGBO;bGBON;bFO;bVO;bTO;bTHO;bDHO;bDHHO;bLO;bRO;bDO;bNDO;bSO;bSHO;bZO;bZHO;bCO
  bJO;bNJO;bYO;bKO;bNGGO;bGO;bMO;bNO;bNYO;bE;bEN;bNGEN;bHE;bHEN;bWE;bWEN;bPE;bBHE;bBE;bMBE;bKPE
  bKPEN;bMGBE;bGBE;bGBEN;bFE;bVE;bTE;bTHE;bDHE;bDHHE;bLE;bRE;bDE;bNDE;bSE;bSHE;bZE;bZHE;bCE;bJE
  bNJE;bYE;bKE;bNGGE;bNGGEN;bGE;bGEN;bME;bNE;bNYE;bNG;bLENGTHENER;aCOMMA;aFULL STOP;aQUESTION MARK
  aSYLLABLE NDOLE FA;cKA;cSOO;aSYMBOL FEENG;bKEENG;bTING;bNII;bBANG;bFAA;bTAA;bDANG;bDOONG;bKUNG
  bTONG;bDO-O;bJONG;aDIGIT ZERO;bONE;bTWO;bTHREE;bFOUR;bFIVE;bSIX;bSEVEN;bEIGHT;bNINE
  aSYLLABLE NDOLE MA;cDO;=A640;CYRILLIC CAPITAL LETTER ZEMLYA;aSMALL LETTER ZEMLYA
  aCAPITAL LETTER DZELO;aSMALL LETTER DZELO;aCAPITAL LETTER REVERSED DZE;aSMALL LETTER REVERSED DZE
  aCAPITAL LETTER IOTA;aSMALL LETTER IOTA;aCAPITAL LETTER DJERV;aSMALL LETTER DJERV
  aCAPITAL LETTER MONOGRAPH UK;aSMALL LETTER MONOGRAPH UK;aCAPITAL LETTER BROAD OMEGA
  aSMALL LETTER BROAD OMEGA;aCAPITAL LETTER NEUTRAL YER;aSMALL LETTER NEUTRAL YER
  aCAPITAL LETTER YERU WITH BACK YER;aSMALL LETTER YERU WITH BACK YER;aCAPITAL LETTER IOTIFIED YAT
  aSMALL LETTER IOTIFIED YAT;aCAPITAL LETTER REVERSED YU;aSMALL LETTER REVERSED YU
  aCAPITAL LETTER IOTIFIED A;aSMALL LETTER IOTIFIED A;aCAPITAL LETTER CLOSED LITTLE YUS
  aSMALL LETTER CLOSED LITTLE YUS;aCAPITAL LETTER BLENDED YUS;aSMALL LETTER BLENDED YUS
  aCAPITAL LETTER IOTIFIED CLOSED LITTLE YUS;aSMALL LETTER IOTIFIED CLOSED LITTLE YUS
  aCAPITAL LETTER YN;aSMALL LETTER YN;aCAPITAL LETTER REVERSED TSE;aSMALL LETTER REVERSED TSE
  aCAPITAL LETTER SOFT DE;aSMALL LETTER SOFT DE;aCAPITAL LETTER SOFT EL;aSMALL LETTER SOFT EL
  aCAPITAL LETTER SOFT EM;aSMALL LETTER SOFT EM;aCAPITAL LETTER MONOCULAR O
  aSMALL LETTER MONOCULAR O;aCAPITAL LETTER BINOCULAR O;aSMALL LETTER BINOCULAR O
  aCAPITAL LETTER DOUBLE MONOCULAR O;aSMALL LETTER DOUBLE MONOCULAR O;aLETTER MULTIOCULAR O
  COMBINING CYRILLIC VZMET;bTEN MILLIONS SIGN;bHUNDRED MILLIONS SIGN;bTHOUSAND MILLIONS SIGN
  SLAVONIC ASTERISK;COMBINING CYRILLIC LETTER UKRAINIAN IE;cI;cYI;cU;cHARD SIGN;cYERU;cSOFT SIGN
  cOMEGA;bKAVYKA;bPAYEROK;CYRILLIC KAVYKA;aPAYEROK;aCAPITAL LETTER DWE;aSMALL LETTER DWE
  aCAPITAL LETTER DZWE;aSMALL LETTER DZWE;aCAPITAL LETTER ZHWE;aSMALL LETTER ZHWE
  aCAPITAL LETTER CCHE;aSMALL LETTER CCHE;aCAPITAL LETTER DZZE;aSMALL LETTER DZZE
  aCAPITAL LETTER TE WITH MIDDLE HOOK;aSMALL LETTER TE WITH MIDDLE HOOK;aCAPITAL LETTER TWE
  aSMALL LETTER TWE;aCAPITAL LETTER TSWE;aSMALL LETTER TSWE;aCAPITAL LETTER TSSE;aSMALL LETTER TSSE
  aCAPITAL LETTER TCHE;aSMALL LETTER TCHE;aCAPITAL LETTER HWE;aSMALL LETTER HWE
  aCAPITAL LETTER SHWE;aSMALL LETTER SHWE;aCAPITAL LETTER DOUBLE O;aSMALL LETTER DOUBLE O
  aCAPITAL LETTER CROSSED O;aSMALL LETTER CROSSED O;MODIFIER LETTER CYRILLIC HARD SIGN;cSOFT SIGN
  COMBINING CYRILLIC LETTER EF;cIOTIFIED E;BAMUM LETTER A;bKA;bU;bKU;bEE;bREE;bTAE;bO;bNYI;bI;bLA
  bPA;bRII;bRIEE;bLEEEE;bMEEEE;bTAA;bNDAA;bNJAEM;bM;bSUU;bMU;bSHII;bSI;bSHEUX;bSEUX;bKYEE;bKET
  bNUAE;bNU;bNJUAE;bYOQ;bSHU;bYUQ;bYA;bNSHA;bKEUX;bPEUX;bNJEE;bNTEE;bPUE;bWUE;bPEE;bFEE;bRU;bLU;bMI
  bNI;bREUX;bRAE;bKEN;bNGKWAEN;bNGGA;bNGA;bSHO;bPUAE;bFU;bFOM;bWA;bNA;bLI;bPI;bLOQ;bKO;bMBEN;bREN
  bMEN;bMA;bTI;bKI;bMO;bMBAA;bTET;bKPA;bTEN;bNTUU;bSAMBA;bFAAMAE;bKOVUU;bKOGHOM
  aCOMBINING MARK KOQNDON;cTUKWENTIS;aNJAEMLI;aFULL STOP;aCOLON;aCOMMA;aSEMICOLON;aQUESTION MARK
  =A700;MODIFIER LETTER CHINESE TONE YIN PING;dYANG PING;dYIN SHANG;dYANG SHANG;dYIN QU;dYANG QU
  dYIN RU;dYANG RU;bEXTRA-HIGH DOTTED TONE BAR;bHIGH DOTTED TONE BAR;bMID DOTTED TONE BAR
  bLOW DOTTED TONE BAR;bEXTRA-LOW DOTTED TONE BAR;bEXTRA-HIGH DOTTED LEFT-STEM TONE BAR
  bHIGH DOTTED LEFT-STEM TONE BAR;bMID DOTTED LEFT-STEM TONE BAR;bLOW DOTTED LEFT-STEM TONE BAR
  bEXTRA-LOW DOTTED LEFT-STEM TONE BAR;bEXTRA-HIGH LEFT-STEM TONE BAR;bHIGH LEFT-STEM TONE BAR
  bMID LEFT-STEM TONE BAR;bLOW LEFT-STEM TONE BAR;bEXTRA-LOW LEFT-STEM TONE BAR;bDOT VERTICAL BAR
  cSLASH;cHORIZONTAL BAR;bLOWER RIGHT CORNER ANGLE;bRAISED UP ARROW;cDOWN ARROW;cEXCLAMATION MARK
  cINVERTED EXCLAMATION MARK;bLOW INVERTED EXCLAMATION MARK;bSTRESS AND HIGH TONE;dLOW TONE
  LATIN CAPITAL LETTER EGYPTOLOGICAL ALEF;aSMALL LETTER EGYPTOLOGICAL ALEF
  aCAPITAL LETTER EGYPTOLOGICAL AIN;aSMALL LETTER EGYPTOLOGICAL AIN;aCAPITAL LETTER HENG
  aSMALL LETTER HENG;aCAPITAL LETTER TZ;aSMALL LETTER TZ;aCAPITAL LETTER TRESILLO
  aSMALL LETTER TRESILLO;aCAPITAL LETTER CUATRILLO;aSMALL LETTER CUATRILLO
  aCAPITAL LETTER CUATRILLO WITH COMMA;aSMALL LETTER CUATRILLO WITH COMMA;aLETTER SMALL CAPITAL F
  dS;aCAPITAL LETTER AA;aSMALL LETTER AA;aCAPITAL LETTER AO;aSMALL LETTER AO;aCAPITAL LETTER AU
  aSMALL LETTER AU;aCAPITAL LETTER AV;aSMALL LETTER AV;aCAPITAL LETTER AV WITH HORIZONTAL BAR
  aSMALL LETTER AV WITH HORIZONTAL BAR;aCAPITAL LETTER AY;aSMALL LETTER AY
  aCAPITAL LETTER REVERSED C WITH DOT;aSMALL LETTER REVERSED C WITH DOT
  aCAPITAL LETTER K WITH STROKE;aSMALL LETTER K WITH STROKE;aCAPITAL LETTER K WITH DIAGONAL STROKE
  aSMALL LETTER K WITH DIAGONAL STROKE;aCAPITAL LETTER K WITH STROKE AND DIAGONAL STROKE
  aSMALL LETTER K WITH STROKE AND DIAGONAL STROKE;aCAPITAL LETTER BROKEN L;aSMALL LETTER BROKEN L
  aCAPITAL LETTER L WITH HIGH STROKE;aSMALL LETTER L WITH HIGH STROKE
  aCAPITAL LETTER O WITH LONG STROKE OVERLAY;aSMALL LETTER O WITH LONG STROKE OVERLAY
  aCAPITAL LETTER O WITH LOOP;aSMALL LETTER O WITH LOOP;aCAPITAL LETTER OO;aSMALL LETTER OO
  aCAPITAL LETTER P WITH STROKE THROUGH DESCENDER;aSMALL LETTER P WITH STROKE THROUGH DESCENDER
  aCAPITAL LETTER P WITH FLOURISH;aSMALL LETTER P WITH FLOURISH
  aCAPITAL LETTER P WITH SQUIRREL TAIL;aSMALL LETTER P WITH SQUIRREL TAIL
  aCAPITAL LETTER Q WITH STROKE THROUGH DESCENDER;aSMALL LETTER Q WITH STROKE THROUGH DESCENDER
  aCAPITAL LETTER Q WITH DIAGONAL STROKE;aSMALL LETTER Q WITH DIAGONAL STROKE
  aCAPITAL LETTER R ROTUNDA;aSMALL LETTER R ROTUNDA;aCAPITAL LETTER RUM ROTUNDA
  aSMALL LETTER RUM ROTUNDA;aCAPITAL LETTER V WITH DIAGONAL STROKE
  aSMALL LETTER V WITH DIAGONAL STROKE;aCAPITAL LETTER VY;aSMALL LETTER VY
  aCAPITAL LETTER VISIGOTHIC Z;aSMALL LETTER VISIGOTHIC Z;aCAPITAL LETTER THORN WITH STROKE
  aSMALL LETTER THORN WITH STROKE;aCAPITAL LETTER THORN WITH STROKE THROUGH DESCENDER
  aSMALL LETTER THORN WITH STROKE THROUGH DESCENDER;aCAPITAL LETTER VEND;aSMALL LETTER VEND
  aCAPITAL LETTER ET;aSMALL LETTER ET;aCAPITAL LETTER IS;aSMALL LETTER IS;aCAPITAL LETTER CON
  aSMALL LETTER CON;MODIFIER LETTER US;LATIN SMALL LETTER DUM;cLUM;cMUM;cNUM;cRUM
  aLETTER SMALL CAPITAL RUM;aSMALL LETTER TUM;cUM;aCAPITAL LETTER INSULAR D;aSMALL LETTER INSULAR D
  aCAPITAL LETTER INSULAR F;aSMALL LETTER INSULAR F;aCAPITAL LETTER INSULAR G;cTURNED INSULAR G
  aSMALL LETTER TURNED INSULAR G;aCAPITAL LETTER TURNED L;aSMALL LETTER TURNED L
  aCAPITAL LETTER INSULAR R;aSMALL LETTER INSULAR R;aCAPITAL LETTER INSULAR S
  aSMALL LETTER INSULAR S;aCAPITAL LETTER INSULAR T;aSMALL LETTER INSULAR T
  MODIFIER LETTER LOW CIRCUMFLEX ACCENT;bCOLON;bSHORT EQUALS SIGN;LATIN CAPITAL LETTER SALTILLO
  aSMALL LETTER SALTILLO;aCAPITAL LETTER TURNED H;aSMALL LETTER L WITH RETROFLEX HOOK AND BELT
  aLETTER SINOLOGICAL DOT;aCAPITAL LETTER N WITH DESCENDER;aSMALL LETTER N WITH DESCENDER
  aCAPITAL LETTER C WITH BAR;aSMALL LETTER C WITH BAR;ePALATAL HOOK;cH WITH PALATAL HOOK
  aCAPITAL LETTER B WITH FLOURISH;aSMALL LETTER B WITH FLOURISH;aCAPITAL LETTER F WITH STROKE
  aSMALL LETTER F WITH STROKE;aCAPITAL LETTER VOLAPUK AE;aSMALL LETTER VOLAPUK AE
  aCAPITAL LETTER VOLAPUK OE;aSMALL LETTER VOLAPUK OE;aCAPITAL LETTER VOLAPUK UE
  aSMALL LETTER VOLAPUK UE;aCAPITAL LETTER G WITH OBLIQUE STROKE
  aSMALL LETTER G WITH OBLIQUE STROKE;aCAPITAL LETTER K WITH OBLIQUE STROKE
  aSMALL LETTER K WITH OBLIQUE STROKE;aCAPITAL LETTER N WITH OBLIQUE STROKE
  aSMALL LETTER N WITH OBLIQUE STROKE;aCAPITAL LETTER R WITH OBLIQUE STROKE
  aSMALL LETTER R WITH OBLIQUE STROKE;aCAPITAL LETTER S WITH OBLIQUE STROKE
  aSMALL LETTER S WITH OBLIQUE STROKE;aCAPITAL LETTER H WITH HOOK;cREVERSED OPEN E;cSCRIPT G
  cL WITH BELT;cSMALL CAPITAL I;aLETTER SMALL CAPITAL Q;aCAPITAL LETTER TURNED K;dT
  cJ WITH CROSSED-TAIL;cCHI;cBETA;aSMALL LETTER BETA;aCAPITAL LETTER OMEGA;aSMALL LETTER OMEGA
  aCAPITAL LETTER U WITH STROKE;aSMALL LETTER U WITH STROKE;aCAPITAL LETTER GLOTTAL A
  aSMALL LETTER GLOTTAL A;aCAPITAL LETTER GLOTTAL I;aSMALL LETTER GLOTTAL I
  aCAPITAL LETTER GLOTTAL U;aSMALL LETTER GLOTTAL U;aCAPITAL LETTER OLD POLISH O
  aSMALL LETTER OLD POLISH O;aCAPITAL LETTER ANGLICANA W;aSMALL LETTER ANGLICANA W
  aCAPITAL LETTER C WITH PALATAL HOOK;cS WITH HOOK;cZ WITH PALATAL HOOK
  cD WITH SHORT STROKE OVERLAY;aSMALL LETTER D WITH SHORT STROKE OVERLAY
  aCAPITAL LETTER S WITH SHORT STROKE OVERLAY;aSMALL LETTER S WITH SHORT STROKE OVERLAY;=A7D0
  aCAPITAL LETTER CLOSED INSULAR G;aSMALL LETTER CLOSED INSULAR G;=A7D3;cDOUBLE THORN;=A7D5;dWYNN
  aCAPITAL LETTER MIDDLE SCOTS S;aSMALL LETTER MIDDLE SCOTS S;aCAPITAL LETTER SIGMOID S
  aSMALL LETTER SIGMOID S;=A7F2;MODIFIER LETTER CAPITAL C;cF;cQ
  LATIN CAPITAL LETTER REVERSED HALF H;aSMALL LETTER REVERSED HALF H;aEPIGRAPHIC LETTER SIDEWAYS I
  MODIFIER LETTER CAPITAL H WITH STROKE;bSMALL LIGATURE OE;LATIN LETTER SMALL CAPITAL TURNED M
  aEPIGRAPHIC LETTER REVERSED F;dP;cINVERTED M;cI LONGA;cARCHAIC M;SYLOTI NAGRI LETTER A;cI
  bSIGN DVISVARA;bLETTER U;cE;cO;bSIGN HASANTA;bLETTER KO;cKHO;cGO;cGHO;bSIGN ANUSVARA;bLETTER CO
  cCHO;cJO;cJHO;cTTO;cTTHO;cDDO;cDDHO;cTO;cTHO;cDO;cDHO;cNO;cPO;cPHO;cBO;cBHO;cMO;cRO;cLO;cRRO;cSO
  cHO;bVOWEL SIGN A;dI;dU;dE;dOO;bPOETRY MARK-1;cMARK-2;cMARK-3;cMARK-4;bSIGN ALTERNATE HASANTA
  =A830;NORTH INDIC FRACTION ONE QUARTER;dHALF;cTHREE QUARTERS;cONE SIXTEENTH;dEIGHTH
  cTHREE SIXTEENTHS;bQUARTER MARK;bPLACEHOLDER MARK;bRUPEE MARK;bQUANTITY MARK;=A840
  PHAGS-PA LETTER KA;bKHA;bGA;bNGA;bCA;bCHA;bJA;bNYA;bTA;bTHA;bDA;bNA;bPA;bPHA;bBA;bMA;bTSA;bTSHA
  bDZA;bWA;bZHA;bZA;bSMALL A;bYA;bRA;bLA;bSHA;bSA;bHA;bA;bI;bU;bE;bO;bQA;bXA;bFA;bGGA;bEE
  aSUBJOINED LETTER WA;cYA;aLETTER TTA;bTTHA;bDDA;bNNA;bALTERNATE YA;bVOICELESS SHA;bVOICED HA
  bASPIRATED FA;aSUBJOINED LETTER RA;aSUPERFIXED LETTER RA;aLETTER CANDRABINDU;aSINGLE HEAD MARK
  aDOUBLE HEAD MARK;aMARK SHAD;bDOUBLE SHAD;=A880;SAURASHTRA SIGN ANUSVARA;bVISARGA;aLETTER A;bAA
  bI;bII;bU;bUU;bVOCALIC R;cRR;cL;cLL;bE;bEE;bAI;bO;bOO;bAU;bKA;bKHA;bGA;bGHA;bNGA;bCA;bCHA;bJA
  bJHA;bNYA;bTTA;bTTHA;bDDA;bDDHA;bNNA;bTA;bTHA;bDA;bDHA;bNA;bPA;bPHA;bBA;bBHA;bMA;bYA;bRA;bLA;bVA
  bSHA;bSSA;bSA;bHA;bLLA;aCONSONANT SIGN HAARU;aVOWEL SIGN AA;cI;cII;cU;cUU;cVOCALIC R;dRR;dL;dLL
  cE;cEE;cAI;cO;cOO;cAU;aSIGN VIRAMA;bCANDRABINDU;=A8CE;aDANDA;aDOUBLE DANDA;aDIGIT ZERO;bONE;bTWO
  bTHREE;bFOUR;bFIVE;bSIX;bSEVEN;bEIGHT;bNINE;=A8E0;COMBINING DEVANAGARI DIGIT ZERO;cONE;cTWO
  cTHREE;cFOUR;cFIVE;cSIX;cSEVEN;cEIGHT;cNINE;bLETTER A;cU;cKA;cNA;cPA;cRA;cVI;bSIGN AVAGRAHA
  DEVANAGARI SIGN SPACING CANDRABINDU;bCANDRABINDU VIRAMA;bDOUBLE CANDRABINDU VIRAMA
  bCANDRABINDU TWO;cTHREE;cAVAGRAHA;bPUSHPIKA;aGAP FILLER;aCARET;aHEADSTROKE;aSIGN SIDDHAM;aJAIN OM
  aLETTER AY;aVOWEL SIGN AY;KAYAH LI DIGIT ZERO;cONE;cTWO;cTHREE;cFOUR;cFIVE;cSIX;cSEVEN;cEIGHT
  cNINE;bLETTER KA;cKHA;cGA;cNGA;cSA;cSHA;cZA;cNYA;cTA;cHTA;cNA;cPA;cPHA;cMA;cDA;cBA;cRA;cYA;cLA
  cWA;cTHA;cHA;cVA;cCA;cA;cOE;cI;cOO;bVOWEL UE;cE;cU;cEE;cO;bTONE PLOPHU;cCALYA;dPLOPHU;bSIGN CWI
  cSHYA;REJANG LETTER KA;bGA;bNGA;bTA;bDA;bNA;bPA;bBA;bMA;bCA;bJA;bNYA;bSA;bRA;bLA;bYA;bWA;bHA;bMBA
  bNGGA;bNDA;bNYJA;bA;aVOWEL SIGN I;cU;cE;cAI;cO;cAU;cEU;cEA;aCONSONANT SIGN NG;cN;cR;cH;aVIRAMA
  =A95F;aSECTION MARK;HANGUL CHOSEONG TIKEUT-MIEUM;bTIKEUT-PIEUP;bTIKEUT-SIOS;bTIKEUT-CIEUC
  bRIEUL-KIYEOK;bRIEUL-SSANGKIYEOK;bRIEUL-TIKEUT;bRIEUL-SSANGTIKEUT;bRIEUL-MIEUM;bRIEUL-PIEUP
  bRIEUL-SSANGPIEUP;bRIEUL-KAPYEOUNPIEUP;bRIEUL-SIOS;bRIEUL-CIEUC;bRIEUL-KHIEUKH;bMIEUM-KIYEOK
  bMIEUM-TIKEUT;bMIEUM-SIOS;bPIEUP-SIOS-THIEUTH;bPIEUP-KHIEUKH;bPIEUP-HIEUH;bSSANGSIOS-PIEUP
  bIEUNG-RIEUL;bIEUNG-HIEUH;bSSANGCIEUC-HIEUH;bSSANGTHIEUTH;bPHIEUPH-HIEUH;bHIEUH-SIOS
  bSSANGYEORINHIEUH;=A980;JAVANESE SIGN PANYANGGA;bCECAK;bLAYAR;bWIGNYAN;aLETTER A;bI KAWI;bI;bII
  bU;bPA CEREK;bNGA LELET;dRASWADI;bE;bAI;bO;bKA;cSASAK;cMURDA;bGA;cMURDA;bNGA;bCA;cMURDA;bJA
  bNYA MURDA;bJA MAHAPRANA;bNYA;bTTA;cMAHAPRANA;bDDA;cMAHAPRANA;bNA MURDA;bTA;cMURDA;bDA;cMAHAPRANA
  bNA;bPA;cMURDA;bBA;cMURDA;bMA;bYA;bRA;cAGUNG;bLA;bWA;bSA MURDA;cMAHAPRANA;bSA;bHA
  aSIGN CECAK TELU;aVOWEL SIGN TARUNG;cTOLONG;cWULU;dMELIK;cSUKU;dMENDUT;cTALING;cDIRGA MURE;cPEPET
  aCONSONANT SIGN KERET;cPENGKAL;cCAKRA;aPANGKON;aLEFT RERENGGAN;aRIGHT RERENGGAN;aPADA ANDAP
  bMADYA;bLUHUR;bWINDU;bPANGKAT;bLINGSA;bLUNGSI;bADEG;cADEG;bPISELEH;aTURNED PADA PISELEH;=A9CF
  aPANGRANGKEP;aDIGIT ZERO;bONE;bTWO;bTHREE;bFOUR;bFIVE;bSIX;bSEVEN;bEIGHT;bNINE;=A9DE
  aPADA TIRTA TUMETES;bISEN-ISEN;MYANMAR LETTER SHAN GHA;cCHA;cJHA;cNNA;cBHA;aSIGN SHAN SAW
  aMODIFIER LETTER SHAN REDUPLICATION;aLETTER TAI LAING NYA;dFA;dGA;dGHA;dJA;dJHA;dDDA;dDDHA;dNNA
  aTAI LAING DIGIT ZERO;dONE;dTWO;dTHREE;dFOUR;dFIVE;dSIX;dSEVEN;dEIGHT;dNINE;aLETTER TAI LAING LLA
  dDA;dDHA;dBA;dBHA;=AA00;CHAM LETTER A;bI;bU;bE;bAI;bO;bKA;bKHA;bGA;bGHA;bNGUE;bNGA;bCHA;bCHHA;bJA
  bJHA;bNHUE;bNHA;bNHJA;bTA;bTHA;bDA;bDHA;bNUE;bNA;bDDA;bPA;bPPA;bPHA;bBA;bBHA;bMUE;bMA;bBBA;bYA
  bRA;bLA;bVA;bSSA;bSA;bHA;aVOWEL SIGN AA;cI;cII;cEI;cU;cOE;cO;cAI;cAU;cUE;aCONSONANT SIGN YA;cRA
  cLA;cWA;=AA40;aLETTER FINAL K;cG;cNG;aCONSONANT SIGN FINAL NG;aLETTER FINAL CH;cT;cN;cP;cY;cR;cL
  cSS;aCONSONANT SIGN FINAL M;dH;=AA50;aDIGIT ZERO;bONE;bTWO;bTHREE;bFOUR;bFIVE;bSIX;bSEVEN;bEIGHT
  bNINE;=AA5C;aPUNCTUATION SPIRAL;bDANDA;bDOUBLE DANDA;bTRIPLE DANDA;MYANMAR LETTER KHAMTI GA;cCA
  cCHA;cJA;cJHA;cNYA;cTTA;cTTHA;cDDA;cDDHA;cDHA;cNA;cSA;cHA;cHHA;cFA
  aMODIFIER LETTER KHAMTI REDUPLICATION;aLETTER KHAMTI XA;cZA;cRA;aLOGOGRAM KHAMTI OAY;cQN;cHM
  aSYMBOL AITON EXCLAMATION;cONE;cTWO;aLETTER AITON RA;aSIGN PAO KAREN TONE;bTAI LAING TONE-2
  dTONE-5;aLETTER SHWE PALAUNG CHA;dSHA;TAI VIET LETTER LOW KO;cHIGH KO;cLOW KHO;cHIGH KHO
  cLOW KHHO;cHIGH KHHO;cLOW GO;cHIGH GO;cLOW NGO;cHIGH NGO;cLOW CO;cHIGH CO;cLOW CHO;cHIGH CHO
  cLOW SO;cHIGH SO;cLOW NYO;cHIGH NYO;cLOW DO;cHIGH DO;cLOW TO;cHIGH TO;cLOW THO;cHIGH THO;cLOW NO
  cHIGH NO;cLOW BO;cHIGH BO;cLOW PO;cHIGH PO;cLOW PHO;cHIGH PHO;cLOW FO;cHIGH FO;cLOW MO;cHIGH MO
  cLOW YO;cHIGH YO;cLOW RO;cHIGH RO;cLOW LO;cHIGH LO;cLOW VO;cHIGH VO;cLOW HO;cHIGH HO;cLOW O
  cHIGH O;bMAI KANG;bVOWEL AA;cI;cUE;cU;cE;cO;bMAI KHIT;bVOWEL IA;cUEA;cUA;cAUE;cAY;cAN;cAM
  bTONE MAI EK;dNUENG;dTHO;dSONG;=AADB;bSYMBOL KON;cNUENG;cSAM;cHO HOI;cKOI KOI
  MEETEI MAYEK LETTER E;cO;cCHA;cNYA;cTTA;cTTHA;cDDA;cDDHA;cNNA;cSHA;cSSA;bVOWEL SIGN II;dUU;dAAI
  dAU;dAAU;bCHEIKHAN;bAHANG KHUDAM;bANJI;bSYLLABLE REPETITION MARK;bWORD REPETITION MARK
  bVOWEL SIGN VISARGA;bVIRAMA;=AB01;ETHIOPIC SYLLABLE TTHU;bTTHI;bTTHAA;bTTHEE;bTTHE;bTTHO;=AB09
  bDDHU;bDDHI;bDDHAA;bDDHEE;bDDHE;bDDHO;=AB11;bDZU;bDZI;bDZAA;bDZEE;bDZE;bDZO;=AB20;bCCHHA;bCCHHU
  bCCHHI;bCCHHAA;bCCHHEE;bCCHHE;bCCHHO;=AB28;bBBA;bBBU;bBBI;bBBAA;bBBEE;bBBE;bBBO;=AB30
  LATIN SMALL LETTER BARRED ALPHA;cA REVERSED-SCHWA;cBLACKLETTER E;cBARRED E;cE WITH FLOURISH
  cLENIS F;cSCRIPT G WITH CROSSED-TAIL;cL WITH INVERTED LAZY S;eDOUBLE MIDDLE TILDE;eMIDDLE RING
  cM WITH CROSSED-TAIL;cN WITH CROSSED-TAIL;cENG WITH CROSSED-TAIL;cBLACKLETTER O;eWITH STROKE
  cOPEN O WITH STROKE;cINVERTED OE;cTURNED OE WITH STROKE;fHORIZONTAL STROKE;dO OPEN-O;fWITH STROKE
  cSTIRRUP R;aLETTER SMALL CAPITAL R WITH RIGHT LEG;aSMALL LETTER R WITHOUT HANDLE;cDOUBLE R
  cR WITH CROSSED-TAIL;cDOUBLE R WITH CROSSED-TAIL;cSCRIPT R;eWITH RING;cBASELINE ESH
  cU WITH SHORT RIGHT LEG;dBAR WITH SHORT RIGHT LEG;cUI;cTURNED UI;cU WITH LEFT HOOK;cCHI
  dWITH LOW RIGHT RING;fLEFT SERIF;cX WITH LOW RIGHT RING;eLONG LEFT LEG;hAND LOW RIGHT RING
  hWITH SERIF;cY WITH SHORT RIGHT LEG;MODIFIER BREVE WITH INVERTED BREVE;aLETTER SMALL HENG
  cL WITH INVERTED LAZY S;eMIDDLE TILDE;cU WITH LEFT HOOK;LATIN SMALL LETTER SAKHA YAT;cIOTIFIED E
  cOPEN OE;cUO;cINVERTED ALPHA;GREEK LETTER SMALL CAPITAL OMEGA
  LATIN SMALL LETTER DZ DIGRAPH WITH RETROFLEX HOOK;cTS DIGRAPH WITH RETROFLEX HOOK
  cTURNED R WITH MIDDLE TILDE;MODIFIER LETTER SMALL TURNED W;bLEFT TACK;bRIGHT TACK;=AB70
  CHEROKEE SMALL LETTER A;cE;cI;cO;cU;cV;cGA;cKA;cGE;cGI;cGO;cGU;cGV;cHA;cHE;cHI;cHO;cHU;cHV;cLA
  cLE;cLI;cLO;cLU;cLV;cMA;cME;cMI;cMO;cMU;cNA;cHNA;cNAH;cNE;cNI;cNO;cNU;cNV;cQUA;cQUE;cQUI;cQUO
  cQUU;cQUV;cSA;cS;cSE;cSI;cSO;cSU;cSV;cDA;cTA;cDE;cTE;cDI;cTI;cDO;cDU;cDV;cDLA;cTLA;cTLE;cTLI;cTLO
  cTLU;cTLV;cTSA;cTSE;cTSI;cTSO;cTSU;cTSV;cWA;cWE;cWI;cWO;cWU;cWV;cYA;MEETEI MAYEK LETTER KOK;cSAM
  cLAI;cMIT;cPA;cNA;cCHIL;cTIL;cKHOU;cNGOU;cTHOU;cWAI;cYANG;cHUK;cUN;cI;cPHAM;cATIYA;cGOK;cJHAM
  cRAI;cBA;cJIL;cDIL;cGHOU;cDHOU;cBHAM;cKOK LONSUM;cLAI LONSUM;cMIT LONSUM;cPA LONSUM;cNA LONSUM
  cTIL LONSUM;cNGOU LONSUM;cI LONSUM;bVOWEL SIGN ONAP;dINAP;dANAP;dYENAP;dSOUNAP;dUNAP;dCHEINAP
  dNUNG;bCHEIKHEI;bLUM IYEK;bAPUN IYEK;=ABF0;bDIGIT ZERO;cONE;cTWO;cTHREE;cFOUR;cFIVE;cSIX;cSEVEN
  cEIGHT;cNINE;=D7B0;HANGUL JUNGSEONG O-YEO;bO-O-I;bYO-A;bYO-AE;bYO-EO;bU-YEO;bU-I-I;bYU-AE;bYU-O
  bEU-A;bEU-EO;bEU-E;bEU-O;bI-YA-O;bI-YAE;bI-YEO;bI-YE;bI-O-I;bI-YO;bI-YU;bI-I;bARAEA-A;bARAEA-E
  =D7CB;aJONGSEONG NIEUN-RIEUL;bNIEUN-CHIEUCH;bSSANGTIKEUT;bSSANGTIKEUT-PIEUP;bTIKEUT-PIEUP
  bTIKEUT-SIOS;bTIKEUT-SIOS-KIYEOK;bTIKEUT-CIEUC;bTIKEUT-CHIEUCH;bTIKEUT-THIEUTH;bRIEUL-SSANGKIYEOK
  bRIEUL-KIYEOK-HIEUH;bSSANGRIEUL-KHIEUKH;bRIEUL-MIEUM-HIEUH;bRIEUL-PIEUP-TIKEUT
  bRIEUL-PIEUP-PHIEUPH;bRIEUL-YESIEUNG;bRIEUL-YEORINHIEUH-HIEUH;bKAPYEOUNRIEUL;bMIEUM-NIEUN
  bMIEUM-SSANGNIEUN;bSSANGMIEUM;bMIEUM-PIEUP-SIOS;bMIEUM-CIEUC;bPIEUP-TIKEUT;bPIEUP-RIEUL-PHIEUPH
  bPIEUP-MIEUM;bSSANGPIEUP;bPIEUP-SIOS-TIKEUT;bPIEUP-CIEUC;bPIEUP-CHIEUCH;bSIOS-MIEUM
  bSIOS-KAPYEOUNPIEUP;bSSANGSIOS-KIYEOK;bSSANGSIOS-TIKEUT;bSIOS-PANSIOS;bSIOS-CIEUC;bSIOS-CHIEUCH
  bSIOS-THIEUTH;bSIOS-HIEUH;bPANSIOS-PIEUP;bPANSIOS-KAPYEOUNPIEUP;bYESIEUNG-MIEUM;bYESIEUNG-HIEUH
  bCIEUC-PIEUP;bCIEUC-SSANGPIEUP;bSSANGCIEUC;bPHIEUPH-SIOS;bPHIEUPH-THIEUTH;=FB00
  LATIN SMALL LIGATURE FF;cFI;cFL;cFFI;cFFL;cLONG S T;cST;=FB13;ARMENIAN SMALL LIGATURE MEN NOW
  dECH;dINI;cVEW NOW;cMEN XEH;=FB1D;HEBREW LETTER YOD WITH HIRIQ;aPOINT JUDEO-SPANISH VARIKA
  aLIGATURE YIDDISH YOD YOD PATAH;aLETTER ALTERNATIVE AYIN;bWIDE ALEF;cDALET;cHE;cKAF;cLAMED
  cFINAL MEM;cRESH;cTAV;bALTERNATIVE PLUS SIGN;bSHIN WITH SHIN DOT;dSIN DOT;dDAGESH AND SHIN DOT
  fSIN DOT;bALEF WITH PATAH;dQAMATS;dMAPIQ;bBET WITH DAGESH;bGIMEL WITH DAGESH;bDALET WITH DAGESH
  bHE WITH MAPIQ;bVAV WITH DAGESH;bZAYIN WITH DAGESH;=FB38;bTET WITH DAGESH;bYOD WITH DAGESH
  bFINAL KAF WITH DAGESH;bKAF WITH DAGESH;bLAMED WITH DAGESH;=FB3E;bMEM WITH DAGESH;=FB40
  bNUN WITH DAGESH;bSAMEKH WITH DAGESH;=FB43;bFINAL PE WITH DAGESH;bPE WITH DAGESH;=FB46
  bTSADI WITH DAGESH;bQOF WITH DAGESH;bRESH WITH DAGESH;bSHIN WITH DAGESH;bTAV WITH DAGESH
  bVAV WITH HOLAM;bBET WITH RAFE;bKAF WITH RAFE;bPE WITH RAFE;aLIGATURE ALEF LAMED
  ARABIC LETTER ALEF WASLA ISOLATED FORM;dFINAL FORM;bBEEH ISOLATED FORM;cFINAL FORM;cINITIAL FORM
  cMEDIAL FORM;bPEH ISOLATED FORM;cFINAL FORM;cINITIAL FORM;cMEDIAL FORM;bBEHEH ISOLATED FORM
  cFINAL FORM;cINITIAL FORM;cMEDIAL FORM;bTTEHEH ISOLATED FORM;cFINAL FORM;cINITIAL FORM
  cMEDIAL FORM;bTEHEH ISOLATED FORM;cFINAL FORM;cINITIAL FORM;cMEDIAL FORM;bTTEH ISOLATED FORM
  cFINAL FORM;cINITIAL FORM;cMEDIAL FORM;bVEH ISOLATED FORM;cFINAL FORM;cINITIAL FORM;cMEDIAL FORM
  bPEHEH ISOLATED FORM;cFINAL FORM;cINITIAL FORM;cMEDIAL FORM;bDYEH ISOLATED FORM;cFINAL FORM
  cINITIAL FORM;cMEDIAL FORM;bNYEH ISOLATED FORM;cFINAL FORM;cINITIAL FORM;cMEDIAL FORM
  bTCHEH ISOLATED FORM;cFINAL FORM;cINITIAL FORM;cMEDIAL FORM;bTCHEHEH ISOLATED FORM;cFINAL FORM
  cINITIAL FORM;cMEDIAL FORM;bDDAHAL ISOLATED FORM;cFINAL FORM;bDAHAL ISOLATED FORM;cFINAL FORM
  bDUL ISOLATED FORM;cFINAL FORM;bDDAL ISOLATED FORM;cFINAL FORM;bJEH ISOLATED FORM;cFINAL FORM
  bRREH ISOLATED FORM;cFINAL FORM;bKEHEH ISOLATED FORM;cFINAL FORM;cINITIAL FORM;cMEDIAL FORM
  bGAF ISOLATED FORM;cFINAL FORM;cINITIAL FORM;cMEDIAL FORM;bGUEH ISOLATED FORM;cFINAL FORM
  cINITIAL FORM;cMEDIAL FORM;bNGOEH ISOLATED FORM;cFINAL FORM;cINITIAL FORM;cMEDIAL FORM
  bNOON GHUNNA ISOLATED FORM;dFINAL FORM;bRNOON ISOLATED FORM;cFINAL FORM;cINITIAL FORM
  cMEDIAL FORM;bHEH WITH YEH ABOVE ISOLATED FORM;fFINAL FORM;cGOAL ISOLATED FORM;dFINAL FORM
  dINITIAL FORM;dMEDIAL FORM;cDOACHASHMEE ISOLATED FORM;dFINAL FORM;dINITIAL FORM;dMEDIAL FORM
  bYEH BARREE ISOLATED FORM;dFINAL FORM;dWITH HAMZA ABOVE ISOLATED FORM;gFINAL FORM
  aSYMBOL DOT ABOVE;cBELOW;bTWO DOTS ABOVE;dBELOW;bTHREE DOTS ABOVE;dBELOW
  dPOINTING DOWNWARDS ABOVE;fBELOW;bFOUR DOTS ABOVE;dBELOW;bDOUBLE VERTICAL BAR BELOW
  bTWO DOTS VERTICALLY ABOVE;eBELOW;bRING;bSMALL TAH ABOVE;dBELOW;bWASLA ABOVE;=FBD3
  aLETTER NG ISOLATED FORM;cFINAL FORM;cINITIAL FORM;cMEDIAL FORM;bU ISOLATED FORM;cFINAL FORM
  bOE ISOLATED FORM;cFINAL FORM;bYU ISOLATED FORM;cFINAL FORM;bU WITH HAMZA ABOVE ISOLATED FORM
  bVE ISOLATED FORM;cFINAL FORM;bKIRGHIZ OE ISOLATED FORM;dFINAL FORM;cYU ISOLATED FORM;dFINAL FORM
  bE ISOLATED FORM;cFINAL FORM;cINITIAL FORM;cMEDIAL FORM
  bUIGHUR KAZAKH KIRGHIZ ALEF MAKSURA INITIAL FORM;gMEDIAL FORM
  aLIGATURE YEH WITH HAMZA ABOVE WITH ALEF ISOLATED FORM;hFINAL FORM;gAE ISOLATED FORM;hFINAL FORM
  gWAW ISOLATED FORM;hFINAL FORM;gU ISOLATED FORM;hFINAL FORM;gOE ISOLATED FORM;hFINAL FORM
  gYU ISOLATED FORM;hFINAL FORM;gE ISOLATED FORM;hFINAL FORM;hINITIAL FORM
  bUIGHUR KIRGHIZ YEH WITH HAMZA ABOVE WITH ALEF MAKSURA ISOLATED FORM;kFINAL FORM;kINITIAL FORM
  aLETTER FARSI YEH ISOLATED FORM;dFINAL FORM;dINITIAL FORM;dMEDIAL FORM
  aLIGATURE YEH WITH HAMZA ABOVE WITH JEEM ISOLATED FORM;gHAH ISOLATED FORM;gMEEM ISOLATED FORM
  gALEF MAKSURA ISOLATED FORM;gYEH ISOLATED FORM;bBEH WITH JEEM ISOLATED FORM;dHAH ISOLATED FORM
  dKHAH ISOLATED FORM;dMEEM ISOLATED FORM;dALEF MAKSURA ISOLATED FORM;dYEH ISOLATED FORM
  bTEH WITH JEEM ISOLATED FORM;dHAH ISOLATED FORM;dKHAH ISOLATED FORM;dMEEM ISOLATED FORM
  dALEF MAKSURA ISOLATED FORM;dYEH ISOLATED FORM;bTHEH WITH JEEM ISOLATED FORM;dMEEM ISOLATED FORM
  dALEF MAKSURA ISOLATED FORM;dYEH ISOLATED FORM;bJEEM WITH HAH ISOLATED FORM;dMEEM ISOLATED FORM
  bHAH WITH JEEM ISOLATED FORM;dMEEM ISOLATED FORM;bKHAH WITH JEEM ISOLATED FORM;dHAH ISOLATED FORM
  dMEEM ISOLATED FORM;bSEEN WITH JEEM ISOLATED FORM;dHAH ISOLATED FORM;dKHAH ISOLATED FORM
  dMEEM ISOLATED FORM;bSAD WITH HAH ISOLATED FORM;dMEEM ISOLATED FORM;bDAD WITH JEEM ISOLATED FORM
  dHAH ISOLATED FORM;dKHAH ISOLATED FORM;dMEEM ISOLATED FORM;bTAH WITH HAH ISOLATED FORM
  dMEEM ISOLATED FORM;bZAH WITH MEEM ISOLATED FORM;bAIN WITH JEEM ISOLATED FORM;dMEEM ISOLATED FORM
  bGHAIN WITH JEEM ISOLATED FORM;dMEEM ISOLATED FORM;bFEH WITH JEEM ISOLATED FORM
  dHAH ISOLATED FORM;dKHAH ISOLATED FORM;dMEEM ISOLATED FORM;dALEF MAKSURA ISOLATED FORM
  dYEH ISOLATED FORM;bQAF WITH HAH ISOLATED FORM;dMEEM ISOLATED FORM;dALEF MAKSURA ISOLATED FORM
  dYEH ISOLATED FORM;bKAF WITH ALEF ISOLATED FORM;dJEEM ISOLATED FORM;dHAH ISOLATED FORM
  dKHAH ISOLATED FORM;dLAM ISOLATED FORM;dMEEM ISOLATED FORM;dALEF MAKSURA ISOLATED FORM
  dYEH ISOLATED FORM;bLAM WITH JEEM ISOLATED FORM;dHAH ISOLATED FORM;dKHAH ISOLATED FORM
  dMEEM ISOLATED FORM;dALEF MAKSURA ISOLATED FORM;dYEH ISOLATED FORM;bMEEM WITH JEEM ISOLATED FORM
  dHAH ISOLATED FORM;dKHAH ISOLATED FORM;dMEEM ISOLATED FORM;dALEF MAKSURA ISOLATED FORM
  dYEH ISOLATED FORM;bNOON WITH JEEM ISOLATED FORM;dHAH ISOLATED FORM;dKHAH ISOLATED FORM
  dMEEM ISOLATED FORM;dALEF MAKSURA ISOLATED FORM;dYEH ISOLATED FORM;bHEH WITH JEEM ISOLATED FORM
  dMEEM ISOLATED FORM;dALEF MAKSURA ISOLATED FORM;dYEH ISOLATED FORM;bYEH WITH JEEM ISOLATED FORM
  dHAH ISOLATED FORM;dKHAH ISOLATED FORM;dMEEM ISOLATED FORM;dALEF MAKSURA ISOLATED FORM
  dYEH ISOLATED FORM;bTHAL WITH SUPERSCRIPT ALEF ISOLATED FORM
  bREH WITH SUPERSCRIPT ALEF ISOLATED FORM;bALEF MAKSURA WITH SUPERSCRIPT ALEF ISOLATED FORM
  bSHADDA WITH DAMMATAN ISOLATED FORM;dKASRATAN ISOLATED FORM;dFATHA ISOLATED FORM
  dDAMMA ISOLATED FORM;dKASRA ISOLATED FORM;dSUPERSCRIPT ALEF ISOLATED FORM
  bYEH WITH HAMZA ABOVE WITH REH FINAL FORM;gZAIN FINAL FORM;gMEEM FINAL FORM;gNOON FINAL FORM
  gALEF MAKSURA FINAL FORM;gYEH FINAL FORM;bBEH WITH REH FINAL FORM;dZAIN FINAL FORM
  dMEEM FINAL FORM;dNOON FINAL FORM;dALEF MAKSURA FINAL FORM;dYEH FINAL FORM
  bTEH WITH REH FINAL FORM;dZAIN FINAL FORM;dMEEM FINAL FORM;dNOON FINAL FORM
  dALEF MAKSURA FINAL FORM;dYEH FINAL FORM;bTHEH WITH REH FINAL FORM;dZAIN FINAL FORM
  dMEEM FINAL FORM;dNOON FINAL FORM;dALEF MAKSURA FINAL FORM;dYEH FINAL FORM
  bFEH WITH ALEF MAKSURA FINAL FORM;dYEH FINAL FORM;bQAF WITH ALEF MAKSURA FINAL FORM
  dYEH FINAL FORM;bKAF WITH ALEF FINAL FORM;dLAM FINAL FORM;dMEEM FINAL FORM
  dALEF MAKSURA FINAL FORM;dYEH FINAL FORM;bLAM WITH MEEM FINAL FORM;dALEF MAKSURA FINAL FORM
  dYEH FINAL FORM;bMEEM WITH ALEF FINAL FORM;dMEEM FINAL FORM;bNOON WITH REH FINAL FORM
  dZAIN FINAL FORM;dMEEM FINAL FORM;dNOON FINAL FORM;dALEF MAKSURA FINAL FORM;dYEH FINAL FORM
  bALEF MAKSURA WITH SUPERSCRIPT ALEF FINAL FORM;bYEH WITH REH FINAL FORM;dZAIN FINAL FORM
  dMEEM FINAL FORM;dNOON FINAL FORM;dALEF MAKSURA FINAL FORM;dYEH FINAL FORM
  dHAMZA ABOVE WITH JEEM INITIAL FORM;gHAH INITIAL FORM;gKHAH INITIAL FORM;gMEEM INITIAL FORM
  gHEH INITIAL FORM;bBEH WITH JEEM INITIAL FORM;dHAH INITIAL FORM;dKHAH INITIAL FORM
  dMEEM INITIAL FORM;dHEH INITIAL FORM;bTEH WITH JEEM INITIAL FORM;dHAH INITIAL FORM
  dKHAH INITIAL FORM;dMEEM INITIAL FORM;dHEH INITIAL FORM;bTHEH WITH MEEM INITIAL FORM
  bJEEM WITH HAH INITIAL FORM;dMEEM INITIAL FORM;bHAH WITH JEEM INITIAL FORM;dMEEM INITIAL FORM
  bKHAH WITH JEEM INITIAL FORM;dMEEM INITIAL FORM;bSEEN WITH JEEM INITIAL FORM;dHAH INITIAL FORM
  dKHAH INITIAL FORM;dMEEM INITIAL FORM;bSAD WITH HAH INITIAL FORM;dKHAH INITIAL FORM
  dMEEM INITIAL FORM;bDAD WITH JEEM INITIAL FORM;dHAH INITIAL FORM;dKHAH INITIAL FORM
  dMEEM INITIAL FORM;bTAH WITH HAH INITIAL FORM;bZAH WITH MEEM INITIAL FORM
  bAIN WITH JEEM INITIAL FORM;dMEEM INITIAL FORM;bGHAIN WITH JEEM INITIAL FORM;dMEEM INITIAL FORM
  bFEH WITH JEEM INITIAL FORM;dHAH INITIAL FORM;dKHAH INITIAL FORM;dMEEM INITIAL FORM
  bQAF WITH HAH INITIAL FORM;dMEEM INITIAL FORM;bKAF WITH JEEM INITIAL FORM;dHAH INITIAL FORM
  dKHAH INITIAL FORM;dLAM INITIAL FORM;dMEEM INITIAL FORM;bLAM WITH JEEM INITIAL FORM
  dHAH INITIAL FORM;dKHAH INITIAL FORM;dMEEM INITIAL FORM;dHEH INITIAL FORM
  bMEEM WITH JEEM INITIAL FORM;dHAH INITIAL FORM;dKHAH INITIAL FORM;dMEEM INITIAL FORM
  bNOON WITH JEEM INITIAL FORM;dHAH INITIAL FORM;dKHAH INITIAL FORM;dMEEM INITIAL FORM
  dHEH INITIAL FORM;bHEH WITH JEEM INITIAL FORM;dMEEM INITIAL FORM;dSUPERSCRIPT ALEF INITIAL FORM
  bYEH WITH JEEM INITIAL FORM;dHAH INITIAL FORM;dKHAH INITIAL FORM;dMEEM INITIAL FORM
  dHEH INITIAL FORM;dHAMZA ABOVE WITH MEEM MEDIAL FORM;gHEH MEDIAL FORM;bBEH WITH MEEM MEDIAL FORM
  dHEH MEDIAL FORM;bTEH WITH MEEM MEDIAL FORM;dHEH MEDIAL FORM;bTHEH WITH MEEM MEDIAL FORM
  dHEH MEDIAL FORM;bSEEN WITH MEEM MEDIAL FORM;dHEH MEDIAL FORM;bSHEEN WITH MEEM MEDIAL FORM
  dHEH MEDIAL FORM;bKAF WITH LAM MEDIAL FORM;dMEEM MEDIAL FORM;bLAM WITH MEEM MEDIAL FORM
  bNOON WITH MEEM MEDIAL FORM;dHEH MEDIAL FORM;bYEH WITH MEEM MEDIAL FORM;dHEH MEDIAL FORM
  bSHADDA WITH FATHA MEDIAL FORM;dDAMMA MEDIAL FORM;dKASRA MEDIAL FORM
  bTAH WITH ALEF MAKSURA ISOLATED FORM;dYEH ISOLATED FORM;bAIN WITH ALEF MAKSURA ISOLATED FORM
  dYEH ISOLATED FORM;bGHAIN WITH ALEF MAKSURA ISOLATED FORM;dYEH ISOLATED FORM
  bSEEN WITH ALEF MAKSURA ISOLATED FORM;dYEH ISOLATED FORM;bSHEEN WITH ALEF MAKSURA ISOLATED FORM
  dYEH ISOLATED FORM;bHAH WITH ALEF MAKSURA ISOLATED FORM;dYEH ISOLATED FORM
  bJEEM WITH ALEF MAKSURA ISOLATED FORM;dYEH ISOLATED FORM;bKHAH WITH ALEF MAKSURA ISOLATED FORM
  dYEH ISOLATED FORM;bSAD WITH ALEF MAKSURA ISOLATED FORM;dYEH ISOLATED FORM
  bDAD WITH ALEF MAKSURA ISOLATED FORM;dYEH ISOLATED FORM;bSHEEN WITH JEEM ISOLATED FORM
  dHAH ISOLATED FORM;dKHAH ISOLATED FORM;dMEEM ISOLATED FORM;dREH ISOLATED FORM
  bSEEN WITH REH ISOLATED FORM;bSAD WITH REH ISOLATED FORM;bDAD WITH REH ISOLATED FORM
  bTAH WITH ALEF MAKSURA FINAL FORM;dYEH FINAL FORM;bAIN WITH ALEF MAKSURA FINAL FORM
  dYEH FINAL FORM;bGHAIN WITH ALEF MAKSURA FINAL FORM;dYEH FINAL FORM
  bSEEN WITH ALEF MAKSURA FINAL FORM;dYEH FINAL FORM;bSHEEN WITH ALEF MAKSURA FINAL FORM
  dYEH FINAL FORM;bHAH WITH ALEF MAKSURA FINAL FORM;dYEH FINAL FORM
  bJEEM WITH ALEF MAKSURA FINAL FORM;dYEH FINAL FORM;bKHAH WITH ALEF MAKSURA FINAL FORM
  dYEH FINAL FORM;bSAD WITH ALEF MAKSURA FINAL FORM;dYEH FINAL FORM
  bDAD WITH ALEF MAKSURA FINAL FORM;dYEH FINAL FORM;bSHEEN WITH JEEM FINAL FORM;dHAH FINAL FORM
  dKHAH FINAL FORM;dMEEM FINAL FORM;dREH FINAL FORM;bSEEN WITH REH FINAL FORM
  bSAD WITH REH FINAL FORM;bDAD WITH REH FINAL FORM;bSHEEN WITH JEEM INITIAL FORM;dHAH INITIAL FORM
  dKHAH INITIAL FORM;dMEEM INITIAL FORM;bSEEN WITH HEH INITIAL FORM;bSHEEN WITH HEH INITIAL FORM
  bTAH WITH MEEM INITIAL FORM;bSEEN WITH JEEM MEDIAL FORM;dHAH MEDIAL FORM;dKHAH MEDIAL FORM
  bSHEEN WITH JEEM MEDIAL FORM;dHAH MEDIAL FORM;dKHAH MEDIAL FORM;bTAH WITH MEEM MEDIAL FORM
  bZAH WITH MEEM MEDIAL FORM;bALEF WITH FATHATAN FINAL FORM;eISOLATED FORM;ORNATE LEFT PARENTHESIS
  aRIGHT PARENTHESIS;ARABIC LIGATURE RAHIMAHU ALLAAH;bRADI ALLAAHU ANH;dANHAA;dANHUM;dANHUMAA
  dANHUNNA;bSALLALLAAHU ALAYHI WA-AALIH;bALAYHI AS-SALAAM;bALAYHIM AS-SALAAM;bALAYHIMAA AS-SALAAM
  bALAYHI AS-SALAATU WAS-SALAAM;bQUDDISA SIRRAH;bSALLALLAHU ALAYHI WAAALIHEE WA-SALLAM
  bALAYHAA AS-SALAAM;bTABAARAKA WA-TAAALAA;bRAHIMAHUM ALLAAH;bTEH WITH JEEM WITH MEEM INITIAL FORM
  dHAH WITH JEEM FINAL FORM;gINITIAL FORM;fMEEM INITIAL FORM;dKHAH WITH MEEM INITIAL FORM
  dMEEM WITH JEEM INITIAL FORM;fHAH INITIAL FORM;fKHAH INITIAL FORM
  bJEEM WITH MEEM WITH HAH FINAL FORM;gINITIAL FORM;bHAH WITH MEEM WITH YEH FINAL FORM
  fALEF MAKSURA FINAL FORM;bSEEN WITH HAH WITH JEEM INITIAL FORM;dJEEM WITH HAH INITIAL FORM
  fALEF MAKSURA FINAL FORM;dMEEM WITH HAH FINAL FORM;gINITIAL FORM;fJEEM INITIAL FORM
  fMEEM FINAL FORM;gINITIAL FORM;bSAD WITH HAH WITH HAH FINAL FORM;gINITIAL FORM
  dMEEM WITH MEEM FINAL FORM;bSHEEN WITH HAH WITH MEEM FINAL FORM;gINITIAL FORM
  dJEEM WITH YEH FINAL FORM;dMEEM WITH KHAH FINAL FORM;gINITIAL FORM;fMEEM FINAL FORM;gINITIAL FORM
  bDAD WITH HAH WITH ALEF MAKSURA FINAL FORM;dKHAH WITH MEEM FINAL FORM;gINITIAL FORM
  bTAH WITH MEEM WITH HAH FINAL FORM;gINITIAL FORM;fMEEM INITIAL FORM;fYEH FINAL FORM
  bAIN WITH JEEM WITH MEEM FINAL FORM;dMEEM WITH MEEM FINAL FORM;gINITIAL FORM
  fALEF MAKSURA FINAL FORM;bGHAIN WITH MEEM WITH MEEM FINAL FORM;fYEH FINAL FORM
  fALEF MAKSURA FINAL FORM;bFEH WITH KHAH WITH MEEM FINAL FORM;gINITIAL FORM
  bQAF WITH MEEM WITH HAH FINAL FORM;fMEEM FINAL FORM;bLAM WITH HAH WITH MEEM FINAL FORM
  fYEH FINAL FORM;fALEF MAKSURA FINAL FORM;dJEEM WITH JEEM INITIAL FORM;gFINAL FORM
  dKHAH WITH MEEM FINAL FORM;gINITIAL FORM;dMEEM WITH HAH FINAL FORM;gINITIAL FORM
  bMEEM WITH HAH WITH JEEM INITIAL FORM;fMEEM INITIAL FORM;fYEH FINAL FORM
  dJEEM WITH HAH INITIAL FORM;fMEEM INITIAL FORM;dKHAH WITH JEEM INITIAL FORM;fMEEM INITIAL FORM
  =FD92;dJEEM WITH KHAH INITIAL FORM;bHEH WITH MEEM WITH JEEM INITIAL FORM;fMEEM INITIAL FORM
  bNOON WITH HAH WITH MEEM INITIAL FORM;fALEF MAKSURA FINAL FORM;dJEEM WITH MEEM FINAL FORM
  gINITIAL FORM;fALEF MAKSURA FINAL FORM;dMEEM WITH YEH FINAL FORM;fALEF MAKSURA FINAL FORM
  bYEH WITH MEEM WITH MEEM FINAL FORM;gINITIAL FORM;bBEH WITH KHAH WITH YEH FINAL FORM
  bTEH WITH JEEM WITH YEH FINAL FORM;fALEF MAKSURA FINAL FORM;dKHAH WITH YEH FINAL FORM
  fALEF MAKSURA FINAL FORM;dMEEM WITH YEH FINAL FORM;fALEF MAKSURA FINAL FORM
  bJEEM WITH MEEM WITH YEH FINAL FORM;dHAH WITH ALEF MAKSURA FINAL FORM
  dMEEM WITH ALEF MAKSURA FINAL FORM;bSEEN WITH KHAH WITH ALEF MAKSURA FINAL FORM
  bSAD WITH HAH WITH YEH FINAL FORM;bSHEEN WITH HAH WITH YEH FINAL FORM
  bDAD WITH HAH WITH YEH FINAL FORM;bLAM WITH JEEM WITH YEH FINAL FORM;dMEEM WITH YEH FINAL FORM
  bYEH WITH HAH WITH YEH FINAL FORM;dJEEM WITH YEH FINAL FORM;dMEEM WITH YEH FINAL FORM
  bMEEM WITH MEEM WITH YEH FINAL FORM;bQAF WITH MEEM WITH YEH FINAL FORM
  bNOON WITH HAH WITH YEH FINAL FORM;bQAF WITH MEEM WITH HAH INITIAL FORM
  bLAM WITH HAH WITH MEEM INITIAL FORM;bAIN WITH MEEM WITH YEH FINAL FORM
  bKAF WITH MEEM WITH YEH FINAL FORM;bNOON WITH JEEM WITH HAH INITIAL FORM
  bMEEM WITH KHAH WITH YEH FINAL FORM;bLAM WITH JEEM WITH MEEM INITIAL FORM
  bKAF WITH MEEM WITH MEEM FINAL FORM;bLAM WITH JEEM WITH MEEM FINAL FORM
  bNOON WITH JEEM WITH HAH FINAL FORM;bJEEM WITH HAH WITH YEH FINAL FORM
  bHAH WITH JEEM WITH YEH FINAL FORM;bMEEM WITH JEEM WITH YEH FINAL FORM
  bFEH WITH MEEM WITH YEH FINAL FORM;bBEH WITH HAH WITH YEH FINAL FORM
  bKAF WITH MEEM WITH MEEM INITIAL FORM;bAIN WITH JEEM WITH MEEM INITIAL FORM
  bSAD WITH MEEM WITH MEEM INITIAL FORM;bSEEN WITH KHAH WITH YEH FINAL FORM
  bNOON WITH JEEM WITH YEH FINAL FORM;=FDCF;bSALAAMUHU ALAYNAA;=FDF0
  bSALLA USED AS KORANIC STOP SIGN ISOLATED FORM;bQALA USED AS KORANIC STOP SIGN ISOLATED FORM
  bALLAH ISOLATED FORM;bAKBAR ISOLATED FORM;bMOHAMMAD ISOLATED FORM;bSALAM ISOLATED FORM
  bRASOUL ISOLATED FORM;bALAYHE ISOLATED FORM;bWASALLAM ISOLATED FORM;bSALLA ISOLATED FORM
  bSALLALLAHOU ALAYHE WASALLAM;bJALLAJALALOUHOU;RIAL SIGN
  ARABIC LIGATURE BISMILLAH AR-RAHMAN AR-RAHEEM;bSUBHAANAHU WA TAAALAA;bAZZA WA JALL
  VARIATION SELECTOR-1;aSELECTOR-2;aSELECTOR-3;aSELECTOR-4;aSELECTOR-5;aSELECTOR-6;aSELECTOR-7
  aSELECTOR-8;aSELECTOR-9;aSELECTOR-10;aSELECTOR-11;aSELECTOR-12;aSELECTOR-13;aSELECTOR-14
  aSELECTOR-15;aSELECTOR-16;PRESENTATION FORM FOR VERTICAL COMMA;dIDEOGRAPHIC COMMA;eFULL STOP
  dCOLON;dSEMICOLON;dEXCLAMATION MARK;dQUESTION MARK;dLEFT WHITE LENTICULAR BRACKET
  dRIGHT WHITE LENTICULAR BRAKCET;dHORIZONTAL ELLIPSIS;=FE20;COMBINING LIGATURE LEFT HALF
  bRIGHT HALF;aDOUBLE TILDE LEFT HALF;cRIGHT HALF;aMACRON LEFT HALF;bRIGHT HALF;aCONJOINING MACRON
  aLIGATURE LEFT HALF BELOW;bRIGHT HALF BELOW;aTILDE LEFT HALF BELOW;bRIGHT HALF BELOW
  aMACRON LEFT HALF BELOW;bRIGHT HALF BELOW;aCONJOINING MACRON BELOW;aCYRILLIC TITLO LEFT HALF
  cRIGHT HALF;PRESENTATION FORM FOR VERTICAL TWO DOT LEADER;dEM DASH;dEN DASH;dLOW LINE
  dWAVY LOW LINE;dLEFT PARENTHESIS;dRIGHT PARENTHESIS;dLEFT CURLY BRACKET;dRIGHT CURLY BRACKET
  dLEFT TORTOISE SHELL BRACKET;dRIGHT TORTOISE SHELL BRACKET;dLEFT BLACK LENTICULAR BRACKET
  dRIGHT BLACK LENTICULAR BRACKET;dLEFT DOUBLE ANGLE BRACKET;dRIGHT DOUBLE ANGLE BRACKET
  dLEFT ANGLE BRACKET;dRIGHT ANGLE BRACKET;dLEFT CORNER BRACKET;dRIGHT CORNER BRACKET
  dLEFT WHITE CORNER BRACKET;dRIGHT WHITE CORNER BRACKET;SESAME DOT;WHITE SESAME DOT
  PRESENTATION FORM FOR VERTICAL LEFT SQUARE BRACKET;dRIGHT SQUARE BRACKET;DASHED OVERLINE
  CENTRELINE OVERLINE;WAVY OVERLINE;DOUBLE WAVY OVERLINE;DASHED LOW LINE;CENTRELINE LOW LINE
  WAVY LOW LINE;SMALL COMMA;aIDEOGRAPHIC COMMA;aFULL STOP;=FE54;aSEMICOLON;aCOLON;aQUESTION MARK
  aEXCLAMATION MARK;aEM DASH;aLEFT PARENTHESIS;aRIGHT PARENTHESIS;aLEFT CURLY BRACKET
  aRIGHT CURLY BRACKET;aLEFT TORTOISE SHELL BRACKET;aRIGHT TORTOISE SHELL BRACKET;aNUMBER SIGN
  aAMPERSAND;aASTERISK;aPLUS SIGN;aHYPHEN-MINUS;aLESS-THAN SIGN;aGREATER-THAN SIGN;aEQUALS SIGN
  =FE68;aREVERSE SOLIDUS;aDOLLAR SIGN;aPERCENT SIGN;aCOMMERCIAL AT;=FE70
  ARABIC FATHATAN ISOLATED FORM;aTATWEEL WITH FATHATAN ABOVE;aDAMMATAN ISOLATED FORM;aTAIL FRAGMENT
  aKASRATAN ISOLATED FORM;=FE76;aFATHA ISOLATED FORM;bMEDIAL FORM;aDAMMA ISOLATED FORM;bMEDIAL FORM
  aKASRA ISOLATED FORM;bMEDIAL FORM;aSHADDA ISOLATED FORM;bMEDIAL FORM;aSUKUN ISOLATED FORM
  bMEDIAL FORM;aLETTER HAMZA ISOLATED FORM;bALEF WITH MADDA ABOVE ISOLATED FORM;fFINAL FORM
  dHAMZA ABOVE ISOLATED FORM;fFINAL FORM;bWAW WITH HAMZA ABOVE ISOLATED FORM;fFINAL FORM
  bALEF WITH HAMZA BELOW ISOLATED FORM;fFINAL FORM;bYEH WITH HAMZA ABOVE ISOLATED FORM;fFINAL FORM
  fINITIAL FORM;fMEDIAL FORM;bALEF ISOLATED FORM;cFINAL FORM;bBEH ISOLATED FORM;cFINAL FORM
  cINITIAL FORM;cMEDIAL FORM;bTEH MARBUTA ISOLATED FORM;dFINAL FORM;cISOLATED FORM;cFINAL FORM
  cINITIAL FORM;cMEDIAL FORM;bTHEH ISOLATED FORM;cFINAL FORM;cINITIAL FORM;cMEDIAL FORM
  bJEEM ISOLATED FORM;cFINAL FORM;cINITIAL FORM;cMEDIAL FORM;bHAH ISOLATED FORM;cFINAL FORM
  cINITIAL FORM;cMEDIAL FORM;bKHAH ISOLATED FORM;cFINAL FORM;cINITIAL FORM;cMEDIAL FORM
  bDAL ISOLATED FORM;cFINAL FORM;bTHAL ISOLATED FORM;cFINAL FORM;bREH ISOLATED FORM;cFINAL FORM
  bZAIN ISOLATED FORM;cFINAL FORM;bSEEN ISOLATED FORM;cFINAL FORM;cINITIAL FORM;cMEDIAL FORM
  bSHEEN ISOLATED FORM;cFINAL FORM;cINITIAL FORM;cMEDIAL FORM;bSAD ISOLATED FORM;cFINAL FORM
  cINITIAL FORM;cMEDIAL FORM;bDAD ISOLATED FORM;cFINAL FORM;cINITIAL FORM;cMEDIAL FORM
  bTAH ISOLATED FORM;cFINAL FORM;cINITIAL FORM;cMEDIAL FORM;bZAH ISOLATED FORM;cFINAL FORM
  cINITIAL FORM;cMEDIAL FORM;bAIN ISOLATED FORM;cFINAL FORM;cINITIAL FORM;cMEDIAL FORM
  bGHAIN ISOLATED FORM;cFINAL FORM;cINITIAL FORM;cMEDIAL FORM;bFEH ISOLATED FORM;cFINAL FORM
  cINITIAL FORM;cMEDIAL FORM;bQAF ISOLATED FORM;cFINAL FORM;cINITIAL FORM;cMEDIAL FORM
  bKAF ISOLATED FORM;cFINAL FORM;cINITIAL FORM;cMEDIAL FORM;bLAM ISOLATED FORM;cFINAL FORM
  cINITIAL FORM;cMEDIAL FORM;bMEEM ISOLATED FORM;cFINAL FORM;cINITIAL FORM;cMEDIAL FORM
  bNOON ISOLATED FORM;cFINAL FORM;cINITIAL FORM;cMEDIAL FORM;bHEH ISOLATED FORM;cFINAL FORM
  cINITIAL FORM;cMEDIAL FORM;bWAW ISOLATED FORM;cFINAL FORM;bALEF MAKSURA ISOLATED FORM;dFINAL FORM
  bYEH ISOLATED FORM;cFINAL FORM;cINITIAL FORM;cMEDIAL FORM
  aLIGATURE LAM WITH ALEF WITH MADDA ABOVE ISOLATED FORM;hFINAL FORM;fHAMZA ABOVE ISOLATED FORM
  hFINAL FORM;gBELOW ISOLATED FORM;hFINAL FORM;eISOLATED FORM;eFINAL FORM;=FEFF
  ZERO WIDTH NO-BREAK SPACE;=FF01;FULLWIDTH EXCLAMATION MARK;aQUOTATION MARK;aNUMBER SIGN
  aDOLLAR SIGN;aPERCENT SIGN;aAMPERSAND;aAPOSTROPHE;aLEFT PARENTHESIS;aRIGHT PARENTHESIS;aASTERISK
  aPLUS SIGN;aCOMMA;aHYPHEN-MINUS;aFULL STOP;aSOLIDUS;aDIGIT ZERO;bONE;bTWO;bTHREE;bFOUR;bFIVE;bSIX
  bSEVEN;bEIGHT;bNINE;aCOLON;aSEMICOLON;aLESS-THAN SIGN;aEQUALS SIGN;aGREATER-THAN SIGN
  aQUESTION MARK;aCOMMERCIAL AT;aLATIN CAPITAL LETTER A;dB;dC;dD;dE;dF;dG;dH;dI;dJ;dK;dL;dM;dN;dO
  dP;dQ;dR;dS;dT;dU;dV;dW;dX;dY;dZ;aLEFT SQUARE BRACKET;aREVERSE SOLIDUS;aRIGHT SQUARE BRACKET
  aCIRCUMFLEX ACCENT;aLOW LINE;aGRAVE ACCENT;aLATIN SMALL LETTER A;dB;dC;dD;dE;dF;dG;dH;dI;dJ;dK;dL
  dM;dN;dO;dP;dQ;dR;dS;dT;dU;dV;dW;dX;dY;dZ;aLEFT CURLY BRACKET;aVERTICAL LINE;aRIGHT CURLY BRACKET
  aTILDE;aLEFT WHITE PARENTHESIS;aRIGHT WHITE PARENTHESIS;HALFWIDTH IDEOGRAPHIC FULL STOP
  aLEFT CORNER BRACKET;aRIGHT CORNER BRACKET;aIDEOGRAPHIC COMMA;aKATAKANA MIDDLE DOT;bLETTER WO
  cSMALL A;dI;dU;dE;dO;dYA;dYU;dYO;dTU;aKATAKANA-HIRAGANA PROLONGED SOUND MARK;aKATAKANA LETTER A
  cI;cU;cE;cO;cKA;cKI;cKU;cKE;cKO;cSA;cSI;cSU;cSE;cSO;cTA;cTI;cTU;cTE;cTO;cNA;cNI;cNU;cNE;cNO;cHA
  cHI;cHU;cHE;cHO;cMA;cMI;cMU;cME;cMO;cYA;cYU;cYO;cRA;cRI;cRU;cRE;cRO;cWA;cN;bVOICED SOUND MARK
  bSEMI-VOICED SOUND MARK;aHANGUL FILLER;bLETTER KIYEOK;cSSANGKIYEOK;cKIYEOK-SIOS;cNIEUN
  cNIEUN-CIEUC;cNIEUN-HIEUH;cTIKEUT;cSSANGTIKEUT;cRIEUL;cRIEUL-KIYEOK;cRIEUL-MIEUM;cRIEUL-PIEUP
  cRIEUL-SIOS;cRIEUL-THIEUTH;cRIEUL-PHIEUPH;cRIEUL-HIEUH;cMIEUM;cPIEUP;cSSANGPIEUP;cPIEUP-SIOS
  cSIOS;cSSANGSIOS;cIEUNG;cCIEUC;cSSANGCIEUC;cCHIEUCH;cKHIEUKH;cTHIEUTH;cPHIEUPH;cHIEUH;=FFC2;cA
  cAE;cYA;cYAE;cEO;cE;=FFCA;cYEO;cYE;cO;cWA;cWAE;cOE;=FFD2;cYO;cU;cWEO;cWE;cWI;cYU;=FFDA;cEU;cYI;cI
  =FFE0;FULLWIDTH CENT SIGN;aPOUND SIGN;aNOT SIGN;aMACRON;aBROKEN BAR;aYEN SIGN;aWON SIGN;=FFE8
  HALFWIDTH FORMS LIGHT VERTICAL;aLEFTWARDS ARROW;aUPWARDS ARROW;aRIGHTWARDS ARROW;aDOWNWARDS ARROW
  aBLACK SQUARE;aWHITE CIRCLE;=FFF9;INTERLINEAR ANNOTATION ANCHOR;bSEPARATOR;bTERMINATOR
  OBJECT REPLACEMENT CHARACTER;REPLACEMENT CHARACTER"

end MapQuery.Text.Name
