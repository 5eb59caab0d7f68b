/-
Module: OperationClasses.Text.CharacterName.Symbols
Purpose: The names of marks, punctuation, currencies, arrows, mathematical and technical symbols and boxes.
Main exports: symbolNames
-/
import OperationClasses.Text.CharacterName.Family

namespace OperationClasses.Text

/-- The names of marks, punctuation, currencies, arrows, mathematical and technical symbols and boxes. -/
def symbolNames : List NameFamily := [
  ⟨["CIRCLED LATIN SMALL LETTER", "CIRCLED LATIN CAPITAL LETTER"], [
    "A,B,C,D,E,F,G,H,I,J,K,L,M,N,O,P,Q,R,S,T,U,V,W,X,Y,Z"]⟩,
  ⟨["BOX DRAWINGS LIGHT", "BOX DRAWINGS HEAVY"], [
    "DOUBLE DASH HORIZONTAL,DOUBLE DASH VERTICAL,DOWN,DOWN AND HORIZONTAL,DOWN AND LEFT,DOWN AND RIGHT",
    "HORIZONTAL,LEFT,QUADRUPLE DASH HORIZONTAL,QUADRUPLE DASH VERTICAL,RIGHT,TRIPLE DASH HORIZONTAL",
    "TRIPLE DASH VERTICAL,UP,UP AND HORIZONTAL,UP AND LEFT,UP AND RIGHT,VERTICAL",
    "VERTICAL AND HORIZONTAL,VERTICAL AND LEFT,VERTICAL AND RIGHT"]⟩,
  ⟨["SUPERSCRIPT", "SUBSCRIPT"], [
    "EIGHT,EQUALS SIGN,FIVE,FOUR,LEFT PARENTHESIS,MINUS,NINE,ONE,PLUS SIGN,RIGHT PARENTHESIS,SEVEN,SIX",
    "THREE,TWO,ZERO"]⟩,
  ⟨["LEFTWARDS", "RIGHTWARDS", "UPWARDS", "DOWNWARDS"], [
    "ARROW,ARROW FROM BAR,ARROW TO BAR,BLACK ARROW,BLACK CIRCLED WHITE ARROW,DASHED ARROW,DOUBLE ARROW",
    "PAIRED ARROWS,QUADRUPLE ARROW,TRIANGLE-HEADED ARROW,TRIANGLE-HEADED ARROW TO BAR",
    "TRIANGLE-HEADED ARROW WITH DOUBLE HORIZONTAL STROKE,TRIANGLE-HEADED DASHED ARROW",
    "TRIANGLE-HEADED PAIRED ARROWS,TRIPLE ARROW,TWO HEADED ARROW",
    "TWO-HEADED ARROW WITH TRIANGLE ARROWHEADS,WHITE ARROW"]⟩,
  ⟨["LEFTWARDS", "RIGHTWARDS"], [
    "ARROW ABOVE ALMOST EQUAL TO,ARROW ABOVE REVERSE ALMOST EQUAL TO,ARROW ABOVE REVERSE TILDE OPERATOR",
    "ARROW ABOVE TILDE OPERATOR,ARROW FROM BAR TO BLACK DIAMOND,ARROW THROUGH X,ARROW TO BLACK DIAMOND",
    "ARROW WITH DOTTED STEM,ARROW WITH DOUBLE VERTICAL STROKE,ARROW WITH HOOK,ARROW WITH LOOP",
    "ARROW WITH PLUS BELOW,ARROW WITH STROKE,ARROW WITH TAIL",
    "ARROW WITH TAIL WITH DOUBLE VERTICAL STROKE,ARROW WITH TAIL WITH VERTICAL STROKE",
    "ARROW WITH TIP DOWNWARDS,ARROW WITH TIP UPWARDS,ARROW WITH VERTICAL STROKE,ARROW-TAIL",
    "DOUBLE ARROW FROM BAR,DOUBLE ARROW WITH STROKE,DOUBLE ARROW WITH VERTICAL STROKE,DOUBLE ARROW-TAIL",
    "DOUBLE DASH ARROW,HARPOON WITH BARB DOWN BELOW LONG DASH,HARPOON WITH BARB DOWN FROM BAR",
    "HARPOON WITH BARB DOWN TO BAR,HARPOON WITH BARB DOWNWARDS,HARPOON WITH BARB UP ABOVE LONG DASH",
    "HARPOON WITH BARB UP FROM BAR,HARPOON WITH BARB UP TO BAR,HARPOON WITH BARB UPWARDS",
    "OPEN-HEADED ARROW,SQUIGGLE ARROW,TRIANGLE-HEADED ARROW WITH LONG TIP DOWNWARDS",
    "TRIANGLE-HEADED ARROW WITH LONG TIP UPWARDS,TRIPLE DASH ARROW,TWO-HEADED ARROW FROM BAR",
    "TWO-HEADED ARROW WITH DOUBLE VERTICAL STROKE,TWO-HEADED ARROW WITH TAIL",
    "TWO-HEADED ARROW WITH TAIL WITH DOUBLE VERTICAL STROKE",
    "TWO-HEADED ARROW WITH TAIL WITH VERTICAL STROKE,TWO-HEADED ARROW WITH VERTICAL STROKE",
    "TWO-HEADED TRIPLE DASH ARROW,WAVE ARROW"]⟩,
  ⟨["UPWARDS", "DOWNWARDS"], [
    "ARROW WITH DOUBLE STROKE,ARROW WITH HORIZONTAL STROKE,ARROW WITH TIP LEFTWARDS",
    "ARROW WITH TIP RIGHTWARDS,HARPOON WITH BARB LEFT BESIDE DOWNWARDS HARPOON WITH BARB RIGHT",
    "HARPOON WITH BARB LEFT BESIDE UPWARDS HARPOON WITH BARB RIGHT,HARPOON WITH BARB LEFT FROM BAR",
    "HARPOON WITH BARB LEFT TO BAR,HARPOON WITH BARB LEFTWARDS,HARPOON WITH BARB RIGHT FROM BAR",
    "HARPOON WITH BARB RIGHT TO BAR,HARPOON WITH BARB RIGHTWARDS",
    "TRIANGLE-HEADED ARROW WITH LONG TIP LEFTWARDS,TRIANGLE-HEADED ARROW WITH LONG TIP RIGHTWARDS"]⟩,
  ⟨["LEFT", "RIGHT"], [
    "ANGLE BRACKET,ANGLE BRACKET WITH DOT,ARROW WITH CIRCLED PLUS,ARROW WITH SMALL CIRCLE",
    "BLACK LENTICULAR BRACKET,BLACK TORTOISE SHELL BRACKET,CEILING,CORNER BRACKET,CURLY BRACKET",
    "CURLY BRACKET LOWER HOOK,CURLY BRACKET MIDDLE PIECE,CURLY BRACKET UPPER HOOK,DOUBLE ANGLE BRACKET",
    "DOUBLE QUOTATION MARK,DOUBLE WIGGLY FENCE,FISH TAIL,FLOOR,HALF BLACK CIRCLE,HALF BLACK STAR",
    "HALF BLOCK,NORMAL FACTOR SEMIDIRECT PRODUCT,ONE EIGHTH BLOCK,OUTER JOIN,PARENTHESIS",
    "PARENTHESIS EXTENSION,PARENTHESIS LOWER HOOK,PARENTHESIS UPPER HOOK,S-SHAPED BAG DELIMITER",
    "SEMIDIRECT PRODUCT,SINGLE QUOTATION MARK,SQUARE BRACKET,SQUARE BRACKET EXTENSION",
    "SQUARE BRACKET LOWER CORNER,SQUARE BRACKET UPPER CORNER,SQUARE BRACKET WITH QUILL",
    "SQUARE BRACKET WITH TICK IN BOTTOM CORNER,SQUARE BRACKET WITH TICK IN TOP CORNER",
    "SQUARE BRACKET WITH UNDERBAR,TACK,TORTOISE SHELL BRACKET,VERTICAL BOX LINE,WHITE CORNER BRACKET",
    "WHITE CURLY BRACKET,WHITE LENTICULAR BRACKET,WHITE PARENTHESIS,WHITE SQUARE BRACKET",
    "WHITE TORTOISE SHELL BRACKET,WIGGLY FENCE"]⟩,
  ⟨["BLACK", "WHITE"], [
    "CIRCLE,CIRCLE WITH DOWN ARROW,DIAMOND,DOWN-POINTING SMALL TRIANGLE,DOWN-POINTING TRIANGLE,HEXAGON",
    "HORIZONTAL ELLIPSE,HOURGLASS,LARGE SQUARE,LEFT-POINTING POINTER,LEFT-POINTING SMALL TRIANGLE",
    "LEFT-POINTING TRIANGLE,MEDIUM DIAMOND,MEDIUM LOZENGE,MEDIUM SMALL SQUARE,MEDIUM SQUARE",
    "PARALLELOGRAM,PENTAGON,RECTANGLE,RIGHT-POINTING PENTAGON,RIGHT-POINTING POINTER",
    "RIGHT-POINTING SMALL TRIANGLE,RIGHT-POINTING TRIANGLE,SMALL LOZENGE,SMALL SQUARE,SMALL STAR,SQUARE",
    "UP-POINTING SMALL TRIANGLE,UP-POINTING TRIANGLE,VERTICAL ELLIPSE,VERTICAL RECTANGLE",
    "VERY SMALL SQUARE"]⟩,
  ⟨["SUBSET", "SUPERSET"], [
    "ABOVE SUBSET,ABOVE SUPERSET,OF,OF ABOVE ALMOST EQUAL TO,OF ABOVE EQUALS SIGN,OF ABOVE NOT EQUAL TO",
    "OF ABOVE TILDE OPERATOR,OF OR EQUAL TO,OF OR EQUAL TO WITH DOT ABOVE,OF WITH NOT EQUAL TO,WITH DOT",
    "WITH MULTIPLICATION SIGN BELOW,WITH PLUS SIGN BELOW"]⟩,
  ⟨["PRECEDES", "SUCCEEDS"], [
    "ABOVE ALMOST EQUAL TO,ABOVE EQUALS SIGN,ABOVE NOT ALMOST EQUAL TO,ABOVE NOT EQUAL TO",
    "ABOVE SINGLE-LINE EQUALS SIGN,ABOVE SINGLE-LINE NOT EQUAL TO,BUT NOT EQUIVALENT TO,OR EQUAL TO",
    "OR EQUIVALENT TO,UNDER RELATION"]⟩,
  ⟨["LESS-THAN", "GREATER-THAN"], [
    "ABOVE SIMILAR OR EQUAL,AND NOT APPROXIMATE,AND SINGLE-LINE NOT EQUAL TO,BUT NOT EQUAL TO",
    "BUT NOT EQUIVALENT TO,CLOSED BY CURVE,CLOSED BY CURVE ABOVE SLANTED EQUAL,OR APPROXIMATE",
    "OR EQUAL TO,OR EQUIVALENT TO,OR SLANTED EQUAL TO,OR SLANTED EQUAL TO WITH DOT ABOVE",
    "OR SLANTED EQUAL TO WITH DOT INSIDE,OVER EQUAL TO,SIGN,WITH CIRCLE INSIDE,WITH DOT",
    "WITH QUESTION MARK ABOVE"]⟩,
  ⟨["APL FUNCTIONAL SYMBOL"], [
    "ALPHA,ALPHA UNDERBAR,BACKSLASH BAR,CIRCLE BACKSLASH,CIRCLE DIAERESIS,CIRCLE JOT,CIRCLE STAR",
    "CIRCLE STILE,CIRCLE UNDERBAR,COMMA BAR,DEL DIAERESIS,DEL STILE,DEL TILDE,DELTA STILE",
    "DELTA UNDERBAR,DIAMOND UNDERBAR,DOWN CARET TILDE,DOWN SHOE STILE,DOWN TACK JOT,DOWN TACK UNDERBAR",
    "DOWNWARDS VANE,EPSILON UNDERBAR,GREATER-THAN DIAERESIS,I-BEAM,IOTA,IOTA UNDERBAR,JOT DIAERESIS",
    "JOT UNDERBAR,LEFT SHOE STILE,LEFTWARDS VANE,OMEGA,OMEGA UNDERBAR,QUAD,QUAD BACKSLASH,QUAD CIRCLE",
    "QUAD COLON,QUAD DEL,QUAD DELTA,QUAD DIAMOND,QUAD DIVIDE,QUAD DOWN CARET,QUAD DOWNWARDS ARROW",
    "QUAD EQUAL,QUAD GREATER-THAN,QUAD JOT,QUAD LEFTWARDS ARROW,QUAD LESS-THAN,QUAD NOT EQUAL",
    "QUAD QUESTION,QUAD RIGHTWARDS ARROW,QUAD SLASH,QUAD UP CARET,QUAD UPWARDS ARROW,QUOTE QUAD",
    "QUOTE UNDERBAR,RHO,RIGHTWARDS VANE,SEMICOLON UNDERBAR,SLASH BAR,SQUISH QUAD,STAR DIAERESIS",
    "STILE TILDE,TILDE DIAERESIS,UP CARET TILDE,UP SHOE JOT,UP TACK DIAERESIS,UP TACK JOT",
    "UP TACK OVERBAR,UPWARDS VANE,ZILDE"]⟩,
  ⟨["MODIFIER LETTER"], [
    "ACUTE ACCENT,APOSTROPHE,BEGIN HIGH TONE,BEGIN LOW TONE,CENTRED LEFT HALF RING",
    "CENTRED RIGHT HALF RING,CIRCUMFLEX ACCENT,CROSS ACCENT,DOUBLE APOSTROPHE,DOUBLE PRIME",
    "DOWN ARROWHEAD,DOWN TACK,END HIGH TONE,END LOW TONE,EXTRA-HIGH TONE BAR,EXTRA-LOW TONE BAR",
    "GLOTTAL STOP,GRAVE ACCENT,HALF TRIANGULAR COLON,HIGH TONE BAR,LEFT ARROWHEAD,LEFT HALF RING",
    "LOW ACUTE ACCENT,LOW DOWN ARROWHEAD,LOW GRAVE ACCENT,LOW LEFT ARROW,LOW LEFT ARROWHEAD,LOW MACRON",
    "LOW RIGHT ARROWHEAD,LOW RING,LOW TILDE,LOW TONE BAR,LOW UP ARROWHEAD,LOW VERTICAL LINE,MACRON",
    "MID TONE BAR,MIDDLE DOUBLE ACUTE ACCENT,MIDDLE DOUBLE GRAVE ACCENT,MIDDLE GRAVE ACCENT,MINUS SIGN",
    "OPEN SHELF,PLUS SIGN,PRIME,RAISED COLON,REVERSED COMMA,REVERSED GLOTTAL STOP,RHOTIC HOOK",
    "RIGHT ARROWHEAD,RIGHT HALF RING,SHELF,SMALL CAPITAL INVERTED R,SMALL GAMMA,SMALL H",
    "SMALL H WITH HOOK,SMALL J,SMALL L,SMALL R,SMALL REVERSED GLOTTAL STOP,SMALL S,SMALL TURNED R",
    "SMALL TURNED R WITH HOOK,SMALL W,SMALL X,SMALL Y,TRIANGULAR COLON,TURNED COMMA,UNASPIRATED",
    "UP ARROWHEAD,UP TACK,VERTICAL LINE,VOICING,YANG DEPARTING TONE MARK,YIN DEPARTING TONE MARK"]⟩,
  ⟨["COMBINING"], [
    "ACUTE ACCENT,ACUTE ACCENT BELOW,ACUTE TONE MARK,ALMOST EQUAL TO ABOVE,ASTERISK BELOW,BREVE",
    "BREVE BELOW,BRIDGE ABOVE,BRIDGE BELOW,CANDRABINDU,CARON,CARON BELOW,CEDILLA,CIRCUMFLEX ACCENT",
    "CIRCUMFLEX ACCENT BELOW,COMMA ABOVE,COMMA ABOVE RIGHT,COMMA BELOW,DIAERESIS,DIAERESIS BELOW",
    "DOT ABOVE,DOT ABOVE RIGHT,DOT BELOW,DOUBLE ACUTE ACCENT,DOUBLE BREVE,DOUBLE BREVE BELOW",
    "DOUBLE GRAVE ACCENT,DOUBLE INVERTED BREVE,DOUBLE LOW LINE,DOUBLE MACRON,DOUBLE MACRON BELOW",
    "DOUBLE OVERLINE,DOUBLE RIGHTWARDS ARROW BELOW,DOUBLE RING BELOW,DOUBLE TILDE",
    "DOUBLE VERTICAL LINE ABOVE,DOUBLE VERTICAL LINE BELOW,DOWN TACK BELOW,EQUALS SIGN BELOW,FERMATA",
    "GRAPHEME JOINER,GRAVE ACCENT,GRAVE ACCENT BELOW,GRAVE TONE MARK,GREEK DIALYTIKA TONOS",
    "GREEK KORONIS,GREEK PERISPOMENI,GREEK YPOGEGRAMMENI,HOMOTHETIC ABOVE,HOOK ABOVE,HORN",
    "INVERTED BREVE,INVERTED BREVE BELOW,INVERTED BRIDGE BELOW,INVERTED DOUBLE ARCH BELOW",
    "LATIN SMALL LETTER A,LATIN SMALL LETTER C,LATIN SMALL LETTER D,LATIN SMALL LETTER E",
    "LATIN SMALL LETTER H,LATIN SMALL LETTER I,LATIN SMALL LETTER M,LATIN SMALL LETTER O",
    "LATIN SMALL LETTER R,LATIN SMALL LETTER T,LATIN SMALL LETTER U,LATIN SMALL LETTER V",
    "LATIN SMALL LETTER X,LEFT ANGLE ABOVE,LEFT ANGLE BELOW,LEFT ARROWHEAD BELOW,LEFT HALF RING ABOVE",
    "LEFT HALF RING BELOW,LEFT RIGHT ARROW BELOW,LEFT TACK BELOW,LONG SOLIDUS OVERLAY",
    "LONG STROKE OVERLAY,LOW LINE,MACRON,MACRON BELOW,MINUS SIGN BELOW,NOT TILDE ABOVE,OGONEK,OVERLINE",
    "PALATALIZED HOOK BELOW,PLUS SIGN BELOW,RETROFLEX HOOK BELOW,REVERSED COMMA ABOVE",
    "RIGHT ARROWHEAD ABOVE,RIGHT ARROWHEAD AND UP ARROWHEAD BELOW,RIGHT ARROWHEAD BELOW",
    "RIGHT HALF RING ABOVE,RIGHT HALF RING BELOW,RIGHT TACK BELOW,RING ABOVE,RING BELOW,SEAGULL BELOW",
    "SHORT SOLIDUS OVERLAY,SHORT STROKE OVERLAY,SQUARE BELOW,TILDE,TILDE BELOW,TILDE OVERLAY",
    "TURNED COMMA ABOVE,UP TACK BELOW,UPWARDS ARROW BELOW,VERTICAL LINE ABOVE,VERTICAL LINE BELOW",
    "VERTICAL TILDE,X ABOVE,X BELOW,ZIGZAG ABOVE"]⟩,
  ⟨["BOX DRAWINGS"], [
    "DOUBLE DOWN AND HORIZONTAL,DOUBLE DOWN AND LEFT,DOUBLE DOWN AND RIGHT,DOUBLE HORIZONTAL",
    "DOUBLE UP AND HORIZONTAL,DOUBLE UP AND LEFT,DOUBLE UP AND RIGHT,DOUBLE VERTICAL",
    "DOUBLE VERTICAL AND HORIZONTAL,DOUBLE VERTICAL AND LEFT,DOUBLE VERTICAL AND RIGHT",
    "DOWN DOUBLE AND HORIZONTAL SINGLE,DOWN DOUBLE AND LEFT SINGLE,DOWN DOUBLE AND RIGHT SINGLE",
    "DOWN HEAVY AND HORIZONTAL LIGHT,DOWN HEAVY AND LEFT LIGHT,DOWN HEAVY AND LEFT UP LIGHT",
    "DOWN HEAVY AND RIGHT LIGHT,DOWN HEAVY AND RIGHT UP LIGHT,DOWN HEAVY AND UP HORIZONTAL LIGHT",
    "DOWN LIGHT AND HORIZONTAL HEAVY,DOWN LIGHT AND LEFT HEAVY,DOWN LIGHT AND LEFT UP HEAVY",
    "DOWN LIGHT AND RIGHT HEAVY,DOWN LIGHT AND RIGHT UP HEAVY,DOWN LIGHT AND UP HORIZONTAL HEAVY",
    "DOWN SINGLE AND HORIZONTAL DOUBLE,DOWN SINGLE AND LEFT DOUBLE,DOWN SINGLE AND RIGHT DOUBLE",
    "HEAVY LEFT AND LIGHT RIGHT,HEAVY UP AND LIGHT DOWN,LEFT DOWN HEAVY AND RIGHT UP LIGHT",
    "LEFT HEAVY AND RIGHT DOWN LIGHT,LEFT HEAVY AND RIGHT UP LIGHT,LEFT HEAVY AND RIGHT VERTICAL LIGHT",
    "LEFT LIGHT AND RIGHT DOWN HEAVY,LEFT LIGHT AND RIGHT UP HEAVY,LEFT LIGHT AND RIGHT VERTICAL HEAVY",
    "LEFT UP HEAVY AND RIGHT DOWN LIGHT,LIGHT ARC DOWN AND LEFT,LIGHT ARC DOWN AND RIGHT",
    "LIGHT ARC UP AND LEFT,LIGHT ARC UP AND RIGHT,LIGHT DIAGONAL CROSS",
    "LIGHT DIAGONAL UPPER LEFT TO LOWER RIGHT,LIGHT DIAGONAL UPPER RIGHT TO LOWER LEFT",
    "LIGHT LEFT AND HEAVY RIGHT,LIGHT UP AND HEAVY DOWN,RIGHT DOWN HEAVY AND LEFT UP LIGHT",
    "RIGHT HEAVY AND LEFT DOWN LIGHT,RIGHT HEAVY AND LEFT UP LIGHT,RIGHT HEAVY AND LEFT VERTICAL LIGHT",
    "RIGHT LIGHT AND LEFT DOWN HEAVY,RIGHT LIGHT AND LEFT UP HEAVY,RIGHT LIGHT AND LEFT VERTICAL HEAVY",
    "RIGHT UP HEAVY AND LEFT DOWN LIGHT,UP DOUBLE AND HORIZONTAL SINGLE,UP DOUBLE AND LEFT SINGLE",
    "UP DOUBLE AND RIGHT SINGLE,UP HEAVY AND DOWN HORIZONTAL LIGHT,UP HEAVY AND HORIZONTAL LIGHT",
    "UP HEAVY AND LEFT DOWN LIGHT,UP HEAVY AND LEFT LIGHT,UP HEAVY AND RIGHT DOWN LIGHT",
    "UP HEAVY AND RIGHT LIGHT,UP LIGHT AND DOWN HORIZONTAL HEAVY,UP LIGHT AND HORIZONTAL HEAVY",
    "UP LIGHT AND LEFT DOWN HEAVY,UP LIGHT AND LEFT HEAVY,UP LIGHT AND RIGHT DOWN HEAVY",
    "UP LIGHT AND RIGHT HEAVY,UP SINGLE AND HORIZONTAL DOUBLE,UP SINGLE AND LEFT DOUBLE",
    "UP SINGLE AND RIGHT DOUBLE,VERTICAL DOUBLE AND HORIZONTAL SINGLE,VERTICAL DOUBLE AND LEFT SINGLE",
    "VERTICAL DOUBLE AND RIGHT SINGLE,VERTICAL HEAVY AND HORIZONTAL LIGHT,VERTICAL HEAVY AND LEFT LIGHT",
    "VERTICAL HEAVY AND RIGHT LIGHT,VERTICAL LIGHT AND HORIZONTAL HEAVY,VERTICAL LIGHT AND LEFT HEAVY",
    "VERTICAL LIGHT AND RIGHT HEAVY,VERTICAL SINGLE AND HORIZONTAL DOUBLE",
    "VERTICAL SINGLE AND LEFT DOUBLE,VERTICAL SINGLE AND RIGHT DOUBLE"]⟩,
  ⟨["PRESENTATION FORM FOR VERTICAL"], [
    "COLON,COMMA,EM DASH,EN DASH,EXCLAMATION MARK,HORIZONTAL ELLIPSIS,IDEOGRAPHIC COMMA",
    "IDEOGRAPHIC FULL STOP,LEFT ANGLE BRACKET,LEFT BLACK LENTICULAR BRACKET,LEFT CORNER BRACKET",
    "LEFT CURLY BRACKET,LEFT DOUBLE ANGLE BRACKET,LEFT PARENTHESIS,LEFT SQUARE BRACKET",
    "LEFT TORTOISE SHELL BRACKET,LEFT WHITE CORNER BRACKET,LEFT WHITE LENTICULAR BRACKET,LOW LINE",
    "QUESTION MARK,RIGHT ANGLE BRACKET,RIGHT BLACK LENTICULAR BRACKET,RIGHT CORNER BRACKET",
    "RIGHT CURLY BRACKET,RIGHT DOUBLE ANGLE BRACKET,RIGHT PARENTHESIS,RIGHT SQUARE BRACKET",
    "RIGHT TORTOISE SHELL BRACKET,RIGHT WHITE CORNER BRACKET,RIGHT WHITE LENTICULAR BRAKCET,SEMICOLON",
    "TWO DOT LEADER,WAVY LOW LINE"]⟩,
  ⟨["PARENTHESIZED LATIN SMALL LETTER"], [
    "A,B,C,D,E,F,G,H,I,J,K,L,M,N,O,P,Q,R,S,T,U,V,W,X,Y,Z"]⟩,
  ⟨["SYMBOL FOR"], [
    "ACKNOWLEDGE,BACKSPACE,BELL,CANCEL,CARRIAGE RETURN,DATA LINK ESCAPE,DELETE,DELETE FORM TWO",
    "DEVICE CONTROL FOUR,DEVICE CONTROL ONE,DEVICE CONTROL THREE,DEVICE CONTROL TWO,END OF MEDIUM",
    "END OF TEXT,END OF TRANSMISSION,END OF TRANSMISSION BLOCK,ENQUIRY,ESCAPE,FILE SEPARATOR,FORM FEED",
    "GROUP SEPARATOR,HORIZONTAL TABULATION,LINE FEED,NEGATIVE ACKNOWLEDGE,NEWLINE,NULL,RECORD SEPARATOR",
    "SAMARITAN SOURCE,SHIFT IN,SHIFT OUT,SPACE,START OF HEADING,START OF TEXT,SUBSTITUTE",
    "SUBSTITUTE FORM TWO,SYNCHRONOUS IDLE,TYPE A ELECTRONICS,UNIT SEPARATOR,VERTICAL TABULATION"]⟩,
  ⟨["FULLWIDTH"], [
    "AMPERSAND,APOSTROPHE,ASTERISK,BROKEN BAR,CENT SIGN,CIRCUMFLEX ACCENT,COLON,COMMA,COMMERCIAL AT",
    "DOLLAR SIGN,EQUALS SIGN,EXCLAMATION MARK,FULL STOP,GRAVE ACCENT,GREATER-THAN SIGN,HYPHEN-MINUS",
    "LEFT CURLY BRACKET,LEFT PARENTHESIS,LEFT SQUARE BRACKET,LEFT WHITE PARENTHESIS,LESS-THAN SIGN",
    "LOW LINE,MACRON,NOT SIGN,NUMBER SIGN,PERCENT SIGN,PLUS SIGN,POUND SIGN,QUESTION MARK",
    "QUOTATION MARK,REVERSE SOLIDUS,RIGHT CURLY BRACKET,RIGHT PARENTHESIS,RIGHT SQUARE BRACKET",
    "RIGHT WHITE PARENTHESIS,SEMICOLON,SOLIDUS,TILDE,VERTICAL LINE,WON SIGN,YEN SIGN"]⟩,
  ⟨["MEASURED ANGLE WITH OPEN ARM ENDING IN ARROW POINTING"], [
    "DOWN AND LEFT,DOWN AND RIGHT,LEFT AND DOWN,LEFT AND UP,RIGHT AND DOWN,RIGHT AND UP,UP AND LEFT",
    "UP AND RIGHT"]⟩,
  ⟨["CIRCLED"], [
    "ANTICLOCKWISE-ROTATED DIVISION SIGN,ASTERISK OPERATOR,BOLD X,BULLET,DASH,DIGIT EIGHT,DIGIT FIVE",
    "DIGIT FOUR,DIGIT NINE,DIGIT ONE,DIGIT SEVEN,DIGIT SIX,DIGIT THREE,DIGIT TWO,DIGIT ZERO",
    "DIVISION SIGN,DIVISION SLASH,DOT OPERATOR,EQUALS,GREATER-THAN,HORIZONTAL BAR WITH NOTCH,LESS-THAN",
    "MINUS,MULTIPLICATION SIGN WITH CIRCUMFLEX ACCENT,NUMBER EIGHTEEN,NUMBER ELEVEN,NUMBER FIFTEEN",
    "NUMBER FOURTEEN,NUMBER NINETEEN,NUMBER SEVENTEEN,NUMBER SIXTEEN,NUMBER TEN,NUMBER THIRTEEN",
    "NUMBER TWELVE,NUMBER TWENTY,PARALLEL,PERPENDICULAR,PLUS,POSTAL MARK,REVERSE SOLIDUS,RING OPERATOR",
    "TIMES,TRIANGLE DOWN,VERTICAL BAR,WHITE BULLET,X"]⟩,
  ⟨["LATIN SUBSCRIPT SMALL LETTER"], [
    "A,E,H,K,L,M,N,O,P,S,SCHWA,T,X"]⟩,
  ⟨["ROMAN NUMERAL"], [
    "EIGHT,ELEVEN,FIFTY,FIFTY EARLY FORM,FIFTY THOUSAND,FIVE,FIVE HUNDRED,FIVE THOUSAND,FOUR,NINE,ONE",
    "ONE HUNDRED,ONE HUNDRED THOUSAND,ONE THOUSAND,ONE THOUSAND C D,REVERSED ONE HUNDRED,SEVEN,SIX",
    "SIX LATE FORM,TEN,TEN THOUSAND,THREE,TWELVE,TWO"]⟩,
  ⟨["DOUBLE"], [
    "ACUTE ACCENT,CIRCLED DIGIT EIGHT,CIRCLED DIGIT FIVE,CIRCLED DIGIT FOUR,CIRCLED DIGIT NINE",
    "CIRCLED DIGIT ONE,CIRCLED DIGIT SEVEN,CIRCLED DIGIT SIX,CIRCLED DIGIT THREE,CIRCLED DIGIT TWO",
    "CIRCLED NUMBER TEN,COLON EQUAL,DAGGER,DOWN TACK,EXCLAMATION MARK,HIGH-REVERSED-9 QUOTATION MARK",
    "INTEGRAL,INTERSECTION,LEFT ARC GREATER-THAN BRACKET,LOGICAL AND,LOGICAL OR,LOW LINE",
    "LOW-9 QUOTATION MARK,NESTED GREATER-THAN,NESTED LESS-THAN,NESTED LESS-THAN WITH UNDERBAR,PLUS",
    "PRECEDES,PRIME,PRIME QUOTATION MARK,QUESTION MARK,RIGHT ARC LESS-THAN BRACKET,SOLIDUS OPERATOR",
    "SQUARE INTERSECTION,SQUARE UNION,STROKE NOT SIGN,SUBSET,SUCCEEDS,SUPERSET,UNION,UP TACK",
    "VERTICAL BAR,VERTICAL BAR DOUBLE LEFT TURNSTILE,VERTICAL BAR DOUBLE RIGHT TURNSTILE",
    "VERTICAL BAR LEFT TURNSTILE,VERTICAL LINE,WAVY OVERLINE"]⟩,
  ⟨["DENTISTRY SYMBOL LIGHT"], [
    "DOWN AND HORIZONTAL,DOWN AND HORIZONTAL WITH CIRCLE,DOWN AND HORIZONTAL WITH TRIANGLE",
    "DOWN AND HORIZONTAL WITH WAVE,UP AND HORIZONTAL,UP AND HORIZONTAL WITH CIRCLE",
    "UP AND HORIZONTAL WITH TRIANGLE,UP AND HORIZONTAL WITH WAVE,VERTICAL AND BOTTOM LEFT",
    "VERTICAL AND BOTTOM RIGHT,VERTICAL AND TOP LEFT,VERTICAL AND TOP RIGHT,VERTICAL AND WAVE",
    "VERTICAL WITH CIRCLE,VERTICAL WITH TRIANGLE"]⟩,
  ⟨["SMALL ROMAN NUMERAL"], [
    "EIGHT,ELEVEN,FIFTY,FIVE,FIVE HUNDRED,FOUR,NINE,ONE,ONE HUNDRED,ONE THOUSAND,SEVEN,SIX,TEN,THREE",
    "TWELVE,TWO"]⟩,
  ⟨["VULGAR FRACTION"], [
    "FIVE EIGHTHS,FIVE SIXTHS,FOUR FIFTHS,ONE EIGHTH,ONE FIFTH,ONE HALF,ONE NINTH,ONE QUARTER",
    "ONE SEVENTH,ONE SIXTH,ONE TENTH,ONE THIRD,SEVEN EIGHTHS,THREE EIGHTHS,THREE FIFTHS,THREE QUARTERS",
    "TWO FIFTHS,TWO THIRDS,ZERO THIRDS"]⟩,
  ⟨["PARENTHESIZED"], [
    "DIGIT EIGHT,DIGIT FIVE,DIGIT FOUR,DIGIT NINE,DIGIT ONE,DIGIT SEVEN,DIGIT SIX,DIGIT THREE,DIGIT TWO",
    "NUMBER EIGHTEEN,NUMBER ELEVEN,NUMBER FIFTEEN,NUMBER FOURTEEN,NUMBER NINETEEN,NUMBER SEVENTEEN",
    "NUMBER SIXTEEN,NUMBER TEN,NUMBER THIRTEEN,NUMBER TWELVE,NUMBER TWENTY"]⟩,
  ⟨["BLACK"], [
    "BOWTIE,CIRCLE FOR RECORD,CURVED DOWNWARDS AND LEFTWARDS ARROW",
    "CURVED DOWNWARDS AND RIGHTWARDS ARROW,CURVED LEFTWARDS AND DOWNWARDS ARROW",
    "CURVED LEFTWARDS AND UPWARDS ARROW,CURVED RIGHTWARDS AND DOWNWARDS ARROW",
    "CURVED RIGHTWARDS AND UPWARDS ARROW,CURVED UPWARDS AND LEFTWARDS ARROW",
    "CURVED UPWARDS AND RIGHTWARDS ARROW,DIAMOND CENTRED,DIAMOND ON CROSS,DIAMOND WITH DOWN ARROW",
    "DOWN-POINTING DOUBLE TRIANGLE,DOWNWARDS EQUILATERAL ARROWHEAD,LARGE CIRCLE",
    "LEFT-POINTING DOUBLE TRIANGLE,LEFT-POINTING DOUBLE TRIANGLE WITH VERTICAL BAR,LEFTWARDS BULLET",
    "LEFTWARDS EQUILATERAL ARROWHEAD,LOWER LEFT TRIANGLE,LOWER RIGHT TRIANGLE,LOZENGE",
    "MEDIUM DOWN-POINTING TRIANGLE,MEDIUM DOWN-POINTING TRIANGLE CENTRED,MEDIUM LEFT-POINTING TRIANGLE",
    "MEDIUM LEFT-POINTING TRIANGLE CENTRED,MEDIUM RIGHT-POINTING TRIANGLE",
    "MEDIUM RIGHT-POINTING TRIANGLE CENTRED,MEDIUM UP-POINTING TRIANGLE",
    "MEDIUM UP-POINTING TRIANGLE CENTRED,OCTAGON,RIGHT-POINTING DOUBLE TRIANGLE",
    "RIGHT-POINTING DOUBLE TRIANGLE WITH VERTICAL BAR,RIGHT-POINTING TRIANGLE WITH DOUBLE VERTICAL BAR",
    "RIGHTWARDS BULLET,RIGHTWARDS EQUILATERAL ARROWHEAD,SMALL DIAMOND,SQUARE CENTRED,SQUARE FOR STOP",
    "UP-POINTING DOUBLE TRIANGLE,UPPER LEFT TRIANGLE,UPPER RIGHT TRIANGLE,UPWARDS EQUILATERAL ARROWHEAD"]⟩,
  ⟨["DOUBLE-STRUCK"], [
    "CAPITAL C,CAPITAL GAMMA,CAPITAL H,CAPITAL N,CAPITAL P,CAPITAL PI,CAPITAL Q,CAPITAL R,CAPITAL Z",
    "ITALIC CAPITAL D,ITALIC SMALL D,ITALIC SMALL E,ITALIC SMALL I,ITALIC SMALL J,N-ARY SUMMATION",
    "SMALL GAMMA,SMALL PI"]⟩,
  ⟨["NEGATIVE CIRCLED NUMBER"], [
    "EIGHTEEN,ELEVEN,FIFTEEN,FOURTEEN,NINETEEN,SEVENTEEN,SIXTEEN,THIRTEEN,TWELVE,TWENTY"]⟩,
  ⟨["SMALL"], [
    "AMPERSAND,ASTERISK,COLON,COMMA,COMMERCIAL AT,CONTAINS AS MEMBER,CONTAINS WITH OVERBAR",
    "CONTAINS WITH VERTICAL BAR AT END OF HORIZONTAL STROKE,DOLLAR SIGN,ELEMENT OF",
    "ELEMENT OF WITH OVERBAR,ELEMENT OF WITH VERTICAL BAR AT END OF HORIZONTAL STROKE,EM DASH",
    "EQUALS SIGN,EXCLAMATION MARK,FULL STOP,GREATER-THAN SIGN,HYPHEN-MINUS,IDEOGRAPHIC COMMA",
    "LEFT CURLY BRACKET,LEFT PARENTHESIS,LEFT TORTOISE SHELL BRACKET,LESS-THAN SIGN,NUMBER SIGN",
    "PERCENT SIGN,PLUS SIGN,QUESTION MARK,REVERSE SOLIDUS,RIGHT CURLY BRACKET,RIGHT PARENTHESIS",
    "RIGHT TORTOISE SHELL BRACKET,SEMICOLON,TILDE,VEE WITH UNDERBAR"]⟩,
  ⟨["SQUARE"], [
    "CAP,CUP,FOOT,IMAGE OF,IMAGE OF OR EQUAL TO,IMAGE OF OR NOT EQUAL TO,LEFT OPEN BOX OPERATOR,LOZENGE",
    "ORIGINAL OF,ORIGINAL OF OR EQUAL TO,ORIGINAL OF OR NOT EQUAL TO,POSITION INDICATOR",
    "RIGHT OPEN BOX OPERATOR,ROOT,WITH BOTTOM HALF BLACK,WITH CONTOURED OUTLINE",
    "WITH DIAGONAL CROSSHATCH FILL,WITH HORIZONTAL FILL,WITH LEFT HALF BLACK",
    "WITH LOWER LEFT DIAGONAL HALF BLACK,WITH LOWER RIGHT DIAGONAL HALF BLACK",
    "WITH ORTHOGONAL CROSSHATCH FILL,WITH RIGHT HALF BLACK,WITH TOP HALF BLACK",
    "WITH UPPER LEFT DIAGONAL HALF BLACK,WITH UPPER LEFT TO LOWER RIGHT FILL",
    "WITH UPPER RIGHT DIAGONAL HALF BLACK,WITH UPPER RIGHT TO LOWER LEFT FILL,WITH VERTICAL FILL"]⟩,
  ⟨["HANGZHOU NUMERAL"], [
    "EIGHT,FIVE,FOUR,NINE,ONE,SEVEN,SIX,TEN,THIRTY,THREE,TWENTY,TWO"]⟩,
  ⟨["WHITE"], [
    "BULLET,CIRCLE WITH LOWER LEFT QUADRANT,CIRCLE WITH LOWER RIGHT QUADRANT",
    "CIRCLE WITH UPPER LEFT QUADRANT,CIRCLE WITH UPPER RIGHT QUADRANT,CONCAVE-SIDED DIAMOND",
    "CONCAVE-SIDED DIAMOND WITH LEFTWARDS TICK,CONCAVE-SIDED DIAMOND WITH RIGHTWARDS TICK",
    "DIAMOND CONTAINING BLACK SMALL DIAMOND,DIAMOND WITH CENTRED DOT,FOUR POINTED CUSP,MEDIUM STAR",
    "MOON SELENA,SESAME DOT,SQUARE CONTAINING BLACK SMALL SQUARE,SQUARE WITH CENTRE VERTICAL LINE",
    "SQUARE WITH LEFTWARDS TICK,SQUARE WITH LOWER LEFT QUADRANT,SQUARE WITH LOWER RIGHT QUADRANT",
    "SQUARE WITH RIGHTWARDS TICK,SQUARE WITH ROUNDED CORNERS,SQUARE WITH UPPER LEFT QUADRANT",
    "SQUARE WITH UPPER RIGHT QUADRANT,SQUARE WITH VERTICAL BISECTING LINE,TRAPEZIUM",
    "TRIANGLE CONTAINING SMALL WHITE TRIANGLE,UP-POINTING TRIANGLE WITH DOT,VERTICAL BAR"]⟩,
  ⟨["VERTICAL"], [
    "BAR BESIDE RIGHT TRIANGLE,BAR DOUBLE LEFT TURNSTILE,BAR TRIPLE RIGHT TURNSTILE",
    "BAR WITH HORIZONTAL STROKE,ELLIPSIS,FOUR DOTS,IDEOGRAPHIC ITERATION MARK,KANA REPEAT MARK",
    "KANA REPEAT MARK LOWER HALF,KANA REPEAT MARK UPPER HALF,KANA REPEAT WITH VOICED SOUND MARK",
    "KANA REPEAT WITH VOICED SOUND MARK UPPER HALF,LINE,LINE EXTENSION,LINE WITH CIRCLE ABOVE",
    "LINE WITH CIRCLE BELOW,LINE WITH MIDDLE DOT,TAB KEY,ZIGZAG LINE"]⟩,
  ⟨["VARIATION"], [
    "SELECTOR-1,SELECTOR-10,SELECTOR-11,SELECTOR-12,SELECTOR-13,SELECTOR-14,SELECTOR-15,SELECTOR-16",
    "SELECTOR-2,SELECTOR-3,SELECTOR-4,SELECTOR-5,SELECTOR-6,SELECTOR-7,SELECTOR-8,SELECTOR-9"]⟩,
  ⟨["IDEOGRAPHIC"], [
    "CLOSING MARK,COMMA,DEPARTING TONE MARK,ENTERING TONE MARK,FULL STOP,HALF FILL SPACE,ITERATION MARK",
    "LEVEL TONE MARK,NUMBER ZERO,RISING TONE MARK,SPACE,TELEGRAPH LINE FEED SEPARATOR SYMBOL",
    "VARIATION INDICATOR"]⟩,
  ⟨["MATHEMATICAL"], [
    "FALLING DIAGONAL,LEFT ANGLE BRACKET,LEFT DOUBLE ANGLE BRACKET,LEFT FLATTENED PARENTHESIS",
    "LEFT WHITE SQUARE BRACKET,LEFT WHITE TORTOISE SHELL BRACKET,RIGHT ANGLE BRACKET",
    "RIGHT DOUBLE ANGLE BRACKET,RIGHT FLATTENED PARENTHESIS,RIGHT WHITE SQUARE BRACKET",
    "RIGHT WHITE TORTOISE SHELL BRACKET,RISING DIAGONAL"]⟩,
  ⟨["RUSSIAN ASTROLOGICAL SYMBOL"], [
    "BINOVILE,NOVILE,QUINTILE,SENTAGON,TREDECILE,VIGINTILE"]⟩,
  ⟨["ANTICLOCKWISE"], [
    "CLOSED CIRCLE ARROW,CONTOUR INTEGRAL,GAPPED CIRCLE ARROW,INTEGRATION,OPEN CIRCLE ARROW",
    "TOP SEMICIRCLE ARROW,TRIANGLE-HEADED BOTTOM U-SHAPED ARROW,TRIANGLE-HEADED LEFT U-SHAPED ARROW",
    "TRIANGLE-HEADED OPEN CIRCLE ARROW,TRIANGLE-HEADED RIGHT U-SHAPED ARROW",
    "TRIANGLE-HEADED TOP U-SHAPED ARROW"]⟩,
  ⟨["Z NOTATION"], [
    "BAG MEMBERSHIP,DOMAIN ANTIRESTRICTION,LEFT BINDING BRACKET,LEFT IMAGE BRACKET",
    "RANGE ANTIRESTRICTION,RELATIONAL COMPOSITION,RIGHT BINDING BRACKET,RIGHT IMAGE BRACKET",
    "SCHEMA COMPOSITION,SCHEMA PIPING,SCHEMA PROJECTION,SPOT,TYPE COLON"]⟩,
  ⟨["NORTH"], [
    "EAST AND SOUTH WEST ARROW,EAST ARROW,EAST ARROW AND SOUTH EAST ARROW",
    "EAST ARROW CROSSING NORTH WEST ARROW,EAST ARROW CROSSING SOUTH EAST ARROW,EAST ARROW WITH HOOK",
    "EAST BLACK ARROW,EAST DOUBLE ARROW,EAST TRIANGLE-HEADED ARROW,EAST TRIANGLE-HEADED ARROW TO BAR",
    "EAST WHITE ARROW,WEST AND SOUTH EAST ARROW,WEST ARROW,WEST ARROW AND NORTH EAST ARROW",
    "WEST ARROW CROSSING NORTH EAST ARROW,WEST ARROW TO CORNER,WEST ARROW TO LONG BAR",
    "WEST ARROW WITH HOOK,WEST BLACK ARROW,WEST DOUBLE ARROW,WEST TRIANGLE-HEADED ARROW",
    "WEST TRIANGLE-HEADED ARROW TO BAR,WEST WHITE ARROW"]⟩,
  ⟨["LEFT RIGHT"], [
    "ARROW,ARROW THROUGH SMALL CIRCLE,ARROW WITH DOUBLE VERTICAL STROKE,ARROW WITH STROKE",
    "ARROW WITH VERTICAL STROKE,BLACK ARROW,DOUBLE ARROW,DOUBLE ARROW WITH STROKE",
    "DOUBLE ARROW WITH VERTICAL STROKE,OPEN-HEADED ARROW,TRIANGLE-HEADED ARROW,WAVE ARROW,WHITE ARROW"]⟩,
  ⟨["REVERSED"], [
    "ANGLE,ANGLE WITH UNDERBAR,DOUBLE PRIME,DOUBLE PRIME QUOTATION MARK,DOUBLE STROKE NOT SIGN",
    "EMPTY SET,NOT SIGN,PILCROW SIGN,PRIME,RIGHT ANGLE,SANS-SERIF CAPITAL L,SEMICOLON,TILDE",
    "TILDE EQUALS,TRIPLE PRIME"]⟩,
  ⟨[], [
    "AC CURRENT,ACCOUNT OF,ACTIVATE ARABIC FORM SHAPING,ACTIVATE SYMMETRIC SWAPPING,ACUTE ACCENT",
    "ACUTE ANGLE,ADDRESSED TO THE SUBJECT,ADMETOS,AKTIESELSKAB,ALARM CLOCK,ALEF SYMBOL",
    "ALL AROUND-PROFILE,ALL EQUAL TO,ALMOST EQUAL OR EQUAL TO,ALMOST EQUAL TO",
    "ALMOST EQUAL TO WITH CIRCUMFLEX ACCENT,ALTERNATIVE KEY SYMBOL,AMALGAMATION OR COPRODUCT,AMPERSAND",
    "AND WITH DOT,ANGLE,ANGLE WITH S INSIDE,ANGLE WITH UNDERBAR,ANGSTROM SIGN,APOLLON,APOSTROPHE",
    "APPROACHES THE LIMIT,APPROXIMATELY BUT NOT ACTUALLY EQUAL TO,APPROXIMATELY EQUAL OR EQUAL TO",
    "APPROXIMATELY EQUAL TO,APPROXIMATELY EQUAL TO OR THE IMAGE OF,ARC",
    "ARROW POINTING DOWNWARDS THEN CURVING LEFTWARDS,ARROW POINTING DOWNWARDS THEN CURVING RIGHTWARDS",
    "ARROW POINTING RIGHTWARDS THEN CURVING DOWNWARDS,ARROW POINTING RIGHTWARDS THEN CURVING UPWARDS",
    "ASSERTION,ASTERISK,ASTERISK OPERATOR,ASTERISM,ASTRAEA,ASYMPTOTICALLY EQUAL TO,AUSTRAL SIGN",
    "BACKSLANTED SOUTH ARROW WITH HOOKED TAIL,BACKSLANTED SOUTH ARROW WITH HORIZONTAL TAIL",
    "BALLOT BOX WITH LIGHT X,BECAUSE,BELL SYMBOL,BENT ARROW POINTING DOWNWARDS THEN NORTH EAST",
    "BENZENE RING,BENZENE RING WITH CIRCLE,BET SYMBOL,BETWEEN,BIG REVERSE SOLIDUS,BIG SOLIDUS",
    "BITCOIN SIGN,BLACK-LETTER CAPITAL C,BLACK-LETTER CAPITAL H,BLACK-LETTER CAPITAL I",
    "BLACK-LETTER CAPITAL R,BLACK-LETTER CAPITAL Z,BLANK SYMBOL,BOTTOM ARC ANTICLOCKWISE ARROW",
    "BOTTOM CURLY BRACKET,BOTTOM HALF BLACK CIRCLE,BOTTOM HALF INTEGRAL,BOTTOM LEFT CORNER",
    "BOTTOM LEFT CROP,BOTTOM PARENTHESIS,BOTTOM RIGHT CORNER,BOTTOM RIGHT CROP,BOTTOM SQUARE BRACKET",
    "BOTTOM SQUARE BRACKET OVER TOP SQUARE BRACKET,BOTTOM TORTOISE SHELL BRACKET,BOWTIE",
    "BOWTIE WITH LEFT HALF BLACK,BOWTIE WITH RIGHT HALF BLACK,BREVE,BROKEN BAR",
    "BROKEN CIRCLE WITH NORTHWEST ARROW,BULLET,BULLET OPERATOR,BULLSEYE,CADA UNA,CARE OF,CARET",
    "CARET INSERTION POINT,CARON,CEDI SIGN,CEDILLA,CENT SIGN,CENTRE LINE SYMBOL,CENTRELINE LOW LINE",
    "CENTRELINE OVERLINE,CHARACTER TIE",
    "CIRCLE DIVIDED BY HORIZONTAL BAR AND TOP HALF DIVIDED BY VERTICAL BAR",
    "CIRCLE WITH ALL BUT UPPER LEFT QUADRANT BLACK,CIRCLE WITH HORIZONTAL BAR",
    "CIRCLE WITH LEFT HALF BLACK,CIRCLE WITH LOWER HALF BLACK,CIRCLE WITH RIGHT HALF BLACK",
    "CIRCLE WITH SMALL CIRCLE TO THE RIGHT,CIRCLE WITH SUPERIMPOSED X",
    "CIRCLE WITH TWO HORIZONTAL STROKES TO THE RIGHT,CIRCLE WITH UPPER HALF BLACK",
    "CIRCLE WITH UPPER RIGHT QUADRANT BLACK,CIRCLE WITH VERTICAL FILL,CIRCULATION FUNCTION",
    "CIRCUMFLEX ACCENT,CLEAR SCREEN SYMBOL,CLOCKWISE CLOSED CIRCLE ARROW,CLOCKWISE CONTOUR INTEGRAL",
    "CLOCKWISE GAPPED CIRCLE ARROW,CLOCKWISE INTEGRAL,CLOCKWISE OPEN CIRCLE ARROW",
    "CLOCKWISE TOP SEMICIRCLE ARROW,CLOCKWISE TRIANGLE-HEADED OPEN CIRCLE ARROW,CLOSE UP",
    "CLOSED INTERSECTION WITH SERIFS,CLOSED SUBSET,CLOSED SUBSET OR EQUAL TO,CLOSED SUPERSET",
    "CLOSED SUPERSET OR EQUAL TO,CLOSED UNION WITH SERIFS,CLOSED UNION WITH SERIFS AND SMASH PRODUCT",
    "COLON,COLON EQUALS,COLON SIGN,COMMA,COMMERCIAL AT,COMMERCIAL MINUS SIGN,COMPLEMENT",
    "COMPOSITION SYMBOL,CONGRUENT WITH DOT ABOVE,CONICAL TAPER,CONTAINS AS MEMBER",
    "CONTAINS AS NORMAL SUBGROUP,CONTAINS AS NORMAL SUBGROUP OR EQUAL TO",
    "CONTAINS WITH LONG HORIZONTAL STROKE,CONTAINS WITH OVERBAR",
    "CONTAINS WITH VERTICAL BAR AT END OF HORIZONTAL STROKE,CONTINUOUS UNDERLINE SYMBOL",
    "CONTOUR INTEGRAL,COPYRIGHT SIGN,CORRESPONDS TO,COUNTERBORE,COUNTERSINK,CRUZEIRO SIGN,CUBE ROOT",
    "CUPIDO,CURLY BRACKET EXTENSION,CURLY LOGICAL AND,CURLY LOGICAL OR,CURRENCY SIGN,CYLINDRICITY",
    "DAGGER,DALET SYMBOL,DARK SHADE,DASHED LOW LINE,DASHED OVERLINE,DECIMAL EXPONENT SYMBOL",
    "DECIMAL SEPARATOR KEY SYMBOL,DEGREE CELSIUS,DEGREE FAHRENHEIT,DEGREE SIGN,DELTA EQUAL TO,DIAERESIS",
    "DIAMETER SIGN,DIAMOND OPERATOR,DIAMOND WITH BOTTOM HALF BLACK,DIAMOND WITH LEFT HALF BLACK",
    "DIAMOND WITH RIGHT HALF BLACK,DIAMOND WITH TOP HALF BLACK,DIFFERENCE BETWEEN,DIGIT EIGHT",
    "DIGIT EIGHT FULL STOP,DIGIT FIVE,DIGIT FIVE FULL STOP,DIGIT FOUR,DIGIT FOUR FULL STOP,DIGIT NINE",
    "DIGIT NINE FULL STOP,DIGIT ONE,DIGIT ONE FULL STOP,DIGIT SEVEN,DIGIT SEVEN FULL STOP,DIGIT SIX",
    "DIGIT SIX FULL STOP,DIGIT THREE,DIGIT THREE FULL STOP,DIGIT TWO,DIGIT TWO FULL STOP,DIGIT ZERO",
    "DIMENSION ORIGIN,DIRECT CURRENT SYMBOL FORM TWO,DISCONTINUOUS UNDERLINE SYMBOL,DITTO MARK,DIVIDES",
    "DIVISION SIGN,DIVISION SLASH,DIVISION TIMES,DOES NOT CONTAIN AS MEMBER",
    "DOES NOT CONTAIN AS NORMAL SUBGROUP,DOES NOT CONTAIN AS NORMAL SUBGROUP OR EQUAL,DOES NOT DIVIDE",
    "DOES NOT DIVIDE WITH REVERSED NEGATION SLASH,DOES NOT FORCE,DOES NOT PRECEDE",
    "DOES NOT PRECEDE OR EQUAL,DOES NOT PROVE,DOES NOT SUCCEED,DOES NOT SUCCEED OR EQUAL,DOLLAR SIGN",
    "DONG SIGN,DOT ABOVE,DOT MINUS,DOT OPERATOR,DOT PLUS,DOTTED CIRCLE,DOTTED CROSS,DOTTED FENCE",
    "DOTTED SQUARE,DOUBLE-ENDED MULTIMAP,DOUBLE-LINE EQUAL TO OR GREATER-THAN",
    "DOUBLE-LINE EQUAL TO OR LESS-THAN,DOUBLE-LINE SLANTED EQUAL TO OR GREATER-THAN",
    "DOUBLE-LINE SLANTED EQUAL TO OR LESS-THAN,DOUBLE-LINE SLANTED GREATER-THAN OR EQUAL TO",
    "DOUBLE-LINE SLANTED LESS-THAN OR EQUAL TO,DOUBLED SYMBOL,DOWN ARROWHEAD,DOWN FISH TAIL",
    "DOWN RIGHT DIAGONAL ELLIPSIS,DOWN TACK,DOWN TACK WITH CIRCLE BELOW",
    "DOWN-POINTING TRIANGLE WITH LEFT HALF BLACK,DOWN-POINTING TRIANGLE WITH RIGHT HALF BLACK",
    "DOWNWARDS ARROW LEFTWARDS OF UPWARDS ARROW,DOWNWARDS ARROW WITH CORNER LEFTWARDS",
    "DOWNWARDS TRIANGLE-HEADED ARROW LEFTWARDS OF UPWARDS TRIANGLE-HEADED ARROW",
    "DOWNWARDS TRIANGLE-HEADED ZIGZAG ARROW,DOWNWARDS ZIGZAG ARROW,DRACHMA SIGN,EARTH GROUND",
    "EJECT SYMBOL,ELECTRIC ARROW,ELECTRICAL INTERSECTION,ELEMENT OF,ELEMENT OF OPENING DOWNWARDS",
    "ELEMENT OF OPENING UPWARDS,ELEMENT OF WITH DOT ABOVE,ELEMENT OF WITH LONG HORIZONTAL STROKE",
    "ELEMENT OF WITH OVERBAR,ELEMENT OF WITH TWO HORIZONTAL STROKES,ELEMENT OF WITH UNDERBAR",
    "ELEMENT OF WITH VERTICAL BAR AT END OF HORIZONTAL STROKE,EM DASH,EM QUAD,EM SPACE,EMPHASIS SYMBOL",
    "EMPTY SET,EMPTY SET WITH LEFT ARROW ABOVE,EMPTY SET WITH OVERBAR,EMPTY SET WITH RIGHT ARROW ABOVE",
    "EMPTY SET WITH SMALL CIRCLE ABOVE,EN DASH,EN QUAD,EN SPACE,END OF PROOF,ENTER SYMBOL",
    "EQUAL AND PARALLEL TO,EQUAL TO BY DEFINITION,EQUAL TO OR GREATER-THAN,EQUAL TO OR LESS-THAN",
    "EQUAL TO OR PRECEDES,EQUAL TO OR SUCCEEDS,EQUALS COLON,EQUALS SIGN",
    "EQUALS SIGN ABOVE LEFTWARDS ARROW,EQUALS SIGN ABOVE PLUS SIGN,EQUALS SIGN ABOVE RIGHTWARDS ARROW",
    "EQUALS SIGN ABOVE TILDE OPERATOR,EQUALS SIGN AND SLANTED PARALLEL",
    "EQUALS SIGN AND SLANTED PARALLEL WITH TILDE ABOVE,EQUALS SIGN WITH BUMPY ABOVE",
    "EQUALS SIGN WITH DOT BELOW,EQUALS SIGN WITH INFINITY BELOW",
    "EQUALS SIGN WITH TWO DOTS ABOVE AND TWO DOTS BELOW,EQUALS WITH ASTERISK,EQUIANGULAR TO",
    "EQUIVALENT TO,EQUIVALENT WITH FOUR DOTS ABOVE,ERASE TO THE LEFT,ERASE TO THE RIGHT,ERIS FORM ONE",
    "ERIS FORM TWO,ERROR-BARRED BLACK CIRCLE,ERROR-BARRED BLACK DIAMOND,ERROR-BARRED BLACK SQUARE",
    "ERROR-BARRED WHITE CIRCLE,ERROR-BARRED WHITE DIAMOND,ERROR-BARRED WHITE SQUARE,ESTIMATED SYMBOL",
    "ESTIMATES,EULER CONSTANT,EURO SIGN,EURO-CURRENCY SIGN,EXCESS,EXCLAMATION MARK",
    "EXCLAMATION QUESTION MARK,FACSIMILE SIGN,FALLING DIAGONAL CROSSING NORTH EAST ARROW",
    "FALLING DIAGONAL CROSSING RISING DIAGONAL,FIGURE DASH,FIGURE SPACE,FINITE PART INTEGRAL",
    "FIRST STRONG ISOLATE,FISHEYE,FIVE DOT PUNCTUATION,FLATNESS,FLOWER PUNCTUATION MARK,FOR ALL,FORCES",
    "FORKING,FOUR CORNER ARROWS CIRCLING ANTICLOCKWISE,FOUR DOT MARK,FOUR DOT PUNCTUATION",
    "FOUR-PER-EM SPACE,FOURTH ROOT,FRACTION NUMERATOR ONE,FRACTION SLASH,FRENCH FRANC SIGN,FROWN",
    "FULL BLOCK,FULL OUTER JOIN,FULL STOP,FUNCTION APPLICATION,FUSE,GEOMETRIC PROPORTION",
    "GEOMETRICALLY EQUAL TO,GEOMETRICALLY EQUIVALENT TO,GERMAN PENNY SIGN,GETA MARK,GIMEL SYMBOL",
    "GLEICH STARK,GRAVE ACCENT,GREATER-THAN ABOVE DOUBLE-LINE EQUAL ABOVE LESS-THAN",
    "GREATER-THAN ABOVE LESS-THAN ABOVE DOUBLE-LINE EQUAL,GREATER-THAN ABOVE RIGHTWARDS ARROW",
    "GREATER-THAN ABOVE SIMILAR ABOVE LESS-THAN",
    "GREATER-THAN ABOVE SLANTED EQUAL ABOVE LESS-THAN ABOVE SLANTED EQUAL,GREATER-THAN BESIDE LESS-THAN",
    "GREATER-THAN EQUAL TO OR LESS-THAN,GREATER-THAN OR LESS-THAN",
    "GREATER-THAN OR SLANTED EQUAL TO WITH DOT ABOVE LEFT,GREATER-THAN OVERLAPPING LESS-THAN,GROUP MARK",
    "GUARANI SIGN,HADES,HAIR SPACE,HALFWIDTH BLACK SQUARE,HALFWIDTH DOWNWARDS ARROW",
    "HALFWIDTH FORMS LIGHT VERTICAL,HALFWIDTH IDEOGRAPHIC COMMA,HALFWIDTH IDEOGRAPHIC FULL STOP",
    "HALFWIDTH KATAKANA MIDDLE DOT,HALFWIDTH LEFT CORNER BRACKET,HALFWIDTH LEFTWARDS ARROW",
    "HALFWIDTH RIGHT CORNER BRACKET,HALFWIDTH RIGHTWARDS ARROW,HALFWIDTH UPWARDS ARROW",
    "HALFWIDTH WHITE CIRCLE,HANGUL DOUBLE DOT TONE MARK,HANGUL SINGLE DOT TONE MARK,HEAVY CIRCLE",
    "HEAVY CIRCLE WITH CIRCLE INSIDE,HEAVY CIRCLED SALTIRE,HEAVY LARGE CIRCLE",
    "HEAVY OVAL WITH OVAL INSIDE,HELLSCHREIBER PAUSE SYMBOL,HELM SYMBOL,HERMITIAN CONJUGATE MATRIX",
    "HOMOTHETIC,HORIZONTAL BAR,HORIZONTAL BLACK HEXAGON,HORIZONTAL BLACK OCTAGON,HORIZONTAL ELLIPSIS",
    "HORIZONTAL LINE EXTENSION,HORIZONTAL SCAN LINE-1,HORIZONTAL SCAN LINE-3,HORIZONTAL SCAN LINE-7",
    "HORIZONTAL SCAN LINE-9,HORIZONTAL TAB KEY,HOURGLASS,HOURGLASS WITH FLOWING SAND,HOUSE,HRYVNIA SIGN",
    "HYGIEA,HYPHEN,HYPHEN BULLET,HYPHEN-MINUS,HYPHENATION POINT,HYSTERESIS SYMBOL,IDENTICAL TO",
    "IDENTICAL TO AND SLANTED PARALLEL,IDENTICAL WITH DOT ABOVE,IMAGE OF",
    "IMAGE OF OR APPROXIMATELY EQUAL TO,INCOMPLETE INFINITY,INCREASES AS,INCREMENT,INDIAN RUPEE SIGN",
    "INFINITY,INFINITY NEGATED WITH VERTICAL BAR,INFORMATION SOURCE,INHIBIT ARABIC FORM SHAPING",
    "INHIBIT SYMMETRIC SWAPPING,INSERTION SYMBOL,INTEGRAL,INTEGRAL AROUND A POINT OPERATOR",
    "INTEGRAL AVERAGE WITH SLASH,INTEGRAL EXTENSION,INTEGRAL WITH DOUBLE STROKE",
    "INTEGRAL WITH INTERSECTION,INTEGRAL WITH LEFTWARDS ARROW WITH HOOK,INTEGRAL WITH OVERBAR",
    "INTEGRAL WITH TIMES SIGN,INTEGRAL WITH UNDERBAR,INTEGRAL WITH UNION,INTERCALATE,INTERIOR PRODUCT",
    "INTERROBANG,INTERSECTION,INTERSECTION ABOVE BAR ABOVE UNION,INTERSECTION ABOVE UNION",
    "INTERSECTION BESIDE AND JOINED WITH INTERSECTION,INTERSECTION WITH DOT",
    "INTERSECTION WITH LOGICAL AND,INTERSECTION WITH OVERBAR,INVERSE BULLET,INVERSE WHITE CIRCLE",
    "INVERTED EXCLAMATION MARK,INVERTED LAZY S,INVERTED OHM SIGN,INVERTED QUESTION MARK",
    "INVERTED UNDERTIE,INVISIBLE PLUS,INVISIBLE SEPARATOR,INVISIBLE TIMES",
    "JAPANESE INDUSTRIAL STANDARD SYMBOL,JOIN,KELVIN SIGN,KEYBOARD,KIP SIGN,KRONOS,L B BAR SYMBOL",
    "LARGE CIRCLE,LARGE DOWN TACK,LARGE LEFT TRIANGLE OPERATOR,LARGE TRIPLE VERTICAL BAR OPERATOR",
    "LARGE UP TACK,LARGER THAN,LARGER THAN OR EQUAL TO,LARI SIGN,LATIN SMALL LETTER REVERSED C",
    "LEFT AND RIGHT DOUBLE TURNSTILE,LEFT AND RIGHT TACK,LEFT ARC LESS-THAN BRACKET",
    "LEFT BARB DOWN RIGHT BARB DOWN HARPOON,LEFT BARB DOWN RIGHT BARB UP HARPOON",
    "LEFT BARB UP RIGHT BARB DOWN HARPOON,LEFT BARB UP RIGHT BARB UP HARPOON,LEFT FIVE EIGHTHS BLOCK",
    "LEFT MULTIMAP,LEFT ONE QUARTER BLOCK,LEFT SEVEN EIGHTHS BLOCK,LEFT THREE EIGHTHS BLOCK",
    "LEFT THREE QUARTERS BLOCK,LEFT TRIANGLE BESIDE VERTICAL BAR,LEFT-POINTING ANGLE BRACKET",
    "LEFT-POINTING CURVED ANGLE BRACKET,LEFT-POINTING DOUBLE ANGLE QUOTATION MARK",
    "LEFT-SIDE ARC ANTICLOCKWISE ARROW,LEFT-TO-RIGHT EMBEDDING,LEFT-TO-RIGHT ISOLATE,LEFT-TO-RIGHT MARK",
    "LEFT-TO-RIGHT OVERRIDE,LEFTWARDS ARROW ABOVE SHORT RIGHTWARDS ARROW",
    "LEFTWARDS ARROW OVER RIGHTWARDS ARROW,LEFTWARDS ARROW THROUGH LESS-THAN",
    "LEFTWARDS ARROW THROUGH SUBSET,LEFTWARDS ARROW TO BAR OVER RIGHTWARDS ARROW TO BAR",
    "LEFTWARDS HARPOON OVER RIGHTWARDS HARPOON",
    "LEFTWARDS HARPOON WITH BARB DOWN ABOVE RIGHTWARDS HARPOON WITH BARB DOWN",
    "LEFTWARDS HARPOON WITH BARB UP ABOVE LEFTWARDS HARPOON WITH BARB DOWN",
    "LEFTWARDS HARPOON WITH BARB UP ABOVE RIGHTWARDS HARPOON WITH BARB UP",
    "LEFTWARDS TRIANGLE-HEADED ARROW OVER RIGHTWARDS TRIANGLE-HEADED ARROW",
    "LESS-THAN ABOVE DOUBLE-LINE EQUAL ABOVE GREATER-THAN",
    "LESS-THAN ABOVE GREATER-THAN ABOVE DOUBLE-LINE EQUAL,LESS-THAN ABOVE LEFTWARDS ARROW",
    "LESS-THAN ABOVE SIMILAR ABOVE GREATER-THAN",
    "LESS-THAN ABOVE SLANTED EQUAL ABOVE GREATER-THAN ABOVE SLANTED EQUAL",
    "LESS-THAN EQUAL TO OR GREATER-THAN,LESS-THAN OR GREATER-THAN",
    "LESS-THAN OR SLANTED EQUAL TO WITH DOT ABOVE RIGHT,LIGHT FOUR POINTED BLACK CUSP,LIGHT SHADE",
    "LINE INTEGRATION NOT INCLUDING THE POLE,LINE INTEGRATION WITH RECTANGULAR PATH AROUND POLE",
    "LINE INTEGRATION WITH SEMICIRCULAR PATH AROUND POLE,LINE SEPARATOR,LIRA SIGN,LIVRE TOURNOIS SIGN",
    "LOGICAL AND,LOGICAL AND WITH DOT ABOVE,LOGICAL AND WITH DOUBLE OVERBAR",
    "LOGICAL AND WITH DOUBLE UNDERBAR,LOGICAL AND WITH HORIZONTAL DASH,LOGICAL AND WITH MIDDLE STEM",
    "LOGICAL AND WITH UNDERBAR,LOGICAL OR,LOGICAL OR OVERLAPPING LOGICAL AND,LOGICAL OR WITH DOT ABOVE",
    "LOGICAL OR WITH DOUBLE OVERBAR,LOGICAL OR WITH DOUBLE UNDERBAR,LOGICAL OR WITH HORIZONTAL DASH",
    "LOGICAL OR WITH MIDDLE STEM,LONG DASH FROM LEFT MEMBER OF DOUBLE VERTICAL,LONG DIVISION",
    "LONG LEFT RIGHT ARROW,LONG LEFT RIGHT DOUBLE ARROW,LONG LEFT TACK,LONG LEFTWARDS ARROW",
    "LONG LEFTWARDS ARROW FROM BAR,LONG LEFTWARDS DOUBLE ARROW,LONG LEFTWARDS DOUBLE ARROW FROM BAR",
    "LONG LEFTWARDS SQUIGGLE ARROW,LONG RIGHT TACK,LONG RIGHTWARDS ARROW,LONG RIGHTWARDS ARROW FROM BAR",
    "LONG RIGHTWARDS DOUBLE ARROW,LONG RIGHTWARDS DOUBLE ARROW FROM BAR,LONG RIGHTWARDS SQUIGGLE ARROW",
    "LOW ASTERISK,LOW DOUBLE PRIME QUOTATION MARK,LOW LINE,LOWER FIVE EIGHTHS BLOCK,LOWER HALF BLOCK",
    "LOWER HALF CIRCLE,LOWER HALF INVERSE WHITE CIRCLE,LOWER LEFT QUADRANT CIRCULAR ARC",
    "LOWER LEFT SEMICIRCULAR ANTICLOCKWISE ARROW,LOWER LEFT TRIANGLE,LOWER ONE EIGHTH BLOCK",
    "LOWER ONE QUARTER BLOCK,LOWER RIGHT CORNER WITH DOT,LOWER RIGHT QUADRANT CIRCULAR ARC",
    "LOWER RIGHT SEMICIRCULAR CLOCKWISE ARROW,LOWER RIGHT TRIANGLE,LOWER SEVEN EIGHTHS BLOCK",
    "LOWER THREE EIGHTHS BLOCK,LOWER THREE QUARTERS BLOCK,LOZENGE,LOZENGE DIVIDED BY HORIZONTAL RULE",
    "MACRON,MANAT SIGN,MASU MARK,MEASURED ANGLE,MEASURED ANGLE OPENING LEFT,MEASURED BY",
    "MEASURED RIGHT ANGLE WITH DOT,MEDIUM MATHEMATICAL SPACE,MEDIUM SHADE,METRICAL BREVE",
    "METRICAL LONG OVER SHORT,METRICAL LONG OVER TWO SHORTS,METRICAL PENTASEME,METRICAL SHORT OVER LONG",
    "METRICAL TETRASEME,METRICAL TRISEME,METRICAL TWO SHORTS JOINED,METRICAL TWO SHORTS OVER LONG",
    "MIDDLE DOT,MIDLINE HORIZONTAL ELLIPSIS,MILL SIGN,MINUS SIGN,MINUS SIGN IN TRIANGLE",
    "MINUS SIGN WITH COMMA ABOVE,MINUS SIGN WITH DOT BELOW,MINUS SIGN WITH FALLING DOTS",
    "MINUS SIGN WITH RISING DOTS,MINUS TILDE,MINUS-OR-PLUS SIGN,MINY,MODELS,MODULO TWO SUM",
    "MONOSTABLE SYMBOL,MUCH GREATER-THAN,MUCH LESS-THAN,MULTIMAP,MULTIPLICATION SIGN",
    "MULTIPLICATION SIGN IN DOUBLE CIRCLE,MULTIPLICATION SIGN IN LEFT HALF CIRCLE",
    "MULTIPLICATION SIGN IN RIGHT HALF CIRCLE,MULTIPLICATION SIGN IN TRIANGLE",
    "MULTIPLICATION SIGN WITH DOT ABOVE,MULTIPLICATION SIGN WITH UNDERBAR,MULTISET",
    "MULTISET MULTIPLICATION,MULTISET UNION,N-ARY CIRCLED DOT OPERATOR,N-ARY CIRCLED PLUS OPERATOR",
    "N-ARY CIRCLED TIMES OPERATOR,N-ARY COPRODUCT,N-ARY INTERSECTION,N-ARY LOGICAL AND,N-ARY LOGICAL OR",
    "N-ARY PRODUCT,N-ARY SQUARE INTERSECTION OPERATOR,N-ARY SQUARE UNION OPERATOR,N-ARY SUMMATION",
    "N-ARY TIMES OPERATOR,N-ARY UNION,N-ARY UNION OPERATOR WITH DOT,N-ARY UNION OPERATOR WITH PLUS",
    "N-ARY WHITE VERTICAL BAR,NABLA,NAIRA SIGN,NAND,NARROW NO-BREAK SPACE,NATIONAL DIGIT SHAPES",
    "NEGATED DOUBLE VERTICAL BAR DOUBLE RIGHT TURNSTILE,NEGATIVE CIRCLED DIGIT ZERO",
    "NEITHER A SUBSET OF NOR EQUAL TO,NEITHER A SUPERSET OF NOR EQUAL TO",
    "NEITHER APPROXIMATELY NOR ACTUALLY EQUAL TO,NEITHER GREATER-THAN NOR EQUAL TO",
    "NEITHER GREATER-THAN NOR EQUIVALENT TO,NEITHER GREATER-THAN NOR LESS-THAN",
    "NEITHER LESS-THAN NOR EQUAL TO,NEITHER LESS-THAN NOR EQUIVALENT TO",
    "NEITHER LESS-THAN NOR GREATER-THAN,NEPTUNE FORM TWO,NESSUS,NEW SHEQEL SIGN,NEWLINE LEFT",
    "NEWLINE RIGHT,NEXT PAGE,NO-BREAK SPACE,NOMINAL DIGIT SHAPES,NON-BREAKING HYPHEN,NONFORKING,NOR",
    "NORDIC MARK SIGN,NORMAL SUBGROUP OF,NORMAL SUBGROUP OF OR EQUAL TO,NOT A SUBSET OF",
    "NOT A SUPERSET OF,NOT ALMOST EQUAL TO,NOT AN ELEMENT OF,NOT ASYMPTOTICALLY EQUAL TO,NOT CHECK MARK",
    "NOT EQUAL TO,NOT EQUIVALENT TO,NOT GREATER-THAN,NOT IDENTICAL TO,NOT LESS-THAN",
    "NOT NORMAL SUBGROUP OF,NOT NORMAL SUBGROUP OF OR EQUAL TO,NOT PARALLEL TO,NOT SIGN",
    "NOT SQUARE IMAGE OF OR EQUAL TO,NOT SQUARE ORIGINAL OF OR EQUAL TO,NOT TILDE,NOT TRUE",
    "NUMBER EIGHTEEN FULL STOP,NUMBER ELEVEN FULL STOP,NUMBER FIFTEEN FULL STOP",
    "NUMBER FOURTEEN FULL STOP,NUMBER NINETEEN FULL STOP,NUMBER SEVENTEEN FULL STOP,NUMBER SIGN",
    "NUMBER SIXTEEN FULL STOP,NUMBER TEN FULL STOP,NUMBER THIRTEEN FULL STOP,NUMBER TWELVE FULL STOP",
    "NUMBER TWENTY FULL STOP,NUMERO SIGN,OBJECT REPLACEMENT CHARACTER,OBLIQUE ANGLE OPENING DOWN",
    "OBLIQUE ANGLE OPENING UP,OBSERVER EYE SYMBOL,OGONEK,OHM SIGN,ONE DOT LEADER,OPEN BOX,OPEN SUBSET",
    "OPEN SUPERSET,OPEN-CIRCUIT-OUTPUT H-TYPE SYMBOL,OPEN-CIRCUIT-OUTPUT L-TYPE SYMBOL,OPTION KEY",
    "OR WITH DOT INSIDE,ORIGINAL OF,OUNCE SIGN,OVERLAPPING BLACK SQUARES",
    "OVERLAPPING WHITE AND BLACK SQUARES,OVERLAPPING WHITE SQUARES,OVERLINE,PARAGRAPH SEPARATOR",
    "PARALLEL TO,PARALLEL WITH HORIZONTAL STROKE,PARALLEL WITH TILDE OPERATOR,PART ALTERNATION MARK",
    "PARTIAL DIFFERENTIAL,PASSED SYMBOL,PASSIVE-PULL-DOWN-OUTPUT SYMBOL,PASSIVE-PULL-UP-OUTPUT SYMBOL",
    "PER MILLE SIGN,PER SIGN,PER TEN THOUSAND SIGN,PERCENT SIGN,PERPENDICULAR,PERPENDICULAR WITH S",
    "PERSPECTIVE,PESETA SIGN,PESO SIGN,PHOLUS,PILCROW SIGN,PITCHFORK,PITCHFORK WITH TEE TOP",
    "PLACE OF INTEREST SIGN,PLANCK CONSTANT,PLANCK CONSTANT OVER TWO PI,PLUS SIGN",
    "PLUS SIGN ABOVE EQUALS SIGN,PLUS SIGN IN LEFT HALF CIRCLE,PLUS SIGN IN RIGHT HALF CIRCLE",
    "PLUS SIGN IN TRIANGLE,PLUS SIGN WITH BLACK TRIANGLE,PLUS SIGN WITH CIRCUMFLEX ACCENT ABOVE",
    "PLUS SIGN WITH DOT BELOW,PLUS SIGN WITH SMALL CIRCLE ABOVE,PLUS SIGN WITH SUBSCRIPT TWO",
    "PLUS SIGN WITH TILDE ABOVE,PLUS SIGN WITH TILDE BELOW,PLUS-MINUS SIGN,PLUTO FORM FIVE",
    "PLUTO FORM FOUR,PLUTO FORM THREE,PLUTO FORM TWO,POP DIRECTIONAL FORMATTING,POP DIRECTIONAL ISOLATE",
    "POSEIDON,POSITION INDICATOR,POSTAL MARK,POSTAL MARK FACE,POUND SIGN,POWER ON SYMBOL",
    "POWER ON-OFF SYMBOL,POWER SLEEP SYMBOL,POWER SYMBOL,PRECEDES,PRESCRIPTION TAKE,PREVIOUS PAGE,PRIME",
    "PRINT SCREEN SYMBOL,PROJECTIVE,PROPERTY LINE,PROPORTION,PROPORTIONAL TO,PROSERPINA",
    "PUNCTUATION SPACE,QUADRANT LOWER LEFT,QUADRANT LOWER RIGHT,QUADRANT UPPER LEFT",
    "QUADRANT UPPER LEFT AND LOWER LEFT AND LOWER RIGHT,QUADRANT UPPER LEFT AND LOWER RIGHT",
    "QUADRANT UPPER LEFT AND UPPER RIGHT AND LOWER LEFT",
    "QUADRANT UPPER LEFT AND UPPER RIGHT AND LOWER RIGHT,QUADRANT UPPER RIGHT",
    "QUADRANT UPPER RIGHT AND LOWER LEFT,QUADRANT UPPER RIGHT AND LOWER LEFT AND LOWER RIGHT",
    "QUADRUPLE INTEGRAL OPERATOR,QUADRUPLE PRIME,QUATERNION INTEGRAL OPERATOR,QUESTION EXCLAMATION MARK",
    "QUESTION MARK,QUESTIONED EQUAL TO,QUOTATION MARK,RADICAL SYMBOL BOTTOM,RATIO,REFERENCE MARK",
    "REGISTERED SIGN,REPLACEMENT CHARACTER,RESPONSE,RETURN LEFT,RETURN RIGHT,RETURN SYMBOL",
    "REVERSE SOLIDUS,REVERSE SOLIDUS OPERATOR,REVERSE SOLIDUS PRECEDING SUBSET",
    "REVERSE SOLIDUS WITH HORIZONTAL STROKE,REVERSE TILDE OPERATOR ABOVE LEFTWARDS ARROW",
    "REVERSE TILDE OPERATOR ABOVE RIGHTWARDS ARROW,RIBBON ARROW DOWN LEFT,RIBBON ARROW DOWN RIGHT",
    "RIBBON ARROW LEFT DOWN,RIBBON ARROW LEFT UP,RIBBON ARROW RIGHT DOWN,RIBBON ARROW RIGHT UP",
    "RIBBON ARROW UP LEFT,RIBBON ARROW UP RIGHT,RIGHT ANGLE,RIGHT ANGLE VARIANT WITH SQUARE",
    "RIGHT ANGLE WITH ARC,RIGHT ANGLE WITH DOWNWARDS ZIGZAG ARROW,RIGHT ARC GREATER-THAN BRACKET",
    "RIGHT DOUBLE ARROW WITH ROUNDED HEAD,RIGHT TRIANGLE,RIGHT TRIANGLE ABOVE LEFT TRIANGLE",
    "RIGHT-POINTING ANGLE BRACKET,RIGHT-POINTING CURVED ANGLE BRACKET",
    "RIGHT-POINTING DOUBLE ANGLE QUOTATION MARK,RIGHT-SIDE ARC CLOCKWISE ARROW,RIGHT-TO-LEFT EMBEDDING",
    "RIGHT-TO-LEFT ISOLATE,RIGHT-TO-LEFT MARK,RIGHT-TO-LEFT OVERRIDE,RIGHTHAND INTERIOR PRODUCT",
    "RIGHTWARDS ARROW ABOVE SHORT LEFTWARDS ARROW,RIGHTWARDS ARROW OVER LEFTWARDS ARROW",
    "RIGHTWARDS ARROW THROUGH GREATER-THAN,RIGHTWARDS ARROW THROUGH SUPERSET",
    "RIGHTWARDS ARROW WITH CORNER DOWNWARDS,RIGHTWARDS HARPOON OVER LEFTWARDS HARPOON",
    "RIGHTWARDS HARPOON WITH BARB DOWN ABOVE LEFTWARDS HARPOON WITH BARB DOWN",
    "RIGHTWARDS HARPOON WITH BARB UP ABOVE LEFTWARDS HARPOON WITH BARB UP",
    "RIGHTWARDS HARPOON WITH BARB UP ABOVE RIGHTWARDS HARPOON WITH BARB DOWN",
    "RIGHTWARDS TRIANGLE-HEADED ARROW OVER LEFTWARDS TRIANGLE-HEADED ARROW",
    "RIGHTWARDS WHITE ARROW FROM WALL,RING ABOVE,RING EQUAL TO,RING IN EQUAL TO,RING OPERATOR",
    "RISING DIAGONAL CROSSING FALLING DIAGONAL,RISING DIAGONAL CROSSING SOUTH EAST ARROW",
    "ROTATED CAPITAL Q,ROTATED LIGHT FOUR POINTED BLACK CUSP,ROTATED WHITE FOUR POINTED CUSP,RUBLE SIGN",
    "RULE-DELAYED,RUPEE SIGN,S IN TRIANGLE,SCRIPT CAPITAL B,SCRIPT CAPITAL E,SCRIPT CAPITAL F",
    "SCRIPT CAPITAL H,SCRIPT CAPITAL I,SCRIPT CAPITAL L,SCRIPT CAPITAL M,SCRIPT CAPITAL P",
    "SCRIPT CAPITAL R,SCRIPT SMALL E,SCRIPT SMALL G,SCRIPT SMALL L,SCRIPT SMALL O,SCRUPLE,SECTION SIGN",
    "SECTOR,SEDNA,SEGMENT,SEMICOLON,SEMIDIRECT PRODUCT WITH BOTTOM CLOSED,SEPARATED SYMBOL,SERVICE MARK",
    "SESAME DOT,SET MINUS,SHORT BACKSLANTED SOUTH ARROW",
    "SHORT BENT ARROW POINTING DOWNWARDS THEN NORTH EAST,SHORT DOWN TACK,SHORT DOWN TACK WITH OVERBAR",
    "SHORT LEFT TACK,SHORT RIGHTWARDS ARROW ABOVE LEFTWARDS ARROW,SHORT SLANTED NORTH ARROW",
    "SHORT UP TACK,SHORT UP TACK ABOVE SHORT DOWN TACK,SHORT UP TACK WITH UNDERBAR,SHOULDERED OPEN BOX",
    "SHUFFLE PRODUCT,SIMILAR ABOVE GREATER-THAN ABOVE EQUALS SIGN",
    "SIMILAR ABOVE LESS-THAN ABOVE EQUALS SIGN,SIMILAR MINUS SIMILAR,SIMILAR OR GREATER-THAN",
    "SIMILAR OR LESS-THAN,SINE WAVE,SINGLE HIGH-REVERSED-9 QUOTATION MARK",
    "SINGLE LEFT-POINTING ANGLE QUOTATION MARK,SINGLE LOW-9 QUOTATION MARK",
    "SINGLE RIGHT-POINTING ANGLE QUOTATION MARK,SIX-PER-EM SPACE,SLANTED EQUAL TO OR GREATER-THAN",
    "SLANTED EQUAL TO OR GREATER-THAN WITH DOT INSIDE,SLANTED EQUAL TO OR LESS-THAN",
    "SLANTED EQUAL TO OR LESS-THAN WITH DOT INSIDE,SLANTED NORTH ARROW WITH HOOKED HEAD",
    "SLANTED NORTH ARROW WITH HORIZONTAL TAIL,SLOPE,SLOPING LARGE AND,SLOPING LARGE OR,SMALLER THAN",
    "SMALLER THAN OR EQUAL TO,SMASH PRODUCT,SMILE,SOFT HYPHEN,SOFTWARE-FUNCTION SYMBOL,SOLIDUS",
    "SOLIDUS WITH OVERBAR,SOM SIGN,SOUND RECORDING COPYRIGHT,SOUTH EAST ARROW",
    "SOUTH EAST ARROW AND SOUTH WEST ARROW,SOUTH EAST ARROW CROSSING NORTH EAST ARROW",
    "SOUTH EAST ARROW TO CORNER,SOUTH EAST ARROW WITH HOOK,SOUTH EAST BLACK ARROW",
    "SOUTH EAST DOUBLE ARROW,SOUTH EAST TRIANGLE-HEADED ARROW,SOUTH EAST TRIANGLE-HEADED ARROW TO BAR",
    "SOUTH EAST WHITE ARROW,SOUTH WEST ARROW,SOUTH WEST ARROW AND NORTH WEST ARROW",
    "SOUTH WEST ARROW WITH HOOK,SOUTH WEST BLACK ARROW,SOUTH WEST DOUBLE ARROW",
    "SOUTH WEST TRIANGLE-HEADED ARROW,SOUTH WEST TRIANGLE-HEADED ARROW TO BAR,SOUTH WEST WHITE ARROW",
    "SPACE,SPESMILO SIGN,SPHERICAL ANGLE,SPHERICAL ANGLE OPENING LEFT,SPHERICAL ANGLE OPENING UP",
    "SQUARED ASTERISK,SQUARED DOT OPERATOR,SQUARED FALLING DIAGONAL SLASH,SQUARED LOGICAL AND",
    "SQUARED LOGICAL OR,SQUARED MINUS,SQUARED PLUS,SQUARED RISING DIAGONAL SLASH,SQUARED SMALL CIRCLE",
    "SQUARED SQUARE,SQUARED TIMES,STAR EQUALS,STAR OPERATOR,STAR WITH LEFT HALF BLACK",
    "STAR WITH RIGHT HALF BLACK,STOPWATCH,STRAIGHTNESS,STRICTLY EQUIVALENT TO",
    "SUBSET ABOVE RIGHTWARDS ARROW,SUCCEEDS,SUMMATION BOTTOM,SUMMATION TOP,SUMMATION WITH INTEGRAL",
    "SUPERSCRIPT LATIN SMALL LETTER I,SUPERSCRIPT LATIN SMALL LETTER N,SUPERSET ABOVE LEFTWARDS ARROW",
    "SUPERSET BESIDE AND JOINED BY DASH WITH SUBSET,SUPERSET BESIDE SUBSET,SUPERSET PRECEDING SOLIDUS",
    "SURFACE INTEGRAL,SWUNG DASH,SYMMETRY,TELEPHONE RECORDER,TELEPHONE SIGN,TENGE SIGN",
    "THERE DOES NOT EXIST,THERE EXISTS,THEREFORE,THERMODYNAMIC,THIN SPACE",
    "THREE CONSECUTIVE EQUALS SIGNS,THREE DIMENSIONAL ANGLE,THREE DOT PUNCTUATION",
    "THREE LEFTWARDS ARROWS,THREE RIGHTWARDS ARROWS",
    "THREE-D LEFT-LIGHTED DOWNWARDS EQUILATERAL ARROWHEAD",
    "THREE-D RIGHT-LIGHTED UPWARDS EQUILATERAL ARROWHEAD",
    "THREE-D TOP-LIGHTED LEFTWARDS EQUILATERAL ARROWHEAD",
    "THREE-D TOP-LIGHTED RIGHTWARDS EQUILATERAL ARROWHEAD,THREE-PER-EM SPACE,TIE OVER INFINITY,TILDE",
    "TILDE OPERATOR,TILDE OPERATOR ABOVE LEFTWARDS ARROW,TILDE OPERATOR ABOVE RIGHTWARDS ARROW",
    "TILDE OPERATOR WITH DOT ABOVE,TILDE OPERATOR WITH RISING DOTS,TIMER CLOCK",
    "TIMES WITH LEFT HALF BLACK,TIMES WITH RIGHT HALF BLACK,TINY,TIRONIAN SIGN ET",
    "TOP ARC ANTICLOCKWISE ARROW,TOP ARC ANTICLOCKWISE ARROW WITH PLUS",
    "TOP ARC CLOCKWISE ARROW WITH MINUS,TOP CURLY BRACKET,TOP HALF BLACK CIRCLE,TOP HALF INTEGRAL",
    "TOP LEFT CORNER,TOP LEFT CROP,TOP PARENTHESIS,TOP RIGHT CORNER,TOP RIGHT CROP,TOP SQUARE BRACKET",
    "TOP TORTOISE SHELL BRACKET,TOTAL RUNOUT,TRADE MARK SIGN,TRANSPLUTO,TRANSVERSAL INTERSECTION",
    "TRIANGLE WITH DOT ABOVE,TRIANGLE WITH SERIFS AT BOTTOM,TRIANGLE WITH UNDERBAR,TRIANGULAR BULLET",
    "TRICOLON,TRIPLE COLON OPERATOR,TRIPLE HORIZONTAL BAR WITH DOUBLE VERTICAL STROKE",
    "TRIPLE HORIZONTAL BAR WITH TRIPLE VERTICAL STROKE,TRIPLE INTEGRAL,TRIPLE NESTED GREATER-THAN",
    "TRIPLE NESTED LESS-THAN,TRIPLE PLUS,TRIPLE PRIME,TRIPLE SOLIDUS BINARY RELATION,TRIPLE TILDE",
    "TRIPLE VERTICAL BAR BINARY RELATION,TRIPLE VERTICAL BAR DELIMITER",
    "TRIPLE VERTICAL BAR RIGHT TURNSTILE,TRIPLE VERTICAL BAR WITH HORIZONTAL STROKE,TRUE",
    "TRUE LIGHT MOON ARTA,TUGRIK SIGN,TURKISH LIRA SIGN,TURNED AMPERSAND,TURNED ANGLE",
    "TURNED BLACK PENTAGON,TURNED CAPITAL F,TURNED DIGIT THREE,TURNED DIGIT TWO",
    "TURNED GREEK SMALL LETTER IOTA,TURNED NOT SIGN,TURNED SANS-SERIF CAPITAL G",
    "TURNED SANS-SERIF CAPITAL L,TURNED SANS-SERIF CAPITAL Y,TURNED SMALL F",
    "TWO ASTERISKS ALIGNED VERTICALLY,TWO CONSECUTIVE EQUALS SIGNS,TWO DOT LEADER,TWO DOT PUNCTUATION",
    "TWO INTERSECTING LOGICAL AND,TWO INTERSECTING LOGICAL OR,TWO JOINED SQUARES",
    "TWO LOGICAL AND OPERATOR,TWO LOGICAL OR OPERATOR,UNCERTAINTY SIGN,UNDERTIE,UNDO SYMBOL,UNION",
    "UNION ABOVE BAR ABOVE INTERSECTION,UNION ABOVE INTERSECTION,UNION BESIDE AND JOINED WITH UNION",
    "UNION WITH LOGICAL OR,UNION WITH MINUS SIGN,UNION WITH OVERBAR,UNITED SYMBOL",
    "UP ARROW THROUGH CIRCLE,UP ARROWHEAD,UP ARROWHEAD BETWEEN TWO HORIZONTAL BARS",
    "UP ARROWHEAD IN A RECTANGLE BOX,UP BARB LEFT DOWN BARB LEFT HARPOON",
    "UP BARB LEFT DOWN BARB RIGHT HARPOON,UP BARB RIGHT DOWN BARB LEFT HARPOON",
    "UP BARB RIGHT DOWN BARB RIGHT HARPOON,UP DOWN ARROW,UP DOWN ARROW WITH BASE,UP DOWN BLACK ARROW",
    "UP DOWN DOUBLE ARROW,UP DOWN TRIANGLE-HEADED ARROW,UP DOWN WHITE ARROW,UP FISH TAIL",
    "UP RIGHT DIAGONAL ELLIPSIS,UP TACK,UP TACK WITH CIRCLE ABOVE",
    "UP-POINTING TRIANGLE WITH LEFT HALF BLACK,UP-POINTING TRIANGLE WITH RIGHT HALF BLACK",
    "UPPER HALF BLOCK,UPPER HALF CIRCLE,UPPER HALF INVERSE WHITE CIRCLE,UPPER LEFT CORNER WITH DOT",
    "UPPER LEFT OR LOWER RIGHT CURLY BRACKET SECTION,UPPER LEFT QUADRANT CIRCULAR ARC",
    "UPPER LEFT TRIANGLE,UPPER ONE EIGHTH BLOCK,UPPER RIGHT OR LOWER LEFT CURLY BRACKET SECTION",
    "UPPER RIGHT QUADRANT CIRCULAR ARC,UPPER RIGHT TRIANGLE,UPWARDS ARROW LEFTWARDS OF DOWNWARDS ARROW",
    "UPWARDS TRIANGLE-HEADED ARROW LEFTWARDS OF DOWNWARDS TRIANGLE-HEADED ARROW",
    "UPWARDS TWO-HEADED ARROW FROM SMALL CIRCLE,UPWARDS WHITE ARROW FROM BAR",
    "UPWARDS WHITE ARROW FROM BAR WITH HORIZONTAL BAR,UPWARDS WHITE ARROW ON PEDESTAL",
    "UPWARDS WHITE ARROW ON PEDESTAL WITH HORIZONTAL BAR",
    "UPWARDS WHITE ARROW ON PEDESTAL WITH VERTICAL BAR,UPWARDS WHITE DOUBLE ARROW",
    "UPWARDS WHITE DOUBLE ARROW ON PEDESTAL,VECTOR OR CROSS PRODUCT,VERSICLE,VERY MUCH GREATER-THAN",
    "VERY MUCH LESS-THAN,VIEWDATA SQUARE,VOLUME INTEGRAL,VULCANUS,WATCH",
    "WAVE ARROW POINTING DIRECTLY LEFT,WAVE ARROW POINTING DIRECTLY RIGHT,WAVE DASH,WAVY DASH,WAVY LINE",
    "WAVY LOW LINE,WAVY OVERLINE,WON SIGN,WORD JOINER,WREATH PRODUCT,X IN A RECTANGLE BOX,XOR,YEN SIGN",
    "ZERO WIDTH JOINER,ZERO WIDTH NO-BREAK SPACE,ZERO WIDTH NON-JOINER,ZERO WIDTH SPACE,ZEUS"]⟩]

end OperationClasses.Text
