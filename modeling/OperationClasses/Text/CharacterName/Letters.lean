/-
Module: OperationClasses.Text.CharacterName.Letters
Purpose: The names of Latin, Greek, Cyrillic, Armenian, Hebrew, Arabic and Japanese letters, and digits.
Main exports: letterNames
-/
import OperationClasses.Text.CharacterName.Family

namespace OperationClasses.Text

/-- The names of Latin, Greek, Cyrillic, Armenian, Hebrew, Arabic and Japanese letters, and digits. -/
def letterNames : List NameFamily := [
  ⟨["LATIN SMALL LETTER", "LATIN CAPITAL LETTER"], [
    "A,A WITH ACUTE,A WITH BREVE,A WITH BREVE AND ACUTE,A WITH BREVE AND DOT BELOW",
    "A WITH BREVE AND GRAVE,A WITH BREVE AND HOOK ABOVE,A WITH BREVE AND TILDE,A WITH CARON",
    "A WITH CIRCUMFLEX,A WITH CIRCUMFLEX AND ACUTE,A WITH CIRCUMFLEX AND DOT BELOW",
    "A WITH CIRCUMFLEX AND GRAVE,A WITH CIRCUMFLEX AND HOOK ABOVE,A WITH CIRCUMFLEX AND TILDE",
    "A WITH DIAERESIS,A WITH DIAERESIS AND MACRON,A WITH DOT ABOVE,A WITH DOT ABOVE AND MACRON",
    "A WITH DOT BELOW,A WITH DOUBLE GRAVE,A WITH GRAVE,A WITH HOOK ABOVE,A WITH INVERTED BREVE",
    "A WITH MACRON,A WITH OGONEK,A WITH RING ABOVE,A WITH RING ABOVE AND ACUTE,A WITH RING BELOW",
    "A WITH STROKE,A WITH TILDE,AA,AE,AE WITH ACUTE,AE WITH MACRON,ALPHA,ANGLICANA W,AO,AU,AV",
    "AV WITH HORIZONTAL BAR,AY,B,B WITH DOT ABOVE,B WITH DOT BELOW,B WITH FLOURISH,B WITH HOOK",
    "B WITH LINE BELOW,B WITH STROKE,B WITH TOPBAR,BETA,BROKEN L,C,C WITH ACUTE,C WITH BAR,C WITH CARON",
    "C WITH CEDILLA,C WITH CEDILLA AND ACUTE,C WITH CIRCUMFLEX,C WITH DOT ABOVE,C WITH HOOK",
    "C WITH PALATAL HOOK,C WITH STROKE,CHI,CLOSED INSULAR G,CON,CUATRILLO,CUATRILLO WITH COMMA,D",
    "D WITH CARON,D WITH CEDILLA,D WITH CIRCUMFLEX BELOW,D WITH DOT ABOVE,D WITH DOT BELOW,D WITH HOOK",
    "D WITH LINE BELOW,D WITH SHORT STROKE OVERLAY,D WITH STROKE,D WITH TOPBAR,DZ,DZ WITH CARON,E",
    "E WITH ACUTE,E WITH BREVE,E WITH CARON,E WITH CEDILLA,E WITH CEDILLA AND BREVE,E WITH CIRCUMFLEX",
    "E WITH CIRCUMFLEX AND ACUTE,E WITH CIRCUMFLEX AND DOT BELOW,E WITH CIRCUMFLEX AND GRAVE",
    "E WITH CIRCUMFLEX AND HOOK ABOVE,E WITH CIRCUMFLEX AND TILDE,E WITH CIRCUMFLEX BELOW",
    "E WITH DIAERESIS,E WITH DOT ABOVE,E WITH DOT BELOW,E WITH DOUBLE GRAVE,E WITH GRAVE",
    "E WITH HOOK ABOVE,E WITH INVERTED BREVE,E WITH MACRON,E WITH MACRON AND ACUTE",
    "E WITH MACRON AND GRAVE,E WITH OGONEK,E WITH STROKE,E WITH TILDE,E WITH TILDE BELOW",
    "EGYPTOLOGICAL AIN,EGYPTOLOGICAL ALEF,ENG,ESH,ET,ETH,EZH,EZH REVERSED,EZH WITH CARON,F",
    "F WITH DOT ABOVE,F WITH HOOK,F WITH STROKE,G,G WITH ACUTE,G WITH BREVE,G WITH CARON,G WITH CEDILLA",
    "G WITH CIRCUMFLEX,G WITH DOT ABOVE,G WITH HOOK,G WITH MACRON,G WITH OBLIQUE STROKE,G WITH STROKE",
    "GAMMA,GHA,GLOTTAL A,GLOTTAL I,GLOTTAL STOP,GLOTTAL U,H,H WITH BREVE BELOW,H WITH CARON",
    "H WITH CEDILLA,H WITH CIRCUMFLEX,H WITH DESCENDER,H WITH DIAERESIS,H WITH DOT ABOVE",
    "H WITH DOT BELOW,H WITH HOOK,H WITH STROKE,HALF H,HENG,I,I WITH ACUTE,I WITH BREVE,I WITH CARON",
    "I WITH CIRCUMFLEX,I WITH DIAERESIS,I WITH DIAERESIS AND ACUTE,I WITH DOT BELOW,I WITH DOUBLE GRAVE",
    "I WITH GRAVE,I WITH HOOK ABOVE,I WITH INVERTED BREVE,I WITH MACRON,I WITH OGONEK,I WITH STROKE",
    "I WITH TILDE,I WITH TILDE BELOW,INSULAR D,INSULAR F,INSULAR G,INSULAR R,INSULAR S,INSULAR T,IOTA",
    "IS,J,J WITH CIRCUMFLEX,J WITH CROSSED-TAIL,J WITH STROKE,K,K WITH ACUTE,K WITH CARON",
    "K WITH CEDILLA,K WITH DESCENDER,K WITH DIAGONAL STROKE,K WITH DOT BELOW,K WITH HOOK",
    "K WITH LINE BELOW,K WITH OBLIQUE STROKE,K WITH STROKE,K WITH STROKE AND DIAGONAL STROKE,L",
    "L WITH ACUTE,L WITH BAR,L WITH BELT,L WITH CARON,L WITH CEDILLA,L WITH CIRCUMFLEX BELOW",
    "L WITH DOT BELOW,L WITH DOT BELOW AND MACRON,L WITH DOUBLE BAR,L WITH HIGH STROKE",
    "L WITH LINE BELOW,L WITH MIDDLE DOT,L WITH MIDDLE TILDE,L WITH STROKE,LJ,M,M WITH ACUTE",
    "M WITH DOT ABOVE,M WITH DOT BELOW,M WITH HOOK,MIDDLE SCOTS S,MIDDLE-WELSH LL,MIDDLE-WELSH V,N",
    "N WITH ACUTE,N WITH CARON,N WITH CEDILLA,N WITH CIRCUMFLEX BELOW,N WITH DESCENDER,N WITH DOT ABOVE",
    "N WITH DOT BELOW,N WITH GRAVE,N WITH LEFT HOOK,N WITH LINE BELOW,N WITH LONG RIGHT LEG",
    "N WITH OBLIQUE STROKE,N WITH TILDE,NJ,O,O WITH ACUTE,O WITH BREVE,O WITH CARON,O WITH CIRCUMFLEX",
    "O WITH CIRCUMFLEX AND ACUTE,O WITH CIRCUMFLEX AND DOT BELOW,O WITH CIRCUMFLEX AND GRAVE",
    "O WITH CIRCUMFLEX AND HOOK ABOVE,O WITH CIRCUMFLEX AND TILDE,O WITH DIAERESIS",
    "O WITH DIAERESIS AND MACRON,O WITH DOT ABOVE,O WITH DOT ABOVE AND MACRON,O WITH DOT BELOW",
    "O WITH DOUBLE ACUTE,O WITH DOUBLE GRAVE,O WITH GRAVE,O WITH HOOK ABOVE,O WITH HORN",
    "O WITH HORN AND ACUTE,O WITH HORN AND DOT BELOW,O WITH HORN AND GRAVE,O WITH HORN AND HOOK ABOVE",
    "O WITH HORN AND TILDE,O WITH INVERTED BREVE,O WITH LONG STROKE OVERLAY,O WITH LOOP,O WITH MACRON",
    "O WITH MACRON AND ACUTE,O WITH MACRON AND GRAVE,O WITH OGONEK,O WITH OGONEK AND MACRON",
    "O WITH STROKE,O WITH STROKE AND ACUTE,O WITH TILDE,O WITH TILDE AND ACUTE",
    "O WITH TILDE AND DIAERESIS,O WITH TILDE AND MACRON,OI,OLD POLISH O,OMEGA,OO,OPEN E,OPEN O,OU,P",
    "P WITH ACUTE,P WITH DOT ABOVE,P WITH FLOURISH,P WITH HOOK,P WITH SQUIRREL TAIL,P WITH STROKE",
    "P WITH STROKE THROUGH DESCENDER,Q,Q WITH DIAGONAL STROKE,Q WITH STROKE THROUGH DESCENDER,R",
    "R ROTUNDA,R WITH ACUTE,R WITH CARON,R WITH CEDILLA,R WITH DOT ABOVE,R WITH DOT BELOW",
    "R WITH DOT BELOW AND MACRON,R WITH DOUBLE GRAVE,R WITH INVERTED BREVE,R WITH LINE BELOW",
    "R WITH OBLIQUE STROKE,R WITH STROKE,R WITH TAIL,REVERSED C WITH DOT,REVERSED E,REVERSED HALF H",
    "REVERSED OPEN E,RUM ROTUNDA,S,S WITH ACUTE,S WITH ACUTE AND DOT ABOVE,S WITH CARON",
    "S WITH CARON AND DOT ABOVE,S WITH CEDILLA,S WITH CIRCUMFLEX,S WITH COMMA BELOW,S WITH DOT ABOVE",
    "S WITH DOT BELOW,S WITH DOT BELOW AND DOT ABOVE,S WITH HOOK,S WITH OBLIQUE STROKE",
    "S WITH SHORT STROKE OVERLAY,S WITH SWASH TAIL,SALTILLO,SCHWA,SCRIPT G,SHARP S,SIGMOID S,T",
    "T WITH CARON,T WITH CEDILLA,T WITH CIRCUMFLEX BELOW,T WITH COMMA BELOW,T WITH DIAGONAL STROKE",
    "T WITH DOT ABOVE,T WITH DOT BELOW,T WITH HOOK,T WITH LINE BELOW,T WITH RETROFLEX HOOK",
    "T WITH STROKE,THORN,THORN WITH STROKE,THORN WITH STROKE THROUGH DESCENDER,TONE FIVE,TONE SIX",
    "TONE TWO,TRESILLO,TURNED A,TURNED ALPHA,TURNED H,TURNED INSULAR G,TURNED K,TURNED L,TURNED M",
    "TURNED T,TURNED V,TZ,U,U BAR,U WITH ACUTE,U WITH BREVE,U WITH CARON,U WITH CIRCUMFLEX",
    "U WITH CIRCUMFLEX BELOW,U WITH DIAERESIS,U WITH DIAERESIS AND ACUTE,U WITH DIAERESIS AND CARON",
    "U WITH DIAERESIS AND GRAVE,U WITH DIAERESIS AND MACRON,U WITH DIAERESIS BELOW,U WITH DOT BELOW",
    "U WITH DOUBLE ACUTE,U WITH DOUBLE GRAVE,U WITH GRAVE,U WITH HOOK ABOVE,U WITH HORN",
    "U WITH HORN AND ACUTE,U WITH HORN AND DOT BELOW,U WITH HORN AND GRAVE,U WITH HORN AND HOOK ABOVE",
    "U WITH HORN AND TILDE,U WITH INVERTED BREVE,U WITH MACRON,U WITH MACRON AND DIAERESIS",
    "U WITH OGONEK,U WITH RING ABOVE,U WITH STROKE,U WITH TILDE,U WITH TILDE AND ACUTE",
    "U WITH TILDE BELOW,UPSILON,V,V WITH DIAGONAL STROKE,V WITH DOT BELOW,V WITH HOOK,V WITH TILDE,VEND",
    "VISIGOTHIC Z,VOLAPUK AE,VOLAPUK OE,VOLAPUK UE,VY,W,W WITH ACUTE,W WITH CIRCUMFLEX,W WITH DIAERESIS",
    "W WITH DOT ABOVE,W WITH DOT BELOW,W WITH GRAVE,W WITH HOOK,X,X WITH DIAERESIS,X WITH DOT ABOVE,Y",
    "Y WITH ACUTE,Y WITH CIRCUMFLEX,Y WITH DIAERESIS,Y WITH DOT ABOVE,Y WITH DOT BELOW,Y WITH GRAVE",
    "Y WITH HOOK,Y WITH HOOK ABOVE,Y WITH LOOP,Y WITH MACRON,Y WITH STROKE,Y WITH TILDE,YOGH,Z",
    "Z WITH ACUTE,Z WITH CARON,Z WITH CIRCUMFLEX,Z WITH DESCENDER,Z WITH DOT ABOVE,Z WITH DOT BELOW",
    "Z WITH HOOK,Z WITH LINE BELOW,Z WITH PALATAL HOOK,Z WITH STROKE,Z WITH SWASH TAIL"]⟩,
  ⟨["GREEK SMALL LETTER", "GREEK CAPITAL LETTER"], [
    "ALPHA,ALPHA WITH DASIA,ALPHA WITH DASIA AND OXIA,ALPHA WITH DASIA AND PERISPOMENI",
    "ALPHA WITH DASIA AND VARIA,ALPHA WITH MACRON,ALPHA WITH OXIA,ALPHA WITH PSILI",
    "ALPHA WITH PSILI AND OXIA,ALPHA WITH PSILI AND PERISPOMENI,ALPHA WITH PSILI AND VARIA",
    "ALPHA WITH TONOS,ALPHA WITH VARIA,ALPHA WITH VRACHY,ARCHAIC SAMPI,BETA,CHI,DELTA,EPSILON",
    "EPSILON WITH DASIA,EPSILON WITH DASIA AND OXIA,EPSILON WITH DASIA AND VARIA,EPSILON WITH OXIA",
    "EPSILON WITH PSILI,EPSILON WITH PSILI AND OXIA,EPSILON WITH PSILI AND VARIA,EPSILON WITH TONOS",
    "EPSILON WITH VARIA,ETA,ETA WITH DASIA,ETA WITH DASIA AND OXIA,ETA WITH DASIA AND PERISPOMENI",
    "ETA WITH DASIA AND VARIA,ETA WITH OXIA,ETA WITH PSILI,ETA WITH PSILI AND OXIA",
    "ETA WITH PSILI AND PERISPOMENI,ETA WITH PSILI AND VARIA,ETA WITH TONOS,ETA WITH VARIA,GAMMA,HETA",
    "IOTA,IOTA WITH DASIA,IOTA WITH DASIA AND OXIA,IOTA WITH DASIA AND PERISPOMENI",
    "IOTA WITH DASIA AND VARIA,IOTA WITH DIALYTIKA,IOTA WITH MACRON,IOTA WITH OXIA,IOTA WITH PSILI",
    "IOTA WITH PSILI AND OXIA,IOTA WITH PSILI AND PERISPOMENI,IOTA WITH PSILI AND VARIA,IOTA WITH TONOS",
    "IOTA WITH VARIA,IOTA WITH VRACHY,KAPPA,LAMDA,MU,NU,OMEGA,OMEGA WITH DASIA",
    "OMEGA WITH DASIA AND OXIA,OMEGA WITH DASIA AND PERISPOMENI,OMEGA WITH DASIA AND VARIA",
    "OMEGA WITH OXIA,OMEGA WITH PSILI,OMEGA WITH PSILI AND OXIA,OMEGA WITH PSILI AND PERISPOMENI",
    "OMEGA WITH PSILI AND VARIA,OMEGA WITH TONOS,OMEGA WITH VARIA,OMICRON,OMICRON WITH DASIA",
    "OMICRON WITH DASIA AND OXIA,OMICRON WITH DASIA AND VARIA,OMICRON WITH OXIA,OMICRON WITH PSILI",
    "OMICRON WITH PSILI AND OXIA,OMICRON WITH PSILI AND VARIA,OMICRON WITH TONOS,OMICRON WITH VARIA",
    "PAMPHYLIAN DIGAMMA,PHI,PI,PSI,RHO,RHO WITH DASIA,SAN,SHO,SIGMA,TAU,THETA,UPSILON",
    "UPSILON WITH DASIA,UPSILON WITH DASIA AND OXIA,UPSILON WITH DASIA AND PERISPOMENI",
    "UPSILON WITH DASIA AND VARIA,UPSILON WITH DIALYTIKA,UPSILON WITH MACRON,UPSILON WITH OXIA",
    "UPSILON WITH TONOS,UPSILON WITH VARIA,UPSILON WITH VRACHY,XI,ZETA"]⟩,
  ⟨["CYRILLIC SMALL LETTER", "CYRILLIC CAPITAL LETTER"], [
    "A,A WITH BREVE,A WITH DIAERESIS,ABKHASIAN CHE,ABKHASIAN CHE WITH DESCENDER,ABKHASIAN DZE",
    "ABKHASIAN HA,ALEUT KA,BARRED O,BARRED O WITH DIAERESIS,BASHKIR KA,BE,BIG YUS,BINOCULAR O",
    "BLENDED YUS,BROAD OMEGA,BYELORUSSIAN-UKRAINIAN I,CCHE,CHE,CHE WITH DESCENDER,CHE WITH DIAERESIS",
    "CHE WITH VERTICAL STROKE,CLOSED LITTLE YUS,CROSSED O,DCHE,DE,DJE,DJERV,DOUBLE MONOCULAR O,DOUBLE O",
    "DWE,DZE,DZELO,DZHE,DZWE,DZZE,DZZHE,E,E WITH DIAERESIS,EF,EL,EL WITH DESCENDER,EL WITH HOOK",
    "EL WITH MIDDLE HOOK,EL WITH TAIL,EM,EM WITH TAIL,EN,EN WITH DESCENDER,EN WITH HOOK",
    "EN WITH LEFT HOOK,EN WITH MIDDLE HOOK,EN WITH TAIL,ER,ER WITH TICK,ES,ES WITH DESCENDER,FITA,GHE",
    "GHE WITH DESCENDER,GHE WITH MIDDLE HOOK,GHE WITH STROKE,GHE WITH STROKE AND HOOK,GHE WITH UPTURN",
    "GJE,HA,HA WITH DESCENDER,HA WITH HOOK,HA WITH STROKE,HARD SIGN,HWE,I,I WITH DIAERESIS,I WITH GRAVE",
    "I WITH MACRON,IE,IE WITH BREVE,IE WITH GRAVE,IO,IOTA,IOTIFIED A,IOTIFIED BIG YUS",
    "IOTIFIED CLOSED LITTLE YUS,IOTIFIED E,IOTIFIED LITTLE YUS,IOTIFIED YAT,IZHITSA",
    "IZHITSA WITH DOUBLE GRAVE ACCENT,JE,KA,KA WITH DESCENDER,KA WITH HOOK,KA WITH STROKE",
    "KA WITH VERTICAL STROKE,KHAKASSIAN CHE,KJE,KOMI DE,KOMI DJE,KOMI DZJE,KOMI LJE,KOMI NJE,KOMI SJE",
    "KOMI TJE,KOMI ZJE,KOPPA,KSI,LHA,LITTLE YUS,LJE,MONOCULAR O,MONOGRAPH UK,NEUTRAL YER,NJE,O",
    "O WITH DIAERESIS,OMEGA,OMEGA WITH TITLO,OT,PE,PE WITH DESCENDER,PE WITH MIDDLE HOOK,PSI,QA",
    "REVERSED DZE,REVERSED TSE,REVERSED YU,REVERSED ZE,RHA,ROUND OMEGA,SCHWA,SCHWA WITH DIAERESIS",
    "SEMISOFT SIGN,SHA,SHCHA,SHHA,SHHA WITH DESCENDER,SHORT I,SHORT I WITH TAIL,SHORT U,SHWE,SOFT DE",
    "SOFT EL,SOFT EM,SOFT SIGN,STRAIGHT U,STRAIGHT U WITH STROKE,TCHE,TE,TE WITH DESCENDER",
    "TE WITH MIDDLE HOOK,TSE,TSHE,TSSE,TSWE,TWE,U,U WITH DIAERESIS,U WITH DOUBLE ACUTE,U WITH MACRON,UK",
    "UKRAINIAN IE,VE,WE,YA,YAE,YAT,YERU,YERU WITH BACK YER,YERU WITH DIAERESIS,YI,YN,YU,ZE",
    "ZE WITH DESCENDER,ZE WITH DIAERESIS,ZEMLYA,ZHE,ZHE WITH BREVE,ZHE WITH DESCENDER",
    "ZHE WITH DIAERESIS,ZHWE"]⟩,
  ⟨["ARMENIAN SMALL LETTER", "ARMENIAN CAPITAL LETTER"], [
    "AYB,BEN,CA,CHA,CHEH,CO,DA,ECH,EH,ET,FEH,GHAD,GIM,HO,INI,JA,JHEH,KEH,KEN,LIWN,MEN,NOW,OH,PEH,PIWR",
    "RA,REH,SEH,SHA,TIWN,TO,VEW,VO,XEH,YI,YIWN,ZA,ZHE"]⟩,
  ⟨["HIRAGANA LETTER", "KATAKANA LETTER"], [
    "A,BA,BE,BI,BO,BU,DA,DE,DI,DO,DU,E,GA,GE,GI,GO,GU,HA,HE,HI,HO,HU,I,KA,KE,KI,KO,KU,MA,ME,MI,MO,MU,N",
    "NA,NE,NI,NO,NU,O,PA,PE,PI,PO,PU,RA,RE,RI,RO,RU,SA,SE,SI,SMALL A,SMALL E,SMALL I,SMALL KA,SMALL KE",
    "SMALL O,SMALL TU,SMALL U,SMALL WA,SMALL YA,SMALL YO,SMALL YU,SO,SU,TA,TE,TI,TO,TU,U,VU,WA,WE,WI,WO",
    "YA,YO,YU,ZA,ZE,ZI,ZO,ZU"]⟩,
  ⟨["HALFWIDTH KATAKANA LETTER"], [
    "A,E,HA,HE,HI,HO,HU,I,KA,KE,KI,KO,KU,MA,ME,MI,MO,MU,N,NA,NE,NI,NO,NU,O,RA,RE,RI,RO,RU,SA,SE,SI",
    "SMALL A,SMALL E,SMALL I,SMALL O,SMALL TU,SMALL U,SMALL YA,SMALL YO,SMALL YU,SO,SU,TA,TE,TI,TO,TU,U",
    "WA,WO,YA,YO,YU"]⟩,
  ⟨["FULLWIDTH LATIN SMALL LETTER", "FULLWIDTH LATIN CAPITAL LETTER"], [
    "A,B,C,D,E,F,G,H,I,J,K,L,M,N,O,P,Q,R,S,T,U,V,W,X,Y,Z"]⟩,
  ⟨["LATIN SMALL LETTER"], [
    "A REVERSED-SCHWA,A WITH RETROFLEX HOOK,A WITH RIGHT HALF RING,ALPHA WITH RETROFLEX HOOK",
    "B WITH MIDDLE TILDE,B WITH PALATAL HOOK,BARRED ALPHA,BARRED E,BARRED O,BASELINE ESH,BLACKLETTER E",
    "BLACKLETTER O,BLACKLETTER O WITH STROKE,BOTTOM HALF O,C WITH CURL,CHI WITH LOW LEFT SERIF",
    "CHI WITH LOW RIGHT RING,CLOSED OMEGA,CLOSED OPEN E,CLOSED REVERSED OPEN E,D WITH CURL",
    "D WITH HOOK AND TAIL,D WITH MIDDLE TILDE,D WITH PALATAL HOOK,D WITH TAIL,DB DIGRAPH,DELTA",
    "DEZH DIGRAPH,DOTLESS I,DOTLESS J,DOTLESS J WITH STROKE,DOTLESS J WITH STROKE AND HOOK,DOUBLE R",
    "DOUBLE R WITH CROSSED-TAIL,DOUBLE THORN,DOUBLE WYNN,DUM,DZ DIGRAPH,DZ DIGRAPH WITH CURL",
    "DZ DIGRAPH WITH RETROFLEX HOOK,E WITH FLOURISH,E WITH NOTCH,E WITH RETROFLEX HOOK",
    "ENG WITH CROSSED-TAIL,ESH WITH CURL,ESH WITH PALATAL HOOK,ESH WITH RETROFLEX HOOK,EZH WITH CURL",
    "EZH WITH RETROFLEX HOOK,EZH WITH TAIL,F WITH MIDDLE TILDE,F WITH PALATAL HOOK,FENG DIGRAPH",
    "G WITH PALATAL HOOK,H WITH LINE BELOW,H WITH PALATAL HOOK,HENG WITH HOOK,HV,I WITH RETROFLEX HOOK",
    "INVERTED ALPHA,INVERTED OE,IOTA WITH STROKE,IOTIFIED E,J WITH CARON,K WITH PALATAL HOOK,KRA",
    "L WITH CURL,L WITH DOUBLE MIDDLE TILDE,L WITH INVERTED LAZY S,L WITH MIDDLE RING",
    "L WITH PALATAL HOOK,L WITH RETROFLEX HOOK,L WITH RETROFLEX HOOK AND BELT,LAMBDA WITH STROKE",
    "LENIS F,LEZH,LONG S,LONG S WITH DIAGONAL STROKE,LONG S WITH DOT ABOVE,LONG S WITH HIGH STROKE",
    "LS DIGRAPH,LUM,LZ DIGRAPH,M WITH CROSSED-TAIL,M WITH MIDDLE TILDE,M WITH PALATAL HOOK,MUM",
    "N PRECEDED BY APOSTROPHE,N WITH CROSSED-TAIL,N WITH CURL,N WITH MIDDLE TILDE,N WITH PALATAL HOOK",
    "N WITH RETROFLEX HOOK,NUM,O WITH LOW RING INSIDE,OPEN E WITH RETROFLEX HOOK",
    "OPEN O WITH RETROFLEX HOOK,OPEN O WITH STROKE,OPEN OE,P WITH MIDDLE TILDE,P WITH PALATAL HOOK,PHI",
    "Q WITH HOOK,Q WITH HOOK TAIL,QP DIGRAPH,R WITH CROSSED-TAIL,R WITH FISHHOOK",
    "R WITH FISHHOOK AND MIDDLE TILDE,R WITH LONG LEG,R WITH MIDDLE TILDE,R WITH PALATAL HOOK",
    "R WITHOUT HANDLE,RAMS HORN,REVERSED OPEN E WITH HOOK,REVERSED OPEN E WITH RETROFLEX HOOK",
    "REVERSED R WITH FISHHOOK,RUM,S WITH MIDDLE TILDE,S WITH PALATAL HOOK,SAKHA YAT,SCHWA WITH HOOK",
    "SCHWA WITH RETROFLEX HOOK,SCRIPT G WITH CROSSED-TAIL,SCRIPT R,SCRIPT R WITH RING",
    "SIDEWAYS DIAERESIZED U,SIDEWAYS O,SIDEWAYS O WITH STROKE,SIDEWAYS OPEN O,SIDEWAYS TURNED M",
    "SIDEWAYS U,SQUAT REVERSED ESH,STIRRUP R,T WITH CURL,T WITH DIAERESIS,T WITH MIDDLE TILDE",
    "T WITH PALATAL HOOK,TAILLESS PHI,TC DIGRAPH WITH CURL,TESH DIGRAPH,TH WITH STRIKETHROUGH",
    "TOP HALF O,TS DIGRAPH,TS DIGRAPH WITH RETROFLEX HOOK,TUM,TURNED AE,TURNED DELTA,TURNED E,TURNED G",
    "TURNED H WITH FISHHOOK,TURNED H WITH FISHHOOK AND TAIL,TURNED I,TURNED M WITH LONG LEG",
    "TURNED O OPEN-O,TURNED O OPEN-O WITH STROKE,TURNED OE,TURNED OE WITH HORIZONTAL STROKE",
    "TURNED OE WITH STROKE,TURNED OPEN E,TURNED R,TURNED R WITH HOOK,TURNED R WITH LONG LEG",
    "TURNED R WITH MIDDLE TILDE,TURNED R WITH TAIL,TURNED UI,TURNED W,TURNED Y",
    "U BAR WITH SHORT RIGHT LEG,U WITH LEFT HOOK,U WITH RETROFLEX HOOK,U WITH SHORT RIGHT LEG,UE,UI,UM",
    "UO,UPSILON WITH STROKE,V WITH CURL,V WITH PALATAL HOOK,V WITH RIGHT HOOK,W WITH RING ABOVE",
    "X WITH LONG LEFT LEG,X WITH LONG LEFT LEG AND LOW RIGHT RING,X WITH LONG LEFT LEG WITH SERIF",
    "X WITH LOW RIGHT RING,X WITH PALATAL HOOK,Y WITH RING ABOVE,Y WITH SHORT RIGHT LEG,Z WITH CURL",
    "Z WITH MIDDLE TILDE,Z WITH RETROFLEX HOOK"]⟩,
  ⟨["MODIFIER LETTER"], [
    "CAPITAL A,CAPITAL AE,CAPITAL B,CAPITAL BARRED B,CAPITAL C,CAPITAL D,CAPITAL E,CAPITAL F,CAPITAL G",
    "CAPITAL H,CAPITAL H WITH STROKE,CAPITAL I,CAPITAL J,CAPITAL K,CAPITAL L,CAPITAL M,CAPITAL N",
    "CAPITAL O,CAPITAL OU,CAPITAL P,CAPITAL Q,CAPITAL R,CAPITAL REVERSED E,CAPITAL REVERSED N,CAPITAL T",
    "CAPITAL U,CAPITAL V,CAPITAL W,COLON,CYRILLIC EN,CYRILLIC HARD SIGN,CYRILLIC SOFT SIGN,LEFT TACK",
    "LOW CIRCUMFLEX ACCENT,RIGHT TACK,SHORT EQUALS SIGN,SMALL A,SMALL AIN,SMALL ALPHA,SMALL B",
    "SMALL BARRED O,SMALL BETA,SMALL BOTTOM HALF O,SMALL C,SMALL C WITH CURL,SMALL CAPITAL I",
    "SMALL CAPITAL I WITH STROKE,SMALL CAPITAL L,SMALL CAPITAL N,SMALL CAPITAL U,SMALL CHI,SMALL D",
    "SMALL DELTA,SMALL DOTLESS J WITH STROKE,SMALL E,SMALL ENG,SMALL ESH,SMALL ETH,SMALL EZH,SMALL F",
    "SMALL G,SMALL GREEK GAMMA,SMALL GREEK PHI,SMALL HENG,SMALL I WITH STROKE,SMALL IOTA",
    "SMALL J WITH CROSSED-TAIL,SMALL K,SMALL L WITH INVERTED LAZY S,SMALL L WITH MIDDLE TILDE",
    "SMALL L WITH PALATAL HOOK,SMALL L WITH RETROFLEX HOOK,SMALL LIGATURE OE,SMALL M,SMALL M WITH HOOK",
    "SMALL N WITH LEFT HOOK,SMALL N WITH RETROFLEX HOOK,SMALL O,SMALL OPEN E,SMALL OPEN O,SMALL P",
    "SMALL PHI,SMALL REVERSED OPEN E,SMALL S WITH HOOK,SMALL SCHWA,SMALL SCRIPT G,SMALL SIDEWAYS U",
    "SMALL T,SMALL T WITH PALATAL HOOK,SMALL THETA,SMALL TOP HALF O,SMALL TURNED A,SMALL TURNED AE",
    "SMALL TURNED ALPHA,SMALL TURNED H,SMALL TURNED I,SMALL TURNED M,SMALL TURNED M WITH LONG LEG",
    "SMALL TURNED OPEN E,SMALL TURNED V,SMALL TURNED W,SMALL U,SMALL U BAR,SMALL U WITH LEFT HOOK",
    "SMALL UPSILON,SMALL V,SMALL V WITH HOOK,SMALL Z,SMALL Z WITH CURL,SMALL Z WITH RETROFLEX HOOK",
    "STRESS AND HIGH TONE,STRESS AND LOW TONE,US"]⟩,
  ⟨["GREEK SMALL LETTER"], [
    "ALPHA WITH DASIA AND OXIA AND YPOGEGRAMMENI,ALPHA WITH DASIA AND PERISPOMENI AND YPOGEGRAMMENI",
    "ALPHA WITH DASIA AND VARIA AND YPOGEGRAMMENI,ALPHA WITH DASIA AND YPOGEGRAMMENI",
    "ALPHA WITH OXIA AND YPOGEGRAMMENI,ALPHA WITH PERISPOMENI,ALPHA WITH PERISPOMENI AND YPOGEGRAMMENI",
    "ALPHA WITH PSILI AND OXIA AND YPOGEGRAMMENI,ALPHA WITH PSILI AND PERISPOMENI AND YPOGEGRAMMENI",
    "ALPHA WITH PSILI AND VARIA AND YPOGEGRAMMENI,ALPHA WITH PSILI AND YPOGEGRAMMENI",
    "ALPHA WITH VARIA AND YPOGEGRAMMENI,ALPHA WITH YPOGEGRAMMENI,ARCHAIC KOPPA,DIGAMMA",
    "ETA WITH DASIA AND OXIA AND YPOGEGRAMMENI,ETA WITH DASIA AND PERISPOMENI AND YPOGEGRAMMENI",
    "ETA WITH DASIA AND VARIA AND YPOGEGRAMMENI,ETA WITH DASIA AND YPOGEGRAMMENI",
    "ETA WITH OXIA AND YPOGEGRAMMENI,ETA WITH PERISPOMENI,ETA WITH PERISPOMENI AND YPOGEGRAMMENI",
    "ETA WITH PSILI AND OXIA AND YPOGEGRAMMENI,ETA WITH PSILI AND PERISPOMENI AND YPOGEGRAMMENI",
    "ETA WITH PSILI AND VARIA AND YPOGEGRAMMENI,ETA WITH PSILI AND YPOGEGRAMMENI",
    "ETA WITH VARIA AND YPOGEGRAMMENI,ETA WITH YPOGEGRAMMENI,FINAL SIGMA,IOTA WITH DIALYTIKA AND OXIA",
    "IOTA WITH DIALYTIKA AND PERISPOMENI,IOTA WITH DIALYTIKA AND TONOS,IOTA WITH DIALYTIKA AND VARIA",
    "IOTA WITH PERISPOMENI,KOPPA,OMEGA WITH DASIA AND OXIA AND YPOGEGRAMMENI",
    "OMEGA WITH DASIA AND PERISPOMENI AND YPOGEGRAMMENI,OMEGA WITH DASIA AND VARIA AND YPOGEGRAMMENI",
    "OMEGA WITH DASIA AND YPOGEGRAMMENI,OMEGA WITH OXIA AND YPOGEGRAMMENI,OMEGA WITH PERISPOMENI",
    "OMEGA WITH PERISPOMENI AND YPOGEGRAMMENI,OMEGA WITH PSILI AND OXIA AND YPOGEGRAMMENI",
    "OMEGA WITH PSILI AND PERISPOMENI AND YPOGEGRAMMENI,OMEGA WITH PSILI AND VARIA AND YPOGEGRAMMENI",
    "OMEGA WITH PSILI AND YPOGEGRAMMENI,OMEGA WITH VARIA AND YPOGEGRAMMENI,OMEGA WITH YPOGEGRAMMENI",
    "RHO WITH PSILI,SAMPI,STIGMA,UPSILON WITH DIALYTIKA AND OXIA,UPSILON WITH DIALYTIKA AND PERISPOMENI",
    "UPSILON WITH DIALYTIKA AND TONOS,UPSILON WITH DIALYTIKA AND VARIA,UPSILON WITH PERISPOMENI",
    "UPSILON WITH PSILI,UPSILON WITH PSILI AND OXIA,UPSILON WITH PSILI AND PERISPOMENI",
    "UPSILON WITH PSILI AND VARIA"]⟩,
  ⟨["LATIN LETTER SMALL CAPITAL"], [
    "A,AE,B,BARRED B,C,D,E,ETH,EZH,F,G,G WITH HOOK,H,I,INVERTED R,J,K,L,L WITH STROKE,M,N,O,OE,OPEN O",
    "OU,P,Q,R,R WITH RIGHT LEG,REVERSED N,REVERSED R,RUM,S,T,TURNED E,TURNED M,TURNED R,U,V,W,Y,Z"]⟩,
  ⟨["HEBREW LETTER"], [
    "ALEF,ALEF WITH MAPIQ,ALEF WITH PATAH,ALEF WITH QAMATS,ALTERNATIVE AYIN,ALTERNATIVE PLUS SIGN,AYIN",
    "BET,BET WITH DAGESH,BET WITH RAFE,DALET,DALET WITH DAGESH,FINAL KAF,FINAL KAF WITH DAGESH",
    "FINAL MEM,FINAL NUN,FINAL PE,FINAL PE WITH DAGESH,FINAL TSADI,GIMEL,GIMEL WITH DAGESH,HE",
    "HE WITH MAPIQ,HET,KAF,KAF WITH DAGESH,KAF WITH RAFE,LAMED,LAMED WITH DAGESH,MEM,MEM WITH DAGESH",
    "NUN,NUN WITH DAGESH,PE,PE WITH DAGESH,PE WITH RAFE,QOF,QOF WITH DAGESH,RESH,RESH WITH DAGESH",
    "SAMEKH,SAMEKH WITH DAGESH,SHIN,SHIN WITH DAGESH,SHIN WITH DAGESH AND SHIN DOT",
    "SHIN WITH DAGESH AND SIN DOT,SHIN WITH SHIN DOT,SHIN WITH SIN DOT,TAV,TAV WITH DAGESH,TET",
    "TET WITH DAGESH,TSADI,TSADI WITH DAGESH,VAV,VAV WITH DAGESH,VAV WITH HOLAM,WIDE ALEF,WIDE DALET",
    "WIDE FINAL MEM,WIDE HE,WIDE KAF,WIDE LAMED,WIDE RESH,WIDE TAV,YOD,YOD WITH DAGESH,YOD WITH HIRIQ",
    "ZAYIN,ZAYIN WITH DAGESH"]⟩,
  ⟨["GREEK CAPITAL LETTER"], [
    "ALPHA WITH DASIA AND OXIA AND PROSGEGRAMMENI,ALPHA WITH DASIA AND PERISPOMENI AND PROSGEGRAMMENI",
    "ALPHA WITH DASIA AND PROSGEGRAMMENI,ALPHA WITH DASIA AND VARIA AND PROSGEGRAMMENI",
    "ALPHA WITH PROSGEGRAMMENI,ALPHA WITH PSILI AND OXIA AND PROSGEGRAMMENI",
    "ALPHA WITH PSILI AND PERISPOMENI AND PROSGEGRAMMENI,ALPHA WITH PSILI AND PROSGEGRAMMENI",
    "ALPHA WITH PSILI AND VARIA AND PROSGEGRAMMENI,ETA WITH DASIA AND OXIA AND PROSGEGRAMMENI",
    "ETA WITH DASIA AND PERISPOMENI AND PROSGEGRAMMENI,ETA WITH DASIA AND PROSGEGRAMMENI",
    "ETA WITH DASIA AND VARIA AND PROSGEGRAMMENI,ETA WITH PROSGEGRAMMENI",
    "ETA WITH PSILI AND OXIA AND PROSGEGRAMMENI,ETA WITH PSILI AND PERISPOMENI AND PROSGEGRAMMENI",
    "ETA WITH PSILI AND PROSGEGRAMMENI,ETA WITH PSILI AND VARIA AND PROSGEGRAMMENI",
    "OMEGA WITH DASIA AND OXIA AND PROSGEGRAMMENI,OMEGA WITH DASIA AND PERISPOMENI AND PROSGEGRAMMENI",
    "OMEGA WITH DASIA AND PROSGEGRAMMENI,OMEGA WITH DASIA AND VARIA AND PROSGEGRAMMENI",
    "OMEGA WITH PROSGEGRAMMENI,OMEGA WITH PSILI AND OXIA AND PROSGEGRAMMENI",
    "OMEGA WITH PSILI AND PERISPOMENI AND PROSGEGRAMMENI,OMEGA WITH PSILI AND PROSGEGRAMMENI",
    "OMEGA WITH PSILI AND VARIA AND PROSGEGRAMMENI,YOT"]⟩,
  ⟨["ARABIC LETTER"], [
    "AIN,ALEF,ALEF MAKSURA,ALEF WITH HAMZA ABOVE,ALEF WITH HAMZA BELOW,ALEF WITH MADDA ABOVE,BEH,DAD",
    "DAL,FARSI YEH WITH INVERTED V,FARSI YEH WITH THREE DOTS ABOVE,FARSI YEH WITH TWO DOTS ABOVE,FEH",
    "GHAIN,HAH,HAMZA,HEH,JEEM,KAF,KEHEH WITH THREE DOTS BELOW,KEHEH WITH TWO DOTS ABOVE,KHAH,LAM,MEEM",
    "NOON,QAF,REH,SAD,SEEN,SHEEN,TAH,TEH,TEH MARBUTA,THAL,THEH,WAW,WAW WITH HAMZA ABOVE,YEH",
    "YEH WITH HAMZA ABOVE,ZAH,ZAIN"]⟩,
  ⟨["HEBREW"], [
    "ACCENT ATNAH HAFUKH,ACCENT DARGA,ACCENT DEHI,ACCENT ETNAHTA,ACCENT GERESH,ACCENT GERESH MUQDAM",
    "ACCENT GERSHAYIM,ACCENT ILUY,ACCENT MAHAPAKH,ACCENT MERKHA,ACCENT MERKHA KEFULA,ACCENT MUNAH",
    "ACCENT OLE,ACCENT PASHTA,ACCENT PAZER,ACCENT QADMA,ACCENT QARNEY PARA,ACCENT REVIA,ACCENT SEGOL",
    "ACCENT SHALSHELET,ACCENT TELISHA GEDOLA,ACCENT TELISHA QETANA,ACCENT TEVIR,ACCENT TIPEHA",
    "ACCENT YERAH BEN YOMO,ACCENT YETIV,ACCENT ZAQEF GADOL,ACCENT ZAQEF QATAN,ACCENT ZARQA,ACCENT ZINOR",
    "LIGATURE ALEF LAMED,LIGATURE YIDDISH DOUBLE VAV,LIGATURE YIDDISH DOUBLE YOD",
    "LIGATURE YIDDISH VAV YOD,LIGATURE YIDDISH YOD YOD PATAH,MARK LOWER DOT,MARK MASORA CIRCLE",
    "MARK UPPER DOT,POINT DAGESH OR MAPIQ,POINT HATAF PATAH,POINT HATAF QAMATS,POINT HATAF SEGOL",
    "POINT HIRIQ,POINT HOLAM,POINT HOLAM HASER FOR VAV,POINT JUDEO-SPANISH VARIKA,POINT METEG",
    "POINT PATAH,POINT QAMATS,POINT QAMATS QATAN,POINT QUBUTS,POINT RAFE,POINT SEGOL,POINT SHEVA",
    "POINT SHIN DOT,POINT SIN DOT,POINT TSERE,PUNCTUATION GERESH,PUNCTUATION GERSHAYIM",
    "PUNCTUATION MAQAF,PUNCTUATION NUN HAFUKHA,PUNCTUATION PASEQ,PUNCTUATION SOF PASUQ,YOD TRIANGLE"]⟩,
  ⟨["COMBINING CYRILLIC"], [
    "DASIA PNEUMATA,HUNDRED MILLIONS SIGN,HUNDRED THOUSANDS SIGN,KAVYKA,LETTER EF,LETTER HARD SIGN",
    "LETTER I,LETTER IOTIFIED E,LETTER OMEGA,LETTER SOFT SIGN,LETTER U,LETTER UKRAINIAN IE,LETTER YERU",
    "LETTER YI,MILLIONS SIGN,PALATALIZATION,PAYEROK,POKRYTIE,PSILI PNEUMATA,TEN MILLIONS SIGN",
    "THOUSAND MILLIONS SIGN,TITLO,VZMET"]⟩,
  ⟨["GREEK"], [
    "ANO TELEIA,BETA SYMBOL,CAPITAL DOTTED LUNATE SIGMA SYMBOL,CAPITAL KAI SYMBOL",
    "CAPITAL LUNATE SIGMA SYMBOL,CAPITAL REVERSED DOTTED LUNATE SIGMA SYMBOL",
    "CAPITAL REVERSED LUNATE SIGMA SYMBOL,CAPITAL THETA SYMBOL,DASIA,DASIA AND OXIA",
    "DASIA AND PERISPOMENI,DASIA AND VARIA,DIALYTIKA AND OXIA,DIALYTIKA AND PERISPOMENI",
    "DIALYTIKA AND VARIA,DIALYTIKA TONOS,KAI SYMBOL,KAPPA SYMBOL,KORONIS,LETTER ARCHAIC KOPPA",
    "LETTER DIGAMMA,LETTER KOPPA,LETTER SAMPI,LETTER SMALL CAPITAL GAMMA,LETTER SMALL CAPITAL LAMDA",
    "LETTER SMALL CAPITAL OMEGA,LETTER SMALL CAPITAL PI,LETTER SMALL CAPITAL PSI",
    "LETTER SMALL CAPITAL RHO,LETTER STIGMA,LETTER YOT,LOWER NUMERAL SIGN,LUNATE EPSILON SYMBOL",
    "LUNATE SIGMA SYMBOL,NUMERAL SIGN,OXIA,PERISPOMENI,PHI SYMBOL,PI SYMBOL,PROSGEGRAMMENI,PSILI",
    "PSILI AND OXIA,PSILI AND PERISPOMENI,PSILI AND VARIA,QUESTION MARK,REVERSED LUNATE EPSILON SYMBOL",
    "RHO SYMBOL,RHO WITH STROKE SYMBOL,SMALL DOTTED LUNATE SIGMA SYMBOL",
    "SMALL REVERSED DOTTED LUNATE SIGMA SYMBOL,SMALL REVERSED LUNATE SIGMA SYMBOL",
    "SUBSCRIPT SMALL LETTER BETA,SUBSCRIPT SMALL LETTER CHI,SUBSCRIPT SMALL LETTER GAMMA",
    "SUBSCRIPT SMALL LETTER PHI,SUBSCRIPT SMALL LETTER RHO,THETA SYMBOL,TONOS",
    "UPSILON WITH ACUTE AND HOOK SYMBOL,UPSILON WITH DIAERESIS AND HOOK SYMBOL,UPSILON WITH HOOK SYMBOL",
    "VARIA,YPOGEGRAMMENI"]⟩,
  ⟨["LATIN"], [
    "CAPITAL LETTER AFRICAN D,CAPITAL LETTER D WITH SMALL LETTER Z",
    "CAPITAL LETTER D WITH SMALL LETTER Z WITH CARON,CAPITAL LETTER HWAIR",
    "CAPITAL LETTER I WITH DOT ABOVE,CAPITAL LETTER L WITH SMALL LETTER J",
    "CAPITAL LETTER N WITH SMALL LETTER J,CAPITAL LETTER O WITH MIDDLE TILDE",
    "CAPITAL LETTER SMALL CAPITAL I,CAPITAL LETTER SMALL Q WITH HOOK TAIL,CAPITAL LETTER WYNN",
    "CAPITAL LIGATURE IJ,CAPITAL LIGATURE OE,EPIGRAPHIC LETTER ARCHAIC M,EPIGRAPHIC LETTER I LONGA",
    "EPIGRAPHIC LETTER INVERTED M,EPIGRAPHIC LETTER REVERSED F,EPIGRAPHIC LETTER REVERSED P",
    "EPIGRAPHIC LETTER SIDEWAYS I,LETTER AIN,LETTER ALVEOLAR CLICK,LETTER BIDENTAL PERCUSSIVE",
    "LETTER BILABIAL CLICK,LETTER BILABIAL PERCUSSIVE,LETTER DENTAL CLICK,LETTER GLOTTAL STOP",
    "LETTER GLOTTAL STOP WITH STROKE,LETTER INVERTED GLOTTAL STOP",
    "LETTER INVERTED GLOTTAL STOP WITH STROKE,LETTER LATERAL CLICK,LETTER PHARYNGEAL VOICED FRICATIVE",
    "LETTER RETROFLEX CLICK,LETTER REVERSED ESH LOOP,LETTER REVERSED GLOTTAL STOP WITH STROKE",
    "LETTER SINOLOGICAL DOT,LETTER STRETCHED C,LETTER TWO WITH STROKE,LETTER VOICED LARYNGEAL SPIRANT",
    "LETTER WYNN,LETTER YR,SMALL CAPITAL LETTER I WITH STROKE,SMALL CAPITAL LETTER U WITH STROKE",
    "SMALL LIGATURE FF,SMALL LIGATURE FFI,SMALL LIGATURE FFL,SMALL LIGATURE FI,SMALL LIGATURE FL",
    "SMALL LIGATURE IJ,SMALL LIGATURE LONG S T,SMALL LIGATURE OE,SMALL LIGATURE ST",
    "SUBSCRIPT SMALL LETTER I,SUBSCRIPT SMALL LETTER J,SUBSCRIPT SMALL LETTER R",
    "SUBSCRIPT SMALL LETTER U,SUBSCRIPT SMALL LETTER V"]⟩,
  ⟨["CYRILLIC SMALL LETTER"], [
    "LONG-LEGGED DE,NARROW O,PALOCHKA,ROUNDED VE,TALL HARD SIGN,TALL TE,TALL YAT,THREE-LEGGED TE",
    "UNBLENDED UK,WIDE ES"]⟩,
  ⟨["ARABIC-INDIC DIGIT"], [
    "EIGHT,FIVE,FOUR,NINE,ONE,SEVEN,SIX,THREE,TWO,ZERO"]⟩,
  ⟨["FULLWIDTH DIGIT"], [
    "EIGHT,FIVE,FOUR,NINE,ONE,SEVEN,SIX,THREE,TWO,ZERO"]⟩,
  ⟨["COPTIC CAPITAL LETTER"], [
    "DEI,FEI,GANGIA,HORI,KHEI,SHEI,SHIMA"]⟩,
  ⟨[], [
    "ARABIC TATWEEL,ARMENIAN ABBREVIATION MARK,ARMENIAN APOSTROPHE,ARMENIAN COMMA,ARMENIAN DRAM SIGN",
    "ARMENIAN EMPHASIS MARK,ARMENIAN EXCLAMATION MARK,ARMENIAN FULL STOP,ARMENIAN HYPHEN",
    "ARMENIAN MODIFIER LETTER LEFT HALF RING,ARMENIAN QUESTION MARK,ARMENIAN SMALL LETTER TURNED AYB",
    "ARMENIAN SMALL LETTER YI WITH STROKE,ARMENIAN SMALL LIGATURE ECH YIWN",
    "COMBINING KATAKANA-HIRAGANA SEMI-VOICED SOUND MARK,COMBINING KATAKANA-HIRAGANA VOICED SOUND MARK",
    "COPTIC SMALL LETTER DEI,COPTIC SMALL LETTER FEI,COPTIC SMALL LETTER GANGIA",
    "COPTIC SMALL LETTER HORI,COPTIC SMALL LETTER KHEI,COPTIC SMALL LETTER SHEI",
    "COPTIC SMALL LETTER SHIMA,CYRILLIC CAPITAL LIGATURE A IE,CYRILLIC CAPITAL LIGATURE EN GHE",
    "CYRILLIC CAPITAL LIGATURE TE TSE,CYRILLIC KAVYKA,CYRILLIC LETTER MULTIOCULAR O",
    "CYRILLIC LETTER PALOCHKA,CYRILLIC LETTER SMALL CAPITAL EL,CYRILLIC PAYEROK",
    "CYRILLIC SMALL LIGATURE A IE,CYRILLIC SMALL LIGATURE EN GHE,CYRILLIC SMALL LIGATURE TE TSE",
    "CYRILLIC THOUSANDS SIGN,FEMININE ORDINAL INDICATOR,HALFWIDTH KATAKANA SEMI-VOICED SOUND MARK",
    "HALFWIDTH KATAKANA VOICED SOUND MARK,HALFWIDTH KATAKANA-HIRAGANA PROLONGED SOUND MARK",
    "HIRAGANA DIGRAPH YORI,HIRAGANA ITERATION MARK,HIRAGANA VOICED ITERATION MARK,KATAKANA DIGRAPH KOTO",
    "KATAKANA ITERATION MARK,KATAKANA LETTER VA,KATAKANA LETTER VE,KATAKANA LETTER VI",
    "KATAKANA LETTER VO,KATAKANA MIDDLE DOT,KATAKANA VOICED ITERATION MARK",
    "KATAKANA-HIRAGANA DOUBLE HYPHEN,KATAKANA-HIRAGANA PROLONGED SOUND MARK",
    "KATAKANA-HIRAGANA SEMI-VOICED SOUND MARK,KATAKANA-HIRAGANA VOICED SOUND MARK",
    "LEFT-FACING ARMENIAN ETERNITY SIGN,MASCULINE ORDINAL INDICATOR,MICRO SIGN",
    "MODIFIER BREVE WITH INVERTED BREVE,RIGHT-FACING ARMENIAN ETERNITY SIGN,SLAVONIC ASTERISK"]⟩]

end OperationClasses.Text
