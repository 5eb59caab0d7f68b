/-
Module: OperationClasses.Text.CharacterName.Pictographs
Purpose: The names of pictographs, emoticons and dingbats.
Main exports: pictographNames
-/
import OperationClasses.Text.CharacterName.Family

namespace OperationClasses.Text

/-- The names of pictographs, emoticons and dingbats. -/
def pictographNames : List NameFamily := [
  ⟨["BLACK", "WHITE"], [
    "CHESS BISHOP,CHESS KING,CHESS KNIGHT,CHESS PAWN,CHESS QUEEN,CHESS ROOK,CLUB SUIT,DIAMOND SUIT",
    "DOWN POINTING BACKHAND INDEX,DRAUGHTS KING,DRAUGHTS MAN,FLAG,FLORETTE,FOUR POINTED STAR",
    "HARD SHELL FLOPPY DISK,HEART,HEART SUIT,LEFT LANE MERGE,LEFT POINTING BACKHAND INDEX",
    "LEFT POINTING INDEX,NIB,PENNANT,QUESTION MARK ORNAMENT,RIGHT POINTING BACKHAND INDEX",
    "RIGHT POINTING INDEX,SCISSORS,SHOGI PIECE,SMILING FACE,SPADE SUIT,SQUARE BUTTON,STAR,SUN WITH RAYS",
    "TELEPHONE,TOUCHTONE TELEPHONE,TWO-WAY LEFT WAY TRAFFIC,UP POINTING BACKHAND INDEX"]⟩,
  ⟨["REGIONAL INDICATOR SYMBOL LETTER"], [
    "A,B,C,D,E,F,G,H,I,J,K,L,M,N,O,P,Q,R,S,T,U,V,W,X,Y,Z"]⟩,
  ⟨["DINGBAT NEGATIVE CIRCLED"], [
    "DIGIT EIGHT,DIGIT FIVE,DIGIT FOUR,DIGIT NINE,DIGIT ONE,DIGIT SEVEN,DIGIT SIX,DIGIT THREE,DIGIT TWO",
    "NUMBER TEN,SANS-SERIF DIGIT EIGHT,SANS-SERIF DIGIT FIVE,SANS-SERIF DIGIT FOUR",
    "SANS-SERIF DIGIT NINE,SANS-SERIF DIGIT ONE,SANS-SERIF DIGIT SEVEN,SANS-SERIF DIGIT SIX",
    "SANS-SERIF DIGIT THREE,SANS-SERIF DIGIT TWO,SANS-SERIF NUMBER TEN"]⟩,
  ⟨["HEAVY"], [
    "ASTERISK,BALLOT X,BLACK CURVED DOWNWARDS AND RIGHTWARDS ARROW",
    "BLACK CURVED UPWARDS AND RIGHTWARDS ARROW,BLACK HEART,BLACK-FEATHERED NORTH EAST ARROW",
    "BLACK-FEATHERED RIGHTWARDS ARROW,BLACK-FEATHERED SOUTH EAST ARROW,CHECK MARK,CHEVRON SNOWFLAKE",
    "CIRCLE WITH STROKE AND TWO DOTS ABOVE,CONCAVE-POINTED BLACK RIGHTWARDS ARROW",
    "DASHED TRIANGLE-HEADED RIGHTWARDS ARROW,DIVISION SIGN,DOLLAR SIGN",
    "DOUBLE COMMA QUOTATION MARK ORNAMENT,DOUBLE TURNED COMMA QUOTATION MARK ORNAMENT",
    "EIGHT POINTED RECTILINEAR BLACK STAR,EIGHT TEARDROP-SPOKED PROPELLER ASTERISK",
    "EXCLAMATION MARK ORNAMENT,EXCLAMATION MARK SYMBOL,FOUR BALLOON-SPOKED ASTERISK,GREEK CROSS",
    "HEART EXCLAMATION MARK ORNAMENT,LATIN CROSS,LEFT-POINTING ANGLE BRACKET ORNAMENT",
    "LEFT-POINTING ANGLE QUOTATION MARK ORNAMENT,LOW DOUBLE COMMA QUOTATION MARK ORNAMENT",
    "LOW SINGLE COMMA QUOTATION MARK ORNAMENT,LOWER RIGHT-SHADOWED WHITE RIGHTWARDS ARROW,MINUS SIGN",
    "MULTIPLICATION X,NORTH EAST ARROW,OPEN CENTRE CROSS,OUTLINED BLACK STAR,PLUS SIGN",
    "RIGHT-POINTING ANGLE BRACKET ORNAMENT,RIGHT-POINTING ANGLE QUOTATION MARK ORNAMENT",
    "RIGHTWARDS ARROW,ROUND-TIPPED RIGHTWARDS ARROW,SINGLE COMMA QUOTATION MARK ORNAMENT",
    "SINGLE TURNED COMMA QUOTATION MARK ORNAMENT,SOUTH EAST ARROW,SPARKLE",
    "TEARDROP-SHANKED RIGHTWARDS ARROW,TEARDROP-SPOKED ASTERISK,TEARDROP-SPOKED PINWHEEL ASTERISK",
    "TRIANGLE-HEADED RIGHTWARDS ARROW,UPPER RIGHT-SHADOWED WHITE RIGHTWARDS ARROW,VERTICAL BAR",
    "WEDGE-TAILED RIGHTWARDS ARROW,WHITE DOWN-POINTING TRIANGLE,WIDE-HEADED RIGHTWARDS ARROW"]⟩,
  ⟨["DINGBAT CIRCLED SANS-SERIF DIGIT"], [
    "EIGHT,FIVE,FOUR,NINE,ONE,SEVEN,SIX,THREE,TWO"]⟩,
  ⟨["CLOCK FACE"], [
    "EIGHT OCLOCK,EIGHT-THIRTY,ELEVEN OCLOCK,ELEVEN-THIRTY,FIVE OCLOCK,FIVE-THIRTY,FOUR OCLOCK",
    "FOUR-THIRTY,NINE OCLOCK,NINE-THIRTY,ONE OCLOCK,ONE-THIRTY,SEVEN OCLOCK,SEVEN-THIRTY,SIX OCLOCK",
    "SIX-THIRTY,TEN OCLOCK,TEN-THIRTY,THREE OCLOCK,THREE-THIRTY,TWELVE OCLOCK,TWELVE-THIRTY,TWO OCLOCK",
    "TWO-THIRTY"]⟩,
  ⟨["FACE WITH"], [
    "COLD SWEAT,COWBOY HAT,DIAGONAL MOUTH,FINGER COVERING CLOSED LIPS,HEAD-BANDAGE,LOOK OF TRIUMPH",
    "MEDICAL MASK,MONOCLE,NO GOOD GESTURE,OK GESTURE,ONE EYEBROW RAISED,OPEN EYES AND HAND OVER MOUTH",
    "OPEN MOUTH,OPEN MOUTH AND COLD SWEAT,OPEN MOUTH VOMITING,PARTY HORN AND PARTY HAT,PEEKING EYE",
    "PLEADING EYES,ROLLING EYES,STUCK-OUT TONGUE,STUCK-OUT TONGUE AND TIGHTLY-CLOSED EYES",
    "STUCK-OUT TONGUE AND WINKING EYE,TEARS OF JOY,THERMOMETER,UNEVEN EYES AND WAVY MOUTH"]⟩,
  ⟨["SMILING FACE WITH"], [
    "HALO,HEART-SHAPED EYES,HORNS,OPEN MOUTH,OPEN MOUTH AND COLD SWEAT,OPEN MOUTH AND SMILING EYES",
    "OPEN MOUTH AND TIGHTLY-CLOSED EYES,SMILING EYES,SMILING EYES AND HAND COVERING MOUTH",
    "SMILING EYES AND THREE HEARTS,SUNGLASSES,TEAR"]⟩,
  ⟨["RECYCLING SYMBOL FOR"], [
    "GENERIC MATERIALS,TYPE-1 PLASTICS,TYPE-2 PLASTICS,TYPE-3 PLASTICS,TYPE-4 PLASTICS,TYPE-5 PLASTICS",
    "TYPE-6 PLASTICS,TYPE-7 PLASTICS"]⟩,
  ⟨[], [
    "ABACUS,ACCORDION,ADHESIVE BANDAGE,ADI SHAKTI,ADMISSION TICKETS,ADULT,AERIAL TRAMWAY,AIRPLANE",
    "AIRPLANE ARRIVING,AIRPLANE DEPARTURE,ALEMBIC,ALIEN MONSTER,ALTERNATE ONE-WAY LEFT WAY TRAFFIC",
    "AMBULANCE,AMERICAN FOOTBALL,AMPHORA,ANATOMICAL HEART,ANCHOR,ANGER SYMBOL,ANGRY FACE,ANGUISHED FACE",
    "ANKH,ANT,ANTENNA WITH BARS,ANTICLOCKWISE DOWNWARDS AND UPWARDS OPEN CIRCLE ARROWS,AQUARIUS,ARIES",
    "ARTICULATED LORRY,ARTIST PALETTE,ASCENDING NODE,ASTONISHED FACE,ASTRONOMICAL SYMBOL FOR URANUS",
    "ATHLETIC SHOE,ATOM SYMBOL,AUBERGINE,AUTO RICKSHAW,AUTOMATED TELLER MACHINE,AUTOMOBILE,AVOCADO,AXE",
    "BABY,BABY ANGEL,BABY BOTTLE,BABY CHICK,BABY SYMBOL,BACK OF ENVELOPE",
    "BACK WITH LEFTWARDS ARROW ABOVE,BACK-TILTED SHADOWED WHITE RIGHTWARDS ARROW,BACON,BACTRIAN CAMEL",
    "BADGER,BADMINTON RACQUET AND SHUTTLECOCK,BAGEL,BAGGAGE CLAIM,BAGUETTE BREAD,BALL OF YARN",
    "BALLET SHOES,BALLOON,BALLOON-SPOKED ASTERISK,BALLOT BOLD SCRIPT X,BALLOT BOX",
    "BALLOT BOX WITH BALLOT,BALLOT BOX WITH BOLD CHECK,BALLOT BOX WITH BOLD SCRIPT X",
    "BALLOT BOX WITH CHECK,BALLOT BOX WITH SCRIPT X,BALLOT BOX WITH X,BALLOT SCRIPT X,BALLOT X,BANANA",
    "BANJO,BANK,BANKNOTE WITH DOLLAR SIGN,BANKNOTE WITH EURO SIGN,BANKNOTE WITH POUND SIGN",
    "BANKNOTE WITH YEN SIGN,BAR CHART,BAR OF SOAP,BARBER POLE,BASEBALL,BASKET,BASKETBALL AND HOOP,BAT",
    "BATH,BATHTUB,BATTERY,BEACH WITH UMBRELLA,BEAMED ASCENDING MUSICAL NOTES",
    "BEAMED DESCENDING MUSICAL NOTES,BEAMED EIGHTH NOTES,BEAMED SIXTEENTH NOTES,BEANS,BEAR FACE",
    "BEARDED PERSON,BEATING HEART,BEAVER,BED,BEER MUG,BEETLE,BELL,BELL PEPPER",
    "BELL WITH CANCELLATION STROKE,BELLHOP BELL,BENTO BOX,BEVERAGE BOX,BICYCLE,BICYCLIST,BIKINI",
    "BILLED CAP,BILLIARDS,BIOHAZARD SIGN,BIRD,BIRTHDAY CAKE,BISON,BITING LIP,BLACK CENTRE WHITE STAR",
    "BLACK CIRCLE WITH TWO WHITE DOTS,BLACK CIRCLE WITH WHITE DOT RIGHT,BLACK CROSS ON SHIELD",
    "BLACK DIAMOND MINUS WHITE X,BLACK DROPLET,BLACK FOLDER,BLACK MOON LILITH,BLACK PUSHPIN",
    "BLACK RIGHTWARDS ARROW,BLACK RIGHTWARDS ARROWHEAD,BLACK ROSETTE,BLACK SAFETY SCISSORS",
    "BLACK SKULL AND CROSSBONES,BLACK SNOWMAN,BLACK TRUCK,BLACK UNIVERSAL RECYCLING SYMBOL",
    "BLACK-FEATHERED NORTH EAST ARROW,BLACK-FEATHERED RIGHTWARDS ARROW,BLACK-FEATHERED SOUTH EAST ARROW",
    "BLOSSOM,BLOWFISH,BLUE BOOK,BLUE HEART,BLUEBERRIES,BOAR,BOMB,BONE,BOOK,BOOKMARK,BOOKMARK TABS,BOOKS",
    "BOOMERANG,BOTTLE WITH POPPING CORK,BOUQUET,BOUQUET OF FLOWERS,BOW AND ARROW,BOWL OF HYGIEIA",
    "BOWL WITH SPOON,BOWLING,BOXING GLOVE,BOY,BOYS SYMBOL,BRAIN,BREAD,BREAST-FEEDING,BRICK",
    "BRIDE WITH VEIL,BRIDGE AT NIGHT,BRIEFCASE,BRIEFS,BROCCOLI,BROKEN HEART,BROOM,BROWN HEART",
    "BUBBLE TEA,BUBBLES,BUCKET,BUG,BUILDING CONSTRUCTION,BULLHORN,BULLHORN WITH SOUND WAVES,BURRITO,BUS",
    "BUS STOP,BUST IN SILHOUETTE,BUSTS IN SILHOUETTE,BUTTER,BUTTERFLY,CACTUS,CADUCEUS,CALENDAR",
    "CALL ME HAND,CAMERA,CAMERA WITH FLASH,CAMPING,CANCELLATION X,CANCER,CANDLE,CANDY,CANNED FOOD,CANOE",
    "CAPRICORN,CAR SLIDING,CARD FILE BOX,CARD INDEX,CARD INDEX DIVIDERS,CAROUSEL HORSE,CARP STREAMER",
    "CARPENTRY SAW,CARROT,CASTLE,CAT,CAT FACE,CAT FACE WITH TEARS OF JOY,CAT FACE WITH WRY SMILE",
    "CAUTION SIGN,CELTIC CROSS,CERES,CHAINS,CHAIR,CHART WITH DOWNWARDS TREND,CHART WITH UPWARDS TREND",
    "CHART WITH UPWARDS TREND AND YEN SIGN,CHECK MARK,CHEERING MEGAPHONE,CHEESE WEDGE,CHEQUERED FLAG",
    "CHERRIES,CHERRY BLOSSOM,CHESTNUT,CHI RHO,CHICKEN,CHILD,CHILDREN CROSSING,CHIPMUNK,CHIRON",
    "CHOCOLATE BAR,CHOPSTICKS,CHRISTMAS TREE,CHURCH,CINEMA,CIRCLED CROSS FORMEE",
    "CIRCLED CROSS FORMEE WITH FOUR DOTS,CIRCLED CROSS FORMEE WITH TWO DOTS,CIRCLED CROSS POMMEE",
    "CIRCLED CROSSING LANES,CIRCLED HEAVY WHITE RIGHTWARDS ARROW,CIRCLED INFORMATION SOURCE",
    "CIRCLED OPEN CENTRE EIGHT POINTED STAR,CIRCLED WHITE STAR,CIRCUS TENT,CITYSCAPE,CITYSCAPE AT DUSK",
    "CLAMSHELL MOBILE PHONE,CLAPPER BOARD,CLAPPING HANDS SIGN,CLASSICAL BUILDING,CLINKING BEER MUGS",
    "CLINKING GLASSES,CLIPBOARD,CLOCKWISE DOWNWARDS AND UPWARDS OPEN CIRCLE ARROWS",
    "CLOCKWISE RIGHT AND LEFT SEMICIRCLE ARROWS,CLOCKWISE RIGHTWARDS AND LEFTWARDS OPEN CIRCLE ARROWS",
    "CLOCKWISE RIGHTWARDS AND LEFTWARDS OPEN CIRCLE ARROWS WITH CIRCLED ONE OVERLAY,CLOSED BOOK",
    "CLOSED LOCK WITH KEY,CLOSED MAILBOX WITH LOWERED FLAG,CLOSED MAILBOX WITH RAISED FLAG",
    "CLOSED UMBRELLA,CLOUD,CLOUD WITH LIGHTNING,CLOUD WITH RAIN,CLOUD WITH SNOW,CLOUD WITH TORNADO",
    "CLOWN FACE,COAT,COCKROACH,COCKTAIL GLASS,COCONUT,COFFIN,COIN,COLLISION SYMBOL,COMET,COMPASS",
    "COMPRESSION,CONFETTI BALL,CONFOUNDED FACE,CONFUSED FACE,CONJUNCTION,CONSTRUCTION SIGN",
    "CONSTRUCTION WORKER,CONTROL KNOBS,CONVENIENCE STORE,COOKED RICE,COOKIE,COOKING,CORAL",
    "COUCH AND LAMP,COUPLE WITH HEART,COW,COW FACE,CRAB,CREDIT CARD,CRESCENT MOON,CRICKET",
    "CRICKET BAT AND BALL,CROCODILE,CROISSANT,CROSS MARK,CROSS OF JERUSALEM,CROSS OF LORRAINE",
    "CROSS POMMEE,CROSS POMMEE WITH HALF-CIRCLE BELOW,CROSSED FLAGS,CROSSED SWORDS,CROSSING LANES,CROWN",
    "CRUTCH,CRYING CAT FACE,CRYING FACE,CRYSTAL BALL,CUCUMBER,CUP ON BLACK SQUARE,CUP WITH STRAW",
    "CUPCAKE,CURLING STONE,CURLY LOOP,CURRENCY EXCHANGE,CURRY AND RICE",
    "CURVED STEM PARAGRAPH SIGN ORNAMENT,CUSTARD,CUSTOMS,CUT OF MEAT,CYCLONE,DAGGER KNIFE,DANCER,DANGO",
    "DARK SUNGLASSES,DASH SYMBOL,DASHED TRIANGLE-HEADED RIGHTWARDS ARROW,DEAF PERSON,DECIDUOUS TREE",
    "DECREASE FONT SIZE SYMBOL,DEER,DELIVERY TRUCK,DEPARTMENT STORE,DERELICT HOUSE BUILDING",
    "DESCENDING NODE,DESERT,DESERT ISLAND,DESKTOP COMPUTER,DESKTOP WINDOW",
    "DIAMOND SHAPE WITH A DOT INSIDE,DIE FACE-1,DIE FACE-2,DIE FACE-3,DIE FACE-4,DIE FACE-5,DIE FACE-6",
    "DIESEL LOCOMOTIVE,DIGRAM FOR GREATER YANG,DIGRAM FOR GREATER YIN,DIGRAM FOR LESSER YANG",
    "DIGRAM FOR LESSER YIN,DINGBAT CIRCLED SANS-SERIF NUMBER TEN,DIRECT HIT,DISABLED CAR",
    "DISAPPOINTED BUT RELIEVED FACE,DISAPPOINTED FACE,DISGUISED FACE,DIVING MASK,DIVORCE SYMBOL",
    "DIYA LAMP,DIZZY FACE,DIZZY SYMBOL,DNA DOUBLE HELIX,DO NOT LITTER SYMBOL,DOCUMENT",
    "DOCUMENT WITH PICTURE,DOCUMENT WITH TEXT,DOCUMENT WITH TEXT AND PICTURE,DODO,DOG,DOG FACE,DOLPHIN",
    "DOOR,DOTTED LINE FACE,DOUBLE CURLY LOOP,DOUBLED FEMALE SIGN,DOUBLED MALE SIGN,DOUGHNUT",
    "DOVE OF PEACE,DOWN-POINTING RED TRIANGLE,DOWN-POINTING SMALL RED TRIANGLE,DOWNWARD FACING HOOK",
    "DOWNWARD FACING HOOK WITH DOT,DOWNWARD FACING NOTCHED HOOK,DOWNWARD FACING NOTCHED HOOK WITH DOT",
    "DRAFTING POINT RIGHTWARDS ARROW,DRAGON,DRAGON FACE,DRESS,DRIVE SLOW SIGN,DROMEDARY CAMEL",
    "DROOLING FACE,DROP OF BLOOD,DROPLET,DRUM WITH DRUMSTICKS,DUCK,DUMPLING,DVD,E-MAIL SYMBOL,EAGLE,EAR",
    "EAR OF MAIZE,EAR OF RICE,EAR WITH HEARING AID,EARTH,EARTH GLOBE AMERICAS",
    "EARTH GLOBE ASIA-AUSTRALIA,EARTH GLOBE EUROPE-AFRICA,EAST SYRIAC CROSS,EGG",
    "EIGHT PETALLED OUTLINED BLACK FLORETTE,EIGHT POINTED BLACK STAR,EIGHT POINTED PINWHEEL STAR",
    "EIGHT POINTED RECTILINEAR BLACK STAR,EIGHT SPOKED ASTERISK",
    "EIGHT TEARDROP-SPOKED PROPELLER ASTERISK,EIGHTH NOTE,ELECTRIC LIGHT BULB,ELECTRIC PLUG",
    "ELECTRIC TORCH,ELEPHANT,ELEVATOR,ELF,EMOJI COMPONENT BALD,EMOJI COMPONENT CURLY HAIR",
    "EMOJI COMPONENT RED HAIR,EMOJI COMPONENT WHITE HAIR,EMOJI MODIFIER FITZPATRICK TYPE-1-2",
    "EMOJI MODIFIER FITZPATRICK TYPE-3,EMOJI MODIFIER FITZPATRICK TYPE-4",
    "EMOJI MODIFIER FITZPATRICK TYPE-5,EMOJI MODIFIER FITZPATRICK TYPE-6,EMPTY DOCUMENT,EMPTY NEST",
    "EMPTY NOTE,EMPTY NOTE PAD,EMPTY NOTE PAGE,EMPTY PAGE,EMPTY PAGES,END WITH LEFTWARDS ARROW ABOVE",
    "ENVELOPE,ENVELOPE WITH DOWNWARDS ARROW ABOVE,ENVELOPE WITH LIGHTNING,EUROPEAN CASTLE",
    "EUROPEAN POST OFFICE,EVERGREEN TREE,EXPRESSIONLESS FACE,EXTRATERRESTRIAL ALIEN,EYE,EYEGLASSES,EYES",
    "FACE HOLDING BACK TEARS,FACE MASSAGE,FACE PALM,FACE SAVOURING DELICIOUS FOOD",
    "FACE SCREAMING IN FEAR,FACE THROWING A KISS,FACE WITHOUT MOUTH,FACTORY,FAIRY,FALAFEL,FALLEN LEAF",
    "FALLING DIAGONAL IN WHITE CIRCLE IN BLACK SQUARE,FAMILY,FARSI SYMBOL,FATHER CHRISTMAS,FAX ICON",
    "FAX MACHINE,FEARFUL FACE,FEATHER,FEMALE SIGN,FENCER,FERRIS WHEEL,FERRY,FIELD HOCKEY STICK AND BALL",
    "FILE CABINET,FILE FOLDER,FILM FRAMES,FILM PROJECTOR,FIRE,FIRE ENGINE,FIRE EXTINGUISHER,FIRECRACKER",
    "FIREWORK SPARKLER,FIREWORKS,FIRST PLACE MEDAL,FIRST QUARTER MOON,FIRST QUARTER MOON SYMBOL",
    "FIRST QUARTER MOON WITH FACE,FISH,FISH CAKE WITH SWIRL DESIGN,FISHING POLE AND FISH",
    "FISTED HAND SIGN,FLAG IN HOLE,FLAMINGO,FLAT SHOE,FLATBREAD,FLEUR-DE-LIS,FLEXED BICEPS,FLOPPY DISK",
    "FLORAL HEART,FLOWER,FLOWER PLAYING CARDS,FLUSHED FACE,FLY,FLYING DISC,FLYING ENVELOPE",
    "FLYING SAUCER,FOG,FOGGY,FOLDER,FONDUE,FOOT,FOOTPRINTS,FORK AND KNIFE,FORK AND KNIFE WITH PLATE",
    "FORTUNE COOKIE,FOUNTAIN,FOUR BALLOON-SPOKED ASTERISK,FOUR CLUB-SPOKED ASTERISK,FOUR LEAF CLOVER",
    "FOUR TEARDROP-SPOKED ASTERISK,FOX FACE,FRAME WITH AN X,FRAME WITH PICTURE,FRAME WITH TILES",
    "FREEZING FACE,FRENCH FRIES,FRIED SHRIMP,FROG FACE,FRONT-FACING BABY CHICK",
    "FRONT-TILTED SHADOWED WHITE RIGHTWARDS ARROW,FROWNING FACE WITH OPEN MOUTH,FUEL PUMP",
    "FULL MOON SYMBOL,FULL MOON WITH FACE,FUNERAL URN,GAME DIE,GARLIC,GEAR,GEAR WITH HANDLES",
    "GEAR WITHOUT HUB,GEM STONE,GEMINI,GENIE,GHOST,GIRAFFE FACE,GIRL,GIRLS SYMBOL,GLASS OF MILK",
    "GLOBE WITH MERIDIANS,GLOVES,GLOWING STAR,GOAL NET,GOAT,GOGGLES,GOLFER,GORILLA,GRADUATION CAP",
    "GRAPES,GREEN APPLE,GREEN BOOK,GREEN HEART,GREEN SALAD,GRIMACING FACE",
    "GRINNING CAT FACE WITH SMILING EYES,GRINNING FACE,GRINNING FACE WITH ONE LARGE AND ONE SMALL EYE",
    "GRINNING FACE WITH SMILING EYES,GRINNING FACE WITH STAR EYES,GROWING HEART,GUARDSMAN,GUIDE DOG",
    "GUITAR,HAIRCUT,HAMBURGER,HAMMER,HAMMER AND PICK,HAMMER AND SICKLE,HAMMER AND WRENCH,HAMSA",
    "HAMSTER FACE,HAND WITH INDEX AND MIDDLE FINGERS CROSSED,HAND WITH INDEX FINGER AND THUMB CROSSED",
    "HANDBAG,HANDBALL,HANDSHAKE,HAPPY PERSON RAISING ONE HAND,HARD DISK,HATCHING CHICK,HEADPHONE",
    "HEADSTONE,HEADSTONE GRAVEYARD SYMBOL,HEAR-NO-EVIL MONKEY,HEART DECORATION,HEART HANDS",
    "HEART WITH ARROW,HEART WITH RIBBON,HEART WITH TIP ON THE LEFT,HEDGEHOG,HELICOPTER",
    "HELMET WITH WHITE CROSS,HERB,HIBISCUS,HIGH BRIGHTNESS SYMBOL,HIGH VOLTAGE SIGN,HIGH-HEELED SHOE",
    "HIGH-SPEED TRAIN,HIGH-SPEED TRAIN WITH BULLET NOSE,HIKING BOOT,HINDU TEMPLE,HIPPOPOTAMUS",
    "HISTORIC SITE,HOCHO,HOLE,HONEY POT,HONEYBEE,HOOK,HORIZONTAL MALE WITH STROKE SIGN",
    "HORIZONTAL TRAFFIC LIGHT,HORSE,HORSE FACE,HORSE RACING,HOSPITAL,HOT BEVERAGE,HOT DOG,HOT PEPPER",
    "HOT SPRINGS,HOTEL,HOUSE BUILDING,HOUSE BUILDINGS,HOUSE WITH GARDEN,HUGGING FACE",
    "HUNDRED POINTS SYMBOL,HUSHED FACE,HUT,I LOVE YOU HAND SIGN,ICE CREAM,ICE CUBE",
    "ICE HOCKEY STICK AND PUCK,ICE SKATE,IDENTIFICATION CARD,IMP,INBOX TRAY,INCOMING ENVELOPE",
    "INCREASE FONT SIZE SYMBOL,INDEX POINTING AT THE VIEWER,INFORMATION DESK PERSON",
    "INPUT SYMBOL FOR LATIN CAPITAL LETTERS,INPUT SYMBOL FOR LATIN LETTERS",
    "INPUT SYMBOL FOR LATIN SMALL LETTERS,INPUT SYMBOL FOR NUMBERS,INPUT SYMBOL FOR SYMBOLS",
    "INTERLOCKED FEMALE AND MALE SIGN,INVERTED PENTAGRAM,IZAKAYA LANTERN,JACK-O-LANTERN",
    "JAPANESE BANK SYMBOL,JAPANESE CASTLE,JAPANESE DOLLS,JAPANESE GOBLIN,JAPANESE OGRE",
    "JAPANESE POST OFFICE,JAPANESE SYMBOL FOR BEGINNER,JAR,JEANS,JIGSAW PUZZLE PIECE,JOYSTICK,JUGGLING",
    "JUNO,JUPITER,KAABA,KANGAROO,KEY,KEYBOARD AND MOUSE,KEYCAP TEN,KIMONO,KISS,KISS MARK",
    "KISSING CAT FACE WITH CLOSED EYES,KISSING FACE,KISSING FACE WITH CLOSED EYES",
    "KISSING FACE WITH SMILING EYES,KITE,KIWIFRUIT,KNEELING PERSON,KNOT,KOALA,LAB COAT,LABEL",
    "LACROSSE STICK AND BALL,LADDER,LADY BEETLE,LARGE BLUE CIRCLE,LARGE BLUE DIAMOND",
    "LARGE ORANGE DIAMOND,LARGE RED CIRCLE,LAST QUARTER MOON,LAST QUARTER MOON SYMBOL",
    "LAST QUARTER MOON WITH FACE,LATIN CROSS,LEAF FLUTTERING IN WIND,LEAFY GREEN,LEDGER",
    "LEFT ANGER BUBBLE,LEFT CLOSED ENTRY,LEFT HALF CIRCLE,LEFT HALF CIRCLE WITH DOT",
    "LEFT HALF CIRCLE WITH FOUR DOTS,LEFT HALF CIRCLE WITH THREE DOTS,LEFT HALF CIRCLE WITH TWO DOTS",
    "LEFT HAND TELEPHONE RECEIVER,LEFT LUGGAGE,LEFT SPEECH BUBBLE,LEFT THOUGHT BUBBLE,LEFT WRITING HAND",
    "LEFT-FACING FIST,LEFT-HANDED INTERLACED PENTAGRAM,LEFT-POINTING MAGNIFYING GLASS",
    "LEFT-SHADED WHITE RIGHTWARDS ARROW,LEFTWARDS HAND,LEG,LEMON,LEO,LEOPARD,LEVEL SLIDER,LIBRA",
    "LIGHT CHECK MARK,LIGHT LEFT TORTOISE SHELL BRACKET ORNAMENT,LIGHT RAIL",
    "LIGHT RIGHT TORTOISE SHELL BRACKET ORNAMENT,LIGHT VERTICAL BAR,LIGHTNING,LIGHTNING MOOD",
    "LIGHTNING MOOD BUBBLE,LINK SYMBOL,LINKED PAPERCLIPS,LION FACE,LIPS,LIPSTICK,LIZARD,LLAMA,LOBSTER",
    "LOCK,LOCK WITH INK PEN,LOLLIPOP,LONG DRUM,LOTION BOTTLE,LOTUS,LOUDLY CRYING FACE,LOVE HOTEL",
    "LOVE LETTER,LOW BATTERY,LOW BRIGHTNESS SYMBOL,LOWER BLADE SCISSORS,LOWER LEFT BALLPOINT PEN",
    "LOWER LEFT CRAYON,LOWER LEFT FOUNTAIN PEN,LOWER LEFT PAINTBRUSH,LOWER LEFT PENCIL",
    "LOWER RIGHT DROP-SHADOWED WHITE SQUARE,LOWER RIGHT PENCIL,LOWER RIGHT SHADOWED WHITE CIRCLE",
    "LOWER RIGHT SHADOWED WHITE SQUARE,LUGGAGE,LUNGS,LYING FACE,MAGE,MAGIC WAND,MAGNET",
    "MALE AND FEMALE SIGN,MALE SIGN,MALE WITH STROKE AND MALE AND FEMALE SIGN,MALE WITH STROKE SIGN",
    "MALTESE CROSS,MAMMOTH,MAN,MAN AND WOMAN HOLDING HANDS,MAN DANCING,MAN IN BUSINESS SUIT LEVITATING",
    "MAN IN TUXEDO,MAN WITH GUA PI MAO,MAN WITH TURBAN,MANGO,MANS SHOE,MANTELPIECE CLOCK",
    "MANUAL WHEELCHAIR,MAP SYMBOL FOR LIGHTHOUSE,MAPLE LEAF,MARRIAGE SYMBOL,MARTIAL ARTS UNIFORM",
    "MATE DRINK,MAXIMIZE,MEAT ON BONE,MECHANICAL ARM,MECHANICAL LEG,MEDIUM BLACK CIRCLE",
    "MEDIUM FLATTENED LEFT PARENTHESIS ORNAMENT,MEDIUM FLATTENED RIGHT PARENTHESIS ORNAMENT",
    "MEDIUM LEFT CURLY BRACKET ORNAMENT,MEDIUM LEFT PARENTHESIS ORNAMENT",
    "MEDIUM LEFT-POINTING ANGLE BRACKET ORNAMENT,MEDIUM RIGHT CURLY BRACKET ORNAMENT",
    "MEDIUM RIGHT PARENTHESIS ORNAMENT,MEDIUM RIGHT-POINTING ANGLE BRACKET ORNAMENT",
    "MEDIUM SMALL WHITE CIRCLE,MEDIUM VERTICAL BAR,MEDIUM WHITE CIRCLE,MELON,MELTING FACE,MEMO",
    "MENORAH WITH NINE BRANCHES,MENS SYMBOL,MERCURY,MERPERSON,METRO,MICROBE,MICROPHONE,MICROSCOPE",
    "MILITARY HELMET,MILITARY MEDAL,MILKY WAY,MINIBUS,MINIDISC,MINIMIZE,MIRROR,MIRROR BALL,MOBILE PHONE",
    "MOBILE PHONE OFF,MOBILE PHONE WITH RIGHTWARDS ARROW AT LEFT,MODERN PENTATHLON,MONEY BAG",
    "MONEY WITH WINGS,MONEY-MOUTH FACE,MONKEY,MONKEY FACE,MONOGRAM FOR YANG,MONOGRAM FOR YIN,MONORAIL",
    "MOOD BUBBLE,MOON CAKE,MOON VIEWING CEREMONY,MOSQUE,MOSQUITO,MOTHER CHRISTMAS,MOTOR BOAT",
    "MOTOR SCOOTER,MOTORIZED WHEELCHAIR,MOTORWAY,MOUNT FUJI,MOUNTAIN,MOUNTAIN BICYCLIST",
    "MOUNTAIN CABLEWAY,MOUNTAIN RAILWAY,MOUSE,MOUSE FACE,MOUSE TRAP,MOUTH,MOVIE CAMERA,MOYAI",
    "MULTIPLE MUSICAL NOTES,MULTIPLICATION X,MUSHROOM,MUSIC FLAT SIGN,MUSIC NATURAL SIGN",
    "MUSIC SHARP SIGN,MUSICAL KEYBOARD,MUSICAL KEYBOARD WITH JACKS,MUSICAL NOTE,MUSICAL SCORE",
    "NAIL POLISH,NAME BADGE,NATIONAL PARK,NAUSEATED FACE,NAZAR AMULET,NECKTIE",
    "NEGATIVE SQUARED CROSS MARK,NEPTUNE,NERD FACE,NEST WITH EGGS,NESTING DOLLS,NEUTER,NEUTRAL FACE",
    "NEW MOON SYMBOL,NEW MOON WITH FACE,NEWSPAPER,NIGHT WITH STARS,NINJA,NO BICYCLES,NO ENTRY",
    "NO ENTRY SIGN,NO MOBILE PHONES,NO ONE UNDER EIGHTEEN SYMBOL,NO PEDESTRIANS,NO PIRACY",
    "NO SMOKING SYMBOL,NON-POTABLE WATER SYMBOL,NORTHEAST-POINTING AIRPLANE,NOSE",
    "NOTCHED LEFT SEMICIRCLE WITH THREE DOTS,NOTCHED LOWER RIGHT-SHADOWED WHITE RIGHTWARDS ARROW",
    "NOTCHED RIGHT SEMICIRCLE WITH THREE DOTS,NOTCHED UPPER RIGHT-SHADOWED WHITE RIGHTWARDS ARROW,NOTE",
    "NOTE PAD,NOTE PAGE,NOTEBOOK,NOTEBOOK WITH DECORATIVE COVER,NUT AND BOLT,OCTAGONAL SIGN,OCTOPUS",
    "ODEN,OFFICE BUILDING,OIL DRUM,OK HAND SIGN,OLD KEY,OLD PERSONAL COMPUTER,OLDER ADULT,OLDER MAN",
    "OLDER WOMAN,OLIVE,OM SYMBOL,ON WITH EXCLAMATION MARK WITH LEFT RIGHT ARROW ABOVE",
    "ONCOMING AUTOMOBILE,ONCOMING BUS,ONCOMING FIRE ENGINE,ONCOMING POLICE CAR,ONCOMING TAXI",
    "ONE BUTTON MOUSE,ONE-PIECE SWIMSUIT,ONION,OPEN BOOK,OPEN CENTRE ASTERISK,OPEN CENTRE BLACK STAR",
    "OPEN CENTRE CROSS,OPEN CENTRE TEARDROP-SPOKED ASTERISK,OPEN FILE FOLDER,OPEN FOLDER",
    "OPEN HANDS SIGN,OPEN LOCK,OPEN MAILBOX WITH LOWERED FLAG,OPEN MAILBOX WITH RAISED FLAG",
    "OPEN-OUTLINED RIGHTWARDS ARROW,OPHIUCHUS,OPPOSITION,OPTICAL DISC,OPTICAL DISC ICON,ORANGE BOOK",
    "ORANGE HEART,ORANGUTAN,ORTHODOX CROSS,OTTER,OUTBOX TRAY,OUTLINED BLACK STAR,OUTLINED GREEK CROSS",
    "OUTLINED LATIN CROSS,OUTLINED WHITE STAR,OVERHEATED FACE,OVERLAP,OWL,OX,OYSTER,PACKAGE,PAGE",
    "PAGE FACING UP,PAGE WITH CIRCLED TEXT,PAGE WITH CURL,PAGER,PAGES,PAGODA,PALLAS,PALM DOWN HAND",
    "PALM TREE,PALM UP HAND,PALMS UP TOGETHER,PANCAKES,PANDA FACE,PAPERCLIP,PARACHUTE,PARROT",
    "PARTIALLY-RECYCLED PAPER SYMBOL,PARTY POPPER,PASSENGER SHIP,PASSPORT CONTROL,PAW PRINTS",
    "PEACE SYMBOL,PEACH,PEACOCK,PEANUTS,PEAR,PEDESTRIAN,PEN OVER STAMPED ENVELOPE,PENCIL,PENGUIN",
    "PENSIVE FACE,PENTAGRAM,PEOPLE HUGGING,PERFORMING ARTS,PERMANENT PAPER SIGN,PERSEVERING FACE",
    "PERSON BOWING DEEPLY,PERSON CLIMBING,PERSON DOING CARTWHEEL,PERSON FROWNING",
    "PERSON IN LOTUS POSITION,PERSON IN STEAMY ROOM,PERSON RAISING BOTH HANDS IN CELEBRATION",
    "PERSON WITH BALL,PERSON WITH BLOND HAIR,PERSON WITH CROWN,PERSON WITH FOLDED HANDS",
    "PERSON WITH HEADSCARF,PERSON WITH POUTING FACE,PERSONAL COMPUTER,PETRI DISH,PICK,PICKUP TRUCK,PIE",
    "PIG,PIG FACE,PIG NOSE,PILE OF POO,PILL,PINATA,PINCHED FINGERS,PINCHING HAND,PINE DECORATION",
    "PINEAPPLE,PINWHEEL STAR,PISCES,PISTOL,PLACARD,PLACE OF WORSHIP,PLAYGROUND SLIDE,PLUNGER,PLUTO",
    "POCKET CALCULATOR,POLICE CAR,POLICE CARS REVOLVING LIGHT,POLICE OFFICER,POODLE,POPCORN",
    "PORTABLE STEREO,POSTAL HORN,POSTBOX,POT OF FOOD,POTABLE WATER SYMBOL,POTATO,POTTED PLANT,POUCH",
    "POULTRY LEG,POURING LIQUID,POUTING CAT FACE,POUTING FACE,PRAYER BEADS,PREGNANT MAN,PREGNANT PERSON",
    "PREGNANT WOMAN,PRETZEL,PRINCE,PRINCESS,PRINTER,PRINTER ICON,PROBING CANE,PROHIBITED SIGN",
    "PUBLIC ADDRESS LOUDSPEAKER,PURPLE HEART,PURSE,PUSHPIN,PUT LITTER IN ITS PLACE SYMBOL,QUARTER NOTE",
    "QUINCUNX,RABBIT,RABBIT FACE,RACCOON,RACING CAR,RACING MOTORCYCLE,RADIO,RADIO BUTTON",
    "RADIOACTIVE SIGN,RAILWAY CAR,RAILWAY TRACK,RAIN,RAINBOW,RAISED BACK OF HAND,RAISED FIST",
    "RAISED HAND,RAISED HAND WITH FINGERS SPLAYED,RAISED HAND WITH PART BETWEEN MIDDLE AND RING FINGERS",
    "RAM,RAT,RAZOR,RECEIPT,RECREATIONAL VEHICLE,RECYCLED PAPER SYMBOL,RED APPLE,RED GIFT ENVELOPE",
    "RELIEVED FACE,REMINDER RIBBON,RESTRICTED LEFT ENTRY-1,RESTRICTED LEFT ENTRY-2,RESTROOM",
    "REVERSED HAND WITH MIDDLE FINGER EXTENDED,REVERSED RAISED HAND WITH FINGERS SPLAYED",
    "REVERSED ROTATED FLORAL HEART BULLET,REVERSED THUMBS DOWN SIGN,REVERSED THUMBS UP SIGN",
    "REVERSED VICTORY HAND,REVOLVING HEARTS,RHINOCEROS,RIBBON,RICE BALL,RICE CRACKER,RIFLE",
    "RIGHT ANGER BUBBLE,RIGHT HAND TELEPHONE RECEIVER,RIGHT SPEAKER,RIGHT SPEAKER WITH ONE SOUND WAVE",
    "RIGHT SPEAKER WITH THREE SOUND WAVES,RIGHT SPEECH BUBBLE,RIGHT THOUGHT BUBBLE,RIGHT-FACING FIST",
    "RIGHT-HANDED INTERLACED PENTAGRAM,RIGHT-POINTING MAGNIFYING GLASS",
    "RIGHT-SHADED WHITE RIGHTWARDS ARROW,RIGHTWARDS HAND,RING,RING BUOY,RINGED PLANET,RINGING BELL",
    "ROASTED SWEET POTATO,ROBOT FACE,ROCK,ROCKET,ROLL OF PAPER,ROLLED-UP NEWSPAPER,ROLLER COASTER",
    "ROLLER SKATE,ROLLING ON THE FLOOR LAUGHING,ROOSTER,ROSE,ROSETTE,ROTATED FLORAL HEART BULLET",
    "ROTATED HEAVY BLACK HEART BULLET,ROUND PUSHPIN,ROWBOAT,RUGBY FOOTBALL,RUNNER",
    "RUNNING SHIRT WITH SASH,SAFETY PIN,SAFETY VEST,SAGITTARIUS,SAILBOAT,SAKE BOTTLE AND CUP",
    "SALT SHAKER,SALTIRE,SALUTING FACE,SANDWICH,SARI,SATELLITE,SATELLITE ANTENNA,SATURN,SAUROPOD",
    "SAXOPHONE,SCALES,SCARF,SCHOOL,SCHOOL SATCHEL,SCOOTER,SCORPION,SCORPIUS,SCREEN,SCREWDRIVER,SCROLL",
    "SEAL,SEAT,SECOND PLACE MEDAL,SEE-NO-EVIL MONKEY,SEEDLING,SELFIE,SEMISEXTILE",
    "SERIOUS FACE WITH SYMBOLS COVERING MOUTH,SESQUIQUADRATE,SEWING NEEDLE,SEXTILE",
    "SHADOWED WHITE CIRCLE,SHADOWED WHITE LATIN CROSS,SHADOWED WHITE STAR,SHALLOW PAN OF FOOD,SHAMROCK",
    "SHARK,SHAVED ICE,SHEEP,SHIELD,SHINTO SHRINE,SHIP,SHOCKED FACE WITH EXPLODING HEAD,SHOOTING STAR",
    "SHOPPING BAGS,SHOPPING TROLLEY,SHORTCAKE,SHORTS,SHOWER,SHRIMP,SHRUG",
    "SIDEWAYS BLACK DOWN POINTING INDEX,SIDEWAYS BLACK LEFT POINTING INDEX",
    "SIDEWAYS BLACK RIGHT POINTING INDEX,SIDEWAYS BLACK UP POINTING INDEX",
    "SIDEWAYS WHITE DOWN POINTING INDEX,SIDEWAYS WHITE LEFT POINTING INDEX",
    "SIDEWAYS WHITE RIGHT POINTING INDEX,SIDEWAYS WHITE UP POINTING INDEX,SIGN OF THE HORNS",
    "SILHOUETTE OF JAPAN,SIX PETALLED BLACK AND WHITE FLORETTE,SIX POINTED BLACK STAR",
    "SIX POINTED STAR WITH MIDDLE DOT,SIXTEEN POINTED ASTERISK,SKATEBOARD,SKI AND SKI BOOT,SKIER,SKULL",
    "SKULL AND CROSSBONES,SKUNK,SLED,SLEEPING ACCOMMODATION,SLEEPING FACE,SLEEPING SYMBOL,SLEEPY FACE",
    "SLEUTH OR SPY,SLICE OF PIZZA,SLIGHTLY FROWNING FACE,SLIGHTLY SMILING FACE,SLOT MACHINE,SLOTH",
    "SMALL AIRPLANE,SMALL BLUE DIAMOND,SMALL ORANGE DIAMOND,SMILING CAT FACE WITH HEART-SHAPED EYES",
    "SMILING CAT FACE WITH OPEN MOUTH,SMIRKING FACE,SMOKING SYMBOL,SNAIL,SNAKE,SNEEZING FACE",
    "SNOW CAPPED MOUNTAIN,SNOWBOARDER,SNOWFLAKE,SNOWMAN,SNOWMAN WITHOUT SNOW,SOCCER BALL,SOCKS",
    "SOFT ICE CREAM,SOFT SHELL FLOPPY DISK,SOFTBALL,SOON WITH RIGHTWARDS ARROW ABOVE,SPAGHETTI,SPARKLE",
    "SPARKLES,SPARKLING HEART,SPEAK-NO-EVIL MONKEY,SPEAKER,SPEAKER WITH CANCELLATION STROKE",
    "SPEAKER WITH ONE SOUND WAVE,SPEAKER WITH THREE SOUND WAVES,SPEAKING HEAD IN SILHOUETTE",
    "SPEECH BALLOON,SPEEDBOAT,SPIDER,SPIDER WEB,SPIRAL CALENDAR PAD,SPIRAL NOTE PAD,SPIRAL SHELL",
    "SPLASHING SWEAT SYMBOL,SPONGE,SPOOL OF THREAD,SPOON,SPORTS MEDAL,SPOUTING WHALE",
    "SQUARE FOUR CORNERS,SQUARED KEY,SQUARED SALTIRE,SQUAT BLACK RIGHTWARDS ARROW,SQUID,STADIUM",
    "STAFF OF AESCULAPIUS,STAFF OF HERMES,STAMPED ENVELOPE,STANDING PERSON,STAR AND CRESCENT",
    "STAR OF DAVID,STATION,STATUE OF LIBERTY,STEAM LOCOMOTIVE,STEAMING BOWL,STETHOSCOPE,STOCK CHART",
    "STRAIGHT RULER,STRAWBERRY,STRESS OUTLINED WHITE STAR,STUDIO MICROPHONE,STUFFED FLATBREAD,STUPA,SUN",
    "SUN BEHIND CLOUD,SUN WITH FACE,SUNFLOWER,SUNRISE,SUNRISE OVER MOUNTAINS,SUNSET OVER BUILDINGS",
    "SUPERHERO,SUPERVILLAIN,SURFER,SUSHI,SUSPENSION RAILWAY,SWAN,SWIMMER,SYMBOL FOR MARKS CHAPTER",
    "SYNAGOGUE,SYRINGE,T-REX,T-SHIRT,TABLE TENNIS PADDLE AND BALL,TACO,TAKEOUT BOX,TAMALE,TANABATA TREE",
    "TANGERINE,TAPE CARTRIDGE,TAPE DRIVE,TAURUS,TAXI,TEACUP WITHOUT HANDLE,TEAPOT,TEAR-OFF CALENDAR",
    "TEARDROP-BARBED RIGHTWARDS ARROW,TEARDROP-SPOKED ASTERISK,TEDDY BEAR,TELEPHONE LOCATION SIGN",
    "TELEPHONE ON TOP OF MODEM,TELEPHONE RECEIVER,TELEPHONE RECEIVER WITH PAGE,TELESCOPE,TELEVISION",
    "TENNIS RACQUET AND BALL,TENT,TEST TUBE,THERMOMETER,THINKING FACE,THIRD PLACE MEDAL,THONG SANDAL",
    "THOUGHT BALLOON,THREE BUTTON MOUSE,THREE LINES CONVERGING LEFT,THREE LINES CONVERGING RIGHT",
    "THREE NETWORKED COMPUTERS,THREE RAYS ABOVE,THREE RAYS BELOW,THREE RAYS LEFT,THREE RAYS RIGHT",
    "THREE SPEECH BUBBLES,THREE-D BOTTOM-LIGHTED RIGHTWARDS ARROWHEAD",
    "THREE-D TOP-LIGHTED RIGHTWARDS ARROWHEAD,THUMBS DOWN SIGN,THUMBS UP SIGN,THUNDER CLOUD AND RAIN",
    "THUNDERSTORM,TICKET,TIGER,TIGER FACE,TIGHT TRIFOLIATE SNOWFLAKE,TIRED FACE,TOILET,TOKYO TOWER",
    "TOMATO,TONGUE,TOOLBOX,TOOTH,TOOTHBRUSH,TOP HAT,TOP WITH UPWARDS ARROW ABOVE,TRACKBALL,TRACTOR",
    "TRAIN,TRAM,TRAM CAR,TRIANGLE WITH ROUNDED CORNERS,TRIANGLE-HEADED RIGHTWARDS ARROW",
    "TRIANGULAR FLAG ON POST,TRIANGULAR RULER,TRIDENT EMBLEM,TRIGRAM FOR EARTH,TRIGRAM FOR FIRE",
    "TRIGRAM FOR HEAVEN,TRIGRAM FOR LAKE,TRIGRAM FOR MOUNTAIN,TRIGRAM FOR THUNDER,TRIGRAM FOR WATER",
    "TRIGRAM FOR WIND,TROLL,TROLLEYBUS,TROPHY,TROPICAL DRINK,TROPICAL FISH,TRUMPET,TULIP,TUMBLER GLASS",
    "TURKEY,TURNED BLACK SHOGI PIECE,TURNED OK HAND SIGN,TURNED WHITE SHOGI PIECE,TURTLE",
    "TWELVE POINTED BLACK STAR,TWISTED RIGHTWARDS ARROWS,TWO BUTTON MOUSE,TWO HEARTS",
    "TWO MEN HOLDING HANDS,TWO SPEECH BUBBLES,TWO WOMEN HOLDING HANDS,UMBRELLA,UMBRELLA ON GROUND",
    "UMBRELLA WITH RAIN DROPS,UNAMUSED FACE,UNICORN FACE,UNIVERSAL RECYCLING SYMBOL",
    "UNMARRIED PARTNERSHIP SYMBOL,UP-POINTING AIRPLANE,UP-POINTING MILITARY AIRPLANE",
    "UP-POINTING RED TRIANGLE,UP-POINTING SMALL AIRPLANE,UP-POINTING SMALL RED TRIANGLE",
    "UPPER BLADE SCISSORS,UPPER RIGHT DROP-SHADOWED WHITE SQUARE,UPPER RIGHT PENCIL",
    "UPPER RIGHT SHADOWED WHITE CIRCLE,UPPER RIGHT SHADOWED WHITE SQUARE,UPSIDE-DOWN FACE,URANUS",
    "VAMPIRE,VERTICAL MALE WITH STROKE SIGN,VERTICAL TRAFFIC LIGHT,VESTA,VIBRATION MODE,VICTORY HAND",
    "VIDEO CAMERA,VIDEO GAME,VIDEOCASSETTE,VIOLIN,VIRGO,VOLCANO,VOLLEYBALL,WAFFLE",
    "WANING CRESCENT MOON SYMBOL,WANING GIBBOUS MOON SYMBOL,WARNING SIGN,WASTEBASKET,WATER BUFFALO",
    "WATER CLOSET,WATER POLO,WATER WAVE,WATERMELON,WAVING BLACK FLAG,WAVING HAND SIGN,WAVING WHITE FLAG",
    "WAXING CRESCENT MOON SYMBOL,WAXING GIBBOUS MOON SYMBOL,WEARY CAT FACE,WEARY FACE,WEDDING",
    "WEDGE-TAILED RIGHTWARDS ARROW,WEIGHT LIFTER,WEST SYRIAC CROSS,WHALE,WHEEL,WHEEL OF DHARMA",
    "WHEELCHAIR SYMBOL,WHITE CIRCLE WITH DOT RIGHT,WHITE CIRCLE WITH TWO DOTS,WHITE DIAMOND IN SQUARE",
    "WHITE DOWN POINTING INDEX,WHITE DOWN POINTING LEFT HAND INDEX,WHITE EXCLAMATION MARK ORNAMENT",
    "WHITE FLAG WITH HORIZONTAL MIDDLE BLACK STRIPE,WHITE FLOWER,WHITE FROWNING FACE",
    "WHITE HEAVY CHECK MARK,WHITE LATIN CROSS,WHITE SUN,WHITE SUN BEHIND CLOUD",
    "WHITE SUN BEHIND CLOUD WITH RAIN,WHITE SUN WITH SMALL CLOUD,WHITE UP POINTING INDEX",
    "WHITE-FEATHERED RIGHTWARDS ARROW,WILTED FLOWER,WIND BLOWING FACE,WIND CHIME,WINDOW,WINE GLASS",
    "WINKING FACE,WIRED KEYBOARD,WOLF FACE,WOMAN,WOMAN WITH BUNNY EARS,WOMANS BOOTS,WOMANS CLOTHES",
    "WOMANS HAT,WOMANS SANDAL,WOMENS SYMBOL,WOOD,WORLD MAP,WORM,WORRIED FACE,WRAPPED PRESENT,WRENCH",
    "WRESTLERS,WRITING HAND,X-RAY,YAWNING FACE,YELLOW HEART,YIN YANG,YO-YO,ZEBRA FACE,ZIPPER-MOUTH FACE",
    "ZOMBIE"]⟩]

end OperationClasses.Text
