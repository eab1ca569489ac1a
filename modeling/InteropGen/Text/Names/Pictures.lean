/-!
# Names of shapes and pictures

Each group is the words that its names begin with, and their endings between commas.
-/

namespace InteropGen.Text

private def pictureNamesPart1 : List (String × String) :=
  [("BLACK", "SQUARE, SQUARE BUTTON, SMALL SQUARE, RECTANGLE, VERTICAL RECTANGLE, PARALLELOGRAM,
     DIAMOND, DIAMOND SUIT, DIAMOND MINUS WHITE X, CIRCLE, LOWER RIGHT TRIANGLE,
     LOWER LEFT TRIANGLE, UPPER LEFT TRIANGLE, UPPER RIGHT TRIANGLE, MEDIUM SQUARE,
     MEDIUM SMALL SQUARE, SUN WITH RAYS, STAR, TELEPHONE, SHOGI PIECE, LEFT LANE MERGE,
     SMILING FACE, SPADE SUIT, CLUB SUIT, HEART SUIT, HEART, UNIVERSAL RECYCLING SYMBOL, FLAG,
     MOON LILITH, DRAUGHTS MAN, DRAUGHTS KING, SNOWMAN, TWO-WAY LEFT WAY TRAFFIC, TRUCK,
     CROSS ON SHIELD, SAFETY SCISSORS, SCISSORS, NIB, FOUR POINTED STAR, CENTRE WHITE STAR,
     FLORETTE, QUESTION MARK ORNAMENT, DROPLET, PENNANT, ROSETTE, SKULL AND CROSSBONES,
     TOUCHTONE TELEPHONE, PUSHPIN, UP POINTING BACKHAND INDEX, DOWN POINTING BACKHAND INDEX,
     HARD SHELL FLOPPY DISK, FOLDER"),
   ("BLACK UP-POINTING", "TRIANGLE, SMALL TRIANGLE"),
   ("BLACK RIGHT-POINTING", "TRIANGLE, SMALL TRIANGLE, POINTER"),
   ("BLACK DOWN-POINTING", "TRIANGLE, SMALL TRIANGLE"),
   ("BLACK LEFT-POINTING", "TRIANGLE, SMALL TRIANGLE, POINTER"),
   ("BLACK CIRCLE WITH", "WHITE DOT RIGHT, TWO WHITE DOTS"),
   ("BLACK LEFT POINTING", "INDEX, BACKHAND INDEX"),
   ("BLACK RIGHT POINTING", "INDEX, BACKHAND INDEX"),
   ("BLACK CHESS", "KING, QUEEN, ROOK, BISHOP, KNIGHT, PAWN"),
   ("BLACK RIGHTWARDS", "ARROW, ARROWHEAD"),
   ("WHITE", "SQUARE, SQUARE CONTAINING BLACK SMALL SQUARE, SQUARE BUTTON, SMALL SQUARE,
     RECTANGLE, VERTICAL RECTANGLE, PARALLELOGRAM, DIAMOND,
     DIAMOND CONTAINING BLACK SMALL DIAMOND, DIAMOND SUIT, DIAMOND IN SQUARE, CIRCLE, BULLET,
     MEDIUM SQUARE, MEDIUM SMALL SQUARE, STAR, TELEPHONE, SHOGI PIECE, LEFT LANE MERGE,
     FROWNING FACE, SMILING FACE, SUN WITH RAYS, SUN WITH SMALL CLOUD, SUN, SUN BEHIND CLOUD,
     SUN BEHIND CLOUD WITH RAIN, HEART SUIT, HEART, SPADE SUIT, CLUB SUIT, FLAG,
     FLAG WITH HORIZONTAL MIDDLE BLACK STRIPE, DRAUGHTS MAN, DRAUGHTS KING,
     TWO-WAY LEFT WAY TRAFFIC, SCISSORS, HEAVY CHECK MARK, NIB, FOUR POINTED STAR, FLORETTE,
     QUESTION MARK ORNAMENT, EXCLAMATION MARK ORNAMENT, PENNANT, FLOWER, LATIN CROSS,
     TOUCHTONE TELEPHONE, HARD SHELL FLOPPY DISK"),
   ("WHITE SQUARE WITH", "ROUNDED CORNERS, VERTICAL BISECTING LINE, UPPER LEFT QUADRANT,
     UPPER RIGHT QUADRANT, LOWER LEFT QUADRANT, LOWER RIGHT QUADRANT"),
   ("WHITE UP-POINTING", "TRIANGLE, TRIANGLE WITH DOT, SMALL TRIANGLE"),
   ("WHITE RIGHT-POINTING", "TRIANGLE, SMALL TRIANGLE, POINTER"),
   ("WHITE DOWN-POINTING", "TRIANGLE, SMALL TRIANGLE"),
   ("WHITE LEFT-POINTING", "TRIANGLE, SMALL TRIANGLE, POINTER"),
   ("WHITE CIRCLE WITH", "UPPER LEFT QUADRANT, UPPER RIGHT QUADRANT, LOWER LEFT QUADRANT,
     LOWER RIGHT QUADRANT, DOT RIGHT, TWO DOTS"),
   ("WHITE LEFT POINTING", "INDEX, BACKHAND INDEX"),
   ("WHITE UP POINTING", "INDEX, BACKHAND INDEX"),
   ("WHITE RIGHT POINTING", "INDEX, BACKHAND INDEX"),
   ("WHITE DOWN POINTING", "INDEX, BACKHAND INDEX, LEFT HAND INDEX"),
   ("WHITE CHESS", "KING, QUEEN, ROOK, BISHOP, KNIGHT, PAWN"),
   ("SQUARE WITH", "HORIZONTAL FILL, VERTICAL FILL, ORTHOGONAL CROSSHATCH FILL,
     UPPER LEFT TO LOWER RIGHT FILL, UPPER LEFT DIAGONAL HALF BLACK,
     UPPER RIGHT TO LOWER LEFT FILL, DIAGONAL CROSSHATCH FILL, LEFT HALF BLACK, RIGHT HALF BLACK,
     LOWER RIGHT DIAGONAL HALF BLACK")]

private def pictureNamesPart2 : List (String × String) :=
  [("", "SQUARE FOUR CORNERS, FISHEYE, LOZENGE, DOTTED CIRCLE, BULLSEYE, CLOUD, UMBRELLA,
     UMBRELLA WITH RAIN DROPS, UMBRELLA ON GROUND, SNOWMAN, SNOWMAN WITHOUT SNOW, COMET,
     LIGHTNING, LIGHTNING MOOD BUBBLE, LIGHTNING MOOD, THUNDERSTORM, SUN, SUN BEHIND CLOUD,
     SUN WITH FACE, ASCENDING NODE, DESCENDING NODE, CONJUNCTION, OPPOSITION, SALTIRE, SHAMROCK,
     SKULL AND CROSSBONES, SKULL, CAUTION SIGN, RADIOACTIVE SIGN, BIOHAZARD SIGN, CADUCEUS, ANKH,
     ORTHODOX CROSS, CHI RHO, FARSI SYMBOL, ADI SHAKTI, HAMMER, PEACE SYMBOL, YIN YANG,
     WHEEL OF DHARMA, WHEEL, LAST QUARTER MOON, LAST QUARTER MOON SYMBOL,
     LAST QUARTER MOON WITH FACE, MERCURY, FEMALE SIGN, EARTH, JUPITER, SATURN, URANUS, NEPTUNE,
     PLUTO, ARIES, TAURUS, GEMINI, CANCER, LEO, VIRGO, LIBRA, SCORPIUS, SAGITTARIUS, CAPRICORN,
     AQUARIUS, PISCES, QUARTER NOTE, EIGHTH NOTE, WEST SYRIAC CROSS, EAST SYRIAC CROSS,
     UNIVERSAL RECYCLING SYMBOL, RECYCLED PAPER SYMBOL, PARTIALLY-RECYCLED PAPER SYMBOL,
     PERMANENT PAPER SIGN, WHEELCHAIR SYMBOL, ANCHOR, SCALES, ALEMBIC, FLOWER,
     FLOWER PLAYING CARDS, GEAR, GEAR WITHOUT HUB, GEAR WITH HANDLES, ATOM SYMBOL, FLEUR-DE-LIS,
     WARNING SIGN, INTERLOCKED FEMALE AND MALE SIGN, MARRIAGE SYMBOL, DIVORCE SYMBOL,
     UNMARRIED PARTNERSHIP SYMBOL, COFFIN, FUNERAL URN, NEUTER, CERES, PALLAS, JUNO, VESTA,
     CHIRON, SEXTILE, SEMISEXTILE, QUINCUNX, SESQUIQUADRATE, SOCCER BALL, BASEBALL, RAIN,
     THUNDER CLOUD AND RAIN, CROSSING LANES, DISABLED CAR, OPHIUCHUS, PICK, CAR SLIDING,
     HELMET WITH WHITE CROSS, CHAINS, ALTERNATE ONE-WAY LEFT WAY TRAFFIC, DRIVE SLOW SIGN,
     FALLING DIAGONAL IN WHITE CIRCLE IN BLACK SQUARE, ASTRONOMICAL SYMBOL FOR URANUS, PENTAGRAM,
     RIGHT-HANDED INTERLACED PENTAGRAM, LEFT-HANDED INTERLACED PENTAGRAM, INVERTED PENTAGRAM,
     SHINTO SHRINE, CHURCH, CASTLE, HISTORIC SITE, MAP SYMBOL FOR LIGHTHOUSE, MOUNTAIN,
     MOUNTAIN RAILWAY, MOUNTAIN CABLEWAY, MOUNTAIN BICYCLIST, FOUNTAIN, FLAG IN HOLE, FERRY,
     SAILBOAT, SKIER, TENT, HEADSTONE GRAVEYARD SYMBOL, FUEL PUMP, AIRPLANE, AIRPLANE DEPARTURE,
     AIRPLANE ARRIVING, ENVELOPE, VICTORY HAND, WRITING HAND, PENCIL, CHECK MARK,
     MULTIPLICATION X, LATIN CROSS, MALTESE CROSS, SPARKLES, STRESS OUTLINED WHITE STAR,
     PINWHEEL STAR, SIX PETALLED BLACK AND WHITE FLORETTE, TWELVE POINTED BLACK STAR,
     SIXTEEN POINTED ASTERISK, TEARDROP-SPOKED ASTERISK, SNOWFLAKE, TIGHT TRIFOLIATE SNOWFLAKE,
     SPARKLE, BALLOON-SPOKED ASTERISK, NEGATIVE SQUARED CROSS MARK,
     CURVED STEM PARAGRAPH SIGN ORNAMENT, FLORAL HEART, DINGBAT CIRCLED SANS-SERIF NUMBER TEN,
     DRAFTING POINT RIGHTWARDS ARROW, TRIANGLE-HEADED RIGHTWARDS ARROW,
     DASHED TRIANGLE-HEADED RIGHTWARDS ARROW, SQUAT BLACK RIGHTWARDS ARROW,
     RIGHT-SHADED WHITE RIGHTWARDS ARROW, LEFT-SHADED WHITE RIGHTWARDS ARROW,
     BACK-TILTED SHADOWED WHITE RIGHTWARDS ARROW, FRONT-TILTED SHADOWED WHITE RIGHTWARDS ARROW,
     CURLY LOOP, WHITE-FEATHERED RIGHTWARDS ARROW, TEARDROP-BARBED RIGHTWARDS ARROW,
     WEDGE-TAILED RIGHTWARDS ARROW, OPEN-OUTLINED RIGHTWARDS ARROW, DOUBLE CURLY LOOP, CYCLONE,
     FOGGY, NIGHT WITH STARS, SUNRISE OVER MOUNTAINS, SUNRISE, CITYSCAPE AT DUSK, CITYSCAPE,
     SUNSET OVER BUILDINGS, RAINBOW, BRIDGE AT NIGHT, VOLCANO, MILKY WAY, GLOBE WITH MERIDIANS,
     CRESCENT MOON, GLOWING STAR, SHOOTING STAR, THERMOMETER, FOG, TACO, BURRITO, CHESTNUT,
     SEEDLING, EVERGREEN TREE, DECIDUOUS TREE, PALM TREE, CACTUS, TULIP, CHERRY BLOSSOM, ROSE,
     HIBISCUS, SUNFLOWER, BLOSSOM, EAR, EAR WITH HEARING AID, HERB, MAPLE LEAF, FALLEN LEAF,
     LEAF FLUTTERING IN WIND, MUSHROOM, TOMATO, AUBERGINE, GRAPES, MELON, WATERMELON, TANGERINE,
     LEMON, BANANA, PINEAPPLE, PEAR, PEACH, CHERRIES, STRAWBERRY, HAMBURGER, SLICE OF PIZZA,
     MEAT ON BONE, POULTRY LEG, COOKED RICE, CURRY AND RICE, STEAMING BOWL, SPAGHETTI, BREAD,
     FRENCH FRIES, ROASTED SWEET POTATO, DANGO, ODEN, SUSHI, FRIED SHRIMP,
     FISH CAKE WITH SWIRL DESIGN, FISH, SHAVED ICE, DOUGHNUT, COOKIE, CHOCOLATE BAR, CANDY,
     LOLLIPOP, CUSTARD, HONEY POT, SHORTCAKE, BENTO BOX, POT OF FOOD, COOKING, FORK AND KNIFE,
     FORK AND KNIFE WITH PLATE, TEACUP WITHOUT HANDLE, SAKE BOTTLE AND CUP, WINE GLASS,
     COCKTAIL GLASS, BEER MUG, BABY BOTTLE, BABY CHICK, BABY, BABY ANGEL, BABY SYMBOL,
     BOTTLE WITH POPPING CORK, POPCORN, RIBBON, WRAPPED PRESENT, BIRTHDAY CAKE, JACK-O-LANTERN,
     CHRISTMAS TREE, FATHER CHRISTMAS, FIREWORKS, FIREWORK SPARKLER, BALLOON, PARTY POPPER,
     CONFETTI BALL, TANABATA TREE, PINE DECORATION, CARP STREAMER, SCHOOL SATCHEL, SCHOOL,
     GRADUATION CAP, HEART DECORATION, BOUQUET OF FLOWERS, BOUQUET, MILITARY MEDAL,
     REMINDER RIBBON, STUDIO MICROPHONE, LEVEL SLIDER, CONTROL KNOBS, ADMISSION TICKETS,
     CAROUSEL HORSE, FERRIS WHEEL, FISHING POLE AND FISH, MICROPHONE, MOVIE CAMERA, CINEMA,
     HEADPHONE, ARTIST PALETTE, CIRCUS TENT, TICKET, CLAPPER BOARD, PERFORMING ARTS, DIRECT HIT,
     SLOT MACHINE, BILLIARDS, GAME DIE, BOWLING, MULTIPLE MUSICAL NOTES, SAXOPHONE, GUITAR,
     TRUMPET, VIOLIN, RUNNING SHIRT WITH SASH, TENNIS RACQUET AND BALL, SKI AND SKI BOOT,
     BASKETBALL AND HOOP, CHEQUERED FLAG, SNOWBOARDER, RUNNER, SURFER, SPORTS MEDAL, TROPHY,
     HORSE RACING, HORSE, HORSE FACE, AMERICAN FOOTBALL, RUGBY FOOTBALL, SWIMMER, WEIGHT LIFTER,
     GOLFER, CRICKET BAT AND BALL, CRICKET, VOLLEYBALL, FIELD HOCKEY STICK AND BALL,
     TABLE TENNIS PADDLE AND BALL, SNOW CAPPED MOUNTAIN, CAMPING, BEACH WITH UMBRELLA,
     BUILDING CONSTRUCTION, DERELICT HOUSE BUILDING, CLASSICAL BUILDING, DESERT, DESERT ISLAND,
     NATIONAL PARK, STADIUM, OFFICE BUILDING, HOSPITAL, BANK, AUTOMATED TELLER MACHINE, HOTEL,
     CONVENIENCE STORE, DEPARTMENT STORE, FACTORY, IZAKAYA LANTERN, ROSETTE, LABEL,
     BADMINTON RACQUET AND SHUTTLECOCK, BOW AND ARROW, AMPHORA, RAT, MOUSE, MOUSE FACE, OX, COW,
     COW FACE, TIGER, TIGER FACE, LEOPARD, RABBIT, RABBIT FACE, CAT, CAT FACE, DRAGON,
     DRAGON FACE, CROCODILE, WHALE, SNAIL, SNAKE, RAM, GOAT, SHEEP, MONKEY, MONKEY FACE, ROOSTER,
     CHICKEN, DOG, DOG FACE, PIG, PIG FACE, PIG NOSE, BOAR, ELEPHANT, OCTOPUS, BUG, ANT, HONEYBEE,
     LADY BEETLE, BLOWFISH, TURTLE, HATCHING CHICK, FRONT-FACING BABY CHICK, BIRD, PENGUIN, KOALA,
     POODLE, DROMEDARY CAMEL, BACTRIAN CAMEL, DOLPHIN, SPOUTING WHALE, FROG FACE, HAMSTER FACE,
     WOLF FACE, BEAR FACE, PANDA FACE, PAW PRINTS, CHIPMUNK, EYES, EYE, NOSE, MOUTH, TONGUE,
     FISTED HAND SIGN, OK HAND SIGN, CLAPPING HANDS SIGN, CROWN, EYEGLASSES, NECKTIE, T-SHIRT,
     JEANS, DRESS, KIMONO, BIKINI, PURSE, HANDBAG, POUCH, MANS SHOE, ATHLETIC SHOE,
     HIGH-HEELED SHOE, FOOTPRINTS, BUST IN SILHOUETTE, BUSTS IN SILHOUETTE, BOY, GIRL, MAN,
     MAN AND WOMAN HOLDING HANDS, MAN DANCING, WOMAN, WOMAN WITH BUNNY EARS, FAMILY,
     BRIDE WITH VEIL, PRINCESS, GHOST, EXTRATERRESTRIAL ALIEN, ALIEN MONSTER, IMP,
     INFORMATION DESK PERSON, GUARDSMAN, DANCER, LIPSTICK, NAIL POLISH, HAIRCUT, BARBER POLE,
     SYRINGE, PILL, KISS MARK, KISS, RING, RING BUOY, GEM STONE, COUPLE WITH HEART, WEDDING,
     BEATING HEART, BROKEN HEART, SPARKLING HEART, GROWING HEART, YELLOW HEART, PURPLE HEART,
     REVOLVING HEARTS, DIAMOND SHAPE WITH A DOT INSIDE, ANGER SYMBOL, BOMB, COLLISION SYMBOL,
     SPLASHING SWEAT SYMBOL, DROPLET, DASH SYMBOL, PILE OF POO, FLEXED BICEPS, SPEECH BALLOON,
     THOUGHT BALLOON, HUNDRED POINTS SYMBOL, CURRENCY EXCHANGE, CREDIT CARD, SEAT,
     PERSONAL COMPUTER, BRIEFCASE, MINIDISC, FLOPPY DISK, OPTICAL DISC, OPTICAL DISC ICON, DVD,
     PAGE FACING UP, PAGE, CALENDAR, TEAR-OFF CALENDAR, CLIPBOARD, PUSHPIN, ROUND PUSHPIN,
     PAPERCLIP, STRAIGHT RULER, BOOKMARK TABS, BOOKMARK, LEDGER, NOTEBOOK,
     NOTEBOOK WITH DECORATIVE COVER, BOOKS, NAME BADGE, SCROLL, MEMO, PAGER, SATELLITE ANTENNA,
     SATELLITE, PUBLIC ADDRESS LOUDSPEAKER, CHEERING MEGAPHONE, OUTBOX TRAY, INBOX TRAY, PACKAGE,
     E-MAIL SYMBOL, INCOMING ENVELOPE, POSTBOX, POSTAL HORN, NEWSPAPER, MOBILE PHONE,
     MOBILE PHONE WITH RIGHTWARDS ARROW AT LEFT, MOBILE PHONE OFF, VIBRATION MODE,
     ANTENNA WITH BARS, CAMERA, CAMERA WITH FLASH, TELEVISION, RADIO, RADIO BUTTON, VIDEOCASSETTE,
     PORTABLE STEREO, PRAYER BEADS, TWISTED RIGHTWARDS ARROWS,
     ANTICLOCKWISE DOWNWARDS AND UPWARDS OPEN CIRCLE ARROWS, LOW BRIGHTNESS SYMBOL, SPEAKER,
     BATTERY, LEFT-POINTING MAGNIFYING GLASS, RIGHT-POINTING MAGNIFYING GLASS, LOCK WITH INK PEN,
     LOCK, KEY, BELL, BELL WITH CANCELLATION STROKE, LINK SYMBOL, END WITH LEFTWARDS ARROW ABOVE,
     ON WITH EXCLAMATION MARK WITH LEFT RIGHT ARROW ABOVE, SOON WITH RIGHTWARDS ARROW ABOVE,
     KEYCAP TEN, FIRE, FIRE ENGINE, FIRE EXTINGUISHER, WRENCH, NUT AND BOLT, HOCHO, PISTOL,
     MICROSCOPE, TELESCOPE, CRYSTAL BALL, TRIDENT EMBLEM, SYMBOL FOR MARKS CHAPTER, CELTIC CROSS,
     OM SYMBOL, DOVE OF PEACE, KAABA, MOSQUE, SYNAGOGUE, MENORAH WITH NINE BRANCHES, BULLHORN,
     BULLHORN WITH SOUND WAVES, RINGING BELL, BOOK, CANDLE, MANTELPIECE CLOCK, HOLE,
     SLEUTH OR SPY, DARK SUNGLASSES, SPIDER, SPIDER WEB, JOYSTICK, CLAMSHELL MOBILE PHONE,
     STAMPED ENVELOPE, PEN OVER STAMPED ENVELOPE, LINKED PAPERCLIPS, KEYBOARD AND MOUSE, PRINTER,
     PRINTER ICON, POCKET CALCULATOR, WIRED KEYBOARD, ONE BUTTON MOUSE, TRACKBALL, HARD DISK,
     SCREEN, DOCUMENT, FOLDER, NOTE, NOTE PAGE, NOTE PAD, PAGES, WASTEBASKET, MINIMIZE, MAXIMIZE,
     OVERLAP, CANCELLATION X, INCREASE FONT SIZE SYMBOL, DECREASE FONT SIZE SYMBOL, COMPRESSION,
     ROLLED-UP NEWSPAPER, STOCK CHART, DAGGER KNIFE, LIPS, SPEAKING HEAD IN SILHOUETTE,
     MOOD BUBBLE, WORLD MAP, MOUNT FUJI, TOKYO TOWER, STATUE OF LIBERTY, SILHOUETTE OF JAPAN,
     MOYAI, WINKING FACE, RELIEVED FACE, SMIRKING FACE, NEUTRAL FACE, EXPRESSIONLESS FACE,
     UNAMUSED FACE, PENSIVE FACE, CONFUSED FACE, CONFOUNDED FACE, WORRIED FACE, ANGRY FACE,
     PERSEVERING FACE, FROWNING FACE WITH OPEN MOUTH, ANGUISHED FACE, FEARFUL FACE, SLEEPY FACE,
     TIRED FACE, GRIMACING FACE, LOUDLY CRYING FACE, HUSHED FACE, ASTONISHED FACE, FLUSHED FACE,
     UPSIDE-DOWN FACE, SEE-NO-EVIL MONKEY, HEAR-NO-EVIL MONKEY, SPEAK-NO-EVIL MONKEY,
     HAPPY PERSON RAISING ONE HAND, ROCKET, HELICOPTER, STEAM LOCOMOTIVE, HIGH-SPEED TRAIN,
     HIGH-SPEED TRAIN WITH BULLET NOSE, TRAIN, METRO, STATION, TRAM, TRAM CAR, BUS, BUS STOP,
     TROLLEYBUS, MINIBUS, AMBULANCE, TAXI, AUTOMOBILE, RECREATIONAL VEHICLE, DELIVERY TRUCK,
     ARTICULATED LORRY, TRACTOR, MONORAIL, SUSPENSION RAILWAY, AERIAL TRAMWAY, SHIP, ROWBOAT,
     SPEEDBOAT, DOOR, SMOKING SYMBOL, PUT LITTER IN ITS PLACE SYMBOL, DO NOT LITTER SYMBOL,
     POTABLE WATER SYMBOL, NON-POTABLE WATER SYMBOL, BICYCLE, BICYCLIST, PEDESTRIAN,
     CHILDREN CROSSING, MENS SYMBOL, WOMENS SYMBOL, RESTROOM, TOILET, SHOWER, BATH, BATHTUB,
     PASSPORT CONTROL, CUSTOMS, BAGGAGE CLAIM, TRIANGLE WITH ROUNDED CORNERS, PROHIBITED SIGN,
     BOYS SYMBOL, GIRLS SYMBOL, COUCH AND LAMP, BELLHOP BELL, BED, PLACE OF WORSHIP,
     OCTAGONAL SIGN, STUPA, PAGODA, HINDU TEMPLE, HUT, ELEVATOR, PLAYGROUND SLIDE, SHIELD,
     OIL DRUM, MOTORWAY, NORTHEAST-POINTING AIRPLANE, DIESEL LOCOMOTIVE, PASSENGER SHIP, SCOOTER,
     CANOE, SLED, SKATEBOARD, AUTO RICKSHAW, PICKUP TRUCK, PINCHED FINGERS, BROWN HEART,
     PINCHING HAND, ZIPPER-MOUTH FACE, MONEY-MOUTH FACE, NERD FACE, THINKING FACE, ROBOT FACE,
     HUGGING FACE, SIGN OF THE HORNS, CALL ME HAND, LEFT-FACING FIST, RIGHT-FACING FIST,
     HANDSHAKE, HAND WITH INDEX AND MIDDLE FINGERS CROSSED, I LOVE YOU HAND SIGN, CLOWN FACE,
     NAUSEATED FACE, ROLLING ON THE FLOOR LAUGHING, DROOLING FACE, LYING FACE, SNEEZING FACE,
     SERIOUS FACE WITH SYMBOLS COVERING MOUTH, SHOCKED FACE WITH EXPLODING HEAD, PREGNANT WOMAN,
     BREAST-FEEDING, PALMS UP TOGETHER, SELFIE, PRINCE, MOTHER CHRISTMAS, SHRUG, JUGGLING, FENCER,
     MODERN PENTATHLON, WRESTLERS, HANDBALL, DIVING MASK, WILTED FLOWER, DRUM WITH DRUMSTICKS,
     TUMBLER GLASS, SPOON, GOAL NET, RIFLE, SECOND PLACE MEDAL, THIRD PLACE MEDAL, BOXING GLOVE,
     MARTIAL ARTS UNIFORM, CURLING STONE, LACROSSE STICK AND BALL, SOFTBALL, CROISSANT, AVOCADO,
     CUCUMBER, BACON, POTATO, CARROT, BAGUETTE BREAD, SHALLOW PAN OF FOOD, STUFFED FLATBREAD, EGG,
     GLASS OF MILK, PEANUTS, KIWIFRUIT, PANCAKES, DUMPLING, FORTUNE COOKIE, TAKEOUT BOX,
     CHOPSTICKS, COCONUT, BROCCOLI, PIE, PRETZEL, CUT OF MEAT, SANDWICH, CANNED FOOD, LEAFY GREEN,
     MANGO, BAGEL, YAWNING FACE, OVERHEATED FACE, FREEZING FACE, NINJA, DISGUISED FACE, SARI,
     LAB COAT, GOGGLES, HIKING BOOT, FLAT SHOE, CRAB, LION FACE, SCORPION, TURKEY, UNICORN FACE,
     EAGLE, DUCK, BAT, SHARK, OWL, FOX FACE, BUTTERFLY, DEER, GORILLA, LIZARD, RHINOCEROS, SHRIMP,
     SQUID, GIRAFFE FACE, ZEBRA FACE, HEDGEHOG, SAUROPOD, T-REX, KANGAROO, LLAMA, PEACOCK,
     HIPPOPOTAMUS, PARROT, RACCOON, LOBSTER, MOSQUITO, MICROBE, BADGER, SWAN, MAMMOTH, DODO,
     SLOTH, OTTER, ORANGUTAN, SKUNK, FLAMINGO, OYSTER, BEAVER, BISON, SEAL, GUIDE DOG,
     PROBING CANE, BONE, LEG, FOOT, TOOTH, SUPERHERO, SUPERVILLAIN, MOTORIZED WHEELCHAIR,
     MANUAL WHEELCHAIR, CHEESE WEDGE, CUPCAKE, SALT SHAKER, BEVERAGE BOX, GARLIC, ONION, FALAFEL,
     WAFFLE, BUTTER, MATE DRINK, BUBBLE TEA, TROLL, STANDING PERSON, KNEELING PERSON, DEAF PERSON,
     ADULT, CHILD, BEARDED PERSON, MAGE, FAIRY, VAMPIRE, MERPERSON, ELF, GENIE, ZOMBIE, BRAIN,
     BILLED CAP, SCARF, GLOVES, COAT, SOCKS, FIRECRACKER, JIGSAW PUZZLE PIECE, TEST TUBE,
     PETRI DISH, DNA DOUBLE HELIX, COMPASS, ABACUS, TOOLBOX, BRICK, MAGNET, LUGGAGE,
     LOTION BOTTLE, SPOOL OF THREAD, BALL OF YARN, TEDDY BEAR, BROOM, BASKET, ROLL OF PAPER,
     SPONGE, RECEIPT, NAZAR AMULET")]

private def pictureNamesPart3 : List (String × String) :=
  [("CIRCLE WITH", "VERTICAL FILL, LEFT HALF BLACK, RIGHT HALF BLACK, LOWER HALF BLACK,
     UPPER HALF BLACK, UPPER RIGHT QUADRANT BLACK, ALL BUT UPPER LEFT QUADRANT BLACK"),
   ("LEFT", "HALF BLACK CIRCLE, HALF CIRCLE, CLOSED ENTRY, HAND TELEPHONE RECEIVER, WRITING HAND,
     SPEECH BUBBLE, THOUGHT BUBBLE, ANGER BUBBLE, LUGGAGE"),
   ("LEFT HALF CIRCLE WITH", "FOUR DOTS, THREE DOTS, TWO DOTS, DOT"),
   ("RIGHT", "HALF BLACK CIRCLE, SPEAKER, HAND TELEPHONE RECEIVER, SPEECH BUBBLE, THOUGHT BUBBLE,
     ANGER BUBBLE"),
   ("RIGHT SPEAKER WITH", "ONE SOUND WAVE, THREE SOUND WAVES"),
   ("INVERSE", "BULLET, WHITE CIRCLE"),
   ("UPPER", "HALF INVERSE WHITE CIRCLE, HALF CIRCLE, LEFT QUADRANT CIRCULAR ARC, LEFT TRIANGLE,
     BLADE SCISSORS"),
   ("UPPER RIGHT", "QUADRANT CIRCULAR ARC, TRIANGLE, PENCIL, DROP-SHADOWED WHITE SQUARE,
     SHADOWED WHITE SQUARE, SHADOWED WHITE CIRCLE"),
   ("LOWER", "HALF INVERSE WHITE CIRCLE, HALF CIRCLE, BLADE SCISSORS"),
   ("LOWER RIGHT", "QUADRANT CIRCULAR ARC, TRIANGLE, PENCIL, DROP-SHADOWED WHITE SQUARE,
     SHADOWED WHITE SQUARE, SHADOWED WHITE CIRCLE"),
   ("LOWER LEFT", "QUADRANT CIRCULAR ARC, TRIANGLE, PENCIL, BALLPOINT PEN, FOUNTAIN PEN,
     PAINTBRUSH, CRAYON"),
   ("UP-POINTING", "TRIANGLE WITH LEFT HALF BLACK, TRIANGLE WITH RIGHT HALF BLACK, RED TRIANGLE,
     SMALL RED TRIANGLE, SMALL AIRPLANE, MILITARY AIRPLANE, AIRPLANE"),
   ("LARGE", "CIRCLE, RED CIRCLE, BLUE CIRCLE, BLUE DIAMOND, ORANGE DIAMOND"),
   ("CLOUD WITH", "RAIN, SNOW, LIGHTNING, TORNADO"),
   ("BALLOT", "BOX, X, SCRIPT X, BOLD SCRIPT X"),
   ("BALLOT BOX WITH", "CHECK, X, BALLOT, SCRIPT X, BOLD SCRIPT X, BOLD CHECK"),
   ("HOT", "BEVERAGE, SPRINGS, DOG, PEPPER"),
   ("REVERSED", "ROTATED FLORAL HEART BULLET, RAISED HAND WITH FINGERS SPLAYED, THUMBS UP SIGN,
     THUMBS DOWN SIGN, VICTORY HAND, HAND WITH MIDDLE FINGER EXTENDED"),
   ("CROSS", "OF LORRAINE, OF JERUSALEM, MARK, POMMEE WITH HALF-CIRCLE BELOW, POMMEE"),
   ("STAR", "AND CRESCENT, OF DAVID"),
   ("HAMMER AND", "SICKLE, PICK, WRENCH"),
   ("TRIGRAM FOR", "HEAVEN, LAKE, FIRE, THUNDER, WIND, WATER, MOUNTAIN, EARTH"),
   ("FIRST", "QUARTER MOON, QUARTER MOON SYMBOL, QUARTER MOON WITH FACE, PLACE MEDAL"),
   ("EARTH GLOBE", "EUROPE-AFRICA, AMERICAS, ASIA-AUSTRALIA"),
   ("MALE", "SIGN, AND FEMALE SIGN"),
   ("MALE WITH STROKE", "SIGN, AND MALE AND FEMALE SIGN"),
   ("BEAMED", "EIGHTH NOTES, SIXTEENTH NOTES, ASCENDING MUSICAL NOTES, DESCENDING MUSICAL NOTES"),
   ("MUSIC", "FLAT SIGN, NATURAL SIGN, SHARP SIGN"),
   ("RECYCLING SYMBOL FOR", "TYPE-1 PLASTICS, TYPE-2 PLASTICS, TYPE-3 PLASTICS, TYPE-4 PLASTICS,
     TYPE-5 PLASTICS, TYPE-6 PLASTICS, TYPE-7 PLASTICS, GENERIC MATERIALS"),
   ("DIE", "FACE-1, FACE-2, FACE-3, FACE-4, FACE-5, FACE-6"),
   ("MONOGRAM FOR", "YANG, YIN"),
   ("DIGRAM FOR GREATER", "YANG, YIN"),
   ("DIGRAM FOR LESSER", "YIN, YANG"),
   ("CROSSED", "SWORDS, FLAGS"),
   ("STAFF OF", "AESCULAPIUS, HERMES"),
   ("OUTLINED", "WHITE STAR, GREEK CROSS, LATIN CROSS, BLACK STAR"),
   ("THREE LINES CONVERGING", "RIGHT, LEFT"),
   ("THREE", "NETWORKED COMPUTERS, BUTTON MOUSE, SPEECH BUBBLES"),
   ("THREE RAYS", "ABOVE, BELOW, LEFT, RIGHT"),
   ("HIGH", "VOLTAGE SIGN, BRIGHTNESS SYMBOL"),
   ("DOUBLED", "FEMALE SIGN, MALE SIGN"),
   ("VERTICAL", "MALE WITH STROKE SIGN, TRAFFIC LIGHT"),
   ("HORIZONTAL", "MALE WITH STROKE SIGN, TRAFFIC LIGHT"),
   ("MEDIUM", "WHITE CIRCLE, BLACK CIRCLE, SMALL WHITE CIRCLE, VERTICAL BAR,
     LEFT PARENTHESIS ORNAMENT, LEFT CURLY BRACKET ORNAMENT, RIGHT PARENTHESIS ORNAMENT,
     RIGHT CURLY BRACKET ORNAMENT, FLATTENED LEFT PARENTHESIS ORNAMENT,
     FLATTENED RIGHT PARENTHESIS ORNAMENT, LEFT-POINTING ANGLE BRACKET ORNAMENT,
     RIGHT-POINTING ANGLE BRACKET ORNAMENT"),
   ("SQUARED", "KEY, SALTIRE"),
   ("TURNED", "WHITE SHOGI PIECE, BLACK SHOGI PIECE, OK HAND SIGN"),
   ("CIRCLED", "CROSSING LANES, WHITE STAR, OPEN CENTRE EIGHT POINTED STAR,
     HEAVY WHITE RIGHTWARDS ARROW, CROSS POMMEE, CROSS FORMEE, INFORMATION SOURCE"),
   ("CIRCLED CROSS FORMEE WITH", "FOUR DOTS, TWO DOTS"),
   ("NO", "ENTRY, ENTRY SIGN, MOBILE PHONES, ONE UNDER EIGHTEEN SYMBOL, PIRACY, SMOKING SYMBOL,
     BICYCLES, PEDESTRIANS"),
   ("HEAVY", "WHITE DOWN-POINTING TRIANGLE, CIRCLE WITH STROKE AND TWO DOTS ABOVE, CHECK MARK,
     MULTIPLICATION X, BALLOT X, GREEK CROSS, OPEN CENTRE CROSS, FOUR BALLOON-SPOKED ASTERISK,
     OUTLINED BLACK STAR, ASTERISK, EIGHT POINTED RECTILINEAR BLACK STAR,
     EIGHT TEARDROP-SPOKED PROPELLER ASTERISK, CHEVRON SNOWFLAKE, SPARKLE, VERTICAL BAR,
     SINGLE TURNED COMMA QUOTATION MARK ORNAMENT, SINGLE COMMA QUOTATION MARK ORNAMENT,
     DOUBLE TURNED COMMA QUOTATION MARK ORNAMENT, DOUBLE COMMA QUOTATION MARK ORNAMENT,
     LOW SINGLE COMMA QUOTATION MARK ORNAMENT, LOW DOUBLE COMMA QUOTATION MARK ORNAMENT,
     HEART EXCLAMATION MARK ORNAMENT, BLACK HEART, WIDE-HEADED RIGHTWARDS ARROW, PLUS SIGN,
     MINUS SIGN, DIVISION SIGN, SOUTH EAST ARROW, RIGHTWARDS ARROW, NORTH EAST ARROW,
     ROUND-TIPPED RIGHTWARDS ARROW, TRIANGLE-HEADED RIGHTWARDS ARROW,
     DASHED TRIANGLE-HEADED RIGHTWARDS ARROW, CONCAVE-POINTED BLACK RIGHTWARDS ARROW,
     LOWER RIGHT-SHADOWED WHITE RIGHTWARDS ARROW, UPPER RIGHT-SHADOWED WHITE RIGHTWARDS ARROW,
     TEARDROP-SHANKED RIGHTWARDS ARROW, WEDGE-TAILED RIGHTWARDS ARROW, DOLLAR SIGN, LATIN CROSS"),
   ("HEAVY TEARDROP-SPOKED", "ASTERISK, PINWHEEL ASTERISK"),
   ("HEAVY EXCLAMATION MARK", "SYMBOL, ORNAMENT"),
   ("HEAVY BLACK CURVED", "DOWNWARDS AND RIGHTWARDS ARROW, UPWARDS AND RIGHTWARDS ARROW"),
   ("HEAVY LEFT-POINTING ANGLE", "QUOTATION MARK ORNAMENT, BRACKET ORNAMENT"),
   ("HEAVY RIGHT-POINTING ANGLE", "QUOTATION MARK ORNAMENT, BRACKET ORNAMENT"),
   ("HEAVY BLACK-FEATHERED", "SOUTH EAST ARROW, RIGHTWARDS ARROW, NORTH EAST ARROW"),
   ("RESTRICTED LEFT", "ENTRY-1, ENTRY-2"),
   ("ICE", "SKATE, CREAM, HOCKEY STICK AND PUCK, CUBE"),
   ("PERSON WITH", "BALL, BLOND HAIR, POUTING FACE, FOLDED HANDS, HEADSCARF"),
   ("PERSON", "BOWING DEEPLY, RAISING BOTH HANDS IN CELEBRATION, FROWNING, DOING CARTWHEEL,
     IN STEAMY ROOM, IN LOTUS POSITION, CLIMBING"),
   ("JAPANESE", "BANK SYMBOL, DOLLS, POST OFFICE, CASTLE, OGRE, GOBLIN, SYMBOL FOR BEGINNER"),
   ("CUP", "ON BLACK SQUARE, WITH STRAW"),
   ("TELEPHONE", "LOCATION SIGN, RECEIVER, RECEIVER WITH PAGE, ON TOP OF MODEM"),
   ("TAPE", "DRIVE, CARTRIDGE"),
   ("ENVELOPE WITH", "DOWNWARDS ARROW ABOVE, LIGHTNING"),
   ("RAISED", "FIST, HAND, HAND WITH FINGERS SPLAYED,
     HAND WITH PART BETWEEN MIDDLE AND RING FINGERS, BACK OF HAND"),
   ("OPEN CENTRE", "CROSS, BLACK STAR, ASTERISK, TEARDROP-SPOKED ASTERISK"),
   ("OPEN", "HANDS SIGN, FILE FOLDER, BOOK, LOCK, FOLDER"),
   ("OPEN MAILBOX WITH", "RAISED FLAG, LOWERED FLAG"),
   ("SHADOWED WHITE", "LATIN CROSS, STAR, CIRCLE"),
   ("FOUR", "TEARDROP-SPOKED ASTERISK, BALLOON-SPOKED ASTERISK, CLUB-SPOKED ASTERISK,
     LEAF CLOVER"),
   ("EIGHT", "SPOKED ASTERISK, PETALLED OUTLINED BLACK FLORETTE,
     TEARDROP-SPOKED PROPELLER ASTERISK"),
   ("EIGHT POINTED", "BLACK STAR, PINWHEEL STAR, RECTILINEAR BLACK STAR"),
   ("SIX POINTED", "BLACK STAR, STAR WITH MIDDLE DOT"),
   ("LIGHT", "VERTICAL BAR, LEFT TORTOISE SHELL BRACKET ORNAMENT,
     RIGHT TORTOISE SHELL BRACKET ORNAMENT, CHECK MARK, RAIL"),
   ("ROTATED", "HEAVY BLACK HEART BULLET, FLORAL HEART BULLET"),
   ("DINGBAT NEGATIVE CIRCLED DIGIT", "ONE, TWO, THREE, FOUR, FIVE, SIX, SEVEN, EIGHT, NINE"),
   ("DINGBAT NEGATIVE CIRCLED", "NUMBER TEN, SANS-SERIF NUMBER TEN"),
   ("DINGBAT NEGATIVE CIRCLED SANS-SERIF DIGIT", "ONE, TWO, THREE, FOUR, FIVE, SIX, SEVEN, EIGHT,
     NINE"),
   ("DINGBAT CIRCLED SANS-SERIF DIGIT", "ONE, TWO, THREE, FOUR, FIVE, SIX, SEVEN, EIGHT, NINE"),
   ("THREE-D", "TOP-LIGHTED RIGHTWARDS ARROWHEAD, BOTTOM-LIGHTED RIGHTWARDS ARROWHEAD"),
   ("NOTCHED", "LOWER RIGHT-SHADOWED WHITE RIGHTWARDS ARROW,
     UPPER RIGHT-SHADOWED WHITE RIGHTWARDS ARROW, LEFT SEMICIRCLE WITH THREE DOTS,
     RIGHT SEMICIRCLE WITH THREE DOTS"),
   ("BLACK-FEATHERED", "SOUTH EAST ARROW, RIGHTWARDS ARROW, NORTH EAST ARROW"),
   ("CLOSED", "UMBRELLA, BOOK, LOCK WITH KEY"),
   ("CLOSED MAILBOX WITH", "LOWERED FLAG, RAISED FLAG"),
   ("WATER", "WAVE, BUFFALO, CLOSET, POLO"),
   ("NEW MOON", "SYMBOL, WITH FACE"),
   ("WAXING", "CRESCENT MOON SYMBOL, GIBBOUS MOON SYMBOL"),
   ("FULL MOON", "SYMBOL, WITH FACE"),
   ("WANING", "GIBBOUS MOON SYMBOL, CRESCENT MOON SYMBOL"),
   ("WIND", "BLOWING FACE, CHIME"),
   ("EAR OF", "MAIZE, RICE"),
   ("RED", "APPLE, GIFT ENVELOPE"),
   ("GREEN", "APPLE, HEART, BOOK, SALAD")]

private def pictureNamesPart4 : List (String × String) :=
  [("RICE", "CRACKER, BALL"),
   ("SOFT", "ICE CREAM, SHELL FLOPPY DISK"),
   ("TROPICAL", "DRINK, FISH"),
   ("CLINKING", "BEER MUGS, GLASSES"),
   ("MOON", "VIEWING CEREMONY, CAKE"),
   ("HEART WITH", "TIP ON THE LEFT, ARROW, RIBBON"),
   ("MUSICAL", "KEYBOARD WITH JACKS, KEYBOARD, NOTE, SCORE"),
   ("FILM", "FRAMES, PROJECTOR"),
   ("ROLLER", "COASTER, SKATE"),
   ("TOP", "HAT, WITH UPWARDS ARROW ABOVE"),
   ("VIDEO", "GAME, CAMERA"),
   ("RACING", "MOTORCYCLE, CAR"),
   ("HOUSE", "BUILDINGS, BUILDING, WITH GARDEN"),
   ("EUROPEAN", "POST OFFICE, CASTLE"),
   ("LOVE", "HOTEL, LETTER"),
   ("WAVING", "WHITE FLAG, BLACK FLAG, HAND SIGN"),
   ("EMOJI MODIFIER FITZPATRICK", "TYPE-1-2, TYPE-3, TYPE-4, TYPE-5, TYPE-6"),
   ("EMOJI COMPONENT", "RED HAIR, CURLY HAIR, BALD, WHITE HAIR"),
   ("CAT FACE WITH", "TEARS OF JOY, WRY SMILE"),
   ("SPIRAL", "SHELL, NOTE PAD, CALENDAR PAD"),
   ("THUMBS", "UP SIGN, DOWN SIGN"),
   ("WOMANS", "HAT, CLOTHES, SANDAL, BOOTS"),
   ("MAN WITH", "GUA PI MAO, TURBAN"),
   ("MAN IN", "BUSINESS SUIT LEVITATING, TUXEDO"),
   ("TWO", "MEN HOLDING HANDS, WOMEN HOLDING HANDS, HEARTS, BUTTON MOUSE, SPEECH BUBBLES"),
   ("POLICE", "OFFICER, CAR, CARS REVOLVING LIGHT"),
   ("OLDER", "MAN, WOMAN, ADULT"),
   ("CONSTRUCTION", "WORKER, SIGN"),
   ("FACE", "MASSAGE, SAVOURING DELICIOUS FOOD, THROWING A KISS, SCREAMING IN FEAR, WITHOUT MOUTH,
     PALM, HOLDING BACK TEARS"),
   ("FACE WITH", "TEARS OF JOY, COLD SWEAT, STUCK-OUT TONGUE, LOOK OF TRIUMPH, OPEN MOUTH,
     OPEN MOUTH AND COLD SWEAT, OPEN MOUTH VOMITING, MEDICAL MASK, ROLLING EYES, NO GOOD GESTURE,
     OK GESTURE, THERMOMETER, HEAD-BANDAGE, COWBOY HAT, ONE EYEBROW RAISED,
     FINGER COVERING CLOSED LIPS, PARTY HORN AND PARTY HAT, UNEVEN EYES AND WAVY MOUTH,
     PLEADING EYES, MONOCLE"),
   ("FACE WITH STUCK-OUT TONGUE AND", "WINKING EYE, TIGHTLY-CLOSED EYES"),
   ("BLUE", "HEART, BOOK"),
   ("ELECTRIC", "LIGHT BULB, PLUG, TORCH"),
   ("SLEEPING", "SYMBOL, FACE, ACCOMMODATION"),
   ("DIZZY", "SYMBOL, FACE"),
   ("MONEY", "BAG, WITH WINGS"),
   ("BANKNOTE WITH", "YEN SIGN, DOLLAR SIGN, EURO SIGN, POUND SIGN"),
   ("CHART WITH", "UPWARDS TREND AND YEN SIGN, UPWARDS TREND, DOWNWARDS TREND"),
   ("FILE", "FOLDER, CABINET"),
   ("PAGE WITH", "CURL, CIRCLED TEXT"),
   ("CARD", "INDEX, INDEX DIVIDERS, FILE BOX"),
   ("BAR", "CHART, OF SOAP"),
   ("TRIANGULAR", "RULER, FLAG ON POST"),
   ("ORANGE", "BOOK, HEART"),
   ("FAX", "MACHINE, ICON"),
   ("CLOCKWISE", "RIGHTWARDS AND LEFTWARDS OPEN CIRCLE ARROWS,
     RIGHTWARDS AND LEFTWARDS OPEN CIRCLE ARROWS WITH CIRCLED ONE OVERLAY,
     DOWNWARDS AND UPWARDS OPEN CIRCLE ARROWS, RIGHT AND LEFT SEMICIRCLE ARROWS"),
   ("SPEAKER WITH", "CANCELLATION STROKE, ONE SOUND WAVE, THREE SOUND WAVES"),
   ("BACK", "WITH LEFTWARDS ARROW ABOVE, OF ENVELOPE"),
   ("INPUT SYMBOL FOR", "LATIN CAPITAL LETTERS, LATIN SMALL LETTERS, LATIN LETTERS, NUMBERS,
     SYMBOLS"),
   ("SMALL", "ORANGE DIAMOND, BLUE DIAMOND, AIRPLANE"),
   ("DOWN-POINTING", "RED TRIANGLE, SMALL RED TRIANGLE"),
   ("BOWL", "OF HYGIEIA, WITH SPOON"),
   ("CLOCK FACE", "ONE OCLOCK, TWO OCLOCK, THREE OCLOCK, FOUR OCLOCK, FIVE OCLOCK, SIX OCLOCK,
     SEVEN OCLOCK, EIGHT OCLOCK, NINE OCLOCK, TEN OCLOCK, ELEVEN OCLOCK, TWELVE OCLOCK,
     ONE-THIRTY, TWO-THIRTY, THREE-THIRTY, FOUR-THIRTY, FIVE-THIRTY, SIX-THIRTY, SEVEN-THIRTY,
     EIGHT-THIRTY, NINE-THIRTY, TEN-THIRTY, ELEVEN-THIRTY, TWELVE-THIRTY"),
   ("FLYING", "ENVELOPE, SAUCER, DISC"),
   ("SIDEWAYS WHITE", "LEFT POINTING INDEX, RIGHT POINTING INDEX, UP POINTING INDEX,
     DOWN POINTING INDEX"),
   ("SIDEWAYS BLACK", "LEFT POINTING INDEX, RIGHT POINTING INDEX, UP POINTING INDEX,
     DOWN POINTING INDEX"),
   ("DESKTOP", "COMPUTER, WINDOW"),
   ("OLD", "PERSONAL COMPUTER, KEY"),
   ("DOCUMENT WITH", "TEXT, TEXT AND PICTURE, PICTURE"),
   ("FRAME WITH", "PICTURE, TILES, AN X"),
   ("EMPTY", "NOTE, NOTE PAGE, NOTE PAD, DOCUMENT, PAGE, PAGES"),
   ("GRINNING", "FACE, CAT FACE WITH SMILING EYES"),
   ("GRINNING FACE WITH", "SMILING EYES, STAR EYES, ONE LARGE AND ONE SMALL EYE"),
   ("SMILING FACE WITH", "OPEN MOUTH, HALO, HORNS, SMILING EYES,
     SMILING EYES AND HAND COVERING MOUTH, SMILING EYES AND THREE HEARTS, HEART-SHAPED EYES,
     SUNGLASSES, TEAR"),
   ("SMILING FACE WITH OPEN MOUTH AND", "SMILING EYES, COLD SWEAT, TIGHTLY-CLOSED EYES"),
   ("SMILING CAT FACE WITH", "OPEN MOUTH, HEART-SHAPED EYES"),
   ("KISSING", "FACE, FACE WITH SMILING EYES, FACE WITH CLOSED EYES, CAT FACE WITH CLOSED EYES"),
   ("DISAPPOINTED", "FACE, BUT RELIEVED FACE"),
   ("POUTING", "FACE, CAT FACE"),
   ("CRYING", "FACE, CAT FACE"),
   ("WEARY", "FACE, CAT FACE"),
   ("SLIGHTLY", "FROWNING FACE, SMILING FACE"),
   ("RAILWAY", "CAR, TRACK"),
   ("ONCOMING", "BUS, POLICE CAR, TAXI, AUTOMOBILE, FIRE ENGINE"),
   ("SHOPPING", "BAGS, TROLLEY"),
   ("MOTOR", "BOAT, SCOOTER"),
   ("DOWNWARD FACING", "HOOK, HOOK WITH DOT, NOTCHED HOOK, NOTCHED HOOK WITH DOT"),
   ("SAFETY", "VEST, PIN"),
   ("MECHANICAL", "ARM, LEG")]

/-- The names of shapes and pictures. -/
def pictureNames : List (String × String) :=
  [pictureNamesPart1, pictureNamesPart2, pictureNamesPart3, pictureNamesPart4].flatten

end InteropGen.Text
