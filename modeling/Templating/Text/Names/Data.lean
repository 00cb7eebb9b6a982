/-!
# Character names

The names of the characters of Unicode 14.0, and their aliases, as the escape `\N{...}` names
characters. Two families of names are not listed but follow a rule, and three are listed by the
code points they hold: a name there is its prefix and the code point's own capital hexadecimal.

The listed names are held as text, a line a name, lines ending at `|`, in order of code point. A line of `@` and
hexadecimal digits gives the code point of the next name, and every other name is that of the
code point after the one before. A name line starts with the number of leading words it shares
with the name before it, written as the character that many places after `0`; then come its other
words, each written as one character that stands for a word of `nameWordText`, or as `~`, the word
itself and a space.
-/

namespace Templating.Text

/-- The words of the names that occur more than once, most frequent first, separated by
spaces. -/
def nameWordText : String := "LETTER SIGN WITH SMALL SYLLABLE CAPITAL HIEROGLYPH LATIN ARABIC YI CUNEIFORM SYMBOL MATHEMATICAL EGYPTIAN DIGIT FORM VOWEL TANGUT CANADIAN SYLLABICS A SIGNWRITING TIMES BAMUM AND BOLD ANATOLIAN ARROW HANGUL NUMBER LINEAR COMBINING LIGATURE GREEK ETHIOPIC MUSICAL OLD RIGHT ABOVE LEFT FOR CYRILLIC MARK SQUARE ITALIC CIRCLED U SANS-SERIF RADICAL ONE FINAL DOUBLE TAI O TWO BLACK E BELOW I DOT VAI MODIFIER B WHITE THREE HENTAIGANA TO VARIATION PATTERN BRAILLE BYZANTINE STROKE OF KATAKANA ISOLATED HEAVY FOUR MIDDLE MYANMAR VERTICAL KANGXI MENDE KIKAKUI HOOK TIBETAN FIVE INITIAL CJK MEEM HMONG KA RIGHTWARDS YEH COPTIC ZNAMENNY CARRIER UP PLUS R S SQUARED BOX GEORGIAN CHEROKEE MONGOLIAN INDEX FACE LOWER LEFTWARDS DEVANAGARI HALF L BLOCK PHASE-E DOWN UPPER EIGHT SIX ALEF BAR CIRCLE MIAO VOCALIC LIGHT KHMER TILE DRAWINGS DUPLOYAN SEVEN JONGSEONG BRACKET HA THAM PARENTHESIZED NINE LOW TONE HUNDRED GONDI HIGH HEBREW DOTS GLAGOLITIC TAMIL OVER THUMB MALAYALAM SIYAQ PAHAWH CHOSEONG PA BALINESE N HAND-FIST RA HALFWIDTH MEROITIC SCRIPT IDEOGRAPHIC RING TURNED IDEOGRAM PHASE-D EQUAL HAH HORIZONTAL NEUME ALCHEMICAL MA BRAHMI LONG THOUSAND LA TRIANGLE NA NUMERIC M OPEN YA SINHALA TA MEDIUM HUNGARIAN TILDE DOWNWARDS SA BARB DIAGONAL UPWARDS NORTH TAG DA FULLWIDTH G JEEM CHARACTER T PUNCTUATION GA K TELUGU DOMINO H V NEGATIVE CYPRO-MINOAN FRAKTUR FRACTION SIDDHAM MEDIAL PHASE-C D DOUBLE-STRUCK NEWA BHAIKSUKI ARMENIAN BENGALI CHESS SHARADA Z OR JUNGSEONG HIRAGANA MEDEFAIDRIN ACUTE ZERO Y BA LARGE SYRIAC GUJARATI ORIYA KANNADA IDEOGRAPH JAVANESE WEST-CREE CURSIVE AA RUNIC TANGSA CONSONANT NEW SOUTH ADLAM C THAI PHASE-A CARD REVERSED LAO P X SOGDIAN SINGLE GRANTHA SUBJOINED LUE WARANG CITI MOVEMENT-WALLPLANE DASIA TEN CHAM SOYOMBO PLAYING SAURASHTRA TIRHUTA W CIRCUMFLEX LINE AI TETRAGRAM HAMZA II GURMUKHI DESERET J PSILI NOTATION TRIANGLE-HEADED MEETEI MAYEK MODI NUMERAL POINTING INDIC GA2 MOVEMENT-FLOORPLANE DIAERESIS ARROWHEAD NGA AU BOPOMOFO MASARAM STOP SHA JA LAM UU LEPCHA OMEGA CA WA VIET TURKIC F ALPHA SHORT SUNDANESE OSAGE DIVES AKURU ZANABAZAR LITTLE CHAKMA NYIAKENG PUACHUE GRAVE APL FUNCTIONAL VITHKUQI MAKSURA ON TELEGRAPH KHUDAWADI ACCENT MACRON KHAH NOON LIMBU KHAROSHTHI KAITHI TAKRI MARCHEN INVERTED CHA NOT CENTRE NYA KHA LI ORNAMENT AHOM NANDINAGARI IN ROTATED HARPOON HEXAGRAM ARABIAN ANGLE EAST GUNJALA LAGAB NKO SAMARITAN VARIA OXIA KHOJKI MONOSPACE COMMA TAIL THA OTTOMAN LESS-THAN GREATER-THAN Q TRIPLE STAR DOGRA NUN TIFINAGH WANCHO HAU BREVE AEGEAN INSCRIPTIONAL PAU CIN ETA EN ASH BATAK PHAGS-PA PAHLAVI GUNU PHASE-B PHA VA WEST CYPRIOT AVESTAN IOTA PHASE-F HITTING TEH PERSIAN ANUSVARA ACROPHONIC CAUCASIAN ALBANIAN DEGREES FULL CROSS PI ROMAN UNIFIED SEEN TTA ROHINGYA KAYAH MANICHAEAN ZA KAF THAANA DDA HANIFI HEH GHA LE TWENTY OL MOUTH LISU DISC CARIAN UPSILON OO DHA VEDIC CHIKI SHAVIAN PERISPOMENI PE TOP DIAMOND OPERATOR YEZIDI PARENTHESIS ASTERISK SHAN SHE MTAVRULI PHAISTOS CARON BEH AIN NNA SYLOTI NAGRI OE CLOSED SHEEN BHA THE MAHJONG ALI GALI PERMIC MRO RETROFLEX DOTTED WAW EE TTHA DASH NEUTRAL ORKHON TENU HE FA SSA NO VIRAMA WIDE-HEADED ARCHAIC MU YU DESCENDER TAH SUBSCRIPT DDHA RR ALTERNATE OSMANYA ELBASAN NABATAEAN BASSA END CURVE MAHAJANI SECTION QUARTER YPOGEGRAMMENI EPSILON REH FEH VISARGA EIGHTH NINETY MULTANI TE POINTED AN BOTTOM HI CORNER REJANG VAH INSTRUMENTAL EQUALS CURLY STRAIGHT QAF JHA FROM LU2 SIDE GLOTTAL TACK ARABIC-INDIC LL NI NE FIFTY SORA SOMPENG HORN RAISED CANDRABINDU SEPARATOR SAD ME SEVENTY DUG PRESENTATION STRELA COLON INDICATOR AE SHIN WAVE NU DAD DAY YO SHELL CROSSING DINGBAT VARIANT PALMYRENE HIEROGLYPHIC IGI AFFIX DIGRAPH YUS VERY HAND UGARITIC IMPERIAL ARAMAIC YENISEI RUMI EZEN HAND-HINGE FINGERS TOTO QUOTATION OMICRON DANDA TSA MI THIRTY BUGINESE HEART BENT PARTHIAN QUESTION CEDILLA PALATAL MANDAIC OGHAM GAR TODO LOGICAL MOON VESSEL LYCIAN PHOENICIAN PSALTER SAG KISIM5 VOCAL CONJOINED SUPERSCRIPT RHO HEAD LLA UD PROSGEGRAMMENI KNIGHT SLANTED EPACT CHORASMIAN AT LOOP HO POINT SO RO FORTY DAG CLOCK NOTE GOTHIC LYDIAN NINDA2 URU NEO HAND-FLAT LOOPED EXCLAMATION SIGMA CHI WE GHAIN LU BU KHAMTI BETWEEN SUBSET SUPERSET TORTOISE HOUR LAING HATRAN UYGHUR EYES REGIONAL SHAFT PHI STRETCHED THETA NUKTA KO GI TU QUAD INTEGRAL UNDERBAR MAKASAR NOTEHEAD SOLIDUS RIGHT-POINTING CHE DAGESH THEH WO SI KI INDEPENDENT QUADRANT SMILING EQUILATERAL ATTIC REVERSE OVERLAY EL WORD UE RU TAGALOG SIBE DISH ELYMAIC ALTERNATING SPACE GAMMA CURL TRIANGULAR DE ZE NG EXTENDED ZHA MO MAI SU KU MAN WI SE PERSON ARM C-SIMPLIFIED LEAF GAN2 GISH DOTLESS MINUS AB ATTACHED THO LO KE HANUNOO MANCHU ANTICLOCKWISE TIP LEFT-POINTING DELTA LEG QA RRA DO BUHID INSULAR UNION ARC CURVED CLAN MAYAN HINGED VULGAR ESH TONOS BETA ABBREVIATION MEM DAL INSIDE SIDEWAYS TI BI DU DI TWO-HEADED RED ANNOTATION KUR BAD AB2 ARCHAION FTHORA FORWARD KAPPA TAU GHE EM PO KAREN RE BLACKFOOT TAGBANWA WALL INTERSECTION FLOOR FILL KING SPOKED REST PAP COUNTING ROD HAND-ANGLE GURAGE DIALYTIKA PSI IE VE BETH TAW OBLIQUE AL RI GU SIXTY SAYISI SOUND N-ARY ARROWS CEILING UP-POINTING OUT TONGUE ALEPH CIRCLES MUSH GUD HAND-CIRCLE HEARTS ALMOST ZHE IOTIFIED KOMI GIMEL SAMEKH ZAIN KAPH SADHE AVAGRAHA MGO SHAD YE SLASH CLOCKWISE EARTH SUN QUEEN TAILED CIM TAK4 SHESHIG SPREAD ROTATION MOVEMENT-DIAGONAL QUARTERS OGONEK XI BE ER BIG ROUNDED EMPTY HETH RISING CANDRA LENGTH CAN TSHA SHU XA EIGHTY NASKAPI KOET ROC EIGHTHS TWELVE EQUIVALENT DENTISTRY SHADE THROUGH IM YODH LAMEDH LAGAR U2 KASKAL HAND-CUP ROTATION-WALLPLANE ROTATION-FLOORPLANE SOFT LAMDA TSE ZAYIN FATHA KASRA ZAH FARSI SHADDA AS SARA GO NYI NOR PWO HU TONAL BIRGA BULLET SET CHECK WATER NUNUZ WRIST HUMP SPADES DIAMONDS CLUBS XIANGQI MULTIPLICATION ZETA ROUND ET RESH OM DZA FO ANG PALI RTAGS MON PU WOODS-CREE MULTIPLE BINDU THIRD DASHED ELEMENT PRODUCT PRECEDES SUCCEEDS OVERBAR LOZENGE DOWN-POINTING UNIT BALLOT CROSSED SHADOWED CAT PADA SHIM MINNAN POVYSHE MARTYRIA ICHOS SEMICOLON HYPHEN BY ENG EZH PRIME YANG ZIGZAG JE CO AYIN KEHEH FE ZO AH KHO BO AY YIG ZU Y-CREE OJIBWAY TEDUNG MURDA WIDE TELEPHONE ELEVEN DOES MEASURED TABULATION CONTROL ROOK BISHOP PAWN FLAG BALL NUBIAN DESCRIPTION HANGZHOU BACK LUM E2 NATTILIK SHA3 USH LAL SHAR2 UR2 KRYZHEM OCLOCK SCHWA CLICK BELT SHO ES YERU MEN DAMMA TEXT MADDA WAVY KIRGHIZ START TETH HAA FI CHO PHO TSHEG WU ZI JO LEK SIMALUNGUN WIDTH QUADRUPLE OCR FIFTEEN INVERSE RAYS SALTIRE FIRE WIND STEM BESIDE TAB RIBBON NOSE BUR LAK-617 TENS KLYUCHEVAYA SKAMEYTSA STATYA KRYUKOVAYA KIEVAN CURRENCY DZ BARRED VOICED LUNATE EF HARD TICK EH VO YOD GAF AM SIXTEEN ALPAPRAANA MAHAAPRAANA LITH CARET RDEL WESTERN TONE-2 TONE-5 GE ATTAK HORA SVARITA PARTIAL PARALLEL BUT UNDER NORMAL PAGE EYE CLOUD MALE RECYCLING NOTCHED FISH SIMILAR DOUBLE-LINE TREE SALT ITERATION CHINESE LEFT-STEM THESPIAN DALETH TWELFTHS PREFIXED ASH2 KAK ESH2 SAL GAD LAK-648 CLEF HAND-HOOK FINGER FLEX TRAVEL-WALLPLANE DYNAMIC BRACKETED SEGMENTED APOSTROPHE CROSSED-TAIL CENTRED YIN YAT RHA PEH BARREE SANDHI CHILLU NYO EI ASTROLOGICAL EU TONE-3 UN IEUNG CIEUC FILLER HHA VI CE FU PEE UR CRYPTOGRAMMIC KAVYKA FIRST THIRDS CONTAINS NEITHER IMAGE KEY RECTANGLE METRICAL DEVICE EIGHTEEN CONTAINING SUIT MONOGRAM DIGRAM ENVELOPE PINWHEEL THEN REPEAT SECOND HORSE HANDS LENTICULAR GAL UM VINE SHU2 GESH2 REFORMED SLOAN LARGEST FRONT CHARACTERS BAMBOOS EMOJI BUBBLE AMPERSAND ETH THORN DIVISION OU FISHHOOK PHARYNGEAL BEGIN OVERLINE ANO SHEI DZE NJE THOUSANDS ABKHASIAN LHA MARKER THAL SUKUN GOAL VERTICALLY RUPEE ELLIPSIS KIYEOK NIEUN TIKEUT RIEUL MIEUM PIEUP SIOS CHIEUCH KHIEUKH THIEUTH PHIEUPH HIEUH VEE JI TH NUNAVIK TH-CREE MAHAPRANA SASAK FIGURE PAIRED TURNSTILE SUBGROUP JOT EXTENSION PIECE THIRTEEN FOURTEEN SEVENTEEN NINETEEN TRIGRAM MOUNTAIN DIE STAFF CAR ICE JAPANESE LOCATION AIRPLANE ENDING DIALECT-P TUAREG BLUE DRAGON WOMAN NAME LOGOGRAM LONSUM SUBUNIT STATERS QOPH CRESCENTS NAGA OPPOSING TUG2 HUB2 MFON SECANT NIZKO ZAPYATAYA VRAKHIYA SVETLAYA AGOGI DODEKATA SIMANSIS TEMPUS CUM PROLATIONE HAND-OVAL HAND-CLAW MOVEMENT AWAY TOWARDS LIPS LIMB GREEN STICK BACKHAND BUD COMPRESSED DOLLAR SHARP MID JOINER SHIMA FITA MILLIONS TET FATHATAN TCHEH PLACE AD LLLA WITHIN BBA ODD POWERS DIGA NGO TAM TONE-4 GAN TAR SEE VU TAA JU THI TSI FEE SHWE SH TIR EAR HAIR DAGGER ENCLOSING BACKSLASH INFORMATION SHOE BELL RAIN FLAT PLASTICS OUTLINED FALLING TEARDROP-SPOKED OPENING HAT SPEECH SURROUND KATAKANA-HIRAGANA KET SPIRAL MEASURE TALENTS DUN3 MASH GIR2 DIM GI4 GU2 LUGAL BAN2 VOS NASALIZED MALO DIPLI KATO DIATONIKI YFESIS DIESIS ARKTIKO TALLY ANGLED HEEL MOVEMENT-HINGE TRAVEL-FLOORPLANE CHEST TENSE EYEBROWS WRINKLED TEETH MOUSE FOLDER SPEAKER ORE BROKEN SWASH BRIDGE SAMPI DIGAMMA KAI KOPPA KHEI HORI GANGIA SAN IZHITSA UK ECH KEN VAV BET RADI TATWEEL TTEH YAA NAA AK GGA NUMERATOR THAN EK SIXTEENTH EVEN JIHVAMULIYA UPADHMANIYA HIP SUNG KAN -A TALL GREAT AITON RAE HAR YN AEN SHI BEE TEE XE YEE DEE JEE MYA TOO LOO IS UA INFINITY WIGGLY REPA NDA NARROW US AV VRACHY TIE DIFFERENTIAL NABLA APPROXIMATELY HOUSE POSITION STILE RETURN POWER FEED SHIFT FILE BOW CORNERS CRESCENT FEMALE SCISSORS THREE-D BLACK-FEATHERED ERROR-BARRED SUM SINGLE-LINE HOOKED RUSSIAN IZHE IOTATED DIVIDER SUBSTITUTION PALM KNIFE DOG NET BRUSH EAT RICE DRUM HOLDING TUR GAP NJI MBAA VOLAPUK EPIGRAPHIC NHA WEIGHT TROEZENIAN AIR PEN ENY ERIN2 DUB KU3 HAL SAR SHID GIR3 SHIR KUSHU2 LU3 MUSH3 PAD PIRIG URUDA SHARU BURU LAK-449 VYSOKO KHOKHLOM DVOECHELNAYA ZAPYATOY GROMOPOVODNAYA OSOKA LEIMMA BARLINE OTTAVA BEND IMPERFECTA CONTACT CUPPED SPLIT SQUEEZE FLICK PEAKS CHEEKS KISS GLASS BABY BOOK ORANGE BUTTON COPPER ANTIMONY EXTREMELY EQUIHOPPER AREA PERCENT COMMERCIAL YEN AFRICAN OI HENG YOT TITLO YAE OH ROOT PER ALAYHE DAMMATAN KASRATAN GHUNNA TTEHEH BEEH TEHEH BEHEH NYEH DYEH TCHEHEH VEH PEHEH NGOEH GUEH RNOON DOACHASHMEE PARAGRAPH SKEWED RAA THAA ZEN AQ GEMINATION NNNA DOUBLED STRESS ANUDATTA JJA CIRCULAR NN KOMBUVA GTER CLOSING DKAR NAG DZHA KSSA BBE PWA TONE-1 NAR QAR JIL HIE EO LAA REE QU QI WAA ZEE GAA GEE THEE MV WOO PII POO TWE TTE KOO SII SOO HOO FRANKS CASKET FREE SELECTOR WAY OA MARK-1 MARK-2 TALING ADEG LEFT-HAND MBA IR YAJURVEDIC FLATTENED ROTUNDA LEFT-TO-RIGHT INTERROBANG FLOWER SCREEN BLACK-LETTER SUMMATION SEMICIRCLE ALL MUCH ORIGINAL CUP SEMIDIRECT SMILE BARS KEYBOARD DEL JOINED POINTER UMBRELLA LIGHTNING HOT PLUTO NOTES WITHOUT TRAFFIC MAP CURVING FENCE TINY PATH POLE OVERLAPPING RANGE NESTED PENTAGON OVAL U-SHAPED MYSLITE CHRIVI LAME SIMPLIFIED COW WALK YELLOW TURTLE PRIVATE KANA IU KOREAN ERA CUBED KPA NJEE NGGA DHE NDOLE YER FLOURISH TUM REPETITION UIGHUR ALLAAHU CHARIOT OW EZ EC TRIDENT SWIRL NASAL CLUSTER-INITIAL PON KAD3 BAHAR2 BAL IDIM KAL NU11 ELAMITE GESHU GORAZDO PRIZNAK NEPOSTOYANNAYA GOLUBCHIK MECHIK KENTIMATA GORGON APLI PARESTIGMENON CHROMA THESEOS IMPERFECTUM HALF-CIRCLE EYEGAZE-WALLPLANE SHOULDER BREATHY MEDAL BOARD BUILDING FITZPATRICK MONKEY CHART DISK FACING MOBILE INPUT DOCUMENT GRINNING ROCKET ONCOMING SUBLIMATE HYPHEN-MINUS POUND DEGREE TOPBAR HV WYNN LEZH DEZH TS TESH EXTRA-HIGH EXTRA-LOW DJE LJE KSI OT SHHA NOW RIGHT-FACING LEFT-FACING PATAH QAMATS RAFE SIN DALET LAMED YIDDISH FOURTH MARBUTA WASLA RUB SUBLINEAR MIM MUSIC BAA YUT AG THIN UDATTA YYA DDDA SIXTEENTHS SANYAKA PLA CANCELLATION DELIMITER NYIS FIXED-FORM MCHU CANTILLATION SVASTI SGAW EASTERN TONE-6 PALAUNG BAN DON VIN TAN LAS PAR ZHAR PHAR KHAR GHAN CHIN CIL CHAR XAN JHAN HAE HOE SSANGKIYEOK SSANGTIKEUT SSANGPIEUP SSANGSIOS SSANGCIEUC RIEUL-HIEUH PIEUP-SIOS NIEUN-CIEUC NIEUN-HIEUH RIEUL-KIYEOK RIEUL-MIEUM RIEUL-PIEUP RIEUL-SIOS HEE LEE MWA SAA SHEE QE QO CI NWA KAA KWI KWAA KWE WEE ZHEE CHU CHEE TSU TSO FAA PAA SEBATBEIT MWI PWI DLA SOUTH-SLAVEY SHII YOO RII TTHO NGI NGAA KHI KK FEATHER AC RAD TYPE LAI KANG CENTRALIZATION PARENTHESES ULU LENGA SUKU ZAL DANG RIGHT-HAND UC EP ERR SATANGA SNAKE AO MIDDLE-WELSH RIGHT-TO-LEFT QUILL ISOLATE OHM HEADED BASE SQUIGGLE PEDESTAL MEMBER IDENTICAL CAP RELATION BOWTIE BAG ELECTRIC CROP HOURGLASS FROWN VANE SCAN FOOT SHORTS TRANSMISSION ACKNOWLEDGE ESCAPE CANCEL FORK SHOGI HAMMER HEAVEN WHEEL FROWNING MERCURY BEAMED PAPER DRAUGHTS HELMET PENTAGRAM PENCIL FLORETTE RIGHT-SHADOWED JOIN ARROW-TAIL SQUARES SERIFS INTEGRATION APPROXIMATE ELLIPSE CUSP ARROWHEADS DZELO YERI EIE ZATA KAPA OOU YAH ZZA KYEE SPIRIT RAM MEAT GRASS TIGER GOLD BONE BIRD J-SIMPLIFIED TOOTH PIG WINE RAT POSTAL HP ST NIGHT MM KM TWENTY-FIVE TOGETHER OX EX POT NDE NDU LIP GUR KUT SUR MBEE KPO BHE MBE GBE LENGTHENER MONOCULAR NDAA SUU YOQ LOQ REN EGYPTOLOGICAL CUATRILLO RUM LONGA POETRY SS IA UI ALAYHI AS-SALAAM OIL FRAME OBOLS LOTUS ENT ENC NIKOLSBURG RUDIMENTA CLUSTER-FINAL LOW-FALLING IMIN BALAG SHITA AMAR BULUG DIN KID GABA UMUM KUL MIN MUG SIG4 INSERT NTAP NTEUM NYAM XYEEM TONE-8 SHORTHAND FORMAT TIKHAYA KRYZH DIRECTION PROSTAYA TRESVETLAYA SLOZHITIE POVODNAYA GROMNAYA GROMOKRYZHEVAYA EKFONITIKON KENTIMA KLASMA DYO TROMIKON DIGORGON SKLIRON DIASTOLI ARSEOS ALTA TURN PERFECTA KNUCKLE HAND-CURLICUE SEQUENTIAL SHAKING TILTING DREAMY EYEGAZE-FLOORPLANE JOKER ACE JACK OK GLOBE FOOD BOTTLE CAMERA THUMBS WOMANS SILHOUETTE POLICE SWEAT BANKNOTE FLOPPY RECEIVER MAILBOX PHONE LOCK KISSING SLIGHTLY QUILT CHECKER RAILWAY AQUA IRON REGULUS ISOSCELES FINGER-POST DOWNWARD COMPONENT NO-BREAK DENTAL BILABIAL FENG DEPARTING KORONIS FERMATA STIGMA IO GJE UKRAINIAN SHCHA UPTURN AYB BEN GIM INI XEH VEW YIWN PIWR KEH ETERNITY SEGOL GERESH HATAF HOLAM MAPIQ TSADI QOF TAV CUBE VERSE DECIMAL DDAL DAHAL DDAHAL DUL RREH JEH SUPRALINEAR HARKLEAN RISH PTHAHA ZQAPHA GBA JONA DESCENDING NASALIZATION IY IT AR PRISHTHAMATRA AW UUE GHHA SPACING ANJI TWO-CIRCLE MONTH CREDIT TENTH FIFTH GAYANNA JAYANNA TAALUJA DDAYANNA MUURDHAJA DAYANNA DANTAJA BAYANNA SAYANNA AELA-PILLA KETTI GAYANUKITTA NEN YAK SUA YY SHOG GSUM BZHI KKA HALANTA -KHYIL RGYAN YWA COUNCIL SSANGNIEUN NIEUN-TIKEUT MIEUM-PIEUP KAPYEOUNMIEUM PIEUP-TIKEUT PIEUP-SIOS-TIKEUT PIEUP-CIEUC KAPYEOUNPIEUP SIOS-KIYEOK SIOS-TIKEUT SIOS-PIEUP SIOS-CIEUC PANSIOS SSANGIEUNG YESIEUNG KAPYEOUNPHIEUPH YEORINHIEUH NIEUN-SIOS YEO WAE WEO KIYEOK-SIOS RIEUL-THIEUTH RIEUL-PHIEUPH RIEUL-TIKEUT MIEUM-SIOS LWA MAA MEE SWA SHWA QAA TWA CU CAA CWA NEE NYU NYE KEE KWA KXA ZHU ZHI ZHO DDO GGE THU THWA PHE MWE PWE HNA NAH NV QUO QUU SV TLA TLE TLI TLO TLU STROKES PWAA TWAA TTO KW COO CWI CWAA MOO MWAA NOO NWAA SWAA SHOO YWAA FOO N-CREE THII THOO THWAA QOO TLHA LH HWE KHE ING SSO LY MUOY BEI BUON PRAM PRAM-MUOY PRAM-PII PRAM-BEI PRAM-BUON OY KAY TTHAA DENE BEAVER TRA DAP NRA RATHA SAT KHUEN SAM PEPET CARIK JEGOGAN PING MANDAILING KARO NYET IH KATHAKA SUSPENSION LEADER POP INSERTION CLOSE FUNCTION INVISIBLE WON DRACHMA CONSTANT SOURCE FIFTHS SIXTH OPEN-HEADED CONTAIN SPHERICAL DIVIDE CONTOUR SURFACE LAZY MULTISET TRUE MULTIMAP FACTOR SEGMENT COMPOSITION ALTERNATIVE DIRECT CURRENT RECORD NULL LINK SUBSTITUTE GROUP DELETE NEWLINE BRANCH BANK SNOWMAN OPPOSITION FLORAL SKULL PEACE THUNDER LAST CLUB NATURAL WHEELCHAIR GEAR LINES SNOW BEHIND ENTRY TRUCK SHIELD CASTLE TENT SAFETY FIST BALLOON-SPOKED SNOWFLAKE TIGHT TOP-LIGHTED RIGHT-SHADED LEFT-SHADED BACK-TILTED FRONT-TILTED PERPENDICULAR OUTER DIVIDED CONCAVE-SIDED SEMICIRCULAR PART AROUND SCHEMA HEXAGON BACKSLANTED AZU BUKY VEDE GLAGOLI DOBRO YESTU ZHIVETE ZEMLJA DJERVI KAKO LJUDIJE NASHI ONU POKOJI RITSI SLOVO TVRIDO UKU FRITU HERU SHTA YATI SIMA WAU YAJ YAZH YAGH SSU SSI CCHE KYA DJERV MONOGRAPH TRANSPOSITION PARAGRAPHOS MEDIEVAL CLIFF TABLE SEAL THREAD SNOUT RAP PAW BOLT CLOTH BAMBOO SILK SHEEP CLOTHES MOUND LEATHER FLY GHOST WHEAT FROG COVER SPOON ENCLOSURE CHILD WORK DRY STEP AXE USE STONE DEER OVERLAID SEMI-VOICED ENN WOOD STOCK CALL SCHOOL EV HON MEGA TWENTY-TWO DM MB CM MW WAITING GRACE INCREASE GATHERING COMPLETION OP BAT PUT MIT FAX VY NDI NDAP NDO HLI LAP KUOP CUT NZA SOT SHY NJU YIT UH NDEE MBI MBOO NGGOO MBU GBU NGGU MBO NGGO NGGE NGGEN DWE TAE MEEEE NJAEM SEUX YUQ NSHA PEUX NTEE WUE REUX PUAE FOM POLISH PLACEHOLDER HEADSTROKE EA SAW KOI BLACKLETTER TIL NUNG INTERLINEAR A2 MNAS HERMIONIAN EPIDAUREAN SHIP ROSETTE TT EW QAAF EB FLEURON IC IQ OQ MID-LEVEL HUNDREDS SIXTY-FOURTH THIRTY-SECOND PAN SHESH DIM2 ANSHE ASHGAB DUN ISH GESHTIN GUM KIN LISH IB KA2 KAD5 LUL LUH MES NIM ZU5 NIN LIMMU ASSYRIAN MAEMBA LET MEUT LEERAEWA SHOQ NSHUT MAEM MBIT NGOM LAAM ROG TONE-7 XW OVERLAP TSATA STRANNO PODCHASHIE CHASHKA STOPITSA MRACHNAYA OXEIA VAREIA PARAKLITIKI EXO APOSTROFOS ISON SYNAGMA TESSERA PARAKALESMA ALLO KRATIMA CHRONON ARISTERA TETARTOS FANEROSIS CHROA REPEATED BREATH TIME WHOLE FINGERED PEDAL SEMIBREVIS MINIMA SEMIMINIMA PERFECTUM HUMAN JOY KNUCKLES TOUCH GRASP STRIKE SYMBOLS FOREHEAD EYELASHES WRINKLES ALIF LAKH MASK BOWL CAKE CHRISTMAS BALLOON PARTY MILITARY MACHINE RUNNING RACING CONSTRUCTION OFFICE POST LOVE WAVING ELEPHANT CHICK OLDER PURPLE ANGER SLEEPING THOUGHT TREND COMPUTER CALENDAR PUSHPIN WAVES LETTERS POMMEE FLYING ICON PICTURE BUBBLES MOOD TEARS COLD STUCK-OUT POUTING CRYING TRAIN BUS BATH SULFUR ROCK CROCUS BRICK STRATUM TARGET BROWN SHADED FORMEE COVERING PREGNANT FORTY-FIVE THIRTY-FIVE STRING INTRODUCER CENT COPYRIGHT FEMININE ORDINAL PILCROW IJ YR LATERAL ALVEOLAR LJ NJ HWAIR YOGH DB RAMS SQUAT TC LS LZ PERCUSSIVE VOICING SHELF ARCH HOMOTHETIC HETA PAMPHYLIAN TELEIA FEI DEI BYELORUSSIAN-UKRAINIAN TSHE KJE DZHE PNEUMATA SEMISOFT BASHKIR PALOCHKA KHAKASSIAN ZJE DZJE SJE TJE ALEUT DZZHE DCHE LIWN GHAD CHEH JHEH SEH TIWN EMPHASIS DRAM ZAQEF QATAN GERSHAYIM PARA TELISHA MERKHA HIRIQ SOF HET FOOTNOTE SAFHA RAY MILLE DATE SALLALLAHOU KASHMIRI MADDAH AYAH RECTANGULAR SINDHI ALAPH GAMAL GARSHUNI DALATH YUDH SEMKATH BHETH RBASA ZLAMA HBASA ESASA KHAPH TTAA HHAA KHAA ZAA WOLOSO BIT TIT KAAF EPENTHETIC OVERLONG NEQUDAA QITSA AZ AP OVERSTRUCK BASELINE SAH OOE KHHA DDDHA DENOMINATOR ISSHAR BINDI YEAR NAKAARA POLLU TTTA ONE-HUNDRED-AND-SIXTIETH FORTIETH EIGHTIETHS TWENTIETH TWENTIETHS KAYANNA NAASIKYAYA CAYANNA TTAYANNA NAYANNA TAYANNA PAYANNA LAYANNA AEDA-PILLA IS-PILLA PAA-PILLA GAETTA-PILLA KHAI THONG FAN LING LOOT SANSKRIT KON SEMIVOWEL KHMU -UM RNAM BCAD MDUN SGAB PHUR BKA- RGYA GRAM -DZUD LOGOTYPE GCIG GNYIS NGAS BZUNG ZLA MIG GUG GYON GYAS KHANG YAR TSHES MAR LCE GRU RGYINGS BEAT RDO RJE BRDA RNYING MCHAN RUMAI ELIFI LABIAL NIEUN-KIYEOK TIKEUT-KIYEOK RIEUL-NIEUN SSANGRIEUL KAPYEOUNRIEUL PIEUP-KIYEOK PIEUP-SIOS-KIYEOK PIEUP-CHIEUCH PIEUP-THIEUTH PIEUP-PHIEUPH KAPYEOUNSSANGPIEUP SIOS-NIEUN SIOS-RIEUL SIOS-MIEUM SIOS-CHIEUCH SIOS-THIEUTH SIOS-HIEUH IEUNG-KIYEOK PHIEUPH-PIEUP SSANGHIEUH TIKEUT-RIEUL YA-YO YO-YA YO-YAE YO-I YU-YEO YU-YE YU-I ARAEA NIEUN-PANSIOS RIEUL-KIYEOK-SIOS RIEUL-PIEUP-SIOS RIEUL-KAPYEOUNPIEUP RIEUL-PANSIOS RIEUL-KHIEUKH RIEUL-YEORINHIEUH MIEUM-KIYEOK MIEUM-PANSIOS PIEUP-HIEUH YESIEUNG-SIOS YESIEUNG-PANSIOS HHWA RWA SHAA QWI QWEE QWE BWA VAA CEE XO NYAA NYEE KWEE DAA DDU DDI DDAA DDE JAA JWA GWA GWI GWEE GWE GGU GGI GGO CHAA PHAA TSEE FWA MWEE BWI BWEE FWI FWEE PWEE RIKRIK GV LV QUA QUE QUI QUV DV TLV TSV WV YV AAI WII PWII PWOO TWI TWII TWOO TTI KWII KWO KWOO KAH CWE CWII CWO CWOO MWII MWO MWOO ATHAPASCAN NII NWE LWE LWI LWII LWO LWOO LWAA SWE SWI SWII SWO SWOO SW SHWI SHWII SHWO SHWOO SHWAA YWE YWI YWII YWO YWOO R-CREE ROO RWAA FWAA TTHE TTHI HII QII TLHE TLHI TLHO LHI LHO LHAA GHO JJU JJO JJI DLE DZU DZO DZEE DZI QAI ONN OS AESC PAMUDPOD PHILIPPINE RY INHERENT MUAN UBADAMA BALUDA CYA AAY MAY SAY SHOY YAY NWI NWII NWO NWOO YAN AUE KVA XVA UY OAY LAE DAP-MUOY DAP-PII DAP-BEI DAP-BUON DAP-PRAM NGKA MPA RANA STRONG SURANG AKARA IKARA UKARA OKARA SARI JNYA PANTI PAMADA WINDU DONG DUNG KEMPUL KEMPLI TUK LANTANG PASANGAN LEU PAKPAK SOUTHERN NORTHERN PANGOLAT MLA HLA TA-ROL CER-WA TSHOOK UNN OV TTUDDAAG MUCAAD CAKRA MIDLINE ANTARGOMUKHA VAMAGOMUKHA ARDHAVISARGA LOW-9 HIGH-REVERSED-9 HYPHENATION EMBEDDING DIRECTIONAL OVERRIDE UNDERTIE TIRONIAN TRICOLON APPLICATION INHIBIT SYMMETRIC SWAPPING ACTIVATE SHAPING NATIONAL SHAPES FRENCH LIRA EURO KIP PESO SOM KEYCAP UPWARD ACCOUNT PLANCK RESPONSE OUNCE SIXTHS THERE COPRODUCT PROPORTION ASYMPTOTICALLY ACTUALLY GEOMETRICALLY PRECEDE SUCCEED NEGATED PITCHFORK WATCH ERASE BENZENE TOTAL QUOTE UNDERLINE ENTER NOTCH OPEN-CIRCUIT-OUTPUT NEXT PRINT TRISEME TETRASEME PENTASEME GROUND HEADING ENQUIRY BACKSPACE CARRIAGE DATA SYNCHRONOUS IDLE BLANK CHAIR IDENTIFICATION DARK CROSSHATCH PARALLELOGRAM ASCENDING NODE BEVERAGE CROSSBONES CADUCEUS LAKE URANUS NEPTUNE SPADE UNIVERSAL TYPE-3 TYPE-4 TYPE-5 TYPE-6 GREATER LESSER PICK ANCHOR ALEMBIC CONVERGING PARTNERSHIP LANES TWO-WAY LANE MERGE DRIVE SLOW RESTRICTED INTERLACED CHURCH FOUNTAIN HOLE SKATE HEADSTONE BLADE TAPE VICTORY WRITING NIB RECTILINEAR PETALLED CHEVRON SPARKLE PROPELLER DROP-SHADOWED WEDGE-TAILED S-SHAPED PRECEDING GAPPED DIRECTLY BINDING SMASH INTERIOR INTERSECTING SLOPING ANTIRESTRICTION CONSECUTIVE SIGNS SMALLER LARGER BINARY CIRCLING OCTAGON ERIS OTU SPIDERY SHTAPIC TROKUTASTI LATINATE CAUDATE ALFA VIDA DALDA SOU HATE THETHE IAUDA LAULA AKHMIMIC L-SHAPED HEI DJA SPIRITUS LENIS BOHAIRIC BERBER ACADEMY YAKH YAQ YAM YAP YAZ SSE ZZU ZZI ZZE ZZO XYA XYE INTERPOLATION OMISSION FORKED ANCORA PARAPHRASE GUARD PATTY CROSSBAR DIVINATION DEATH MOTHER TRUNK JADE MESH EWE MORTAR CART CITY GATE TANNED LID TURBAN DOOR FUR STEAM FATHER SLICE MELON SWEET FIELD SPEAR TRACK JAR SELF BOAT BLOOD BADGER BODY CAULDRON FLUTE STANDARD LEVEL PROLONGED KOTO CH ONG ZY SP HZ HG METAL HAVE SOCIETY SPECIAL FINANCIAL CONGRATULATION LABOR STUDY SUPERVISE ENTERPRISE RESOURCE ALLIANCE REACH TWENTY-ONE TWENTY-THREE TWENTY-FOUR KG CC CD PM TAMING POSSESSION FOLLOWING BITING PREPONDERANCE DARKENING FAMILY DECREASE MEET KEEPING INNER IX AX UO PIT PIP PIE PUP PYT BBI BBO BBUT BBU NBIE HMO MOP MY FOX VEP VUR DAT TAT TUOT TOT TUP DDUR NUT LIE LYR GOT GEP KIT KAP GGUO GGOP HXIT HXUO HXOP NGOP NGE HIT HOP WAX WAP WUO ZOT ZUP ZUR CIP CUOP CYT CY CYP ZZIET NZUP SAP CHAT RRO RRE SHAT SHOP SHET SHUR QOT JJIE JJUT JJY NJO NYIT NYIP NYOP YIE YUOP KPEE GBEE NGGEE HIN KPI GBI NGGI HAN MGBA NJA BOO KPOO GBOO VOO DOO NDOO ZOO JOO NJOO HUN KPU NGON BHO GBO DHO NGEN HEN KPE ZEMLYA BROAD BLENDED BINOCULAR PAYEROK DZWE ZHWE DZZE TSWE TSSE TCHE RIEE LEEEE SHEUX NUAE NJUAE KEUX PUE NGKWAEN MBEN NTUU SAMBA NJAEMLI SHANG TZ TRESILLO SQUIRREL VISIGOTHIC VEND CON SALTILLO ANGLICANA SCOTS SIGMOID HASANTA DDHO MARK-3 HTA PLOPHU CALYA TIKEUT-PIEUP TIKEUT-SIOS TIKEUT-CIEUC RIEUL-SSANGKIYEOK CECAK LELET WULU RERENGGAN PISELEH REDUPLICATION KHHO NUENG DDHAA OPEN-O HANDLE SERIF KOK NGOU IYEK FF KAZAKH ORNATE ALLAAH SALLA USED KORANIC WASALLAM CONJOINING SESAME CENTRELINE TERMINATOR REPLACEMENT B008 B001 B007 B006 B003 B002 B009 B004 B005 PU2 BOAR OLIVE WOOL BATHTUB LIQUID DRACHMAS SEXTULA PEDESTRIAN BOOMERANG CARPENTRY PLANE EAGLE DOVE DOI NENOE SADE GAY EGG IAN CAYN BRA EHCHA EIN HYA EHKA OIN EHPA EHTA EHTSA EYN LAN MAQ IJE A301 A302 A303 A304 A305 A306 A307 A308 A309A A310 A311 A312 A314 A315 A316 A317 A318 A319 A320 A321 A322 A323 A324 A325 A326 A327 A328 A329 A330 A331 A333 A334 A335 A336 A337 A338 A339 A340 A341 A342 A343 A344 A345 A346 A347 A348 A349 A350 A351 A352 A353 A354 A355 A356 A357 A358 A359 A360 A361 A362 A363 A364 A365 A366 A367 A368 A369 A370 A371 A501 A502 A503 A504 A505 A506 A508 A509 A510 A511 A512 A513 A515 A516 A520 A521 A523 A524 A525 A526 A527 A528 A529 A530 ZAYN AYN NA-2 NE-2 RA-2 SA-2 TA-2 TE-2 AAN AEE RINGS WAW-AYIN-RESH MEM-QOPH AEB AEG AEY AEK OEK AET AMB ECS ED EG EGY EJ UNK ELY OEE EMP ESZ ETY EZS ENT-SHAPED KINNA LESH GAH MAH MAE GHAA SHRI PLUTA NGHA NYHA MHA ENCLOSURES YUJ HIYO HOLO HORR SSUU VIYO DOUBLE-LINED SUBJOINER FLAME TERMINAL SPA NEL CULTIVATION TRADITIONAL ARAD ZIDA KABA MASH2 DAR DARA3 DIB EREN GUL GUR7 IG IL SIG SUHUR KAB KAD2 KESH2 KU4 KUN SIK2 NA2 NAM NUTILLU NAM2 SILA3 PESH2 UB SHA6 UZ3 ZIB ZIZ2 ILIMMU ESHE3 LAK-050 LAK-079 LAK-081 ZA7 A001 A002 A003 A004 A005 A006 A007 A008 A009 A010 A011 A012 A013 A014 A015 A016 A017 A018 A019 A020 A021 A022 A023 A024 A025 A026 A027 A028 A029 A030 A031 A032 A033 A034 A035 A036 A037 A038 A039 A040 A041 A042 A043 A044 A045 A045A A046 A047 A048 A049 A050 A051 A052 A053 A054 A055 A056 A057 A058 A059 A060 A061 A062 A063 A064 A065 A066 A067 A068 A069 A070 M001 M002 M003 M004 M005 M006 M007 M008 M009 M010 M011 M012 M013 M014 M015 M016 M017 M018 M019 M020 M021 M022 M023 M024 M025 M026 M027 M028 M029 M030 M031 M032 M033 M034 M035 M036 M037 M038 M039 M040 M041 M042 M043 M044 NGKUE FON PIPAEMGBIEE PIPAEMBA TITA NGGEUAET NAE NTAA YUM NKAARAE MAESI NJAM MBANYI TEUAEN PAAM NSHIEE NAQ LOM NSIEE TEUAEQ MVOP NGGUOQ SUE NGGAAM MEUN MBEUM NJUEQ FUE NDAM KEUM YUWOQ NJEUX MIEE MUAE SHIQ LAW PIN GHEUAE TOQ PEOPLE AWX UEX UEZ MC MEEJ ZWJ NTOG TXWV ATIU KP NY ASPIRATION VIETNAMESE READING DH ROMANIAN WEI PERNIN TANGENT SREDNE ZADERZHKA DEMESTVENNY SOROCHYA NOZHKA OMET FLIP KRYUK TIKHY KLYUCH PEREVODKA CHELYUSTKA KLYUCHENEPOSTOYANNAYA ZAKRYTAYA DVOECHELNOPOVODNAYA YPOKRISIS APESO OLIGON STAVROS APODERMA PIASMA SEISMA OYRANISMA THEMA PELASTON PSIFISTON KONTEVMA CHOREVMA NANA APOSTROFOI ETERON ARGOSYNTHETON THEMATISMOS APLOUN YFEN CHRONOU DEXIA POLI ARGI GORGI PROTOS ALLI DEYTEROS LEGETOS PLAGIOS TELOUS ICHIMATOS MONOFONIAS DIFONIAS GORTHMIKON VOU MALAKON VASIS TETARTIMORION TRITIMORION MONOGRAMMOS DIGRAMMOS TRIGRAMMOS OKTO GENIKI DISIMOU TRISIMOU TETRASIMOU MESO SEGNO FRETBOARD QUINDICESIMA TWENTY-EIGHTH TRIANGLE-ROUND CLUSTER TREMOLO-1 TREMOLO-2 TREMOLO-3 BEAM SLUR PHRASE ARPEGGIATO GLISSANDO DAMP BREVIS FUSA DIMINUTION-1 GREGORIAN SCANDICUS TORCULUS PORRECTUS FLEXUS SYMBOL-1 SYMBOL-2 SYMBOL-4 SYMBOL-5 SYMBOL-7 SYMBOL-8 SYMBOL-11 SYMBOL-12 SYMBOL-13 SYMBOL-14 SYMBOL-17 SYMBOL-18 SYMBOL-19 SYMBOL-23 SYMBOL-24 SYMBOL-50 SYMBOL-51 SYMBOL-52 SYMBOL-53 SYMBOL-54 EARTHLY DEPARTURE HINGE CURLICUE TOUCHING RIPPLE BOTH THREE-QUARTER RELAXED SIMULTANEOUS BLINK FLUTTERING SUCKED EARS BLOWING ROTATIONS YAWN STICKING JAW NECK MOVE TORSO-WALLPLANE MODIFIER-2 MODIFIER-3 MODIFIER-4 MODIFIER-5 MODIFIER-6 DAALI MIIM SINNYIIYHE YHE JIIM WC SOS IDEOGRAPH-4E8C IDEOGRAPH-4E09 IDEOGRAPH-6253 SUNRISE CITYSCAPE BUILDINGS WAXING GIBBOUS WANING THERMOMETER DROPLET PEPPER BLOSSOM APPLE BREAD POTATO SHRIMP CREAM COOKIE TROPICAL DRINK BEER CLINKING DECORATION DOLLS BOUQUET MICROPHONE FILM ROLLER ARTS VIDEO GAME TENNIS RACQUET SKI BOOT FOOTBALL CRICKET HOCKEY DESERT EUROPEAN HOTEL STORE PENNANT RABBIT WHALE BEETLE CAMEL BEAR CROWN DRESS SANDAL ALIEN REVOLVING DIZZY MONEY PERSONAL OPTICAL RULER BOOKMARK NOTEBOOK SATELLITE ANTENNA TRAY LOWERED NEWSPAPER RADIO BRIGHTNESS BATTERY MAGNIFYING WRENCH BULLHORN SUNGLASSES SPIDER TOUCHTONE STAMPED SPLAYED DESKTOP PRINTER PAGES WINDOW FONT SIZE TIGHTLY-CLOSED HORNS WINKING RELIEVED HEART-SHAPED DISAPPOINTED WEARY ROLLING GESTURE RAISING HOLLOW SOLID LOCOMOTIVE HIGH-SPEED TRAM ENGINE TAXI AUTOMOBILE SMOKING LITTER BICYCLIST LUGGAGE LAMP SHOPPING MOTOR SCOOTER VINEGAR ANTIMONIATE SOAP ASHES SUPER HUGGING FLATBREAD COAT MECHANICAL ADULT KNIGHT-QUEEN KNIGHT-ROOK KNIGHT-BISHOP GENERAL MANDARIN CANNON SOLDIER MIRROR NEST BLOCK-2 BLOCK-3 BLOCK-4 BLOCK-5 BLOCK-6 BLOCK-7 LEANING LOCKING-SHIFT BREAK HERE SELECTED JUSTIFICATION MESSAGE GUARDED PROTECTED COMMAND MICR"

/-- Listed names, part 1. -/
def namesPart1 : String := "@20|0˫|0ʴL|0ɾL|0?#|0ԟ#|0ؓ#|0Ҹ|0Ѻ|0Iǽ|0Gǽ|0Ǿ|0©#|0Ư|0۞|0ǙŮ|0˓|00ĩ|1S|1X|1c|1o|1x|1½|1È|1¼|1Î|0ɠ|0ϛ|0Ƴ#|0Ʌ#|0ƴ#|0ʈL|0ؔʣ|0)'!6|3a|3ļ|3ě|3Z|3Ź|3ĉ|3Ē|3]|3Ŝ|3ď|3·|3ø|3à|3W|3ł|3Ƶ|3ª|3«|3Č|3P|3ē|3œ|3Ń|3Ī|3ģ|0IMÊ|0ˠ˓|0GMÊ|0Ŕƍ|0Ïŕ|0ƅƍ|0)%!6|3a|3ļ|3ě|3Z|3Ź|3ĉ|3Ē|3]|3Ŝ|3ď|3·|3ø|3à|3W|3ł|3Ƶ|3ª|3«|3Č|3P|3ē|3œ|3Ń|3Ī|3ģ|0IɆÊ|0rŕ|0GɆÊ|0ÿ|@A0|0࠳˫|0ƖʴL|0੶#|0۟#|0л#|0ؕ#|0ն¿|0Ȳ#|0Ũ|0੷#|0੸੹ɡ|0̌UƥɾL|0Ƙ#|0ΚϜ|0~REGISTERED #|0Ǝ|0۠#|0~PLUS-MINUS #|0ʙX|1c|0Ĩƍ|0~MICRO #|0੺#|0p^|0ʉ|0ʙS|0~MASCULINE ੹ɡ|0˔UƥɾL|0̚ėSȳ|3¶|2cͷ|0ƖʈL|0)'!6$ƅ|5Ĩ|5Ŕ|5ÿ|5Ũ|5çH|3ɢ|3ļ$ʉ|3Z$ƅ|5Ĩ|5Ŕ|5Ũ|3]$ƅ|5Ĩ|5Ŕ|5Ũ|3ҹ|3à$ÿ|3W$ƅ|5Ĩ|5Ŕ|5ÿ|5Ũ|0η#|0)'!W$j|3P$ƅ|5Ĩ|5Ŕ|5Ũ|3Ī$Ĩ|3Һ|1%!Ԡ«|36$ƅ|5Ĩ|5Ŕ|5ÿ|5Ũ|5çH|3ɢ|3ļ$ʉ|3Z$ƅ|5Ĩ|5Ŕ|5Ũ|3]$ƅ|5Ĩ|5Ŕ|5Ũ|3ҹ|3à$ÿ|3W$ƅ|5Ĩ|5Ŕ|5ÿ|5Ũ|0һ#|0)%!W$j|3P$ƅ|5Ĩ|5Ŕ|5Ũ|3Ī$Ĩ|3Һ|3Ī$Ũ|1'!6$Ǝ|1%!6$Ǝ|1'!6$ƽ|1%!6$ƽ|1'!6$͸|1%!6$͸|1'!ļ$Ĩ|1%!ļ$Ĩ|1'!ļ$Ŕ|1%!ļ$Ŕ|1'!ļ$^H|1%!ļ$^H|1'!ļ$ȃ|1%!ļ$ȃ|1'!ě$ȃ|1%!ě$ȃ|1'!ě$j|1%!ě$j|1'!Z$Ǝ|1%!Z$Ǝ|1'!Z$ƽ|1%!Z$ƽ|1'!Z$^H|1%!Z$^H|1'!Z$͸|1%!Z$͸|1'!Z$ȃ|1%!Z$ȃ|1'!ĉ$Ŕ|1%!ĉ$Ŕ|1'!ĉ$ƽ|1%!ĉ$ƽ|1'!ĉ$^H|1%!ĉ$^H|1'!ĉ$ʉ|1%!ĉ$ʉ|1'!Ē$Ŕ|1%!Ē$Ŕ|1'!Ē$j|1%!Ē$j|1'!]$ÿ|1%!]$ÿ|1'!]$Ǝ|1%!]$Ǝ|1'!]$ƽ|1%!]$ƽ|1'!]$͸|1%!]$͸|1'!]$^H|1%!́]|1'B੻|1%B੻|1'!Ŝ$Ŕ|1%!Ŝ$Ŕ|1'!ď$ʉ|1%!ď$ʉ|3~KRA |1'!·$Ĩ|1%!·$Ĩ|1'!·$ʉ|1%!·$ʉ|1'!·$ȃ|1%!·$ȃ|1'!·$p^|1%!·$p^|1'!·$j|1%!·$j|1'!à$Ĩ|1%!à$Ĩ|1'!à$ʉ|1%!à$ʉ|1'!à$ȃ|1%!à$ȃ|4~PRECEDED ϝѺ|1'!Ϟ|1%!Ϟ|1'!W$Ǝ|1%!W$Ǝ|1'!W$ƽ|1%!W$ƽ|1'!W$UĨ|1%!W$UĨ|1'Bȉ|1%Bȉ|1'!ª$Ĩ|1%!ª$Ĩ|1'!ª$ʉ|1%!ª$ʉ|1'!ª$ȃ|1%!ª$ȃ|1'!«$Ĩ|1%!«$Ĩ|1'!«$Ŕ|1%!«$Ŕ|1'!«$ʉ|1%!«$ʉ|1'!«$ȃ|1%!«$ȃ|1'!Č$ʉ|1%!Č$ʉ|1'!Č$ȃ|1%!Č$ȃ|1'!Č$j|1%!Č$j|1'!P$ÿ|1%!P$ÿ|1'!P$Ǝ|1%!P$Ǝ|1'!P$ƽ|1%!P$ƽ|1'!P$çH|1%!P$çH|1'!P$UĨ|1%!P$UĨ|1'!P$͸|1%!P$͸|1'!œ$Ŕ|1%!œ$Ŕ|1'!Ī$Ŕ|1%!Ī$Ŕ|1'!Ī$Ũ|3ģ$Ĩ|1%!ģ$Ĩ|1'!ģ$^H|1%!ģ$^H|1'!ģ$ȃ|1%!ģ$ȃ|3ò«|3a$j|1'!a$v|5ۡ|1%!a$ۡ|1'!Ð½|1%!Ð½|1'!ùW|3ļ$v|1%!ļ$v|1'!ؖě|3ě$v|5ۡ|1%!ě$ۡ|3è̍|1'!ŀZ|3Ѝ|3ùZ|3Ź$v|1%!Ź$v|1'!ĉ$v|3ˬ|1%!ۢ|1'!Ǐ|3]$j|3ď$v|1%!ď$v|3·$¿|3~LAMBDA $j|1'!èø|3à$Iv|1%!à$òG̎|1'!W$pÿ|5ɖ|1%!W$ɖ|1'!ؗ|1%!ؗ|1'!ł$v|1%!ł$v|1!੼|1'!ÐX|1%!ÐX|1'!̛|1!ŀ̛ʤ|1%!Č$ʊv|1'!Č$v|1%!Č$v|1'!Č$ȓv|3P$ɖ|1%!P$ɖ|1'!Ǳ|3ē$v|3Ī$v|1%!Ī$v|1'!ģ$j|1%!ģ$j|1'!ϟ|4ŀ|1%!ϟŀ|4$ư|1!X$j|1'!Ðx|1%!Ðx|1!ƖɍŮ$j|2ۣ|2࠴Ў|2੽Ў|2੾Ў|2ȓЎ|1'!м$ȃ|3ě$%!ģ$ȃ|1%!м$ȃ|1'!੿|3·$%!Ŝ|1%!੿|1'!઀|3à$%!Ŝ|1%!઀|1'!6$ȃ|1%!6$ȃ|1'!]$ȃ|1%!]$ȃ|1'!W$ȃ|1%!W$ȃ|1'!P$ȃ|1%!P$ȃ|1'!P$Ũ:Ǝ|1%!P$Ũ:Ǝ|1'!P$Ũ:Ĩ|1%!P$Ũ:Ĩ|1'!P$Ũ:ȃ|1%!P$Ũ:ȃ|1'!P$Ũ:ƅ|1%!P$Ũ:ƅ|3èZ|1'!6$Ũ:Ǝ|1%!6$Ũ:Ǝ|1'!6$^H:Ǝ|1%!6$^H:Ǝ|1'!ɢ$Ǝ|1%!ɢ$Ǝ|1'!ĉ$j|1%!ĉ$j|1'!ĉ$ȃ|1%!ĉ$ȃ|1'!ď$ȃ|1%!ď$ȃ|1'!W$͸|1%!W$͸|1'!W$͸:Ǝ|1%!W$͸:Ǝ|1'!ϟ$ȃ|1%!ϟ$ȃ|3Ŝ$ȃ|1'!м|3ě$%!ģ|1%!м|1'!ĉ$Ĩ|1%!ĉ$Ĩ|1'!ઁ|3ۣ|3à$ƅ|1%!à$ƅ|1'!6$çH:Ĩ|1%!6$çH:Ĩ|1'!ɢ$Ĩ|1%!ɢ$Ĩ|1'!W$j:Ĩ|1%!W$j:Ĩ|1'!6$Uƅ|1%!6$Uƅ|1'!6$Ɩƽ|1%!6$Ɩƽ|1'!Z$Uƅ|1%!Z$Uƅ|1'!Z$Ɩƽ|1%!Z$Ɩƽ|1'!]$Uƅ|1%!]$Uƅ|1'!]$Ɩƽ|1%!]$Ɩƽ|1'!W$Uƅ|1%!W$Uƅ|1'!W$Ɩƽ|1%!W$Ɩƽ|1'!ª$Uƅ|1%!ª$Uƅ|1'!ª$Ɩƽ|1%!ª$Ɩƽ|1'!P$Uƅ|1%!P$Uƅ|1'!P$Ɩƽ|1%!P$Ɩƽ|1'!«$Ư[|1%!«$Ư[|1'!Č$Ư[|1%!Č$Ư[|1'!ં|1%!ં|1'!Ē$ȃ|1%!Ē$ȃ|1'!à$òG̎|1%!ě$˭|1'!Ҽ|1%!Ҽ|1'!ģ$v|1%!ģ$v|1'!6$^H|1%!6$^H|1'!Z$ʉ|1%!Z$ʉ|1'!W$Ũ:Ǝ|1%!W$Ũ:Ǝ|1'!W$ÿ:Ǝ|1%!W$ÿ:Ǝ|1'!W$^H|1%!W$^H|1'!W$^H:Ǝ|1%!W$^H:Ǝ|1'!Ī$Ǝ|1%!Ī$Ǝ|3·$˭|3à$˭|3Č$˭|3́Ŝ|3ઃɱ|3~QP ɱ|1'!6$j|3ļ$j|1%!ļ$j|1'!·$¿|3Č$ăj|1%!«$շư|3ģ$շư|1'!ɍŮ|1%!ɍŮ|1'!a$j|3P¿|3èē|3Z$j|1%!Z$j|1'!Ŝ$j|1%!Ŝ$j|1'!%Ƶ$vư|1%!Ƶ$vư|1'!ª$j|1%!ª$j|1'!Ī$j|1%!Ī$j|3è6|3ź|3èź|3a$v|3ùW|3ļ$˭|3ě$ư|5v|3ŀZ|3Ѝ|4$v|3ùZ|3ŀùZ|6$v|3ȊŀùZ|3́Ŝ$j|3ĉ$v|3åĉ|1!%'ĉ|1%!ˬ|3઄ɖ|3èĒ|3Ē$v|3ؘ$v|3]$j|3Ǐ|1!%']|1%!·$pÿ|5Џ|5ȓv|3ۤ|3èø|5$ò̎|3ø$v|3à$Iv|5ȓv|1!%'à|1%!нW|1!%'ȉ|1%!ȊŴ|3ˇ|3èª|5$ò̎|6v|3ª$ò̎|5ư|5ҽ|3ŀª$ҽ|1!%'ª|4Ɩª|1%!«$v|3̛|3́Ŝ$j:v|3અŀ̛|3̛$˭|3èČ|3Č$ȓv|3P¿|3Ǳ|3ē$v|3èē|4œ|4Ī|1!%'Ī|1%!ģ$ȓv|5˭|3ϟ|4$˭|1!ɍŮ|2Ҿо~FRICATIVE |2ƖɍŮ|2ˈļ|2࠵Ў|2%'a|1%!ȊùZ|1!%'ĉ$v|4Ē|1%!Ŝ$ѻ|3èď|1!%'·|1%!Ƶ$v|1!ɍŮ$j|2ŀɍŮ$j|1%!мɱ|3ۥɱ|3мɱ$˭|3ۦɱ|3ۧɱ|3આɱ$˭|3࠶ɱ|3ઇɱ|3ઈɱ|1!࠵ઉ|2~BIDENTAL ઉ|1%!èĒ$ҽ|7:ư|0`!%Ē|4$v|3Ŝ|3ª|3èª|5$v|3'Ɩª|3œ|3Ī|2Ϡ|2UϠ|2èƯ|2Ѻ|2ŀƯ|2G¶ç|2I¶ç|2ɍŮ|2ŀɍŮ|2Iũ|2Gũ|2¨ũ|2ºũ|2Ŕƍ|0ȃ|0`!rŕ|2Ǝ|2Ĩƍ|2ƅƍ|2Ïrŕ|3Ǝ|3ƅƍ|3Ĩƍ|2ˮɠ|2¶ˮɠ|2ѼG¶ç|3I¶ç|2¨Ɏ|2ºɎ|2©#|2̂#|0ƽ|0^H|0çH|0͸|0%ÿ|0UĨƍ|0`!~RHOTIC v|2ǚƍ|2%ˬ|3·|3«|3Ń|3ŀɍŮ|2ۨÐ¿|2ÓÐ¿|2ԡÐ¿|2ÏÐ¿|2۩Ð¿|2ѽ࠷ÐL|2ϡ࠷ÐL|2ઊ|2~UNASPIRATED |2UѺ|2Ïºũ|3¨ũ|3Iũ|3Gũ|3ç|2pƅƍ|3Uƅƍ|4Ĩƍ|2Ïÿ|2ɗɠ|2ҿÓÐ|2ȯÓÐ|2ҿÏÐ|2ȯÏÐ|2ઋ|2ùઋ|2ÏI=|0Aƅƍ|1Ĩƍ|1Ŕƍ|1ÿ|1Ǝ|1Ӏ|1ƽ|1^H|1Ũ|1vH|1çH|1UĨƍ|1ȃ|1rŕH|1UrŕH|2ƅƍ|1ɘ|1Ɩƽ|1èƯH|1ƯH|1ŀƯH|1ƯHG|1ƅƍ[|1Ĩƍ[|1IɎ[|1GɎ[|1IƥH|1ɖ|1I¶ç[|1¨Ɏ[|1ºɎ[|1©#[|1̂#[|1~PALATALIZED v[|1ȓv[|1^[|1Ũ[|1ç[|1Ư[|1ʉ|1͸|1rŕ[|1ո[|1ƖUઌ[|1ȃ[|1Ŕƍ[|1ƽ[|1Ɩƽ[|1ÿ[|1Ǝ[|1Ïŕ|1UÏŕ|1ÿˡ|1Żjˡ|1òjˡ|1Ż˓ˡ|1ò˓ˡ|1G¶ç[|1Ɩո[|1M[|1~SEAGULL [|1ŃH|1rÿ|1UӀ|1ƅÐL|1ĨÐL|1CǷ|2࠸|2̜ͅ|2ȴ|1ոH|1Ʌ#[|1Urŕ[|1Iƥ[|1ƘÿH|1ઍH|1͞ëeH|1IG=[|1Ą=[|1~GRAPHEME Ԣ|1GũH|1I¶çH|1࠹|1Ń[|1Iũ[|1Gũ[|3:¨ũ[|2¶çH|1^HG|1Ǿ[|1Uç[|1ϢH|1Uƽ[|3|2Ǝ|3[|2ÿ|2Ɩƽ|2£=[|1)%!6|4Z|4]|4W|4P|4ļ|4ě|4Ē|4ø|4ª|4Č|4ē|4Ń|0C'!઎|1%!઎|1'!Ȣչ|1%!Ȣչ|1ţ#|1³ţ#|1'!એպ|1%!એպ|@37A|0Cȴ|1%ŀпʵ-|2Ȕпʵ-|2ŀȔпʵ-|1ʈL|1'!ؙ|@384|0C̜|1̜ͅ|1'!ź$̜|1Ӂઐ|1'!ȵ$̜|3ǂ$̜|3Ǐ$̜|@38C|0C'!ɿ$̜|@38E|0C'!Ǳ$̜|3Ŵ$̜|1%!Ǐ$ͅ:̜|1'!ź|3̝|3ˬ|3̍|3ȵ|3θ|3ǂ|3ˉ|3Ǐ|3̰|3Λ|3ȣ|3ɥ|3͹|3ɿ|3Ǜ|3ʚ|@3A3|0C'!ʵ|3̱|3Ǳ|3ˇ|3ʶ|3͆|3Ŵ|3Ǐ$ͅ|3Ǳ$ͅ|1%!ź$̜|3ȵ$̜|3ǂ$̜|3Ǐ$̜|3Ǳ$ͅ:̜|3ź|3̝|3ˬ|3̍|3ȵ|3θ|3ǂ|3ˉ|3Ǐ|3̰|3Λ|3ȣ|3ɥ|3͹|3ɿ|3Ǜ|3ʚ|3Tʵ|3ʵ|3̱|3Ǳ|3ˇ|3ʶ|3͆|3Ŵ|3Ǐ$ͅ|3Ǳ$ͅ|3ɿ$̜|3Ǳ$̜|3Ŵ$̜|1'ջ-|1̝-|1ˉ-|1Ǳ$v-|3Ĩ:v-|3Ũ:v-|1ˇ-|1Ǜ-|1ջ-|1!Ȣռ|1%!Ȣռ|1!࠺|1%!࠺|1!պ|1%!պ|1!ռ|1%!ռ|1!չ|1%!չ|0¥'!ӂ|1%!ӂ|1'!ઑ|1%!ઑ|1'!ս|1%!ս|1'!վ|1%!վ|1'!տ|1%!տ|1'!ԣ|1%!ԣ|1'!઒|1%!઒|0C̰-|1ʚ-|1пʵ-|1!ؙ|1'ˉ-|1пȵ-|1ŀпȵ-|1'!А|1%!А|1'пʵ-|2!ր|1%!ր|1ʚ$j-|1'ŀпʵ-|2Ȕпʵ-|2ŀȔпʵ-|0K'!͇$ƅ|3࠻|3۪|3࠼|3࠽͇|3Ӄ|3ઓ]|3+|3ϣ|3۫|3ӄ|3ઔ|3ક|3]$ƅ|3ŻP|3ખ|36|3ͺ|3͈|3̲|3˯|3͇|3͟|3˰|3]|3Ż]|3¢|3ˢ|3̳|3ǃ|3W|3Ǹ|3ͻ|3Б|3ȼ|3P|3р|3Ë|3Μ|3˕|3ů|3࠾|3с#|3В|3Κ#|3Z|3Ȥ|3ú|1%!6|3ͺ|3͈|3̲|3˯|3͇|3͟|3˰|3]|3Ż]|3¢|3ˢ|3̳|3ǃ|3W|3Ǹ|3ͻ|3Б|3ȼ|3P|3р|3Ë|3Μ|3˕|3ů|3࠾|3с#|3В|3Κ#|3Z|3Ȥ|3ú|3͇$ƅ|3࠻|3۪|3࠼|3࠽͇|3Ӄ|3ઓ]|3+|3ϣ|3۫|3ӄ|3ઔ|3ક|3]$ƅ|3ŻP|3ખ|1'!Ŵ|1%!Ŵ|1'!Ѿ|1%!Ѿ|1'!͠Z|1%!͠Z|1'!Ɓɲ|1%!Ɓɲ|1'!͠Ɓɲ|1%!͠Ɓɲ|1'!ͼɲ|1%!ͼɲ|1'!͠ͼɲ|1%!͠ͼɲ|1'!۬|1%!۬|1'!͆|1%!͆|1'!Ԥ|1%!Ԥ|1'!ց|1%!ց|1'!ց$Uƅƍ|1%!ց$Uƅƍ|1'!ւ|1%!ւ|1'!ιŴ|1%!ιŴ|1'!Ŵ$ؚ|1%!Ŵ$ؚ|1'!ۭ|1%!ۭ|1'!ռ|1%!ռ|1Ӆ#|0AKؚ|2~PALATALIZATION |2Ōગ|2ŝગ|2~POKRYTIE |2ÑӅ#|2ԥ#|0K'!Ż]$ư|1%!Ż]$ư|1'!ઘ#|1%!ઘ#|1'!ͻ$т|1%!ͻ$т|1'!̲$࠿|1%!̲$࠿|1'!̲$j|1%!̲$j|1'!̲$pv|1%!̲$pv|1'!͟$ȥ|1%!͟$ȥ|1'!˰$ȥ|1%!˰$ȥ|1'!¢$ȥ|1%!¢$ȥ|1'!¢$rj|1%!¢$rj|1'!¢$j|1%!¢$j|1'!ઙ¢|1%!ઙ¢|1'!ǃ$ȥ|1%!ǃ$ȥ|1'Bǃ̲|1%Bǃ̲|1'!Ǹ$pv|1%!Ǹ$pv|1'!ӆË|1%!ӆË|1'!Б$ȥ|1%!Б$ȥ|1'!ȼ$ȥ|1%!ȼ$ȥ|1'!ɇP|1%!ɇP|1'!ɇP$j|1%!ɇP$j|1'!Ë$ȥ|1%!Ë$ȥ|1'BȼΜ|1%BȼΜ|1'!˕$ȥ|1%!˕$ȥ|1'!˕$rj|1%!˕$rj|1'!ۮ|1%!ۮ|1'!ӆ˕|1%!ӆ˕|1'!ӆ˕$ȥ|1%!ӆ˕$ȥ|1!ચ|1'!͟$ƽ|1%!͟$ƽ|1'!¢$v|1%!¢$v|1'!ˢ$ư|1%!ˢ$ư|1'!ǃ$v|1%!ǃ$v|1'!ǃ$ư|1%!ǃ$ư|1'!છ˕|1%!છ˕|1'!̳$ư|1%!̳$ư|3ચ|1'!6$ƽ|1%!6$ƽ|1'!6$Ũ|1%!6$Ũ|1'B6͇|1%B6͇|1'!͇$ƽ|1%!͇$ƽ|1'!Ѝ|1%!Ѝ|1'!Ѝ$Ũ|1%!Ѝ$Ũ|1'!͟$Ũ|1%!͟$Ũ|1'!˰$Ũ|1%!˰$Ũ|1'!ӆӃ|1%!ӆӃ|1'!]$Ǝ|1%!]$Ǝ|1'!]$Ũ|1%!]$Ũ|1'!W$Ũ|1%!W$Ũ|1'!нW|1%!нW|1'!нW$Ũ|1%!нW$Ũ|1'!Z$Ũ|1%!Z$Ũ|1'!P$Ǝ|1%!P$Ǝ|1'!P$Ũ|1%!P$Ũ|1'!P$UĨ|1%!P$UĨ|1'!˕$Ũ|1%!˕$Ũ|1'!̲$ȥ|1%!̲$ȥ|1'!В$Ũ|1%!В$Ũ|1'!̲$j:v|1%!̲$j:v|1'!Ë$v|1%!Ë$v|1'!Ë$j|1%!Ë$j|1'!͡˯|1%!͡˯|1'!۪͡|1%!۪͡|1'!͡જ|1%!͡જ|1'!͡ઝ|1%!͡ઝ|1'!۫͡|1%!۫͡|1'!͡ӄ|1%!͡ӄ|1'!͡ઞ|1%!͡ઞ|1'!͡ટ|1%!͡ટ|1'!ŀ˰|1%!ŀ˰|1'!ˢ$v|1%!ˢ$v|1'!Ӈ|1%!Ӈ|1'!ѿ|1%!ѿ|1'!؛|1%!؛|1'!̏|1%!̏|1'!ʷ|1%!ʷ|1'!ઠ¢|1%!ઠ¢|1'!ˢ$pv|1%!ˢ$pv|1'!ǃ$pv|1%!ǃ$pv|1'!Ǹ$ȥ|1%!Ǹ$ȥ|1'!ۮ$ȥ|1%!ۮ$ȥ|1'!ǃ$Iv|1%!ǃ$Iv|1'!ડ|1%!ડ|1'!ઢ|1%!ઢ|1'!ˢ$ȥ|1%!ˢ$ȥ|@531|0ğ'!ࡀ|3ࡁ|3ࡂ|3ć|3փ|3ǣ|3у|3κ|3e|3͟|3ࡃ|3ણ|3ࡄ|3ŵ|3ք|3ʥ|3Ű|3ત|3થ|3Г|3+|3ۯ|3ů|3ф|3Ɨ|3Ҁ|3દ|3â|3ધ|3ࡅ|3ન|3ȶ|3Ϥ|3ࡆ|3ࡇ|3ࡈ|3؜|3ȷ|@559|0ğ`!I¶ç|1Ѻ|1઩L|1ʴL|1Ư|1ʈL|1̞L|1%!èࡀ|3ࡀ|3ࡁ|3ࡂ|3ć|3փ|3ǣ|3у|3κ|3e|3͟|3ࡃ|3ણ|3ࡄ|3ŵ|3ք|3ʥ|3Ű|3ત|3થ|3Г|3+|3ۯ|3ů|3ф|3Ɨ|3Ҁ|3દ|3â|3ધ|3ࡅ|3ન|3ȶ|3Ϥ|3ࡆ|3ࡇ|3ࡈ|3؜|3ȷ|2Bփࡆ|2!+$j|1ǙŮ|1Ϝ|@58D|0۰ğࡉ#|0۱ğࡉ#|0ğપ#|@591|0Ôƍ~ETNAHTA |2ࡊ|2~SHALSHELET |2ફબ|3~GADOL |2~TIPEHA |2~REVIA |2~ZARQA |2~PASHTA |2~YETIV |2~TEVIR |2ࡋ|3~MUQDAM |2ભ|2~QARNEY મ|2ય~GEDOLA |2~PAZER |2~ATNAH ~HAFUKH |2~MUNAH |2~MAHAPAKH |2ર|3~KEFULA |2~DARGA |2~QADMA |2ય~QETANA |2~YERAH ࡁ~YOMO |2~OLE |2~ILUY |2~DEHI |2~ZINOR |1L~MASORA À|1ʦ~SHEVA |2ࡌࡊ|3۲|3۳|2઱|2~TSERE |2ࡊ|2۲|2۳|2ࡍ|3~HASER Jօ|2~QUBUTS |2˖Ĥࡎ|2~METEG |1č~MAQAF |1ʦ۴|1č~PASEQ |1ʦɣ^|2۵^|1čલ~PASUQ |1L»^|2³^|1čƹ~HAFUKHA |1ʦ۳બ|@5D0|0Ô!¾|2ֆ|2͢|2۶|2Ȝ|2օ|2Ν|2ળ|2Ԧ|2х|2TǤ|2Ǥ|2۷|2T̟|2̟|2Tƹ|2ƹ|2ͣ|2ϥ|2TǸ|2Ǹ|2Tࡏ|2ࡏ|2ࡐ|2λ|2ɣ|2ࡑ|@5EF|0Ôхõ|1B۸Uօ|3օх|3Uх|1čࡋ|2ભ|@600|0*?#|1#~SANAH |1઴ӈ|1#વ|2~SAMVAT |1?LH|0ɏࡒ؝|1۹؝|0*શ|0ɏ؞ષ#|2ōó#|0~AFGHANI #|0*Ư|1સə|1~POETIC ࡓ#|1#~MISRA |2હ؟~WASSALLAM |2؟~ASSALLAM |2~RAHMATULLAH ؟|2և~ALLAHOU ~ANHU |2~TAKHALLUS |1%ÓȦ|3B¾$ű$¤|3ͤ|2Ξ|2Д|2Ο|1ϛ|1!L|1ȯkЕL|1ƶ^čL|1ʈL|1!઺¤|2Ř|2¾$ЖH|4ŘH|2ȕ$ŘH|2¾$Ř[|2¤$ŘH|2¾|2Ȅ|2ǒۺ|3|2˗|2Ċ|2ì|2Ə|2̠|2Ӊ|2ȶ|2ͤ|2Ǟ|2ȋ|2ɚ|2ɦ|2Ȧ|2Π|2ȅ|2ʸ|2Ϧ$XÕH|4cÕ[|2Ρ¤$Ɩē|5XÕH|5cÕH|1ֈ|1!ȷ|2Ɉ|2Ǥ|2ű|2 |2Ɛ|2Ǩ|2ȕ|2¾Ɖ|2¤|1ԧ|1ؠ|1ء|1Ξ|1Д|1Ο|1΢|1ӊ|1઻H|1ŘH|2[|1ȧ¾|1ƖД|1LƐآ|1~ZWARAKAY |12#%ēH|3Ɩ%ēH|3^[|1ŀД|1Ξ$XÕ|1ЗŘ[|0ɏ0ĩ|2S|2X|2c|2o|2x|2½|2È|2¼|2Î|0*ؓ#|1ࡔə|1Ӆə|1xȽƷ|1!́Ȅ|3Ɉ|2ʙ¾|2¾ۻ|3$ЗŘH|6[|2ÓŘ|4¾|4ȕ|2P$ŘH|2ÓŘ¤|2։|2أ|2ؤ|2ǒ$ç|4cÕHĀ|2Ҁ|2إ|2ئ|2ì$ŘH|4XÕrH|2ا|2ب|2ì$cÕH|2Ԩ|2ة|2ࡕ|2̠$ç|4^[|6:%Ȧ|2ࡖ|2ࡗ|2ࡘ|2̠$cÕHĀ|4oÕH|2࡙|2ȶ$%ē|4ç|4^[|4%ē[|4^[:^H|4XÕH|2࡚|2ȶ$oÕH|2Ǟ$^[:^H|4cÕ[|7:cÕH|2ɚ$XÕ[|4cÕH|2Ȧ$cÕH|2ȅ$cÕH|2́ȷ|2ȷ$^~MOVED [|5[|2ت|2ȷ$cÕ[|2ث|2Ɉ$^H|4cÕH|2Ϧ|2շǤ|2Ǥ$ç|4^H|2˱|2Ǥ$cÕ[|2ц|3$ç|2ج|2ц$XÕ[|2ح|2ц$cÕH|2ű$%ē|4^H|4cÕH|6[|2Ɛ$^[|3آ|2خ|2Ɛ$ç|4cÕH|2Ǩد|2Ԩ$^H|2Ǩ$¤H|3Ӌ|4$ŘH|2ǒۺӋ|2ȕ$ç|2Иȉ|2ȉ|2P|2Ȥ|2ИȤ|2ȕ$XÕH|2͈|2Ρ¤|2¤$ư|4%ē|2ȕ$^H|2Z|2¤$cÕ[|3ҁ|4$ŘH|1ǙŮ|1!ɢ|1%ÓBɚ$ű$¾Ɖ|4Ɉ$ű$¾Ɖ|3 y1|3ű¾|3Ċ|3cÕ|3Ǟ|1ȯk઼|1Йkۼˢ~HIZB |1%Óͽĩ|3~UPRIGHT ઽĩ|3́ʛkƏ|3 m1|2ÏǞ|2ÓЖ|2ȕ|2¤|2Ó¤|3Ɛ|1ԩk~SAJDAH |1;ƙÏŮ|3ÓŮ|1ͽÓŮ$~FILLED ƙ|1%Ï |1!̠$Ɩē|2ȶ$Ɩē|0˲ɏ0ĩ|3S|3X|3c|3o|3x|3½|3È|3¼|3Î|0*!ȋ$^[|2ɦ$^[|2ʸ$^[|1#ાҸ|3~POSTPOSITION Г|1!Ǩ$Ɩē|0ĭȯkذ|1࡛ǙŮ|1۽ǙŮ|1࡛ɠ|1۽ɠ|1íɠ|1ɠرI|3G|1࡛ɠرI|1۽ɠرG|1~CONTRACTION |1࡜~OBELUS |2~METOBELUS |2~ASTERISCUS |@70F|0ĭ̞L|1!િ|2ʙિ|2͉|2ી|3ુ|2ૂ|2́ૂ࡝|2Ȝ|2ȕ|2ͤ|2Ϳ|2К|3ુ|2ૃ|3Ȝ|2ͥ|2~LAMADH |2۾|2ƹ|2ૄ|2Tૄ|2Z|2Ǹ|2ŀǸ|2ͦ|2~QAPH |2࡝|2ɣ|2͊|2Ǔૅ|3~GHAMAL |3~DHALATH |1࡞H|2[|2Ȕ|1࡟H|2[|2Ȕ|1૆H|2[|1Ȕેí|3~ANGULAR |1ૈH|2[|1~HBASA-ESASA Ȕ|1ૉH|2[|1~RWAHA |1੸^|1~QUSHSHAYA |1~RUKKAKHA |1XrÕH|4[|1cÕH|3[|1͋ŕH|3[|1ۿ|1~BARREKH |@74D|0ĭ!ń~ZHAIN |3૊|3ϧ|0*!Ȅ$cÕ~HORIZONTALLY [|4^[:cÕH|4cÕŤĄ[|9:XÕH|4XÕ[:^H|4Ɩ%ē[|4%ē|2ì$XÕH|4cÕŤĄ[|2̠$XÕӌ[:%Ȧ|4Ɩ%ē[|2ȶ$j|2Ǟ$oÕH|2ȅ$XÕH|4cÕŤĀH|4XÕӌH|2ȷ$XÕ[|4cÕŤĄ[|2Ϧ$^H|4cÕH|6ŤĄ[|2 $^H|5[|2Ɛ$XÕ[|4%Ȧ|5ē|2ű$¿|2ȶ$XÕӌH|4ŘH|2Ǟ$XÕӌH|2ì$%*!Ȧ[|8:XÕ|2Ǟ$%*!Ȧ:XÕ|2ȶ$%*!Ȧ:XÕ|2ì$%*!ȦH|2¾$˲ɏ0XH|7cH|2Ρ¤$˲ɏ0XH|8cH|8o[|2ȕ$˲ɏ0XH|7cH|2¤ҁ$˲ɏ0XH|8cH|2ì$˲ɏ0o[|2Ǟ$˲ɏ0oH|4Ɩē|2Ǥ$XÕH|0ǥ!Л|2~SHAVIYANI |2~NOONU |2ز|2܀|2~LHAVIYANI |2~KAAFU |2~ALIFU |2~VAAVU |2~MEEMU |2~FAAFU |2~DHAALU |2س|2~LAAMU |2~GAAFU |2~GNAVIYANI |2~SEENU |2~DAVIYANI |2~ZAVIYANI |2~TAVIYANI |2֊|2~PAVIYANI |2~JAVIYANI |2~CHAVIYANI |2ો|2ૌ|2્|2~THAALU |2૎|2~SHEENU |2~SAADHU |2~DAADHU |2e|2Ϩ|2~AINU |2~GHAINU |2~QAAFU |2~WAAVU |1~ABAFILI |1~AABAAFILI |1~IBIFILI |1~EEBEEFILI |1~UBUFILI |1~OOBOOFILI |1~EBEFILI |1~EYBEYFILI |1~OBOFILI |1~OABOAFILI |1ӊ|1!֋|@7C0|0Ʃ0ĩ|2S|2X|2c|2o|2x|2½|2È|2¼|2Î|1!6|2Ȗ|2]|2Z|2P|2ǲ|2W|2~DAGBASINNA |2à|2ī|2Þ|2ü|2Ű|2Ɨ|2ć|2â|2̐|2ā|2ࡠ|2ȝ|2¢|2ô|2ö૏|2ð|2ƚ|2ö|2Ë|2Ŷ|2ú|2ƚ૏|2ࡡŰ|3Ɨ|3â|1AŻÓÐ|3ÏÐ|3΀Ð|2òࡢÐ|3ÓÐ|3ÏÐ|3΀Ð|2ࡣL|2U^H|1ÓÐѺ|1ÏÐѺ|1-ǲ~DENNEN |2~GBAKURUNEN |1Ư|1ʴL|1~LAJANYALAN |@7FD|0Ʃ~DANTAYALAN |1~DOROME #|1~TAMAN #|0ƪ!~ALAF |2ૐ|2~GAMAN |2~DALAT |2ࡤ|2܀|2ش|2ࡥ|2૑|2܁|2૒|2~LABAT |2۾|2ƹ|2~SINGAAT |2Ơ|2М|2~TSAADIY |2~QUF |2࡝|2ǿ|2~TAAF |1LƠ|2~IN-ALAF |2~OCCLUSION |2˖|1`!૓܁|1L૓܁|12#òZ|3Z|3૔ĵ|3òĵ|3ĵ|3૔6|3ò6|36|1`!Ż6|12#Ż6|3òP|3P|1`!]|12#ò]|3]|3W|3ӊ|1L૕|@830|0ƪč૕|2~AFSAAQ |2~ANGED |2~BAU |2~ATMAAU |2~SHIYYAALAA |1̞L|1č~MELODIC ૖|2~ZIQAA |2૖|2~ZAEF |2~TURU |2~ARKAANU |2લ~MASHFAAT |2~ANNAAU |@840|0ʋ!~HALQA |2̃|2܂|2Ԫ|2ϩ|2~USHENNA |2૗|2ࡥ|2~ATT |2~AKSA |2֌|2͌|2ч|2Ⱦ|2Σ|2Ơ|2૘|2~ASZ |2ص|2ࡦ|2Ǆ|2ʣ|2~DUSHENNA |2~KAD |2ȅ|1~AFFRICATION L|1~VOCALIZATION L|1ضL|@85E|0ʋč|@860|0ĭ!ÚŪ|3Ű|3ƚ|3ǟ|3Ȇ|3ط|3Ȍ|3â|3ʜ|3ԫ|3Ȟ|@870|0*!¾$̄Ξ|5ǹGΞ|4Gpj|4Ipj|4̄Ο|5ȿGΟ|5ι^H|5Gι^|5Iι^|5ι^[|4^H|4̄ǹGΞ:^H|4Gpj:^H|4̄ȿGΟ:^H|5ǹGΞ:Iç|4Gpj:Iç|4̄ȿGΟ:Iç|5GŘ|5IŘ|1ֈ$૙Ř|4ȕ|3XÕ[|1!܃¤|1૚ι^|1ɗι^|1!Ɛ$Ɩ%ē|2ì$Ɩ%ē[|2Ȧ$^[|4cÕ[|2Ϧ$XÕӌ[|1rư|@890|0*۟LH|1~PIASTRE LH|@898|0*%Óˣ~AL-JUZ |2Ïˣ~ISHMAAM |4~IMAALA |4~TASHEEL |1Ж~WAAJIB |1ʙ¾~MOKHASSAS |1ظЖ|1¶ЖØЖ|1!Ȅ$%ē[|4ŘH|2Ċ$XÕH|2Ȧ$XÕH|2ȷ$^[:cÕH|2Ɉ$^[|2ű$U¿|2 $cÕH|2¤$XÕ[:ŘH|8^H|2ȶ$ʤ|2ȕ$^Ԭ|2Ǡ¤|2Ï¾|2̠$cÕ[|2ɚ$cÕ[|2ц$Ɩj|2ɇȕ|2ͤ$ƖēH|2ȅ$cÕ[|2Ǥ$^[|2Ɉ$^[:ȟÕH|2Ȅ$% H|2Ҁ$% H|2ǒ$%ǒH|2ȶ$%ƐH|2¤$XÕ[:%ƐH|2ؖȷ|3Ɉ|3Ɛ|2Ҁ$%ē|2ǒ$%ē|2։$%ē|2Ԩ$%ē|2Ϧ$%ē|2ʸ$cÕH|2ؖɈ$cÕH|2Ċ$cÕH|6[|2ű$%*!ȦH|2~GRAF |1%Ρ¤|2ÓΡ¤|3¤ҁ$XÕ[|3ˣ૛|3Π|1Ĭι^H|4[|1ӊ[|1ĬÀ[|2ι^̡À[|1%Ïȕ|2Óˣ~AR-RUB |3ɚ|3ȅ|3Ɉ|3Ɛ$Ο|2ÏƐ$Ο|2Óˣ~ATH-THALATHA |4~AS-SAJDA |4~AN-NISF |4~SAKTA |4~QIF |4~WAQFA |3઴ӈ|3#વ|1~DISPUTED ȯk઼|1èД[|1ɆΞ|2Д|2Ο|2ԧ|2ؠ|2ء|1ÐS^H|2XÕH|2ʤH|2S^[|2XÕ[|2ʤ[|1ùԧ|2ؠ|2ء|1%Óȕ|1Ξ$ç|3^H|1Ο$^[|1IũH|1GũH|1Iũ[|1Gũ[|1UGũH|5$^|1GũH$^|1Д$^|1L̢Ɛآ|0µ#Ɩɘ|2ɘ|2ǔ|2ȸ|1!Ż6|26|2ĵ|2]|2ř|2P|2Ų|2Âª|3·|2΁Z|2ŻZ|2Z|2Ŗ|2΁W|2ŻW|2W|2ū|2¢|2ƛ|2Ď|2ǩ|2Ū|2ŵ|2Ɨ|2Ű|2ɉ|2ƚ|2ǟ|2ȗ|2Ǧ|2Ȩ|2Ȇ|2ü|2Ʊ|2ć|2ǳ|2ö|2ط|2Þ|2Ǌ|2ī|2Ȍ|2ð|2ú|2â|2̐|2ô|2ʜ|2ԫ|2ǋ|2ů|2Ȟ|2ā|2Ë|12#ȉ|3૜|1#ˊ|2ͧ|12#ĵ|3]|3ř|3P|3Ų|3Âª|4ȩ|3΁Z|3ŻZ|3Z|3Ŗ|3΁W|3ŻW|3W|3ū|1#Ƞ|12#ࡧZ|3ࡨ|1μ|1ع#܄|3غ|1ƅƍ|1Ĩƍ|12#΁òZ|3ˤ|3ࡩ|1!̏|2૝|2ࡪ|2ǣ|2૞|2ѿ|2ȝ|2܅|2Âȩ|3ɐ|12#Â·|4ɐ|1ʀ|1Uʀ|10ĩ|2S|2X|2c|2o|2x|2½|2È|2¼|2Î|1̞#|1#Ó࡫^|1!΁6|2ȉ|2૜|2ࡨ|2ˤ|2ࡩ|2~MARWARI Ǧ|2˳|2nú|2֍|2ػ|2ɍŮ|2܆|2ԭ|0Ġ࡬|1#ɘ|2ǔ|2ȸ|@985|0Ġ!6|2ĵ|2]|2ř|2P|2Ų|2Âª|3·|@98F|0Ġ!Z|2Ŗ|@993|0Ġ!W|2ū|2¢|2ƛ|2Ď|2ǩ|2Ū|2ŵ|2Ɨ|2Ű|2ɉ|2ƚ|2ǟ|2ȗ|2Ǧ|2Ȩ|2Ȇ|2ü|2Ʊ|2ć|2ǳ|2ö|@9AA|0Ġ!Þ|2Ǌ|2ī|2Ȍ|2ð|2ú|2â|@9B2|0Ġ!ô|@9B6|0Ġ!ů|2Ȟ|2ā|2Ë|@9BC|0Ġ#ˊ|2ͧ|12#ĵ|3]|3ř|3P|3Ų|3Âª|4ȩ|@9C7|0Ġ2#Z|3Ŗ|@9CB|0Ġ2#W|3ū|1#Ƞ|1!~KHANDA ü|@9D7|0Ġū΂L|@9DC|0Ġ!̐|2ѿ|@9DF|0Ġ!܅|2Âȩ|3ɐ|12#Â·|4ɐ|@9E6|0Ġ0ĩ|2S|2X|2c|2o|2x|2½|2È|2¼|2Î|1!â$pă|4³ă|1ӍL|2#|1л֎S|3X|3c|3o|3S~LESS ֏ȍ૟|2૟ш|1ૠ|1~GANDA L|1!Ǵǔ|1̞#|1҂L|@A01|0Ś#~ADAK ૡ|2ૡ|2ȸ|@A05|0Ś!6|2ĵ|2]|2ř|2P|2Ų|@A0F|0Ś!Ȗ|2Ŗ|@A13|0Ś!ǲ|2ū|2¢|2ƛ|2Ď|2ǩ|2Ū|2ŵ|2Ɨ|2Ű|2ɉ|2ƚ|2ǟ|2ȗ|2Ǧ|2Ȩ|2Ȇ|2ü|2Ʊ|2ć|2ǳ|2ö|@A2A|0Ś!Þ|2Ǌ|2ī|2Ȍ|2ð|2ú|2â|@A32|0Ś!ô|2ʜ|@A35|0Ś!ǋ|2ů|@A38|0Ś!ā|2Ë|@A3C|0Ś#ˊ|@A3E|0Ś2#ĵ|3]|3ř|3P|3Ų|@A47|0Ś2#Ȗ|3Ŗ|@A4B|0Ś2#ǲ|3ū|1#Ƞ|@A51|0Ś#~UDAAT |@A59|0Ś!૝|2ࡪ|2ǣ|2̐|@A5E|0Ś!ȝ|@A66|0Ś0ĩ|2S|2X|2c|2o|2x|2½|2È|2¼|2Î|1~TIPPI |1~ADDAK |1~IRI |1~URA |1֐~ONKAR |1#~YAKASH |1̞#|@A81|0Į#ɘ|2ǔ|2ȸ|@A85|0Į!6|2ĵ|2]|2ř|2P|2Ų|2Âª|3·|12΁Z|@A8F|0Į!Z|2Ŗ|12΁W|@A93|0Į!W|2ū|2¢|2ƛ|2Ď|2ǩ|2Ū|2ŵ|2Ɨ|2Ű|2ɉ|2ƚ|2ǟ|2ȗ|2Ǧ|2Ȩ|2Ȇ|2ü|2Ʊ|2ć|2ǳ|2ö|@AAA|0Į!Þ|2Ǌ|2ī|2Ȍ|2ð|2ú|2â|@AB2|0Į!ô|2ʜ|@AB5|0Į!ǋ|2ů|2Ȟ|2ā|2Ë|@ABC|0Į#ˊ|2ͧ|12#ĵ|3]|3ř|3P|3Ų|3Âª|4ȩ|3΁Z|@AC7|0Į2#Z|3Ŗ|3΁W|@ACB|0Į2#W|3ū|1#Ƞ|@AD0|0Įμ|@AE0|0Į!Âȩ|3ɐ|12#Â·|4ɐ|@AE6|0Į0ĩ|2S|2X|2c|2o|2x|2½|2È|2¼|2Î|1̞#|1Ӎ#|@AF9|0Į!˳|1#ӊ|2΢|2઻|2~THREE-DOT ˊH|2ÀˊH|2࡭ˊH|@B01|0į#ɘ|2ǔ|2ȸ|@B05|0į!6|2ĵ|2]|2ř|2P|2Ų|2Âª|3·|@B0F|0į!Z|2Ŗ|@B13|0į!W|2ū|2¢|2ƛ|2Ď|2ǩ|2Ū|2ŵ|2Ɨ|2Ű|2ɉ|2ƚ|2ǟ|2ȗ|2Ǧ|2Ȩ|2Ȇ|2ü|2Ʊ|2ć|2ǳ|2ö|@B2A|0į!Þ|2Ǌ|2ī|2Ȍ|2ð|2ú|2â|@B32|0į!ô|2ʜ|@B35|0į!ǋ|2ů|2Ȟ|2ā|2Ë|@B3C|0į#ˊ|2ͧ|12#ĵ|3]|3ř|3P|3Ų|3Âª|4ȩ|@B47|0į2#Z|3Ŗ|@B4B|0į2#W|3ū|1#Ƞ|@B55|0į#Ӏ|1Ŗ΂L|1ū΂L|@B5C|0į!̐|2ѿ|@B5F|0į!܅|2Âȩ|3ɐ|12#Â·|4ɐ|@B66|0į0ĩ|2S|2X|2c|2o|2x|2½|2È|2¼|2Î|1ૠ|1!Ŷ|1ėSȳ|3¶|2cͷ|2S֑|3ȹ|2c܇|@B82|0×#ǔ|2ȸ|@B85|0×!6|2ĵ|2]|2ř|2P|2Ų|@B8E|0×!Z|2Ȗ|2Ŗ|@B92|0×!W|2ǲ|2ū|2¢|@B99|0×!Ū|2ŵ|@B9C|0×!Ű|@B9E|0×!ƚ|2ǟ|@BA3|0×!Ȇ|2ü|@BA8|0×!ö|2ط|2Þ|@BAE|0×!ð|2ú|2â|2̐|2ô|2ʜ|2ԫ|2ǋ|2ů|2Ȟ|2ā|2Ë|@BBE|0×2#ĵ|3]|3ř|3P|3Ų|@BC6|0×2#Z|3Ȗ|3Ŗ|@BCA|0×2#W|3ǲ|3ū|1#Ƞ|@BD0|0×μ|@BD7|0×ū΂L|@BE6|0×0ĩ|2S|2X|2c|2o|2x|2½|2È|2¼|2Î|1?ō|2SÑ|3ó|1ɧ#|1࡮#|1ૢ#|1~DEBIT #|1࡯#|1ΣH#|1Ӎ#|1?#|@C00|0Đ#AɘH|2ɘ|2ǔ|2ȸ|2AǔH|1!6|2ĵ|2]|2ř|2P|2Ų|2Âª|3·|@C0E|0Đ!Z|2Ȗ|2Ŗ|@C12|0Đ!W|2ǲ|2ū|2¢|2ƛ|2Ď|2ǩ|2Ū|2ŵ|2Ɨ|2Ű|2ɉ|2ƚ|2ǟ|2ȗ|2Ǧ|2Ȩ|2Ȇ|2ü|2Ʊ|2ć|2ǳ|2ö|@C2A|0Đ!Þ|2Ǌ|2ī|2Ȍ|2ð|2ú|2â|2̐|2ô|2ʜ|2ԫ|2ǋ|2ů|2Ȟ|2ā|2Ë|@C3C|0Đ#ˊ|2ͧ|12#ĵ|3]|3ř|3P|3Ų|3Âª|4ȩ|@C46|0Đ2#Z|3Ȗ|3Ŗ|@C4A|0Đ2#W|3ǲ|3ū|1#Ƞ|@C55|0Đ΂L|1Ŗ΂L|@C58|0Đ!ʁ|2ν|2~RRRA |@C5D|0Đ!ૣ૤|@C60|0Đ!Âȩ|3ɐ|12#Â·|4ɐ|@C66|0Đ0ĩ|2S|2X|2c|2o|2x|2½|2È|2¼|2Î|@C77|0Đ#Ę|1ė0ĩJԮԯko|3SJԮԯko|3XJԮԯko|3cJԮԯko|3SJ֒ԯko|3XJ֒ԯko|3cJ֒ԯko|1#~TUUMU |0İ#࡫ɘ|2ɘ|2ǔ|2ȸ|2Ę|1!6|2ĵ|2]|2ř|2P|2Ų|2Âª|3·|@C8E|0İ!Z|2Ȗ|2Ŗ|@C92|0İ!W|2ǲ|2ū|2¢|2ƛ|2Ď|2ǩ|2Ū|2ŵ|2Ɨ|2Ű|2ɉ|2ƚ|2ǟ|2ȗ|2Ǧ|2Ȩ|2Ȇ|2ü|2Ʊ|2ć|2ǳ|2ö|@CAA|0İ!Þ|2Ǌ|2ī|2Ȍ|2ð|2ú|2â|2̐|2ô|2ʜ|@CB5|0İ!ǋ|2ů|2Ȟ|2ā|2Ë|@CBC|0İ#ˊ|2ͧ|12#ĵ|3]|3ř|3P|3Ų|3Âª|4ȩ|@CC6|0İ2#Z|3Ȗ|3Ŗ|@CCA|0İ2#W|3ǲ|3ū|1#Ƞ|@CD5|0İ΂L|1Ŗ΂L|@CDD|0İ!ૣ૤|2ȝ|@CE0|0İ!Âȩ|3ɐ|12#Â·|4ɐ|@CE6|0İ0ĩ|2S|2X|2c|2o|2x|2½|2È|2¼|2Î|@CF1|0İ#֓|2֔|@D00|0Ú#AǔH|2ɘ|2ǔ|2ȸ|1!Ǵǔ|26|2ĵ|2]|2ř|2P|2Ų|2Âª|3·|@D0E|0Ú!Z|2Ȗ|2Ŗ|@D12|0Ú!W|2ǲ|2ū|2¢|2ƛ|2Ď|2ǩ|2Ū|2ŵ|2Ɨ|2Ű|2ɉ|2ƚ|2ǟ|2ȗ|2Ǧ|2Ȩ|2Ȇ|2ü|2Ʊ|2ć|2ǳ|2ö|2ط|2Þ|2Ǌ|2ī|2Ȍ|2ð|2ú|2â|2̐|2ô|2ʜ|2ԫ|2ǋ|2ů|2Ȟ|2ā|2Ë|2૥|1#r¿Ƞ|2ؼȠ|2ͧ|12#ĵ|3]|3ř|3P|3Ų|3Âª|4ȩ|@D46|0Ú2#Z|3Ȗ|3Ŗ|@D4A|0Ú2#W|3ǲ|3ū|1#Ƞ|1!^~REPH |1#મ|@D54|0Ú!҃ø|3Ī|3~LLL |1ū΂L|1ėS૦|3૧|2c૨|2S૩|3ࡰ|2c૪|2Sࡱ|1!Ȣř|2Âȩ|3ɐ|12#Â·|4ɐ|@D66|0Ú0ĩ|2S|2X|2c|2o|2x|2½|2È|2¼|2Î|1?ō|2SÑ|3ó|1ėSȳ|3¶|2cͷ|2S֑|3ȹ|2c܇|1સL|1!҃ؽ|3à|3ȩ|3·|3ɐ|3ď|@D81|0û#ɘ|2~ANUSVARAYA |2~VISARGAYA |@D85|0û!~AYANNA |2~AAYANNA |2~AEYANNA |2~AEEYANNA |2~IYANNA |2~IIYANNA |2~UYANNA |2~UUYANNA |2~IRUYANNA |2~IRUUYANNA |2~ILUYANNA |2~ILUUYANNA |2~EYANNA |2~EEYANNA |2~AIYANNA |2~OYANNA |2~OOYANNA |2~AUYANNA |@D9A|0û!щ૫|2ъ૫|2щࡲ|2ъࡲ|2~KANTAJA ૬|2܈ࡲ|2щ૭|2ъ૭|2щࡳ|2ъࡳ|2ࡴ૬|3~SANYOOGA ~NAAKSIKYAYA |2܈ࡳ|2щ૮|2ъ૮|2щࡵ|2ъࡵ|2ࡶ૯|2܈ࡵ|2щ૰|2ъ૰|2щࡷ|2ъࡷ|2ࡸ૯|@DB3|0û!܈ࡷ|2щ૱|2ъ૱|2щࡹ|2ъࡹ|2~MAYANNA |2~AMBA ࡹ|2~YAYANNA |2~RAYANNA |@DBD|0û!ࡸ૲|@DC0|0û!~VAYANNA |2ࡴࡺ|2ࡶࡺ|2ࡸࡺ|2~HAYANNA |2ࡶ૲|2~FAYANNA |@DCA|0û#~AL-LAKUNA |@DCF|0û2#ࡻ|3ࡼ૳|3԰૳|3ࡼ૴|3԰૴|3ࡼ૵|@DD6|0û2#԰૵|@DD8|0û2#૶|3ؾ|3԰ؾ|3~KOMBU ~DEKA |3ؾЛࡻ|5԰ࡻ|5ࡽ|3ࡽ|@DE6|0ûы0ĩ|3S|3X|3c|3o|3x|3½|3È|3¼|3Î|@DF2|0û2#԰૶|4ࡽ|1č~KUNDDALIYA |@E01|0Ľċˋջ|2Ϫ૷|3~KHUAT |3~KHWAI |3~KHON |3~RAKHANG |2Ա~NGU |2Н~CHAN |3~CHING |3~CHANG |2ʧʧ|2Н~CHOE |2ɨ~YING |2̑~CHADA |2e~PATAK |2̅֏|3~NANGMONTHO |3~PHUTHAO |2ȟࡾ|2̑~DEK |2e~TAO |2̅~THUNG |3~THAHAN |3૸|2ȟɥ|2ϫ~BAIMAI |2̴܉|2О~PHUNG |2ξȝ|2О~PHAN |2ξૹ|2О~SAMPHAO |2˴ð|2ɨࡿ|2ʨ~RUA |2˥|2̆ૺ|2ʹ|2˘~WAEN |2ʧ~SALA |3~RUSI |3ࢀ|2ʥ֕|2̆~CHULA |2Wο|2ʥ~NOKHUK |2~PAIYANNOI |2Τ6|2˵~HAN-AKAT |2Τĵ|3ч|3]|3ř|3ˤ|3~UEE |3P|3Ų|2~PHINTHU |@E3F|0Ľл-~BAHT |1ċΤZ|3ɢ|3W|3Ŗ~MAIMUAN |4~MAIMALAI |2~LAKKHANGYAO |2~MAIYAMOK |2~MAITAIKHU |2˵֐|3̅|3~TRI |3~CHATTAWA |2~THANTHAKHAT |2~NIKHAHIT |2~YAMAKKAN |2~FONGMAN |10ĩ|2S|2X|2c|2o|2x|2½|2È|2¼|2Î|1ċ~ANGKHANKHU |2~KHOMUT |@E81|0Ł!ˋ|2Ϫ֖|@E84|0Ł!ϪԲ|@E86|0Ł!πǩ|2Ա|2Ϥ|2πƗ|2ʧԲ|@E8C|0Ł!πɉ|2҄|2πƚ|3ǟ|3ȗ|3Ǧ|3Ȩ|3Ȇ|2̑|2e|2֖̅|3Բ|2πǳ|2ȟ|2ϫ|2̴|2О֖|2ξԲ|2ОԲ|2ξ֖|2πȌ|2˴|2ɨ|2̆ૺ|@EA5|0Ł!̆ૻ|@EA7|0Ł!˘|2ૼů|3Ȟ|2ʧ֖|2ʥ֖|2πʜ|2W|2ʥԲ|1ӎ|12#6|3˵֗|3ĵ|3ч|3]|3ř|3Ī|3ࢁ|3P|3Ų|1#πȠ|12#˵૽|1૾#̆|3҄|@EC0|0Ł2#Z|3҅|3W|3Ϭ|3Ŗ|@EC6|0Łˋô|@EC8|0ŁÐ˵֐|3̅|3̣|3~CATAWA |1܊L|1~NIGGAHITA |@ED0|0Ł0ĩ|2S|2X|2c|2o|2x|2½|2È|2¼|2Î|@EDC|0Łʥȟ|2˴|1!૿Υ|3҄|@F00|0w&μ|1Lؿϭͨ~TRUNCATED 6|5଀ଁଂð|6ؿПð|2yϭͨଃð|2ـϭͨ଄ð|2ьϭͨଅͩð|2ϭͨПͩð|2~SBRUL ͩ|2~BSKUR ϭͨ|2ଆࢂϭͨ|2~INTERSYLLABIC П|2܋П~BSTAR |2ͩ|2܌ͩ|2Пͩ|2܌Пͩ|2~RIN ~CHEN ~SPUNGS ͩ|2ଇଈͩ|2ьଉρɛò΃|2ؿП|1ଊ#~CHAD ρ|3~LHAG ρ|1҆#~SGRA ~GCAN ~-CHAR ρ|3~-KHYUD Þ|3~SDONG ~TSHUGS |1#эفଋ|4ଌ|4ࢃ|3قଋ|4ଌ|3فэق|10ĩ|2S|2X|2c|2o|2x|2½|2È|2¼|2Î|2¶S|3X|3c|3o|3x|3½|3È|3¼|3Î|3ĩ|1L~BSDUS ρ|2଍଎Φଏ|2ьଉρࢄଐ΃|2଍଎~SGOR ρ|2˕ͨ|2ʁ~-PHRU |2଑ρ଒|4ଓ|2οଔ଒|4ଓ|1#କଖ|2ଗଖ|1!¢|2ƛ|2Ď|2ǩ|2Ū|2ŵ|2Ɨ|2Ű|@F49|0w!ƚ|2ǟ|2ȗ|2Ǧ|2Ȩ|2Ȇ|2ü|2Ʊ|2ć|2ǳ|2ö|2Þ|2Ǌ|2ī|2Ȍ|2ð|2ʁ|2΄|2ν|2ك|2Ŷ|2˳|2ǣ|2֘|2ú|2â|2ô|2ů|2Ȟ|2ā|2Ë|26|2ل|2܍â|2ࢅ|2̐|@F71|0w2#ĵ|3]|3ř|3P|3Ų|3Âª|4ȩ|4·|4ɐ|3Z|3Ȗ|3W|3ǲ|1#~RJES ˶Ūʨ|2ଁଂ|12#ŀ]|4ř|1#Φଏ֋ć|2~SNA ~LDAN |1Lࢆ|2~PALUTA |1#~LCI ρ|2ϡρ|2ଘʁ΃|2܎΃|2ଙ΃ଚ|3~MED ଚ|2Ɩ܎΃|1Ň#ଘʁ΃|3܎΃|3Ɩ܎΃|2!¢|3ƛ|3Ď|3ǩ|3Ū|3ŵ|3Ɨ|3Ű|@F99|0wŇ!ƚ|3ǟ|3ȗ|3Ǧ|3Ȩ|3Ȇ|3ü|3Ʊ|3ć|3ǳ|3ö|3Þ|3Ǌ|3ī|3Ȍ|3ð|3ʁ|3΄|3ν|3ك|3Ŷ|3˳|3ǣ|3֘|3ú|3â|3ô|3ů|3Ȟ|3ā|3Ë|36|3ل|3܍Ŷ|4ú|4â|@FBE|0w˷˥ƛ|4ࢄଐ΃|1܏#nଛ|3Ãଛ|3~CANG ~TE-U |3~SBUB ~-CHAL |1-~DRIL ʺ|2ଜଝ|2~PADMA ~GDAN |2ଜଝଇଈ|2ଅÞ|2Χʺ|4܌ࢇ|4ࢃࢇ|4ࢄࢇ|@FCE|0w#эقэف|4ࢃ|1L~BSKA- ࢂˌͨ࢈|2~MNYAM ϭˌͨ࢈|2܌П|2yଞଟϭͨଃð|2ـଞଟϭͨ଄ð|0۰ܐ#|0۱ܐ#|0۰ܐ#$Õ|0۱ܐ#$Õ|0wL~LEADING ଠρ|2~TRAILING ଠρ|@1000|0q!¢|2ƛ|2Ď|2ǩ|2Ū|2ŵ|2Ɨ|2Ű|2ɉ|2ƚ|2~NNYA |2ǟ|2ȗ|2Ǧ|2Ȩ|2Ȇ|2ü|2Ʊ|2ć|2ǳ|2ö|2Þ|2Ǌ|2ī|2Ȍ|2ð|2ú|2â|2ô|2Ŷ|2ā|2Ë|2ʜ|26|2ǿ6|2]|2ř|2P|2Ų|2Z|2ςZ|2W|2ū|12#֙ĵ|3ĵ|3]|3ř|3P|3Ų|3Z|3Ŗ|3ςř|4W|3ZH|1#ǔ|2^[|2ȸ|2Ƞ|2~ASAT |1ĸ#ęú|4â|4Ŷ|4Ë|1!֚ā|10ĩ|2S|2X|2c|2o|2x|2½|2È|2¼|2Î|1#ƁȲ|2Ȳ|1-~LOCATIVE |2~COMPLETED |2~AFOREMENTIONED |2~GENITIVE |1!ů|2Ȟ|2Âª|3ȩ|3·|3ɐ|12#Âª|4ȩ|4·|4ɐ|1!ςŪ|3ɉ|3ԭ|3م|1ĸ#ςęö|5ð|5ô|1!̵ܑů|12#̵ܑ҇|1ÐL̵ܑ~HATHI |5̇О|1!юΨ̵Ʊ|5ن|12#юΨ̵҇|6ˤ|1#юΨ̵ه|5я|5҈|5Գ|5ѐ|1!ܒΨ̵Ȇ|5ࢉ|5~GHWA |12#~GEBA ̵]|3ǡȉ|4P|4Ȗ|1!ǿ¢|3ƛ|3Ď|3ŵ|3ǣ|3ƚ|3ć|3ö|3Ǌ|3ȝ|3ī|3Ʊ|3Ë|1ĸ#ǿęŶ|12#ǿĵ|4Z|5H|4TĪ|1#ǿя|3҈|3ѐ|3ܓ|3ࢊя|4҈|4~EMPHATIC Ð|1!ଡܔȝ|1#ଡܔѐ|1ǿ0ĩ|3S|3X|3c|3o|3x|3½|3È|3¼|3Î|1#ʻه|3҈|12#֛6|4Ŗ|1-ǿS|3ʴ|0®'!Ⱦ|3ܕ|3Դ|3ܖ|3ǃ|3ܗ|3ش|3ܘ|3Ơ|3֗|3ܙ|3˸|3و|3Ɗ|3ܚ|3ܛ|3֜|3ր|3Ե|3҉|3ܜ|3ܝ|3ܞ|3ى|3ɣ|3ܟ|3΃|3ي|3ܠ|3ܡ|3ܢ|3ܣ|3ܤ|3Ȝ|3ً|3ʷ|3֝|3ܥ|@10C7|0®'!֞|@10CD|0®'!֟|@10D0|0®!Ⱦ|2ܕ|2Դ|2ܖ|2ǃ|2ܗ|2ش|2ܘ|2Ơ|2֗|2ܙ|2˸|2و|2Ɗ|2ܚ|2ܛ|2֜|2ր|2Ե|2҉|2ܜ|2ܝ|2ܞ|2ى|2ɣ|2ܟ|2΃|2ي|2ܠ|2ܡ|2ܢ|2ܣ|2ܤ|2Ȝ|2ً|2ʷ|2֝|2ܥ|2М|2֞|2ଢ|2èԴ|2ȅ|1ذə|0`!®و|0®!֟|2с#|2ଣ#|0>Ýӏ|2ܦ|2Ӑ|2ӑ|2ܧ|2Ӓ|2ӓ|2Ӕ|2ܨ|2ӕ|2ܩ|2Ҋ|2ҋ|2ܪ|2Ӗ|2ӗ|2Ә|2ә|2Ӛ|2ତ|2ࢋ|2ࢌ|2~NIEUN-PIEUP |2ଥ|2ଦ|2ଧ|2ܫ|2ନ|2ࢍ|2ࢎ|2଩|2~PIEUP-NIEUN |2࢏|2ܬ|2ପ|2࢐|2~PIEUP-SIOS-PIEUP |2~PIEUP-SSANGSIOS |2~PIEUP-SIOS-CIEUC |2࢑|2ଫ|2ବ|2ଭ|2࢒|2ମ|2࢓|2ଯ|2࢔|2ର|2଱|2࢕|2~SIOS-PIEUP-KIYEOK |2~SIOS-SSANGSIOS |2~SIOS-IEUNG |2࢖|2ଲ|2~SIOS-KHIEUKH |2ଳ|2~SIOS-PHIEUPH |2଴|2~CHITUEUMSIOS |2~CHITUEUMSSANGSIOS |2~CEONGCHIEUMSIOS |2~CEONGCHIEUMSSANGSIOS |2ࢗ|2ଵ|2~IEUNG-TIKEUT |2~IEUNG-MIEUM |2~IEUNG-PIEUP |2~IEUNG-SIOS |2~IEUNG-PANSIOS |2࢘|2~IEUNG-CIEUC |2~IEUNG-CHIEUCH |2~IEUNG-THIEUTH |2~IEUNG-PHIEUPH |2࢙|2~CIEUC-IEUNG |2~CHITUEUMCIEUC |2~CHITUEUMSSANGCIEUC |2~CEONGCHIEUMCIEUC |2~CEONGCHIEUMSSANGCIEUC |2~CHIEUCH-KHIEUKH |2~CHIEUCH-HIEUH |2~CHITUEUMCHIEUCH |2~CEONGCHIEUMCHIEUCH |2ଶ|2࢚|2ଷ|2࢛|2~KIYEOK-TIKEUT |2࢜|2ܭ|2ܮ|2ସ|2Ҍ|1ĥҌ|26|2ɢ|2ú|2؛|2ٌ|2Z|2࢝|2ͪ|2W|2Ŷ|2࢞|2ȉ|2ɨ|2P|2࢟|2ʷ|2˹|2Ȥ|2҇|2+|2]|2~A-O |2~A-U |2~YA-O |2ହ|2~EO-O |2~EO-U |2~EO-EU |2~YEO-O |2~YEO-U |2~O-EO |2~O-E |2~O-YE |2~O-O |2~O-U |2଺|2଻|2~YO-YEO |2~YO-O |2଼|2~U-A |2~U-AE |2~U-EO-EU |2~U-YE |2~U-U |2~YU-A |2~YU-EO |2~YU-E |2ଽ|2ା|2~YU-U |2ି|2~EU-U |2~EU-EU |2~YI-U |2~I-A |2~I-YA |2~I-O |2~I-U |2~I-EU |2~I-ARAEA |2ୀ|2~ARAEA-EO |2~ARAEA-U |2~ARAEA-I |2~SSANGARAEA |2~A-EU |2~YA-U |2~YEO-YA |2~O-YA |2~O-YAE |1Éӏ|2ܦ|2ࢠ|2Ӑ|2ܭ|2ܮ|2ӑ|2Ӓ|2ܯ|2ܰ|2ܱ|2ܲ|2ࢡ|2ࢢ|2ܫ|2ӓ|2Ӕ|2ܬ|2ӕ|2ܩ|2Ҋ|2ҋ|2Ӗ|2ӗ|2Ә|2ә|2Ӛ|2~KIYEOK-RIEUL |2~KIYEOK-SIOS-KIYEOK |2ତ|2ࢌ|2࢜|2ୁ|2~NIEUN-THIEUTH |2ଥ|2ସ|2ୂ|2ଦ|2ࢣ|2~RIEUL-TIKEUT-HIEUH |2ଧ|2~RIEUL-MIEUM-KIYEOK |2~RIEUL-MIEUM-SIOS |2ୃ|2~RIEUL-PIEUP-HIEUH |2ୄ|2~RIEUL-SSANGSIOS |2୅|2୆|2େ|2ୈ|2~MIEUM-RIEUL |2ࢍ|2ࢤ|2~MIEUM-SSANGSIOS |2୉|2~MIEUM-CHIEUCH |2~MIEUM-HIEUH |2ࢎ|2~PIEUP-RIEUL |2ଭ|2୊|2࢒|2࢓|2࢔|2ର|2࢕|2ࢗ|2ଵ|2~IEUNG-SSANGKIYEOK |2࢘|2~IEUNG-KHIEUKH |2࢙|2ୋ|2ୌ|2ଶ|2࢚|2~HIEUH-NIEUN |2~HIEUH-RIEUL |2~HIEUH-MIEUM |2~HIEUH-PIEUP |2࢛|2~KIYEOK-NIEUN |2~KIYEOK-PIEUP |2~KIYEOK-CHIEUCH |2~KIYEOK-KHIEUKH |2~KIYEOK-HIEUH |2ࢋ|0D&Ë|2Ω|2ɀ|2Л|2ܳ|2Ȝ|2ʥ|2~HOA |2ô|2ʹ|2Ɯ|2ٍ|2ܴ|2Ǫ|2̆|2ࢥ|2ҍ|2~HHU |2~HHI |2ૌ|2~HHEE |2~HHE |2~HHO |2୍|2ð|2ȣ|2ʂ|2ࢦ|2ࢧ|2ɛ|2˴|2ܵ|2~SZA |2~SZU |2~SZI |2~SZAA |2~SZEE |2~SZE |2~SZO |2~SZWA |2â|2˥|2͍|2ز|2َ|2̶|2ʨ|2୎|2ā|2˶|2˙|2ܶ|2Զ|2˺|2ʧ|2ࢨ|2ů|2΅|2֠|2୏|2ܷ|2Ȁ|2А|2ࢩ|2̏|2ُ|2ِ|2ࢪ|2~QEE |2ܸ|2ܹ|2~QOA |2~QWA |@124A|0D&୐|2~QWAA |2୑|2୒|@1250|0D&~QHA |2~QHU |2~QHI |2~QHAA |2~QHEE |2~QHE |2~QHO |@1258|0D&~QHWA |@125A|0D&~QHWI |2~QHWAA |2~QHWEE |2~QHWE |@1260|0D&ī|2ʺ|2̤|2܀|2֡|2ͺ|2ϫ|2୓|2ǋ|2Է|2Ҏ|2୔|2ӛ|2͈|2ф|2~VWA |2ü|2ˍ|2̣|2Ը|2֢|2ȼ|2e|2ࢫ|2ŵ|2ࢬ|2ܺ|2ࢭ|2୕|2ҏ|2Ϥ|2ࢮ|2Ά|2~XU |2͹|2~XAA |2~XEE |2֣|2ୖ|2~XOA |2~XWA |@128A|0D&~XWI |2~XWAA |2~XWEE |2~XWE |@1290|0D&ö|2ɥ|2ɑ|2֋|2ࢯ|2ɒ|2ȟ|2ܻ|2ƚ|2ࢰ|2Φ|2ୗ|2୘|2ࢱ|2҄|2~NYWA |2ɍ6|3P|3]|3ĵ|3Ȗ|3Z|3W|3Ŷ|2¢|2˷|2˚|2ܼ|2ࢲ|2̇|2ˋ|2~KOA |2ࢳ|@12B2|0D&ܽ|2ܾ|2୙|2ܿ|@12B8|0D&ࢴ|2~KXU |2~KXI |2~KXAA |2~KXEE |2~KXE |2~KXO |@12C0|0D&~KXWA |@12C2|0D&~KXWI |2~KXWAA |2~KXWEE |2~KXWE |@12C8|0D&Ŷ|2Р|2˹|2ّ|2݀|2ʷ|2˘|2~WOA |2Ҿ6|3P|3]|3ĵ|3Ȗ|3Z|3W|@12D8|0D&ǣ|2Ϯ|2С|2૎|2ْ|2˰|2Ϩ|2~ZWA |2˳|2ࢵ|2ࢶ|2~ZHAA |2݁|2͟|2ࢷ|2~ZHWA |2ú|2Ȥ|2+|2֊|2֤|2ͪ|2ɨ|2~YOA |2ć|2̥|2̦|2୚|2֥|2˯|2̑|2~DWA |2Ǧ|2୛|2ଡ଼|2ଢ଼|2~DDEE |2୞|2ࢸ|2~DDWA |2Ű|2Թ|2Ӝ|2ୟ|2֦|2ϣ|2Т|2ୠ|2Ď|2͎|2ˌ|2ٓ|2ٔ|2ё|2Υ|2~GOA |2ୡ|@1312|0D&ୢ|2~GWAA |2ୣ|2୤|@1318|0D&֍|2୥|2୦|2~GGAA |2~GGEE |2ࢹ|2୧|2~GGWAA |2Ʊ|2ࢺ|2Ժ|2س|2ٕ|2ȍ|2̅|2ࢻ|2Ɨ|2݂|2ʶ|2୨|2݃|2˕|2Н|2~CHWA |2Ǌ|2~PHU |2ˇ|2୩|2~PHEE |2ࢼ|2О|2~PHWA |2ʁ|2݄|2Ի|2~TSAA |2୪|2Μ|2݅|2~TSWA |2~TZA |2~TZU |2~TZI |2~TZAA |2~TZEE |2~TZE |2~TZO |2~TZOA |2ȝ|2Ґ|2М|2݆|2Լ|2ϧ|2ξ|2୫|2Þ|2σ|2Ǜ|2݇|2ґ|2Ǹ|2̴|2ن|2~RYA |2֧|2~FYA |@135D|0DAض:2΂L|22΂L|2ضL|1ȲL|1~WORDSPACE |1ǙŮ|1Ư|1ϛ|1ɠ|1~PREFACE ɠ|1ʈL|1ذə|10S|2X|2c|2o|2x|2½|2È|2¼|2Î|1?ō|2ǫ|2ʃ|2ʩ|2ɓ|2͏|2ɜ|2·|2Ⱥ|2Ñ|2ōó|@1380|0D&݈ܵ|2݉|2୬|2ࢽ|2݈୓|2୭|2୮|2~BWE |2݈୫|2୯|2୰|2~FWE |2݈ن|2݊|2ୱ|2ࢾ|1ΪL~YIZET |3~DERET |3୲|3Ż୲|3~DIFAT |3~KENAT |3~CHIRET |3~HIDET |3~DERET-HIDET |3~KURT |@13A0|0¯!6|2Z|2]|2W|2P|2ē|2Ď|2¢|2ё|2ˌ|2Υ|2͎|2୳|2Ë|2Ȝ|2ɀ|2ʥ|2Ω|2ۢ|2ô|2Ǫ|2Ɯ|2̆|2ʹ|2୴|2ð|2ɛ|2ʂ|2˴|2ȣ|2ö|2ࢿ|2ࣀ|2ɒ|2ɑ|2ȟ|2ɥ|2ࣁ|2୵|2୶|2୷|2ࣂ|2ࣃ|2୸|2ā|2«|2˺|2˙|2ʧ|2˶|2ࣄ|2ć|2ü|2˯|2ȼ|2̦|2̣|2̑|2̥|2୹|2݋|2ࣅ|2ࣆ|2ࣇ|2ࣈ|2ࣉ|2୺|2ʁ|2Μ|2Ի|2݅|2݄|2୻|2Ŷ|2ʷ|2˹|2˘|2Р|2୼|2ú|2ͪ|2+|2ɨ|2Ȥ|2୽|2ٖ|@13F8|0¯%!ͪ|3+|3ɨ|3Ȥ|3୽|3ٖ|@1400|045Ϝ|2Z|2୾|2]|2ř|2W|2ǲ|2ϯǲ|2§Ȗ|3]|26|2ĵ|2ʷ|2ĳʷ|2˹|2ĳ˹|2୿|2ĳ୿|2˘|2ĳ˘|2ٗ|2ĳٗ|2Έٗ|2Ŷ|2ĳŶ|2ّ|2ĳّ|2Έّ|2Ŗ|2ϯœ|2ɍŮ|2TĨ|3ƅ|3ȿ¶ç|3ǹ¶ç|3G¶ç|3ç|3UĨ|4Żr࣊|3p^|3Żíj|3©|3ºɎ|2ǃ|2Ơ|2Ɗ|2Ⱦ|2Ǹ|2~PAAI |2Ǜ|2٘|2̴|2ٙ|2ϯٙ|2§ܳ|3ɀ|2Þ|2݇|2ࢾ|2ĳࢾ|2݊|2ĳ݊|2஀|2ĳ஀|2Ψ|2ĳΨ|2஁|2ĳ஁|2ن|2ĳن|2࣋|2ĳ࣋|2ϯ࣋|2ł|2ĳł|2§Ē|2ȼ|2~TAAI |2̣|2~TII |2e|2֨|2ϯ֨|2§֥|3̦|2ü|2Ը|2ٚ|2ĳٚ|2ஂ|2ĳஂ|2ஃ|2ĳஃ|2X|2ĳX|2஄|2ĳ஄|2ࢫ|2ĳࢫ|2࣌|2ĳ࣌|2Έ࣌|2Č|2ٛ|2அ|2࣍|2ǟ|2̇|2~KAAI |2˚|2~KII |2ˋ|2ٜ|2ϯٜ|2¢|2ܼ|2ܿ|2ĳܿ|2ܽ|2ĳܽ|2ஆ|2ĳஆ|2இ|2ĳஇ|2ஈ|2ĳஈ|2ࢳ|2ĳࢳ|2ܾ|2ĳܾ|2Έܾ|2ď|2࣎|2݌ࡈ|3~KIH |3~KOH |3உ|2ҏ|2~CAAI |2ܺ|2~CII |2Ϥ|2࣏|2ϯ࣏|2ŵ|2ࢭ|2ஊ|2ĳஊ|2࣐|2ĳ࣐|2஋|2ĳ஋|2஌|2ĳ஌|2஍|2ĳ஍|2ࢮ|2ĳࢮ|2࣑|2ĳ࣑|2Έ࣑|2ļ|2͐ӝ|2ɛ|2~MAAI |2ʂ|2~MII |2˴|2࣒|2ϯ࣒|2ð|2ࢦ|2ࢽ|2ĳࢽ|2݉|2ĳ݉|2எ|2ĳஎ|2ஏ|2ĳஏ|2ஐ|2ĳஐ|2ܵ|2ĳܵ|2࣓|2ĳ࣓|2Έ࣓|2ø|2ĳø|2~MH |2஑ø|2͐ø|2ɒ|2~NAAI |2ɑ|2ஒ|2ȟ|2ࣔ|2ϯࣔ|2ö|2֋|2ஓ|2ĳஓ|2ܻ|2ĳܻ|2ࣕ|2ĳࣕ|2Έࣕ|2à|2§˱|2~NH |2Ǫ|2~LAAI |2Ɯ|2~LII |2̆|2֩|2ϯ֩|2ô|2ٍ|2ஔ|2ĳஔ|2க|2ĳக|2஖|2ĳ஖|2஗|2ĳ஗|2஘|2ĳ஘|2ࢥ|2ĳࢥ|2ங|2ĳங|2·|2ĳ·|2ę·|2˺|2~SAAI |2˙|2ٝ|2ʧ|2ٞ|2ϯٞ|2ā|2ܶ|2ச|2ĳச|2஛|2ĳ஛|2ஜ|2ĳஜ|2஝|2ĳ஝|2ஞ|2ĳஞ|2ࢨ|2ĳࢨ|2ࣖ|2ĳࣖ|2Έࣖ|2«|2஑«|2ட|2̷«|2~MOOSE-CREE ~SK |2Έ~SKW |3~S-W |3~SPWA |3~STWA |3~SKWA |3~SCWA |2Ȁ|2֠|2ݍ|2А|2ࣗ|2ů|2୏|2Խ|2ĳԽ|2஠|2ĳ஠|2஡|2ĳ஡|2஢|2ĳ஢|2ண|2ĳண|2ࢩ|2ĳࢩ|2த|2ĳத|2Ծ|2ͪ|2~YAAI |2+|2~YII |2ɨ|2ݎ|2ϯݎ|2ú|2֊|2஥|2ĳ஥|2஦|2ĳ஦|2஧|2ĳ஧|2ந|2ĳந|2ன|2ĳன|2ࢉ|2ĳࢉ|2ࣘ|2ĳࣘ|2Έࣘ|2Ī|2~BIBLE-CREE Ī|2ĳĪ|2͐+|2̶|2ப̶|2ĳǪ|2~RAAI |2͍|2ݏ|2ʨ|2஫|2ĳ̆|2â|2ز|2ĳô|2஬|2ĳ஬|2ª|2ĳª|2ęª|2ϧ|2~FAAI |2М|2~FII |2ξ|2ࣙ|2ȝ|2݆|2஭|2ĳ஭|2Ź|2ȍ|2ࣚȍ|2Ժ|2ࣚԺ|2ࣛ|2ࣚࣛ|2̅|2ࣜ|2Ʊ|2س|2ࣝ|2ĳࣝ|2ӝ|2ம|2ய|2ݐ|2ȗ|2~TTH |2~TYE |2~TYI |2~TYO |2~TYA |2ӞȜ|3ɀ|3ர|3ʥ|3ٟ|3Ë|3Л|3Ē|2~NUNAVUT Ē|2~HK |2~QAAI |2ِ|2ற|2ܹ|2ࣞ|2̏|2ࢪ|2Ƶ|2ல|2ள|2ழ|2ࣟ|2ĳ̶|3͍|3ʨ|3â|2~NGAAI |2ݑ|2~NGII |2Ա|2~NGOO |2Ū|2ݒ|2˱|2~NNG |2͐Ȁ|3֠|3А|3ů|2τȍ|3Ժ|3̅|3Ʊ|3ӝ|2வ|2~LHII |2ஶ|2~LHOO |2Ӈ|2ஷ|2࣠|2ӟȍ|3Ժ|3ࣛ|3̅|3ࣜ|3Ʊ|3س|3ӝ|2~AIVILIK a|2̷Z|3]|3W|36|3ʷ|3˹|3˘|3Ŷ|3ɒ|3ɑ|3ȟ|3ö|3̇|3˚|3ˋ|3¢|2͐Ȝ|3ɀ|3ʥ|3Ë|2§~GHU |3ஸ|3̲|3~GHEE |3~GHI |3ǩ|3˥|3ʨ|3̶|3َ|3͍|3â|3Р|3˘|3ʷ|3݀|3˹|3Ŷ|3~HWU |3~HWO |3࣡|3~HWEE |3~HWI |3~HWA |3ࢺ|3̅|3ȍ|3ٕ|3Ժ|3Ʊ|3~TTU |3࣍|3ٛ|3~TTEE |3அ|3ǟ|3σ|3̴|3Ǹ|3ґ|3Ǜ|3Þ|3ł|3͎|3Υ|3ё|3ٔ|3ˌ|3Ď|3~KHU |3Ϫ|3࣢|3~KHEE |3ݓ|3ƛ|3~KKU |3~KKO |3~KKE |3~KKEE |3~KKI |3ࢅ|3ݔ|3ɥ|3ȟ|3ɒ|3ࢯ|3ɑ|3ö|3ȣ|3˴|3ɛ|3ࢧ|3ʂ|3ð|3Ȥ|3ɨ|3ͪ|3֤|3+|3ú|3Թ|2͐Թ|2§Т|3ϣ|3֦|3Ӝ|2͐Ӝ|2§Ű|3ஹ|3஺|3~JJE |3~JJEE |3஻|3ػ|3ʹ|3̆|3Ǫ|3ܴ|3Ɯ|3ô|3~DLU |3~DLO |3஼|3~DLEE |3~DLI |3݋|3~LHU |3ஶ|3~LHE |3~LHEE |3வ|3Ӈ|3~TLHU |3ழ|3ல|3~TLHEE |3ள|3ࣟ|3ࣉ|3ࣈ|3ࣆ|3~TLEE |3ࣇ|3ࣅ|3Ϯ|3Ϩ|3˰|3ْ|3С|3ǣ|3ģ|3yģ|3஽|3ா|3Ӄ|3ி|3ீ|3ν|3˶|3ʧ|3˺|3Զ|3˙|3ā|3΅|3А|3Ȁ|3ܷ|3֠|3ů|3Ծ|3݄|3݅|3Μ|3୪|3Ի|3ʁ|3݂|3Н|3˕|3݃|3ʶ|3Ɨ|3~TTSU |3~TTSO |3~TTSE |3~TTSEE |3~TTSI |3~TTSA |2ʶ#|2ǙŮ|2ு|2~NGAI |2~NNGI |2~NNGII |2~NNGO |2~NNGOO |2~NNGA |2~NNGAA |2τ~THWEE |3~THWI |3~THWII |3~THWO |3~THWOO |3ࢻ|3ࣝ|3Tӝ|2̷œ|0ʌ˫L|1!~BEITH |2~LUIS |2~FEARN |2~SAIL |2~NION |2~UATH |2~DAIR |2~TINNE |2~COLL |2~CEIRT |2~MUIN |2~GORT |2~NGEADAL |2~STRAIF |2~RUIS |2~AILM |2ூ|2Ғ|2~EADHADH |2~IODHADH |2~EABHADH |2Ĥ|2~UILLEANN |2~IFIN |2~EAMHANCHOLL |2~PEITH |1ݕL|1ŀݕL|@16A0|0Ķ!~FEHU ~FEOH ϧŹ|2ē|2~URUZ ҒP|2੼|2Ī|2œ|2~THURISAZ ~THURS Һ|2ҹ|2~ANSUZ 6|2௃W|2ݖ6|2௄|2~LONG-BRANCH-OSS W|2~SHORT-TWIG-OSS W|2W|2ȉ|2Ɗ|2~RAIDO ݗ~REID ª|2~KAUNA |2~CEN |2~KAUN ď|2ĉ|2Ϟ|2~GEBO ~GYFU ĉ|2ʍ|2~WUNJO ۣœ|2~HAGLAZ Ē|2~HAEGL Ē|2~LONG-BRANCH-HAGALL Ē|2~SHORT-TWIG-HAGALL Ē|2~NAUDIZ ~NYD ~NAUD à|2~SHORT-TWIG-NAUD à|2~DOTTED-N |2~ISAZ ֪~ISS ]|2Z|2~JERAN Ŝ|2~GER |2~LONG-BRANCH-AR ɢ|2~SHORT-TWIG-AR 6|2~IWAZ ~EOH |2~PERTHO ~PEORTH ł|2~ALGIZ ~EOLHX |2~SOWILO «|2~SIGEL ~LONG-BRANCH-SOL «|2~SHORT-TWIG-SOL «|2ļ|2ģ|2~TIWAZ Կ~TYR Č|2~SHORT-TWIG-TYR Č|2ě|2~BERKANAN ~BEORC ~BJARKAN a|2~SHORT-TWIG-BJARKAN a|2~DOTTED-P |2~OPEN-P |2~EHWAZ уZ|2~MANNAZ ˸ø|2~LONG-BRANCH-MADR ø|2~SHORT-TWIG-MADR ø|2~LAUKAZ ~LAGU ~LOGR ·|2~DOTTED-L |2~INGWAZ |2ࣣ|2~DAGAZ ~DAEG ě|2~OTHALAN ~ETHEL W|2Հ|2~IOR |2~CWEORTH |2~CALC |2~CEALC |2~STAN |2~LONG-BRANCH-YR |2~SHORT-TWIG-YR |2~ICELANDIC-YR |2Ƶ|2Ń|1Ņč|1υč|1ǚč|1~ARLAUG -|1~TVIMADUR -|1~BELGTHOR -|1!ď|2Ծ|2ǲ|2٠١௃|4֪|4у|4ݖ|4௄|@1700|0˦!6|2]|2P|2¢|2Ď|2Ū|2ü|2ć|2ö|2Þ|2ī|2ð|2ú|2â|2ô|2Ŷ|2ā|2Ë|12#]|3P|1#Ƞ|2௅|@171F|0˦!Ȣâ|0̈!6|2]|2P|2¢|2Ď|2Ū|2ü|2ć|2ö|2Þ|2ī|2ð|2ú|2â|2ô|2Ŷ|2ā|2Ë|12#]|3P|1#௅|0ெŅč|1Uč|@1740|0̒!6|2]|2P|2¢|2Ď|2Ū|2ü|2ć|2ö|2Þ|2ī|2ð|2ú|2â|2ô|2Ŷ|2ā|2Ë|12#]|3P|@1760|0̸!6|2]|2P|2¢|2Ď|2Ū|2ü|2ć|2ö|2Þ|2ī|2ð|2ú|@176E|0̸!ô|2Ŷ|2ā|@1772|0̸2#]|3P|@1780|0Ä!¢|2ƛ|2ˋ|2Ϫ|2Ա|2ŵ|2Ɨ|2Ϥ|2Н|2҄|2ć|2ȗ|2̑|2ݐ|2~NNO |2ü|2Ʊ|2e|2̅|2ȟ|2ī|2Ǌ|2̴|2О|2˴|2ɨ|2ʨ|2̆|2ф|2ů|2ࣤ|2ā|2Ë|2ô|2̏|1˛2~QAQ |3ࢪ|3ِ|3ற|3ُ|3~QUK |3ࣃ|3~QUUV |3ே|3~RYY |3ࣥ|3~LYY |3ܸ|3ு|3ࣞݘS|5X|3~QAU |12ைص|3ĵ|2#ĵ|3]|3ř|3Ī|3ࢁ|3P|3Ų|3֫|3ȉ|3ú|3͇|3Z|3ɢ|3Ŗ|3ǲ|3ū|1#~NIKAHIT |2~REAHMUK |2~YUUKALEAPINTU |2~MUUSIKATOAN |2~TRIISAP |2~BANTOC |2~ROBAT |2~TOANDAKHIAT |2~KAKABAT |2~AHSDA |2~SAMYOK ~SANNYA |2~VIRIAM |2~COENG |2~BATHAMASAT |2~KHAN |2~BARIYOOSAN |2~CAMNUC ٘~KUUH |2У֨|2~BEYYAL |2~PHNAEK ௉|2~KOOMUUT |1л-~RIEL |1#~AVAKRAHASANYA |2~ATTHACAN |@17E0|0Ä0ĩ|2S|2X|2c|2o|2x|2½|2È|2¼|2Î|@17F0|0Ä-Уђ~SON |4ࣦ|4٘|4ࣧ|4ࣨ|4ࣩ|4࣪|4࣫|4࣬|4࣭|@1800|0°Ϋ|1ӎ|1Ư|1ǙŮ|1ɠ|1oÕ|1ʎΚϜ|1˧&~BOUNDARY ӈ|1̉Ư|2ǙŮ|1~NIRUGU |1٢f٣S|4X|4c|12ə|1٢f٣o|10ĩ|2S|2X|2c|2o|2x|2½|2È|2¼|2Î|@1820|0°!6|2Z|2]|2W|2P|2ȉ|2ˤ|2Ȗ|2ö|2ο|2ī|2Þ|2̏|2Ď|2ð|2ô|2ā|2ů|2ü|2ć|2Ɨ|2Ű|2ú|2â|2Ŷ|2ȝ|2¢|2ƛ|2ʁ|2ǣ|2Л|2~ZRA |2Ӈ|2ࢶ|2ʶ|2ʎò2#|3Z|3]|3W|3P|3ȉ|3ˤ|3ο|3ī|3Þ|3̏|3Ď|3ð|3ü|3ć|3Ɨ|3Ű|3ʁ|3ú|3Ŷ|3¢|3ٓ|3Л|3~JIA |3~NIA |3ν|2˧Z|3]|3ࡤ|3ˤ|3P|3ο|3¢|3Ď|3Ë|3Þ|3ů|3ü|3ć|3Ű|3ȝ|3ٓ|3Л|3ʁ|3ǣ|3ز|3Ɨ|3˳|2̉]|3¢|3â|3ȝ|3˳|2Ɨ$XÕ|@1880|0°!ȏȐǔS|4ȸS|4~DAMARU |4ொ|4Ɩொ|4ோ|4cோ|46|4]|4¢|4Ū|4ŵ|4ǟ|4ȗ|4Ǧ|4Ȇ|4ü|4ć|4Þ|4Ǌ|4Ȟ|4˳|4ǣ|4ϩ|2ʎȏȐü|5˳|2̉ȏȐǩ|5Ū|5ŵ|5ɉ|5ǟ|5Ȩ|5ü|5ǳ|5Ȟ|5ௌ|5˳|5ǣ|2ȏȐ¶P|5ú|2̉ȏȐȌ|2ȏȐ~DAGALGA |2̉ȏȐӇ|@18B0|045࣮|2Ϭ|2்|2٤|2~POY |2~PAY |2~PWOY |2~TAY |2࣯|2~KWAY |2௎|2~NOY |2~NAY |2~LAY |2~SOY |2௏|2ௐ|2~SHAY |2~SHWOY |2~YOY |2௑|2શ|2௒|2ϰ௒|2௓|2ϰ௓|2௔|2ϰ௔|2௕|2ϰ௕|2~RWEE |2~RWI |2~RWII |2~RWO |2~RWOO |2୎|2ϰł|3Č|3ď|3ļ|3ø|3à|3«|3Ծ|2ܒœ|2юœ|2T%ç|3ɗ^|2ப~RWE |2ĳ֩|3ٍ|2~THWE |2ࢻ|2~TTHWE |2~TTHOO |2ࣰ|2~TLHWE |2~TLHOO |2͐Խ|3ࣗ|3ٟ|2§~GWU |3ࣱٔ|3ٓ|3ୡ|2͐~JUU |2§ୠ|2ࣱࣲ·|4ª|2§࠴«|@1900|0Ƒ~VOWEL-CARRIER !|1!¢|2ƛ|2Ď|2ǩ|2Ū|2ŵ|2Ɨ|2Ű|2ɉ|2௖|2ü|2Ʊ|2ć|2ǳ|2ö|2Þ|2Ǌ|2ī|2Ȍ|2ð|2ú|2â|2ô|2Ŷ|2ů|2Ȟ|2ā|2Ë|2~GYAN |2ࣳ|@1920|0Ƒ2#6|3]|3P|3Ȗ|3Ŗ|3ǲ|3ū|3Z|3W|1Ň!ú|3â|3Ŷ|@1930|0Ƒ%!¢|3Ū|3ǔ|3ü|3ö|3Þ|3ð|3â|3ô|1#~MUKPHRENG |2~KEMPHRENG |2~SA-I |@1940|0Ƒ#֩|@1944|0ƑʴL|1ʈL|10ĩ|2S|2X|2c|2o|2x|2½|2È|2¼|2Î|0VǪ!¢|3Ά|3Ū|3ʁ|3ā|3ú|3ü|3Ʊ|3ô|3Þ|3Ǌ|3ð|3ȝ|3ǋ|3Ë|3̏|3ƛ|3΄|3ö|36|3]|3Ȗ|3у|3P|3ǲ|3W|3ˤ|3Z|3ௗ|3Ŗ|@1970|0VǪ!я|3҈|3Գ|3ѐ|3ܓ|@1980|0ĹVň!Ó̏|4Ï̏|4Ó¢|5Ά|5Ū|4Ï¢|5Ά|5Ū|4Óʁ|5ā|5ú|4Ïʁ|5ā|5ú|4Óü|5Ʊ|5ö|4Ïü|5Ʊ|5ö|4ÓÞ|5Ǌ|5ð|4ÏÞ|5Ǌ|5ð|4Óȝ|5ǋ|5ô|4Ïȝ|5ǋ|5ô|4ÓË|5ć|5ī|4ÏË|5ć|5ī|4Ó௘|5௙|4Ï௘|5௙|4Óࢀ|4Ïࢀ|@19B0|0ĹVň2#2~SHORTENER |5ĵ|5ř|5P|5Ų|5Z|5ɢ|5W|5٥|5ˤ|5Ϭ|5்|5௚|5࣮|5௛|5~UEY |5ࡤ|3!Tē|5˱|5à|5ø|5ď|5ě|5a|3Ð٦|4٧|@19D0|0ĹVň0ĩ|4S|4X|4c|4o|4x|4½|4È|4¼|4Î|3Ì0S|@19DE|0ĹVň#௜|4~LAEV |0Ä-~PATHAMASAT |2ࣦΉ|2٘Ή|2ࣧΉ|2ࣨΉ|2ࣩΉ|2࣪Ή|2࣫Ή|2࣬Ή|2࣭Ή|2ࣴΉ|2௝Ή|2௞Ή|2௟Ή|2௠Ή|2௡Ή|2~TUTEYASAT |2ࣦΊ|2٘Ί|2ࣧΊ|2ࣨΊ|2ࣩΊ|2࣪Ί|2࣫Ί|2࣬Ί|2࣭Ί|2ࣴΊ|2௝Ί|2௞Ί|2௟Ί|2௠Ί|2௡Ί|0ʄ!¢|2Ď|2Ū|2௢|2Þ|2ī|2ð|2௣|2ü|2ć|2ö|2ࣵ|2ŵ|2Ű|2ƚ|2~NYCA |2ú|2â|2ô|2ǋ|2ā|26|2Ë|12#]|3P|3Z|3W|3ɢ|@1A1E|0ʄ~PALLAWA |1ȯkȲ|0VÌ!Ó¢|4ƛ|4ࢴ|3Ï¢|4ࢴ|4ƛ|3Ū|3Óŵ|4Ɨ|3Ïŵ|4ā|4Ɨ|3ƚ|3~RATA |3Óࣶ|3ć|3Ïࣶ|3௤|3Óü|4Ʊ|3Ïü|4Ʊ|3ö|3ī|3ÓÞ|4Ǌ|4ȝ|3ÏÞ|4ȝ|4Ǌ|3ð|3Ïú|3Óú|3â|3~RUE |3ô|3ň|3Ŷ|3Óů|4Ȟ|4ā|4Ë|3ʜ|36|3ÏË|3]|3ř|3P|3Ų|3Ȗ|3ǲ|3௜|3֚ā|2ĸ#ęâ|5ô|4ô~TANG ݙ|2#˵ݚݙ|2ĸ#TŪ|4ÏÞ|4ÓࣶĤÏÞ|4ð|4ī|4ā|@1A60|0VÌ#~SAKOT |22#6|4˵ࣷ|4ĵ|4֙ĵ|4]|4ř|4ˤ|4ࡩ|4P|4Ų|4W|4٥[|4࣮|4Z|4ɢ|4ǲ|4Ŗ|4ÌŖ|4٥H|2#˵ݚ|3ه|3я|3ࣸ҈|4Գ|4ѐ|3â~HAAM |3˵ࣹ|3~KHUEN-LUE ~KARAN |@1A7F|0VÌAғ^|2ѓ0ĩ|4S|4X|4c|4o|4x|4½|4È|4¼|4Î|@1A90|0VÌÌ0ĩ|4S|4X|4c|4o|4x|4½|4È|4¼|4Î|@1AA0|0VÌ#~WIANG |3~WIANGWAAK |3~SAWAN |3~KEOW |3~HOY |3~DOKMAI |3ŀơ௤|3˵~YAMOK |3~KAAN |3~KAANKUU |3~SATKAAN |3~SATKAANKUU |3~HANG |3~CAANG |@1AB0|0AظŔƍ|1~DIAERESIS-RING |1֬|1Ā=|1ƶ^|1~X-X [|1֭ŕ[|1ùL[|1UùL[|1Ãݛj[|1௥ݛj[|1ݜH|1UݜH|1ݜ[|2ˡ|1)%!œ[|4èœ[|1IǽHI|1GǽHG|1Iǽ[I|1Gǽ[G|1M~BRACKETS H|1?#H|1ƖUઌH|1©#H|1U©#H|4[|1ƶĨƍ|1)%!̓ĉ|5ª|5Č|@1B00|0ß#ݝ~RICEM |3΁|2~CECEK |2௦|2~BISAH |1!௧|3ϱ|2௨|3ϱ|2௩|3ϱ|2â֮|4ϱ|2ôݞ|4ϱ|2~EKARA |2~AIKARA |2௪|3ϱ|2¢|3Ӡ|2Ď|3~GORA |2Ū|2ŵ|3~LACA |2Ű|3~JERA |2ƚ|2ü~LATIK |3ϲӠ|2ćϲ~ALPAPRANA |4Ӡ|2ö~RAMBAT |2ü|3~TAWA |2ć|3~MADU |2ö|2Þ|3~KAPAL |2ī|3~KEMBANG |2ð|2ú|2â|2ô|2Ŷ|2ā~SAGA |3~SAPA |3|2Ë|1#~REREKAN |12#ϱ|3ݝ|4௫|3ݟ|4~ILUT |3â֮|5ϱ|3ôݞ|5ϱ|3٨|4֮|4ϱ|4֮ϱ|3ࣺ|4ϱ|1٩٩|1!Ǥӡ|2~KHOT ӡ|2~TZIR ӡ|2рӡ|2͈ӡ|2ݠӡ|2~ASYURA ӡ|2Ȣ௬|@1B50|0ß0ĩ|2S|2X|2c|2o|2x|2½|2È|2¼|2Î|1௭|1௮|1௯|1ࣻ~PAMUNGKAH |2~SIKI |2~PAREREN |1~PAMENENG |1E-௰|3~DENG |3௱|3ݡ|4௦|3~DING |3~DAENG |3~DEUNG |3~DAING |3ݡ~GEDE |3A~TEGEH |4~ENDEP |4௲|4௳|4ࣼ|4௲$ࣼ|4௳$ࣼ|4~BENDE |4~GONG |3ݢùɝ|5ʪ|4Ȋ௴|5~TAK |3٪ù~PANG |5~PUNG |4Ȋ~PLAK |5~PLUK |4ùࣽ|1௭௵|1௮௵|@1B80|0ż#~PANYECEK |2~PANGLAYAR |2~PANGWISAD |1!6|2]|2P|2ɢ|2W|2Z|2҇|2¢|2̏|2Ď|2Ū|2ŵ|2Ű|2ǣ|2ƚ|2ü|2ć|2ö|2Þ|2ȝ|2ǋ|2ī|2ð|2ú|2â|2ô|2Ŷ|2ā|2Ά|2Ë|1ĸ#~PAMINGKAL |3~PANYAKRA |3~PANYIKU |12#~PANGHULU |3~PANYUKU |3~PANAELAENG |3~PANOLONG |3~PAMEPET |3~PANEULEUNG |1#~PAMAAEH |2Ƞ|1ĸ#௶ð|4Ŷ|1!ƛ|2~SYA |10ĩ|2S|2X|2c|2o|2x|2½|2È|2¼|2Î|1ͧ|1!~REU |2௷|2Ȍ|2Tď|3ø|0ǅ!6|2Ф6|2Ë|2ФË|2ࣾË|2ī|2ࣿī|2Þ|2ФÞ|2ö|2ࣾö|2Ŷ|2ФŶ|2௸Ŷ|2Ď|2ФĎ|2Ű|2ć|2â|2Фâ|2ð|2Фð|2௹ü|2௺ü|2ā|2Фā|2ࣾā|2ú|2Фú|2Ū|2ô|2Фô|2ƚ|2ŵ|2֯|2٫|2]|2P|1#~TOMPI |12#Z|3௸Z|3Ȗ|3]|3ࣿ]|3W|3ࣿW|3P|4JФā|1ĸ#˱|3Ē|1௻|1~PANONGONAN |@1BFC|0ǅ-φö~METEK |3~PINARBORAS |3~JUDUL |3௻|0ų!¢|2~KLA |2ƛ|2Ď|2~GLA |2Ū|2ŵ|2Ɨ|2Ű|2ƚ|2ü|2Ʊ|2ć|2ö|2Þ|2܉|2Ǌ|2ȝ|2~FLA |2ī|2~BLA |2ð|2௼|2ʁ|2΄|2ν|2ú|2â|2ô|2Ë|2௽|2ǋ|2ā|2ů|2Ŷ|26|1Ň!ú|3â|12#ĵ|3]|3W|3ǲ|3P|3Ų|3Z|1ĸ#ď|3ø|3·|3à|3ł|3ª|3Č|3~NYIN-DO |3ݚ|1#~RAN |2ˊ|@1C3B|0ųč௾|2ऀ~THYOOM ௾|2௿|2ఀ௿|3|10ĩ|2S|2X|2c|2o|2x|2½|2È|2¼|2Î|@1C4D|0ų!ǟ|2ȗ|2Ǧ|0Ǭǵ0ĩ|3S|3X|3c|3o|3x|3½|3È|3¼|3Î|2!ô|3ʣ|3܂|3ο|3͌|3ٍ|3~AAK |3~AAJ |3~AAM |3~AAW |3Ɯ|3֪|3ँ|3~INY |3٬|3ʹ|3ݣ|3ʝ|3ఁ|3௚|3Ǫ|3ݤ|3~EDD |3ǃ|3ݥ|3̆|3~OTT |3~OB |3ం|3؜|2ȣ~TTUDDAG |2~GAAHLAA ః|2~MU-GAAHLAA ః|2~RELAA |2~PHAARKAA |2~AHAD |2čఄ|3Uఄ|0K%!ͽ͈|3~LONG-LEGGED ˯|3ְW|3ϳБ|3֙ȼ|3~THREE-LEGGED ȼ|3֙с#|4Ѿ|3~UNBLENDED ւ|@1C90|0®ȁ'!Ⱦ|4ܕ|4Դ|4ܖ|4ǃ|4ܗ|4ش|4ܘ|4Ơ|4֗|4ܙ|4˸|4و|4Ɗ|4ܚ|4ܛ|4֜|4ր|4Ե|4҉|4ܜ|4ܝ|4ܞ|4ى|4ɣ|4ܟ|4΃|4ي|4ܠ|4ܡ|4ܢ|4ܣ|4ܤ|4Ȝ|4ً|4ʷ|4֝|4ܥ|4М|4֞|4ଢ|4èԴ|4ȅ|@1CBD|0®ȁ'!֟|4с#|4ଣ#|0żčφ~SURYA |3~PANGLONG |3~PURNAMA |3అ|3௷ݦ|3¢ݦ|3ćݦ|3īݦ|@1CD0|0ǴÐ~KARSHANA |2~SHARA |2~PRENKHA |1#~NIHSHVASA |2٭ఆє|1Ð٭~AGGRAVATED ˛є|3˛є|3ं˛є|2΁[|2٭ं˛є~SCHROEDER |2Uє|2ƶє|2ंغ|2^[|2XÕ[|2cÕ[|2~RIGVEDIC ઺˛є|2~ATHARVAVEDIC ˛є|1#ȸє|3܄|2ŀȸ܄|2ȸغ|2ŀȸغ|2ȸ܄$ư|3غ$ư|2ǔఇ|3~BAHIRGOMUKHA |3ఈ|4$ư|2~TIRYAK |2~HEXIFORM òǔ|2òǔ|2~RTHANG òǔ|2ǔ~UBHAYATO ~MUKHA |2ఉ|2ơఉ|1Ð΁H|1#֓|2֔|2~ATIKRAMA |1ÐçH|2UçH|1#Uǔఇ|@1D00|0)!%'6|4ɢ|1%!èɢ|1!%'нa|4ļ|4ě|4ҹ|4Z|1%!èùZ|4]|1!%'Ŝ|4ď|4·$j|4ø|4ŀà|4W|4ùW|1%!̢W|4ùW|4W$j|3èȉ|1!%'Ҽ|1%!ǹ¶W|3ȿ¶W|1!%'ł|4ŀª|4èª|4Č|4P|1%!̢P|4~DIAERESIZED P|4èø|1!%'ē|4œ|4ģ|4ϟ|2о~LARYNGEAL ~SPIRANT |2ȅ|0C!%'ˬ|4Λ|4Ǜ|4ʚ|4͆|0K!%'ˢ|0`!'6|3ɢ|3a|3нa|3ě|3Z|3ŀZ|3ĉ|3Ē|3]|3Ŝ|3ď|3·|3ø|3à|3ŀà|3W|3Ҽ|3ł|3ª|3Č|3P|3œ|2%6|3è6|3ź|3èɢ|3a|3ě|3Z|3Ѝ|3ùZ|3èùZ|3ĉ|3è]|3ď|3ø|3Ϟ|3W|3ùW|3ǹ¶W|3ȿ¶W|3ł|3Č|3P|3̢P|3èø|3ē|3ȅ|3̝|3Cˬ|3̍|3Cˇ|3ʶ|0)ȧ%!]|4ª|4P|4ē|0Cȧ%!̝|4ˬ|4ʚ|4ˇ|4ʶ|0)%!ˤ|3a$pÿ|3ě$pÿ|3Ź$pÿ|3ø$pÿ|3à$pÿ|3ł$pÿ|3ª$pÿ|5ҽ:pÿ|3«$pÿ|3Č$pÿ|3ģ$pÿ|3èĉ|0`!Kǃ|0)%!̓ĉ|3ӝ$~STRIKETHROUGH |2'!]$j|2!Ǐ$j|3ł$j|2'!P$j|2!Ǳ$j|3a$ʊv|3ě$ʊv|3Ź$ʊv|3ĉ$ʊv|3ď$ʊv|3·$ʊv|3ø$ʊv|3à$ʊv|3ł$ʊv|3ª$ʊv|3«$ʊv|3̛$ʊv|3ē$ʊv|3Ń$ʊv|3ģ$ʊv|36$ȓv|3ź$ȓv|3ě$v:ư|3Z$ȓv|3ùZ$ȓv|3ŀùZ$ȓv|3Ѝ$ȓv|3]$ȓv|3ùW$ȓv|3̛$ȓv|3P$ȓv|3ϟ$ȓv|0`!%èź|3ļ|4$˭|3ҹ|3ŀùZ|3Ź|3́Ŝ$j|3åĉ|3èĒ|3]$j|3Ǐ|3']|5$j|3Ŝ$ѻ|3·$ȓv|5ʊv|3'·|3ø$v|3èø$ò̎|3à$Iv|5ȓv|3'à|3нW|3ˇ|3«$v|3̛|3Č$ʊv|3P¿|3Ǳ|3'P|3ē$v|3èē|3ģ|4$ȓv|5˭|3ϟ|3ˉ|0AȔƅƍ|2Ĩƍ|1ݧ[|1ःL|1~MACRON-ACUTE |1~GRAVE-MACRON |1~MACRON-GRAVE |1~ACUTE-MACRON |1~GRAVE-ACUTE-GRAVE |1~ACUTE-GRAVE-ACUTE |1)%!ª[|1~BREVE-MACRON |1~MACRON-BREVE |1UŔH|1͸H|1Ϣ[|1֪[|1ҒH|1ֱH|1)%!ٮù6H|4ɢ|4ݨ|4ֲ|4ļʉ|4̓ě|4ҹ|4ĉ|2!%'ĉ|2%!ď|4·|2!%'·|5ø|2%!à|2!%'à|5ª|2%!ªٯ|4«|4ò«|4ģ|4ź|4a|4̝|4Ѝ|4Ź|4·$Upÿ|4W$Ãݛj|4ł|4̛|4P$Ãݛj|4œ|46$Ũ|4W$Ũ|4P$Ũ|1¨ɎH|1ҔHG|3I|1^HI|1ϳƖո[|1^[I|1~DELETION L|1UƖƽ[|1͞ëe[|1IũH|1Gũ:ºũ[|0)'!6$ç[|1%!6$ç[|1'!a$^H|1%!a$^H|1'!a$^[|1%!a$^[|1'!a$ŕ[|1%!a$ŕ[|1'!ļ$ʉ:Ĩ|1%!ļ$ʉ:Ĩ|1'!ě$^H|1%!ě$^H|1'!ě$^[|1%!ě$^[|1'!ě$ŕ[|1%!ě$ŕ[|1'!ě$ʉ|1%!ě$ʉ|1'!ě$Ŕ[|1%!ě$Ŕ[|1'!Z$Ǝ:ƅ|1%!Z$Ǝ:ƅ|1'!Z$Ǝ:Ĩ|1%!Z$Ǝ:Ĩ|1'!Z$Ŕ[|1%!Z$Ŕ[|1'!Z$ÿ[|1%!Z$ÿ[|1'!Z$ʉ:ƽ|1%!Z$ʉ:ƽ|1'!Ź$^H|1%!Ź$^H|1'!ĉ$Ǝ|1%!ĉ$Ǝ|1'!Ē$^H|1%!Ē$^H|1'!Ē$^[|1%!Ē$^[|1'!Ē$Ũ|1%!Ē$Ũ|1'!Ē$ʉ|1%!Ē$ʉ|1'!Ē$ƽ[|1%!Ē$ƽ[|1'!]$ÿ[|1%!]$ÿ[|1'!]$Ũ:Ĩ|1%!]$Ũ:Ĩ|1'!ď$Ĩ|1%!ď$Ĩ|1'!ď$^[|1%!ď$^[|1'!ď$ŕ[|1%!ď$ŕ[|1'!·$^[|1%!·$^[|1'!·$^[:Ǝ|1%!·$^[:Ǝ|1'!·$ŕ[|1%!·$ŕ[|1'!·$Ŕ[|1%!·$Ŕ[|1'!ø$Ĩ|1%!ø$Ĩ|1'!ø$^H|1%!ø$^H|1'!ø$^[|1%!ø$^[|1'!à$^H|1%!à$^H|1'!à$^[|1%!à$^[|1'!à$ŕ[|1%!à$ŕ[|1'!à$Ŕ[|1%!à$Ŕ[|1'!W$ÿ:Ĩ|1%!W$ÿ:Ĩ|1'!W$ÿ:Ũ|1%!W$ÿ:Ũ|1'!W$Ǝ:ƅ|1%!W$Ǝ:ƅ|1'!W$Ǝ:Ĩ|1%!W$Ǝ:Ĩ|1'!ł$Ĩ|1%!ł$Ĩ|1'!ł$^H|1%!ł$^H|1'!ª$^H|1%!ª$^H|1'!ª$^[|1%!ª$^[|1'!ª$^[:Ǝ|1%!ª$^[:Ǝ|1'!ª$ŕ[|1%!ª$ŕ[|1'!«$^H|1%!«$^H|1'!«$^[|1%!«$^[|1'!«$Ĩ:^H|1%!«$Ĩ:^H|1'!«$ȃ:^H|1%!«$ȃ:^H|1'!«$^[:^H|1%!«$^[:^H|1'!Č$^H|1%!Č$^H|1'!Č$^[|1%!Č$^[|1'!Č$ŕ[|1%!Č$ŕ[|1'!Č$Ŕ[|1%!Č$Ŕ[|1'!P$Ũ[|1%!P$Ũ[|1'!P$ÿ[|1%!P$ÿ[|1'!P$Ŕ[|1%!P$Ŕ[|1'!P$ÿ:Ĩ|1%!P$ÿ:Ĩ|1'!P$Ǝ:Ũ|1%!P$Ǝ:Ũ|1'!ē$ÿ|1%!ē$ÿ|1'!ē$^[|1%!ē$^[|1'!œ$ƅ|1%!œ$ƅ|1'!œ$Ĩ|1%!œ$Ĩ|1'!œ$Ũ|1%!œ$Ũ|1'!œ$^H|1%!œ$^H|1'!œ$^[|1%!œ$^[|1'!Ń$^H|1%!Ń$^H|1'!Ń$Ũ|1%!Ń$Ũ|1'!Ī$^H|1%!Ī$^H|1'!ģ$Ŕ|1%!ģ$Ŕ|1'!ģ$^[|1%!ģ$^[|1'!ģ$ŕ[|1%!ģ$ŕ[|3Ē$ŕ[|3Č$Ũ|3œ$çH|3Ī$çH|36$G¶ç|3ò«$^H|6ăj|6Ój|1'!Ԡ«|1%!̍|1'!6$^[|1%!6$^[|1'!6$vH|1%!6$vH|1'!6$Ŕ:Ĩ|1%!6$Ŕ:Ĩ|1'!6$Ŕ:ƅ|1%!6$Ŕ:ƅ|1'!6$Ŕ:vH|1%!6$Ŕ:vH|1'!6$Ŕ:ÿ|1%!6$Ŕ:ÿ|1'!6$Ŕ:^[|1%!6$Ŕ:^[|1'!6$ƽ:Ĩ|1%!6$ƽ:Ĩ|1'!6$ƽ:ƅ|1%!6$ƽ:ƅ|1'!6$ƽ:vH|1%!6$ƽ:vH|1'!6$ƽ:ÿ|1%!6$ƽ:ÿ|1'!6$ƽ:^[|1%!6$ƽ:^[|1'!Z$^[|1%!Z$^[|1'!Z$vH|1%!Z$vH|1'!Z$ÿ|1%!Z$ÿ|1'!Z$Ŕ:Ĩ|1%!Z$Ŕ:Ĩ|1'!Z$Ŕ:ƅ|1%!Z$Ŕ:ƅ|1'!Z$Ŕ:vH|1%!Z$Ŕ:vH|1'!Z$Ŕ:ÿ|1%!Z$Ŕ:ÿ|1'!Z$Ŕ:^[|1%!Z$Ŕ:^[|1'!]$vH|1%!]$vH|1'!]$^[|1%!]$^[|1'!W$^[|1%!W$^[|1'!W$vH|1%!W$vH|1'!W$Ŕ:Ĩ|1%!W$Ŕ:Ĩ|1'!W$Ŕ:ƅ|1%!W$Ŕ:ƅ|1'!W$Ŕ:vH|1%!W$Ŕ:vH|1'!W$Ŕ:ÿ|1%!W$Ŕ:ÿ|1'!W$Ŕ:^[|1%!W$Ŕ:^[|1'!W$ɖ:Ĩ|1%!W$ɖ:Ĩ|1'!W$ɖ:ƅ|1%!W$ɖ:ƅ|1'!W$ɖ:vH|1%!W$ɖ:vH|1'!W$ɖ:ÿ|1%!W$ɖ:ÿ|1'!W$ɖ:^[|1%!W$ɖ:^[|1'!P$^[|1%!P$^[|1'!P$vH|1%!P$vH|1'!P$ɖ:Ĩ|1%!P$ɖ:Ĩ|1'!P$ɖ:ƅ|1%!P$ɖ:ƅ|1'!P$ɖ:vH|1%!P$ɖ:vH|1'!P$ɖ:ÿ|1%!P$ɖ:ÿ|1'!P$ɖ:^[|1%!P$ɖ:^[|1'!Ī$ƅ|1%!Ī$ƅ|1'!Ī$^[|1%!Ī$^[|1'!Ī$vH|1%!Ī$vH|1'!Ī$ÿ|1%!Ī$ÿ|1'!ݩɐ|1%!ݩɐ|1'!ݩē|1%!ݩē|1'!Ī$ʤ|1%!Ī$ʤ|0C%!ź$ŝ|5Ō|5ŝ:ƫ|5Ō:ƫ|5ŝ:Ƭ|5Ō:Ƭ|5ŝ:Ƿ|5Ō:Ƿ|1'!ź$ŝ|5Ō|5ŝ:ƫ|5Ō:ƫ|5ŝ:Ƭ|5Ō:Ƭ|5ŝ:Ƿ|5Ō:Ƿ|1%!ȵ$ŝ|5Ō|5ŝ:ƫ|5Ō:ƫ|5ŝ:Ƭ|5Ō:Ƭ|@1F18|0C'!ȵ$ŝ|5Ō|5ŝ:ƫ|5Ō:ƫ|5ŝ:Ƭ|5Ō:Ƭ|@1F20|0C%!ǂ$ŝ|5Ō|5ŝ:ƫ|5Ō:ƫ|5ŝ:Ƭ|5Ō:Ƭ|5ŝ:Ƿ|5Ō:Ƿ|1'!ǂ$ŝ|5Ō|5ŝ:ƫ|5Ō:ƫ|5ŝ:Ƭ|5Ō:Ƭ|5ŝ:Ƿ|5Ō:Ƿ|1%!Ǐ$ŝ|5Ō|5ŝ:ƫ|5Ō:ƫ|5ŝ:Ƭ|5Ō:Ƭ|5ŝ:Ƿ|5Ō:Ƿ|1'!Ǐ$ŝ|5Ō|5ŝ:ƫ|5Ō:ƫ|5ŝ:Ƭ|5Ō:Ƭ|5ŝ:Ƿ|5Ō:Ƿ|1%!ɿ$ŝ|5Ō|5ŝ:ƫ|5Ō:ƫ|5ŝ:Ƭ|5Ō:Ƭ|@1F48|0C'!ɿ$ŝ|5Ō|5ŝ:ƫ|5Ō:ƫ|5ŝ:Ƭ|5Ō:Ƭ|@1F50|0C%!Ǳ$ŝ|5Ō|5ŝ:ƫ|5Ō:ƫ|5ŝ:Ƭ|5Ō:Ƭ|5ŝ:Ƿ|5Ō:Ƿ|@1F59|0C'!Ǳ$Ō|@1F5B|0C'!Ǳ$Ō:ƫ|@1F5D|0C'!Ǳ$Ō:Ƭ|@1F5F|0C'!Ǳ$Ō:Ƿ|1%!Ŵ$ŝ|5Ō|5ŝ:ƫ|5Ō:ƫ|5ŝ:Ƭ|5Ō:Ƭ|5ŝ:Ƿ|5Ō:Ƿ|1'!Ŵ$ŝ|5Ō|5ŝ:ƫ|5Ō:ƫ|5ŝ:Ƭ|5Ō:Ƭ|5ŝ:Ƿ|5Ō:Ƿ|1%!ź$ƫ|5Ƭ|3ȵ$ƫ|5Ƭ|3ǂ$ƫ|5Ƭ|3Ǐ$ƫ|5Ƭ|3ɿ$ƫ|5Ƭ|3Ǳ$ƫ|5Ƭ|3Ŵ$ƫ|5Ƭ|@1F80|0C%!ź$ŝ:ȴ|5Ō:ȴ|5ŝ:ƫ:ȴ|5Ō:ƫ:ȴ|5ŝ:Ƭ:ȴ|5Ō:Ƭ:ȴ|5ŝ:Ƿ:ȴ|5Ō:Ƿ:ȴ|1'!ź$ŝ:ʞ|5Ō:ʞ|5ŝ:ƫ:ʞ|5Ō:ƫ:ʞ|5ŝ:Ƭ:ʞ|5Ō:Ƭ:ʞ|5ŝ:Ƿ:ʞ|5Ō:Ƿ:ʞ|1%!ǂ$ŝ:ȴ|5Ō:ȴ|5ŝ:ƫ:ȴ|5Ō:ƫ:ȴ|5ŝ:Ƭ:ȴ|5Ō:Ƭ:ȴ|5ŝ:Ƿ:ȴ|5Ō:Ƿ:ȴ|1'!ǂ$ŝ:ʞ|5Ō:ʞ|5ŝ:ƫ:ʞ|5Ō:ƫ:ʞ|5ŝ:Ƭ:ʞ|5Ō:Ƭ:ʞ|5ŝ:Ƿ:ʞ|5Ō:Ƿ:ʞ|1%!Ŵ$ŝ:ȴ|5Ō:ȴ|5ŝ:ƫ:ȴ|5Ō:ƫ:ȴ|5ŝ:Ƭ:ȴ|5Ō:Ƭ:ȴ|5ŝ:Ƿ:ȴ|5Ō:Ƿ:ȴ|1'!Ŵ$ŝ:ʞ|5Ō:ʞ|5ŝ:ƫ:ʞ|5Ō:ƫ:ʞ|5ŝ:Ƭ:ʞ|5Ō:Ƭ:ʞ|5ŝ:Ƿ:ʞ|5Ō:Ƿ:ʞ|1%!ź$ֳ|5Ǝ|5ƫ:ȴ|5ȴ|5Ƭ:ȴ|@1FB6|0C%!ź$Ƿ|6:ȴ|1'!ź$ֳ|5Ǝ|5ƫ|5Ƭ|5ʞ|1࠸|1ʞ|1ŝ|1Ƿ|1ͅ:Ƿ|1%!ǂ$ƫ:ȴ|5ȴ|5Ƭ:ȴ|@1FC6|0C%!ǂ$Ƿ|6:ȴ|1'!ȵ$ƫ|5Ƭ|3ǂ$ƫ|5Ƭ|5ʞ|1ŝ:ƫ|3Ƭ|3Ƿ|1%!Ǐ$ֳ|5Ǝ|5ͅ:ƫ|7Ƭ|@1FD6|0C%!Ǐ$Ƿ|5ͅ:Ƿ|1'!Ǐ$ֳ|5Ǝ|5ƫ|5Ƭ|@1FDD|0CŌ:ƫ|3Ƭ|3Ƿ|1%!Ǳ$ֳ|5Ǝ|5ͅ:ƫ|7Ƭ|3ʚ$ŝ|5Ō|3Ǳ$Ƿ|5ͅ:Ƿ|1'!Ǳ$ֳ|5Ǝ|5ƫ|5Ƭ|3ʚ$Ō|1ͅ:ƫ|3Ƭ|1ƫ|@1FF2|0C%!Ŵ$ƫ:ȴ|5ȴ|5Ƭ:ȴ|@1FF6|0C%!Ŵ$Ƿ|6:ȴ|1'!ɿ$ƫ|5Ƭ|3Ŵ$ƫ|5Ƭ|5ʞ|1Ƭ|1Ō|@2000|0ǃˎ|0̳ˎ|0ǃ˫|0̳˫|0~THREE-PER-EM ˫|0~FOUR-PER-EM ˫|0~SIX-PER-EM ˫|0Ӣ˫|0č˫|0܃˫|0Ձ˫|0ĩХ˫|2~NON-JOINER |2Ԣ|0ٰL|0ݪL|0Ϝ|0~NON-BREAKING Ϝ|0ӢȘ|0ǃȘ|0̳Ș|0í¿|0Urŕ|1Ïŕ|0IŅɾL|0GŅɾL|0ŅఊɾL|1ఋɾL|0IUɾL|0GUɾL|0UఊɾL|1ఋɾL|0Ղ|0UՂ|0ά|0ˮά|0S^ऄ|0X^ऄ|0íӎ|0ఌʦ|0ŕə|0ذə|0ٰ఍|0ݪ఍|0अఎ~FORMATTING |0ٰఏ|0ݪఏ|0ְ࠳˫|0؞ષ#|1ōó#|0Ϡ|0UϠ|0ƶϠ|0ŀϠ|1UϠ|1ƶϠ|0ь|0Ņ̌ƥɾL|1˔ƥɾL|0~REFERENCE L|0UʴL|0ٱ|0Ӏ|0ఐ|0ċִ|0ьआʦ|0~ASTERISM |0Ϝά|0ėͫ|0IMÊ$ݫ|0GMÊ$ݫ|0UʈL|0ʈʴL|0ʴʈL|0఑#κ|0ŀ੺#|0Y´ά|1£ά|0ÏǾ|0ŀϛ|0इ¨|0X~ASTERISKS ~ALIGNED ӌ|0ؔ̂#|0~SWUNG Ș|0Ɩఐ|0ٲčL|0c^č|0ЦϠ|0o^č|0x^č|0X^č|0o^L|0Ȕǚ|0ఒ|0roÕ|0ý.˫|0ˣԢ|0ईఓ|0उ8|1ə|1©|@2066|0ٰݬ|0ݪݬ|0ҕ௥ݬ|0अఎݬ|0ఔకఖ|0గకఖ|0ఔ*1ఘ|0గ*1ఘ|0ఙ0చ|0~NOMINAL 0చ|0ʙĩ|1)%!]|@2074|0ʙo|1x|1½|1È|1¼|1Î|1©#|1̂|1Ʌ#|1Iǽ|1Gǽ|1)%!à|0ȧĩ|1S|1X|1c|1o|1x|1½|1È|1¼|1Î|1©#|1̂|1Ʌ#|1Iǽ|1Gǽ|@2090|0)ȧ%!6|4Z|4W|4Ń|4Ѝ|4Ē|4ď|4·|4ø|4à|4ł|4«|4Č|@20A0|0~EURO-CURRENCY #|0ɠ#|0~CRUZEIRO #|0ఛ~FRANC #|0జ#|0~MILL #|0~NAIRA #|0~PESETA #|0Ӎ#|0ऊ#|0Ĺ~SHEQEL #|0௰#|0ఝ#|0ఞ#|0~TUGRIK #|0ऋ#|0~GERMAN ~PENNY #|0ట#|0~GUARANI #|0~AUSTRAL #|0~HRYVNIA #|0~CEDI #|0~LIVRE ~TOURNOIS #|0~SPESMILO #|0~TENGE #|0~INDIAN Ӎ#|0~TURKISH జ#|0~NORDIC L#|0~MANAT #|0~RUBLE #|0~LARI #|0~BITCOIN #|0ఠ#|@20D0|0AIƢH|1GƢH|1òrŕˡ|1Żrŕˡ|1̊=H|1ͬ=H|1I=H|1G=H|1çˡ|1ͬçˡ|1̊çˡ|1cÕH|1oÕH|1ՃÀ|2M|2Ǻ|2ÀՄ|1IG=H|1Ճٳ|2డ|2ఢŤõ|1ˠ˓ˡ|1Urjˡ|1~ANNUITY -|1ƶ~UNDERDOT |1ϳոH|1´=ˡ|1òU˓ˡ|1£Ƣ$ĂĀ|1´Ƣ$ĂĀ|1I=[|1G=[|1ǾH|@2100|0ణk|0~ADDRESSED eȍ~SUBJECT |0Ĝ'ļ|0۠~CELSIUS |0ƙŕ-|0~CARE k|0~CADA ~UNA |0~EULER ऌ|0~SCRUPLE |0۠~FAHRENHEIT |0å%ĉ|1'Ē|0ٴ'Ē|0Ĝ'Ē|0తऌ|2ØXǛ|0å']|0ٴ']|0å'·|1%·|0·a¿-|0Ĝ'à|0~NUMERO #|0͑~RECORDING ੷|0å'ł|0Ĝ'ł|2Ƶ|0å'ª|0ٴ'ª|0Ĝ'ª|0~PRESCRIPTION ~TAKE |0థ|0~SERVICE L|0ϴ#|0~TRADE L#|0~VERSICLE |0Ĝ'ģ|0ద#|0ݭ#|0Ɩݭ#|0ٴ'ģ|0èC%!Ǐ|0~KELVIN #|0~ANGSTROM #|0å'a|0ٴ'ļ|0~ESTIMATED -|0å%Z|1'Z|2Ź|0è'Ź|0å'ø|1%W|0¾-|0ֆ-|0͢-|0۶-|0Յऍ|0ơ'Ƶ|0~FACSIMILE #|0Ĝ%Ǜ|2ˬ|1'ˬ|2Ǜ|1͒ٵ|0èQ'ĉ|3·|0ŀQ'·|0èQ'Ī|0ĜN'ě|2%ě|3Z|3]|3Ŝ|0~PROPERTY ŕ|0èҸ|0؞#|0~AKTIESELSKAB |0è%Ź|0-Jƪऍ|0̚ėS~SEVENTH |3~NINTH |3ࡰ|3χ|2XҖ|2Sࡱ|2Xऎ|2cऎ|2oऎ|2Sए|2xధ|2Sȹ|2c΋|2x΋|2È΋|0ė֎S|0ǜţS|2X|2c|2o|2x|2½|2È|2¼|2Î|2ō|2ϵ|2Ό|2ɓ|2SÑ|2xÑ|2Só|0%ǜţS|3X|3c|3o|3x|3½|3È|3¼|3Î|3ō|3ϵ|3Ό|3ɓ|3SÑ|3xÑ|3Só|0ǜţSóļě|2xó|2ōó|2ŀSÑ|0)%!ŀļ|0ǜţ½~LATE 1|2ɓ~EARLY 1|3ó|2SÑó|0̚ėĩҖ|0è0X|2c|@2190|0´=|0Ą=|0£=|0Ā=|0IG=|0¨º=|0ąǌ=|1Ʀ=|0ĺƦ=|1ǌ=|0´=$j|0£=$j|0´ɤ=|0£ɤ=|0´Xݮ=|0ĄXݮ=|0£Xݮ=|0ĀXݮ=|0´=$ư|0£=$ư|0´=Ɋ¿|0Ą=Ɋ¿|0£=Ɋ¿|0Ā=Ɋ¿|0¨º=$ݯ|0´=$v|0£=$v|0´=$ʤ|0£=$ʤ|0IGɤ=|2=$j|0ĀϢ=|0Ą=$̋´|4£|0Ā=$̋´|4£|0£=$ɁĀ|0Ā=$Ɂ´|0̊ǹٶ=|0ͬǹٶ=|0ąǌ=eò¿|0´=e¿Ø£=e¿|0̊ùÀ=|0ͬùÀ=|0´Ƣ$ĂĄ|4Ā|0ĄƢ$Ă£|4´|0£Ƣ$ĂĄ|4Ā|0ĀƢ$Ă£|4´|0£=Ø´=|0Ą=´kĀ=|0´=Ø£=|1ӣ͓|0Ąӣ͓|0£ӣ͓|0Āӣ͓|0´ƢØ£Ƣ|0£ƢØ´Ƣ|0´U=$j|0IGU=$j|0£U=$j|0´U=|0ĄU=|0£U=|0ĀU=|0IGU=|0¨ºU=|0ąǌU=|1ƦU=|0ĺƦU=|1ǌU=|0´ƶ=|0£ƶ=|0´ݰ=|0£ݰ=|0Ą=$Uj|0Ā=$Uj|0´ψ=|0Ąψ=|0£ψ=|0Āψ=|0´=e¿|0£=e¿|0´b=|0Ąb=|0£b=|0Āb=|0Ąb=Ɋ¿|3Ɗݱ|5$í¿|6r¿|2U=|4Ɗݱ|0£b=Ɋ̹|0ąǌ=eɁ|0ĺƦ=eɁ|0¨ºb=|0G=$%À|0Ā=´kĄ=|0c£͓|0´=$rj|0£=$rj|0IG=$rj|0´=$Urj|0£=$Urj|0IG=$Urj|0´ऐ=|0£ऐ=|0IGऐ=|0Jٷ|0~COMPLEMENT |0ѕֵ|0న~EXISTS |1϶Ƙ~EXIST |0;έ|0~INCREMENT |0ֶ|0ωk|0ƘȾωk|0%ωk|0җΣݲ|0϶ƘऑΣݲ|0%җΣݲ|0ȯk~PROOF |0͒ϊ|1఩|1ٵ|0̂#|0~MINUS-OR-PLUS #|0^©|0һͫ|0έ̂|0Ǿǻ|0çǻ|0άǻ|0M؝|0ࡒ؝|0۹؝|0~PROPORTIONAL e|0֬|0Gƥ|0ƥ|0Ϸƥ|0ऒƥ|0~DIVIDES |0϶Ƙओ|0іe|0Ƙіe|0ʏ:|1Ĥ|0̺|0̔|0ˏ|0Uˏ|0ƶˏ|0औˏ|0कˏ|0~VOLUME ˏ|0ͬˏ|1औˏ|0̊औˏ|0~THEREFORE |0~BECAUSE |0~RATIO |0ప|0^̂|0~EXCESS |0~GEOMETRIC ప|0ઍ|0ÿǻ|0ŀÿ|0Ɩख«|0~SINE ɤ|0~WREATH ϊ|0Ƙÿ|0̂ÿ|0ఫëe|0Ƙఫëe|0ַëe|1їƘబëe|0ҘַΧబëe|0͞ëe|0Ƙ͞ëe|0͞ëĤëe|0ƶÿ|0ٷëe|0΍e|0భ΍e|0~DIFFERENCE ʼ|0~APPROACHES ȍ~LIMIT |0భëe|0ַëeĤȍҙk|0ҙkĤַëe|0ɠɅ|0Ʌɠ|0çƠëe|1ëe|0~CORRESPONDS e|0~ESTIMATES |0~EQUIANGULAR e|0ƷɅ|0̍ëe|0ëeϝ~DEFINITION |0Ϸϝ|0~QUESTIONED ëe|0Ƙëe|0ݳe|0Ƙݳe|0~STRICTLY ΍e|0ƳĤëe|0ƴĤëe|0ƳØëe|0ƴØëe|0ƳїƘëe|0ƴїƘëe|0ٸƳ|1ƴ|0ʼ|0Ƙ΍e|1Ƴ|1ƴ|0ҘƳΧëe|1ƴΧëe|0ƳĤ΍e|0ƴĤ΍e|0ҘƳΧ΍e|1ƴΧ΍e|0ƳĤƴ|0ƴĤƳ|0ҘƳΧƴ|1ƴΧƳ|0ϋ|0ό|0ϋĤëe|0όĤëe|0ϋĤ΍e|0όĤ΍e|0϶Ƙమ|2య|0ʽk|0ʾk|0Ƙ6ʽk|2ʾk|0ʽkĤëe|0ʾkĤëe|0Ҙ6ʽkΧëe|2ʾkΧëe|0ʽk$Ƙëe|0ʾk$Ƙëe|0ग|1η|1̔|0Mҙk|1ٹk|1ҙkĤëe|1ٹkĤëe|1ݴ|1ٺ|0O©|1̂|18|1һͫ|1^ǻ|1çǻ|1Ǿǻ|1Ʌ|1Ș|0¬©|1̂|18|1^ǻ|0GɎ|0IɎ|0ºɎ|0¨Ɏ|0~ASSERTION |0~MODELS |0घ|0~FORCES |0ƶr¿GӤ|0Ur¿UGӤ|0϶Ƙ~PROVE |0Ƙघ|0϶Ƙ~FORCE |0రUr¿UGӤ|0ϋјݵ|0όјݵ|0љӥk|0җΣљӥ|0љӥkĤëe|0җΣљӥĤëe|0ٹk|0ҙk|0ङ|0~HERMITIAN ~CONJUGATE ~MATRIX |0~INTERCALATE |0~XOR |0~NAND |0Χ|0Gƥ$̕|1õ|0͒ʏ:|2Ĥ|1̺|1̔|0Ǻǻ|0^ǻ|0Ʒǻ|0һ8|0ݶ|0Iљचٻϊ|0Gљचٻϊ|0Iٻϊ|0Gٻϊ|0ŀÿɅ|0ɆʏĤ|2:|0Uʽ|1ʾ|1̺|1̔|0ఱ|0ë:іe|0Ƴ$^|0ƴ$^|0ɳٸƳ|2ƴ|0ƳëeĤƴ|0ƴëeĤƳ|0ëeĤƳ|3ƴ|3ϋ|3ό|0϶ƘమĤë|2యĤë|0ƘMҙkĤëe|2ٹkĤëe|0MҙkĤƘëe|1ٹkĤƘëe|0ƳїƘ΍e|0ƴїƘ΍e|0ϋїƘ΍e|0όїƘ΍e|0Ƙљӥk|0϶ƘऑΣљӥ|0ƘљӥkĤëe|0϶ƘऑΣљӥĤë|0rӎ|0ఆíӎ|0¨Găӎ|0ºGăӎ|0ωk$òíj|3r¿ʣȯkíj|0%ωk$r¿ʣȯkíj|0ωk$^H|3ύ|0%ωk$ύ|0ωk$ː|3Xí࣊|0җ$òíj|2r¿ʣȯkíj|0%җ$r¿ʣȯkíj|0җ$ύ|0%җ$ύ|0ģŞݷ~MEMBERSHIP |0~DIAMETER #|0ݸ=|0ָ|0¨ũ|0ºũ|0~PROJECTIVE |0~PERSPECTIVE |0Зŕ|0I͔|0G͔|0I̻|0G̻|0ȿGݹ|1Iݹ|0ǹGݹ|1Iݹ|0ŀƘ#|0Mώ|0̕|0छ|0~SECTOR |0ϴ~RECORDER |0ֹɡ|0~VIEWDATA M|0ԩk~INTEREST #|0èƘ#|0ల|0ݺ|0ǹIɁ|1GɁ|0ȿIɁ|1GɁ|0ǹ¶ˏ|0ȿ¶ˏ|0ݻ|0ټ|0¨ũʼXíٽ|0~OPTION Қ|0ళeȍG|0ŃƠ6қ­|0پ|0̌ƥÊ|0˔ƥÊ|0ళeȍI|0ఴç|0~CYLINDRICITY |0ٷ~AROUND-PROFILE |0~SYMMETRY |0వ~RUNOUT |0~DIMENSION ~ORIGIN |0~CONICAL ~TAPER |0~SLOPE |0~COUNTERBORE |0~COUNTERSINK |0ƆƇ-~I-BEAM |3~SQUISH ˎ|3ˎë|4ओ|4Ǻ|4Ӧ|4À|3Àֺ|4Ӧ|3ͫ¿|3Մ¿|3ˎͫ|4Մ|4Ƴ|4ƴ|3´ݼ|3£ݼ|3ˎ´=|4£=|3ÀՄ|3ºɎː|3ֺ̍|3ˎºь|4̍|3ºɎӦ|3Ąݼ|3ˎĄ=|3¨Ɏύ|3ٿֺ|3ˎ¨ь|4ٿ|3¨ɎӦ|3Āݼ|3ˎĀ=|3శː|3̍ː|3Ǻː|3Ӧː|3Àː|3¨ՆӦ|3శˎ|3ÀƷ|3ˎɠ|3¨ɎŨ|3ٿŨ|3ƷŨ|3ӦŨ|3ÀŨ|3ºՆֺ|3IՆֺ|3ÿŨ|3ƴŨ|3Ư¿|3ٿÿ|3~ZILDE |3ֺÿ|3ϛː|3ˎƘë|4ʈ|3ºьÿ|3¨ьÿ|3Ǐ|3ʚ|3Ŵ|3źː|3ȵː|3Ǐː|3Ŵː|3ź|0ƘήL|0Gƥ$ĀϢ=|0~SHOULDERED ù­|0Շ-|0rŕ$p^|0आ-|0~CONTINUOUS ష-|0~DISCONTINUOUS ష-|0઩-|0ज-|0bM$ƙrŕ|0స-|0झҚ-|0~HELM -|0Oí¿$హ|1õº|0նÀ$~NORTHWEST =|0~UNDO -|0~MONOSTABLE -|0~HYSTERESIS -|0఺~H-TYPE -|1~L-TYPE -|0~PASSIVE-PULL-DOWN-OUTPUT -|0~PASSIVE-PULL-UP-OUTPUT -|0ञट-1X|0~SOFTWARE-FUNCTION -|0ƆƇ-ˎ|0ࡔəҚ-|0~PREVIOUS њ|0఻њ|0఼ٳ-|0~CLEAR ٳ-|0Iǽ»v|2ӧ|2³v|0Gǽ»v|2ӧ|2³v|0IMÊ»Ɂ|3ӧ|3³Ɂ|0GMÊ»Ɂ|3ӧ|3³Ɂ|0IɆÊ»v|3pӨ|3³v|0ɆÊӧ|0GɆÊ»v|3pӨ|3³v|0ˏӧ|0íŕӧ|0»IĤ³GɆÊȲ|1GĤ³IɆÊȲ|0ٵǹ|1ȿ|0ǹMÊ|0ȿMÊ|3ØǹMÊ|0R-ȿ|0Ir­ŕ|0Gr­ŕ|0íݽ~LINE-1 |2~LINE-3 |2~LINE-7 |2~LINE-9 |0Ύ-Ãr:ǹG|5ȿG|4$À|3º:í$À|3¨:í$À|3r$õ|3º:í$õ|3¨:í$õ|3r:ɤ|3º:í$ɤ|3¨:í$ɤ|3º:í|3¨:í|3r:ǹI|5ȿI|0Mݾ|0ֻ-|0~EJECT -|0rŕӧ|0Ҝƽ|1òØŻ|1ŻØò|1òØXݿ|1XݿØò|3ڀ|1ఽ|1ా|1ి|0ͭీ|0~FUSE |0ǹǽ|0ȿǽ|0ǹɆÊ|0ȿɆÊ|0ǹʿɩÊ|0ȿʿɩÊ|0b~TRAPEZIUM |0ఴç$À|0~STRAIGHTNESS |0~FLATNESS |0ݖट|0~ELECTRICAL ̺|0ࡔ~EXPONENT -|0Y˔Uõ|1̌Uõ|1͕Uõ|1ϏUõ|1˔Uõ$r¿|1̌Uõ$r¿|1˔õ$Ur¿|0~ALARM ʫ|0~STOPWATCH |0~TIMER ʫ|0ݺ$~FLOWING ~SAND |0Yý̌õ|2˔õ|2͕õ|2Ϗõ|0Ur¿|0YMJŮ|1ÀJठ|0ּ-|1~ON-OFF -|1Ɗ-|1~SLEEP -|0~OBSERVER ћ-|0-Jड|2Йkు|4Е|2ȯkЕ|4ހ|2ూ|2ށ|2Շ|2ృ|2íϸ|2ŕֽ|2rϸ|21ֽ|2ౄֻ|2־͖|3Ơ|2౅ढނ|2ҝϹS|4X|4c|4o|2Ĕށ|2ెే|2ȯkހ¸|2ރ|2ȯký|2ण|2ނ|2ֿə|2तə|2ठə|2ϐə|2˫|2थ|0ై-|0ù­|0-Jद|2थ1X|2ण1X|@2440|0Чv|1౉|1ބ|1Ɩބ|1Џ~BUCKLE |1׀ִ|1धनొ|1~AMOUNT kή|1Ș|1~CUSTOMER ణ?|1UՄ|@2460|0O0S|2X|2c|2o|2x|2½|2È|2¼|2Î|1?ō|2ϵ|2Ό|2ө|2Ӫ|2Ш|2ш|2ӫ|2Ҟ|2Ӭ|2ǫ|0Í0S|2X|2c|2o|2x|2½|2È|2¼|2Î|1?ō|2ϵ|2Ό|2ө|2Ӫ|2Ш|2ш|2ӫ|2Ҟ|2Ӭ|2ǫ|00SǙŮ|1XǙŮ|1cǙŮ|1oǙŮ|1xǙŮ|1½ǙŮ|1ÈǙŮ|1¼ǙŮ|1ÎǙŮ|0?ōǙŮ|1ϵǙŮ|1ΌǙŮ|1өǙŮ|1ӪǙŮ|1ШǙŮ|1шǙŮ|1ӫǙŮ|1ҞǙŮ|1ӬǙŮ|1ǫǙŮ|0Í)%!6|4a|4ļ|4ě|4Z|4Ź|4ĉ|4Ē|4]|4Ŝ|4ď|4·|4ø|4à|4W|4ł|4Ƶ|4ª|4«|4Č|4P|4ē|4œ|4Ń|4Ī|4ģ|0O)'!6|4a|4ļ|4ě|4Z|4Ź|4ĉ|4Ē|4]|4Ŝ|4ď|4·|4ø|4à|4W|4ł|4Ƶ|4ª|4«|4Č|4P|4ē|4œ|4Ń|4Ī|4ģ|2%!6|4a|4ļ|4ě|4Z|4Ź|4ĉ|4Ē|4]|4Ŝ|4ď|4·|4ø|4à|4W|4ł|4Ƶ|4ª|4«|4Č|4P|4ē|4œ|4Ń|4Ī|4ģ|10ĩ|0ĔO?ϵ|3Ό|3ө|3Ӫ|3Ш|3ш|3ӫ|3Ҟ|3Ӭ|3ǫ|0UO0S|3X|3c|3o|3x|3½|3È|3¼|3Î|2?ō|0ĔO0ĩ|0­ÆÃí|2ní|2Ãr|2nr|2ÃƶȘí|2nƶȘí|2ÃƶȘr|2nƶȘr|2ÃЦȘí|2nЦȘí|2ÃЦȘr|2nЦȘr|2Ãº:G|2ºÃ:Gn|3n:GÃ|2nº:G|2Ãº:I|2ºÃ:In|3n:IÃ|2nº:I|2Ã¨:G|2¨Ã:Gn|3n:GÃ|2n¨:G|2Ã¨:I|2¨Ã:In|3n:IÃ|2n¨:I|2Ãr:G|2rÃ:Gn|2¨n:GºÃ|2ºn:G¨Ã|2rn:GÃ|2ºÃ:G¨n|2¨Ã:Gºn|2nr:G|2Ãr:I|2rÃ:In|2¨n:IºÃ|2ºn:I¨Ã|2rn:IÃ|2ºÃ:I¨n|2¨Ã:Iºn|2nr:I|2Ãº:í|2In:GºÃ|2Gn:IºÃ|2ºÃ:ín|3n:íÃ|2GÃ:Iºn|2IÃ:Gºn|2nº:í|2Ã¨:í|2In:G¨Ã|2Gn:I¨Ã|2¨Ã:ín|3n:íÃ|2GÃ:I¨n|2IÃ:G¨n|2n¨:í|2Ãr:í|2In:GrÃ|2Gn:IrÃ|2rÃ:ín|2¨n:ºíÃ|2ºn:¨íÃ|2rn:íÃ|2I¨n:GºÃ|2G¨n:IºÃ|2Iºn:G¨Ã|2Gºn:I¨Ã|2ºÃ:¨ín|2¨Ã:ºín|2GÃ:Irn|2IÃ:Grn|2nr:í|2ÃUȘí|2nUȘí|2ÃUȘr|2nUȘr|2Uí|3r|2ºŅ:GU|3U:GŅ|2Uº:G|2ºŅ:IU|3U:IŅ|2Uº:I|2¨Ņ:GU|3U:GŅ|2U¨:G|2¨Ņ:IU|3U:IŅ|2U¨:I|2rŅ:GU|3U:GŅ|2Ur:G|2rŅ:IU|3U:IŅ|2Ur:I|2ºŅ:íU|3U:íŅ|2Uº:í|2¨Ņ:íU|3U:íŅ|2U¨:í|2rŅ:íU|3U:íŅ|2Ur:í|2Ã̕º:G|6I|4¨:I|6G|3ă»Ge³I|5Ie³G|4ǚ|3I|3¨|3G|3º|2nI|3¨|3G|3º|2ÃI:nG|3¨:nº|2nI:ÃG|3¨:Ãº|0»¶¸|0³Sȹ¸|2ȳ¸|1c΋¸|1¶¸|1x΋¸|1cͷ¸|1È΋¸|0Ǚ¸|0IÈ΋¸|1cͷ¸|1x΋¸|1¶¸|1c΋¸|1Sȳ¸|2ȹ¸|0G¶¸|0ÃΏ|0ýΏ|0ోΏ|0»Sȹ¸|0GSȹ¸|0˜³I|2G|1»I|3:³I:³G|5G|4»G:³I|8G|2G|3:³I|6:³G|0YM|0bM|2$ͽׁ|2ҟY%M|0M$í̼|2r̼|2~ORTHOGONAL ౌ̼|2»Ie³G̼|3Ge³I̼|2ăౌ̼|0Y%M|0b%M|0Yқ|0bқ|0Yrқ|0brқ|0Y్|0b్|0Y͕õ|0b͕õ|0Y͕%õ|0b͕%õ|0Y˔õ|0b˔õ|0Y˔%õ|0b˔%õ|0Y˔ځ|0b˔ځ|0YϏõ|0bϏõ|0YϏ%õ|0bϏ%õ|0Y̌õ|0b̌õ|0Y̌%õ|0b̌%õ|0Y̌ځ|0b̌ځ|0YǺ|0bǺ|2ҟY%Ǻ|0~FISHEYE |0ώ|0bÀ|0ȔÀ|0À$r̼|0~BULLSEYE |0YÀ|0À$I¶Y|2G¶Y|2³¶Y|2»¶Y|3G˜Y|2ٷї»I˜Y|0I¶YÀ|0G¶YÀ|0Щά|1bÀ|0»¶ЩbÀ|0³¶ЩbÀ|0»I˜ؼ̕|1G˜ؼ̕|0³G˜ؼ̕|1I˜ؼ̕|0»¶À|0³¶À|0Y³Gõ|2Iõ|1»Iõ|2Gõ|0bά|0M$I¶Y|2G¶Y|2»Iă¶Y|2³Gă¶Y|0bM$r~BISECTING ŕ|1͕õ$^|0͕õ$I¶Y|3G¶Y|0ĬÀ|0bM$»I˜|3³I˜|4G˜|3»G˜|1À$»I˜|3³I˜|4G˜|3»G˜|0»Iõ|1Gõ|0³Iõ|0býM|0YýM|0bý%M|0Yý%M|0³Gõ|0Yͮ$Ъ|0ќ|0ڂ|0ऩ|0~COMET |0YƷ|0bƷ|0ڃ|0~THUNDERSTORM |0ͮ|0౎౏|0ࡢ౏|0~CONJUNCTION |0प|0Yϴ|0bϴ|0ϑ­|2$ή|3Ń|0Ы|0ڂ$Ո~DROPS |0ڄ౐|0bޅӨ|0YޅӨ|0~SHAMROCK |0ŀơफʅά|0YIŤ±|1GŤ±|0bIŤ±|1¨Ť±|1GŤ±|1ºŤ±|0ब:౑|0~CAUTION #|0~RADIOACTIVE #|0~BIOHAZARD #|0౒|0~ANKH |0~ORTHODOX ǚ|0ʶʚ|0ǚk~LORRAINE |2~JERUSALEM |0Ʒ:ׂ|0Ρ-|0~ADI ~SHAKTI |0ކ:~SICKLE |0भ-|0ѽϡ|0ӭJއ|2౓|2Ь|2म|2Э|2ί|2Ӯ|2ͭ|0ވk~DHARMA |0bމ²|1˝²|0Y˝²|0bͮ$Ъ|0ҕȳʐ|0यȳʐ|0ފ|0׃#|0ͭ|0ѝ#|0~JUPITER |0~SATURN |0౔|0ౕ|0څ|0~ARIES |0~TAURUS |0~GEMINI |0~CANCER |0~LEO |0~VIRGO |0~LIBRA |0~SCORPIUS |0~SAGITTARIUS |0~CAPRICORN |0~AQUARIUS |0~PISCES |0bġ̽|2ͯ|2Ϻ|2ϻ|2ʟ|2ϼ|0Yġ̽|2ͯ|2Ϻ|2ϻ|2ʟ|2ϼ|1ౖҠ|0bʅҠ|1ǺҠ|0YरҠ|0bౖҠ|0YʅҠ|1ǺҠ|0bरҠ|0ڄ~SPRINGS |0ȳʬ|0ȹʬ|0ދȹچ|1֑چ|0ۿՉ#|1ऱ#|1Ԡ#|0ǌĭǚ|0Ʀĭǚ|0౗ў-|0ў-J~TYPE-1 Պ|3~TYPE-2 Պ|3ౘՊ|3ౙՊ|3ౚՊ|3౛Պ|3~TYPE-7 Պ|3~GENERIC ~MATERIALS |0Y౗ў-|0~RECYCLED ތ-|0~PARTIALLY-RECYCLED ތ-|0~PERMANENT ތ#|0ल-|0ӯ~FACE-1 |1~FACE-2 |1~FACE-3 |1~FACE-4 |1~FACE-5 |1~FACE-6 |0bÀ$^G|3XÕ|0YÀ$b^G|3XbÕ|0ҡJϡ|2ѽ|0ҢJ౜ϡ|2ౝѽ|3ϡ|2౜ѽ|0bϽ|0YϽ|0ކ:౞|0౟|0ϒ~SWORDS |0Ӱk~AESCULAPIUS |0~SCALES |0ౠ|0ٲ|0ळ|0Ӱk~HERMES |0~ATOM -|0~FLEUR-DE-LIS |0ՋbƷ|0cऴౡG|3I|0~WARNING #|0Ó~VOLTAGE #|0ظ׃#|1ѝ#|0~INTERLOCKED ׃:ѝ#|0ѝ:׃#|1$j#|3:ѝ:׃#|0rѝ$j#|0íѝ$j#|0ýbÀ|1YÀ|1%bÀ|0~MARRIAGE -|0~DIVORCE -|0~UNMARRIED ౢ-|0~COFFIN |0~FUNERAL ~URN |0~NEUTER |0~CERES |0~PALLAS |0~JUNO |0~VESTA |0~CHIRON |0Yʐ~LILITH |0~SEXTILE |0~SEMISEXTILE |0~QUINCUNX |0~SESQUIQUADRATE |0~SOCCER Ͼ|0~BASEBALL |0¬Қ|0bލ˸|2̽|0Yލ˸|2̽|0ऩڇव|0ͮशќ|0Ո|0Yऩ|0मќ:Ո|0èbޅӨ|1YޅӨ|0bǺƠM|0ɪౣ|0~DISABLED ӱ|0~OPHIUCHUS |0౞|0ӱ~SLIDING |0ގ$bǚ|0Oɪౣ|0~CHAINS |0ȟष|0Ȫ~ONE-WAY I٤ڈ|0Y౤I٤ڈ|0b౤I٤ڈ|0YI౥౦|0bI౥౦|0౧౨#|0nbϏõ|0IȊष|0¬Ы|0ՌăƠbÀƠYM|0Yस|0౩I~ENTRY-1 |2~ENTRY-2 |0~ASTRONOMICAL -J౔|0nÀ$j:XÕH|0ޏ|0~RIGHT-HANDED ౪ޏ|0~LEFT-HANDED ౪ޏ|0Ɩޏ|0YǚƊह|0~SHINTO ~SHRINE |0౫|0ऺ|0~HISTORIC ~SITE |0ळڇ~HUB |1$~HANDLES |0ډ-J~LIGHTHOUSE |0Ӯ|0ڂƊీ|0౬|0ϽƠ౭|0~FERRY |0~SAILBOAT |0Moׁ|0~SKIER |0Ӳ౮|0˻$Ͼ|0ऻ|0ӳन-|0౯~GRAVEYARD -|0~FUEL ~PUMP |0ٺƊYM|0bϽ$ípY~STRIPE |0Y़ׄ|0»౰ׄ|0Yׄ|0³౰ׄ|0bׄ|1nήL|0ϴӴ#|0౱౧|0ӵ|0ң|0ɗऽ|1ɴ|0౲ɴ|0౳ɴ|0³Gސ|0ސ|0»Gސ|0b౴|0Y౴|0ήL|0nήL|0ηŃ|0nηŃ|0ϑŃ|0nϑŃ|0ՋCǚ|0nCǚ|0ùƙǚ|0nùƙǚ|0)ǚ|0ϓb)ǚ|0Ջ)ǚ|0~MALTESE ǚ|0Ʒk~DAVID |0oՍǾ|1ाǾ|0noाǾ|0o~CLUB-SPOKED Ǿ|0YoȽƷ|0boȽƷ|0~SPARKLES |0عՋbƷ|0ObƷ|0ùƙYƷ|0YƙbƷ|0ՋYƷ|0nՋYƷ|0ҤƷ|0ϓbƷ|0nǾ|0ùƙǾ|0¼̾Ǿ|1ȽYƷ|2ҤƷ|0½ȽYƷ|0¼Ƚ౵YƷ|0n¼Ƚ౵YƷ|0ΌȽYƷ|0шȽǾ|0ՍǾ|0ùƙՍǾ|0nՍǾ|0½౶Y:bޑ|0Yޑ|0bޑ|0¼౶ՋYޑ|0Oùƙ¼ȽƷ|0nՍҤǾ|0ि|0ी~TRIFOLIATE ि|0n౷ि|0౸|0n౸|0ाǾ|0¼Ս౹Ǿ|0n¼Ս౹Ǿ|0ǚL|0ϓbÀ|0Ĕ¬ǚL|0³G౺bM|0»G౺bM|0³GϓbM|0»GϓbM|0YʈLƝ|0bʈLƝ|1ʴLƝ|0YǺ̂bŃ|0nʴL-|0Ãr¿|0ýr¿|0nr¿|1ŅèƯɾLƝ|2ƯɾLƝ|1UèƯɾLƝ|2ƯɾLƝ|1ÏŅƯɾLƝ|2UƯɾLƝ|0̖Юذ#Ɲ|0nʴLƝ|1ʅʴLƝ|1Yʅ|0ơnYʅά|0फʅ|0ơफʅά|0ýIǽƝ|1GǽƝ|1ٮIǽƝ|2GǽƝ|1̌ƥÊƝ|1˔ƥÊƝ|0ňƥɾLƝ|1˔ƥɾLƝ|1̌ƥÊƝ|1˔ƥÊƝ|0ÃIʿɩÊƝ|1GʿɩÊƝ|0ýIɆÊƝ|1GɆÊƝ|0ɫĔO0S|4X|4c|4o|4x|4½|4È|4¼|4Î|3?ō|1OQ0S|4X|4c|4o|4x|4½|4È|4¼|4Î|3?ō|1ĔOQ0S|5X|5c|5o|5x|5½|5È|5¼|5Î|4?ō|0nȡ£=|1©#|1̂#|1һ#|1ĺƦ=|1£=|1ąƦ=|0~DRAFTING ʦ£=|0n~ROUND-TIPPED £=|0ş£=|0nş£=|0ψş£=|0nψş£=|0Y£=|0ׅु£ũ|1~BOTTOM-LIGHTED £ũ|0Y£ũ|0nY̖Ā:£=|3Ą:£=|0અY£=|0n~CONCAVE-POINTED Y£=|0ूb£=|0ृb£=|0ॄϓb£=|0ॅϓb£=|0n³ޒb£=|1»ޒb£=|0џ³ޒb£=|0Ɇʤ|0џ»ޒb£=|0Onb£=|0~WHITE-FEATHERED £=|0׆ĺƦ=|1£=|1ąƦ=|0n׆ĺƦ=|2£=|2ąƦ=|0~TEARDROP-BARBED £=|0n~TEARDROP-SHANKED £=|0౻£=|0n౻£=|0~OPEN-OUTLINED £=|0UɆʤ|0c~DIMENSIONAL ƥ|0bõҟ%bõ|0ॆ|0ùʽ|1ʾ|0I౼ݷ܋|0G౼ݷ܋|0Ĥ$^̡|0ˠ˓౽ʽ|0ʾ౽˓|0r¿$íj|0.΀ă|0òһ|0.Ռă|0¬ʏ:|2Ĥ|0bǺ$Ѽ^|0:$^|0ωkՎĄ|0³GɁ$^|0»IɁ$^|0Iेޓ|0Gेޓ|0Ǚेޓ|0Ĭ¨Ɏ|1ºɎ|0I:GUӤ|3Ɏ|1ङ|0òGɎ|1IɎ|0¨Ɏ$ÀH|0ώैϝí~RULE |0bॉǺ|3$´т|4£т|1M$´т|3£т|0.IbMÊ|1GbMÊ|1IƥÊ|1GƥÊ|1IUƥÊ|1GUƥÊ|1IbʿɩÊ|1GbʿɩÊ|1Iٮǽ|1Gٮǽ|0ĄЦ=|0ĀЦ=|0̊౾À=|0ͬ౾À=|0G=$O©|0ò´=|1£=|1IG=|1´U=|1£U=|1IGU=|1´=Ɋ¿|1£=Ɋ¿|1´U=Ɋ¿|1£U=Ɋ¿|2ݰ=|0hgై|2~DOTS-1 |2~DOTS-2 |2~DOTS-12 |2~DOTS-3 |2~DOTS-13 |2~DOTS-23 |2~DOTS-123 |2~DOTS-4 |2~DOTS-14 |2~DOTS-24 |2~DOTS-124 |2~DOTS-34 |2~DOTS-134 |2~DOTS-234 |2~DOTS-1234 |2~DOTS-5 |2~DOTS-15 |2~DOTS-25 |2~DOTS-125 |2~DOTS-35 |2~DOTS-135 |2~DOTS-235 |2~DOTS-1235 |2~DOTS-45 |2~DOTS-145 |2~DOTS-245 |2~DOTS-1245 |2~DOTS-345 |2~DOTS-1345 |2~DOTS-2345 |2~DOTS-12345 |2~DOTS-6 |2~DOTS-16 |2~DOTS-26 |2~DOTS-126 |2~DOTS-36 |2~DOTS-136 |2~DOTS-236 |2~DOTS-1236 |2~DOTS-46 |2~DOTS-146 |2~DOTS-246 |2~DOTS-1246 |2~DOTS-346 |2~DOTS-1346 |2~DOTS-2346 |2~DOTS-12346 |2~DOTS-56 |2~DOTS-156 |2~DOTS-256 |2~DOTS-1256 |2~DOTS-356 |2~DOTS-1356 |2~DOTS-2356 |2~DOTS-12356 |2~DOTS-456 |2~DOTS-1456 |2~DOTS-2456 |2~DOTS-12456 |2~DOTS-3456 |2~DOTS-13456 |2~DOTS-23456 |2~DOTS-123456 |2~DOTS-7 |2~DOTS-17 |2~DOTS-27 |2~DOTS-127 |2~DOTS-37 |2~DOTS-137 |2~DOTS-237 |2~DOTS-1237 |2~DOTS-47 |2~DOTS-147 |2~DOTS-247 |2~DOTS-1247 |2~DOTS-347 |2~DOTS-1347 |2~DOTS-2347 |2~DOTS-12347 |2~DOTS-57 |2~DOTS-157 |2~DOTS-257 |2~DOTS-1257 |2~DOTS-357 |2~DOTS-1357 |2~DOTS-2357 |2~DOTS-12357 |2~DOTS-457 |2~DOTS-1457 |2~DOTS-2457 |2~DOTS-12457 |2~DOTS-3457 |2~DOTS-13457 |2~DOTS-23457 |2~DOTS-123457 |2~DOTS-67 |2~DOTS-167 |2~DOTS-267 |2~DOTS-1267 |2~DOTS-367 |2~DOTS-1367 |2~DOTS-2367 |2~DOTS-12367 |2~DOTS-467 |2~DOTS-1467 |2~DOTS-2467 |2~DOTS-12467 |2~DOTS-3467 |2~DOTS-13467 |2~DOTS-23467 |2~DOTS-123467 |2~DOTS-567 |2~DOTS-1567 |2~DOTS-2567 |2~DOTS-12567 |2~DOTS-3567 |2~DOTS-13567 |2~DOTS-23567 |2~DOTS-123567 |2~DOTS-4567 |2~DOTS-14567 |2~DOTS-24567 |2~DOTS-124567 |2~DOTS-34567 |2~DOTS-134567 |2~DOTS-234567 |2~DOTS-1234567 |2~DOTS-8 |2~DOTS-18 |2~DOTS-28 |2~DOTS-128 |2~DOTS-38 |2~DOTS-138 |2~DOTS-238 |2~DOTS-1238 |2~DOTS-48 |2~DOTS-148 |2~DOTS-248 |2~DOTS-1248 |2~DOTS-348 |2~DOTS-1348 |2~DOTS-2348 |2~DOTS-12348 |2~DOTS-58 |2~DOTS-158 |2~DOTS-258 |2~DOTS-1258 |2~DOTS-358 |2~DOTS-1358 |2~DOTS-2358 |2~DOTS-12358 |2~DOTS-458 |2~DOTS-1458 |2~DOTS-2458 |2~DOTS-12458 |2~DOTS-3458 |2~DOTS-13458 |2~DOTS-23458 |2~DOTS-123458 |2~DOTS-68 |2~DOTS-168 |2~DOTS-268 |2~DOTS-1268 |2~DOTS-368 |2~DOTS-1368 |2~DOTS-2368 |2~DOTS-12368 |2~DOTS-468 |2~DOTS-1468 |2~DOTS-2468 |2~DOTS-12468 |2~DOTS-3468 |2~DOTS-13468 |2~DOTS-23468 |2~DOTS-123468 |2~DOTS-568 |2~DOTS-1568 |2~DOTS-2568 |2~DOTS-12568 |2~DOTS-3568 |2~DOTS-13568 |2~DOTS-23568 |2~DOTS-123568 |2~DOTS-4568 |2~DOTS-14568 |2~DOTS-24568 |2~DOTS-124568 |2~DOTS-34568 |2~DOTS-134568 |2~DOTS-234568 |2~DOTS-1234568 |2~DOTS-78 |2~DOTS-178 |2~DOTS-278 |2~DOTS-1278 |2~DOTS-378 |2~DOTS-1378 |2~DOTS-2378 |2~DOTS-12378 |2~DOTS-478 |2~DOTS-1478 |2~DOTS-2478 |2~DOTS-12478 |2~DOTS-3478 |2~DOTS-13478 |2~DOTS-23478 |2~DOTS-123478 |2~DOTS-578 |2~DOTS-1578 |2~DOTS-2578 |2~DOTS-12578 |2~DOTS-3578 |2~DOTS-13578 |2~DOTS-23578 |2~DOTS-123578 |2~DOTS-4578 |2~DOTS-14578 |2~DOTS-24578 |2~DOTS-124578 |2~DOTS-34578 |2~DOTS-134578 |2~DOTS-234578 |2~DOTS-1234578 |2~DOTS-678 |2~DOTS-1678 |2~DOTS-2678 |2~DOTS-12678 |2~DOTS-3678 |2~DOTS-13678 |2~DOTS-23678 |2~DOTS-123678 |2~DOTS-4678 |2~DOTS-14678 |2~DOTS-24678 |2~DOTS-124678 |2~DOTS-34678 |2~DOTS-134678 |2~DOTS-234678 |2~DOTS-1234678 |2~DOTS-5678 |2~DOTS-15678 |2~DOTS-25678 |2~DOTS-125678 |2~DOTS-35678 |2~DOTS-135678 |2~DOTS-235678 |2~DOTS-1235678 |2~DOTS-45678 |2~DOTS-145678 |2~DOTS-245678 |2~DOTS-1245678 |2~DOTS-345678 |2~DOTS-1345678 |2~DOTS-2345678 |2~DOTS-12345678 |0£̧=$rj|4Urj|0´U=$rj|0£U=$rj|0IGU=$rj|0£̧=Ɋ¿|0´U=Ɋ¿|0£U=Ɋ¿|0Ā=$íj|0Ą=$íj|1ƶ=|0Āƶ=|0´UȘ=|0£UȘ=|0´ƶȘ=|0£ƶȘ=|1̧ƶȘ=|1=$ȔЮ|0Ą=e¿|0Ā=e¿|0£=$ư$rj|5Urj|1̧=$ư|5$rj|6Urj|0´ޔ|0£ޔ|0´Uޔ|0£Uޔ|0´=eYǺ|0£=eYǺ|0´=Ɋ¿eYǺ|0£=Ɋ¿eYǺ|0ąǌ:ĺƦ=|1Ʀ:ĺǌ=|1ǌ=$v|1Ʀ=$v|0ĺƦ=$v|1ǌ=$v|0ąǌ=:ąƦ=|1Ʀ=:ĺƦ=|0ĺƦ=:ĺǌ=|1ǌ=:ąǌ=|0΀ăɪՌă|0Ռăɪ΀ă|0ĺƦ=ɪąƦ=|0ąƦ=ɪĺƦ=|0ՌăɪąƦ=|0΀ăɪĺƦ=|0ąƦ=ɪąǌ=|1ǌ=ɪąƦ=|0ɤ=Ť౿G|0=Ť£ҥڊĄ|5Ā|2Āҥڊ´|5£|0~RIGHT-SIDE ͬ̕=|0~LEFT-SIDE ̊̕=|0ǹ̊̕=|0ȿ̊̕=|0ǹͬ̕=$̂|2̊=$©|0³Gॊͬ=|1Iॊ̊=|0̊ȊÀ=|0ͬȊÀ=|0£=HŻ´=|0´=HŻ£=|0Ż£=H´=|0£=$©[|0´=$©[|0£=ΐŃ|0IG=ΐ%À|0Ą̧=Ɋ%À|0IĂ¨GĂºƢ|2ºGĂ¨Ƣ|0¨ĂGºĂIƢ|2IºĂGƢ|0IĂ¨GĂ¨Ƣ|0¨ĂGºĂGƢ|0IĂºGĂºƢ|0¨ĂIºĂIƢ|0´Ƣ$Ă¨e¿|0£Ƣ$Ă¨e¿|0ĄƢ$ĂGe¿|0ĀƢ$ĂGe¿|0´Ƣ$Ăºe¿|0£Ƣ$Ăºe¿|0ĄƢ$ĂIe¿|0ĀƢ$ĂIe¿|0´Ƣ$Ă¨Ɋ¿|0£Ƣ$Ă¨Ɋ¿|0ĄƢ$ĂGɊ¿|0ĀƢ$ĂGɊ¿|0´Ƣ$ĂºɊ¿|0£Ƣ$ĂºɊ¿|0ĄƢ$ĂIɊ¿|0ĀƢ$ĂIɊ¿|0´Ƣ$Ă¨H´Ƣ$Ăº|0ĄƢ$ĂIЯĄƢ$ĂG|0£Ƣ$Ă¨H£Ƣ$Ăº|0ĀƢ$ĂIЯĀƢ$ĂG|0´Ƣ$Ă¨H£Ƣ$Ă¨|4ºH£Ƣ$Ăº|0£Ƣ$Ă¨H´Ƣ$Ă¨|4ºH´Ƣ$Ăº|0´Ƣ$Ă¨HòȘ|4º[òȘ|0£Ƣ$Ă¨HòȘ|4º[òȘ|0ĄƢ$ĂIЯĀƢ$ĂG|0ĀƢ$ĂIЯĄƢ$ĂG|0GU=$ͽʛ|0Ʌ#H£=|0ÿǻH£=|0´=Hÿǻ|0£=Hÿǻ|3͞ëe|0ƳH´=|0´=ΐƳ|0ƴH£=|0ʽH£=|0´=ΐʽ|0ʾH´=|0IѠư|0GѠư|0¨Ѡư|0ºѠư|0ƶr¿܋|0ģŞ~SPOT |2ݘɠ|0IbɆÊ|0GbɆÊ|0Ibǽ|0Gbǽ|0ģŞIҙÊ|2GҙÊ|2IಀÊ|2GಀÊ|0IMÊ$ː|0GMÊ$ː|0IMÊ$тƠǹɁ|0GMÊ$тƠȿɁ|0IMÊ$тƠȿɁ|0GMÊ$тƠǹɁ|0IƥÊ$^|0GƥÊ$^|0I̕ƳÊ|0G̕ƴÊ|0UI̕ƴÊ|1G̕ƳÊ|0IYʿɩÊ|0GYʿɩÊ|0Ȕڋ|0rϢŕ|0ϷƥՎI|0Gƥɬ$M|0ϷGƥ$^|0ƥ$«̡|0Ĩƥ|0ऒƥՎI|3¨|0èƥ|0ŀƥ|0ƥ$ː|0ŀƥ$ː|0͋ƥՎ¨|3º|0Ϸƥ$ù˼ӶƠ=Ť¨:G|;I|9º:G|;I|9G:¨|9I:¨|9G:º|9I:º|0ŀ;έ|0;έ$ύ|3%ÀH|3G=H|3I=H|0À$í¿|0Or¿|1і|1ˠ˓|1ॆ|0Àैϝí¿:ǹ¶ैϝr¿|1$~SUPERIMPOSED Ń|0O~ANTICLOCKWISE-ROTATED һ#|0¨=ΐÀ|0Obά|1ά|1Ƴ|1ƴ|0À$%ÀeȍG|2Xí࣊eȍG|0¬΀ăͫ|1Ռăͫ|1Ǿ|1%À|1M|0Xڀޕ|0õ$^H|2ː|0«Ơõ|0õ$ޖʣȿ|0GõHIõ|0IõЯr¿|0r¿ЯGõ|0ݶ$I¶Y|2G¶Y|0Yݶ|08$I¶Y|2G¶Y|0bݺ|0Yݺ|0I֭ڋ|0G֭ڋ|0IU֭ڋ|0GU֭ڋ|0~INCOMPLETE ֬|0ִØ֬|0֬ర$r¿|0~DOUBLE-ENDED ङ|0M$~CONTOURED ~OUTLINE |0~INCREASES Σ|0~SHUFFLE ϊ|0Ʌ#:ʠі|5$ÿH|0ݳe:ʠі|0~GLEICH ~STARK |0~THERMODYNAMIC |0Ϗõ$I¶Y|3G¶Y|0YǺ$º=|1ώ|0bÀ$º=|0YÀ$º=|0ׇbM|1YM|1bǺ|1YǺ|1bÀ|1YÀ|0~RULE-DELAYED |0ˠ˓ǻ|0˓$ύ|0ˠ˓$íj|0ͼ˓|1ˠ˓|0U©|0ƶ©|0̖̌ƥÊ|0˔̖ƥÊ|0ڌ|0~MINY |0͒O^ǻ|2©ǻ|28ǻ|1̔ǻ$^|4©|1M̺ǻ|2̔ǻ|0Xʏ:ǻ|2Ĥǻ|0͒8ǻ|0~MODULO X׈|0ٵ$ˏ|0Цˏǻ|0~FINITE ोˏ|0ˏ$Uj|1~AVERAGE $ͫ|0~CIRCULATION ई|0̊ޗ|0ŕޗ$ઽڍौڎ|3ॊڍौڎ|2Ƙ~INCLUDING ȍڎ|0ˏौ6ʦǻ|0~QUATERNION ˏǻ|0ˏ$´=$v|28#|2̺|2̔|2ύ|2ː|0ޓ|0ĬIõǻ|0ģŞ्ज|3~PIPING |3~PROJECTION |0©#$%ÀH|3ŔƍH|3ÿH|3^[|3ÿ[|3ȧX|3Yõ|0̂#$ƯH|3^[|3ՌÕ|3΀Õ|0©#ƠI¶À|3G¶À|0~VECTOR Ĥǚϊ|0η#$^H|3ː|0ٻϊ$ȿȊ|0ಁϊ|0η#ƠI¶À|3G¶À|0Oη#$Ŕƍ|0η#ƠUÀ|0Oһ#|0©#Ơõ|0̂#Ơõ|0η#Ơõ|0ಂϊ|0~RIGHTHAND ಂϊ|0ģŞ~RELATIONAL ज|0~AMALGAMATION Ĥ఩|0̺$^|0̔$̂#|2ύ|0̺$ύ|2ʏ:|0̔$ʏĤ|1H̺|0̺H̔|0̔H¿H̺|0̺H¿H̔|0̔Я:ڀ$̔|0̺Я:ڀ$̺|0Ȋ̔$ޖ|1̺$ޖ|0UM̺|2̔|0Ȋ̔$ޖ:ಁϊ|0ʏ:$^H|1Ĥ$^H|0Uʏ:|2Ĥ|0Xಃʏ:|3Ĥ|0಄ĬĤ|2:|0ʏĤڏʏ:|1:$pЮ|1Ĥ$pЮ|1:$íȘ|1Ĥ$íȘ|1:$Uύ|3ː|3Uː|0%ӛ$ː|0ʏĤ$Uύ|4ː|0ģŞ~DOMAIN ಅ|2ڐಅ|0Ʌ#$^[|0ݳ$^H|0ƶí¿$Urj|4ƶrj|0ÿǻ$^H|3΀Õ|0ѡ̂ѡ|0~CONGRUENT $^H|0Ʌ$Ǿ|0͞ëe$Ŕƍ|0ַëĤëe|0Ʌ#H©#|0©#HɅ#|0Ʌ#Hÿǻ|0Uɠë|0XಆɅಇ|0cಆɅಇ|0Ʌ#$XÕH:XÕ[|0΍$oÕH|0Ƴ$À̡|0ƴ$À̡|0Ƴ$ʈLH|0ƴ$ʈLH|0ƳĤʠëe|0ƴĤʠëe|0ƳĤʠëe$^̡|0ƴĤʠëe$^̡|0ƳĤʠëe$^H|0ƴĤʠëe$^H|0ƳĤʠëe$^HG|0ƴĤʠëe$^HI|0ƳĤޘ|0ƴĤޘ|0Ƴ:׉Ƙëe|0ƴ:׉Ƙëe|0Ƴ:Ƙޘ|0ƴ:Ƙޘ|0ƳHѢëHƴ|0ƴHѢëHƳ|0ƳHѡĤë|0ƴHѡĤë|0ƳHѡHƴ|0ƴHѡHƳ|0ƳHƴHѢë|0ƴHƳHѢë|0ƳHʠëHƴHʠë|0ƴHʠëHƳHʠë|0ʠëeĤƳ|4ƴ|4Ƴ$^̡|4ƴ$^̡|0ѢëeĤƳ|4ƴ|1ʠëeĤƳ|5ƴ|0ѡĤƳ|2ƴ|1HƳHɅ#|2ƴHɅ#|0UڑƳ|2ƴ|2Ƴ$ː|0ƴڏƳ|1ЯƳ|0ƳȊϝȰ|0ƴȊϝȰ|0ƳȊϝȰHʠë|0ƴȊϝȰHʠë|0ಈ֏|0ಉ֏|0ಈ֏Ĥëe|0ಉ֏Ĥëe|0Ʌ#$~BUMPY H|0ϋH׉Ʌ#|0όH׉Ʌ#|0ϋH׉Ƙëe|0όH׉Ƙëe|0ϋHɅ#|0όHɅ#|0ϋHƘëe|0όHƘëe|0ϋH͞ëe|0όH͞ëe|0ϋHƘ͞ëe|0όHƘ͞ëe|0Uϋ|1ό|0ʽ$^|0ʾ$^|0ʽ$©#[|0ʾ$©#[|0ʽ$η#[|0ʾ$η#[|0ʽkĤëe$^H|0ʾkĤëe$^H|0ʽkHɅ#|0ʾkHɅ#|0ʽkHÿǻ|0ʾkHÿǻ|0ʽkH͞ëe|0ʾkH͞ëe|0ʽkHƘëe|0ʾkHƘëe|0MIù­ǻ|1Gù­ǻ|0Ȋʽ|1ʾ|1ʽĤëe|1ʾĤëe|0ʽHʾ|0ʾHʽ|0ʽHʽ|0ʾHʾ|1Яʽ|2:ڀϝȘ$ʽ|0ωkՎĀ|0ఱ$֢ǹ|0~TRANSVERSAL ̺|0~FORKING |0~NONFORKING |0ŻIɎ|1ºɎ|1¨Ɏ|0ॆ$«|0r¿ƶGӤ|0Ur¿IӤ|0r¿UIӤ|0Ur¿UIӤ|0òȘɊIݲkUr|0ŻºɎ$ύ|1¨Ɏ$ː|3HŻºɎ|0UºɎ|1¨Ɏ|1jƘ#|0ŀUjƘ#|0϶Ƙओ$ŀ~NEGATION ͫ|0rŕ$ÀH|4[|0ºɎ$À[|0і$íj|2ÿǻ|0ƶr¿ಊݵ|3$íj|1ɠǻ|1ڑƳ|2ƴ|0ѢʠƳĤëe|2ƴĤëe|0ƶ˓ಊݵ|0Ĭƶr¿ǻ|0U˓ǻ|0br¿|0͒br¿|0ąƦb=|1ǌb=|0ĺƦb=|1ǌb=|0IGb=|0´Y=|0ĄY=|0ĀY=|0ąƦY=|1ǌY=|0ĺƦY=|1ǌY=|0IGY=|0¨ºY=|0£=$̋Ā|4Ą|0´=$̋Ā|4Ą|0M$ǹ¶Y|2ȿ¶Y|2»Gă¶Y|2³Iă¶Y|0Ǻ$I¶Y|2G¶Y|2ǹ¶Y|2ȿ¶Y|0ȔM|0YĬM|0bĬM|0Yɳ%M|0bɳ%M|0Yڒ|0bڒ|1ॎ|0Yॎ|0íYॎ|0YĬÀ|1ýǺ|0býǺ|0Yýώ|0býώ|0Y%Ǻ|2ώ|0b%ώ|0Yíޙ|0bíޙ|0Yrޙ|0brޙ|0I=$%À|0c´͓|0I=$O©|0ò´ݰ=|0´̧=$rj|4Urj|3Ɋ¿|2ƶȘ=|1=$ȔЮ|3ư$rj|5Urj|1̧=$ư|5$rj|6Urj|1=ΐŃ|0ɤ=Ť౿I|0Ʌ#H´=|0ˠÿǻH´=|0´=Hˠ͞ëe|0£=ΐƴ|3ʾ|0´Ц=|0£Ц=|0ˠÿǻH£=|0£=Hˠ͞ëe|0ÿǻH´=|0´=H͞ëe|3ˠÿǻ|0£=Hˠÿǻ|0ĀşϢ=|0Żʠą=|1ॏĺ=|0býƷ|0Y%Ʒ|0b%Ʒ|0Y˔ڒ|0b˔ڒ|0nĬÀ|1ړ$ړ̡|1À$À̡|2|1OЫ|0ʠą=$׊ʛ|0ॏĺ=$׊ư|0ʠą=$íư|0ॏĺ=$íư|0ʆ=ŤĀҥąƦ|0Żʆ=ŤĀҥąƦ|0´ş=|0Ąş=|0£ş=|0Āş=|0IGş=|0¨ºş=|0ąǌş=|1Ʀş=|0ĺƦş=|1ǌş=|0´şψ=|0Ąşψ=|0£şψ=|0Āşψ=|0ͬşùÀ=|0̊şùÀ=|0´ş=e¿|0Ąş=e¿|0£ş=e¿|0Āş=e¿"

/-- Listed names, part 2. -/
def namesPart2 : String := "@2B76|0ąǌş=e¿|1Ʀş=e¿|0ĺƦş=e¿|1ǌş=e¿|0´ş=$Uíj|0Ąş=$Uíj|0£ş=$Uíj|0Āş=$Uíj|0íаҚ|0rаҚ|0´ş=Ø£ş=|0Ąş=´kĀş=|0£ş=Ø´ş=|0Āş=´kĄş=|0´şӣ͓|0Ąşӣ͓|0£şӣ͓|0Āşӣ͓|0´YOb=|0ĄYOb=|0£YOb=|0ĀYOb=|0̊şGڔ=|2ȿڔ=|2Iڔ=|2ǹڔ=|0ֻI|1G|0दI|1G|0oɁ͓ಋ̊|0£Y=|@2B97|0-Jݘ6~ELECTRONICS |0ׅु´˞ũ|1~RIGHT-LIGHTED Ą˞ũ|1ु£˞ũ|1~LEFT-LIGHTED Ā˞ũ|0Y´˞ũ|1Ą˞ũ|1£˞ũ|1Ā˞ũ|0Āş=$ò̋´|6£|0Ąş=$ò̋´|6£|0´ş=$ò̋Ą|0£ş=$ò̋Ą|0´ş=$ò̋Ā|0£ş=$ò̋Ā|0Y̖Ā:´=|4£=|2Ą:´=|4£=|2´:Ą=|2£:Ą=|2´:Ā=|2£:Ā=|0б=ºI|3G|2¨I|3G|2I¨|2G¨|2Iº|2Gº|0Ąb=Ɋ¿$í¿|0¨ũƠ6қ­|0ڏbޕ|2:Yޕ|1Yޕ|0ϑ­$ÃŃ|0OŃ|1;Ń|0YMѼ|1ǺѼ|0èYڒ|0íYಌ|0Yಌ|1ý͕õѼ|2ϏõѼ|2̌õѼ|2˔õѼ|0ౕ1X|0ǹ¶YÀ|0ȿ¶YÀ|0ÃoȽYޚ|0ơÃoȽYޚ|0boȽޚ|0ơboȽޚ|0Mֹɡ|0~UNCERTAINTY #|0तL|0څ1X|2c|2o|2x|0~TRANSPLUTO |0~PROSERPINA |0~ASTRAEA |0~HYGIEA |0~PHOLUS |0~NESSUS |0bʐ~SELENA |0YǺƊǚ|0घÃʐ~ARTA |0~CUPIDO |0~HADES |0~ZEUS |0~KRONOS |0~APOLLON |0~ADMETOS |0~VULCANUS |0~POSEIDON |0I¶YƷ|0G¶YƷ|0Ʒ$I¶Y|2G¶Y|0´̧=$õޛ|0Ą̧=$õޛ|0£̧=$õޛ|0Ā̧=$õޛ|0಍1S|2X|0~SEDNA |0׋҆-~VIGINTILE |3~NOVILE |3~QUINTILE |3~BINOVILE |3~SENTAGON |3~TREDECILE |0Ʌ#$֬[|0~UNITED -|0~SEPARATED -|0ظ-|0~PASSED -|0ŀGƥ|0~HELLSCHREIBER ~PAUSE -|0Ö'!ॐ|3॑|3॒|3॓|3॔|3ॕ|3ॖ|3ޜ|3ॗ|3׌|3y׌|3]|3क़|3ख़|3ग़|3ڕ|3ज़|3ड़|3ढ़|3फ़|3य़|3ॠ|3ॡ|3ॢ|3ॣ|3ಎ|3Ǹ|3।|3Ի|3ږ|3ů|3В|3ޝ|3॥|3ಏË|3Ȥ|3%ɲ|5$ư|3ɨ|3׍%ɲ|3ͼɲ|3׍ͼɲ|3Ԥ|3ց|3ಐ|3಑6|3ಒڕ|3ಓږ|1%!ॐ|3॑|3॒|3॓|3॔|3ॕ|3ॖ|3ޜ|3ॗ|3׌|3y׌|3]|3क़|3ख़|3ग़|3ڕ|3ज़|3ड़|3ढ़|3फ़|3य़|3ॠ|3ॡ|3ॢ|3ॣ|3ಎ|3Ǹ|3।|3Ի|3ږ|3ů|3В|3ޝ|3॥|3ಏË|3Ȥ|3%ɲ|5$ư|3ɨ|3׍%ɲ|3ͼɲ|3׍ͼɲ|3Ԥ|3ց|3ಐ|3಑6|3ಒڕ|3ಓږ|0)'!·$U¿|1%!·$U¿|1'!·$pÿ|3ł$j|3ª$ư|1%!6$j|3Č$ăj|1'!Ē$ȥ|1%!Ē$ȥ|1'!ď$ȥ|1%!ď$ȥ|1'!ģ$ȥ|1%!ģ$ȥ|1'!ź|3ø$v|3è6|4ź|1%!ē$Gv|1'!œ$v|1%!œ$v|3ē$˭|1'!¶Ē|1%!¶Ē|3~TAILLESS ˇ|3Z$హ|3èª$ư|3W$Ïç̡|1!%'èZ|1ȧ%!Ŝ|0`!'ē|0)'!«$շư|3ģ$շư|0¥'!ಔ|1%!ಔ|1'!ಕ|1%!ಕ|1'!ˬ|1%!ˬ|1'!ಖ|1%!ಖ|1'!ޞ|1%!ޞ|1'!ಗ|1%!ಗ|1'!ޟ|1%!ޟ|1'!ಘ|1%!ಘ|1'!ಙ|1%!ಙ|1'!ಚ|1%!ಚ|1'!ޠ|1%!ޠ|1'!ಛ|1%!ಛ|1'!ʂ|1%!ʂ|1'!ɑ|1%!ɑ|1'!۬|1%!۬|1'!W|1%!W|1'!Ǜ|1%!Ǜ|1'!ʨ|1%!ʨ|1'!०|1%!०|1'!̱|1%!̱|1'!֫|1%!֫|1'!М|1%!М|1'!ݓ|1%!ݓ|1'!͆|1%!͆|1'!ޡ|1%!ޡ|1'!ӷ¾|1%!ӷ¾|1'!F¥ȅ|1%!F¥ȅ|1'!ғޞ|1%!ғޞ|1'!ӷޠ|1%!ӷޠ|1'!ӷɑ|1%!ӷɑ|1'!ғɑ|1%!ғɑ|1'!F¥ޡ|1%!F¥ޡ|1'!չ|1%!չ|1'!ϒӂ|1%!ϒӂ|1'!F¥ӂ|1%!F¥ӂ|1'!F¥̛|1%!F¥̛|1'!ಜս|1%!ಜս|1'!ӷվ|1%!ӷվ|1'!F¥վ|1%!F¥վ|1'!F¥Ë|1%!F¥Ë|1'!ಝË|1%!ಝË|1'!F¥ಞ|1%!F¥ಞ|1'!F¥Տ|1%!F¥Տ|1'!F¥տ|1%!F¥տ|1'!F¥ಟ|1%!F¥ಟ|1'!F¥ԣ|1%!F¥ԣ|1'!FϿԣ|1%!FϿԣ|1'!FϿݑ|1%!FϿݑ|1'!FϿΦ|1%!FϿΦ|1'!FϿ१|1%!FϿ१|1-ջ|2ʂʨ|2Ǜʨ|2~STAUROS |2̱ʨ|2ݓʨ|2ԣ०|1'!ғӂ|1%!ғӂ|1'!ғտ|1%!ғտ|1AɑH|2ಠ~ASPER |3ಡ|1'!ಢս|1%!ಢս|@2CF9|0¥FϿǙŮ|3ञʈL|3~INDIRECT ʈL|3ࡓ׎|1ėS¶|1ǙŮ|1~MORPHOLOGICAL ׎|0®%!Ⱦ|3ܕ|3Դ|3ܖ|3ǃ|3ܗ|3ش|3ܘ|3Ơ|3֗|3ܙ|3˸|3و|3Ɗ|3ܚ|3ܛ|3֜|3ր|3Ե|3҉|3ܜ|3ܝ|3ܞ|3ى|3ɣ|3ܟ|3΃|3ي|3ܠ|3ܡ|3ܢ|3ܣ|3ܤ|3Ȝ|3ً|3ʷ|3֝|3ܥ|@2D27|0®%!֞|@2D2D|0®%!֟|@2D30|0ƺ!ú|2~YAB |2~YABH |2~YAG |2~YAGHH |2ಣತ२|2२|2~YAD |2~YADH |2~YADD |2~YADDH |2~YEY |2~YAF |2ࡿ|2Ӹࡿ|2~YAKHH |2ޢ|2ಣತޢ|2Ӹޢ|2~YAHH |2֊|2ಥ|2Ӹಥ|2ದ|2Ӹದ|2+|2३|2~AHAGGAR ३|2Ӹ३|2~YAL |2ಧ|2௖|2Ӹ~YAGN |3ϡ|2ನ|2Ȥ|2କ|2~YARR |2४|2Ӹ४|2~AYER ४|2~YAS |2~YASS |2~YASH |2Ѿ|2~YATH |2~YACH |2~YATT |2~YAV |2~YAW |2௑|2಩|2~TAWELLEMET ಩|2~YAZZ |2ͪ|2ɨ|@2D6F|0ƺ`!~LABIALIZATION L|1əL|@2D7F|0ƺĸԢ|0D&~LOA |2~MOA |2~ROA |2~SOA |2~SHOA |2~BOA |2~TOA |2~COA |2~NOA |2~NYOA |2ɍ٥|2~ZOA |2~DOA |2~DDOA |2~JOA |2~THOA |2~CHOA |2~PHOA |2~POA |2~GGWA |2~GGWI |2~GGWEE |2~GGWE |@2DA0|0D&Ȟ|2५|2६|2~SSAA |2~SSEE |2ಪ|2ࣤ|@2DA8|0D&~CCA |2~CCU |2~CCI |2~CCAA |2~CCEE |2~CCE |2~CCO |@2DB0|0D&ޣ|2ಫ|2ಬ|2~ZZAA |2~ZZEE |2ಭ|2ಮ|@2DB8|0D&~CCHA |2~CCHU |2~CCHI |2~CCHAA |2~CCHEE |2७|2~CCHO |@2DC0|0D&~QYA |2~QYU |2~QYI |2~QYAA |2~QYEE |2~QYE |2~QYO |@2DC8|0D&८|2~KYU |2~KYI |2~KYAA |2ޤ|2~KYE |2~KYO |@2DD0|0D&ಯ|2~XYU |2~XYI |2~XYAA |2~XYEE |2ರ|2~XYO |@2DD8|0D&~GYA |2~GYU |2~GYI |2~GYAA |2~GYEE |2~GYE |2~GYO |@2DE0|0AK!ͺ|3͈|3̲|3˯|3͟|3˰|3¢|3ˢ|3̳|3ǃ|3W|3Ǹ|3ͻ|3Б|3ȼ|3Ë|3Μ|3˕|3ů|3࠾|3Ԥ|3~ES-TE |36|3͇|3९|3॰ւ|3Ѿ|3Ȥ|3͠6|3Ɓɲ|3ͼɲ|3͠ͼɲ|0Gƥ׏ӈ|2Ȕ׏ӈ|0I׏Ê|0G׏Ê|0IȔ׏Ê|0GȔ׏Ê|0ɗಱӈ|1Ȕಱӈ|0Ȕॱӈ|0IॱÊ|0GॱÊ|0ɗM|0IɗಲÊ|0GɗಲÊ|0~EDITORIAL ~CORONIS |0ॲ|0ಳॲ|0ŀಳॲ|0~HYPODIASTOLE |0Ȕ~OBELOS |0Ā಴|0Ą಴|0Ȕ˔ƥ|0U͋Ϝ|0Ɩٱ|0אध|0Ϝ$Ũ|0ÿ$çH|0IÏವÊ|0GÏವÊ|0ÿ$^H|3[|0Ir¿$ݫ|0Gr¿$ݫ|0ǹI¶Ê|1G¶Ê|0ȿI¶Ê|1G¶Ê|0I̢PÊ|0G̢PÊ|0IUǽ|0GUǽ|0XÕØS^č|0S^ØXÕč|0¬o^č|0x^L|0ŀʈL|0rÿ|0çʦ|0ˣəp^|0èƯ|0ɗ^|1Ư|0èϛ|0Ղ$Iಶ|2Gಶ|0èՂ|0ǹ¶Ȳ#|0~TWO-EM Ș|0~THREE-EM Ș|0~STENOGRAPHIC ǙŮ|0r½Õ|0֭rŕ|0~CAPITULUM |0UϜ|0ŀƯ|0U~LOW-REVERSED-9 ɾL|0Ș$I࠿|0UःL|0ƖÏҔ|3$ҔH|0ÏҔ|2$^|0U~STACKED Ư|0Ȕ˓|0ƶՂ|0ॳƯ|0~PARAGRAPHUS L|0~PUNCTUS ~ELEVATUS L|0~CORNISH ࡓ׎|0ǚಷ$Gಸ|3Iಸ|0఑#'κ|0ॳʴL|1ʈL|0IMÊ$j|0GMÊ$j|0IMÊ$Uj|0GMÊ$Uj|0ǹ¶Iǽ|2Gǽ|0ȿ¶Iǽ|2Gǽ|0͋Ϝ|@2E80|0zRҦ|2ॴ|2ҧS|3X|3c|2˻|2­|2ॵ|2בS|3X|2ಹ|2ॶ|2%S|3X|2ڗS|3X|3c|3o|2ݧ|2ॷ|2ॸS|3X|2ʅS|3X|2ɴ|2ॹ|@2E9B|0zR~CHOKE |2ͮ|2ʐ|2಺|2಻|2~CIVILIAN |2ίS|3X|2Ь|2ॺS|3X|2ژ¶ѣ಼|2ڙ|2ג|2ಽ|2ॻkॼ|2ћ|2ޥS|3X|2ॽ|2ॾ|2˽ॾ|2דS|3X|3c|3o|2ಾ|2ॿ|2ަ|2ಿ|2F|2הS|3X|2ާ|2ೀ|2ިS|3X|3c|2ީ|2ঀ|2ǌS|3X|2˽Զ|2ژɖ|2ɖ|2˽Ր|3ɩ|2ݾ|2˽ು|2ژښ|2ښS|3X|2ೂ|2˽ު|2òS|3X|2˽ò|3ೃ|2ঁS|3X|2Ո|2ӹ|2˽ೄং|3˾|3Э|3ঃ|2וS|3X|3c|2˽ו|2ʛ|2˽Ҩ|2ޫ|2঄|2˽Ѡ|3ެ|3Ѥ|2ژঅ|3ڛ|2˽আ|2ޭ֒|2˽֒|2ޭޮ|2˽ޮ|2ޭӺ|2˽Ӻ|2ڜ|2ޭڜ|2˽ڜ|@2F00|0sRS|2ŕ|2^|2ͫ|2ҧ|2v|2X|2೅|2˸|2~LEGS |2స|2¼|2º­|2ই|2Ӳ|2ॵ|2ù­|2ב|2ּ|2~WRAP |2ঈ|2Gù­|2~HIDING উ|2ō|2ಹ|2ॶ|2ॴ|2ڝ|2~AGAIN |2ǭ|2উ|2ͭ|2~SCHOLAR |2Υ|3~SLOWLY |2~EVENING |2ͼ|2ӻ|2ঊ|2~ROOF |2~INCH |2%|2ڗ|2~CORPSE |2~SPROUT |2Ӯ|2~RIVER |2ঋ|2~ONESELF |2ೆ|2ঌ|2Żॷ|2Ȕॴ|2ò~STRIDE |2Xҩ|2~SHOOT |2׀|2ॸ|2~BRISTLE |2঍|2ʅ|2~HALBERD |2ೇ|2ɴ|2ध|2ॹ|2å|2~DIPPER |2঎|2M|2Ƙ|2ͮ|2௏|2ʐ|2ѣ|2~LACK |2Ů|2಺|2~WEAPON |2̑Ƙ|2~COMPARE |2ೈ|2̗|2೉|2ί|2Ь|2~CLAW |2ೊ|2UŃ|2¶ѣ಼|2ೋ|2~FANG |2ڙ|2ג|2~PROFOUND |2ಽ|2ೌ|2Å|2್|2~LIFE |2এ|2೎|2ॻkॼ|2~SICKNESS |2Ȕऻ|2b|2~SKIN |2˨|2ћ|2೏|2=|2ঐ|2ޥ|2೐|2~GRAIN |2~CAVE |2~STAND |2ॽ|2ז|2ॾ|2೑|2ד|2ॿ|2ݕ|2F|2:|2~PLOW |2Հ|2ה|2ާ|2~MINISTER |2೒|2~ARRIVE |2ೀ|2͗|2~OPPOSE |2೓|2~STOPPING |2~COLOR |2ި|2ީ|2~INSECT |2೔|2ښউ|2ঀ|2ǌ|2Զ|2ɖ|2Ր|2~VALLEY |2~BEAN |2ޯ|2ೕ|2ɩ|2̨|2~RUN |2ݾ|2ೖ|2ು|2~BITTER |2~MORNING |2ښ|2ೂ|2ް|2~DISTINGUISH |2~VILLAGE |2ު|2ò|2ೃ|2ঁ|2~SLAVE |2ŻͰެ|2Ո|2ӹ|2~WRONG |2²|2ং|2ೄং|2~LEEK |2͑|2˾|2Э|2ঃ|2ו|2ʛ|2~FRAGRANT |2Ҩ|2ޫ|2֙|2Ձ|2~FIGHT |2~SACRIFICIAL ް|2೗|2঄|2Ѡ|2ެ|2Ѥ|2঑|2অ|2~HEMP |2ڛ|2~MILLET |2Y|2~EMBROIDERY |2আ|2~TRIPOD |2ח|2ޱ|2в|2֒|2ޮ|2Ӻ|2ڜ|2೘|@2FF0|0æЀċIeG|3He[|3Iep:G|3Hep:[|3ǙՑ|3ՑɊH|5[|5I|5»I|6G|5³I|3঒|@3000|0æ˫|1Ư|1ǙŮ|0~DITTO L|0ӳ~INDUSTRIAL ೙-|0æѥL|1ـL|1?ĩ|0IƥÊ|0GƥÊ|0IUƥÊ|0GUƥÊ|0IɁÊ|0GɁÊ|0IbɁÊ|0GbɁÊ|0IYҪÊ|0GYҪÊ|0޲L|0~GETA L|0IʿɩÊ|0GʿɩÊ|0IbҪÊ|0GbҪÊ|0IbʿɩÊ|0GbʿɩÊ|0IbMÊ|0GbMÊ|0ɤȘ|0ŀUϠɾL|0UϠɾL|0ÏUϠɾL|0޲L²|0ЁţS|2X|2c|2o|2x|2½|2È|2¼|2Î|0æ೚ÐL|1΀ÐL|1࠷ÐL|1~ENTERING ÐL|0>Ņ^ÐL|1U^ÐL|0ЗȘ|0rڞҦL|3$о͑L|3L»¶|3$о͑L»¶|3L³¶|0O޲L|0æƋŕֽə-|0Ёţō|2ǫ|2ʃ|0ræѥL|0~MASU L|0ो~ALTERNATION L|0æfɡ|1¶̼˫|@3041|0Ħ!%6|26|2%]|2]|2%P|2P|2%Z|2Z|2%W|2W|2¢|2Ď|2˚|2ˌ|2˷|2͎|2̇|2ё|2ˋ|2Υ|2ā|2ǣ|2˙|2С|2˶|2Ϯ|2˺|2˰|2ʧ|2Ϩ|2ü|2ć|2̣|2̦|2%ˍ|2ˍ|2̥|2ȼ|2˯|2e|2̑|2ö|2ɑ|2ɥ|2ɒ|2ȟ|2Ë|2ī|2Þ|2ɀ|2̤|2Ǜ|2Ω|2ʺ|2σ|2Ȝ|2ͺ|2Ǹ|2ʥ|2ϫ|2̴|2ð|2ʂ|2ȣ|2ɛ|2˴|2%ú|2ú|2%Ȥ|2Ȥ|2%ɨ|2ɨ|2â|2͍|2˥|2̶|2ʨ|2%Ŷ|2Ŷ|2˹|2ʷ|2˘|2à|2Է|2%¢|3̇|@3099|0AՒо͑L|2ও͑L|0Ւо͑L|1ও͑L|0ĦѥL|1оѥL|1ɱ~YORI |0ՒUϜ|0l!%6|26|2%]|2]|2%P|2P|2%Z|2Z|2%W|2W|2¢|2Ď|2˚|2ˌ|2˷|2͎|2̇|2ё|2ˋ|2Υ|2ā|2ǣ|2˙|2С|2˶|2Ϯ|2˺|2˰|2ʧ|2Ϩ|2ü|2ć|2̣|2̦|2%ˍ|2ˍ|2̥|2ȼ|2˯|2e|2̑|2ö|2ɑ|2ɥ|2ɒ|2ȟ|2Ë|2ī|2Þ|2ɀ|2̤|2Ǜ|2Ω|2ʺ|2σ|2Ȝ|2ͺ|2Ǹ|2ʥ|2ϫ|2̴|2ð|2ʂ|2ȣ|2ɛ|2˴|2%ú|2ú|2%Ȥ|2Ȥ|2%ɨ|2ɨ|2â|2͍|2˥|2̶|2ʨ|2%Ŷ|2Ŷ|2˹|2ʷ|2˘|2à|2Է|2%¢|3̇|2ǋ|2Ҏ|2͈|2ф|1p^|0Ւ೛͑L|0lѥL|1оѥL|1ɱ೜|@3105|0Ŭ!a|2ł|2ø|2Ź|2ě|2Č|2à|2·|2ĉ|2ď|2Ē|2Ŝ|2Ƶ|2Ń|2~ZH |2ೝ|2Ծ|2ª|2ģ|2ļ|2«|26|2W|2Z|2у|2Ŗ|2҅|2ū|2Ҽ|2Ⱦ|2ǃ|2ο|2Ϟ|2ͻ|2]|2P|2ڟ|2ē|2˱|2~GN |2ँ|2W$^H|2ؽ|@3131|0>!ӏ|2ܦ|2ࢠ|2Ӑ|2ܭ|2ܮ|2ӑ|2ܧ|2Ӓ|2ܯ|2ܰ|2ܱ|2ܲ|2ࢡ|2ࢢ|2ܫ|2ӓ|2Ӕ|2ܨ|2ܬ|2ӕ|2ܩ|2Ҋ|2ҋ|2ܪ|2Ӗ|2ӗ|2Ә|2ә|2Ӛ|26|2ɢ|2ú|2؛|2ٌ|2Z|2࢝|2ͪ|2W|2Ŷ|2࢞|2ȉ|2ɨ|2P|2࢟|2ʷ|2˹|2Ȥ|2҇|2+|2]|1Ҍ|1!ࢋ|2ࢌ|2࢜|2ୁ|2ୂ|2ࢣ|2ୃ|2୅|2େ|2ࢍ|2ࢤ|2୉|2ࢎ|2଩|2࢏|2ପ|2࢐|2࢑|2ବ|2࢒|2ମ|2࢓|2ଯ|2࢔|2࢕|2࢖|2ࢗ|2࢘|2࢙|2ୋ|2ୌ|2࢚|2ଷ|2࢛|2଺|2଻|2଼|2ଽ|2ା|2ି|2ୀ|2~ARAEAE |@3190|0æ̩~LINKING L|2ˠL|2SL|2XL|2cL|2oL|2ǹL|2pL|2ȿL|2ҕL|2ҧL|2χL|2۹L|2އL|2ͭL|2˸L|0Ŭ!ʺ|2С|2Ӝ|2͎|2Ȗ|2ঔ|2ǲ|2ூ|2٬|2~ANN |2~INN |2ఁ|2Α|2~NGG |2~AINN |2~AUNN |2ч|2μ|2ೞ|2~INNN |1T!ł|3Č|3ď|3Ē|1!~GH |2࣠|2೟|1T!ĉ|1!~GW |2࣎|2ȉ|2ϩ|0zjČ|2~WG |2~XG |2~BXG |2ட|2~HZZ |2~HZG |2޳|2~HZWG |2~SZWG |2~HZT |2~HZZP |2~HPWG |2~HZW |2~HZZZ |2à|2Ē|2«|2ł|2ೠ|2ě|2ೡ|2ೢ|2~SZ |2~SWZ |2޴|2~SG |2~PD |2~PZ |2~TN |2~SZZ |2~SWG |2~HXWG |2~HZZZG |2~PG |2Ƶ|@31F0|0l!%˷|3˙|3˶|3e|3ɥ|3Ë|3ɀ|3Ω|3Ȝ|3ʥ|3ȣ|3â|3͍|3˥|3̶|3ʨ|0Í>ӏ|2Ӑ|2ӑ|2Ӓ|2ӓ|2Ӕ|2ӕ|2Ҋ|2ҋ|2Ӗ|2ӗ|2Ә|2ә|2Ӛ|2ӏ6|2Ӑ6|2ӑ6|2Ӓ6|2ӓ6|2Ӕ6|2ӕ6|2Ҋ6|2ҋ6|2Ӗ6|2ӗ6|2Ә6|2ә6|2Ӛ6|2ҋP|1ڠċ~OJEON |3WΩ|@3220|0ÍıS|2X|2c|2o|2x|2½|2È|2¼|2Î|2ō|2ʐ|2Ь|2ί|2ক|2ೣ|2ͭ|2ͮ|2খ|2೤|2೥|2Ӽ|2೦|2೧|2೨|2೩|2~REPRESENT |2গ|2೪|2೫|2೬|2೭|2೮|2~FESTIVAL |2̿|2೒|2೯|0Oıʈ|2~KINDERGARTEN |2ঘ|2೜|1?ōƊYM|2ǫƊYM|2ʃƊYM|2ʩƊYM|2ɓƊYM|2͏ƊYM|2ɜƊYM|2·ƊYM|0ౢ#|0O?ǫS|3X|3c|3o|3x|3½|3È|3¼|3Î|2ʃ|3S|3X|3c|3o|3x|1>ӏ|2Ӑ|2ӑ|2Ӓ|2ӓ|2Ӕ|2ӕ|2Ҋ|2ҋ|2Ӗ|2ӗ|2Ә|2ә|2Ӛ|2ӏ6|2Ӑ6|2ӑ6|2Ӓ6|2ӓ6|2Ӕ6|2ӕ6|2Ҋ6|2ҋ6|2Ӗ6|2ӗ6|2Ә6|2ә6|2Ӛ6|1ڠċ~CHAMKO |3~JUEUI |1>ҊP|0ڠ೙-|0OıS|2X|2c|2o|2x|2½|2È|2¼|2Î|2ō|2ʐ|2Ь|2ί|2ক|2ೣ|2ͭ|2ͮ|2খ|2೤|2೥|2Ӽ|2೦|2೧|2೨|2೩|2~SECRET |2ѝ|2׃|2~SUITABLE |2~EXCELLENT |2఼|2~ATTENTION |2~ITEM |2̿|2~COPY |2~CORRECT |2Ó|2ƙ|2Ï|2I|2G|2~MEDICINE |2~RELIGION |2೪|2೫|2೬|2೭|2೮|2޵|1?ʃ½|3È|3¼|3Î|2ʩ|3S|3X|3c|3o|3x|3½|3È|3¼|3Î|2ɓ|0æƋ-J~JANUARY |4~FEBRUARY |4~MARCH |4~APRIL |4௎|4~JUNE |4~JULY |4~AUGUST |4~SEPTEMBER |4~OCTOBER |4~NOVEMBER |4~DECEMBER |0Mೢ|1~ERG |1ঙ|0~LIMITED ~LIABILITY #|0Ol6|2]|2P|2Z|2W|2¢|2˚|2˷|2̇|2ˋ|2ā|2˙|2˶|2˺|2ʧ|2ü|2̣|2ˍ|2ȼ|2e|2ö|2ɑ|2ɥ|2ɒ|2ȟ|2Ë|2ɀ|2Ω|2Ȝ|2ʥ|2ð|2ʂ|2ȣ|2ɛ|2˴|2ú|2Ȥ|2ɨ|2â|2͍|2˥|2̶|2ʨ|2Ŷ|2˹|2ʷ|2˘|0MڡӼ~REIWA |1~APAATO |1~ARUHUA |1~ANPEA |1~AARU |1~ININGU |1~INTI |1~UON |1~ESUKUUDO |1~EEKAA |1~ONSU |1~OOMU |1~KAIRI |1~KARATTO |1~KARORII |1~GARON |1~GANMA |1~GIGA |1~GINII |1~KYURII |1~GIRUDAA |1~KIRO |1~KIROGURAMU |1~KIROMEETORU |1~KIROWATTO |1~GURAMU |1~GURAMUTON |1~KURUZEIRO |1~KUROONE |1~KEESU |1~KORUNA |1~KOOPO |1~SAIKURU |1~SANTIIMU |1~SIRINGU |1~SENTI |1~SENTO |1~DAASU |1~DESI |1~DORU |1~TON |1~NANO |1~NOTTO |1~HAITU |1~PAASENTO |1~PAATU |1~BAARERU |1~PIASUTORU |1~PIKURU |1~PIKO |1~BIRU |1~HUARADDO |1~HUIITO |1~BUSSYERU |1~HURAN |1~HEKUTAARU |1ట|1~PENIHI |1~HERUTU |1~PENSU |1~PEEZI |1~BEETA |1~POINTO |1~BORUTO |1চ|1~PONDO |1~HOORU |1~HOON |1~MAIKURO |1~MAIRU |1~MAHHA |1~MARUKU |1~MANSYON |1~MIKURON |1~MIRI |1~MIRIBAARU |1ছ|1~MEGATON |1~MEETORU |1~YAADO |1~YAARU |1~YUAN |1~RITTORU |1~RIRA |1~RUPII |1~RUUBURU |1~REMU |1~RENTOGEN |1~WATTO |0æƋ-Jˀĩ|5S|5X|5c|5o|5x|5½|5È|5¼|5Î|5ō|5ϵ|5Ό|5ө|5Ӫ|5Ш|5ш|5ӫ|5Ҟ|5Ӭ|5ǫ|5೰|5জ|5ೱ|5ೲ|0M~HPA |1ć|1ū|1¿|1ం|1~PC |1ঝ|2¬|2ڢ|1ڟ|1ڡӼ~HEISEI |3~SYOUWA |3~TAISYOU |3~MEIZI |1~CORPORATION |1Þ~AMPS |1ö|1ȣ6|1ð|1¢|1~KB |1ঞ|1~GB |1~CAL |1~KCAL |1~PF |1~NF |1ȣŹ|2ĉ|1~MG |1ೳ|1ೡ|1~KHZ |1~MHZ |1~GHZ |1~THZ |1ȣ·|1~ML |1~DL |1~KL |1~FM |1~NM |1ȣø|1޶|1ট|1޷|1޶¬|1ট¬|1ø¬|1޷¬|1޶ڢ|1টڢ|1øڢ|1޷ڢ|1øØ«|4¬|1Þ|1ڣ|1௣|1~GPA |1ݗ|2Ø«|4¬|1~PS |1~NS |1ȣ«|1~MS |1~PV |1ࣁ|1ȣē|1ٖ|1~KV |1ٖছ|1~PW |1~NW |1ȣœ|1ঠ|1࣎|1ঠছ|1ďݭ|1øݭ|1ч|1~BQ |1೴|1೵|1ļØೳ|1Ϥ|1ઃ|1~GY |1Ë|1޳|1Ơ|1ݔ|1޷'|1~KT |1~LM |1~LN |1~LOG |1~LX |1ঞ%|1~MIL |1~MOL |1~PH |1೶|1~PPM |1~PR |1~SR |1ࣄ|1~WB |1ēØø|16Øø|0æƋ-JɧS|5X|5c|5o|5x|5½|5È|5¼|5Î|5ō|5ϵ|5Ό|5ө|5Ӫ|5Ш|5ш|5ӫ|5Ҟ|5Ӭ|5ǫ|5೰|5জ|5ೱ|5ೲ|5޸|5~TWENTY-SIX |5~TWENTY-SEVEN |5~TWENTY-EIGHT |5~TWENTY-NINE |5ʃ|5~THIRTY-ONE |0Mҫ|@4DC0|0ƣJȍ~CREATIVE އ|3~RECEPTIVE ͭ|2~DIFFICULTY ʣȍ~BEGINNING |2~YOUTHFUL ~FOLLY |2ড|2~CONFLICT |2ȍ~ARMY |2ט޹|2%೷|2~TREADING |2भ|2~STANDSTILL |2~FELLOWSHIP |2֚೸|2~MODESTY |2~ENTHUSIASM |2೹|2ঋƊȍ~DECAYED |2~APPROACH |2~CONTEMPLATION |2೺ΐ|2ঢ|2~SPLITTING ~APART |2ֻ|2~INNOCENCE |2֚೷|2ǭׁ|2֚೻|2ȍ~ABYSMAL ί|3~CLINGING Ь|2~INFLUENCE |2~DURATION |2~RETREAT |2ּ֚|2~PROGRESS |2೼kȍÃ|2ȍ೽|2प|2~OBSTRUCTION |2~DELIVERANCE |2೾|2ণ|2~BREAKTHROUGH |2~COMING e೿|2ত޹|2~PUSHING ఢ|2~OPPRESSION |2ȍ~WELL |2~REVOLUTION |2ȍ೗|3~AROUSING म|3ഀ~STILL Ӯ|2~DEVELOPMENT |2ȍ~MARRYING ~MAIDEN |2~ABUNDANCE |2ȍ~WANDERER |3~GENTLE Э|3~JOYOUS ౓|2~DISPERSION |2~LIMITATION |2ഁ~TRUTH |2%೻|2~AFTER থ|2~BEFORE থ|@A000|0+&ࡥ|2ം|2]|2~IP |2~IET |2~IEX |2͇|2~IEP |2ʣ|2ഃ|26|2૘|2~UOX |2ഄ|2~UOP |2ۭ|2޺|2W|2দ|2޻|2Z|2Р|2ૐ|2~BIX |2̤|2~BIP |2~BIET |2~BIEX |2~BIE |2~BIEP |2ধ|2~BAX |2ī|2~BAP |2~BUOX |2~BUO |2~BUOP |2~BOT |2­|2ϫ|2~BOP |2~BEX |2ͺ|2~BEP |2ї|2~BUX |2ʺ|2~BUP |2~BURX |2г|2~BYT |2~BYX |2ϝ|2~BYP |2~BYRX |2~BYR |2അ|2~PIX |2Ǜ|2ആ|2~PIEX |2ഇ|2~PIEP |2~PAT |2~PAX |2Þ|2̀|2~PUOX |2~PUO |2~PUOP |2޼|2~POX |2̴|2अ|2ন|2~PUX |2σ|2ഈ|2~PURX |2~PUR |2ഉ|2~PYX |2~PY |2~PYP |2~PYRX |2~PYR |2~BBIT |2~BBIX |2ഊ|2~BBIP |2~BBIET |2~BBIEX |2~BBIE |2~BBIEP |2~BBAT |2~BBAX |2ԭ|2~BBAP |2~BBUOX |2~BBUO |2~BBUOP |2~BBOT |2~BBOX |2ഋ|2~BBOP |2~BBEX |2م|2~BBEP |2ഌ|2~BBUX |2഍|2~BBUP |2~BBURX |2~BBUR |2~BBYT |2~BBYX |2~BBY |2~BBYP |2~NBIT |2~NBIX |2~NBI |2~NBIP |2~NBIEX |2എ|2~NBIEP |2~NBAT |2~NBAX |2~NBA |2~NBAP |2~NBOT |2~NBOX |2~NBO |2~NBOP |2~NBUT |2~NBUX |2~NBU |2~NBUP |2~NBURX |2~NBUR |2~NBYT |2~NBYX |2~NBY |2~NBYP |2~NBYRX |2~NBYR |2~HMIT |2~HMIX |2~HMI |2~HMIP |2~HMIEX |2~HMIE |2~HMIEP |2~HMAT |2~HMAX |2~HMA |2~HMAP |2~HMUOX |2~HMUO |2~HMUOP |2~HMOT |2~HMOX |2ഏ|2~HMOP |2~HMUT |2~HMUX |2~HMU |2~HMUP |2~HMURX |2~HMUR |2~HMYX |2~HMY |2~HMYP |2~HMYRX |2~HMYR |2঩|2~MIX |2ʂ|2~MIP |2~MIEX |2~MIE |2~MIEP |2~MAT |2~MAX |2ð|2ډ|2~MUOT |2~MUOX |2~MUO |2~MUOP |2~MOT |2~MOX |2˴|2ഐ|2~MEX |2ɛ|2~MUT |2~MUX |2ȣ|2~MUP |2~MURX |2~MUR |2~MYT |2~MYX |2഑|2~MYP |2~FIT |2~FIX |2М|2~FIP |2~FAT |2প|2ȝ|2~FAP |2ഒ|2ξ|2~FOP |2~FUT |2~FUX |2Ґ|2~FUP |2~FURX |2ೈ|2~FYT |2~FYX |2~FY |2~FYP |2~VIT |2~VIX |2Ҏ|2~VIP |2ŷ|2~VIEX |2~VIE |2~VIEP |2~VAT |2~VAX |2ǋ|2~VAP |2~VOT |2~VOX |2ф|2~VOP |2~VEX |2ഓ|2~VUT |2~VUX |2Է|2~VUP |2~VURX |2ഔ|2~VYT |2~VYX |2ফ|2~VYP |2~VYRX |2~VYR |2~DIT |2~DIX |2̦|2~DIP |2~DIEX |2ӯ|2~DIEP |2ക|2~DAX |2ć|2ࣴ|2~DUOX |2~DUO |2^|2~DOX |2̑|2~DOP |2~DEX |2˯|2~DEP |2~DUT |2~DUX |2̥|2~DUP |2~DURX |2~DUR |2૑|2~TIX |2̣|2̋|2~TIEX |2ִ|2~TIEP |2ഖ|2~TAX |2ü|2~TAP |2ഗ|2~TUOX |2~TUO |2~TUOP |2ഘ|2~TOX |2e|2ǹ|2~TEX |2ȼ|2~TEP |2~TUT |2~TUX |2ˍ|2ങ|2~TURX |2י|2~DDIT |2~DDIX |2ଡ଼|2~DDIP |2~DDIEX |2~DDIE |2~DDIEP |2~DDAT |2~DDAX |2Ǧ|2~DDAP |2~DDUOX |2~DDUO |2~DDUOP |2~DDOT |2~DDOX |2ࢸ|2~DDOP |2~DDEX |2୞|2~DDEP |2~DDUT |2~DDUX |2୛|2~DDUP |2~DDURX |2ച|2~NDIT |2~NDIX |2ব|2~NDIP |2~NDIEX |2~NDIE |2~NDAT |2~NDAX |2֯|2ভ|2~NDOT |2~NDOX |2ম|2~NDOP |2~NDEX |2޽|2~NDEP |2~NDUT |2~NDUX |2޾|2~NDUP |2~NDURX |2~NDUR |2~HNIT |2~HNIX |2~HNI |2~HNIP |2~HNIET |2~HNIEX |2~HNIE |2~HNIEP |2~HNAT |2~HNAX |2ࢿ|2~HNAP |2~HNUOX |2~HNUO |2~HNOT |2~HNOX |2~HNOP |2~HNEX |2~HNE |2~HNEP |2~HNUT |2~NIT |2~NIX |2ɑ|2~NIP |2~NIEX |2~NIE |2~NIEP |2~NAX |2ö|2~NAP |2~NUOX |2~NUO |2~NUOP |2Ƙ|2~NOX |2ȟ|2~NOP |2~NEX |2ɒ|2~NEP |2ഛ|2~NUX |2ɥ|2~NUP |2~NURX |2~NUR |2~HLIT |2~HLIX |2য|2~HLIP |2~HLIEX |2~HLIE |2~HLIEP |2~HLAT |2~HLAX |2௽|2~HLAP |2~HLUOX |2~HLUO |2~HLUOP |2~HLOX |2~HLO |2~HLOP |2~HLEX |2~HLE |2~HLEP |2~HLUT |2~HLUX |2~HLU |2~HLUP |2~HLURX |2~HLUR |2~HLYT |2~HLYX |2~HLY |2~HLYP |2~HLYRX |2~HLYR |2~LIT |2~LIX |2Ɯ|2޿|2~LIET |2~LIEX |2ജ|2~LIEP |2~LAT |2~LAX |2ô|2র|2~LUOT |2~LUOX |2~LUO |2~LUOP |2~LOT |2~LOX |2̆|2~LOP |2~LEX |2Ǫ|2~LEP |2~LUT |2~LUX |2ʹ|2~LUP |2~LURX |2~LUR |2~LYT |2~LYX |2ࣥ|2~LYP |2~LYRX |2ഝ|2~GIT |2~GIX |2ˌ|2~GIP |2~GIET |2~GIEX |2~GIE |2~GIEP |2~GAT |2~GAX |2Ď|2ך|2~GUOT |2~GUOX |2~GUO |2~GUOP |2ഞ|2~GOX |2Υ|2~GOP |2~GET |2~GEX |2ё|2ട|2~GUT |2~GUX |2͎|2~GUP |2~GURX |2߀|2ഠ|2~KIX |2˚|2ఞ|2~KIEX |2~KIE |2~KIEP |2~KAT |2~KAX |2¢|2ഡ|2~KUOX |2~KUO |2঱|2~KOT |2~KOX |2ˋ|2~KOP |2Փ|2~KEX |2̇|2~KEP |2߁|2~KUX |2˷|2~KUP |2~KURX |2̪|2~GGIT |2~GGIX |2୦|2~GGIEX |2~GGIE |2~GGIEP |2~GGAT |2~GGAX |2֍|2~GGAP |2~GGUOT |2~GGUOX |2ഢ|2~GGUOP |2~GGOT |2~GGOX |2୧|2ണ|2~GGET |2~GGEX |2ࢹ|2~GGEP |2~GGUT |2~GGUX |2୥|2~GGUP |2~GGURX |2~GGUR |2~MGIEX |2~MGIE |2~MGAT |2~MGAX |2~MGA |2~MGAP |2~MGUOX |2~MGUO |2~MGUOP |2~MGOT |2~MGOX |2ͨ|2~MGOP |2~MGEX |2~MGE |2~MGEP |2~MGUT |2~MGUX |2~MGU |2~MGUP |2~MGURX |2~MGUR |2ത|2~HXIX |2~HXI |2~HXIP |2~HXIET |2~HXIEX |2~HXIE |2~HXIEP |2~HXAT |2~HXAX |2~HXA |2~HXAP |2~HXUOT |2~HXUOX |2ഥ|2~HXUOP |2~HXOT |2~HXOX |2~HXO |2ദ|2~HXEX |2~HXE |2~HXEP |2~NGIEX |2~NGIE |2~NGIEP |2~NGAT |2~NGAX |2Ū|2~NGAP |2~NGUOT |2~NGUOX |2~NGUO |2~NGOT |2~NGOX |2Ա|2ധ|2~NGEX |2ന|2~NGEP |2ഩ|2~HIEX |2ً|2Տ|2~HAX |2Ë|2~HAP |2~HUOT |2~HUOX |2~HUO |2~HUOP |2ڄ|2~HOX |2ʥ|2പ|2~HEX |2Ȝ|2~HEP |2~WAT |2ഫ|2Ŷ|2ബ|2~WUOX |2ഭ|2~WUOP |2~WOX |2˘|2~WOP |2~WEX |2ʷ|2~WEP |2~ZIT |2~ZIX |2С|2~ZIP |2~ZIEX |2~ZIE |2~ZIEP |2~ZAT |2~ZAX |2ǣ|2~ZAP |2~ZUOX |2~ZUO |2~ZUOP |2മ|2~ZOX |2Ϩ|2~ZOP |2~ZEX |2˰|2~ZEP |2~ZUT |2~ZUX |2Ϯ|2യ|2~ZURX |2ര|2~ZYT |2~ZYX |2೟|2~ZYP |2~ZYRX |2~ZYR |2~CIT |2~CIX |2ܺ|2റ|2~CIET |2~CIEX |2~CIE |2~CIEP |2ϔ|2~CAX |2ŵ|2ݴ|2~CUOX |2~CUO |2ല|2~COT |2~COX |2Ϥ|2~COP |2~CEX |2ҏ|2~CEP |2ল|2~CUX |2ࢬ|2ٺ|2~CURX |2~CUR |2ള|2~CYX |2ഴ|2വ|2~CYRX |2~CYR |2~ZZIT |2~ZZIX |2ಬ|2~ZZIP |2ശ|2~ZZIEX |2~ZZIE |2~ZZIEP |2~ZZAT |2~ZZAX |2ޣ|2~ZZAP |2~ZZOX |2ಮ|2~ZZOP |2~ZZEX |2ಭ|2~ZZEP |2~ZZUX |2ಫ|2~ZZUP |2~ZZURX |2~ZZUR |2~ZZYT |2~ZZYX |2~ZZY |2~ZZYP |2~ZZYRX |2~ZZYR |2~NZIT |2~NZIX |2~NZI |2~NZIP |2~NZIEX |2~NZIE |2~NZIEP |2~NZAT |2~NZAX |2঳|2~NZAP |2~NZUOX |2~NZUO |2~NZOX |2~NZOP |2~NZEX |2~NZE |2~NZUX |2~NZU |2ഷ|2~NZURX |2~NZUR |2~NZYT |2~NZYX |2~NZY |2~NZYP |2~NZYRX |2~NZYR |2~SIT |2½|2˙|2~SIP |2~SIEX |2~SIE |2~SIEP |2ࣷ|2~SAX |2ā|2സ|2~SUOX |2~SUO |2~SUOP |2঴|2~SOX |2ʧ|2~SOP |2~SEX |2˺|2~SEP |2~SUT |2~SUX |2˶|2~SUP |2~SURX |2߂|2~SYT |2~SYX |2~SY |2~SYP |2~SYRX |2~SYR |2~SSIT |2~SSIX |2६|2~SSIP |2~SSIEX |2~SSIE |2~SSIEP |2~SSAT |2~SSAX |2Ȟ|2~SSAP |2~SSOT |2~SSOX |2ࣤ|2~SSOP |2~SSEX |2ಪ|2~SSEP |2~SSUT |2~SSUX |2५|2~SSUP |2~SSYT |2~SSYX |2~SSY |2~SSYP |2~SSYRX |2~SSYR |2~ZHAT |2~ZHAX |2˳|2~ZHAP |2~ZHUOX |2~ZHUO |2~ZHUOP |2~ZHOT |2~ZHOX |2ࢷ|2~ZHOP |2~ZHET |2~ZHEX |2͟|2~ZHEP |2~ZHUT |2~ZHUX |2ࢵ|2~ZHUP |2~ZHURX |2~ZHUR |2~ZHYT |2~ZHYX |2~ZHY |2~ZHYP |2~ZHYRX |2~ZHYR |2ഹ|2~CHAX |2Ɨ|2~CHAP |2~CHUOT |2~CHUOX |2~CHUO |2~CHUOP |2~CHOT |2~CHOX |2Н|2~CHOP |2~CHET |2~CHEX |2˕|2~CHEP |2~CHUX |2݂|2~CHUP |2~CHURX |2~CHUR |2~CHYT |2~CHYX |2~CHY |2~CHYP |2~CHYRX |2~CHYR |2~RRAX |2̐|2~RRUOX |2~RRUO |2~RROT |2~RROX |2ഺ|2~RROP |2~RRET |2~RREX |2഻|2~RREP |2~RRUT |2~RRUX |2~RRU |2~RRUP |2~RRURX |2~RRUR |2~RRYT |2~RRYX |2~RRY |2~RRYP |2~RRYRX |2~RRYR |2~NRAT |2~NRAX |2ࣵ|2~NRAP |2~NROX |2~NRO |2~NROP |2~NRET |2~NREX |2~NRE |2~NREP |2~NRUT |2~NRUX |2~NRU |2~NRUP |2~NRURX |2~NRUR |2~NRYT |2~NRYX |2~NRY |2~NRYP |2~NRYRX |2~NRYR |2഼|2~SHAX |2ů|2~SHAP |2~SHUOX |2~SHUO |2~SHUOP |2~SHOT |2~SHOX |2А|2ഽ|2ാ|2~SHEX |2Ȁ|2~SHEP |2~SHUT |2~SHUX |2΅|2~SHUP |2~SHURX |2ി|2~SHYT |2~SHYX |2঵|2~SHYP |2~SHYRX |2~SHYR |2ޱ|2~RAX |2â|2ॹ|2~RUOX |2~RUO |2~RUOP |2~ROT |2~ROX |2ʨ|2~ROP |2~REX |2̶|2~REP |2~RUT |2~RUX |2˥|2~RUP |2~RURX |2~RUR |2~RYT |2~RYX |2ே|2~RYP |2~RYRX |2~RYR |2~JIT |2~JIX |2Ӝ|2~JIP |2~JIET |2~JIEX |2~JIE |2~JIEP |2~JUOT |2~JUOX |2~JUO |2~JUOP |2Ӧ|2~JOX |2Т|2~JOP |2~JUT |2~JUX |2Թ|2~JUP |2~JURX |2~JUR |2~JYT |2~JYX |2~JY |2~JYP |2~JYRX |2~JYR |2~QIT |2~QIX |2ِ|2~QIP |2~QIET |2~QIEX |2~QIE |2~QIEP |2~QUOT |2~QUOX |2ࣂ|2~QUOP |2ീ|2~QOX |2ܹ|2~QOP |2~QUT |2~QUX |2ُ|2~QUP |2~QURX |2~QUR |2~QYT |2~QYX |2~QY |2~QYP |2~QYRX |2~QYR |2~JJIT |2~JJIX |2஻|2~JJIP |2~JJIET |2~JJIEX |2ു|2~JJIEP |2~JJUOX |2~JJUO |2~JJUOP |2~JJOT |2~JJOX |2஺|2~JJOP |2ൂ|2~JJUX |2ஹ|2~JJUP |2~JJURX |2~JJUR |2~JJYT |2~JJYX |2ൃ|2~JJYP |2~NJIT |2~NJIX |2כ|2~NJIP |2~NJIET |2~NJIEX |2~NJIE |2~NJIEP |2~NJUOX |2~NJUO |2~NJOT |2~NJOX |2ൄ|2~NJOP |2~NJUX |2শ|2~NJUP |2~NJURX |2~NJUR |2~NJYT |2~NJYX |2~NJY |2~NJYP |2~NJYRX |2~NJYR |2൅|2~NYIX |2Φ|2െ|2~NYIET |2~NYIEX |2~NYIE |2~NYIEP |2~NYUOX |2~NYUO |2~NYUOP |2~NYOT |2~NYOX |2҄|2േ|2~NYUT |2~NYUX |2ࢰ|2~NYUP |2~XIT |2~XIX |2͹|2~XIP |2~XIET |2~XIEX |2~XIE |2~XIEP |2~XUOX |2~XUO |2~XOT |2~XOX |2ୖ|2~XOP |2~XYT |2~XYX |2~XY |2~XYP |2~XYRX |2~XYR |2ষ|2~YIX |2+|2~YIP |2~YIET |2~YIEX |2ൈ|2~YIEP |2~YUOT |2~YUOX |2~YUO |2൉|2ؙ|2~YOX |2ɨ|2~YOP |2܁|2~YUX |2Ȥ|2~YUP |2~YURX |2~YUR |2~YYT |2~YYX |2ࢁ|2~YYP |2~YYRX |2~YYR |@A490|0+Rീ|2Ɯ|2ഠ|2െ|2വ|2६|2ണ|2ട|2ʂ|2ത|2ഝ|2ഌ|2ഐ|2ɨ|2ন|2ഥ|2ഖ|2Ď|2യ|2ള|2ച|2г|2ഢ|2േ|2ˍ|2দ|2ൂ|2മ|2ഉ|2ഏ|2ষ|2ഔ|2঵|2ഓ|2ǣ|2Т|2ഷ|2ൃ|2ഞ|2ു|2˘|2̥|2ി|2ജ|2ഴ|2ല|2റ|2ദ|2഼|2ര|2ഽ|2˕|2ശ|2എ|2̇|@A4D0|0Ǯ!ī|2Þ|2Ǌ|2ć|2ü|2Ʊ|2Ď|2¢|2ƛ|2Ű|2ŵ|2Ɨ|2ν|2ʁ|2΄|2ð|2ö|2ô|2ā|2˳|2ǣ|2Ū|2Ë|2Ά|2ҍ|2ȝ|2Ŷ|2ů|2ú|2ǩ|26|2ɢ|2Z|2҇|2]|2W|2P|2ˤ|2স|2ȉ|2Ð֧̣|3ö̴|3֧ௌ|4ϫ|4ö|4~JEU |1čƯ|2ǙŮ|0_&Ȗ|2~EEN |2ܳ|2݀|2~WEEN |2ґ|2~BHEE |2֡|2߃|2ൊ|2~MGBEE |2ോ|2Լ|2ӛ|2֢|2ٕ|2~DHEE |2~DHHEE |2ܴ|2َ|2֥|2হ|2Զ|2ܷ|2ْ|2݁|2୕|2֦|2ڤ|2֤|2ࢲ|2ൌ|2ٔ|2ࢧ|2ࢯ|2୘|2]|2Ơ|2ɀ|2്|2˹|2~WIN |2Ǜ|2~BHI |2̤|2঺|2ൎ|2~MGBI |2൏|2М|2Ҏ|2̣|2Ժ|2~DHI |2~DHHI |2Ɯ|2͍|2̦|2ব|2˙|2֠|2С|2ࢶ|2ܺ|2Ӝ|2כ|2+|2˚|2൐|2ˌ|2ʂ|2ɑ|2Φ|26|2Ⱦ|2~NGAN |2Ë|2൑|2Ŷ|2~WAN |2Þ|2Ȍ|2ī|2٫|2ڣ|2~KPAN |2൒|2ࡠ|2ȝ|2ǋ|2ü|2Ʊ|2ǳ|2~DHHA |2ô|2â|2ć|2֯|2ā|2ů|2ǣ|2˳|2ŵ|2Ű|2൓|2ú|2¢|2֗|2ڥ|2Ď|2ð|2ö|2ƚ|2ǲ|2~OON |2ٟ|2ٗ|2~WOON |2ٙ|2~BHOO |2ൔ|2঻|2ൕ|2~MGBOO |2ൖ|2ࣙ|2ൗ|2֨|2ࣜ|2~DHOO |2~DHHOO |2֩|2஫|2൘|2൙|2ٞ|2ࣗ|2൚|2~ZHOO |2࣏|2൛|2൜|2ݎ|2ٜ|2়|2~GOO |2࣒|2ࣔ|2~NYOO |2P|2҉|2Ω|2൝|2Р|2~WUN |2σ|2~BHU |2ʺ|2ঽ|2൞|2~MGBU |2া|2Ґ|2Է|2ˍ|2ࢺ|2~DHU |2~DHHU |2ʹ|2˥|2̥|2޾|2˶|2΅|2Ϯ|2ࢵ|2ࢬ|2Թ|2শ|2Ȥ|2˷|2ি|2͎|2ȣ|2ɥ|2ࢰ|2W|2Ɗ|2ൟ|2ʥ|2চ|2˘|2ऊ|2̴|2ൠ|2ϫ|2ী|2߄|2~MGBO |2ൡ|2~GBON |2ξ|2ф|2e|2̅|2ൢ|2~DHHO |2̆|2ʨ|2̑|2ম|2ʧ|2А|2Ϩ|2ࢷ|2Ϥ|2Т|2ൄ|2ɨ|2ˋ|2ু|2Υ|2˴|2ȟ|2҄|2Z|2ǃ|2ൣ|2Ȝ|2൤|2ʷ|2~WEN |2Ǹ|2߅|2ͺ|2߆|2൥|2~KPEN |2~MGBE |2߇|2~GBEN |2ϧ|2͈|2ȼ|2ȍ|2ڦ|2~DHHE |2Ǫ|2̶|2˯|2޽|2˺|2Ȁ|2˰|2͟|2ҏ|2ϣ|2ӄ|2ͪ|2̇|2ূ|2ৃ|2ё|2~GEN |2ɛ|2ɒ|2ࢱ|2˱|2߈|1Ư|1ǙŮ|1ʈL|1&ڧȝ|3¢|3ٞ|1-~FEENG |2~KEENG |2~TING |2ஒ|2~BANG |2݆|2Ը|2ݡ|2~DOONG |2~KUNG |2~TONG |2~DO-O |2~JONG |10ĩ|2S|2X|2c|2o|2x|2½|2È|2¼|2Î|1&ڧð|3̑|@A640|0K'!൦|1%!൦|1'!ޜ|1%!ޜ|1'!ŀӃ|1%!ŀӃ|1'!Ǐ|1%!Ǐ|1'!९|1%!९|1'!॰ւ|1%!॰ւ|1'!൧Ŵ|1%!൧Ŵ|1'!șڨ|1%!șڨ|1'!В$Ђڨ|1%!В$Ђڨ|1'!͠Ѿ|1%!͠Ѿ|1'!ŀȤ|1%!ŀȤ|1'!͠6|1%!͠6|1'!ȊƁɲ|1%!ȊƁɲ|1'!൨ɲ|1%!൨ɲ|1'!͠ȊƁɲ|1%!͠ȊƁɲ|1'!֞|1%!֞|1'!ŀΜ|1%!ŀΜ|1'!Κ˯|1%!Κ˯|1'!Κˢ|1%!Κˢ|1'!Κ̳|1%!Κ̳|1'!߉W|1%!߉W|1'!൩W|1%!൩W|1'!U߉W|1%!U߉W|1!~MULTIOCULAR W|0AK~VZMET |2ōԥ#|2Ñԥ#|2óԥ#|0~SLAVONIC Ǿ|0AK!࠽͇|3]|3+|3P|3с#|3В|3Κ#|3Ŵ|2Ҕ|2൪|0KҔ|1൪|1'!ৄ|1%!ৄ|1'!൫|1%!൫|1'!൬|1%!൬|1'!७|1%!७|1'!൭|1%!൭|1'!ȼ$pv|1%!ȼ$pv|1'!ٚ|1%!ٚ|1'!൮|1%!൮|1'!൯|1%!൯|1'!൰|1%!൰|1'!࣡|1%!࣡|1'!Խ|1%!Խ|1'!UW|1%!UW|1'!ϒW|1%!ϒW|0`!Kс#|3Κ#|0AK!р|3͠Z|09!6|2¢|2P|2˷|2Ȗ|2َ|2৅|2W|2Φ|2]|2ô|2Þ|2ݏ|2൱|2൲|2৆|2Ը|2ߊ|2ে|2ø|2ߋ|2ȣ|2ݍ|2˙|2൳|2ৈ|2ޤ|2Փ|2൴|2ɥ|2൵|2ߌ|2΅|2৉|2ú|2৊|2൶|2ো|2ڤ|2ৌ|2൷|2্|2ґ|2Լ|2˥|2ʹ|2ʂ|2ɑ|2ৎ|2֜|2ք|2൸|2ڥ|2Ū|2А|2৏|2Ґ|2৐|2Ŷ|2ö|2Ɯ|2Ǜ|2ߍ|2ˋ|2൹|2ߎ|2Г|2ð|2̣|2˚|2˴|2ל|2Ԧ|2ڣ|2ō|2ൺ|2ൻ|2~FAAMAE |2~KOVUU |2~KOGHOM |1AL~KOQNDON |3~TUKWENTIS |1ർ|1ǙŮ|1ɠ|1Ư|1ϛ|1ʈL|@A700|0`!ѦÐѽࣽ|4ϡࣽ|4ѽൽ|4ϡൽ|4ѽُ|4ϡُ|4ѽ˥|4ϡ˥|2ۨȔÐ¿|2ÓȔÐ¿|2ԡȔÐ¿|2ÏȔÐ¿|2۩ȔÐ¿|2ۨȔѧÐ¿|2ÓȔѧÐ¿|2ԡȔѧÐ¿|2ÏȔѧÐ¿|2۩ȔѧÐ¿|2ۨѧÐ¿|2ÓѧÐ¿|2ԡѧÐ¿|2ÏѧÐ¿|2۩ѧÐ¿|2^r¿|3ͫ|3í¿|2³GɁƥ|2ɗ¨=|3º=|3ʴL|3ƖʴL|2ÏƖʴL|2ع:ÓÐ|4ÏÐ|0)'!ߏ¾|1%!ߏ¾|1'!ߏȅ|1%!ߏȅ|1'!ؘ|1%!ؘ|1'!ൾ|1%!ൾ|1'!ൿ|1%!ൿ|1'!ߐ|1%!ߐ|1'!ߐ$Ư|1%!ߐ$Ư|1!%'Ź|4«|1'!ĵ|1%!ĵ|1'!ݨ|1%!ݨ|1'!ū|1%!ū|1'!ֲ|1%!ֲ|1'!ֲ$í¿|1%!ֲ$í¿|1'!Ϭ|1%!Ϭ|1'!ŀļ$^|1%!ŀļ$^|1'!ď$j|1%!ď$j|1'!ď$ăj|1%!ď$ăj|1'!ď$j:ăj|1%!ď$j:ăj|1'!ն·|1%!ն·|1'!·$Ój|1%!·$Ój|1'!W$òjˡ|1%!W$òjˡ|1'!W$ʤ|1%!W$ʤ|1'!ǲ|1%!ǲ|1'!ł$jΐȥ|1%!ł$jΐȥ|1'!ł$ک|1%!ł$ک|1'!ł$඀ư|1%!ł$඀ư|1'!Ƶ$jΐȥ|1%!Ƶ$jΐȥ|1'!Ƶ$ăj|1%!Ƶ$ăj|1'!ªٯ|1%!ªٯ|1'!ߑٯ|1%!ߑٯ|1'!ē$ăj|1%!ē$ăj|1'!ফ|1%!ফ|1'!ඁģ|1%!ඁģ|1'!Һ$j|1%!Һ$j|1'!Һ$jΐȥ|1%!Һ$jΐȥ|1'!ං|1%!ං|1'!κ|1%!κ|1'!֪|1%!֪|1'!ඃ|1%!ඃ|0`!ֱ|0)%!~DUM |3Ѓ|3~MUM |3~NUM |3ߑ|1!%'ߑ|1%!ڪ|3Ҭ|1'!̓ě|1%!̓ě|1'!̓Ź|1%!̓Ź|1'!̓ĉ|3è̓ĉ|1%!è̓ĉ|1'!è·|1%!è·|1'!̓ª|1%!̓ª|1'!̓«|1%!̓«|1'!̓Č|1%!̓Č|0`!ÏŔƍ|2ɠ|2ŻɅ#|0)'!඄|1%!඄|1'!èĒ|1%!·$ȓv:Џ|1!~SINOLOGICAL ^|1'!à$ȥ|1%!à$ȥ|1'!ļ$¿|1%!ļ$¿|5ʊv|3Ē$ʊv|1'!a$ک|1%!a$ک|1'!Ź$j|1%!Ź$j|1'!םɢ|1%!םɢ|1'!םȉ|1%!םȉ|1'!םˤ|1%!םˤ|1'!ĉ$͋j|1%!ĉ$͋j|1'!ď$͋j|1%!ď$͋j|1'!à$͋j|1%!à$͋j|1'!ª$͋j|1%!ª$͋j|1'!«$͋j|1%!«$͋j|1'!Ē$v|3ŀùZ|3åĉ|3·$Џ|3%']|1!%'Ƶ|1'!èď|4Č|3Ŝ$ѻ|3ʶ|3̝|1%!̝|1'!Ŵ|1%!Ŵ|1'!P$j|1%!P$j|1'!ɍ6|1%!ɍ6|1'!ɍ]|1%!ɍ]|1'!ɍP|1%!ɍP|1'!F৑W|1%!F৑W|1'!අœ|1%!අœ|1'!ļ$ʊv|3«$v|3ģ$ʊv|3ě$Żjˡ|1%!ě$Żjˡ|1'!«$Żjˡ|1%!«$Żjˡ|@A7D0|0)'!Ȋ̓ĉ|1%!Ȋ̓ĉ|@A7D3|0)%!UҺ|@A7D5|0)%!Uۣ|1'!pආ«|1%!pආ«|1'!ඇ«|1%!ඇ«|@A7F2|0`!'ļ|3Ź|3Ƶ|0)'!ŀ¶Ē|1%!ŀ¶Ē|1מ!̢]|0`!'Ē$j|2%Bȉ|0)!%'èø|1מ!ŀŹ|4ł|3Ɩø|3]ߒ|3Ȣø|0ȇȈ!6|3]|2#~DVISVARA |2!P|3Z|3W|2#ඈ|2!ˋ|3Ϫ|3Υ|3ஸ|2#ǔ|2!Ϥ|3Н|3Т|3~JHO |3࣍|3ݐ|3ࢸ|3ඉ|3e|3̅|3̑|3ൢ|3ȟ|3̴|3О|3ϫ|3ൠ|3˴|3ʨ|3̆|3ഺ|3ʧ|3ʥ|22#6|4]|4P|4Z|4ǲ|2ߓ٦|3٧|3ඊ|3~MARK-4 |2#Ȫඈ|@A830|0ąťėSȳ|4¶|3cͷ|3S֑|4ȹ|3c܇|2ȳL|2৒L|2ӍL|2~QUANTITY L|@A840|0ǆ!¢|2ƛ|2Ď|2Ū|2ŵ|2Ɨ|2Ű|2ƚ|2ü|2Ʊ|2ć|2ö|2Þ|2Ǌ|2ī|2ð|2ʁ|2΄|2ν|2Ŷ|2˳|2ǣ|2%6|2ú|2â|2ô|2ů|2ā|2Ë|26|2]|2P|2Z|2W|2̏|2Ά|2ȝ|2֍|2Ȗ|1Ň!Ŷ|3ú|1!ǟ|2ȗ|2Ǧ|2Ȇ|2Ȫú|2~VOICELESS ů|2оË|2~ASPIRATED ȝ|1Ň!â|1~SUPERFIXED !â|1!ɘ|1ŅʛL|1UʛL|1Lͩ|2Uͩ|@A880|0ő#ǔ|2ȸ|1!6|2ĵ|2]|2ř|2P|2Ų|2Âª|3ȩ|3·|3ɐ|2Z|2Ȗ|2Ŗ|2W|2ǲ|2ū|2¢|2ƛ|2Ď|2ǩ|2Ū|2ŵ|2Ɨ|2Ű|2ɉ|2ƚ|2ǟ|2ȗ|2Ǧ|2Ȩ|2Ȇ|2ü|2Ʊ|2ć|2ǳ|2ö|2Þ|2Ǌ|2ī|2Ȍ|2ð|2ú|2â|2ô|2ǋ|2ů|2Ȟ|2ā|2Ë|2ʜ|1ĸ#~HAARU |12#ĵ|3]|3ř|3P|3Ų|3Âª|4ȩ|4·|4ɐ|3Z|3Ȗ|3Ŗ|3W|3ǲ|3ū|1#Ƞ|2ɘ|@A8CE|0őʀ|1Uʀ|10ĩ|2S|2X|2c|2o|2x|2½|2È|2¼|2Î|@A8E0|0Aµ0ĩ|3S|3X|3c|3o|3x|3½|3È|3¼|3Î|2!6|3P|3¢|3ö|3Þ|3â|3Ҏ|2#ͧ|0µ#࡫ɘ|2ɘȠ|2UɘȠ|2ɘX|3c|3ͧ|2~PUSHPIKA |1ךҌ|1ь|1৓|1#Ę|1~JAIN μ|1!Ϭ|12#Ϭ|0ǡƜ0ĩ|3S|3X|3c|3o|3x|3½|3È|3¼|3Î|2!¢|3ƛ|3Ď|3Ū|3ā|3ů|3ǣ|3ƚ|3ü|3උ|3ö|3Þ|3Ǌ|3ð|3ć|3ī|3â|3ú|3ô|3Ŷ|3Ʊ|3Ë|3ǋ|3ŵ|36|3ȉ|3]|3ǲ|22ˤ|3Z|3P|3Ȗ|3W|2Ðඌ|3ඍ|4ඌ|2#࣐|3~SHYA |0ɂ!¢|2Ď|2Ū|2ü|2ć|2ö|2Þ|2ī|2ð|2ŵ|2Ű|2ƚ|2ā|2â|2ô|2ú|2Ŷ|2Ë|2٫|2ڥ|2֯|2~NYJA |26|12#]|3P|3Z|3Ŗ|3W|3ū|3҇|3৔|1ĸ#˱|3à|3ª|3Ē|1Ƞ|@A95F|0ɂȲL|0>Ý~TIKEUT-MIEUM |2ඎ|2ඏ|2ඐ|2ܯ|2එ|2ࢣ|2~RIEUL-SSANGTIKEUT |2ܰ|2ܱ|2~RIEUL-SSANGPIEUP |2ୄ|2ܲ|2~RIEUL-CIEUC |2୆|2ୈ|2~MIEUM-TIKEUT |2ࢤ|2~PIEUP-SIOS-THIEUTH |2~PIEUP-KHIEUKH |2୊|2~SSANGSIOS-PIEUP |2~IEUNG-RIEUL |2~IEUNG-HIEUH |2~SSANGCIEUC-HIEUH |2~SSANGTHIEUTH |2~PHIEUPH-HIEUH |2~HIEUH-SIOS |2~SSANGYEORINHIEUH |@A980|0Ĳ#~PANYANGGA |2ඒ|2~LAYAR |2~WIGNYAN |1!6|2]~KAWI |3|2ř|2P|2Þ~CEREK |2Ūඓ|4~RASWADI |2Z|2Ŗ|2W|2¢|3ӡ|3ϲ|2Ď|3ϲ|2Ū|2ŵ|3ϲ|2Ű|2ƚϲ|2ŰӠ|2ƚ|2ǟ|3Ӡ|2Ǧ|3Ӡ|2öϲ|2ü|3ϲ|2ć|3Ӡ|2ö|2Þ|3ϲ|2ī|3ϲ|2ð|2ú|2â|3~AGUNG |2ô|2Ŷ|2āϲ|3Ӡ|3|2Ë|1#ඒ~TELU |12#~TARUNG |3~TOLONG |3ඔ|4~MELIK |3ݟ|4~MENDUT |3٨|3~DIRGA ~MURE |3ࣺ|1ĸ#~KERET |3~PENGKAL |3అ|1~PANGKON |1Iඕ|1Gඕ|1ϕ~ANDAP |2~MADYA |2~LUHUR |2௯|2~PANGKAT |2~LINGSA |2~LUNGSI |2٩|3٩|2ඖ|1èϕඖ|@A9CF|0Ĳ~PANGRANGKEP |10ĩ|2S|2X|2c|2o|2x|2½|2È|2¼|2Î|@A9DE|0Ĳϕ~TIRTA ~TUMETES |2~ISEN-ISEN |0q!ǿǩ|3Ɨ|3ɉ|3Ȇ|3Ȍ|1#ǿ৕|1`!ǿ඗|1!Vˁƚ|4ȝ|4Ď|4ǩ|4Ű|4ɉ|4Ǧ|4Ȩ|4Ȇ|1Vˁ0ĩ|4S|4X|4c|4o|4x|4½|4È|4¼|4Î|1!Vˁʜ|4ć|4ǳ|4ī|4Ȍ|@AA00|0Ŏ!6|2]|2P|2Z|2Ŗ|2W|2¢|2ƛ|2Ď|2ǩ|2~NGUE |2Ū|2Ɨ|2~CHHA |2Ű|2ɉ|2~NHUE |2ן|2~NHJA |2ü|2Ʊ|2ć|2ǳ|2~NUE |2ö|2Ǧ|2Þ|2~PPA |2Ǌ|2ī|2Ȍ|2~MUE |2ð|2ԭ|2ú|2â|2ô|2ǋ|2Ȟ|2ā|2Ë|12#ĵ|3]|3ř|3҅|3P|3ȉ|3W|3Ŗ|3ū|3ˤ|1ĸ#ú|3â|3ô|3Ŷ|@AA40|0Ŏ!Tď|3ĉ|3˱|1ĸ#T˱|1!Tೝ|3Č|3à|3ł|3Ī|3ª|3·|3ߔ|1ĸ#Tø|4Ē|@AA50|0Ŏ0ĩ|2S|2X|2c|2o|2x|2½|2È|2¼|2Î|@AA5C|0ŎčՔ|2ʀ|2Uʀ|2ƶʀ|0q!ʻĎ|3ŵ|3Ɨ|3Ű|3ɉ|3ƚ|3ǟ|3ȗ|3Ǧ|3Ȩ|3ǳ|3ö|3ā|3Ë|3ҍ|3ȝ|1`!ʻ඗|1!ʻΆ|3ǣ|3â|1ӽʻ௛|3~QN |3~HM |1-֛ʴ|3S|3X|1!֛â|1#~PAO ̵Ð|2Vˁя|4ѐ|1!ԽܔƗ|4ů|0Vŷ!Ïˋ|3Óˋ|3ÏϪ|3ÓϪ|3Ï඘|3Ó඘|3ÏΥ|3ÓΥ|3ÏԱ|3ÓԱ|3ÏϤ|3ÓϤ|3ÏН|3ÓН|3Ïʧ|3Óʧ|3Ï҄|3Ó҄|3Ï̑|3Ó̑|3Ïe|3Óe|3Ï̅|3Ó̅|3Ïȟ|3Óȟ|3Ïϫ|3Óϫ|3Ï̴|3Ó̴|3ÏО|3ÓО|3Ïξ|3Óξ|3Ï˴|3Ó˴|3Ïɨ|3Óɨ|3Ïʨ|3Óʨ|3Ï̆|3Ó̆|3Ïф|3Óф|3Ïʥ|3Óʥ|3ÏW|3ÓW|2˵ݚ|22ĵ|3]|3ˤ|3P|3Z|3W|2˵~KHIT |22ߕ|3~UEA |3֫|3ௗ|3Ϭ|3Ⱦ|3ч|2Ð˵֐|4඙|4̅|4~SONG |@AADB|0Vŷ-૽|3඙|3ࣹ|3ʥ~HOI |3৖৖|0Šš!Z|3W|3Ɨ|3ƚ|3ǟ|3ȗ|3Ǧ|3Ȩ|3Ȇ|3ů|3Ȟ|22#ř|4Ų|4୾|4ū|4~AAU |2~CHEIKHAN |2~AHANG ~KHUDAM |2࡬|2&ګL|2ˣګL|22#ȸ|2Ƞ|@AB01|0D&~TTHU |2ய|2ࣰ|2~TTHEE |2ம|2ݐ|@AB09|0D&~DDHU |2~DDHI |2ක|2~DDHEE |2~DDHE |2ඉ|@AB11|0D&஽|2ீ|2~DZAA |2ி|2Ӄ|2ா|@AB20|0D&~CCHHA |2~CCHHU |2~CCHHI |2~CCHHAA |2~CCHHEE |2~CCHHE |2~CCHHO |@AB28|0D&ԭ|2഍|2ഊ|2~BBAA |2~BBEE |2م|2ഋ|@AB30|0)%!нź|36~REVERSED-SCHWA |3ৗZ|3нZ|3Z$ک|3ಡŹ|3åĉ$ѻ|3·$Ɩख«|5Upÿ|5pç|3ø$ѻ|3à$ѻ|3Ϟ$ѻ|3ৗW|5$j|3ùW$j|3Ɩȉ|3èȉ$j|6íj|4Wඛ|6$j|3~STIRRUP ª|1!%'ª$G̎|1%!ªڇග|3Uª|3ª$ѻ|3Uª$ѻ|3åª|5$ç|3૚̛|3P$ŻG̎|4¿$ŻG̎|3ߖ|3èߖ|3P$Iv|3ʶ|4$ÏGç|6Iඝ|3Ń$ÏGç|5òI̎|8:ÏGç|8$ඝ|3Ī$ŻG̎|0`ƽ$Ɩƽ|1!%ؘ|3·$Ɩख«|5pÿ|3P$Iv|0)%!~SAKHA Ѿ|3͠Z|3ùȉ|3ഄ|3Ɩź|0C!%'Ŵ|0)%!мɱ$ȓv|3ۦɱ$ȓv|3èª$pÿ|0`!%èœ|2IɎ|2GɎ|@AB70|0¯%!6|3Z|3]|3W|3P|3ē|3Ď|3¢|3ё|3ˌ|3Υ|3͎|3୳|3Ë|3Ȝ|3ɀ|3ʥ|3Ω|3ۢ|3ô|3Ǫ|3Ɯ|3̆|3ʹ|3୴|3ð|3ɛ|3ʂ|3˴|3ȣ|3ö|3ࢿ|3ࣀ|3ɒ|3ɑ|3ȟ|3ɥ|3ࣁ|3୵|3୶|3୷|3ࣂ|3ࣃ|3୸|3ā|3«|3˺|3˙|3ʧ|3˶|3ࣄ|3ć|3ü|3˯|3ȼ|3̦|3̣|3̑|3̥|3୹|3݋|3ࣅ|3ࣆ|3ࣇ|3ࣈ|3ࣉ|3୺|3ʁ|3Μ|3Ի|3݅|3݄|3୻|3Ŷ|3ʷ|3˹|3˘|3Р|3୼|3ú|0Šš!ඞ|3ࣹ|3ݙ|3঩|3Þ|3ö|3~CHIL |3৘|3~KHOU |3ඟ|3~THOU |3~WAI |3ϡ|3~HUK |3҉|3]|3~PHAM |3~ATIYA |3~GOK |3~JHAM |3~RAI |3ī|3ي|3~DIL |3~GHOU |3~DHOU |3~BHAM |3ඞӾ|3ݙӾ|3঩Ӿ|3ÞӾ|3öӾ|3৘Ӿ|3ඟӾ|3]Ӿ|22#~ONAP |4~INAP |4~ANAP |4~YENAP |4~SOUNAP |4~UNAP |4~CHEINAP |4৙|2~CHEIKHEI |2Ѓච|2~APUN ච|@ABF0|0Šš0ĩ|3S|3X|3c|3o|3x|3½|3È|3¼|3Î|@D7B0|0>ĥ~O-YEO |2~O-O-I |2~YO-A |2~YO-AE |2~YO-EO |2~U-YEO |2~U-I-I |2~YU-AE |2~YU-O |2~EU-A |2~EU-EO |2~EU-E |2~EU-O |2~I-YA-O |2~I-YAE |2~I-YEO |2~I-YE |2~I-O-I |2~I-YO |2~I-YU |2~I-I |2~ARAEA-A |2~ARAEA-E |@D7CB|0>É~NIEUN-RIEUL |2~NIEUN-CHIEUCH |2ܧ|2~SSANGTIKEUT-PIEUP |2ඎ|2ඏ|2~TIKEUT-SIOS-KIYEOK |2ඐ|2~TIKEUT-CHIEUCH |2~TIKEUT-THIEUTH |2එ|2~RIEUL-KIYEOK-HIEUH |2~SSANGRIEUL-KHIEUKH |2~RIEUL-MIEUM-HIEUH |2~RIEUL-PIEUP-TIKEUT |2~RIEUL-PIEUP-PHIEUPH |2~RIEUL-YESIEUNG |2~RIEUL-YEORINHIEUH-HIEUH |2ନ|2~MIEUM-NIEUN |2~MIEUM-SSANGNIEUN |2~SSANGMIEUM |2~MIEUM-PIEUP-SIOS |2~MIEUM-CIEUC |2࢏|2~PIEUP-RIEUL-PHIEUPH |2~PIEUP-MIEUM |2ܨ|2࢐|2࢑|2ଫ|2଱|2~SIOS-KAPYEOUNPIEUP |2~SSANGSIOS-KIYEOK |2~SSANGSIOS-TIKEUT |2~SIOS-PANSIOS |2࢖|2ଲ|2ଳ|2଴|2~PANSIOS-PIEUP |2~PANSIOS-KAPYEOUNPIEUP |2~YESIEUNG-MIEUM |2~YESIEUNG-HIEUH |2~CIEUC-PIEUP |2~CIEUC-SSANGPIEUP |2ܪ|2~PHIEUPH-SIOS |2~PHIEUPH-THIEUTH |@FB00|0)%Bඡ|3М|3~FL |3~FFI |3~FFL |3ò«Č|3޴|@FB13|0ğ%BГۯ|4փ|4ࡃ|3ࡅۯ|3Гࡄ|@FB1D|0Ô!х$઱|1ʦ~JUDEO-SPANISH ~VARIKA |1B۸хх۲|1!झϥ|2ϳ¾|3۶|3Ȝ|3Ǥ|3۷|3T̟|3λ|3ࡑ|2झ©#|2ɣ$ɣ^|4۵^|4˖:ɣ^|6۵^|2¾$۲|4۳|4ࡎ|2ֆ$˖|2͢$˖|2۶$˖|2Ȝ$ࡎ|2օ$˖|2Ν$˖|@FB38|0Ô!Ԧ$˖|2х$˖|2TǤ$˖|2Ǥ$˖|2۷$˖|@FB3E|0Ô!̟$˖|@FB40|0Ô!ƹ$˖|2ͣ$˖|@FB43|0Ô!TǸ$˖|2Ǹ$˖|@FB46|0Ô!ࡏ$˖|2ࡐ$˖|2λ$˖|2ɣ$˖|2ࡑ$˖|2օ$ࡍ|2ֆ$۴|2Ǥ$۴|2Ǹ$۴|1B¾۷|0*!¾ۻm1|4T1|2ؤm1|3T1|3y1|3ę1|2Ҁm1|3T1|3y1|3ę1|2ئm1|3T1|3y1|3ę1|2أm1|3T1|3y1|3ę1|2إm1|3T1|3y1|3ę1|2։m1|3T1|3y1|3ę1|2تm1|3T1|3y1|3ę1|2ثm1|3T1|3y1|3ę1|2بm1|3T1|3y1|3ę1|2اm1|3T1|3y1|3ę1|2Ԩm1|3T1|3y1|3ę1|2ةm1|3T1|3y1|3ę1|2ࡗm1|3T1|2ࡖm1|3T1|2ࡘm1|3T1|2ࡕm1|3T1|2࡚m1|3T1|2࡙m1|3T1|2Ϧm1|3T1|3y1|3ę1|2цm1|3T1|3y1|3ę1|2حm1|3T1|3y1|3ę1|2جm1|3T1|3y1|3ę1|2Ɛآm1|4T1|2خm1|3T1|3y1|3ę1|2Ǩ$¤Hm1|6T1|3Ӌm1|4T1|4y1|4ę1|3دm1|4T1|4y1|4ę1|2¤ҁm1|4T1|4$ŘHm1|7T1|1-^H|3[|2XÕH|4[|2cÕH|4[|4ŤĀH|6[|2oÕH|4[|2Ur¿[|2XÕӌH|5[|2ç|2%ȦH|4[|2ۻH|@FBD3|0*!˱m1|3T1|3y1|3ę1|2Pm1|3T1|2ȉm1|3T1|2Ȥm1|3T1|2P$ŘHm1|2͈m1|3T1|2Иȉm1|4T1|3Ȥm1|4T1|2Zm1|3T1|3y1|3ę1|2ڬජИ¾Ɖy1|7ę1|1B¤$ŘH$¾m1|8T1|7ɢm1|8T1|7ȕm1|8T1|7Pm1|8T1|7ȉm1|8T1|7Ȥm1|8T1|7Zm1|8T1|8y1|2ڬИ¤$ŘH$¾Ɖm1|;T1|;y1|1!Ρ¤m1|4T1|4y1|4ę1|1B¤$ŘH$Ċm1|7ìm1|7 m1|7¾Ɖm1|7¤m1|2Ȅ$Ċm1|4ìm1|4Əm1|4 m1|4¾Ɖm1|4¤m1|2ǒ$Ċm1|4ìm1|4Əm1|4 m1|4¾Ɖm1|4¤m1|2˗$Ċm1|4 m1|4¾Ɖm1|4¤m1|2Ċ$ìm1|4 m1|2ì$Ċm1|4 m1|2Ə$Ċm1|4ìm1|4 m1|2Ǟ$Ċm1|4ìm1|4Əm1|4 m1|2ɚ$ìm1|4 m1|2ɦ$Ċm1|4ìm1|4Əm1|4 m1|2Ȧ$ìm1|4 m1|2Π$ m1|2ȅ$Ċm1|4 m1|2ʸ$Ċm1|4 m1|2ȷ$Ċm1|4ìm1|4Əm1|4 m1|4¾Ɖm1|4¤m1|2Ɉ$ìm1|4 m1|4¾Ɖm1|4¤m1|2Ǥ$¾m1|4Ċm1|4ìm1|4Əm1|4űm1|4 m1|4¾Ɖm1|4¤m1|2ű$Ċm1|4ìm1|4Əm1|4 m1|4¾Ɖm1|4¤m1|2 $Ċm1|4ìm1|4Əm1|4 m1|4¾Ɖm1|4¤m1|2Ɛ$Ċm1|4ìm1|4Əm1|4 m1|4¾Ɖm1|4¤m1|2Ǩ$Ċm1|4 m1|4¾Ɖm1|4¤m1|2¤$Ċm1|4ìm1|4Əm1|4 m1|4¾Ɖm1|4¤m1|2Ӊ$ʙ¾m1|2ȶ$ʙ¾m1|2¾Ɖ$ʙ¾m1|2΢$ؠm1|4ءm1|4Ξm1|4Дm1|4Οm1|4ʙ¾m1|2¤$ŘH$ȶT1|7ͤT1|7 T1|7ƐT1|7¾ƉT1|7¤T1|2Ȅ$ȶT1|4ͤT1|4 T1|4ƐT1|4¾ƉT1|4¤T1|2ǒ$ȶT1|4ͤT1|4 T1|4ƐT1|4¾ƉT1|4¤T1|2˗$ȶT1|4ͤT1|4 T1|4ƐT1|4¾ƉT1|4¤T1|2ȷ$¾ƉT1|4¤T1|2Ɉ$¾ƉT1|4¤T1|2Ǥ$¾T1|4űT1|4 T1|4¾ƉT1|4¤T1|2ű$ T1|4¾ƉT1|4¤T1|2 $¾T1|4 T1|2Ɛ$ȶT1|4ͤT1|4 T1|4ƐT1|4¾ƉT1|4¤T1|2¾Ɖ$ʙ¾T1|2¤$ȶT1|4ͤT1|4 T1|4ƐT1|4¾ƉT1|4¤T1|4ŘH$Ċy1|7ìy1|7Əy1|7 y1|7Ǩy1|2Ȅ$Ċy1|4ìy1|4Əy1|4 y1|4Ǩy1|2ǒ$Ċy1|4ìy1|4Əy1|4 y1|4Ǩy1|2˗$ y1|2Ċ$ìy1|4 y1|2ì$Ċy1|4 y1|2Ə$Ċy1|4 y1|2Ǟ$Ċy1|4ìy1|4Əy1|4 y1|2ɚ$ìy1|4Əy1|4 y1|2ɦ$Ċy1|4ìy1|4Əy1|4 y1|2Ȧ$ìy1|2Π$ y1|2ȅ$Ċy1|4 y1|2ʸ$Ċy1|4 y1|2ȷ$Ċy1|4ìy1|4Əy1|4 y1|2Ɉ$ìy1|4 y1|2Ǥ$Ċy1|4ìy1|4Əy1|4űy1|4 y1|2ű$Ċy1|4ìy1|4Əy1|4 y1|4Ǩy1|2 $Ċy1|4ìy1|4Əy1|4 y1|2Ɛ$Ċy1|4ìy1|4Əy1|4 y1|4Ǩy1|2Ǩ$Ċy1|4 y1|4ʙ¾y1|2¤$Ċy1|4ìy1|4Əy1|4 y1|4Ǩy1|4ŘH$ ę1|7Ǩę1|2Ȅ$ ę1|4Ǩę1|2ǒ$ ę1|4Ǩę1|2˗$ ę1|4Ǩę1|2Ǟ$ ę1|4Ǩę1|2ȋ$ ę1|4Ǩę1|2Ǥ$űę1|4 ę1|2ű$ ę1|2Ɛ$ ę1|4Ǩę1|2¤$ ę1|4Ǩę1|2΢$Ξę1|4Дę1|4Οę1|2Ȧ$¾Ɖm1|4¤m1|2ȅ$¾Ɖm1|4¤m1|2ʸ$¾Ɖm1|4¤m1|2Ǟ$¾Ɖm1|4¤m1|2ȋ$¾Ɖm1|4¤m1|2ì$¾Ɖm1|4¤m1|2Ċ$¾Ɖm1|4¤m1|2Ə$¾Ɖm1|4¤m1|2ɚ$¾Ɖm1|4¤m1|2ɦ$¾Ɖm1|4¤m1|2ȋ$Ċm1|4ìm1|4Əm1|4 m1|4ȶm1|2Ǟ$ȶm1|2ɚ$ȶm1|2ɦ$ȶm1|2Ȧ$¾ƉT1|4¤T1|2ȅ$¾ƉT1|4¤T1|2ʸ$¾ƉT1|4¤T1|2Ǟ$¾ƉT1|4¤T1|2ȋ$¾ƉT1|4¤T1|2ì$¾ƉT1|4¤T1|2Ċ$¾ƉT1|4¤T1|2Ə$¾ƉT1|4¤T1|2ɚ$¾ƉT1|4¤T1|2ɦ$¾ƉT1|4¤T1|2ȋ$ĊT1|4ìT1|4ƏT1|4 T1|4ȶT1|2Ǟ$ȶT1|2ɚ$ȶT1|2ɦ$ȶT1|2ȋ$Ċy1|4ìy1|4Əy1|4 y1|2Ǟ$Ǩy1|2ȋ$Ǩy1|2Ȧ$ y1|2Ǟ$Ċę1|4ìę1|4Əę1|2ȋ$Ċę1|4ìę1|4Əę1|2Ȧ$ ę1|2Π$ ę1|2¾$ԧT1|5m1|0ඣIǽ|1Gǽ|0*B~RAHIMAHU ඤ|2ևڭ~ANH |4~ANHAA |4~ANHUM |4~ANHUMAA |4~ANHUNNA |2~SALLALLAAHU ߗ~WA-AALIH |2ߗߘ|2~ALAYHIM ߘ|2~ALAYHIMAA ߘ|2ߗ~AS-SALAATU ~WAS-SALAAM |2~QUDDISA ~SIRRAH |2~SALLALLAHU ߗ~WAAALIHEE ~WA-SALLAM |2~ALAYHAA ߘ|2~TABAARAKA ~WA-TAAALAA |2~RAHIMAHUM ඤ|2ǒ$Ċ$ y1|4ì$ĊT1|7y1|6 y1|4Ə$ y1|4 $Ċy1|6ìy1|6Əy1|2Ċ$ $ìT1|7y1|2ì$ $¤T1|6¾ƉT1|2Ǟ$ì$Ċy1|4Ċ$ìy1|6¾ƉT1|4 $ìT1|7y1|6Ċy1|6 T1|7y1|2ɚ$ì$ìT1|7y1|4 $ T1|2ȋ$ì$ T1|7y1|4Ċ$¤T1|4 $ƏT1|7y1|6 T1|7y1|2ɦ$ì$¾ƉT1|4Ə$ T1|7y1|2Ȧ$ $ìT1|7y1|6 y1|6¤T1|2ȅ$Ċ$ T1|4 $ T1|7y1|6¾ƉT1|2ʸ$ $ T1|6¤T1|6¾ƉT1|2ȷ$Ə$ T1|7y1|2Ɉ$ $ìT1|6 T1|2ű$ì$ T1|6¤T1|6¾ƉT1|4Ċ$Ċy1|7T1|4Ə$ T1|7y1|4 $ìT1|7y1|2 $ì$Ċy1|6 y1|6¤T1|4Ċ$ìy1|6 y1|4Ə$Ċy1|6 y1|@FD92|0*B $Ċ$Əy1|2Ǩ$ $Ċy1|6 y1|2Ɛ$ì$ y1|6¾ƉT1|4Ċ$ T1|7y1|6¾ƉT1|4 $¤T1|6¾ƉT1|2¤$ $ T1|7y1|2Ȅ$Ə$¤T1|2ǒ$Ċ$¤T1|6¾ƉT1|4Ə$¤T1|6¾ƉT1|4 $¤T1|6¾ƉT1|2Ċ$ $¤T1|4ì$¾ƉT1|4 $¾ƉT1|2Ǟ$Ə$¾ƉT1|2ɚ$ì$¤T1|2ȋ$ì$¤T1|2ɦ$ì$¤T1|2ű$Ċ$¤T1|4 $¤T1|2¤$ì$¤T1|4Ċ$¤T1|4 $¤T1|2 $ $¤T1|2Ɉ$ $¤T1|2Ɛ$ì$¤T1|2Ɉ$ $ìy1|2ű$ì$ y1|2ȅ$ $¤T1|2Ǥ$ $¤T1|2Ɛ$Ċ$ìy1|2 $Ə$¤T1|2ű$Ċ$ y1|2Ǥ$ $ T1|2ű$Ċ$ T1|2Ɛ$Ċ$ìT1|2Ċ$ì$¤T1|2ì$Ċ$¤T1|2 $Ċ$¤T1|2ȷ$ $¤T1|2Ȅ$ì$¤T1|2Ǥ$ $ y1|2ȅ$Ċ$ y1|2ɚ$ $ y1|2Ǟ$Ə$¤T1|2Ɛ$Ċ$¤T1|@FDCF|0*B~SALAAMUHU ~ALAYNAA |@FDF0|0*BඥඦΣටŮ#m1|2~QALA ඦΣටŮ#m1|2~ALLAH m1|2~AKBAR m1|2~MOHAMMAD m1|2~SALAM m1|2~RASOUL m1|2؟m1|2ඨm1|2ඥm1|2હ؟ඨ|2~JALLAJALALOUHOU |0~RIAL #|0*B~BISMILLAH ~AR-RAHMAN ~AR-RAHEEM |2~SUBHAANAHU Ŷ~TAAALAA |2~AZZA Ŷ~JALL |0f~SELECTOR-1 |1~SELECTOR-2 |1~SELECTOR-3 |1~SELECTOR-4 |1~SELECTOR-5 |1~SELECTOR-6 |1~SELECTOR-7 |1~SELECTOR-8 |1~SELECTOR-9 |1~SELECTOR-10 |1~SELECTOR-11 |1~SELECTOR-12 |1~SELECTOR-13 |1~SELECTOR-14 |1~SELECTOR-15 |1~SELECTOR-16 |0ɞ1JrƯ|4æƯ|5ǙŮ|4ɠ|4ϛ|4ʴL|4ʈL|4IbҪÊ|4GbҪ~BRAKCET |4íӎ|@FE20|0ABI¶|2G¶|1UÿI¶|3G¶|1ƎI¶|2G¶|1ඩƎ|1BI¶[|2G¶[|1ÿI¶[|2G¶[|1ƎI¶[|2G¶[|1ඩƎ[|1KؚI¶|3G¶|0ɞ1JrX^ऄ|4̳Ș|4ǃȘ|4Ïŕ|4ЗÏŕ|4Iǽ|4Gǽ|4IɆÊ|4GɆÊ|4IʿɩÊ|4GʿɩÊ|4IYҪÊ|4GYҪÊ|4IUƥÊ|4GUƥÊ|4IƥÊ|4GƥÊ|4IɁÊ|4GɁÊ|4IbɁÊ|4GbɁÊ|0ඪ^|0bඪ^|0ɞ1JrIMÊ|4GMÊ|0ψӀ|0ණӀ|0ЗӀ|0UЗӀ|0ψÏŕ|0ණÏŕ|0ЗÏŕ|0%Ư|1æƯ|1ǙŮ|@FE54|0%ϛ|1ɠ|1ʈL|1ʴL|1̳Ș|1Iǽ|1Gǽ|1IɆÊ|1GɆÊ|1IʿɩÊ|1GʿɩÊ|1?#|1Ҹ|1Ǿ|1©#|1۞|1Ƴ#|1ƴ#|1Ʌ#|@FE68|0%ˠ˓|1ԟ#|1ؓ#|1ؔʣ|@FE70|0*ԧm1|1ֈ$ԧH|1ؠm1|1ư~FRAGMENT |1ءm1|@FE76|0*Ξm1|2ę1|1Дm1|2ę1|1Οm1|2ę1|1΢m1|2ę1|1ӊm1|2ę1|1!Řm1|2¾$ЖHm1|6T1|4ŘHm1|6T1|2ȕ$ŘHm1|6T1|2¾$Ř[m1|6T1|2¤$ŘHm1|6T1|6y1|6ę1|2¾m1|3T1|2Ȅm1|3T1|3y1|3ę1|2ǒۺm1|4T1|3m1|3T1|3y1|3ę1|2˗m1|3T1|3y1|3ę1|2Ċm1|3T1|3y1|3ę1|2ìm1|3T1|3y1|3ę1|2Əm1|3T1|3y1|3ę1|2̠m1|3T1|2Ӊm1|3T1|2ȶm1|3T1|2ͤm1|3T1|2Ǟm1|3T1|3y1|3ę1|2ȋm1|3T1|3y1|3ę1|2ɚm1|3T1|3y1|3ę1|2ɦm1|3T1|3y1|3ę1|2Ȧm1|3T1|3y1|3ę1|2Πm1|3T1|3y1|3ę1|2ȅm1|3T1|3y1|3ę1|2ʸm1|3T1|3y1|3ę1|2ȷm1|3T1|3y1|3ę1|2Ɉm1|3T1|3y1|3ę1|2Ǥm1|3T1|3y1|3ę1|2űm1|3T1|3y1|3ę1|2 m1|3T1|3y1|3ę1|2Ɛm1|3T1|3y1|3ę1|2Ǩm1|3T1|3y1|3ę1|2ȕm1|3T1|2¾Ɖm1|4T1|2¤m1|3T1|3y1|3ę1|1Bű$¾$ЖHm1|8T1|6ŘHm1|8T1|7[m1|8T1|5m1|5T1|@FEFF|0ĩХ࠳˫|@FF01|0ĈʴL|1ɾL|1?#|1ԟ#|1ؓ#|1Ҹ|1Ѻ|1Iǽ|1Gǽ|1Ǿ|1©#|1Ư|1۞|1ǙŮ|1˓|10ĩ|2S|2X|2c|2o|2x|2½|2È|2¼|2Î|1ɠ|1ϛ|1Ƴ#|1Ʌ#|1ƴ#|1ʈL|1ؔʣ|1)'!6|4a|4ļ|4ě|4Z|4Ź|4ĉ|4Ē|4]|4Ŝ|4ď|4·|4ø|4à|4W|4ł|4Ƶ|4ª|4«|4Č|4P|4ē|4œ|4Ń|4Ī|4ģ|1IMÊ|1ˠ˓|1GMÊ|1Ŕƍ|1Ïŕ|1ƅƍ|1)%!6|4a|4ļ|4ě|4Z|4Ź|4ĉ|4Ē|4]|4Ŝ|4ď|4·|4ø|4à|4W|4ł|4Ƶ|4ª|4«|4Č|4P|4ē|4œ|4Ń|4Ī|4ģ|1IɆÊ|1rŕ|1GɆÊ|1ÿ|1Ibǽ|1Gbǽ|0ãæǙŮ|1IɁÊ|1GɁÊ|1æƯ|1lp^|2!˘|3%6|4]|4P|4Z|4W|4ú|4Ȥ|4ɨ|4ˍ|1Ւ೛͑L|1l!6|3]|3P|3Z|3W|3¢|3˚|3˷|3̇|3ˋ|3ā|3˙|3˶|3˺|3ʧ|3ü|3̣|3ˍ|3ȼ|3e|3ö|3ɑ|3ɥ|3ɒ|3ȟ|3Ë|3ɀ|3Ω|3Ȝ|3ʥ|3ð|3ʂ|3ȣ|3ɛ|3˴|3ú|3Ȥ|3ɨ|3â|3͍|3˥|3̶|3ʨ|3Ŷ|3à|2о͑L|2ও͑L|1>Ҍ|2!ӏ|3ܦ|3ࢠ|3Ӑ|3ܭ|3ܮ|3ӑ|3ܧ|3Ӓ|3ܯ|3ܰ|3ܱ|3ܲ|3ࢡ|3ࢢ|3ܫ|3ӓ|3Ӕ|3ܨ|3ܬ|3ӕ|3ܩ|3Ҋ|3ҋ|3ܪ|3Ӗ|3ӗ|3Ә|3ә|3Ӛ|@FFC2|0ã>!6|3ɢ|3ú|3؛|3ٌ|3Z|@FFCA|0ã>!࢝|3ͪ|3W|3Ŷ|3࢞|3ȉ|@FFD2|0ã>!ɨ|3P|3࢟|3ʷ|3˹|3Ȥ|@FFDA|0ã>!҇|3+|3]|@FFE0|0Ĉ੶#|1۟#|1Ƙ#|1Ǝ|1ն¿|1ؕ#|1ऊ#|@FFE8|0ã~FORMS Ãr|1´=|1Ą=|1£=|1Ā=|1YM|1bÀ|@FFF9|0৚̩౟|2ə|2ඬ|0~OBJECT තċ|0තċ|@10000|0@a&ථ6|3~B038 Z|3~B028 ]|3~B061 W|3~B010 P|3දć|3~B045 ˯|3ධ̦|3~B014 ̑|3~B051 ̥|3~B057 Ű|3~B046 ϣ|@1000D|0@a&~B036 Т|3~B065 Թ|3~B077 ¢|3~B044 ̇|3~B067 ˚|3~B070 ˋ|3~B081 ˷|3~B080 ð|3~B013 ɛ|3~B073 ʂ|3~B015 ˴|3~B023 ȣ|3නö|3~B024 ɒ|3~B030 ɑ|3~B052 ȟ|3~B055 ɥ|3඲Þ|3~B072 Ǹ|3~B039 Ǜ|3~B011 ̴|3~B050 σ|3~B016 ̏|3~B078 ܸ|3~B021 ِ|3~B032 ܹ|@10028|0@a&~B060 â|3~B027 ̶|3~B053 ͍|3ඳʨ|3~B026 ˥|3~B031 ā|3ප˺|3~B041 ˙|3~B012 ʧ|3~B058 ˶|3~B059 ü|3ඵȼ|3~B037 ̣|3බe|3~B069 ˍ|3~B054 Ŷ|3~B075 ʷ|3~B040 ˹|3~B042 ˘|@1003C|0@a&~B017 ǣ|3~B074 ˰|@1003F|0@a&~B020 Ϩ|3~B025 ৛|3~B043 ~A3 |3~B085 ū|3~B071 ৄ|3~B090 ~DWO |3~B048 ܻ|3~B029 භ|3~B062 ~PTE |3~B076 ~RA2 |3~B033 ~RA3 |3~B068 ~RO2 |3~B066 ~TA2 |3~B087 ٚ|3~B091 X|@10050|0@a-~B018 |3~B019 |3~B022 |3~B034 |3~B047 |3~B049 |3~B056 |3~B063 |3~B064 |3~B079 |3~B082 |3~B083 |3~B086 |3~B089 |@10080|0@aé~B100 ˸|3~B102 ӻ|3~B104 ঑|3~B105 ~EQUID |3~B105F ~MARE |3~B105M ~STALLION |3~B106F ಿ|3~B106M ަ|3~B107F ~SHE-GOAT |3~B107M ~HE-GOAT |3~B108F ~SOW |3~B108M ම|3~B109F ڙ|3~B109M ~BULL |3~B120 অ|3~B121 ~BARLEY |3~B122 ඹ|3~B123 ~SPICE |3~B125 ~CYPERUS |2ҡ~B127 ~KAPO |3~B128 ~KANAKO |2é~B130 ߙ|3~B131 ް|3~B132 |2ҡ~B133 ~AREPA |3~B135 ~MERI |2é~B140 ~BRONZE |3~B141 ު|3~B142 |3~B145 ය|3~B146 |3~B150 |3~B151 ɖ|3~B152 |3~B153 |3~B154 |2ҡ~B156 ~TURO2 |2é~B157 |3~B158 |3~B159 ॼ|3~B160 |3~B161 |3~B162 ~GARMENT |3~B163 ~ARMOUR |3~B164 |3~B165 |3~B166 |3~B167 |3~B168 |3~B169 |3~B170 |3~B171 |3~B172 |3~B173 ࡮|3~B174 |3~B176 ѣ|3~B177 |3~B178 |3~B179 |3~B180 |3~B181 |3~B182 |3~B183 |3~B184 |3~B185 |3~B189 |3~B190 |3~B191 ގ|3~B220 ~FOOTSTOOL |3~B225 ර|3~B230 ೏|3~B231 =|3~B232 |3~B233 ~SWORD |3~B234 |3~B236 |3~B240 ~WHEELED ڮ|3~B241 ڮ|3~B242 ڮߚ|3~B243 ވ|3~B245 |3~B246 |2ҡ~B247 ~DIPTE |2é~B248 |3~B249 |3~B251 |3~B252 |3~B253 |3~B254 ~DART |3~B255 |3~B256 |3~B257 |3~B258 |3~B259 |3ʑ~B155 |4~B200 |4~B201 |4~B202 |4~B203 |4~B204 |4~B205 |4~B206 |4~B207 |4~B208 |4~B209 |4~B210 |4~B211 |4~B212 |4~B213 |4~B214 |4~B215 |4~B216 |4~B217 |4~B218 |4~B219 |4~B221 |4~B222 |4~B226 |4~B227 |4~B228 |4~B229 |4~B250 |4~B305 |@10100|0ƾˣəŕ|3^|1ήL|@10107|0ƾ?S|2X|2c|2o|2x|2½|2È|2¼|2Î|2ō|2ǫ|2ʃ|2ʩ|2ɓ|2͏|2ɜ|2·|2Ⱥ|2SÑ|2XÑ|2cÑ|2oÑ|2xÑ|2½Ñ|2ÈÑ|2¼Ñ|2ÎÑ|2Só|2Xó|2có|2oó|2xó|2½ó|2Èó|2¼ó|2Îó|2ōó|2ǫó|2ʃó|2ʩó|2ɓó|2͏ó|2ɜó|2·ó|2Ⱥó|@10137|0ƾנݯϐ|2ҕӿ|2ҧӿ|2χӿ|2۹ӿ|1ঌՕҕӿ|1඼Օҕӿ|1Օҧӿ|2χӿ|0CǕ˟Sȳ|4¶|4ऋ|3x|3ɓ|3xÑ|4ó|3ɓó|3xՖ|3ōՖ|3ɓՖ|3SÑՖ|3xÑՖ|3SóՖ|3xóՖ|4Ԁ|3ōԀ|3ɓԀ|3SÑԀ|3xÑԀ|3SóԀ|3ōóԀ|3ɓóԀ|3ōড়|2~HERAEUM S~PLETHRON |2ѨS|2ঢ়S|2৞X|2ѨX|2~CYRENAIC Xල|2৞Xල|2סx|3ō|4Ȫ1|2ঢ়ō|2~MESSENIAN ō|2Ѩō|3ʃ|2סɓ|4Ȫ1|2ঢ়ɓ|2Ѩɓ|3SÑ|3cÑ|2৞xÑ|2סxÑ|2ѨxÑ|2~CARYSTIAN xÑ|2~NAXIAN xÑ|2ѨSó|3xó|2~DELPHIC xড়|2~STRATIAN ɓড়|1S¶#|4Ȫ1|1XҖ#|1cͷ#|1ૢ#|1~TALENT #|1ऋ#|1~OBOL #|1Xߛ#|1cߛ#|1oߛ#|1xߛ#|1~METRETES #|1~KYATHOS ݯ#|1~LITRA #|1~OUNKIA #|1~XESTES #|1~ARTABE #|1~AROURA #|1~GRAMMA #|1~TRYBLION ݯ#|1ĩ#|1Sȳ#|1~SINUSOID #|1~INDICTION #|0~NOMISMA #|@10190|0ǜ~SEXTANS #|1~UNCIA #|1~SEMUNCIA #|1඾#|1~DIMIDIA ඾#|1~SILIQUA #|1~DENARIUS #|1~QUINARIUS #|1~SESTERTIUS #|1~DUPONDIUS #|1Σ#|1~CENTURIAL #|0~ASCIA -|@101A0|0C-̱ʚ|@101D0|0Ȃǯ#඿|3~PLUMED ʛ|3~TATTOOED ʛ|3~CAPTIVE |3ঊ|3ӻ|3ގ|3~GAUNTLET |3~TIARA |3=|3׀|3ह|3र|3~MANACLES |3~MATTOCK |3৕|3೅|3ව|3ශෂ|3~DOLIUM |3~COMB |3~SLING |3~COLUMN |3~BEEHIVE |3য়|3ɖ|3~HIDE |3~BULLS ̎|3ϔ|3ަ|3ස|3හ|3~TUNNY |3֡|3ෂѣ|3ҭ|3~PAPYRUS |3ৠ|3~LILY |3޺Ђ|3೘|3~GRATER |3~STRAINER |3%঎|3З~BAND |3A͋j|@10280|0ʒ!6|2Z|2a|2~BH |2ĉ|2ě|2]|2œ|2ģ|2ӝ|2Ŝ|2ď|2Ƶ|2·|2ø|2à|2޶|2ؽ|2P|2ł|2ݔ|2ª|2«|2Č|2ৡ|2Ⱦ|2ǃ|2Ē|2Ń|@102A0|0ǰ!6|2~P2 |2ě|2·|2~UUU |2ª|2~LD |2৛|2Ƶ|2a|2ø|2W|2~D2 |2Č|2Ծ|2~SH2 |2«|2~C-18 |2P|2ؽ|2Ń|2à|2~TT2 |2ł|2ߔ|2]|2Z|2~UUUU |2ď|2~K2 |2~ND |2Ų|2ĉ|2~G2 |2޴|2~ST2 |2˱|2ř|2~C-39 |2ৡ|2~UUU2 |2ȩ|2ঞ|2~MB2 |2~MB3 |2~MB4 |2~LD2 |2Є|2~UUU3 |@102E0|0¥ʡӅL|20S|3X|3c|3o|3x|3½|3È|3¼|3Î|2?ō|3ǫ|3ʃ|3ʩ|3ɓ|3͏|3ɜ|3·|3Ⱥ|3SÑ|3XÑ|3cÑ|3oÑ|3xÑ|3½Ñ|3ÈÑ|3¼Ñ|3ÎÑ|@10300|0FN!6|3ͺ|3̇|3˯|3Z|3͈|3˰|3Ȝ|3ȍ|3]|3¢|3ˢ|3̳|3ǃ|3̛|3W|3Ǹ|3Ȁ|3˷|3ͻ|3Б|3ȼ|3P|3~EKS |3ࢼ|3࣢|3р|3~ERS |3˕|3ř|3Ų|3~ESS |2ţS|3x|3ō|3ɓ|@1032D|0FN!ͪ|3௺Μ|3௹Μ|0ʭ!~AHSA |2~BAIRKAN |2~GIBA |2~DAGS |2~AIHVUS |2~QAIRTHRA |2~IUJA |2~HAGL |2~THIUTH |2~EIS |2~KUSMA |2~LAGUS |2~MANNA |2~NAUTHS |2~JER |2~URUS |2~PAIRTHRA |2Ⱥ|2~RAIDA |2~SAUIL |2~TEIWS |2~WINJA |2~FAIHU |2~IGGWS |2ઁ|2~OTHAL |2ÎÑ|@10350|0Fȑ!Ⱦ|3г|3~GAI |3ළ|3Z|3~ZHOI |3~DZHOI |3ޟ|3~DZITA |3]|3~KOKE |3~LEI |3~MENOE |3ෆ|3~VOOI |3~PEEI |3~REI |3ٝ|3V|3P|3~CHERY |3~SHOOI |3~SHCHOOI |3~YRY |3В|3W|3ǲ|3р|3Ë|3~TSIU |3~VER |3ڨ|3ޝ|3Ѿ|3͇|3Ȥ|3ú|3ߕ|0AFȑ!Ⱦ|4ළ|4ޟ|4ෆ|4ٝ|@10380|0ɵ!~ALPA |2̝|2~GAMLA |2ƛ|2̍|2ʥ|2˘|2θ|2~HOTA |2Ԧ|2х|2Ǥ|2ɣ|2Λ|2̟|2~DHAL |2ƹ|2Ϯ|2~SAMKA |2ȅ|2σ|2෇|2~QOPA |2~RASHA |2~THANNA |2ʸ|2e|2]|2P|2५|@1039F|0ɵˣ׎|0FǓ#6|3]|3P|3¢|3˷|3Ď|3͎|3Ά|3ŵ|3Ű|3Ӝ|3ü|3ˍ|3ć|3̦|3̥|3Ʊ|3Þ|3ī|3ȝ|3ö|3ɥ|3ð|3ʂ|3ȣ|3ú|3ǋ|3Ҏ|3â|3˥|3ô|3ā|3ǣ|3ů|3Ȟ|3Ë|@103C8|0FǓ#~AURAMAZDAA |3~AURAMAZDAA-2 |3~AURAMAZDAAHA |3~XSHAAYATHIYA |3~DAHYAAUSH |3~DAHYAAUSH-2 |3~BAGA |3~BUUMISH |2ˣ׎|2?S|3X|3ō|3ǫ|3Ñ|@10400|0ś'!ò]|4Z|46|4ϩ|4W|4ǲ|3Ż]|4Z|46|4ϩ|4W|4ǲ|3Ϭ|3گ|3Р|3֤|3Ē|3ґ|3֡|3֢|3֥|3݃|3֦|3࣯|3෈|3р|3ӛ|3ҹ|3ٕ|3Б|3ْ|3̛|3݁|3ͻ|3ˢ|3̳|3ǃ|3Ϟ|3ؗ|3ৢ|1%!ò]|4Z|46|4ϩ|4W|4ǲ|3Ż]|4Z|46|4ϩ|4W|4ǲ|3Ϭ|3گ|3Р|3֤|3Ē|3ґ|3֡|3֢|3֥|3݃|3֦|3࣯|3෈|3р|3ӛ|3ҹ|3ٕ|3Б|3ْ|3̛|3݁|3ͻ|3ˢ|3̳|3ǃ|3Ϟ|3ؗ|3ৢ|0Ƕ!~PEEP |2ഘ|2~KICK |2Լ|2~THIGH |2ʧ|2~SURE |2౫|2~YEA |2~HUNG |2~BIB |2~DEAD |2~GAG |2~VOW |2~THEY |2൚|2Օ|2~JUDGE |2~WOE |2~HA-HA |2~LOLL |2~MIME |2~IF |2෉|2Ǆ|2~ADO |2Ɗ|2ය|2͖|2ϩ|2~ROAR |2ƹ|2ו|2~AGE |2Ӳ|2¨|2~OAK |2~OOZE |2ߙ|2~AWE |2~ARE |2Ĥ|2ע|2ݥ|2~ARRAY |2Հ|2්|2~YEW |0ȫ!¾|2ī|2ü|2Ű|2Ά|2ƛ|2~DEEL |2â|2ā|2~SHIIN |2ǳ|2෋|2Ď|2ȝ|2ৣ|2૒|2~LAAN |2~MIIN |2~NUUN |2ȕ|2Ë|2ú|26|2Z|2]|2W|2P|2ĵ|2Ȗ|2ǲ|@104A0|0ȫ0ĩ|2S|2X|2c|2o|2x|2½|2È|2¼|2Î|@104B0|0Ž'!6|3Ŗ|3ȅ|3ϩ|3෌|3Ɨ|3෍|3Z|3෎|3Ë|3ා|3]|3¢|3ැ|3८|3ô|3ð|3ö|3W|3ෑ|3Þ|3ි|3ā|3ů|3ü|3ී|3ʁ|3ු|3΄|3ǳ|3P|3Ŷ|3ƛ|3ǩ|3ǣ|3˳|@104D8|0Ž%!6|3Ŗ|3ȅ|3ϩ|3෌|3Ɨ|3෍|3Z|3෎|3Ë|3ා|3]|3¢|3ැ|3८|3ô|3ð|3ö|3W|3ෑ|3Þ|3ි|3ā|3ů|3ü|3ී|3ʁ|3ු|3΄|3ǳ|3P|3Ŷ|3ƛ|3ǩ|3ǣ|3˳|@10500|0Ȭ!6|2ͺ|2ҏ|2˕|2˯|2޽|2ڦ|2҅|2Z|2ϧ|2ё|2࠼|2Ȝ|2]|2ϣ|2̇|2Ǫ|2~LLE |2ɛ|2ɒ|2ö|2ӄ|2W|2Ǹ|2ܸ|2̶|2഻|2˺|2Ȁ|2ȼ|2ȍ|2P|2͈|2֣|2Ī|2˰|2͟|2̲|2~GHAMMA |2࣢|@10530|0ǖǗ!~ALT |3ֆ|3ࡂ|3ക|3৤|3~ZARL |3෕|3~ZHIL |3~TAS |3Ɨ|3~YOWD |3˳|3~IRB |3ů|3ූ|3~INYA |3~XEYN |3~DYAN |3ӱ|3~JHOX |3~KAR |3~LYIT |3~HEYT |3~QAY |3~AOR |3~CHOY |3ʶ|3~CYAY |3෗|3ى|3~NOWC |3~DZYAY |3~SHAK |3~JAYN |3Ɗ|3~TYAY |3~FAM |3~DZAY |3ഹ|3ף|3~GHEYS |3ޱ|3~SEYK |3~VEYZ |3~TIWR |3ௐ|3~IWN |3~CYAW |3෋|3~YAYD |3ࡇ|3~KIW |@1056F|0ǖǗ~CITATION L|0ƈ'!6|3م|3ͺ|3ҏ|3˕|3˯|3ڦ|3҅|3Z|3ϧ|3Ď|@1057C|0ƈ'!Ë|3ҍ|3]|3ෘ|3ϣ|3¢|3ô|3ʜ|3ɛ|3ɒ|3ӄ|3W|3Ǹ|3̏|3̶|@1058C|0ƈ'!˺|3Ȁ|3ȼ|3ȍ|3P|3͈|3֣|@10594|0ƈ'!Ī|3˰|@10597|0ƈ%!6|3م|3ͺ|3ҏ|3˕|3˯|3ڦ|3҅|3Z|3ϧ|3Ď|@105A3|0ƈ%!Ë|3ҍ|3]|3ෘ|3ϣ|3¢|3ô|3ʜ|3ɛ|3ɒ|3ӄ|3W|3Ǹ|3̏|3̶|@105B3|0ƈ%!˺|3Ȁ|3ȼ|3ȍ|3P|3͈|3֣|@105BB|0ƈ%!Ī|3˰|@10600|0@6#~AB001 |3~AB002 |3~AB003 |3~AB004 |3~AB005 |3~AB006 |3~AB007 |3~AB008 |3~AB009 |3~AB010 |3~AB011 |3~AB013 |3~AB016 |3~AB017 |3~AB020 |3~AB021 |3~AB021F |3~AB021M |3~AB022 |3~AB022F |3~AB022M |3~AB023 |3~AB023M |3~AB024 |3~AB026 |3~AB027 |3~AB028 |3~A028B |3~AB029 |3~AB030 |3~AB031 |3~AB034 |3~AB037 |3~AB038 |3~AB039 |3~AB040 |3~AB041 |3~AB044 |3~AB045 |3~AB046 |3~AB047 |3~AB048 |3~AB049 |3~AB050 |3~AB051 |3~AB053 |3~AB054 |3~AB055 |3~AB056 |3~AB057 |3~AB058 |3~AB059 |3~AB060 |3~AB061 |3~AB065 |3~AB066 |3~AB067 |3~AB069 |3~AB070 |3~AB073 |3~AB074 |3~AB076 |3~AB077 |3~AB078 |3~AB079 |3~AB080 |3~AB081 |3~AB082 |3~AB085 |3~AB086 |3~AB087 |3~A100-102 |3~AB118 |3~AB120 |3~A120B |3~AB122 |3~AB123 |3~AB131A |3~AB131B |3~A131C |3~AB164 |3~AB171 |3~AB180 |3~AB188 |3~AB191 |3ෙ|3ේ|3ෛ|3ො|3ෝ|3ෞ|3ෟ|3෠|3෡|3~A309B |3~A309C |3෢|3෣|3෤|3~A313A |3~A313B |3~A313C |3෥|3෦|3෧|3෨|3෩|3෪|3෫|3෬|3෭|3෮|3෯|3෰|3෱|3ෲ|3ෳ|3෴|3෵|3෶|3~A332 |3෷|3෸|3෹|3෺|3෻|3෼|3෽|3෾|3෿|3฀|3ก|3ข|3ฃ|3ค|3ฅ|3ฆ|3ง|3จ|3ฉ|3ช|3ซ|3ฌ|3ญ|3ฎ|3ฏ|3ฐ|3ฑ|3ฒ|3ณ|3ด|3ต|3ถ|3ท|3ธ|3น|3บ|3ป|3ผ|3ฝ|3~A400-VAS |3~A401-VAS |3~A402-VAS |3~A403-VAS |3~A404-VAS |3~A405-VAS |3~A406-VAS |3~A407-VAS |3~A408-VAS |3~A409-VAS |3~A410-VAS |3~A411-VAS |3~A412-VAS |3~A413-VAS |3~A414-VAS |3~A415-VAS |3~A416-VAS |3~A417-VAS |3~A418-VAS |3พ|3ฟ|3ภ|3ม|3ย|3ร|3ฤ|3ล|3ฦ|3ว|3ศ|3ษ|3ส|3ห|3ฬ|3อ|3ฮ|3ฯ|3ะ|3ั|3า|3ำ|3ิ|3ี|3~A531 |3~A532 |3~A534 |3~A535 |3~A536 |3~A537 |3~A538 |3~A539 |3~A540 |3~A541 |3~A542 |3~A545 |3~A547 |3~A548 |3~A549 |3~A550 |3~A551 |3~A552 |3~A553 |3~A554 |3~A555 |3~A556 |3~A557 |3~A559 |3~A563 |3~A564 |3~A565 |3~A566 |3~A568 |3~A569 |3~A570 |3~A571 |3~A572 |3~A573 |3~A574 |3~A575 |3~A576 |3~A577 |3~A578 |3~A579 |3~A580 |3~A581 |3~A582 |3~A583 |3~A584 |3~A585 |3~A586 |3~A587 |3~A588 |3~A589 |3~A591 |3~A592 |3~A594 |3~A595 |3~A596 |3~A598 |3~A600 |3~A601 |3~A602 |3~A603 |3~A604 |3~A606 |3~A608 |3~A609 |3~A610 |3~A611 |3~A612 |3~A613 |3~A614 |3~A615 |3~A616 |3~A617 |3~A618 |3~A619 |3~A620 |3~A621 |3~A622 |3~A623 |3~A624 |3~A626 |3~A627 |3~A628 |3~A629 |3~A634 |3~A637 |3~A638 |3~A640 |3~A642 |3~A643 |3~A644 |3~A645 |3~A646 |3~A648 |3~A649 |3~A651 |3~A652 |3~A653 |3~A654 |3~A655 |3~A656 |3~A657 |3~A658 |3~A659 |3~A660 |3~A661 |3~A662 |3~A663 |3~A664 |@10740|0@6#~A701 6|3~A702 a|3~A703 ě|3~A704 Z|3~A705 Ź|3~A706 Ē|3~A707 Ŝ|3~A708 ď|3~A709 ·|3~A709-2 ~L2 |3~A709-3 ~L3 |3~A709-4 ~L4 |3~A709-6 ~L6 |3~A710 œ|3~A711 Ń|3~A712 Ī|3~A713 Ŵ|3~A714 ~ABB |3~A715 ~BB |3~A717 ~DD |3~A726 ~EYYY |3~A732 ϣ|@10760|0@6#~A800 |3~A801 |3~A802 |3~A803 |3~A804 |3~A805 |3~A806 |3~A807 |@10780|0`!%'ĵ|2ʙˮɠ|3¶ˮɠ|2%ɢ|3'a|3a$v|@10787|0`!%мɱ|5$ȓv|6˭|3ۥɱ|3ě$ư|5v|6:ư|3ŀZ|3ȊŀùZ|3࠶ɱ|3઄ɖ|3'ĉ|3ĉ$v|3'ĉ$v|3Ē$j|3'Ē|3ؘ$v|3́Ŝ$j:v|3ઇɱ|3ઈɱ|3·$Џ|3'·$Џ|3·$ȓv:Џ|3ۤ|4$ȓv|3èĪ|5$Џ|3W$j|3'ȉ|3ȊŴ|3Ƶ|3èª$ò̎|8:ȓv|3ª$ư|5ҽ|3'ª|3આɱ$˭|3ۦɱ|5$ȓv|3ۧɱ|3Č$ȓv|3ē$Gv|@107B2|0`!%'Ī|2ɍŮ$j|2ŀɍŮ$j|2࠵Ў|2࠴Ў|2੽Ў|2੾Ў|2ȓЎ$ȓv|2%«$˭|@10800|0Ǎ&6|2Z|2]|2W|2P|2Ű|@10808|0Ǎ&Т|@1080A|0Ǎ&¢|2̇|2˚|2ˋ|2˷|2ô|2Ǫ|2Ɯ|2̆|2ʹ|2ð|2ɛ|2ʂ|2˴|2ȣ|2ö|2ɒ|2ɑ|2ȟ|2ɥ|2Þ|2Ǹ|2Ǜ|2̴|2σ|2â|2̶|2͍|2ʨ|2˥|2ā|2˺|2˙|2ʧ|2˶|2ü|2ȼ|2̣|2e|2ˍ|2Ŷ|2ʷ|2˹|2˘|@10837|0Ǎ&Ά|2֣|@1083C|0Ǎ&ǣ|@1083F|0Ǎ&Ϩ|0ɶɷ!͘|3͉|3͢|3ѩ|3Ȝ|3ȕ|3Ν|3Ϳ|3К|3Β|3ͥ|3Γ|3̟|3ƹ|3ͣ|3ϥ|3Ǹ|3ͦ|3ԁ|3λ|3ɣ|3͊|@10857|0ɶɷȲ#|2?S|3X|3c|3ō|3ǫ|3SÑ|4ó|3ōó|0ɭ!͘|2͉|2͢|2ѩ|2Ȝ|2ȕ|2Ν|2Ϳ|2К|2Β|2ͥ|2Γ|2̟|2Tƹ|2ƹ|2ͣ|2ϥ|2Ǹ|2ͦ|2ԁ|2λ|2ɣ|2͊|1̌৥|1˔৥|1?S|2X|2c|2o|2x|2ō|2ǫ|0ȭ!T͘|2͘|2T͉|2͉|2͢|2ѩ|2TȜ|2Ȝ|2ȕ|2Ν|2Ϳ|2К|2TΒ|2Β|2Tͥ|2ͥ|2TΓ|2Γ|2T̟|2̟|2Tƹ|2ƹ|2ͣ|2ϥ|2Ǹ|2ͦ|2ԁ|2λ|2Tɣ|2ɣ|2͊|@108A7|0ȭ?S|2X|2c|2o|1~CRUCIFORM ?o|1?x|2ō|2ǫ|2SÑ|@108E0|0˂!͘|2͉|2͢|2~DALETH-RESH |2Ȝ|2ȕ|2ึ|2Ϳ|2К|2Β|2ͥ|2Γ|2̟|2ƹ|2ͣ|2ื|2Ǹ|2ͦ|2ԁ|@108F4|0˂!ɣ|2͊|@108FB|0˂?S|2x|2ō|2ǫ|2SÑ|0ʓ!~ALF |2ֆ|2~GAML |2~DELT |2Ȝ|2१|2~ZAI |2ળ|2Ԧ|2х|2Ǥ|2~LAMD |2̟|2ƹ|2~SEMK |2ȅ|2Ǹ|2෇|2ࡐ|2~ROSH |2ɣ|2̱|1?S|2ō|2ǫ|2SÑ|2X|2c|@1091F|0ʓˣə|0ʮ!6|2a|2ĉ|2ě|2Z|2ē|2]|2Ī|2ď|2·|2ø|2à|2W|2ª|2ߔ|2Č|2P|2Ź|2Ƶ|2«|2ৡ|2Ⱦ|2ǃ|2ࣥ|2ؽ|2ļ|@1093F|0ʮˮL|@10980|0äɮ!6|3Z|3]|3W|3ú|3Ŷ|3ī|3~BA-2 |3Þ|3ð|3ö|3ุ|3ɒ|3ู|3â|3ฺ|3ô|3ƛ|3ҍ|3ā|3฻|3˺|3¢|3̏|3ü|3฼|3ȼ|3฽|3e|3ć|2-~VIDJ |3~VIDJ-2 |1Ĵ!6|3Z|3]|3W|3ú|3Ŷ|3ī|3Þ|3ð|3ö|3ɒ|3â|3ô|3ƛ|3ҍ|3ā|3Ȣā|3˺|3¢|3̏|3ü|3ȼ|3e|3ć|@109BC|0äĴėϵѪ|3S¶|2ӽ~RMT |3~IMN |2?S|3X|3c|3o|3x|3½|3È|3¼|3Î|3ō|3ǫ|3ʃ|3ʩ|3ɓ|3͏|3ɜ|@109D2|0äĴ?SÑ|3XÑ|3cÑ|3oÑ|3xÑ|3½Ñ|3ÈÑ|3¼Ñ|3ÎÑ|3Só|3Xó|3có|3oó|3xó|3½ó|3Èó|3¼ó|3Îó|3ōó|3ǫó|3ʃó|3ʩó|3ɓó|3͏ó|3ɜó|3·ó|3Ⱥó|3SÑó|3XÑó|3cÑó|3oÑó|3xÑó|3½Ñó|3ÈÑó|3¼Ñó|3ÎÑó|2ėS~TWELFTH |3XѪ|3cѪ|3oѪ|3xѪ|3½Ѫ|3ÈѪ|3¼Ѫ|3ÎѪ|3ōѪ|0ƒ!6|12#]|3P|3Âª|@10A05|0ƒ2#Z|3W|@10A0C|0ƒ2΂L|1#Uç[|2ǔ|2ȸ|1!¢|2ƛ|2Ď|2ǩ|@10A15|0ƒ!ŵ|2Ɨ|2Ű|@10A19|0ƒ!ƚ|2ǟ|2ȗ|2Ǧ|2Ȩ|2Ȇ|2ü|2Ʊ|2ć|2ǳ|2ö|2Þ|2Ǌ|2ī|2Ȍ|2ð|2ú|2â|2ô|2ǋ|2ů|2Ȟ|2ā|2ǣ|2Ë|2ࢅ|2~TTTHA |2૥|2~VHA |@10A38|0ƒ#¿H|2~CAUDA |2^[|@10A3F|0ƒȠ|10S|2X|2c|2o|1?ō|2ǫ|2SÑ|3ó|1ėS¶|@10A50|0ƒč^|2%À|2À|2ׂ¿|2~MANGALAM |2ߜ|2ʀ|2Uʀ|2ऴ|@10A60|0FĺƤ!Ȝ|4Γ|4Ϳ|4̟|4ԁ|4ȕ|4ɣ|4λ|4͉|4͊|4ࣷ|4ͥ|4ƹ|4~KHETH |4ͦ|4ͣ|4ϧ|4¾|4ื|4~DHADHE |4͢|4ѩ|4~GHAYN |4К|4ึ|4~DHALETH |4Β|4~THAW |4~THETH |3?S|4ɓ|3÷ɡ|1ąƤ!Ǩ|4ű|4ì|4 |4Ɉ|4ȕ|4~ES-2 |4ȶ|4Ȅ|4ǒ|4~ES-1 |4Ǥ|4Ɛ|4Ə|4ɚ|4~ES-3 |4ȷ|4¾|4ȅ|4ɦ|4~GEEM |4̠|4ʸ|4Ȧ|4ͤ|4Ӊ|4¤|4˗|4Π|3?S|4ō|4ǫ|@10AC0|0Ǣ!͘|2͉|2ૅ|2͢|2~GHIMEL |2ѩ|2Ȝ|2ȕ|1#ʝ|1!Ν|2~ZHAYIN |2~JAYIN |2~JHAYIN |2Ϳ|2К|2Β|2ͥ|2~XAPH |2૊|2Γ|2~DHAMEDH |2~THAMEDH |2̟|2ƹ|2ͣ|2ϥ|2~AAYIN |2Ǹ|2ϧ|2ͦ|2ԁ|2~XOPH |2~QHOPH |2λ|2ɣ|2~SSHIN |2͊|1̞LH|3[|@10AEB|0Ǣ?S|2x|2ō|2ǫ|2SÑ|1čƷ|2৥|2U^Ԭ^|2^Ԭ^|3|2XÕ|2ŕҌ|@10B00|0ǎ!6|2ĵ|2ݨ|2~AAO |2Ⱦ|2฾|2ɢ|2฿|2Z|2Ȗ|2W|2ǲ|2]|2ř|2P|2Ų|2̇|2֣|2ರ|2~XVE |2ё|2ࢹ|2̲|2ҏ|2ϣ|2ȼ|2ȍ|2˯|2ڦ|2ٛ|2Ǹ|2ϧ|2ͺ|2߅|2ന|2~NGYE |2~NGVE |2ɒ|2ࢱ|2~NNE |2ɛ|2~HME |2~YYE |2ͪ|2͈|2̶|2Ǫ|2˺|2˰|2Ȁ|2͟|2~SHYE |2~SSHE |2Ȝ|@10B39|0ǎ̞L|0ڌXÕØS^č|0%XÕØS^č|0ĬXÕØS^č|1S^ØXÕč|1XเØSçč|1SçØXเč|0ƿʇ!͘|3͉|3͢|3ѩ|3Ȝ|3ȕ|3Ν|3Ϳ|3К|3Β|3ͥ|3Γ|3̟|3ƹ|3ͣ|3ϥ|3Ǹ|3ͦ|3ԁ|3λ|3ɣ|3͊|@10B58|0ƿʇ?S|3X|3c|3o|3ō|3ǫ|3SÑ|4ó|1Ǉ!͘|3͉|3͢|3ѩ|3Ȝ|3แ|3Ν|3Ϳ|3К|3Β|3ͥ|3Γ|3โ|3ƹ|3ͣ|3Ǹ|3ͦ|3ɣ|3͊|@10B78|0ƿǇ?S|3X|3c|3o|3ō|3ǫ|3SÑ|4ó|0ʔǇ!͘|3͉|3͢|3ѩ|3Ȝ|3แ|3Ν|3Ϳ|3Β|3ͥ|3Γ|3โ|3ƹ|3ͣ|3Ǹ|3ͦ|3ɣ|3͊|@10B99|0ʔǇȲL|2èȲL|2oÕ$ǚ|5^|@10BA9|0ʔǇ?S|3X|3c|3o|3ō|3ǫ|3SÑ|@10C00|0FŸ!Ț6|3ɸ6|4ɢ|3Ț]|3ɸ]|4Z|3ȚW|4ȉ|3ɸȉ|3Ț̃|3ɸ̃|3Țใ|3ɸใ|3Ț܂|3ɸ܂|3Țไ|3ɸไ|3ȚԪ|3ɸԪ|3Ț~AED |4ڰ|3ɸڰ|3ȚϬ|3ɸϬ|3Țๅ|3ɸๅ|3Țๆ|3ɸๆ|3Ț็|3ɸ็|3Ț͌|3ɸ͌|3Ț~AEL |4~ELT |4̳|4Ⱦ|4֟|3ɸ֟|3Țߝ|3ɸߝ|3Țߞ|3ɸߞ|3Țפ|3ɸפ|4ο|3ȚϞ|3ɸ~AENG |3Țݤ|4দ|4০|4ڱ|3ɸڱ|3Țص|3ɸص|3Ț১|3ɸ১|3Ț২|3ɸ২|3Țࡦ|3ɸࡦ|3Ț~AER |4Σ|4~AES |4Ǆ|3ɸǄ|3Ț̛|3ɸ̛|3Țʣ|3ɸʣ|3Ț่|3ɸ่|3Țۭ|4~BASH |@10C80|0Fþ'!6|4ĵ|4৤|4้|4ڱ|4ߞ|4๊|4๋|4:|4Z|4इZ|4Ȗ|4р|4์|4ํ|4у|4]|4ř|4๎|4֐|4֌|4๏|4ˢ|4๐|4̳|4ǃ|4פ|4W|4ǲ|4ߟȉ|4ߠȉ|4๑|4ݤ|4๒|4ͻ|4Żͻ|4Б|4๓|4κ|4ߝ|4๔|4փ|4P|4Ų|4ߟˤ|4ߠˤ|4ঙ|4ڰ|4๕|4๖#|4ֱ|@10CC0|0Fþ%!6|4ĵ|4৤|4้|4ڱ|4ߞ|4๊|4๋|4:|4Z|4इZ|4Ȗ|4р|4์|4ํ|4у|4]|4ř|4๎|4֐|4֌|4๏|4ˢ|4๐|4̳|4ǃ|4פ|4W|4ǲ|4ߟȉ|4ߠȉ|4๑|4ݤ|4๒|4ͻ|4Żͻ|4Б|4๓|4κ|4ߝ|4๔|4փ|4P|4Ų|4ߟˤ|4ߠˤ|4ঙ|4ڰ|4๕|4๖#|4ֱ|@10CFA|0Fþ?S|3x|3ō|3ɓ|3SÑ|4ó|0ǧǠ!6|3ī|3Þ|3ü|3ǟ|3Ű|3ŵ|3Ë|3ƛ|3ȝ|3ć|3Ǧ|3â|3̐|3ǣ|3ā|3ů|3¢|3Ď|3ô|3ð|3ö|3Ŷ|3๗Ŷ|3ú|3๗ú|3Ū|3ƚ|3ǋ|226|3]|3P|3Z|3W|2L~SAKIN |3ö~KHONNA |2#~HARBAHAY |3~TAHALA |3~TANA |3~TASSI |@10D30|0ǧǠ0ĩ|3S|3X|3c|3o|3x|3½|3È|3¼|3Î|@10E60|0ɹ0S|2X|2c|2o|2x|2½|2È|2¼|2Î|1?ō|2ǫ|2ʃ|2ʩ|2ɓ|2͏|2ɜ|2·|2Ⱥ|2SÑ|2XÑ|2cÑ|2oÑ|2xÑ|2½Ñ|2ÈÑ|2¼Ñ|2ÎÑ|1ėS¶|3ȳ|3χ|2XҖ|@10E80|0Ǽ!~ELIF |2ͺ|2Ǹ|2ࢼ|2ȍ|2˺|2ͱ|2~CHIM |2~CHHIM |2ҍ|2Ά|2̠|2ݠ|2â|2ѿ|2ǣ|2Ű|2۵|2ɣ|2ɚ|2ɦ|2ü|2˰|2෕|2~XHEYN |2ȝ|2ǋ|3Ȫ1|2Ɉ|2Ǥ|2~KHAF |2ц|2ű|2۾|2ƹ|2Ҭ|2ȕ|2گ|2ৢ|2~HAY |2ؙ|2κ|@10EAB|0ǼAŘL|2ЖL|1ఌL|@10EB0|0Ǽ!ű$^H|2ؙ$ŔH|@10F00|0Fń!͘|3T͘|3͉|3T͉|3͢|3Ȝ|3TȜ|3ȕ|3Ν|3Ϳ|3Β|3ͥ|3Γ|3̟|3ƹ|3Tƹ|5$rư|3ͣ|3ϥ|3Ȫϥ|3Ǹ|3ͦ|3Tͦ|5$rư|3~RESH-AYIN-DALETH |3ɣ|3͊|3T͊|5$rư|2?S|3X|3c|3o|3x|3ō|3ǫ|3ʃ|3SÑ|2ėS¶|2B~AYIN-DALETH |@10F30|0ń!͘|2͉|2͢|2Ȝ|2ȕ|2Ν|2Ϳ|2Β|2ͥ|2Γ|2̟|2ƹ|2ͣ|2ϥ|2Ǹ|2ͦ|2~RESH-AYIN |2ɣ|2͊|2~FETH |2๘|1˛ɣ|1A^[|2XÕ[|2^H|2XÕH|2ȰH|3[|2vH|3[|2òv[|2λ[|2j[|1?S|2ō|2ǫ|2SÑ|1čXrٽ|5$Õ|2À$^|2X͙$Õ|2¶À$^|@10F70|0F˃!͘|3͉|3~GIMEL-HETH |3ȕ|3Ν|3TͿ|3Β|3ͥ|3Γ|3̟|3ƹ|3ͣ|3Ǹ|3ͦ|3λ|3ɣ|3͊|3๘|2A^H|4[|3XÕH|5[|2č¿|3Xٽ|4Õ|3oÕ|@10FB0|0ʢ!͘|2%͘|2͉|2͢|2ѩ|2Ȝ|2ȕ|2~CURLED ȕ|2Ν|2Ϳ|2Β|2ͥ|2Γ|2̟|2ƹ|2ͣ|2ϥ|2Ǹ|2λ|2ɣ|2͊|1?S|2X|2c|2o|2ō|2ǫ|2SÑ|@10FE0|0˩!͘|2͉|2͢|2ѩ|2Ȝ|2ȕ|2Ν|2Ϳ|2К|2Β|2ͥ|2Γ|2̟|2ƹ|2ͣ|2ϥ|2Ǹ|2ͦ|2ԁ|2λ|2ɣ|2͊|1B~ZAYIN-YODH |@11000|0ñ#ɘ|2ǔ|2ȸ|2֓|2֔|1!6|2ĵ|2]|2ř|2P|2Ų|2Âª|3ȩ|3·|3ɐ|2Z|2Ŗ|2W|2ū|2¢|2ƛ|2Ď|2ǩ|2Ū|2ŵ|2Ɨ|2Ű|2ɉ|2ƚ|2ǟ|2ȗ|2Ǧ|2Ȩ|2Ȇ|2ü|2Ʊ|2ć|2ǳ|2ö|2Þ|2Ǌ|2ī|2Ȍ|2ð|2ú|2â|2ô|2ǋ|2ů|2Ȟ|2ā|2Ë|2ʜ|2F×ԫ|4̐|4ط|12#ĵ|3~BHATTIPROLU ĵ|3]|3ř|3P|3Ų|3Âª|4ȩ|4·|4ɐ|3Z|3Ŗ|3W|3ū|1Ƞ|1ʀ|1Uʀ|1č^|2U^|2ŕ|2ׂ¿|2ߜ|@11052|0ñ?S|2X|2c|2o|2x|2½|2È|2¼|2Î|2ō|2ǫ|2ʃ|2ʩ|2ɓ|2͏|2ɜ|2·|2Ⱥ|2SÑ|3ó|10ĩ|2S|2X|2c|2o|2x|2½|2È|2¼|2Î|1#F×Ƞ|1!F×ŻZ|5W|12#F×ŻZ|6W|1!F×ʜ|@1107F|0ñ?Ԣ|0Ɠ#ɘ|2ǔ|2ȸ|1!6|2ĵ|2]|2ř|2P|2Ų|2Z|2Ŗ|2W|2ū|2¢|2ƛ|2Ď|2ǩ|2Ū|2ŵ|2Ɨ|2Ű|2ɉ|2ƚ|2ǟ|2ȗ|2Ǧ|2૞|2Ȩ|2ѿ|2Ȇ|2ü|2Ʊ|2ć|2ǳ|2ö|2Þ|2Ǌ|2ī|2Ȍ|2ð|2ú|2â|2ô|2ǋ|2ů|2Ȟ|2ā|2Ë|12#ĵ|3]|3ř|3P|3Ų|3Z|3Ŗ|3W|3ū|1#Ƞ|2ˊ|1̞#|1~ENUMERATION #|1?#|1ȲL|1UȲL|1ʀ|1Uʀ|12#Âª|@110CD|0Ɠ?#H|@110D0|0ɔɕ!૛|3Ȧ|3~BAH |3~CAH |3~DAH |3๙|3๚|3~NGAH |3~LAH |3ࣀ|3Ƀ|3~PAH |3ޢ|3~RAH |3ì|3உ|3~JAH |3~NYAH |3ϩ|3~EEH |3ँ|3স|3؜|3у|3๛|@110F0|0ɔɕ0ĩ|3S|3X|3c|3o|3x|3½|3È|3¼|3Î|@11100|0Ƃ#ɘ|2ǔ|2ȸ|1!ĵ|2]|2P|2Z|2ܼ|2્|2ٓ|2๜|2ݒ|2ࢭ|2୨|2ୟ|2~JHAA |2ୗ|2ો|2ࣰ|2ଢ଼|2ක|2~NNAA |2Ը|2س|2୚|2~DHAA |2֋|2݇|2୩|2܀|2~BHAA |2ࢦ|2~YYAA |2֊|2ز|2ٍ|2ّ|2ܶ|2Л|12#6|3]|3ř|3P|3Ų|3Z|3Ŗ|3W|3ū|3ؗ|1WL|1ūL|1Ƞ|1~MAAYYAA |@11136|0Ƃ0ĩ|2S|2X|2c|2o|2x|2½|2È|2¼|2Î|1ȲL|1ʀ|1Uʀ|1ʈL|1!ஷ|12#ĵ|3҅|1!୔|@11150|0ȱ!6|2]|2P|2Z|2W|2¢|2ƛ|2Ď|2ǩ|2ŵ|2Ɨ|2Ű|2ɉ|2ƚ|2ǟ|2ȗ|2Ǧ|2Ȩ|2Ȇ|2ü|2Ʊ|2ć|2ǳ|2ö|2Þ|2Ǌ|2ī|2Ȍ|2ð|2â|2ô|2ǋ|2ā|2Ë|2̐|1#ˊ|1̞#|1ȲL|1B๝|@11180|0Ģ#ɘ|2ǔ|2ȸ|1!6|2ĵ|2]|2ř|2P|2Ų|2Âª|3ȩ|3·|3ɐ|2Z|2Ŗ|2W|2ū|2¢|2ƛ|2Ď|2ǩ|2Ū|2ŵ|2Ɨ|2Ű|2ɉ|2ƚ|2ǟ|2ȗ|2Ǧ|2Ȩ|2Ȇ|2ü|2Ʊ|2ć|2ǳ|2ö|2Þ|2Ǌ|2ī|2Ȍ|2ð|2ú|2â|2ô|2ʜ|2ǋ|2ů|2Ȟ|2ā|2Ë|12#ĵ|3]|3ř|3P|3Ų|3Âª|4ȩ|4·|4ɐ|3Z|3Ŗ|3W|3ū|1#Ƞ|2ͧ|2֓|2֔|1μ|1ʀ|1Uʀ|1̞#|1ə|1҂L|1#ˊ|12`L|1~EXTRA Ż2L|1~SUTRA L|12#ࡧZ|1#Ɩɘ|10ĩ|2S|2X|2c|2o|2x|2½|2È|2¼|2Î|1~EKAM |1#Ę|1৓|1~CONTINUATION #|1Ȳ٦|2٧|@111E1|0ûȢ0S|3X|3c|3o|3x|3½|3È|3¼|3Î|2?ō|3ǫ|3ʃ|3ʩ|3ɓ|3͏|3ɜ|3·|3Ⱥ|3SÑ|4ó|@11200|0ƭ!6|2ĵ|2]|2P|2Z|2Ŗ|2W|2ū|2¢|2ƛ|2Ď|2֍|2ǩ|2Ū|2ŵ|2Ɨ|2Ű|2ػ|@11213|0ƭ!ƚ|2ǟ|2ȗ|2Ǧ|2Ȩ|2Ȇ|2ü|2Ʊ|2ć|2܆|2ǳ|2ö|2Þ|2Ǌ|2ī|2ԭ|2Ȍ|2ð|2ú|2â|2ô|2ǋ|2ā|2Ë|2ʜ|12#ĵ|3]|3ř|3P|3Z|3Ŗ|3W|3ū|1#ǔ|2Ƞ|2ˊ|2΢|1ʀ|1Uʀ|1ˣə|1ȲL|1UȲL|1̞#|1#ӊ|@11280|0Ȼ!6|2]|2P|2Z|2¢|2ƛ|2Ď|@11288|0Ȼ!ǩ|@1128A|0Ȼ!ŵ|2Ɨ|2Ű|2ػ|@1128F|0Ȼ!ƚ|2ǟ|2ȗ|2Ǧ|2܆|2Ȩ|2Ȇ|2ü|2Ʊ|2ć|2ǳ|2ö|2Þ|2Ǌ|2ī|@1129F|0Ȼ!Ȍ|2ð|2ú|2â|2ô|2ǋ|2ā|2Ë|2̐|2ѿ|1ȲL|@112B0|0ƌ!6|2ĵ|2]|2ř|2P|2Ų|2Z|2Ŗ|2W|2ū|2¢|2ƛ|2Ď|2֍|2ǩ|2Ū|2ŵ|2Ɨ|2Ű|2ػ|2ɉ|2ƚ|2ǟ|2ȗ|2Ǧ|2܆|2̐|2Ȩ|2Ȇ|2ü|2Ʊ|2ć|2ǳ|2ö|2Þ|2Ǌ|2ī|2ԭ|2Ȍ|2ð|2ú|2â|2ô|2ǋ|2ů|2ā|2Ë|1#ǔ|12#ĵ|3]|3ř|3P|3Ų|3Z|3Ŗ|3W|3ū|1#ˊ|2Ƞ|@112F0|0ƌ0ĩ|2S|2X|2c|2o|2x|2½|2È|2¼|2Î|@11300|0ņ#AǔH|2ɘ|2ǔ|2ȸ|@11305|0ņ!6|2ĵ|2]|2ř|2P|2Ų|2Âª|3·|@1130F|0ņ!Ȗ|2Ŗ|@11313|0ņ!ǲ|2ū|2¢|2ƛ|2Ď|2ǩ|2Ū|2ŵ|2Ɨ|2Ű|2ɉ|2ƚ|2ǟ|2ȗ|2Ǧ|2Ȩ|2Ȇ|2ü|2Ʊ|2ć|2ǳ|2ö|@1132A|0ņ!Þ|2Ǌ|2ī|2Ȍ|2ð|2ú|2â|@11332|0ņ!ô|2ʜ|@11335|0ņ!ǋ|2ů|2Ȟ|2ā|2Ë"

/-- Listed names, part 3. -/
def namesPart3 : String := "@1133B|0Aφ[|0ņ#ˊ|2ͧ|12#ĵ|3]|3ř|3P|3Ų|3Âª|4ȩ|@11347|0ņ2#Ȗ|3Ŗ|@1134B|0ņ2#ǲ|3ū|1#Ƞ|@11350|0ņμ|@11357|0ņū΂L|@1135D|0ņ#๞|1!Ǵǔ|3Uǔ|2Âȩ|3ɐ|12#Â·|4ɐ|@11366|0Aņ0ĩ|3S|3X|3c|3o|3x|3½|@11370|0Aņ!6|3¢|3ö|3Ҏ|3Þ|@11400|0ĝ!6|2ĵ|2]|2ř|2P|2Ų|2Âª|3ȩ|3·|3ɐ|2Z|2Ŗ|2W|2ū|2¢|2ƛ|2Ď|2ǩ|2Ū|2๟|2ŵ|2Ɨ|2Ű|2ɉ|2ƚ|2๠|2ǟ|2ȗ|2Ǧ|2Ȩ|2Ȇ|2ü|2Ʊ|2ć|2ǳ|2ö|2ן|2Þ|2Ǌ|2ī|2Ȍ|2ð|2๡|2ú|2â|2ѿ|2ô|2Ӈ|2Ŷ|2ů|2Ȟ|2ā|2Ë|12#ĵ|3]|3ř|3P|3Ų|3Âª|4ȩ|4·|4ɐ|3Z|3Ŗ|3W|3ū|1#Ƞ|2ɘ|2ǔ|2ȸ|2ˊ|2ͧ|2Tǔ|1μ|1~SIDDHI |1ʀ|1Uʀ|1Ư|1ךҌ|1̞#|10ĩ|2S|2X|2c|2o|2x|2½|2È|2¼|2Î|1UƯ|1৒L|@1145D|0ĝआ#|1҂L|1!Ǵǔ|1#֓|2֔|@11480|0Œ࡬|1!6|2ĵ|2]|2ř|2P|2Ų|2Âª|3ȩ|3·|3ɐ|2Z|2Ŗ|2W|2ū|2¢|2ƛ|2Ď|2ǩ|2Ū|2ŵ|2Ɨ|2Ű|2ɉ|2ƚ|2ǟ|2ȗ|2Ǧ|2Ȩ|2Ȇ|2ü|2Ʊ|2ć|2ǳ|2ö|2Þ|2Ǌ|2ī|2Ȍ|2ð|2ú|2â|2ô|2ǋ|2ů|2Ȟ|2ā|2Ë|12#ĵ|3]|3ř|3P|3Ų|3Âª|4ȩ|4·|4ɐ|3Z|3ŻZ|3Ŗ|3W|3ŻW|3ū|1#ɘ|2ǔ|2ȸ|2Ƞ|2ˊ|2ͧ|1~GVANG |1̞#|1μ|@114D0|0Œ0ĩ|2S|2X|2c|2o|2x|2½|2È|2¼|2Î|@11580|0Ę!6|2ĵ|2]|2ř|2P|2Ų|2Âª|3ȩ|3·|3ɐ|2Z|2Ŗ|2W|2ū|2¢|2ƛ|2Ď|2ǩ|2Ū|2ŵ|2Ɨ|2Ű|2ɉ|2ƚ|2ǟ|2ȗ|2Ǧ|2Ȩ|2Ȇ|2ü|2Ʊ|2ć|2ǳ|2ö|2Þ|2Ǌ|2ī|2Ȍ|2ð|2ú|2â|2ô|2ǋ|2ů|2Ȟ|2ā|2Ë|12#ĵ|3]|3ř|3P|3Ų|3Âª|4ȩ|@115B8|0Ę2#Z|3Ŗ|3W|3ū|1#ɘ|2ǔ|2ȸ|2Ƞ|2ˊ|2Ę|1ʀ|1Uʀ|1ə^|2¿|1ګ٦|2٧|2ඊ|1ȯkЕL|1ȲL$ڲ:ڔ~ORNAMENTS |6ȔԂ|4Ъ:ȔԂ|7UԂ|7ƶԂ|3Uç|5$Ъ|3$UԂ|4ƶԂ|4ЦԂ|4~SEPTUPLE Ԃ|4͙:Ъ|6X๢|6o๢|1!~THREE-CIRCLE Ȫ]|2࡭Ȫ]|4ř|2ȪP|12#ȪP|4Ų|@11600|0Ţ!6|2ĵ|2]|2ř|2P|2Ų|2Âª|3ȩ|3·|3ɐ|2Z|2Ŗ|2W|2ū|2¢|2ƛ|2Ď|2ǩ|2Ū|2ŵ|2Ɨ|2Ű|2ɉ|2ƚ|2ǟ|2ȗ|2Ǧ|2Ȩ|2Ȇ|2ü|2Ʊ|2ć|2ǳ|2ö|2Þ|2Ǌ|2ī|2Ȍ|2ð|2ú|2â|2ô|2ǋ|2ů|2Ȟ|2ā|2Ë|2ʜ|12#ĵ|3]|3ř|3P|3Ų|3Âª|4ȩ|4·|4ɐ|3Z|3Ŗ|3W|3ū|1#ǔ|2ȸ|2Ƞ|2~ARDHACANDRA |1ʀ|1Uʀ|1̞#|1#~HUVA |@11650|0Ţ0ĩ|2S|2X|2c|2o|2x|2½|2È|2¼|2Î|@11660|0°Ϋ$Ɲ|1ơΫ|1UΫ$Ɲ|1ƶΫ$Ɲ|1Ϋ$UƝ|1ơΫ$Ɲ|4UƝ|1ƖΫ|3$UƝ|1ڳΫ|3$Ɲ|4UƝ|1èڳΫ$UƝ|@11680|0Ɣ!6|2ĵ|2]|2ř|2P|2Ų|2Z|2Ŗ|2W|2ū|2¢|2ƛ|2Ď|2ǩ|2Ū|2ŵ|2Ɨ|2Ű|2ɉ|2ƚ|2ǟ|2ȗ|2Ǧ|2Ȩ|2Ȇ|2ü|2Ʊ|2ć|2ǳ|2ö|2Þ|2Ǌ|2ī|2Ȍ|2ð|2ú|2â|2ô|2ǋ|2ů|2ā|2Ë|2̐|1#ǔ|2ȸ|12#ĵ|3]|3ř|3P|3Ų|3Z|3Ŗ|3W|3ū|1#Ƞ|2ˊ|1!Ȣƛ|1̞#|@116C0|0Ɣ0ĩ|2S|2X|2c|2o|2x|2½|2È|2¼|2Î|@11700|0ƞ!¢|2ƛ|2Ū|2ö|2ü|2Ȫü|2Þ|2Ǌ|2ī|2ð|2Ű|2Ɨ|2Ʊ|2â|2ô|2ā|2ƚ|2Ë|26|2ć|2ǳ|2Ď|2ȪĎ|2ǩ|2Ȍ|2ɉ|2Ȫī|@1171D|0ƞĸ#ęô|4â|4~LIGATING â|12#6|3ĵ|3]|3ř|3P|3Ų|3Z|3ࡨ|3W|3Ŗ|3ч|1#~KILLER |@11730|0ƞ0ĩ|2S|2X|2c|2o|2x|2½|2È|2¼|2Î|1?ō|2ǫ|1#%Ȳ|2Ȳ|2~RULAI |1-Ҏ|1!ŵ|2ǟ|2ȗ|2Ǧ|2Ȩ|2Ȇ|2ʜ|@11800|0Ƹ!6|2ĵ|2]|2ř|2P|2Ų|2Z|2Ŗ|2W|2ū|2¢|2ƛ|2Ď|2ǩ|2Ū|2ŵ|2Ɨ|2Ű|2ɉ|2ƚ|2ǟ|2ȗ|2Ǧ|2Ȩ|2Ȇ|2ü|2Ʊ|2ć|2ǳ|2ö|2Þ|2Ǌ|2ī|2Ȍ|2ð|2ú|2â|2ô|2ǋ|2ů|2Ȟ|2ā|2Ë|2̐|12#ĵ|3]|3ř|3P|3Ų|3Âª|4ȩ|3Z|3Ŗ|3W|3ū|1#ǔ|2ȸ|2Ƞ|2ˊ|1̞#|@118A0|0ŉŊ'!ݒ|46|4˹|4Ȥ|4ú|4ɨ|4ř|4Ų|4Z|4W|4ο|4Ď|4ˋ|4פ|4๣|4ݣ|4ঔ|4Ԯ|4ٛ|4৙|4ć|4ʣ|4ч|4ʺ|4σ|4๤|4๥|4๦|4֝|4๧|4ٝ|4๨|2%!ݒ|46|4˹|4Ȥ|4ú|4ɨ|4ř|4Ų|4Z|4W|4ο|4Ď|4ˋ|4פ|4๣|4ݣ|4ঔ|4Ԯ|4ٛ|4৙|4ć|4ʣ|4ч|4ʺ|4σ|4๤|4๥|4๦|4֝|4๧|4ٝ|4๨|20ĩ|3S|3X|3c|3o|3x|3½|3È|3¼|3Î|2?ō|3ǫ|3ʃ|3ʩ|3ɓ|3͏|3ɜ|3·|3Ⱥ|@118FF|0ŉŊμ|0žſ!6|3ĵ|3]|3ř|3P|3Ų|3Z|@11909|0žſ!W|@1190C|0žſ!¢|3ƛ|3Ď|3ǩ|3Ū|3ŵ|3Ɨ|3Ű|@11915|0žſ!ƚ|3ǟ|@11918|0žſ!Ǧ|3Ȩ|3Ȇ|3ü|3Ʊ|3ć|3ǳ|3ö|3Þ|3Ǌ|3ī|3Ȍ|3ð|3ú|3܅|3â|3ô|3ǋ|3ů|3Ȟ|3ā|3Ë|3ʜ|3ǣ|22#ĵ|4]|4ř|4P|4Ų|4Z|@11937|0žſ2#Ŗ|4W|@1193B|0žſ#ǔ|3ɘ|3ࢆ|2Ƞ|2ѫڴ#|2ęú|2yâ|2ęâ|2#ˊ|2Uʀ|2ךҌ|2ȯkЕL|@11950|0žſ0ĩ|3S|3X|3c|3o|3x|3½|3È|3¼|3Î|@119A0|0Ɵ!6|2ĵ|2]|2ř|2P|2Ų|2Âª|3ȩ|@119AA|0Ɵ!Z|2Ŗ|2W|2ū|2¢|2ƛ|2Ď|2ǩ|2Ū|2ŵ|2Ɨ|2Ű|2ɉ|2ƚ|2ǟ|2ȗ|2Ǧ|2Ȩ|2Ȇ|2ü|2Ʊ|2ć|2ǳ|2ö|2Þ|2Ǌ|2ī|2Ȍ|2ð|2ú|2â|2ô|2ǋ|2ů|2Ȟ|2ā|2Ë|2ʜ|2̐|12#ĵ|3]|3ř|3P|3Ų|3Âª|4ȩ|@119DA|0Ɵ2#Z|3Ŗ|3W|3ū|1#ǔ|2ȸ|2Ƞ|2ͧ|2Ę|1৓|12#ࡧZ|@11A00|0ƀM!6|22#]|4ˤ|4P|4Z|4ȉ|4W|4Ŗ|4ū|4ŀ]|3΂L|2!¢|3ƛ|3Ď|3ǩ|3Ū|3ŵ|3Ɨ|3Ű|3ƚ|3ǟ|3ȗ|3Ǧ|3Ȩ|3Ȇ|3ü|3Ʊ|3ć|3ǳ|3ö|3Þ|3Ǌ|3ī|3Ȍ|3ð|3ʁ|3΄|3ν|3ك|3˳|3ǣ|3֘|3ú|3â|3ô|3ǋ|3ů|3Ȟ|3ā|3Ë|3ل|2TĸL|2#Ƞ|3ɘ|4$Ɲ|3΁$Ɲ|3ǔ|3ȸ|2ڵ!â|2ߡ!ú|4â|4ô|4ǋ|2yʛL|2ـʛL|2LП|3ͩ|3Uͩ|3òП|2y๩ʛL|2ـ๩ʛL|2๪|@11A50|0ŏ!6|12#]|3ˤ|3P|3Z|3W|3ȉ|3Ŗ|3ū|3Âª|4·|2΂L|1!¢|2ƛ|2Ď|2ǩ|2Ū|2ŵ|2Ɨ|2Ű|2ɉ|2ƚ|2ǟ|2ȗ|2Ǧ|2Ȩ|2Ȇ|2ü|2Ʊ|2ć|2ǳ|2ö|2Þ|2Ǌ|2ī|2Ȍ|2ð|2ʁ|2΄|2ν|2˳|2ǣ|2֘|2ú|2â|2ô|2ǋ|2ů|2Ȟ|2ā|2Ë|2ل|1#֓|2֔|1ڵ!â|3ô|3ů|3ā|1Tĸ#ĉ|4ď|4˱|4ě|4à|4a|4ø|4ª|4·|4Ծ|4«|4֘|1#ǔ|2ȸ|1ضL|1๪|1LП|2ͩ|2Uͩ|2๞|1ʛL$ʐ:ͮ:ƶ๫|8๫|7|1๬٦|2٧|@11AB0|045Ѕɀ|3ர|3ʥ|3ٟ|3Ë|3Л|3๝|3~SHRII |3~SHRO |3~SHROO |3~SHRA |3~SHRAA |2~SPE |2~SPI |2~SPO |2๭|0ǀǁƼ!Þ|4¢|4ô|4ð|4ć|4ǣ|4ǋ|4Ū|4Ë|4Ď|4ƛ|4ā|4ī|4ŵ|4ü|4Ʊ|4ö|4Ǌ|4â|4ȝ|4Ɨ|46|4Z|4]|4W|4P|4֫|4ߕ|4Tł|5ď|5Č|5ø|5à|5·|5œ|5˱|5Ī|3΀Ðò|5|3҂ɍŮ|3΀ÐòT|5T|3҂ɍŮT|4Ðò|5|5òT|5T|3৩Ð|3ɍŮɬ|3৩ÐòT|5T|3ߢÐò|5|3ɍŮ|3ߢÐòT|5T|3ɍŮT|@11C00|0Ğ!6|2ĵ|2]|2ř|2P|2Ų|2Âª|3ȩ|3·|@11C0A|0Ğ!Z|2Ŗ|2W|2ū|2¢|2ƛ|2Ď|2ǩ|2Ū|2ŵ|2Ɨ|2Ű|2ɉ|2ƚ|2ǟ|2ȗ|2Ǧ|2Ȩ|2Ȇ|2ü|2Ʊ|2ć|2ǳ|2ö|2Þ|2Ǌ|2ī|2Ȍ|2ð|2ú|2â|2ô|2ǋ|2ů|2Ȟ|2ā|2Ë|12#ĵ|3]|3ř|3P|3Ų|3Âª|4ȩ|4·|@11C38|0Ğ2#Z|3Ŗ|3W|3ū|1#ɘ|2ǔ|2ȸ|2Ƞ|2ͧ|1ʀ|1Uʀ|1ˣə|1ך~FILLER-1 |2~FILLER-2 |@11C50|0Ğ0ĩ|2S|2X|2c|2o|2x|2½|2È|2¼|2Î|1?S|2X|2c|2o|2x|2½|2È|2¼|2Î|2ō|2ǫ|2ʃ|2ʩ|2ɓ|2͏|2ɜ|2·|2Ⱥ|1৪ϐL|@11C70|0ƕʛL|1Lͩ|1!¢|2ƛ|2Ď|2Ū|2ŵ|2Ɨ|2Ű|2ƚ|2ü|2Ʊ|2ć|2ö|2Þ|2Ǌ|2ī|2ð|2ʁ|2΄|2ν|2Ŷ|2˳|2ǣ|2֘|2ú|2â|2ô|2ů|2ā|2Ë|26|@11C92|0ƕŇ!¢|3ƛ|3Ď|3Ū|3ŵ|3Ɨ|3Ű|3ƚ|3ü|3Ʊ|3ć|3ö|3Þ|3Ǌ|3ī|3ð|3ʁ|3΄|3ν|3Ŷ|3˳|3ǣ|@11CA9|0ƕŇ!ú|3â|3ô|3ů|3ā|3Ë|36|12#ĵ|3]|3P|3Z|3W|1#ǔ|2ɘ|@11D00|0ŭÒ!6|3ĵ|3]|3ř|3P|3Ų|3Z|@11D08|0ŭÒ!Ŗ|3W|@11D0B|0ŭÒ!ū|3¢|3ƛ|3Ď|3ǩ|3Ū|3ŵ|3Ɨ|3Ű|3ɉ|3ƚ|3ǟ|3ȗ|3Ǧ|3Ȩ|3Ȇ|3ü|3Ʊ|3ć|3ǳ|3ö|3Þ|3Ǌ|3ī|3Ȍ|3ð|3ú|3â|3ô|3ǋ|3ů|3Ȟ|3ā|3Ë|3ʜ|3ل|3௬|3ࣳ|22#ĵ|4]|4ř|4P|4Ų|4Âª|@11D3A|0ŭÒ2#Z|@11D3C|0ŭÒ2#Ŗ|4W|@11D3F|0ŭÒ2#ū|2#ǔ|3ȸ|3ˊ|3΁|3ࢆ|2Ƞ|2~REPHA |2~RA-KARA |@11D50|0ŭÒ0ĩ|3S|3X|3c|3o|3x|3½|3È|3¼|3Î|@11D60|0ƧÒ!6|3ĵ|3]|3ř|3P|3Ų|@11D67|0ƧÒ!Ȗ|3Ŗ|@11D6A|0ƧÒ!ǲ|3ū|3ú|3ǋ|3ī|3Ȍ|3ð|3¢|3ƛ|3ü|3Ʊ|3ô|3Ď|3ǩ|3ć|3ǳ|3ö|3ŵ|3Ɨ|3ǟ|3ȗ|3ʜ|3Ű|3ɉ|3Ǧ|3Ȩ|3Ū|3Þ|3Ǌ|3Ë|3â|3ā|22#ĵ|4]|4ř|4P|4Ų|@11D90|0ƧÒ2#Ȗ|4Ŗ|@11D93|0ƧÒ2#ǲ|4ū|2#ǔ|3ȸ|2Ƞ|2μ|@11DA0|0ƧÒ0ĩ|3S|3X|3c|3o|3x|3½|3È|3¼|3Î|@11EE0|0ˑ!¢|2Ď|2Ū|2Þ|2ī|2ð|2ü|2ć|2ö|2ŵ|2Ű|2ƚ|2ú|2â|2ô|2ǋ|2ā|26|1~ANGKA |12#]|3P|3Z|3W|1~PASSIMBANG |1ȯkȲ|@11FB0|0Ǯ!~YHA |@11FC0|0×ėS~THREE-HUNDRED-AND-TWENTIETH |3૦|3~EIGHTIETH |3৫|3૧|3৬|2c૨|3~SIXTY-FOURTHS |2S૩|3~SIXTEENTH-1 |3~SIXTEENTH-2 |3ࡰ|3ȹ|2c૪|3܇|2Sࡱ|3ȳ|3~HALF-1 |3~HALF-2 |2cͷ|2~DOWNSCALING च~KIIZH |1#๮|2~CEVITU |2~AAZHAAKKU |2~UZHAKKU |2~MUUVUZHAKKU |2~KURUNI |2~PATHAKKU |2~MUKKURUNI |2~KAACU |2~PANAM |2ڶ|2~VARAAKAN |2~PAARAM |2~KUZHI |2~VELI |1~WET ๯#|1ঌ๯#|1~LAND #|1Ѥ৭#|1๰࡯#|2?#|1ट#|1:Ԯ#|1~SPENT #|1వ#|1Ơ೸#|1~STARTING Ɋ#|1#~MUTHALIYA |2~VAKAIYARAA |@11FFF|0×čȯkЕ|0,#6|386|4̫|4˿ț|4Ë|4ɯ|4Δǈ|4͚|4ʕ|2৛|2̃|38Ѭ|4՗ǈ|4ҫ|4˿ț|4Ë|4ɯǈ|4ߣ|4ƨ|4৮|4P©P©P|3ǈ|2̬|38ߤ|4˿ț|4ɛ©ǃ|4І|4Ͳ|2Ԫ|2֌|38ץ|4ߥ©̀|2͌|38͌|4৯|4̀|4Ë|4ڷ|4˚|4Ȁ|4Ї|2~ALAN |2͘|2ߦ|38Ȁ|2Ⱦ|3ØȾ|3c8|3©ԃԄȾ©ԃ|5¬|2ৰ|2~APIN |2๱|38̪|2~ARKAB |2~ASAL2 |2Ǆ|3๲ț|3๳ț|3ØǄԅØԅԅØԅ̀|5ØǄ|7ɪǄØǄØǄ|2Ѭ|2ৱ|2ī|2̫|2~BAG3 |2ڸ|2ڹ|3Øڹ|2ߤ|2¿|2~BARA2 |2̤|386|4ʍ|4ɯǈ|2ʺ|3Øʺ̃|5҉|3ɪʺ|2ߧ|3Øߧ|2г|2~BUR2 |2ć|2ʪ|3ʖ86©՘|5ߦ|5ߤ|5̤|5Ď|6©՘|5ˌ|5ՙ|5͛|5Ë|5٬|6©ʹ|5ѭ|5ô|5ʹ|6©๴|5Ѓ|5ɒ|5̀©̀|5˙|5Ͳ|5Ε©ՙ|5Ї|2~DAM |2๵|2๶|2~DARA4 |2̦|2๷|2՚|38Ȁ|2৯|2ߨ|3ΖPǈ˨|2˨|2̥|3Ø̥|3ǈ|3ͳ|2צ|38Ѯ|2~DUB2 |2ɝ|2~DUGUD |2~DUH |2৲|2՗|3ǈ|4ǈ|2~DUN4 |2~DUR2 |2Z|38̀|3ØZƹØƹ|2Є|386©Ë©ć|4ʍ|4ʂ|4ѯ|4Ȁ|4P|2~EDIN |2~EGIR |2ˢ|2ǃ|38˿|5ț|4ɛ|3ɪǃ|3Ԅǃ|3¬|2๸|2ץ|2Ѯ|2ɺ|386|5©Ј|78Ј|4Ⱦ|4̫|4՗ǈ|6ǈ|4Ë|5ǈ|4ɯǈ|4Ζ|5¬|4ק|4ô|4Ј8Ј|4Ɯ|4ʹ|4Ε|4ʝ|2Ď|3ǈ|2Ŧ|386©ć©Ë|6Ë|6ɯ|4̬ț©а|4Ⱦ|4Ǆ|4Ѭ©ҫ|4̫|4¿©â|4г|5©â|4ć|4̦|4՚8Ȁ|4צ|4ˢ|5©ô|4ǃ|58˿ț|4˿ț|4ʍ|4ˌ|4՛|5©6|4ՙ©˶|4Ë©ʹ©Ѯ|4ר|5©ô|4ɀ©Ɯ|4Ԇ|4ɯǈ|4৳©Ω©Ǆ|4ѭ|4Ζ|4ߩ|5©Ј|4ק©Ⱦ|4ô|4ɛ©ǃ|4ʂ|4ƹ|5Øƹ|4Þ|4ѯ|4ש|4Ȁ|5©י|4ת|4׈|4Ͳ|4P|4ʝ|5©̥|3ØŦ|2ߪ|3ɪߪ|2Ѱ|3ØѰʍØʍ|2ҫ|3ѰØѰʍØʍ|2~GALAM |2~GAM |2Դ|2˿|3ț|3Ø˿|3ɪ˿|2ʍ|2~GAR3 |2~GASHAN |2৴|38̪|2ˌ|38Z|4P|3ɪˌ|2՛|3Ø՛|3ɪ՛|2~GIDIM |2ՙ|3ǈ|2׫|386©ɯ|4˿ț|4ɯ|4ʹ©ɯ|4Þ|2~GISAL |2̀|3ɪ̀|38̫|4Ͳ|3ț|2͎|3ɪ͎|2՜|38ѭ|58ɯǈ|4ƹ|4ѯ©ԅ|3ǈ|2͛|386©̪|4̪|3Ø͛՝|2๹|2৵|38Ȁ|2߀|2๺|2~GURUN |2~GURUSH |2Ë|3ț|3ǈ|2ר|2ɀ|38Ǆ|4Ѭ|4̫|4˨|4Ѱ|4৶|4ƹ|4Ȁ|4P|2Ω|2Ԇ|38Ⱦ|4ר|4Ζ|4৷|4ʝ|2~HUL2 |2]|36|2৸|2ں|3Øںг|5¬|2๻|2ɯ|3๷|3͍|3Øɯ׬Ø׬ʝØʝ|3ǈ|2๼|38˿ț|2~IL2 |2Α|38Ͳ|3ɪΑ|3ԄΑ|3¬|2ߣ|2Ơ|2٬|2৳|2¢|386|4Ԫ|5©ק|4Ѭ|4̫|4ߤ|4¿|4̤|4ץ|4Ѯ|4Ď|4ҫ|4˿ț|4ʍ|5©І©6|4ˌ|4ՙ|4̀©ש|5ɪ̀|4͎|4๺|4ɯ|4Α|4ѭ|4˚|4ߩ|4Ɯ|4ʹ|4ɛ|5©̥|6ˌ|6ȼ|4ʂ|5©ΰ|4ɒ|4ƹ|4Ǜ|4˥|4ā|4ש|4ů|4Ȁ|4ת|4΅|4๽|4๾|4Ե|4P|4Ε|4ʝ|4߫8Þ|4Ї|4С|2৹|3ɪ৹|2๿|2຀|2ڷ|2~KAD4 |2৺|3Ø৺|2ѭ|38ɯǈ|2ڻ|38̫|3ɪڻ|2~KAM2 |2~KAM4 |2Ζ|3ƨ8PØƨ8P|3ØΖƨ8PØƨ8P|2ກ|2˚|38̫|4P|4ʝ|2ߩ|2৶|2~KISAL |2~KISH |2ʖ|3Øʖ|2˷|3Øɀ8Ѭ˷Øɀ8Ѭ|2ק|2ຂ|3ɬ1|2~KU7 |2߬|3ǈ|2຃|2̪|3Ԅ̪|2׭|2~KWU318 |2ô|2ƨ|386|5©ć©Ë|6ʍ|6Ј|4͌|4Ⱦ|4Ǆ๲ț|4̫|4̤|4๵|4ǃ|4Ď|4ʍ|4͛|5©͛|4Ë|4ר|4ɀ8ƹ|4ɯǈ|4Α|5©Ë|6ʹ|4˚|4৶|4ק|4߬|5©ɀ©6|4ƨ|4৷|4ʹ|4৻|4ɛ|5©ǃ|4͚|4ɒ|4Ȁ©׈|4ߥ©̀©ץ|7ț|4Ү|5©Ү|4׈|4Ć|4Ͳ|4ȼ©6©˶©ö|4P|5©6|6P©P|4Ε©Ǆ|4ʝ|4Ї|3¬|2Δ|38Ȁ|5©׈|3ǈ|4ØΔǈȀ|2~LAHSHU |2Ј|38Ј|2ű|38̪|5©˥|2Ɯ|2~LIL |2~LIMMU2 |2৷|2ʹ|38̫|2ɋ|38͌|4̫|4Ѯ|5ț|4˿ț|4ɀ8̫|4Α|4຀|4ڷ|5©Ǆ|4˚|4ô©Ǆ|4ƨ|4ɛ©ǃ|4ɒ|4ɥ|4˙©Ǆ|4ຄ©ʺ|4ԅ|3ț|3ɪɋ|3Ԅɋ|3¬|3ͳ|2׮|2՝|3Ø՝|3Ԅ՝|3ͳ|2ৼ|2৻|2Ѓ|3ØЃ|5ʍØʍ|2ð|38Ͳ|3ǈ|2~MA2 |2๚|2ଗ|2՘|2๴|2ɛ|2৽|2ʂ|2߭|2ȣ|3Øȣ|2߮|3ǈ|2~MUNSUB |2~MURGU2 |2͚|386|4̪|4ǣ|3Ø͚|586©ö|3ɪ͚|2ׯ|386|5©̦|4̦|3ǈ|2ö|2຅|2ԃ|3Ɩ|38΅ț|3Ԅԃ|2~NAGAR |2ຆງ|3|2ຈ|2ɒ|386|4ʝ|3ͳ|2ɑ|38Z|2~NI2 |2৾|38˿ț|4ʍ©˿ț|2ʯ|38Ⱦ|4Ǆ|5©Ǆ|4͛|4ɛ©˿ț|4ɒ|4ƹ|4Ȁ|5©6Ⱦ|6Ǆ|7©Ǆ|4Ε©Ǆ|4Ї|2~NISAG |2ɥ|2ڼ|2ƹ|3Δ8ʍ|5՘|5ѯ|6ØƹΔ8ѯ|5Ї|3ț|3Øƹ|3ɪƹ|5ΔØΔ|2ΰ|3̬8ৱ|5̤|5ɝ|5͛|5ɯǈ|5ڷ|5ô|5ɒ|5ຉ|5Ε|3ʖ8̤|6P|2Þ|2װ|2৭|2̀|2ຊ|2Ǜ|386|4̃|4̤|4ʺ|4Z|4]|4৸|4P|4Ε|3ɪǛ|2ױ|38ڻ|4ʝ|4ǣ|3Ԅױ|2â|2~RAB |2͍|2˥|2ā|2ʕງ|3|386|4̥|4צ|4Ë|4ѭ|4̪|4Ѓ|4ʂ|4ƹ|4ѯ|4ת|4а|4Ε|4຋|4Ҭ|4Ғ|4Ї|3Øʕ|3ǈ|2ѯ|3ƨ8Ѭ|2~SANGA2 |2ש|2ů|2І|386|4̫|4̀|4ɒ|4Ү|4י|4P|5©6|2ຌ|2~SHAB6 |2Љ|2Ȁ|3Ω|3ØȀѰØѰʍØʍ|5аØаʍØʍ|2~SHEG9 |2~SHEN |2৮|2~SHESH2 |2~SHESHLAM |2ת|386|4Α|2ϖ|386|4ڹ|4ߧ|4ߨ|4ʍ|4ɯ|5ǈ|4׭|4৻|4߮|4ѯ|2~SHINIG |2׬|3ț|3Ø׬гØг|2ߥ|2΅|3ØƖ΅|2Ү|2~SHUBUR |2˙|3ǈ|2๽|2߯|3Ø߯Ү|2ຄ|2ຉ|2˶|3Ø˶|2~SUD |2~SUD2 |2๾|2׈|2~SUMASH |2߂|2~SUR9 |2ü|3Ǿ|38ɀ|4ʂ|3ǈ|2а|3ØаɑØɑ˨Ø˨|3¬|2Ć|38̤|4͛|4Ȁ|4΅|4ԅ|4ʝ|2Ͳ|2Ե|2ȼ|3ǈ|2̣|3ț|2৘|2Կ|38Ͳ|3ØԿ|5ѰØѰʍØʍ|2ˍ|2ԅ|2௴|2ڪ|2י|3ØיǣØǣ|2P|3͛|3PP|3ØPÞØÞʍØʍ|5߂Ø߂|5PŀØPŀ|2Ε|2຋|2ʝ|3׭|38̫|4ʂ|4P©P©P|9ǈ|3ǈ|3ͳ|48̫|2~UDUG |2Ҭ|38ƨ|4ɛ©ć|4І|4P|2~UMBIN |2߫|38Ζ|4Þ|2҉|3ǈ|2Ғ|3ɪҒ|3ͳ|2Њ|386©Ë|6ö|4͌|4Ë|4ƹ|4Ε|5©Ǆ|6̤|2~UR4 |2~URI |2~URI3 |2ʰ|386|4ৱ|4¿|4৲|4Ď|4ҫ|4˿ț|4ʍ|4͎|4Ë|4ɯ|4Α|4৳|4˚|4Ѓ|4߭|4Þ|4Ȁ|4߯|4ˍ|4P©͛|4ʝ|4ײ|2ײ|38P|2Ї|386|4˷|4̪|4Ͳ|2~USHX |2~USH2 |2~USHUMX |2~UTUKI |2ຍ|38Ζ|2~UZU |2ǣ|3ț|3¬8̪|2~ZAG |2~ZAMX |2~ZE2 |2С|3ØС|2~ZI3 |2ຎ|3๳ț|2~ZIG |2ຏ|2Ϯ|2৿|386|2~ZUBUR |2~ZUM |2ഡڽ|2̃8ƹ|2̬86|2ߦ8~KUG |2ʪʖ8Ε©՘|2~DAG3 |2˨©΅|2צ8Ȁ|2ɺ8͛|4Ȁ|2Ŧ8Ⱦ©ѭ©6|4Ѭ|2~GE22 |2~GIG |2~HUSH |2¢8ৰ|4~ASH3 |4̀|4͛|4ɀ8Ѭ|4Ѓ|4Þ|4~SHUL |4ˍ|4Њ|2ƨ8ˌ|2ɋͳ8̫|38Ѯ©Ј|4΅|2ಾ|2ׯ8ǣ|2~NA4 |2਀|2~NIN9 |2ʯ8ڹ|4ˌ|2ڼơȺǘ|2ຊǾ|2~PIR2 |2ʕ8ɯǈ|2~TI2 |2Ҭ8ɛ|2PP|@12400|0,÷#XǄ|3cǄ|3oǄ|3xǄ|3½Ǆ|3ÈǄ|3¼Ǆ|3ÎǄ|3c˨|3o˨|3x˨|3½˨|3È˨|3¼˨|3Î˨|3oP|3xP|3½P|3ÈP|3¼P|3ÎP|3Sү|3Xү|3cү|3oү|3xү|3½ү|3Èү|3¼ү|3Îү|3Sھ|3Xھ|3cھ|3oھ|3xھ|3XЉ|3cЉ|5ɬ1|3oЉ|3xЉ|3½Љ|3ÈЉ|3¼Љ|3ÎЉ|3S׳|3X׳|3c׳|5ɬ1|3o׳|3x׳|3Љ8ҫ©˨|7߭|3S״|3X״|3c״|5ɬ1|3o״|3x״|3cɬ1~ESH16 |6~ESH21 |3oɬ1ਁ|6~LIMMU4 |6ਁ6|7a|3½ɬ1~ASH9 |3Èɬ1~IMIN3 |6ߣ6|7a|3¼ɬ1~USSU |6~USSU3 |3Îɬ1ຐ|6~ILIMMU3 |6~ILIMMU4 |6ຐ6|3XǄț|3cǄț|3oǄț|3xǄț|3½Ǆț|3S՞|3X՞|3c՞|3o՞|5ɬ1|3x՞|5ɬ1|3~NIGIDAMIN |3~NIGIDAESH |3Sຑ|3Xຑ|3Sχ˨|3XҖ˨|3xధ˨|3Sχɬ16|3XҖɬ16|3SȹǄ|4ȳǄ|3FਂSए|6ȳ|3Sȳ߀|4¶߀|3ڽSχ|4XҖ|4ʩ|4ɓ|3oPɬ1|3xPɬ1|3½Pɬ1|3ÈPɬ1|3¼Pɬ1|3ÎPɬ1|@12470|0,č#Fਂˣ׎|3rɠ|3ăɠ|4ఒ|4~QUADCOLON |@12480|0,#̃8ƹț|4Ү|2Ԫ8Ѯ|2̫8˨ț|2ڸ8̬|4ɑ|4ǣ|2ʺØʺ8຅|2ć8Ͳ|2ʪ8̪|2՚8ɯ|4PPP|2৯8ʝ|2ɝ8ৰ|4Ǆ|5ʣI|4ߨ|4৲|4ץ|4Ď|4ˌ|4ՙǈ|4̀|4Ë|4ɀ|4ɯǈ|4Ζ|4̪|4׭|5©Ζ|4~LAK-020 |4ű|58̪|4ৼ©̀|4՘|4৽|4ʂ|4ɑ|4Ǜ|4Ȁ|4˙ǈ|2Є8̪|4̀|2ץŃ|2ѮɪѮ|2ɺͳ8Ǆ|5ɀ|5ɯǈ|5ô|5Ј|5ɛ|5৽|5˶|38˶|2Ŧ8ڸ|4՚ǈ|4ɝ8ɯǈ|6Ζ|4๸|4Ď|4ʍ©̦|6ɒ|4Ë©6|4׭©Ζ|4ű|58̪|4ৼ|4͚|4ɒ|5©Є|6ˌ|4ϖ|4ຏ|2ߪơȺǘ|2৴8P|2̀8̀ɪ̀|2՜8ɯǈ|2͛©̀8Ͳ|2Ëțǈ|2ɀ8ǄØɀ8Ǆ|2¢8ʺ|4¢|4PPP|4Ғ|2ƨ8ϮØϮ|2~LAK-003 |2~LAK-021 |2~LAK-025 |2~LAK-030 |2ຒ|2~LAK-051 |2~LAK-062 |2ຓØຓǈ|2~LAK-080 |2ດØດ|2~LAK-092 |2~LAK-130 |2~LAK-142 |2~LAK-210 |2~LAK-219 |2~LAK-220 |2~LAK-225 |2~LAK-228 |2~LAK-238 |2~LAK-265 |2~LAK-266 |2~LAK-343 |2~LAK-347 |2~LAK-348 |2~LAK-383 |2~LAK-384 |2~LAK-390 |2~LAK-441 |2׵|38͎|4ɯ|4̀©׮|6̀©׮|4Ε©ī|2~LAK-450 |2~LAK-457 |2~LAK-470 |2~LAK-483 |2~LAK-490 |2~LAK-492 |2~LAK-493 |2~LAK-495 |2~LAK-550 |2~LAK-608 |2д|38Ǆ|4̫|4՗ǈǈ|4ק|4ô|4Ե|4ȼ|4Ε|4ʝ|4ײ|2~LAK-636 |2ѱ|38צ|4Ď|4ɯ|5ǈ|4ɑ|4̀©̀©׮|4৮©˚|4ʝ|4ײ|2~LAK-724 |2~LAK-749 |2ɋǈ8Ǆ|38˨|4ר|4̀|5©̀©׮|4Ͳ|2ʂ©ຕ|2͚Ø͚8Ď|6ѭ|2ʯ8՚ǈ|4̀|4๹|4ɀ|4ກ|4ຒ|4՘|4̀©̀|4P|5©P|4ײ|2ʕǈ8Ë|38ǃ|4ȀʣI|4Ͳ|2ຌț|2ȀØȀ|3©Ԇ|4ຈ|4ש|2Ү©ɝ8ɑ|4Є8Ⱦ|2˙8Ͳ|2Ͳ©ʕ|2ڪ8˿ț|4c˨|2ЊƖ|38ʝ|2ʰ8๶|4~LAK-668 |4׮|2ຕ|2ϮØϮ©ש|2৿8c˨ț|@12F90|0ĕ#~CM001 |2~CM002 |2~CM004 |2~CM005 |2~CM006 |2~CM007 |2~CM008 |2~CM009 |2~CM010 |2~CM011 |2~CM012 |2~CM012B |2~CM013 |2~CM015 |2~CM017 |2~CM019 |2~CM021 |2~CM023 |2~CM024 |2~CM025 |2~CM026 |2~CM027 |2~CM028 |2~CM029 |2~CM030 |2~CM033 |2~CM034 |2~CM035 |2~CM036 |2~CM037 |2~CM038 |2~CM039 |2~CM040 |2~CM041 |2~CM044 |2~CM046 |2~CM047 |2~CM049 |2~CM050 |2~CM051 |2~CM052 |2~CM053 |2~CM054 |2~CM055 |2~CM056 |2~CM058 |2~CM059 |2~CM060 |2~CM061 |2~CM062 |2~CM063 |2~CM064 |2~CM066 |2~CM067 |2~CM068 |2~CM069 |2~CM070 |2~CM071 |2~CM072 |2~CM073 |2~CM074 |2~CM075 |2~CM075B |2~CM076 |2~CM078 |2~CM079 |2~CM080 |2~CM081 |2~CM082 |2~CM083 |2~CM084 |2~CM085 |2~CM086 |2~CM087 |2~CM088 |2~CM089 |2~CM090 |2~CM091 |2~CM092 |2~CM094 |2~CM095 |2~CM096 |2~CM097 |2~CM098 |2~CM099 |2~CM100 |2~CM101 |2~CM102 |2~CM103 |2~CM104 |2~CM105 |2~CM107 |2~CM108 |2~CM109 |2~CM110 |2~CM112 |2~CM114 |2~CM301 |2~CM302 |@13000|0/(ຖ|2ທ|2ຘ|2ນ|2ບ|2~A005A |2ປ|2~A006A |2~A006B |2ຜ|2ຝ|2ພ|2ຟ|2ຠ|2ມ|2ຢ|2ຣ|2~A014A |2຤|2ລ|2຦|2~A017A |2ວ|2ຨ|2ຩ|2ສ|2ຫ|2ຬ|2ອ|2ຮ|2ຯ|2ະ|2ັ|2າ|2ຳ|2ິ|2ີ|2~A032A |2ຶ|2ື|2ຸ|2ູ|2຺|2ົ|2ຼ|2ຽ|2~A040A |2຾|2຿|2~A042A |2ເ|2~A043A |2ແ|2ໂ|2ໃ|2ໄ|2໅|2ໆ|2໇|2່|2້|2໊|2໋|2໌|2ໍ|2໎|2໏|2໐|2໑|2໒|2໓|2໔|2໕|2໖|2໗|2໘|2໙|2໚|2໛|2ໜ|2ද|2ඳ|2඲|2ඵ|2බ|2~B005A |2න|2ධ|2ථ|2ප|2~C001 |2~C002 |2~C002A |2~C002B |2~C002C |2~C003 |2~C004 |2~C005 |2~C006 |2~C007 |2~C008 |2~C009 |2~C010 |2~C010A |2~C011 |2~C012 |2~C013 |2~C014 |2~C015 |2~C016 |2~C017 |2~C018 |2~C019 |2~C020 |2~C021 |2~C022 |2~C023 |2~C024 |2~D001 |2~D002 |2~D003 |2~D004 |2~D005 |2~D006 |2~D007 |2~D008 |2~D008A |2~D009 |2~D010 |2~D011 |2~D012 |2~D013 |2~D014 |2~D015 |2~D016 |2~D017 |2~D018 |2~D019 |2~D020 |2~D021 |2~D022 |2~D023 |2~D024 |2~D025 |2~D026 |2~D027 |2~D027A |2~D028 |2~D029 |2~D030 |2~D031 |2~D031A |2~D032 |2~D033 |2~D034 |2~D034A |2~D035 |2~D036 |2~D037 |2~D038 |2~D039 |2~D040 |2~D041 |2~D042 |2~D043 |2~D044 |2~D045 |2~D046 |2~D046A |2~D047 |2~D048 |2~D048A |2~D049 |2~D050 |2~D050A |2~D050B |2~D050C |2~D050D |2~D050E |2~D050F |2~D050G |2~D050H |2~D050I |2~D051 |2~D052 |2~D052A |2~D053 |2~D054 |2~D054A |2~D055 |2~D056 |2~D057 |2~D058 |2~D059 |2~D060 |2~D061 |2~D062 |2~D063 |2~D064 |2~D065 |2~D066 |2~D067 |2~D067A |2~D067B |2~D067C |2~D067D |2~D067E |2~D067F |2~D067G |2~D067H |2~E001 |2~E002 |2~E003 |2~E004 |2~E005 |2~E006 |2~E007 |2~E008 |2~E008A |2~E009 |2~E009A |2~E010 |2~E011 |2~E012 |2~E013 |2~E014 |2~E015 |2~E016 |2~E016A |2~E017 |2~E017A |2~E018 |2~E019 |2~E020 |2~E020A |2~E021 |2~E022 |2~E023 |2~E024 |2~E025 |2~E026 |2~E027 |2~E028 |2~E028A |2~E029 |2~E030 |2~E031 |2~E032 |2~E033 |2~E034 |2~E034A |2~E036 |2~E037 |2~E038 |2~F001 |2~F001A |2~F002 |2~F003 |2~F004 |2~F005 |2~F006 |2~F007 |2~F008 |2~F009 |2~F010 |2~F011 |2~F012 |2~F013 |2~F013A |2~F014 |2~F015 |2~F016 |2~F017 |2~F018 |2~F019 |2~F020 |2~F021 |2~F021A |2~F022 |2~F023 |2~F024 |2~F025 |2~F026 |2~F027 |2~F028 |2~F029 |2~F030 |2~F031 |2~F031A |2~F032 |2~F033 |2~F034 |2~F035 |2~F036 |2~F037 |2~F037A |2~F038 |2~F038A |2~F039 |2~F040 |2~F041 |2~F042 |2~F043 |2~F044 |2~F045 |2~F045A |2~F046 |2~F046A |2~F047 |2~F047A |2~F048 |2~F049 |2~F050 |2~F051 |2~F051A |2~F051B |2~F051C |2~F052 |2~F053 |2~G001 |2~G002 |2~G003 |2~G004 |2~G005 |2~G006 |2~G006A |2~G007 |2~G007A |2~G007B |2~G008 |2~G009 |2~G010 |2~G011 |2~G011A |2~G012 |2~G013 |2~G014 |2~G015 |2~G016 |2~G017 |2~G018 |2~G019 |2~G020 |2~G020A |2~G021 |2~G022 |2~G023 |2~G024 |2~G025 |2~G026 |2~G026A |2~G027 |2~G028 |2~G029 |2~G030 |2~G031 |2~G032 |2~G033 |2~G034 |2~G035 |2~G036 |2~G036A |2~G037 |2~G037A |2~G038 |2~G039 |2~G040 |2~G041 |2~G042 |2~G043 |2~G043A |2~G044 |2~G045 |2~G045A |2~G046 |2~G047 |2~G048 |2~G049 |2~G050 |2~G051 |2~G052 |2~G053 |2~G054 |2~H001 |2~H002 |2~H003 |2~H004 |2~H005 |2~H006 |2~H006A |2~H007 |2~H008 |2~I001 |2~I002 |2~I003 |2~I004 |2~I005 |2~I005A |2~I006 |2~I007 |2~I008 |2~I009 |2~I009A |2~I010 |2~I010A |2~I011 |2~I011A |2~I012 |2~I013 |2~I014 |2~I015 |2~K001 |2~K002 |2~K003 |2~K004 |2~K005 |2~K006 |2~K007 |2~K008 |2~L001 |2~L002 |2~L002A |2~L003 |2~L004 |2~L005 |2~L006 |2~L006A |2~L007 |2~L008 |2ໝ|2~M001A |2~M001B |2ໞ|2ໟ|2~M003A |2໠|2໡|2໢|2໣|2໤|2໥|2໦|2~M010A |2໧|2໨|2~M012A |2~M012B |2~M012C |2~M012D |2~M012E |2~M012F |2~M012G |2~M012H |2໩|2໪|2໫|2~M015A |2໬|2~M016A |2໭|2~M017A |2໮|2໯|2໰|2໱|2໲|2~M022A |2໳|2໴|2~M024A |2໵|2໶|2໷|2໸|2~M028A |2໹|2໺|2໻|2~M031A |2໼|2໽|2~M033A |2~M033B |2໾|2໿|2ༀ|2༁|2༂|2༃|2༄|2~M040A |2༅|2༆|2༇|2༈|2~N001 |2~N002 |2~N003 |2~N004 |2~N005 |2~N006 |2~N007 |2~N008 |2~N009 |2~N010 |2~N011 |2~N012 |2~N013 |2~N014 |2~N015 |2~N016 |2~N017 |2~N018 |2~N018A |2~N018B |2~N019 |2~N020 |2~N021 |2~N022 |2~N023 |2~N024 |2~N025 |2~N025A |2~N026 |2~N027 |2~N028 |2~N029 |2~N030 |2~N031 |2~N032 |2~N033 |2~N033A |2~N034 |2~N034A |2~N035 |2~N035A |2~N036 |2~N037 |2~N037A |2~N038 |2~N039 |2~N040 |2~N041 |2~N042 |2~NL001 |2~NL002 |2~NL003 |2~NL004 |2~NL005 |2~NL005A |2~NL006 |2~NL007 |2~NL008 |2~NL009 |2~NL010 |2~NL011 |2~NL012 |2~NL013 |2~NL014 |2~NL015 |2~NL016 |2~NL017 |2~NL017A |2~NL018 |2~NL019 |2~NL020 |2~NU001 |2~NU002 |2~NU003 |2~NU004 |2~NU005 |2~NU006 |2~NU007 |2~NU008 |2~NU009 |2~NU010 |2~NU010A |2~NU011 |2~NU011A |2~NU012 |2~NU013 |2~NU014 |2~NU015 |2~NU016 |2~NU017 |2~NU018 |2~NU018A |2~NU019 |2~NU020 |2~NU021 |2~NU022 |2~NU022A |2~O001 |2~O001A |2~O002 |2~O003 |2~O004 |2~O005 |2~O005A |2~O006 |2~O006A |2~O006B |2~O006C |2~O006D |2~O006E |2~O006F |2~O007 |2~O008 |2~O009 |2~O010 |2~O010A |2~O010B |2~O010C |2~O011 |2~O012 |2~O013 |2~O014 |2~O015 |2~O016 |2~O017 |2~O018 |2~O019 |2~O019A |2~O020 |2~O020A |2~O021 |2~O022 |2~O023 |2~O024 |2~O024A |2~O025 |2~O025A |2~O026 |2~O027 |2~O028 |2~O029 |2~O029A |2~O030 |2~O030A |2~O031 |2~O032 |2~O033 |2~O033A |2~O034 |2~O035 |2~O036 |2~O036A |2~O036B |2~O036C |2~O036D |2~O037 |2~O038 |2~O039 |2~O040 |2~O041 |2~O042 |2~O043 |2~O044 |2~O045 |2~O046 |2~O047 |2~O048 |2~O049 |2~O050 |2~O050A |2~O050B |2~O051 |2~P001 |2~P001A |2~P002 |2~P003 |2~P003A |2~P004 |2~P005 |2~P006 |2~P007 |2~P008 |2~P009 |2~P010 |2~P011 |2~Q001 |2~Q002 |2~Q003 |2~Q004 |2~Q005 |2~Q006 |2~Q007 |2~R001 |2~R002 |2~R002A |2~R003 |2~R003A |2~R003B |2~R004 |2~R005 |2~R006 |2~R007 |2~R008 |2~R009 |2~R010 |2~R010A |2~R011 |2~R012 |2~R013 |2~R014 |2~R015 |2~R016 |2~R016A |2~R017 |2~R018 |2~R019 |2~R020 |2~R021 |2~R022 |2~R023 |2~R024 |2~R025 |2~R026 |2~R027 |2~R028 |2~R029 |2~S001 |2~S002 |2~S002A |2~S003 |2~S004 |2~S005 |2~S006 |2~S006A |2~S007 |2~S008 |2~S009 |2~S010 |2~S011 |2~S012 |2~S013 |2~S014 |2~S014A |2~S014B |2~S015 |2~S016 |2~S017 |2~S017A |2~S018 |2~S019 |2~S020 |2~S021 |2~S022 |2~S023 |2~S024 |2~S025 |2~S026 |2~S026A |2~S026B |2~S027 |2~S028 |2~S029 |2~S030 |2~S031 |2~S032 |2~S033 |2~S034 |2~S035 |2~S035A |2~S036 |2~S037 |2~S038 |2~S039 |2~S040 |2~S041 |2~S042 |2~S043 |2~S044 |2~S045 |2~S046 |2~T001 |2~T002 |2~T003 |2~T003A |2~T004 |2~T005 |2~T006 |2~T007 |2~T007A |2~T008 |2~T008A |2~T009 |2~T009A |2~T010 |2~T011 |2~T011A |2~T012 |2~T013 |2~T014 |2~T015 |2~T016 |2~T016A |2~T017 |2~T018 |2~T019 |2~T020 |2~T021 |2~T022 |2~T023 |2~T024 |2~T025 |2~T026 |2~T027 |2~T028 |2~T029 |2~T030 |2~T031 |2~T032 |2~T032A |2~T033 |2~T033A |2~T034 |2~T035 |2~T036 |2~U001 |2~U002 |2~U003 |2~U004 |2~U005 |2~U006 |2~U006A |2~U006B |2~U007 |2~U008 |2~U009 |2~U010 |2~U011 |2~U012 |2~U013 |2~U014 |2~U015 |2~U016 |2~U017 |2~U018 |2~U019 |2~U020 |2~U021 |2~U022 |2~U023 |2~U023A |2~U024 |2~U025 |2~U026 |2~U027 |2~U028 |2~U029 |2~U029A |2~U030 |2~U031 |2~U032 |2~U032A |2~U033 |2~U034 |2~U035 |2~U036 |2~U037 |2~U038 |2~U039 |2~U040 |2~U041 |2~U042 |2~V001 |2~V001A |2~V001B |2~V001C |2~V001D |2~V001E |2~V001F |2~V001G |2~V001H |2~V001I |2~V002 |2~V002A |2~V003 |2~V004 |2~V005 |2~V006 |2~V007 |2~V007A |2~V007B |2~V008 |2~V009 |2~V010 |2~V011 |2~V011A |2~V011B |2~V011C |2~V012 |2~V012A |2~V012B |2~V013 |2~V014 |2~V015 |2~V016 |2~V017 |2~V018 |2~V019 |2~V020 |2~V020A |2~V020B |2~V020C |2~V020D |2~V020E |2~V020F |2~V020G |2~V020H |2~V020I |2~V020J |2~V020K |2~V020L |2~V021 |2~V022 |2~V023 |2~V023A |2~V024 |2~V025 |2~V026 |2~V027 |2~V028 |2~V028A |2~V029 |2~V029A |2~V030 |2~V030A |2~V031 |2~V031A |2~V032 |2~V033 |2~V033A |2~V034 |2~V035 |2~V036 |2~V037 |2~V037A |2~V038 |2~V039 |2~V040 |2~V040A |2~W001 |2~W002 |2~W003 |2~W003A |2~W004 |2~W005 |2~W006 |2~W007 |2~W008 |2~W009 |2~W009A |2~W010 |2~W010A |2~W011 |2~W012 |2~W013 |2~W014 |2~W014A |2~W015 |2~W016 |2~W017 |2~W017A |2~W018 |2~W018A |2~W019 |2~W020 |2~W021 |2~W022 |2~W023 |2~W024 |2~W024A |2~W025 |2~X001 |2~X002 |2~X003 |2~X004 |2~X004A |2~X004B |2~X005 |2~X006 |2~X006A |2~X007 |2~X008 |2~X008A |2~Y001 |2~Y001A |2~Y002 |2~Y003 |2~Y004 |2~Y005 |2~Y006 |2~Y007 |2~Y008 |2~Z001 |2~Z002 |2~Z002A |2~Z002B |2~Z002C |2~Z002D |2~Z003 |2~Z003A |2~Z003B |2~Z004 |2~Z004A |2~Z005 |2~Z005A |2~Z006 |2~Z007 |2~Z008 |2~Z009 |2~Z010 |2~Z011 |2~Z012 |2~Z013 |2~Z014 |2~Z015 |2~Z015A |2~Z015B |2~Z015C |2~Z015D |2~Z015E |2~Z015F |2~Z015G |2~Z015H |2~Z015I |2~Z016 |2~Z016A |2~Z016B |2~Z016C |2~Z016D |2~Z016E |2~Z016F |2~Z016G |2~Z016H |2~AA001 |2~AA002 |2~AA003 |2~AA004 |2~AA005 |2~AA006 |2~AA007 |2~AA007A |2~AA007B |2~AA008 |2~AA009 |2~AA010 |2~AA011 |2~AA012 |2~AA013 |2~AA014 |2~AA015 |2~AA016 |2~AA017 |2~AA018 |2~AA019 |2~AA020 |2~AA021 |2~AA022 |2~AA023 |2~AA024 |2~AA025 |2~AA026 |2~AA027 |2~AA028 |2~AA029 |2~AA030 |2~AA031 |2~AA032 |@13430|0/(rԢ|2íԢ|2߰ʣǹЙ|4ȿЙ|4ǹȯ|4ȿȯ|2ˡp|2ҿछ|2ȯछ|@14400|0<(ຖ|2ທ|2ຘ|2ນ|2ບ|2ປ|2ຜ|2ຝ|2ພ|2ຟ|2~A010A |2ຠ|2ມ|2ຢ|2ຣ|2຤|2ລ|2຦|2ວ|2ຨ|2ຩ|2ສ|2ຫ|2ຬ|2ອ|2ຮ|2ຯ|2~A026A |2ະ|2ັ|2າ|2ຳ|2ິ|2ີ|2ຶ|2ື|2ຸ|2ູ|2຺|2ົ|2ຼ|2~A039A |2ຽ|2຾|2~A041A |2຿|2ເ|2ແ|2ໂ|2ໃ|2ໄ|2~A046A |2~A046B |2໅|2ໆ|2໇|2່|2້|2໊|2໋|2໌|2ໍ|2໎|2໏|2໐|2໑|2໒|2໓|2໔|2໕|2໖|2໗|2໘|2~A066A |2~A066B |2~A066C |2໙|2໚|2໛|2ໜ|2~A071 |2~A072 |2~A073 |2~A074 |2~A075 |2~A076 |2~A077 |2~A078 |2~A079 |2~A080 |2~A081 |2~A082 |2~A083 |2~A084 |2~A085 |2~A086 |2~A087 |2~A088 |2~A089 |2~A090 |2~A091 |2~A092 |2~A093 |2~A094 |2~A095 |2~A096 |2~A097 |2~A097A |2~A098 |2~A098A |2~A099 |2~A100 |2~A100A |2~A101 |2~A101A |2~A102 |2~A102A |2~A103 |2~A104 |2~A104A |2~A104B |2~A104C |2~A105 |2~A105A |2~A105B |2~A106 |2~A107 |2~A107A |2~A107B |2~A107C |2~A108 |2~A109 |2~A110 |2~A110A |2~A110B |2~A111 |2~A112 |2~A113 |2~A114 |2~A115 |2~A115A |2~A116 |2~A117 |2~A118 |2~A119 |2~A120 |2~A121 |2~A122 |2~A123 |2~A124 |2~A125 |2~A125A |2~A126 |2~A127 |2~A128 |2~A129 |2~A130 |2~A131 |2~A132 |2~A133 |2~A134 |2~A135 |2~A135A |2~A136 |2~A137 |2~A138 |2~A139 |2~A140 |2~A141 |2~A142 |2~A143 |2~A144 |2~A145 |2~A146 |2~A147 |2~A148 |2~A149 |2~A150 |2~A151 |2~A152 |2~A153 |2~A154 |2~A155 |2~A156 |2~A157 |2~A158 |2~A159 |2~A160 |2~A161 |2~A162 |2~A163 |2~A164 |2~A165 |2~A166 |2~A167 |2~A168 |2~A169 |2~A170 |2~A171 |2~A172 |2~A173 |2~A174 |2~A175 |2~A176 |2~A177 |2~A178 |2~A179 |2~A180 |2~A181 |2~A182 |2~A183 |2~A184 |2~A185 |2~A186 |2~A187 |2~A188 |2~A189 |2~A190 |2~A191 |2~A192 |2~A193 |2~A194 |2~A195 |2~A196 |2~A197 |2~A198 |2~A199 |2~A200 |2~A201 |2~A202 |2~A202A |2~A202B |2~A203 |2~A204 |2~A205 |2~A206 |2~A207 |2~A207A |2~A208 |2~A209 |2~A209A |2~A210 |2~A211 |2~A212 |2~A213 |2~A214 |2~A215 |2~A215A |2~A216 |2~A216A |2~A217 |2~A218 |2~A219 |2~A220 |2~A221 |2~A222 |2~A223 |2~A224 |2~A225 |2~A226 |2~A227 |2~A227A |2~A228 |2~A229 |2~A230 |2~A231 |2~A232 |2~A233 |2~A234 |2~A235 |2~A236 |2~A237 |2~A238 |2~A239 |2~A240 |2~A241 |2~A242 |2~A243 |2~A244 |2~A245 |2~A246 |2~A247 |2~A248 |2~A249 |2~A250 |2~A251 |2~A252 |2~A253 |2~A254 |2~A255 |2~A256 |2~A257 |2~A258 |2~A259 |2~A260 |2~A261 |2~A262 |2~A263 |2~A264 |2~A265 |2~A266 |2~A267 |2~A267A |2~A268 |2~A269 |2~A270 |2~A271 |2~A272 |2~A273 |2~A274 |2~A275 |2~A276 |2~A277 |2~A278 |2~A279 |2~A280 |2~A281 |2~A282 |2~A283 |2~A284 |2~A285 |2~A286 |2~A287 |2~A288 |2~A289 |2~A289A |2~A290 |2~A291 |2~A292 |2~A293 |2~A294 |2~A294A |2~A295 |2~A296 |2~A297 |2~A298 |2~A299 |2~A299A |2~A300 |2ෙ|2ේ|2ෛ|2ො|2ෝ|2ෞ|2ෟ|2෠|2~A309 |2෡|2෢|2෣|2෤|2~A313 |2෥|2෦|2෧|2෨|2෩|2෪|2෫|2෬|2෭|2෮|2෯|2෰|2෱|2ෲ|2ෳ|2෴|2~A329A |2෵|2෶|2~A332A |2~A332B |2~A332C |2෷|2෸|2෹|2෺|2~A336A |2~A336B |2~A336C |2෻|2෼|2෽|2෾|2෿|2฀|2ก|2ข|2ฃ|2ค|2ฅ|2ฆ|2ง|2จ|2ฉ|2ช|2ซ|2ฌ|2ญ|2ฎ|2ฏ|2ฐ|2ฑ|2~A359A |2ฒ|2ณ|2ด|2ต|2ถ|2~A364A |2ท|2ธ|2น|2บ|2~A368A |2ป|2ผ|2ฝ|2~A371A |2~A372 |2~A373 |2~A374 |2~A375 |2~A376 |2~A377 |2~A378 |2~A379 |2~A380 |2~A381 |2~A381A |2~A382 |2~A383 âĤ͍|2~A383A |2~A384 |2~A385 |2~A386 |2~A386A |2~A387 |2~A388 |2~A389 |2~A390 |2~A391 |2~A392 |2~A393 ¼|2~A394 |2~A395 |2~A396 |2~A397 |2~A398 |2~A399 |2~A400 |2~A401 |2~A402 |2~A403 |2~A404 |2~A405 |2~A406 |2~A407 |2~A408 |2~A409 |2~A410 ҿӽL|2~A410A ȯӽL|2~A411 |2~A412 |2~A413 |2~A414 |2~A415 |2~A416 |2~A417 |2~A418 |2~A419 |2~A420 |2~A421 |2~A422 |2~A423 |2~A424 |2~A425 |2~A426 |2~A427 |2~A428 |2~A429 |2~A430 |2~A431 |2~A432 |2~A433 |2~A434 |2~A435 |2~A436 |2~A437 |2~A438 |2~A439 |2~A440 |2~A441 |2~A442 |2~A443 |2~A444 |2~A445 |2~A446 |2~A447 |2~A448 |2~A449 |2~A450 |2~A450A |2~A451 |2~A452 |2~A453 |2~A454 |2~A455 |2~A456 |2~A457 |2~A457A |2~A458 |2~A459 |2~A460 |2~A461 |2~A462 |2~A463 |2~A464 |2~A465 |2~A466 |2~A467 |2~A468 |2~A469 |2~A470 |2~A471 |2~A472 |2~A473 |2~A474 |2~A475 |2~A476 |2~A477 |2~A478 |2~A479 |2~A480 |2~A481 |2~A482 |2~A483 |2~A484 |2~A485 |2~A486 |2~A487 |2~A488 |2~A489 |2~A490 |2~A491 |2~A492 |2~A493 |2~A494 |2~A495 |2~A496 |2~A497 |2พ|2ฟ|2ภ|2ม|2ย|2ร|2~A507 |2ฤ|2ล|2ฦ|2ว|2ศ|2ษ|2~A514 |2ส|2ห|2~A517 |2~A518 |2~A519 |2ฬ|2อ|2~A522 |2ฮ|2ฯ|2ะ|2ั|2า|2ำ|2ิ|2ี|@16800|09!ľ༉ԇ|3~GBIEE ༊|3ڶԇ་|5༌|3֋ԇ|3~SHUENSHUET |3།ԇ|3঳ԇ|3~SHINDA Þכ|3ڶÞכ་|6༌|3~MAEMBGBIEE |3ˍਃ|3~NGANGU |3~MAEMVEUX |3~MANSUAE |3~MVEUAENGAM |3~SEUNYAM |3~NTOQPEN |3~KEUKEUTNDA |3~NKINDI |3ߋ|3~NGKUENZEUM |3~LAPAQ |3਄߁|3߱~MFAA |3~MAEKEUP |3~PASHAE |3~GHEUAERAE |3~PAMSHAE |3ς༎|3~NZUN ਅ|3P৉༏|3~GHEUAEGHEUAE |3߱༐|3~SISA |3~MGBASA |3~MEUNJOMNDEUQ |3~MOOMPUQ |3~KAFA |3Þਆ|3֯ਆ|3~PET |3~MAEMKPEN |3~NIKA |3ഈ|3~TUAEP |3~LUAEP |3~SONJAM |3~TEUTEUWEN |3~MAENYI |3Փ|3~NDAANGGEUAET |3~KUOQ |3~MOOMEUT |3~SHUM |3~LOMMAE |3~FIRI |3~ROM |3~KPOQ |3~SOQ |3ډ~PIEET |3~SHIRAE |3߱|3ਇਈ༑|3൅~MONGKEUAEQ |3~PAARAE |3༒|3~UNKNOWN |3ৃ|3༓|3༔|3༕|3ऀ|3༖|3঴|3༗|3༘|3ਉ|3Φ|3~KAQ |3৊|3ӛ|3ʹ|3ࡾ|3༙|3~MBAQ |2ǉ~NSHUET |3ˍ~MAEMGBIEE |3~SIEE |3έˍ|3༚߲|3٫~MAELEE |3~KIEEM |3~YEURAE |3~MBAARAE |3~KAM |3~PEESHI |3~YAFU ਆ|3űਈ߳|3~NTIEE ~SHEUOQ |3޾~NJAA |3~GHEUGHEUAEM |3അ|3ˍ༛|3ാ~NJAQ |3~SHEUAEQTU |3ԇ༜|3ਊ~MBAAKET |3Φ߲|3~KEUPUQ |3~GHEUGHEN |3~KEUYEUX |3~LAANAE |3~PARUM |3~VEUM |3~NGKINDI ༝|3~NGGEU ঽ|3~WUAET |3~SAKEUAE |3~TAAM |3~MEUQ |3༞|4Ĭ|3~MFIYAQ |3༟|3~MBEURI |3~MONTIEEN |3~NYAEMAE |3~PUNGAAM |3ਅ~NGGEET |3~FEUX |3~MBUOQ |3Լ|3~KEUAEM |3ð~NJEUAENA |4~NJUQA |3਄|3༠|3~NSEN |3ð|3~KIQ |3਋|2Ě༉ਃ|3঳|3༑|3~WANGKUOQ |3ৃ|3~NDEUAEREE |3~NGKAQ |3~GHARAE |3~MBEEKEET |3~GBAYI |3~NYIR ~MKPARAQ ༡|3~NTU ਊ|3༢|3~PIRIEEN |3~NDOMBU |3ל~CABBAGE-TREE |3~KEUSHEUAEP |3~GHAP |3~KEUKAQ |3Ȥ~MUOMAE |3~NZEUM |3~MBUE |3~NSEUAEN |3ਊ|3~YEUQ |3~KPARAQ |3ܼ|3ৈ|3~NDIDA |3~TAASHAE |3༣|3།~YUE |3~SUAET |3~NGGUAEN ߳|3~VEUX |3~NANSANAQ |3ð~KEUAERI |3༐|3~NGGUON |3র|3~MBIRIEEN |3~MGBASAQ |3~NTEUNGBA |3~TEUTEUX |3~NGGUM |3༤|3~NDEUT |3~NSA |3~NSHAQ |3~BUNG |3~VEUAEPEN |3~MBERAE |3˥|3ে|3ű|3~TITUAEP |3~NSUOT ਋|3~NJEEEE |3Փ|3ি|3༓|3~MBUAEM |3ʹ|3߁|3༔|3਋|3~WUP |3~NGGUEET |3~NSOM |3~NTEN |3঱༒|3~NSUN |3༥|3ð༛|3֊|3ভ|3~SHUEQ |3~SETFON |3঺|3ਃ|3༕|3~KEUSEUX |3~MBEUX |3༦|3ל~PICKET |3༧|3༨|3༩|3༪|3༫|3ք༬|4~FATIGUE |3~NGAQ |3༙|3~LIQ |3༭|3ף|3Ԧ|2ê~MBUO |3ബ|3כ|3ԇ|3~NJIEE |3~LIEE |3~NJEUT |3~NSHEE |3~NGGAAMAE |3߳|3~WUAEN |3~NGKUN |3ܷ|3~NGKAP |3~KEUAETMEUN |3~TEUT |3~SHEUAE |3~NJAP |3༟|3Փ|3~YAEMMAE |3~KUOM |3സ|3~MFEUT |3~NDEUX |3~MALEERI |3ਅ|3~SEUAEQ |3ؕ|3~NJEUAEM |3~KEUOT ~MBUAE |3~NGKEURI |3ˍ|3๜|3~NGKYEE |3~FEUFEUAET |3হ|3~MGBOFUM |3~LEUAEP |3~NDON |3~MONI |3~MGBEUN |3~PUUT |3~MGBIEE |3~MFO |3Ѓ|3~NSIEEP |3ל|3~KWAET |3ऀ|3༖|3঴|3༧|3༦|3~RAEM |3~TEEEE |3~NGKEUAEQ |3~MFEUAE |3~NSIEET |3~KEUP |3ആ|3~PEUTAE |3~NYUE |3਄|3༠|3~MFIEE |3~NGGWAEN |3~YUOM |3̀|3൉|3༥|3߲|3~SUAE |3຃|3~NGGEUX |3~NGKIEE |3ഗ|3༡|3~KUQ |3~NSUM |3~TEUN |3~MAENJET |3~NGGAP |3~LEUM |3~NGGUOM |3ਈ|3༣|3༮|3˷|3ߎF|3৅|3༯|3Φ|3ݏ|3൲|3৆|3ø|3ߋ|3ȣ|3ݍ|3൳|3ޤ|3ɥ|3΅|3ৌ|3ґ|3ɑ|3ਇ|3~PUQ |3༝|3ߍ|3ߎٸ|3̣|3ൺ|3לÈ|3~SAQ |3݆|2¹ভ|3~TOON |3༢|3র|3~VOM |3~LOON |3݇|3ఠ|3~RAQ |3~NSHUOP |3~NDUN |3৏|3Բ|3௢|3~KPEUX |3ഭ|3Զ|3༎|3༗|3֨|3঱|3༚|3༘|3ധ|3ਉ|3~NGKEUX |3~NGOQ |3~NSHUE |3~RIMGBA |3༨|3~PEEM |3ܶ|3~NGGURAE |3൒|3~GHEUX |3~NGKEUAEM |3ർ|3ډ|3ૻ|3~NGGEEEE |3~NDIQ |3~TAEN ߲|3έ|3~PUM |3ߊ~SOFTNESS |3~NGGUAESHAE ߳|3~YIEE |3~GHEUN |3~TUAE |3~YEUAE |3̴|3~TUMAE |3~KEUAE |3~SUAEN |3༜|3~VEUAE |3~WEUX |3਌|3σ|3~TAAQ |3~GHAAMAE |3~NGEUREUT |3~SHEUAEQ |3~MGBEN |3߃|3~NZAQ |3~NKOM |3~GBET |3ڪ|3~KUET |3ನ|3Φ~CLEAVER |3ষ|3~MFEUQ |3~NDIAQ |3~PIEEQ |3~YUEQ |3~LEUAEM |3༤|3~GBEUX |3~NGKUP |3Փ|3๛|3~NGKAAMI |3~GHET |3ȝ|3~NTUM |3~PEUT |3~YEUM |3~NGGEUAE |3Φʼ|3~NZUQ |3~POON |3༩|3~FUET |3༏|3༪|3༮|3Ґ]|3~MVI |3~PUAQ |3~NGKUM |3߁|3~PIET |3߱|3~YEUAET |3~NGGUP |3Þ༰|3Ґগ|3৐|3ڤ|36|3༯|3W|3]|3~LAQ |3Þ~PLURAL |3Ը|3~TAQ |3ߊ഑ָ|3༫|3~YEUX |3~NGUAE |3~YUAEN |3ߌ~SWIMMING |4ই|3৉|3~YUN |3൶|3ো|3ڤ~EPOCH |3൷|3্|3Լ|3ӛ|3ʹ|3ʂ|3ৎ|3֜|3~NGUAET |3Ū|3А|3ਇ|3Ґ~REMEDY |3ö|3Ǜ|3ߍ|3ˋ|3Г|3ð|3෗|3~TEU |3˚|3ς|3ō|3~FAQ |3~GHOM |2ǐ¢|3P|3˷|3Ȗ|3َ|3৅|3Φ|3ô|3ݏ|3൱|3৆|3Ը|3ߊ|3ে|3ø|3ߋ|3ݍ|3˙|3ৈ|3ޤ|3Փ|3൴|3ɥ|3൵|3ߌ|3΅|3ú|3৊|3ো|3ৌ|3্|3ґ|3˥|3ɑ|3ৎ|3ք|3൸|3ڥ|3А|3৏|3৐|3Ŷ|3Ɯ|3ߍ|3ˋ|3൹|3ߎ|3ð|3˴|3ל|3Ԧ|3ڣ|3ൻ|3~VUEQ |@16A40|0Ȓ!ü|2ݑ|2ɨ|2۾|2ī|2ć|26|2ˇ|2૷|2~HAO |2~DAI |2݂|2~KEAAE |2Ǭ|2ਉ|2਀|2Þ|2ǲ|2W|2ʨ|2֠|2~THEA |2৔|2Ŷ|2Z|2ˋ|2ූ|2ô|2~HAI |2͍|2~TEK |@16A60|0Ȓ0ĩ|2S|2X|2c|2o|2x|2½|2È|2¼|2Î|@16A6E|0Ȓʀ|1Uʀ|0ķ!~OZ |2~OC |2২|2޺|2૗|2ݖ|2ص|2ഃ|2~VZ |2~VC |2~VQ |2~VX |2ڰ|2ڱ|2~EQ |2޻|2~IZ |2০|2১|2ം|2~UZ |2ݣ|2~UQ |2~UX |2~AWZ |2~AWC |2~AWQ |2༱|2~UIZ |2~UIC |2~UIQ |2~UIX |2T˱|2ò༲|2Ż༳|3༱|2~UEC |2༳|2~UEQ |2༲|2~UIUZ |2~UIUC |2~UIUQ |2~UIUX |2~MZ |2༴|2~MQ |2~MX |2¢|2ƛ|2Ď|2Ū|2ā|2ú|2Ŷ|2Þ|2ƚ|2Ǌ|2ī|2ð|2ö|2Ë|2ô|2උ|2ü|2ć|2â|2ן|2ů|2ŵ|2ʁ|2ǩ|2~HTTA |2Ʊ|2Ά|2ȝ|2ǳ|2Ɨ|2ǣ|@16AC0|0ķ0ĩ|2S|2X|2c|2o|2x|2½|2È|2¼|2Î|@16AD0|0ȮɃ!~ENNI |3¢|3˺|3ȝ|3߆|3ൈ|3๙|3~DHII |3~KPAH |3Т|3~HWAH |3Ŷ|3Ϩ|3া|3̑|3ҏ|3~UWU |3e|3ī|3Է|3~YEIN |3Þ|3~WADDA |36|3W|3ǲ|3P|3Ȗ|3Z|3]|@16AF0|0ȮɃAÓÐ|3ÏÐ|3ԡÐ|3~LOW-MID Ð|3~HIGH-LOW Ð|2ǙŮ|@16B00|0Ü¡2~KEEB |3~KEEV |3~KIB |3~KIV |3~KAUB |3~KAUV |3~KUB |3~KUV |3~KEB |3~KEV |3~KAIB |3~KAIV |3~KOOB |3~KOOV |3~KAWB |3~KAWV |3~KUAB |3~KUAV |3~KOB |3~KOV |3~KIAB |3~KIAV |3๿|3~KAV |3~KWB |3~KWV |3~KAAB |3~KAAV |2ĸ~VAU |3~NTSAU |3~LAU |3Ƽ|3~NLAU |3~RAU |3~NKAU |3~QHAU |3~YAU |3~HLAU |3~MAU |3~CHAU |3~NCHAU |3~HNAU |3~PLHAU |3~NTHAU |3~NAU |3ū|3~XAU |3~CAU |2Lͱ~TUB |4ʧ|4~KES |4~KHAV |4~SUAM |4~HOM |4~TAUM |2#՟~THOM |4~TSHAB ~CEEB |3ͱ~CHEEM |3՟~THIAB |4~FEEM |3ߴ~NTXIV |4ʚ|4~TOV |4~FAIB |3՟~SEEV |3༵~SUAB |3՟~NRUA |3৸ಧ|3~XAUS |3ͱ~TSOV ਍|@16B50|0Ü¡0ĩ|3S|3X|3c|3o|3x|3½|3È|3¼|3Î|@16B5B|0Ü¡?е|3৪|3ōӅ|3ԥ|3Ñԥ|3ō~BILLIONS |3~TRILLIONS |@16B63|0Ü¡#՟~LUB |3~XYOO |3য|3~THIRD-STAGE য|3༶~THAJ |3~HNUB |3~NQIG |3~XIAB |3~NTUJ |3ֲ|3~TXHEEJ ~CEEV |3༵~TSEEB |3̱|3~LOS |3~MUS |3ͱ~HAIS ~LUS ༷༷|4~CUAM ~TSHOOJ |4༸|5~CHWV |4~PUB ~DAWB |4~NRES ~TOS |@16B7D|0Ü¡̗#~TSHEEJ |4~YEEG |4~LIS |4~LAUJ |4~XYOOJ |4ٜ|4~HAWJ |4~MUAS |4~THOJ |4~TSAB |4~PHAB |4~KHAB |4~HAM |4~VAJ |4~FAJ |4२|4~TSWB |4~KWM |4~VWJ |@16E40|0ħ'!ø|3«|3ē|3œ|3༹|3ģ|3༺|3ł|3Č|3ĉ|3Ź|3]|3ď|36|3Ŝ|3Z|3a|3ļ|3P|3Ȥ|3·|3Ƶ|3޳|3༻|3Ń|3ě|3ȉ|3à|3ª|3W|3Ŗ|3Ī|1%!ø|3«|3ē|3œ|3༹|3ģ|3༺|3ł|3Č|3ĉ|3Ź|3]|3ď|36|3Ŝ|3Z|3a|3ļ|3P|3Ȥ|3·|3Ƶ|3޳|3༻|3Ń|3ě|3ȉ|3à|3ª|3W|3Ŗ|3Ī|10ĩ|2S|2X|2c|2o|2x|2½|2È|2¼|2Î|1?ō|2ϵ|2Ό|2ө|2Ӫ|2Ш|2ш|2ӫ|2Ҟ|2Ӭ|10SȪ1|2XȪ1|2cȪ1|1Ư|1ǙŮ|1-~AIVA |1ʴ؜|@16F00|0Á!Þ|2ī|2+Þ|2܉|2ð|2๡|2Ȣð|2ȝ|2ǋ|2~VFA |2ü|2ć|2+ǟ|3ü|2ǟ|2Ǧ|2ö|2ן|2+Ȇ|2Ȣö|2Ȇ|2~NNHA |2ô|2~LYA |2Ӈ|2~LHYA |2ࣟ|2~DLHA |2~TLHYA |2~DLHYA |2¢|2Ď|2+¢|2̏|2~QGA |2Ū|2๟|2ȢŪ|2Ë|2Ά|2ǩ|2ࡪ|2~TSSA |2~DZZA |2ƚ|2๠|2΄|2ك|2+΄|3ك|2Ұ΄|2ů|2Ȟ|2˳|2~ZSHA |2ʁ|2ν|2+ʁ|2ā|2ǣ|2~ZSA |2ޣ|2~ZZSA |2Ȣޣ|2~ZZYA |2~ZZSYA |2Ŷ|2ϩ|2ҍ|2~BRI |2~SYI |2~DZYI |2ȼ|2Μ|2~RTE |@16F4F|0Á#ĸ`¿|1!ࡣ|1#༼|2Ұઊ|3༼|12#6|3ĵ|3~AHH |3Ⱦ|3ο|3W|3ǲ|3˘|3œ|3Z|3ǃ|3Ϟ|3~OEY |3]|3ߕ|3්|3~IANG |3࠻|3͇|3ř|3ڟ|3ࣣ|3P|3֫|3~UAN |3~UANG |3Ų|3~UEI |3~UNG |3Ī|3+|3ɢ|3฿|3ݥ|3ͽݥ|3ͻ|3ͽͻ|3Ŗ|3҅|3ū|3Ҽ|3à|3˱|3~UOG |3~YUI |3~OG |3~OER |3~VW |3๻|3৔|3~IONG |3ߖ|@16F8F|0ÁÐG|2ǹG|2H|2[|1!я|2҈|2Գ|2ѐ|2ܓ|2਎|2ߵ|2Ұه|3я|3Գ|3ѐ|3ܓ|3ߵ|@16FE0|03ѥL|0~NUSHU ѥL|0FѦvL|2ѥL|0~KHITAN %åҌ|@16FF0|0༽Ȫ༾Lŵ|4~NHAY |@18800|03~COMPONENT-001 |1~COMPONENT-002 |1~COMPONENT-003 |1~COMPONENT-004 |1~COMPONENT-005 |1~COMPONENT-006 |1~COMPONENT-007 |1~COMPONENT-008 |1~COMPONENT-009 |1~COMPONENT-010 |1~COMPONENT-011 |1~COMPONENT-012 |1~COMPONENT-013 |1~COMPONENT-014 |1~COMPONENT-015 |1~COMPONENT-016 |1~COMPONENT-017 |1~COMPONENT-018 |1~COMPONENT-019 |1~COMPONENT-020 |1~COMPONENT-021 |1~COMPONENT-022 |1~COMPONENT-023 |1~COMPONENT-024 |1~COMPONENT-025 |1~COMPONENT-026 |1~COMPONENT-027 |1~COMPONENT-028 |1~COMPONENT-029 |1~COMPONENT-030 |1~COMPONENT-031 |1~COMPONENT-032 |1~COMPONENT-033 |1~COMPONENT-034 |1~COMPONENT-035 |1~COMPONENT-036 |1~COMPONENT-037 |1~COMPONENT-038 |1~COMPONENT-039 |1~COMPONENT-040 |1~COMPONENT-041 |1~COMPONENT-042 |1~COMPONENT-043 |1~COMPONENT-044 |1~COMPONENT-045 |1~COMPONENT-046 |1~COMPONENT-047 |1~COMPONENT-048 |1~COMPONENT-049 |1~COMPONENT-050 |1~COMPONENT-051 |1~COMPONENT-052 |1~COMPONENT-053 |1~COMPONENT-054 |1~COMPONENT-055 |1~COMPONENT-056 |1~COMPONENT-057 |1~COMPONENT-058 |1~COMPONENT-059 |1~COMPONENT-060 |1~COMPONENT-061 |1~COMPONENT-062 |1~COMPONENT-063 |1~COMPONENT-064 |1~COMPONENT-065 |1~COMPONENT-066 |1~COMPONENT-067 |1~COMPONENT-068 |1~COMPONENT-069 |1~COMPONENT-070 |1~COMPONENT-071 |1~COMPONENT-072 |1~COMPONENT-073 |1~COMPONENT-074 |1~COMPONENT-075 |1~COMPONENT-076 |1~COMPONENT-077 |1~COMPONENT-078 |1~COMPONENT-079 |1~COMPONENT-080 |1~COMPONENT-081 |1~COMPONENT-082 |1~COMPONENT-083 |1~COMPONENT-084 |1~COMPONENT-085 |1~COMPONENT-086 |1~COMPONENT-087 |1~COMPONENT-088 |1~COMPONENT-089 |1~COMPONENT-090 |1~COMPONENT-091 |1~COMPONENT-092 |1~COMPONENT-093 |1~COMPONENT-094 |1~COMPONENT-095 |1~COMPONENT-096 |1~COMPONENT-097 |1~COMPONENT-098 |1~COMPONENT-099 |1~COMPONENT-100 |1~COMPONENT-101 |1~COMPONENT-102 |1~COMPONENT-103 |1~COMPONENT-104 |1~COMPONENT-105 |1~COMPONENT-106 |1~COMPONENT-107 |1~COMPONENT-108 |1~COMPONENT-109 |1~COMPONENT-110 |1~COMPONENT-111 |1~COMPONENT-112 |1~COMPONENT-113 |1~COMPONENT-114 |1~COMPONENT-115 |1~COMPONENT-116 |1~COMPONENT-117 |1~COMPONENT-118 |1~COMPONENT-119 |1~COMPONENT-120 |1~COMPONENT-121 |1~COMPONENT-122 |1~COMPONENT-123 |1~COMPONENT-124 |1~COMPONENT-125 |1~COMPONENT-126 |1~COMPONENT-127 |1~COMPONENT-128 |1~COMPONENT-129 |1~COMPONENT-130 |1~COMPONENT-131 |1~COMPONENT-132 |1~COMPONENT-133 |1~COMPONENT-134 |1~COMPONENT-135 |1~COMPONENT-136 |1~COMPONENT-137 |1~COMPONENT-138 |1~COMPONENT-139 |1~COMPONENT-140 |1~COMPONENT-141 |1~COMPONENT-142 |1~COMPONENT-143 |1~COMPONENT-144 |1~COMPONENT-145 |1~COMPONENT-146 |1~COMPONENT-147 |1~COMPONENT-148 |1~COMPONENT-149 |1~COMPONENT-150 |1~COMPONENT-151 |1~COMPONENT-152 |1~COMPONENT-153 |1~COMPONENT-154 |1~COMPONENT-155 |1~COMPONENT-156 |1~COMPONENT-157 |1~COMPONENT-158 |1~COMPONENT-159 |1~COMPONENT-160 |1~COMPONENT-161 |1~COMPONENT-162 |1~COMPONENT-163 |1~COMPONENT-164 |1~COMPONENT-165 |1~COMPONENT-166 |1~COMPONENT-167 |1~COMPONENT-168 |1~COMPONENT-169 |1~COMPONENT-170 |1~COMPONENT-171 |1~COMPONENT-172 |1~COMPONENT-173 |1~COMPONENT-174 |1~COMPONENT-175 |1~COMPONENT-176 |1~COMPONENT-177 |1~COMPONENT-178 |1~COMPONENT-179 |1~COMPONENT-180 |1~COMPONENT-181 |1~COMPONENT-182 |1~COMPONENT-183 |1~COMPONENT-184 |1~COMPONENT-185 |1~COMPONENT-186 |1~COMPONENT-187 |1~COMPONENT-188 |1~COMPONENT-189 |1~COMPONENT-190 |1~COMPONENT-191 |1~COMPONENT-192 |1~COMPONENT-193 |1~COMPONENT-194 |1~COMPONENT-195 |1~COMPONENT-196 |1~COMPONENT-197 |1~COMPONENT-198 |1~COMPONENT-199 |1~COMPONENT-200 |1~COMPONENT-201 |1~COMPONENT-202 |1~COMPONENT-203 |1~COMPONENT-204 |1~COMPONENT-205 |1~COMPONENT-206 |1~COMPONENT-207 |1~COMPONENT-208 |1~COMPONENT-209 |1~COMPONENT-210 |1~COMPONENT-211 |1~COMPONENT-212 |1~COMPONENT-213 |1~COMPONENT-214 |1~COMPONENT-215 |1~COMPONENT-216 |1~COMPONENT-217 |1~COMPONENT-218 |1~COMPONENT-219 |1~COMPONENT-220 |1~COMPONENT-221 |1~COMPONENT-222 |1~COMPONENT-223 |1~COMPONENT-224 |1~COMPONENT-225 |1~COMPONENT-226 |1~COMPONENT-227 |1~COMPONENT-228 |1~COMPONENT-229 |1~COMPONENT-230 |1~COMPONENT-231 |1~COMPONENT-232 |1~COMPONENT-233 |1~COMPONENT-234 |1~COMPONENT-235 |1~COMPONENT-236 |1~COMPONENT-237 |1~COMPONENT-238 |1~COMPONENT-239 |1~COMPONENT-240 |1~COMPONENT-241 |1~COMPONENT-242 |1~COMPONENT-243 |1~COMPONENT-244 |1~COMPONENT-245 |1~COMPONENT-246 |1~COMPONENT-247 |1~COMPONENT-248 |1~COMPONENT-249 |1~COMPONENT-250 |1~COMPONENT-251 |1~COMPONENT-252 |1~COMPONENT-253 |1~COMPONENT-254 |1~COMPONENT-255 |1~COMPONENT-256 |1~COMPONENT-257 |1~COMPONENT-258 |1~COMPONENT-259 |1~COMPONENT-260 |1~COMPONENT-261 |1~COMPONENT-262 |1~COMPONENT-263 |1~COMPONENT-264 |1~COMPONENT-265 |1~COMPONENT-266 |1~COMPONENT-267 |1~COMPONENT-268 |1~COMPONENT-269 |1~COMPONENT-270 |1~COMPONENT-271 |1~COMPONENT-272 |1~COMPONENT-273 |1~COMPONENT-274 |1~COMPONENT-275 |1~COMPONENT-276 |1~COMPONENT-277 |1~COMPONENT-278 |1~COMPONENT-279 |1~COMPONENT-280 |1~COMPONENT-281 |1~COMPONENT-282 |1~COMPONENT-283 |1~COMPONENT-284 |1~COMPONENT-285 |1~COMPONENT-286 |1~COMPONENT-287 |1~COMPONENT-288 |1~COMPONENT-289 |1~COMPONENT-290 |1~COMPONENT-291 |1~COMPONENT-292 |1~COMPONENT-293 |1~COMPONENT-294 |1~COMPONENT-295 |1~COMPONENT-296 |1~COMPONENT-297 |1~COMPONENT-298 |1~COMPONENT-299 |1~COMPONENT-300 |1~COMPONENT-301 |1~COMPONENT-302 |1~COMPONENT-303 |1~COMPONENT-304 |1~COMPONENT-305 |1~COMPONENT-306 |1~COMPONENT-307 |1~COMPONENT-308 |1~COMPONENT-309 |1~COMPONENT-310 |1~COMPONENT-311 |1~COMPONENT-312 |1~COMPONENT-313 |1~COMPONENT-314 |1~COMPONENT-315 |1~COMPONENT-316 |1~COMPONENT-317 |1~COMPONENT-318 |1~COMPONENT-319 |1~COMPONENT-320 |1~COMPONENT-321 |1~COMPONENT-322 |1~COMPONENT-323 |1~COMPONENT-324 |1~COMPONENT-325 |1~COMPONENT-326 |1~COMPONENT-327 |1~COMPONENT-328 |1~COMPONENT-329 |1~COMPONENT-330 |1~COMPONENT-331 |1~COMPONENT-332 |1~COMPONENT-333 |1~COMPONENT-334 |1~COMPONENT-335 |1~COMPONENT-336 |1~COMPONENT-337 |1~COMPONENT-338 |1~COMPONENT-339 |1~COMPONENT-340 |1~COMPONENT-341 |1~COMPONENT-342 |1~COMPONENT-343 |1~COMPONENT-344 |1~COMPONENT-345 |1~COMPONENT-346 |1~COMPONENT-347 |1~COMPONENT-348 |1~COMPONENT-349 |1~COMPONENT-350 |1~COMPONENT-351 |1~COMPONENT-352 |1~COMPONENT-353 |1~COMPONENT-354 |1~COMPONENT-355 |1~COMPONENT-356 |1~COMPONENT-357 |1~COMPONENT-358 |1~COMPONENT-359 |1~COMPONENT-360 |1~COMPONENT-361 |1~COMPONENT-362 |1~COMPONENT-363 |1~COMPONENT-364 |1~COMPONENT-365 |1~COMPONENT-366 |1~COMPONENT-367 |1~COMPONENT-368 |1~COMPONENT-369 |1~COMPONENT-370 |1~COMPONENT-371 |1~COMPONENT-372 |1~COMPONENT-373 |1~COMPONENT-374 |1~COMPONENT-375 |1~COMPONENT-376 |1~COMPONENT-377 |1~COMPONENT-378 |1~COMPONENT-379 |1~COMPONENT-380 |1~COMPONENT-381 |1~COMPONENT-382 |1~COMPONENT-383 |1~COMPONENT-384 |1~COMPONENT-385 |1~COMPONENT-386 |1~COMPONENT-387 |1~COMPONENT-388 |1~COMPONENT-389 |1~COMPONENT-390 |1~COMPONENT-391 |1~COMPONENT-392 |1~COMPONENT-393 |1~COMPONENT-394 |1~COMPONENT-395 |1~COMPONENT-396 |1~COMPONENT-397 |1~COMPONENT-398 |1~COMPONENT-399 |1~COMPONENT-400 |1~COMPONENT-401 |1~COMPONENT-402 |1~COMPONENT-403 |1~COMPONENT-404 |1~COMPONENT-405 |1~COMPONENT-406 |1~COMPONENT-407 |1~COMPONENT-408 |1~COMPONENT-409 |1~COMPONENT-410 |1~COMPONENT-411 |1~COMPONENT-412 |1~COMPONENT-413 |1~COMPONENT-414 |1~COMPONENT-415 |1~COMPONENT-416 |1~COMPONENT-417 |1~COMPONENT-418 |1~COMPONENT-419 |1~COMPONENT-420 |1~COMPONENT-421 |1~COMPONENT-422 |1~COMPONENT-423 |1~COMPONENT-424 |1~COMPONENT-425 |1~COMPONENT-426 |1~COMPONENT-427 |1~COMPONENT-428 |1~COMPONENT-429 |1~COMPONENT-430 |1~COMPONENT-431 |1~COMPONENT-432 |1~COMPONENT-433 |1~COMPONENT-434 |1~COMPONENT-435 |1~COMPONENT-436 |1~COMPONENT-437 |1~COMPONENT-438 |1~COMPONENT-439 |1~COMPONENT-440 |1~COMPONENT-441 |1~COMPONENT-442 |1~COMPONENT-443 |1~COMPONENT-444 |1~COMPONENT-445 |1~COMPONENT-446 |1~COMPONENT-447 |1~COMPONENT-448 |1~COMPONENT-449 |1~COMPONENT-450 |1~COMPONENT-451 |1~COMPONENT-452 |1~COMPONENT-453 |1~COMPONENT-454 |1~COMPONENT-455 |1~COMPONENT-456 |1~COMPONENT-457 |1~COMPONENT-458 |1~COMPONENT-459 |1~COMPONENT-460 |1~COMPONENT-461 |1~COMPONENT-462 |1~COMPONENT-463 |1~COMPONENT-464 |1~COMPONENT-465 |1~COMPONENT-466 |1~COMPONENT-467 |1~COMPONENT-468 |1~COMPONENT-469 |1~COMPONENT-470 |1~COMPONENT-471 |1~COMPONENT-472 |1~COMPONENT-473 |1~COMPONENT-474 |1~COMPONENT-475 |1~COMPONENT-476 |1~COMPONENT-477 |1~COMPONENT-478 |1~COMPONENT-479 |1~COMPONENT-480 |1~COMPONENT-481 |1~COMPONENT-482 |1~COMPONENT-483 |1~COMPONENT-484 |1~COMPONENT-485 |1~COMPONENT-486 |1~COMPONENT-487 |1~COMPONENT-488 |1~COMPONENT-489 |1~COMPONENT-490 |1~COMPONENT-491 |1~COMPONENT-492 |1~COMPONENT-493 |1~COMPONENT-494 |1~COMPONENT-495 |1~COMPONENT-496 |1~COMPONENT-497 |1~COMPONENT-498 |1~COMPONENT-499 |1~COMPONENT-500 |1~COMPONENT-501 |1~COMPONENT-502 |1~COMPONENT-503 |1~COMPONENT-504 |1~COMPONENT-505 |1~COMPONENT-506 |1~COMPONENT-507 |1~COMPONENT-508 |1~COMPONENT-509 |1~COMPONENT-510 |1~COMPONENT-511 |1~COMPONENT-512 |1~COMPONENT-513 |1~COMPONENT-514 |1~COMPONENT-515 |1~COMPONENT-516 |1~COMPONENT-517 |1~COMPONENT-518 |1~COMPONENT-519 |1~COMPONENT-520 |1~COMPONENT-521 |1~COMPONENT-522 |1~COMPONENT-523 |1~COMPONENT-524 |1~COMPONENT-525 |1~COMPONENT-526 |1~COMPONENT-527 |1~COMPONENT-528 |1~COMPONENT-529 |1~COMPONENT-530 |1~COMPONENT-531 |1~COMPONENT-532 |1~COMPONENT-533 |1~COMPONENT-534 |1~COMPONENT-535 |1~COMPONENT-536 |1~COMPONENT-537 |1~COMPONENT-538 |1~COMPONENT-539 |1~COMPONENT-540 |1~COMPONENT-541 |1~COMPONENT-542 |1~COMPONENT-543 |1~COMPONENT-544 |1~COMPONENT-545 |1~COMPONENT-546 |1~COMPONENT-547 |1~COMPONENT-548 |1~COMPONENT-549 |1~COMPONENT-550 |1~COMPONENT-551 |1~COMPONENT-552 |1~COMPONENT-553 |1~COMPONENT-554 |1~COMPONENT-555 |1~COMPONENT-556 |1~COMPONENT-557 |1~COMPONENT-558 |1~COMPONENT-559 |1~COMPONENT-560 |1~COMPONENT-561 |1~COMPONENT-562 |1~COMPONENT-563 |1~COMPONENT-564 |1~COMPONENT-565 |1~COMPONENT-566 |1~COMPONENT-567 |1~COMPONENT-568 |1~COMPONENT-569 |1~COMPONENT-570 |1~COMPONENT-571 |1~COMPONENT-572 |1~COMPONENT-573 |1~COMPONENT-574 |1~COMPONENT-575 |1~COMPONENT-576 |1~COMPONENT-577 |1~COMPONENT-578 |1~COMPONENT-579 |1~COMPONENT-580 |1~COMPONENT-581 |1~COMPONENT-582 |1~COMPONENT-583 |1~COMPONENT-584 |1~COMPONENT-585 |1~COMPONENT-586 |1~COMPONENT-587 |1~COMPONENT-588 |1~COMPONENT-589 |1~COMPONENT-590 |1~COMPONENT-591 |1~COMPONENT-592 |1~COMPONENT-593 |1~COMPONENT-594 |1~COMPONENT-595 |1~COMPONENT-596 |1~COMPONENT-597 |1~COMPONENT-598 |1~COMPONENT-599 |1~COMPONENT-600 |1~COMPONENT-601 |1~COMPONENT-602 |1~COMPONENT-603 |1~COMPONENT-604 |1~COMPONENT-605 |1~COMPONENT-606 |1~COMPONENT-607 |1~COMPONENT-608 |1~COMPONENT-609 |1~COMPONENT-610 |1~COMPONENT-611 |1~COMPONENT-612 |1~COMPONENT-613 |1~COMPONENT-614 |1~COMPONENT-615 |1~COMPONENT-616 |1~COMPONENT-617 |1~COMPONENT-618 |1~COMPONENT-619 |1~COMPONENT-620 |1~COMPONENT-621 |1~COMPONENT-622 |1~COMPONENT-623 |1~COMPONENT-624 |1~COMPONENT-625 |1~COMPONENT-626 |1~COMPONENT-627 |1~COMPONENT-628 |1~COMPONENT-629 |1~COMPONENT-630 |1~COMPONENT-631 |1~COMPONENT-632 |1~COMPONENT-633 |1~COMPONENT-634 |1~COMPONENT-635 |1~COMPONENT-636 |1~COMPONENT-637 |1~COMPONENT-638 |1~COMPONENT-639 |1~COMPONENT-640 |1~COMPONENT-641 |1~COMPONENT-642 |1~COMPONENT-643 |1~COMPONENT-644 |1~COMPONENT-645 |1~COMPONENT-646 |1~COMPONENT-647 |1~COMPONENT-648 |1~COMPONENT-649 |1~COMPONENT-650 |1~COMPONENT-651 |1~COMPONENT-652 |1~COMPONENT-653 |1~COMPONENT-654 |1~COMPONENT-655 |1~COMPONENT-656 |1~COMPONENT-657 |1~COMPONENT-658 |1~COMPONENT-659 |1~COMPONENT-660 |1~COMPONENT-661 |1~COMPONENT-662 |1~COMPONENT-663 |1~COMPONENT-664 |1~COMPONENT-665 |1~COMPONENT-666 |1~COMPONENT-667 |1~COMPONENT-668 |1~COMPONENT-669 |1~COMPONENT-670 |1~COMPONENT-671 |1~COMPONENT-672 |1~COMPONENT-673 |1~COMPONENT-674 |1~COMPONENT-675 |1~COMPONENT-676 |1~COMPONENT-677 |1~COMPONENT-678 |1~COMPONENT-679 |1~COMPONENT-680 |1~COMPONENT-681 |1~COMPONENT-682 |1~COMPONENT-683 |1~COMPONENT-684 |1~COMPONENT-685 |1~COMPONENT-686 |1~COMPONENT-687 |1~COMPONENT-688 |1~COMPONENT-689 |1~COMPONENT-690 |1~COMPONENT-691 |1~COMPONENT-692 |1~COMPONENT-693 |1~COMPONENT-694 |1~COMPONENT-695 |1~COMPONENT-696 |1~COMPONENT-697 |1~COMPONENT-698 |1~COMPONENT-699 |1~COMPONENT-700 |1~COMPONENT-701 |1~COMPONENT-702 |1~COMPONENT-703 |1~COMPONENT-704 |1~COMPONENT-705 |1~COMPONENT-706 |1~COMPONENT-707 |1~COMPONENT-708 |1~COMPONENT-709 |1~COMPONENT-710 |1~COMPONENT-711 |1~COMPONENT-712 |1~COMPONENT-713 |1~COMPONENT-714 |1~COMPONENT-715 |1~COMPONENT-716 |1~COMPONENT-717 |1~COMPONENT-718 |1~COMPONENT-719 |1~COMPONENT-720 |1~COMPONENT-721 |1~COMPONENT-722 |1~COMPONENT-723 |1~COMPONENT-724 |1~COMPONENT-725 |1~COMPONENT-726 |1~COMPONENT-727 |1~COMPONENT-728 |1~COMPONENT-729 |1~COMPONENT-730 |1~COMPONENT-731 |1~COMPONENT-732 |1~COMPONENT-733 |1~COMPONENT-734 |1~COMPONENT-735 |1~COMPONENT-736 |1~COMPONENT-737 |1~COMPONENT-738 |1~COMPONENT-739 |1~COMPONENT-740 |1~COMPONENT-741 |1~COMPONENT-742 |1~COMPONENT-743 |1~COMPONENT-744 |1~COMPONENT-745 |1~COMPONENT-746 |1~COMPONENT-747 |1~COMPONENT-748 |1~COMPONENT-749 |1~COMPONENT-750 |1~COMPONENT-751 |1~COMPONENT-752 |1~COMPONENT-753 |1~COMPONENT-754 |1~COMPONENT-755 |1~COMPONENT-756 |1~COMPONENT-757 |1~COMPONENT-758 |1~COMPONENT-759 |1~COMPONENT-760 |1~COMPONENT-761 |1~COMPONENT-762 |1~COMPONENT-763 |1~COMPONENT-764 |1~COMPONENT-765 |1~COMPONENT-766 |1~COMPONENT-767 |1~COMPONENT-768 |@1AFF0|0l!ϗя|3҈|3Գ|3ѐ|@1AFF5|0l!ϗ਎|3ߵ|3ՠه|4я|4҈|4Գ|4ѐ|@1AFFD|0l!ϗՠ਎|4ߵ|@1B000|0l!ȢZ|0Ħ!Ȣͪ|0d!~A-1 |2~A-2 |2~A-3 |2~A-WO |2~I-1 |2~I-2 |2~I-3 |2~I-4 |2~U-1 |2~U-2 |2~U-3 |2~U-4 |2~U-5 |2~E-2 |2~E-3 |2~E-4 |2~E-5 |2~E-6 |2~O-1 |2~O-2 |2~O-3 |2~KA-1 |2~KA-2 |2~KA-3 |2~KA-4 |2~KA-5 |2~KA-6 |2~KA-7 |2~KA-8 |2~KA-9 |2~KA-10 |2~KA-11 |2~KA-KE |2~KI-1 |2~KI-2 |2~KI-3 |2~KI-4 |2~KI-5 |2~KI-6 |2~KI-7 |2~KI-8 |2~KU-1 |2~KU-2 |2~KU-3 |2~KU-4 |2~KU-5 |2~KU-6 |2~KU-7 |2~KE-1 |2~KE-2 |2~KE-3 |2~KE-4 |2~KE-5 |2~KE-6 |2~KO-1 |2~KO-2 |2~KO-3 |2~KO-KI |2~SA-1 |2฻|2~SA-3 |2~SA-4 |2~SA-5 |2~SA-6 |2~SA-7 |2~SA-8 |2~SI-1 |2~SI-2 |2~SI-3 |2~SI-4 |2~SI-5 |2~SI-6 |2~SU-1 |2~SU-2 |2~SU-3 |2~SU-4 |2~SU-5 |2~SU-6 |2~SU-7 |2~SU-8 |2~SE-1 |2~SE-2 |2~SE-3 |2~SE-4 |2~SE-5 |2~SO-1 |2~SO-2 |2~SO-3 |2~SO-4 |2~SO-5 |2~SO-6 |2~SO-7 |2~TA-1 |2฼|2~TA-3 |2~TA-4 |2~TI-1 |2~TI-2 |2~TI-3 |2~TI-4 |2~TI-5 |2~TI-6 |2~TI-7 |2~TU-1 |2~TU-2 |2~TU-3 |2~TU-4 |2~TU-TO |2~TE-1 |2฽|2~TE-3 |2~TE-4 |2~TE-5 |2~TE-6 |2~TE-7 |2~TE-8 |2~TE-9 |2~TO-1 |2~TO-2 |2~TO-3 |2~TO-4 |2~TO-5 |2~TO-6 |2~TO-RA |2~NA-1 |2ุ|2~NA-3 |2~NA-4 |2~NA-5 |2~NA-6 |2~NA-7 |2~NA-8 |2~NA-9 |2~NI-1 |2~NI-2 |2~NI-3 |2~NI-4 |2~NI-5 |2~NI-6 |2~NI-7 |2~NI-TE |2~NU-1 |2~NU-2 |2~NU-3 |2~NE-1 |2ู|2~NE-3 |2~NE-4 |2~NE-5 |2~NE-6 |2~NE-KO |2~NO-1 |2~NO-2 |2~NO-3 |2~NO-4 |2~NO-5 |2~HA-1 |2~HA-2 |2~HA-3 |2~HA-4 |2~HA-5 |2~HA-6 |2~HA-7 |2~HA-8 |2~HA-9 |2~HA-10 |2~HA-11 |2~HI-1 |2~HI-2 |2~HI-3 |2~HI-4 |2~HI-5 |2~HI-6 |2~HI-7 |2~HU-1 |2~HU-2 |2~HU-3 |2~HE-1 |2~HE-2 |2~HE-3 |2~HE-4 |2~HE-5 |2~HE-6 |2~HE-7 |2~HO-1 |2~HO-2 |2~HO-3 |2~HO-4 |2~HO-5 |2~HO-6 |2~HO-7 |2~HO-8 |2~MA-1 |2~MA-2 |2~MA-3 |2~MA-4 |2~MA-5 |2~MA-6 |2~MA-7 |2~MI-1 |2~MI-2 |2~MI-3 |2~MI-4 |2~MI-5 |2~MI-6 |2~MI-7 |2~MU-1 |2~MU-2 |2~MU-3 |2~MU-4 |2~ME-1 |2~ME-2 |2~ME-MA |2~MO-1 |2~MO-2 |2~MO-3 |2~MO-4 |2~MO-5 |2~MO-6 |2~YA-1 |2~YA-2 |2~YA-3 |2~YA-4 |2~YA-5 |2ହ|2~YU-1 |2~YU-2 |2~YU-3 |2~YU-4 |2~YO-1 |2~YO-2 |2~YO-3 |2~YO-4 |2~YO-5 |2~YO-6 |2~RA-1 |2ฺ|2~RA-3 |2~RA-4 |2~RI-1 |2~RI-2 |2~RI-3 |2~RI-4 |2~RI-5 |2~RI-6 |2~RI-7 |2~RU-1 |2~RU-2 |2~RU-3 |2~RU-4 |2~RU-5 |2~RU-6 |2~RE-1 |2~RE-2 |2~RE-3 |2~RE-4 |2~RO-1 |2~RO-2 |2~RO-3 |2~RO-4 |2~RO-5 |2~RO-6 |2~WA-1 |2~WA-2 |2~WA-3 |2~WA-4 |2~WA-5 |2~WI-1 |2~WI-2 |2~WI-3 |2~WI-4 |2~WI-5 |2~WE-1 |2~WE-2 |2~WE-3 |2~WE-4 |2~WO-1 |2~WO-2 |2~WO-3 |2~WO-4 |2~WO-5 |2~WO-6 |2~WO-7 |2~N-MU-MO-1 |2~N-MU-MO-2 |0Ħ!ȢР|0l!Ȣ+|3ͪ|3Р|@1B150|0Ħ!%˹|3ʷ|3˘|@1B164|0l!%˹|3ʷ|3˘|3à|@1BC00|0Ç!Ē|2Ń|2ł|2Č|2Ź|2ď|2·|2a|2ě|2ē|2ĉ|2ª|2łà|2ě«|2Źà|2ďø|2ª«|2ӝ|2ұ༿|2༿|2ݔ|2ұŜ|2~HL |2࣠|2~RH |2ø|2à|2Ŝ|2«|2øà|2àø|2Ŝø|2«Ŝ|2ø$^|2à$^|2Ŝ$^|4Õ̡:H|2«$^|5[|2ø«|2à«|2Ŝ«|2««|2øà«|2àø«|2Ŝø«|2«Ŝ«|2Ŝ«$^|3à|4«|2«Č|4ª|3ł|4ª|2Č«|3ª«|2œ|2~WH |2œª|2«à|3ø|2ďª«|2ĉª«|2«ď|4ª|26|2ұگ|2٥|2W|2~AOU |2]|2Z|2͇|2Ż]|2ߖ|2Ȗ|2ұу|2ཀ]|2ұȖ|2ò]|2ͪ|2P|2҇|2ਏ|2Pà|2òP|2ཀP|2স|2ұP|2~OOH |2گ|2Ҽ|2Ŷ|2˘|2˹|2ཁ|2~WOW |2ڴP|3W|3]|36|2གȾ|3ч|2ұǃ|3Ⱦ|3Ɗ|2Âø|@1BC70|0ÇɰIíԈ|2ԡíԈ|2GíԈ|2ÏrԈ|2ԡrԈ|2ÓrԈ|2̄Ԉ|3ٰԈ|3གྷ|3ư|3Zv|3]v|3གྷv|@1BC80|0ÇɰÓĨ|3ीĨ|3ƅ|3òƅ|3^|3À|3ŕ|3ɤ|3r|@1BC90|0ÇɰÏĨ|3ीĨ|3ƅ|3òƅ|3^|3À|3ŕ|3ɤ|3r|3=|@1BC9C|0Ç#W$ǚ|1~THICK !٣|1UL|1č~CHINOOK ǙŮ|0߶߷!ਐ|2~CONTINUING ਐ|2º঍|2¨঍|@1CF00|0¦ALڿԉ«ЋƊI|3ԉ«ЋƊI|3਑ƊI|3ڿԉƊI|3ԉƊI|3ངƊI|3աϘƊI|3ϘƊI|3׶ƊI|3աϘ«׷ƊI|3Ϙ«׷ƊI|3׶«׷ƊI|3ڿԉ«ЋƊG|3ԉ«ЋƊG|3਑ƊG|3ڿԉƊG|3ԉƊG|3ངƊG|3աϘƊG|3ϘƊG|3׶ƊG|3աϘ«׷ƊG|3Ϙ«׷ƊG|3׶«׷ƊG|3਑«Ћ|3աϘ«Ћ|3਒աϘ|3Ϙ«Ћ|4਒|3׶«Ћ|3աϘ਒|3ڿ׶|3~ZELO |3Ɗ|3~RAVNO |3߸|3~BORZAYA |3~UDARKA |3~PODVERTKA |3~LOMKA |3~KUPNAYA |3~KACHKA |3~ZEVOK |3~SKOBA |3~RAZSEKA |3߹ƊI|@1CF30|0¦AΪڐL~MRACHNO |5~SVETLO |5~TRESVETLO |2Lཅ|3ཆཅ|3~OTSECHKA |3ਓ|4$rj|3ਔ|4~POLNAYA |3~OBLACHKO |3ཇ཈|3~TOCHKA |3~DVOETOCHIE |2~ATTACHING rཉ|2L̖ཉ|3߹|2³Ϊڐɡ|1ۀ`~LEVEL-2 |3~LEVEL-3 |3ߺཊ|3߹|3਍|@1CF50|0¦îཋ|3ཌ|2~PARAKLIT |2~DVA ē~CHELNU |2ཌྷ|2~ZANOZHEK |2ਕ|3«~OCHKOM |2ཎ|3ہ|2ਕ$ཇ཈|2ཏ|2~PALKA |2Ԋ|2ۂ~BORZY |3ཌ|3~MRACHNY |3~SVETLY |3~TRESVETLY |2ԋ߻|3ਖ|3Ԍ|3߼|3ж߻|4ਖ|4Ԍ|4߼|2UԊ|2ŀཏ|2~DERBITSA |2~KHAMILO |2ਔ|2ਓ|2зਖ|3Ԍ|3߼|3߸|2ཆཌྷ|2зжԌ|3ཐ|3ж߸|3׸߻|4Ԍ|4ہ|4ж|2߽|3«׹|3~ZAKRYTOE |3«Ћ|2߹|2਍|2Ԥ|2~KOBYLA |2~ZMEYTSA |2и|3«׹|4Ћ|4׹]Ћ|4Ћ]׹|3ད|4«׹|3«~ROGOM |4~DVUMYA ~ZAPYATYMI |4׹]~PODCHASHIEM |2~POLKULIZMY |2иہ|2ɟ߻|3~MRACHNOTIKHAYA |3~KRYZHEVAYA |3~POLUPOVODNAYA |3߾|3ہ|3~KLYUCHEPOVODNAYA |3ཐ|3߸~PUTNAYA |3׸|3~DVOECHELNOKRYZHEVAYA |3དྷ|3׸ж|3དྷж|3߿$ŅԊ|3׺$ŅԊ|3߿|3׺|4$UԊ|3ࠀ|4߾|2ۃ|3~POVODNY |3~KLYUCHEVOY |3~KLYUCHEPOVODNY |3~KLYUCHENEPOSTOYANNY |2ɟ~TRYASOGLASNAYA |3~TRYASOPOVODNAYA |3~TRYASOSTRELNAYA |2׻|3Ԍ|3߼|3йԌ|3жԌ|4ہ|2ɟй|4߾|4߿$ŅԊ|4׺$ŅԊ|4߿|4׺|5$UԊ|4ࠀ|5߾|4~TRYASKA |2~KUFISMA |2~OBLAKO |2~DUDA |2~NEMKA |2~PAUK |@1D000|0iE-ŝ|3~DASEIA |3Ƿ|3ਗࠁ|4բ|3ਘࠁ|4բ|3~KATHISTI |3~SYRMATIKI |3ਙ|3ན|4բ|3~KREMASTI |3པࠁ|3ਚࠁ|3ઐ|3ۄ|3ਛ|4բ|3~SYNEVMA |3~THITA |3ཕ̭|3ۅ̭|3~PSILON |3~CHAMILON |3~VATHY |3ਜ̭|3ࠂ̭|3ۄ̭|3~SAXIMATA |3~PARICHON |3བ~APODEXIA |3~OXEIAI ̭|3~VAREIAI ̭|3བྷ̭|3~APOTHEMA |3ࠃ|3~REVMA |3མ̭|3~TINAGMA |3~ANATRICHISMA |3ཙ|3ਝ̭|4~META ~STAVROU |3ཚ̭|3ཛ|3~LEMOI |3ࠄ|3~TRIA |3ਞ|3~KRATIMATA |3པਚʱ|3̮̭|3~IMIFTHORA |3ࠅ̭|3~KATAVA ࠅ|3ཛྷ|3ཝ|3ཞ|3ཟ̭|3~RAPISMA |3ਟ̭|3ਙ̭|3~ICHADIN |3འ|3~PETASMA |3ཞਠ|3ࠅਠ|3~STRAGGISMATA |3~GRONTHISMATA |3ਜʱ|3ཕʱ|3ਗʱ|3~PETASTI |3~KOUFISMA |3~PETASTOKOUFISMA |3~KRATIMOKOUFISMA |3ཛྷʱ|3ۄʱӁ|3ࠂʱӁ|3~YPSILI |3ਛʱ|3ཡ~SYNDESMOS ʱ|3~YPORROI |3~KRATIMOYPORROON |3~ELAFRON |3~CHAMILI |3~MIKRON ਜ|3ਘʱ|3མʱ|3ཝʱ|3~OMALON |3~ANTIKENOMA |3~LYGISMA |3ਙʱ|3ਟʱ|3རਟ|3~KYLISMA |3~ANTIKENOKYLISMA |3ࠅʱ|3~EKSTREPTON |3ਝʱ|3~SYRMA |3ཟʱ|3~EPEGERMA |3ཙʱ|3~XIRON ࠃ|3~TROMIKOPSIFISTON |3~PSIFISTOLYGISMA |3~TROMIKOLYGISMA |3~TROMIKOPARAKALESMA |3~PSIFISTOPARAKALESMA |3~TROMIKOSYNAGMA |3~PSIFISTOSYNAGMA |3~GORGOSYNTHETON |3ལ|3རལ|3ཚʱ|3ཤ~ESO |4ਚ|3ཛཥ|3~THES ջ~APOTHES |3~KATAVASMA |3~ENDOFONON |3སգ|4Ӂ|3བ|3ࠃӁ|3բ̭|3ਡ̭|4ਠ|4ʱ|3བྷʱ|3ۆ|3բ|3~TRIPLI |3~TETRAPLI |3࠸|3׼~ENOS ཧ|4ࠄਢ|4~TRION ਢ|4~TESSARON ਢ|4~IMISEOS ཧ|3ۅʱӁ|4ۇਣ|5ཨ|3ࠆ|4ۇਣգ|6Ӂ|5ཨ|3~TRIGORGON |3~ARGON |3~IMIDIARGON |3~DIARGON |3ԍཀྵཪ|4~ARGOTERI |4ཪ|4~METRIA |4~MESI |4ཫ|4~GORGOTERI |4ཀྵཫ|3ϙཬϚ|4཭ཬϚ|4཮Ϛ|4཭཮Ϛ|4~TRITOS Ϛ|4~TRIFONIAS |4ਤϚ|5཯Ϛ|4཯Ϛ|4཰Ϛ|3~ISAKIA ཱི|3ཡཱི|3ਥ~TETRAFONIAS |4ཱི|4ུ|3ϙ~VARYS Ϛ|4~PROTOVARYS Ϛ|4཰ਤϚ|3ཱུàཥ|5~DIPLOUN |3~ENARXIS ջ̮ྲྀ|3~IMIFONON |3~IMIFTHORON |3̮̭~DEYTEROU ~ICHOU |4դÞ|5འ|4~NAOS Ϛ|4դ̦|4ࠇ~DIATONON ̦|4դ̇|5Ϩ|5ɑգ|6Ӂ|4ཷۈུ|6ཱི|3~FHTORA ࠇۈླྀ|3̮ࠇۈ~SYNAFI |4~NENANO |3ਦ~ZYGOS |4~KLITON |4~SPATHI |3̮]եཹ|4~ENARMONIOS ~ANTIFONIA |3եེ|3զེ|4ཹ|4ۆࠄԎ|4ཻਞԎ|4ོ޻Ԏ|4ཽཾԎ|3եۆࠄԎ|4ཻਞԎ|4ོ޻Ԏ|4ཽཾԎ|3ཿզ|4ե|3ࠈۆ~MIKRI |5~MEGALI |4բ|4ۉ|3ԏۉ|5ྀ|5ཱྀ|5ྂ|4ࠉ|5ྀ|5ཱྀ|5ྂ|3~DIGRAMMA ~GG |3~DIFTOGGOS Ҽ|3࠺|3էÞ|4ྲྀ|4Ď|4̦|4̇|4Ϩ|4ɑ|3ۄʱྃ|3ࠂʱྃ|3ۄʱգ|3ࠂʱգ|3ࠃգ|3ۅʱգ|@1D100|0E-Ņ׽|2U׽|2T׽|2ˠT׽|2ψ׽|2Ż׽|2IҦ#|2GҦ#|2ҦÕ|2྄̠|2ć~CAPO |2྄|2~CODA |2ਧ~FIGURE-1 |3~FIGURE-2 |3~FIGURE-3 |2࠹|3[|2ਨL|2~CAESURA |2~BRACE |2Ê|2~ONE-LINE Ӱ|2~TWO-LINE Ӱ|2~THREE-LINE Ӱ|2~FOUR-LINE Ӱ|2~FIVE-LINE Ӱ|2~SIX-LINE Ӱ|2~SIX-STRING ྅|2~FOUR-STRING ྅|2ĉѲ|4׾ࠊ|5Ȯ|2ļѲ|2ŹѲ|4׾ࠊ|5Ȯ|2ח~CLEF-1 |3~CLEF-2 |@1D129|0E-υՕ̿|2UԠ|3Չ|2Չ¨|3º|2ऱ¨|3º|2Ԡ¨|3º|2ȳÐԠ|4Չ|2~COMMON ਩|2ল਩|2׾ࠊ|3Ȯ|2྆ࠊ|3Ȯ|2~MULTI ̿|2ਪ̿|2¶̿|2ȳ̿|2ȹ̿|2֑̿|2৬̿|2৫̿|2SÑ྇̿|2Ń˒|2©˒|2ÀŃ˒|2M˒b|4Y|2õ˒¨b|5Y|4Ib|5Y|4Gb|5Y|4ºb|5Y|4¨Gb|6Y|2ʐ˒b|4Y|2ྈ˒ºb|5Y|2ǽ˒|2~VOID ˒|2˒Y|2ड˒|2ྉ˒b|4Y|2ƽ|2ਪʬ|2¶ʬ|2ȳʬ|2ȹʬ|2֑ʬ|2৬ʬ|2৫ʬ|2SÑ྇ʬ|2AЮ|3~SPRECHGESANG Ю|3ྊ|3ྋ|3ྌ|2ਫྊ|3ྋ|3ྌ|2A~AUGMENTATION ^|3~FLAG-1 |3~FLAG-2 |3~FLAG-3 |3~FLAG-4 |3~FLAG-5 |2ҿྍ|2ȯྍ|2ҿִ|2ȯִ|2ҿྎ|2ȯྎ|2ҿྏ|2ȯྏ|2Aƍ|3~STACCATO |3~TENUTO |3~STACCATISSIMO |3~MARCATO |3~MARCATO-STACCATO |3~ACCENT-STACCATO |3~LOURE |2ྐ¨|3º|2A~DOIT |3~RIP |3ཊ|3~SMEAR |3׿|3U͗|3ƶ͗|2~RINFORZANDO |2~SUBITO |2ģ|2~PIANO |2~MEZZO |2~FORTE |2~CRESCENDO |2~DECRESCENDO |2ঢʬͫ|4ȟͫ|2~TR |2ࠋ|2Ɩࠋ|2ࠋͫ|3¨|2Ɲ~STROKE-1 |3~STROKE-2 |3~STROKE-3 |3~STROKE-4 |3~STROKE-5 |3~STROKE-6 |3~STROKE-7 |3~STROKE-8 |3~STROKE-9 |3~STROKE-10 |3~STROKE-11 |2~HAUPTSTIMME |2~NEBENSTIMME |2ȯk~STIMME |2۠ͫ|2Aº׀|3¨׀|3~HARMONIC |3~SNAP ~PIZZICATO |2ਬL|3¨L|2¶ਬL|2ྑ¨|3º|2$~FINGERNAILS |2ྒ|3ٷ|2~MAXIMA |2ߒ|2ྒྷ|2ਭb|3Y|2ਮ|3Y|2ਯb|3Y|2ྔb|3Y|2ߒࠌ̿|3؀̿|2ྒྷ̿|2ਭ̿|2ਮ̿|2ਯ̿|2ԐਰԑԒࠌ|6؀|6ࠌྕ|3ۊԑԒࠌ|6؀|7ྕ|7~DIMINUTION-2 |7~DIMINUTION-3 |2~CROIX |2ྖļѲ|3ŹѲ|2Ma|2~VIRGA |2~PODATUS |2~CLIVIS |2ྗ|2~CLIMACUS |2྘|2ྙ|3ྚ|2ྗྚ|2྘~RESUPINUS |2~PES ~SUBPUNCTIS |2кļѲ|3ȯkӨ|3Tʬ|3~RECITATIVE L|3ਪʬ|3¶ʬ|3ȳʬЮº|6¨|3ȹʬЮº|6¨|3Չ#|2~SORI |2~KORON |@1D200|0CʗŞྛ|3ྜ|3~SYMBOL-3 |3ྜྷ|3ྞ|3~SYMBOL-6 |3ྟ|3ྠ|3~SYMBOL-9 |3~SYMBOL-10 |3ྡ|3ྡྷ|3ྣ|3ྤ|3~SYMBOL-15 |3~SYMBOL-16 |3ྥ|3ྦ|3ྦྷ|3~SYMBOL-20 |3~SYMBOL-21 |3~SYMBOL-22 |3ྨ|3ྩ|3ྪ|3ྫ|3ྫྷ|3ྭ|3ྮ|1ɄŞྛ|3ྜ|3ྜྷ|3ྞ|3ྟ|3ྠ|3ྡ|3ྡྷ|3ྣ|3ྤ|3ྥ|3ྦ|3ྦྷ|3ྨ|3ྩ|3~SYMBOL-25 |3~SYMBOL-26 |3~SYMBOL-27 |3~SYMBOL-29 |3~SYMBOL-30 |3~SYMBOL-32 |3~SYMBOL-36 |3~SYMBOL-37 |3~SYMBOL-38 |3~SYMBOL-39 |3~SYMBOL-40 |3~SYMBOL-42 |3~SYMBOL-43 |3~SYMBOL-45 |3~SYMBOL-47 |3~SYMBOL-48 |3~SYMBOL-49 |3ྪ|3ྫ|3ྫྷ|3ྭ|3ྮ|0ACEఽ|3ా|3ి|0CE׼|@1D2E0|0̘ţĩ|2S|2X|2c|2o|2x|2½|2È|2¼|2Î|2ō|2ϵ|2Ό|2ө|2Ӫ|2Ш|2ш|2ӫ|2Ҟ|2Ӭ|@1D300|0ҡJͭ|0ҢJ~HEAVENLY ͭ|2਱ͭ|2ྯއ|3਱|2ͭ|0ŗJƙ|2ǙÀ|2~MIRED |2~BARRIER |2ഀ%|2~CONTRARIETY |2~ASCENT |2प|2~BRANCHING ͖|2~DEFECTIVENESS Ĥ~DISTORTION |2~DIVERGENCE |2~YOUTHFULNESS |2ণ|2~PENETRATION |2೯|2؁|2טЂ|2ড|2೹|2~ADVANCE |2~RELEASE |2~RESISTANCE |2~EASE |2ਲ|2~CONTENTION |2~ENDEAVOUR |2~DUTIES |2~CHANGE |2~DECISIVENESS |2;~RESOLUTION |2~PACKING |2~LEGION |2~CLOSENESS |2~KINSHIP |2ত|2~STRENGTH |2~PURITY |2~FULLNESS |2~RESIDENCE |2༬Ĥ~MODEL |2థ|2~GOING e೿|2~ENCOUNTERS |2~STOVE |2~GREATNESS |2~ENLARGEMENT |2g|2~RITUAL |2~FLIGHT |2~VASTNESS Ĥ~WASTING |2~CONSTANCY |2Օ|2ࡉ|2~UNITY |2~DIMINISHMENT |2Ȋǭ|2~GUARDEDNESS |2তƠ|2~MASSING |2~ACCUMULATION |2~EMBELLISHMENT |2~DOUBT |2ల|2~SINKING |2ഁ|2ྰ|2೼|2~DIMMING |2~EXHAUSTION |2~SEVERANCE |2~STOPPAGE |2~HARDNESS |2থ|2~CLOSURE |2~FAILURE |2~AGGRAVATION |2~COMPLIANCE |2Ɗȍ~VERGE |2~DIFFICULTIES |2~LABOURING |2~FOSTERING |@1D360|0́͂ϐ0S|4X|4c|4o|4x|4½|4È|4¼|4Î|2е0S|4X|4c|4o|4x|4½|4È|4¼|4Î|0æըLS|3X|3c|3o|3x|0ըLS|2x|@1D400|0.;'6|3a|3ļ|3ě|3Z|3Ź|3ĉ|3Ē|3]|3Ŝ|3ď|3·|3ø|3à|3W|3ł|3Ƶ|3ª|3«|3Č|3P|3ē|3œ|3Ń|3Ī|3ģ|2%6|3a|3ļ|3ě|3Z|3Ź|3ĉ|3Ē|3]|3Ŝ|3ď|3·|3ø|3à|3W|3ł|3Ƶ|3ª|3«|3Č|3P|3ē|3œ|3Ń|3Ī|3ģ|1N'6|3a|3ļ|3ě|3Z|3Ź|3ĉ|3Ē|3]|3Ŝ|3ď|3·|3ø|3à|3W|3ł|3Ƶ|3ª|3«|3Č|3P|3ē|3œ|3Ń|3Ī|3ģ|2%6|3a|3ļ|3ě|3Z|3Ź|3ĉ|@1D456|0.N%]|3Ŝ|3ď|3·|3ø|3à|3W|3ł|3Ƶ|3ª|3«|3Č|3P|3ē|3œ|3Ń|3Ī|3ģ|1;N'6|4a|4ļ|4ě|4Z|4Ź|4ĉ|4Ē|4]|4Ŝ|4ď|4·|4ø|4à|4W|4ł|4Ƶ|4ª|4«|4Č|4P|4ē|4œ|4Ń|4Ī|4ģ|3%6|4a|4ļ|4ě|4Z|4Ź|4ĉ|4Ē|4]|4Ŝ|4ď|4·|4ø|4à|4W|4ł|4Ƶ|4ª|4«|4Č|4P|4ē|4œ|4Ń|4Ī|4ģ|1å'6|@1D49E|0.å'ļ|3ě|@1D4A2|0.å'ĉ|@1D4A5|0.å'Ŝ|3ď|@1D4A9|0.å'à|3W|3ł|3Ƶ|@1D4AE|0.å'«|3Č|3P|3ē|3œ|3Ń|3Ī|3ģ|2%6|3a|3ļ|3ě|@1D4BB|0.å%Ź|@1D4BD|0.å%Ē|3]|3Ŝ|3ď|3·|3ø|3à|@1D4C5|0.å%ł|3Ƶ|3ª|3«|3Č|3P|3ē|3œ|3Ń|3Ī|3ģ|1;å'6|4a|4ļ|4ě|4Z|4Ź|4ĉ|4Ē|4]|4Ŝ|4ď|4·|4ø|4à|4W|4ł|4Ƶ|4ª|4«|4Č|4P|4ē|4œ|4Ń|4Ī|4ģ|3%6|4a|4ļ|4ě|4Z|4Ź|4ĉ|4Ē|4]|4Ŝ|4ď|4·|4ø|4à|4W|4ł|4Ƶ|4ª|4«|4Č|4P|4ē|4œ|4Ń|4Ī|4ģ|1Ė'6|3a"

/-- Listed names, part 4. -/
def namesPart4 : String := "@1D507|0.Ė'ě|3Z|3Ź|3ĉ|@1D50D|0.Ė'Ŝ|3ď|3·|3ø|3à|3W|3ł|3Ƶ|@1D516|0.Ė'«|3Č|3P|3ē|3œ|3Ń|3Ī|@1D51E|0.Ė%6|3a|3ļ|3ě|3Z|3Ź|3ĉ|3Ē|3]|3Ŝ|3ď|3·|3ø|3à|3W|3ł|3Ƶ|3ª|3«|3Č|3P|3ē|3œ|3Ń|3Ī|3ģ|1Ĝ'6|3a|@1D53B|0.Ĝ'ě|3Z|3Ź|3ĉ|@1D540|0.Ĝ']|3Ŝ|3ď|3·|3ø|@1D546|0.Ĝ'W|@1D54A|0.Ĝ'«|3Č|3P|3ē|3œ|3Ń|3Ī|@1D552|0.Ĝ%6|3a|3ļ|3ě|3Z|3Ź|3ĉ|3Ē|3]|3Ŝ|3ď|3·|3ø|3à|3W|3ł|3Ƶ|3ª|3«|3Č|3P|3ē|3œ|3Ń|3Ī|3ģ|1;Ė'6|4a|4ļ|4ě|4Z|4Ź|4ĉ|4Ē|4]|4Ŝ|4ď|4·|4ø|4à|4W|4ł|4Ƶ|4ª|4«|4Č|4P|4ē|4œ|4Ń|4Ī|4ģ|3%6|4a|4ļ|4ě|4Z|4Ź|4ĉ|4Ē|4]|4Ŝ|4ď|4·|4ø|4à|4W|4ł|4Ƶ|4ª|4«|4Č|4P|4ē|4œ|4Ń|4Ī|4ģ|1Q'6|3a|3ļ|3ě|3Z|3Ź|3ĉ|3Ē|3]|3Ŝ|3ď|3·|3ø|3à|3W|3ł|3Ƶ|3ª|3«|3Č|3P|3ē|3œ|3Ń|3Ī|3ģ|2%6|3a|3ļ|3ě|3Z|3Ź|3ĉ|3Ē|3]|3Ŝ|3ď|3·|3ø|3à|3W|3ł|3Ƶ|3ª|3«|3Č|3P|3ē|3œ|3Ń|3Ī|3ģ|2;'6|4a|4ļ|4ě|4Z|4Ź|4ĉ|4Ē|4]|4Ŝ|4ď|4·|4ø|4à|4W|4ł|4Ƶ|4ª|4«|4Č|4P|4ē|4œ|4Ń|4Ī|4ģ|3%6|4a|4ļ|4ě|4Z|4Ź|4ĉ|4Ē|4]|4Ŝ|4ď|4·|4ø|4à|4W|4ł|4Ƶ|4ª|4«|4Č|4P|4ē|4œ|4Ń|4Ī|4ģ|2N'6|4a|4ļ|4ě|4Z|4Ź|4ĉ|4Ē|4]|4Ŝ|4ď|4·|4ø|4à|4W|4ł|4Ƶ|4ª|4«|4Č|4P|4ē|4œ|4Ń|4Ī|4ģ|3%6|4a|4ļ|4ě|4Z|4Ź|4ĉ|4Ē|4]|4Ŝ|4ď|4·|4ø|4à|4W|4ł|4Ƶ|4ª|4«|4Č|4P|4ē|4œ|4Ń|4Ī|4ģ|2;N'6|5a|5ļ|5ě|5Z|5Ź|5ĉ|5Ē|5]|5Ŝ|5ď|5·|5ø|5à|5W|5ł|5Ƶ|5ª|5«|5Č|5P|5ē|5œ|5Ń|5Ī|5ģ|4%6|5a|5ļ|5ě|5Z|5Ź|5ĉ|5Ē|5]|5Ŝ|5ď|5·|5ø|5à|5W|5ł|5Ƶ|5ª|5«|5Č|5P|5ē|5œ|5Ń|5Ī|5ģ|1Ʈ'6|3a|3ļ|3ě|3Z|3Ź|3ĉ|3Ē|3]|3Ŝ|3ď|3·|3ø|3à|3W|3ł|3Ƶ|3ª|3«|3Č|3P|3ē|3œ|3Ń|3Ī|3ģ|2%6|3a|3ļ|3ě|3Z|3Ź|3ĉ|3Ē|3]|3Ŝ|3ď|3·|3ø|3à|3W|3ł|3Ƶ|3ª|3«|3Č|3P|3ē|3œ|3Ń|3Ī|3ģ|1N%́]|4Ŝ|@1D6A8|0.;'ź|3̝|3ˬ|3̍|3ȵ|3θ|3ǂ|3ˉ|3Ǐ|3̰|3Λ|3ȣ|3ɥ|3͹|3ɿ|3Ǜ|3ʚ|3ˉ-|3ʵ|3̱|3Ǳ|3ˇ|3ʶ|3͆|3Ŵ|2ֶ|2%ź|3̝|3ˬ|3̍|3ȵ|3θ|3ǂ|3ˉ|3Ǐ|3̰|3Λ|3ȣ|3ɥ|3͹|3ɿ|3Ǜ|3ʚ|3Tʵ|3ʵ|3̱|3Ǳ|3ˇ|3ʶ|3͆|3Ŵ|2ѕֵ|2ȵ-|2ˉ-|2̰-|2ˇ-|2ʚ-|2Ǜ-|1N'ź|3̝|3ˬ|3̍|3ȵ|3θ|3ǂ|3ˉ|3Ǐ|3̰|3Λ|3ȣ|3ɥ|3͹|3ɿ|3Ǜ|3ʚ|3ˉ-|3ʵ|3̱|3Ǳ|3ˇ|3ʶ|3͆|3Ŵ|2ֶ|2%ź|3̝|3ˬ|3̍|3ȵ|3θ|3ǂ|3ˉ|3Ǐ|3̰|3Λ|3ȣ|3ɥ|3͹|3ɿ|3Ǜ|3ʚ|3Tʵ|3ʵ|3̱|3Ǳ|3ˇ|3ʶ|3͆|3Ŵ|2ѕֵ|2ȵ-|2ˉ-|2̰-|2ˇ-|2ʚ-|2Ǜ-|1;N'ź|4̝|4ˬ|4̍|4ȵ|4θ|4ǂ|4ˉ|4Ǐ|4̰|4Λ|4ȣ|4ɥ|4͹|4ɿ|4Ǜ|4ʚ|4ˉ-|4ʵ|4̱|4Ǳ|4ˇ|4ʶ|4͆|4Ŵ|3ֶ|3%ź|4̝|4ˬ|4̍|4ȵ|4θ|4ǂ|4ˉ|4Ǐ|4̰|4Λ|4ȣ|4ɥ|4͹|4ɿ|4Ǜ|4ʚ|4Tʵ|4ʵ|4̱|4Ǳ|4ˇ|4ʶ|4͆|4Ŵ|3ѕֵ|3ȵ-|3ˉ-|3̰-|3ˇ-|3ʚ-|3Ǜ-|1Q;'ź|4̝|4ˬ|4̍|4ȵ|4θ|4ǂ|4ˉ|4Ǐ|4̰|4Λ|4ȣ|4ɥ|4͹|4ɿ|4Ǜ|4ʚ|4ˉ-|4ʵ|4̱|4Ǳ|4ˇ|4ʶ|4͆|4Ŵ|3ֶ|3%ź|4̝|4ˬ|4̍|4ȵ|4θ|4ǂ|4ˉ|4Ǐ|4̰|4Λ|4ȣ|4ɥ|4͹|4ɿ|4Ǜ|4ʚ|4Tʵ|4ʵ|4̱|4Ǳ|4ˇ|4ʶ|4͆|4Ŵ|3ѕֵ|3ȵ-|3ˉ-|3̰-|3ˇ-|3ʚ-|3Ǜ-|3N'ź|5̝|5ˬ|5̍|5ȵ|5θ|5ǂ|5ˉ|5Ǐ|5̰|5Λ|5ȣ|5ɥ|5͹|5ɿ|5Ǜ|5ʚ|5ˉ-|5ʵ|5̱|5Ǳ|5ˇ|5ʶ|5͆|5Ŵ|4ֶ|4%ź|5̝|5ˬ|5̍|5ȵ|5θ|5ǂ|5ˉ|5Ǐ|5̰|5Λ|5ȣ|5ɥ|5͹|5ɿ|5Ǜ|5ʚ|5Tʵ|5ʵ|5̱|5Ǳ|5ˇ|5ʶ|5͆|5Ŵ|4ѕֵ|4ȵ-|4ˉ-|4̰-|4ˇ-|4ʚ-|4Ǜ-|1;'պ|2%պ|@1D7CE|0.;0ĩ|3S|3X|3c|3o|3x|3½|3È|3¼|3Î|1Ĝ0ĩ|3S|3X|3c|3o|3x|3½|3È|3¼|3Î|1Q0ĩ|3S|3X|3c|3o|3x|3½|3È|3¼|3Î|2;0ĩ|4S|4X|4c|4o|4x|4½|4È|4¼|4Î|1Ʈ0ĩ|3S|3X|3c|3o|3x|3½|3È|3¼|3Î|07á±|1͜±|1Η±|1ԓ±|1ɻ±|1̓±|1á±ʆ|1͜±ʆ|1áÙј±ʆ|2±ɗࠍ|3؂|3̙|4Ï|1͜±ྱ|1á±p|1͜±p|1á±pʆ|4ɗਲ਼|4̙|3¨p̙|3̙p¨|3pʘ|5±ʆ|5pʆ|5؂|5̙|4ϒ|1͜±pϒ|1ápʆØ±|2±ʆØp|3pÙ|1͜±pÙ|1á±pɇÙʆ|4ʆÙɇ|4Ùʆ|4̙ʹÙɌ|3¨p̙ÙɌ|7ʘ|3̙p¨ÙɌ|3p¨ʹÙ̯|4Ù؂|5O|5׊|5̙|2Ùʼ±pɇ|2±pʘÙɌ|7ʘ|7ʆ|2pÙ׊±¨|2±Ù׊p¨|3pʘ̙ÙɌ|4ϒÙɌ|4ʘÙ̯|5؂Ù̯|2pÙ؂±¨|2±Ù؂p¨|2pÙO±¨|6̙|2±Ùթ͖p¨|5Ơp¨|4Op¨|3pÙʘ̙|5թ͖|6|2pÙթ͖±¨|7ϒ|5±¨|2±Ù׊p̙|1ʲoɼ|4ʆ|4̙|4ʘ|5؃|1Ԕoɼʘ|1áoɼʘʆ|1ɻoɼʘ|1ʲxɼʹ|2ժxɼʹ|2xɼʹoʆ|2ժxɼʹoʆ|2xɼʹʆ|2ժxɼʹʆ|2xɼʹÙ̯|1Ηxɼʹ|5ù|1ɻxɼʹù|1ԓxɼʹ|1ʲxɼʹ̙|6ÙɌ|6ȟÙ|2|2ʼא~FACINGS |2ժ|2ÙɌ|2ժÙɌ|2Ùʆ|3̯|2؃±ÙɌ|3ƙ|4ÙɌ|6ʆ|3Ɓ|1Ԕ|2ÙɌ|2ȟÙ|2Ù̯|1ѳྲ|2|1Ηù|2|2ùÙɌ|2ÙɌ|2ùȟÙ|2ȟÙ|2ùÙ̯|2Ù̯|1ࠎù|2|1͜|1ԓ|2ÙɌ|2ȟÙ|2Ù̯|1ɻù|3Ù̯|2|2%|2ùÙɌ|2ÙɌ|2ùȟÙ|2ȟÙ|2ÙɌླ±|3ʼpç|1̓|1á±pç|1͜±pç|1ɻ±pç|1̓±pç|1ɻƁ|1á±pçʆ|5ʘ|1ɻ±pçʘ|1áƁº|4ྴɇ|5̖|4~OTHERS O|3¨|2ÙјƁ¨|1͜Ɓ¨|1ԓƁ¨|1̓Ɓ¨|1áƁɗࠍ|3ʆ|3~TOUCHES Ù|3Ù|1ɻƁÙ|1áƁ±Ù|1ɻƁ±Ù|1̓Ɓ±Ù±Ù͖|7|1áƁ±|1͜Ɓ±|1ɻƁ±|1̓Ɓ±|1á±pƁ|1͜±pƁ|1ɻ±pƁ|2ç|1̓±pƁ|1á±pǚƁ|1͜±pǚƁ|1áçº|1ɻçº±Ùvp|1̓çºpÙ±ǚ|1áç¨|3ɗࠍ|3Ɓ|1͜çƁ|1ԓçƁ|1̓çƁ|1áçp|4ʘ|4ɗਲ਼|3±|3Ù|1ѳçÙ|1á±çƁ|1͜±çƁ|1ࠎ±çƁƊ|1ѳ±çƁ͖|5Ơ|5ј|1Η±çƁ|1ɻ±çƁ|1̓±çƁ͖|5|1ápº|1ɻp|1áp¨|1͜p¨|1ápɗࠍ|3¨ÙɌ|1ѳpÙ|1ápÙƁ|3Ɓ|3çƁ|1͜pçƁ|1ࠎpçƁƊ|1ΗpçƁ|1ɻpçƁ|1̓pçƁ͖|5Ơ|5|1͜pçƁʆ|1ԔpçƁʘ|6Ɍ|1ѳpçƁʘ͖|6Ơ|6|1ɻ±̙|1á±ÙɌ|1ɻ±ÙɌ|1á±ÙɌÙă|6ʘ|6ʆ|5±ʆ|5ྵʆ|5±ྱ|4̯±ɇ|6ʆ|4v|4ྲ|4ȰÙ̡|1Ԕ±ÙȰÙ̡|1á±ÙȰÙј|4À|1Η±Ù|4ù|1ɻ±Ùù|4Ĭ|4|4%|1̓±Ù͖|4Ơ|4|1áÙ|3ժ|3Ɍă|4ʘ|4ʆ|3̯|3ʼ±p|4pç|4çƁ|3јXɼ|3ØXɼ|3јcɼ|4oɼ|3Øoɗਲ਼|2|2ժ|1਴Ņ|2υ|2ʼ|1ਵŅ|2υ|2ʼ|1ਸ਼Ņ|2υ|2ʼ|1הŅ|2υ|2ʼ|1ۼŅ|2υ|2ʼ|1क਷|2ʼ|1؄ĬŅ|2%Ņ|2Ĭυ|2%υ|2ࠏ|1؅ĬŅ|2%Ņ|2Ĭυ|2%υ|2ࠏ|1؄؅˪|1ի¨ºĬ|4%|3ࠏ|2ºࠏ|2¨º˪Ĭ|5%|2ɌeɌׄ|1ŋѴ؁|1ŧѴ؁|1ŋŅɇ%|4ý|4Ĭ|4Ҳ|3αѵ|2Uɇ|3αѵ|3˪|4αѵ|2ǚ|2ƶɇԕ|3αѵ|3˪|4αѵ|2׿%|3ý|3Ĭ|2Ɂ%|3ý|3Ĭ|3͵|2ή%|3ý|3Ĭ|2­%|3ý|3Ĭ|2Ϣ%|3ý|3Ĭ|2؆%|3ý|3Ĭ|1ѶΘŅ|3U|3˪|2ΙŅ|3U|3˪|2ࠐ|2˼ՔŅ|4U|4ƶ|1ͶԖ%|3ý|3Ĭ|3Ҳ|2ԗ%|3ý|3Ĭ|3Ҳ|2ʼԖ%|4ý|4Ĭ|4Ҳ|3ԗ%|4ý|4Ĭ|4Ҳ|1ŧŅɇ%|4ý|4Ĭ|4Ҳ|3αѵ|2Uɇ|3αѵ|3˪|4αѵ|2ǚ|2ƶɇԕ|3αѵ|3˪ԕ|4αѵ|2׿|2Ɂ%|3ý|3Ĭ|2ή|2­%|3ý|3Ĭ|2Ϣ%|3ý|3Ĭ|2؆%|3ý|3Ĭ|1լΙŅ|3U|3˪|2ΘŅ|3U|3˪|2ࠐ|1ŋȰȳ%|4ý|4Ĭ|4Ҳ|3ۋ%|4ý|4Ĭ|4Ҳ|3ྶÀ%|5ý|2β%|3ý|3Ĭ|2ʤ%|3ý|3Ĭ|3%U|2ɤȰU%|5ý|5Ĭ|4ƶ%|5ý|5Ĭ|2Ȱҥɇ|2̖ǚ%|4ý|1ΘŅ|2U|2Ȫ|1ŋࠐ|2ȰǑҳ̹|2βǑҳ̹|2ʤǑҳ̹|2ɤǑҳ̹|1ΘŅǑҳ̹|2UǑҳ̹|2˪Ǒҳ̹|1ŋȰǑխ|2βǑխ|2ʤǑխ|2ɤǑխ|1ΘŅǑխ|2UǑխ|2˪Ǒխ|1ŋɤăڍ%|5ý|5Ĭ|1ŧȰǑ͔%|5Ĭ|2βǑ͔%U|5ĬU|5%ƶ|5Ĭƶ|2ʤǑ͔%Ņ|5ĬŅ|5%U|5ĬU|2ɤǑ͔%|5Ĭ|1ΙŅǑ͔|2UǑ͔|2˪Ǒ͔|1ŧȰǑ̻%|5Ĭ|2βǑ̻%U|5ĬU|5ƶ%ƶ|6Ĭƶ|2ʤǑ̻%Ņ|5ĬŅ|5%U|5ĬU|2ɤǑ̻%|5Ĭ|1ΙŅǑ̻|2UǑ̻|2˪Ǒ̻|1ŧȰ%|3ý|3Ĭ|3Ҳ|3~COMBINED |2β%|2ʤ%|2ɤݧ|3%|3Ĭ|1ΙŅ|2U|2˪|1ŧࠐі|1ŋ˼À%Ņ|4ýŅ|4%U|4ýU|1ŧ˼ÀǑ̹%Ņ|6ýŅ|6ĬŅ|6%U|6ýU|6ĬU|1ŋαÀҳŅ|5U|1ŧαÀǑ̹Ņ|6U|1ŋѴ͙Ņ|4U|1ŧѴ͙Ǒ̹Ņ|6U|1ѷũ%|3Ĭ|2~FAST |2౨|2ծ|2ྷ|2ྸ|3˪|2~EVERY ~OTHER ਩|2~GRADUAL |1ʛ|2~RIM |2ŋɇ|3~TILT |2ŧɇ|2ŋȰ|2ŧȰ|2ԕÀ|1²ߺֹв̯ࠑ|5¨Ĥº|8ࠑ|1կɇ¨|3ș|3º|1ࠒկșº|3ºș|3¨ș|3ș¨|1ਸș|2؁|2հ|1˄ù|2~SQUEEZED |2Ȋ|1ћྐྵŅ|3υ|1˄¶ù|2ϳù|2¶Ȋ|2~WIDENING ԕ|1ћ~WINK |1ਹ¨|2º|2ྺ|1یɇ|3U|3˪|1ࠓɇ|3U|3˪|1ی̖|1ࠓ̖|1یಋ|1؇~PUFFED |2ș|2ྻ|1ծ؇Ó|3p|3Ï|1ྼ|1вș|2؁|2਺|2~WIGGLES |1ע྽͖|2~SUCKING Ơ|2~BLOW %྾|2~SUCK %྾|1ਨ~INHALE |2~EXHALE |1ǭȊș|3̯|3؁|2ټ|3հ|3ù|2ݻ|3հ|3ù|2ùÀ|3̯|3հ|3ړ|4հ|4྿|3қ|4հ|4྿|2؈|3̯|3հ|2ծ|3̯|3ྻ|1Ԙ~PRESSED ޹|1޿³Ø»|2»Ø³|1ǭׁ|2਺Ņ|3U|1͗࿀͖~FAR |2~LICKING Ԙ|2̋ʼԘ|3ླ̡ǭ|2̡ǭྷ|2~MOVES ~AGAINST ~CHEEK |2ƙ࿀͖|3̡ǭ|1ձ|2ԕ|2Ɗ͗|4ԕ|3Ԙ|4ԕ|2~BITE Ԙ|1ŋ࿁|1ŧ࿁|1࿂|1Ձ|1~EXCITEMENT |1ۍ֕~SPINE |3~POSITIONS |1~WALLPLANE ۍ֕࿃|1~FLOORPLANE ۍ֕࿃|1ۍࠑɊ~WAIST |1࿄ɇ~STRETCH |2̖׿|1~TORSO-FLOORPLANE ~TWISTING |1»ೖࠑɊ֕~JOINTS |1ԙ~COMBINATION |2~LENGTH-1 |2~LENGTH-2 |2~LENGTH-3 |2~LENGTH-4 |2~LENGTH-5 |2~LENGTH-6 |2~LENGTH-7 |1Ѵ|1~LOCATION-WALLPLANE ˫|1~LOCATION-FLOORPLANE ˫|1Ӵ~HEIGHT |2Х|2~DEPTH |2ʛ࿂|2~TORSO |2~LIMBS ~DIGITS |1Ư|1ǙŮ|1ϛ|1ɠ|1ǽ|@1DA9B|07̼࿅|2࿆|2࿇|2࿈|2࿉|@1DAA1|07͵࿅|2࿆|2࿇|2࿈|2࿉|2~MODIFIER-7 |2~MODIFIER-8 |2~MODIFIER-9 |2~MODIFIER-10 |2~MODIFIER-11 |2~MODIFIER-12 |2~MODIFIER-13 |2~MODIFIER-14 |2~MODIFIER-15 |2~MODIFIER-16 |@1DF00|0)%!࠶ɱ$~TRILL |3ŀåĉ|1!%'èĉ|1%!ŀď|1!%'·$Џ|1%!ۤ$ȓv|3èĪ$Џ|3ŀϞ|3èª$ò̎:ȓv|3Č$v:ȓv|1!ȓЎ$ȓv|1%!̛$U¿|7:˭|3èČ$˭|1!ƖɍŮ$˭|2ˈļ$˭|2%'èď|1%!·$ҽ|3ۥɱ$ʊv|3·$Џ:ʊv|3Ϟ$ʊv|3èª$ʊv|3ª$ҽ:ʊv|3ۧɱ$ʊv|3ϟ$ʊv|3ۥɱ$ȓv|3]$j:ȓv|3W$ȓv|3ۧɱ$ȓv|3ļ$ȓv|3«$˭|@1E000|0AÖ!ॐ|3॑|3॒|3॓|3॔|3ॕ|3ॖ|@1E008|0AÖ!ॗ|3׌|3y׌|3]|3क़|3ख़|3ग़|3ڕ|3ज़|3ड़|3ढ़|3फ़|3य़|3ॠ|3ॡ|3ॢ|3ॣ|@1E01B|0AÖ!।|3Ի|3ږ|3ů|3В|3ޝ|3॥|@1E023|0AÖ!Ȥ|3%ɲ|@1E026|0AÖ!ɨ|3׍%ɲ|3ͼɲ|3׍ͼɲ|3Ԥ|@1E100|0ƃƄ¡!ð|4ʁ|4~NTA |4ü|4Ë|4ö|4Ά|4~NKA |4ŵ|4ô|4ā|4ǣ|4~NCA |4~NTSA |4¢|4ć|4ƚ|4ࣵ|4ǋ|4~NTXA |4~TXA |4ȝ|4â|4̏|4ú|4~NQA |4Þ|4ಯ|4~NPA |4݋|4~NPLA |4ì|4௼|4܉|4Ď|4̐|46|4ĵ|4]|4P|4W|4ǲ|4Z|4Ȗ|4œ|@1E130|0ƃƄ¡~TONE-B |3~TONE-M |3~TONE-J |3~TONE-V |3~TONE-S |3~TONE-G |3~TONE-D |3#J˻|5~THING |5Ӵ|5~ANIMAL |5~INVERTEBRATE |4ਏਏ|3&߈|@1E140|0ƃƄ¡0ĩ|4S|4X|4c|4o|4x|4½|4È|4¼|4Î|@1E14E|0ƃƄ¡ӽ~NYAJ |3Oŵ|@1E290|0ɽ!Þ|2ī|2ü|2ć|2¢|2Ď|2ð|2ö|2Ū|2ā|2Ɨ|2ú|2Ŷ|2Ű|2Ë|2â|2ô|2]|2ێ]|2ڟ|2ێڟ|2P|2Z|2ێZ|2ٌ|2ێٌ|2W|2ɢ|2ێɢ|26|1#΀Ð|@1E2C0|0ƻ!ĵ|26|2ī|2ŵ|2ć|2Ď|2ú|2Ǌ|2ô|2ö|2Þ|2ü|2Ʊ|2ȝ|2ā|2ů|2Ű|2ǣ|2Ŷ|2ǋ|2¢|2W|2ū|2â|2ð|2ƛ|2Ë|2Z|2]|2Ū|2P|2~LLHA |2ʁ|2ࣳ|2ೞ|2~AANG |2ο|2ࣣ|2Ɗ|2ǃ|2฾|2ƚ|2~UEN |2~YIH |1Ðങ|2~TUPNI |2৖|2~KOINI |10ĩ|2S|2X|2c|2o|2x|2½|2È|2¼|2Î|@1E2FF|0ƻ~NGUN #|@1E7E0|0D&~HHYA |2~HHYU |2~HHYI |2~HHYAA |2~HHYEE |2~HHYE |2~HHYO |@1E7E8|0D&୍̈́|2~HHWI |2~HHWEE |2~HHWE |@1E7ED|0D&̈́݉|3୬|@1E7F0|0D&̈́୐|3୑|3୒|3୭|3୮|3ܽ|3୙|3ܿ|3ୢ|3ୣ|3୤|3୯|3୰|3݊|3ୱ|@1E800|0tu&ໝ˚|3ໞ¢|3ໟ˷|3~M065 ࢲ|3~M095 ̇|3~M076 ٜ|3~M048 ˋ|3~M179 ~KUA |3໠˹|3໡Ŷ|3໢Р|3~M126 ݀|3~M118 ʷ|3~M114 ٗ|3~M045 ˘|3~M194 ~WUI |3~M143 ཁ|3~M061 ~WVI |3~M049 ~WVA |3~M139 ~WVE |3໣߭|3໤˸|3໥~MUN |3~M059 Г|3~M094 ς|3~M154 ௉|3~M189 ~MUEN |3໦̤|3໧ī|3໨ʺ|3~M150 ֡|3~M097 ͺ|3~M103 ൔ|3~M138 ϫ|3໩]|3໪6|3໫P|3~M163 Ȗ|3~M100 Z|3~M165 ǲ|3~M147 W|3~M137 ҅|3~M131 Ơ|3~M135 Ơ|3~M195 Ⱦ|3~M178 ǃ|3໯˙|3໰ā|3໱˶|3~M162 Զ|3~M116 ˺|3~M136 ٞ|3~M079 ʧ|3~M196 ~SIA |3໵Ɯ|3໶ô|3໷ʹ|3~M084 ܴ|3~M073 Ǫ|3~M054 ֩|3~M153 ̆|3~M110 òǪ|3໬̦|3໭ć|3໮̥|3~M089 ֥|3~M180 ൘|3~M181 ̑|3໲̣|3໳ü|3໴ˍ|3~M091 ֢|3~M055 ȼ|3~M104 ֨|3~M069 e|3໸Ӝ|3໹Ű|3໺Թ|3~M157 ֦|3~M113 ϣ|3~M160 ൛|3~M063 Т|3~M175 òТ|3໻+|3໼ú|3໽Ȥ|3~M109 ֤|3~M080 ͪ|3~M141 ݎ|3~M121 ɨ|3໾М|3໿ȝ|3ༀҐ|3~M078 Լ|3~M075 ϧ|3~M133 ࣙ|3~M088 ξ|3~M197 ~FUA |3~M101 ૹ|3༁਀|3༂~NAN |3༃ƹ|3~M117 ࡾ|3~M169 ~NON |3~M176 ɀ|3༅Ë|3~M186 Ω|3༄ܳ|3~M096 Ȝ|3༆ٟ|3~M140 ʥ|3~M083 ~HEEI |3~M128 ~HOOU |3~M053 ്|3~M130 ൑|3~M087 ൝|3~M052 ൤|3~M193 চ|3~M046 ~HUAN |3~M090 ൐|3༇ڥ|3~M082 ি|3~M115 ൌ|3~M146 ূ|3~M156 ়|3~M120 ু|3~M159 ~NGGAA |3~M127 ~NGGUA |3~M086 òূ|3~M106 ò়|3~M183 òু|3~M155 ˌ|3~M111 Ď|3~M168 ͎|3~M190 ٔ|3~M166 ~GUEI |3~M167 ~GUAN |3~M184 ൣ|3~M057 ൟ|3~M177 ~NGUAN |3~M068 Ǜ|3~M099 Þ|3~M050 σ|3~M081 ґ|3~M051 Ǹ|3~M102 ٙ|3~M066 ̴|3~M145 ঺|3~M062 ٫|3~M122 ঽ|3~M047 ߃|3~M188 ߃|3~M072 ߆|3~M172 ঻|3~M174 ী|3~M187 ~MBUU |3~M161 ò߆|3~M105 ò঻|3~M142 òী|3~M132 ൎ|3~M092 ڣ|3~M074 ൞|3༈ൊ|3~M108 ൥|3~M112 ൕ|3~M158 ߄|3~M124 ൏|3~M056 ࡠ|3~M148 া|3~M093 ോ|3~M107 ߇|3~M071 ൖ|3~M070 ൡ|3~M171 â|3~M123 ব|3~M129 ֯|3~M125 ޾|3~M191 হ|3~M119 ޽|3~M067 ൙|3~M064 ম|3~M152 ൓|3~M192 শ|3~M149 ڤ|3~M134 ൜|3~M182 Ҏ|3~M185 ǋ|3~M151 Է|3~M173 ӛ|3~M085 ͈|3~M144 ൗ|3~M077 ф|3~M164 ~NYIN |3~M058 ~NYAN |3~M170 ~NYUN |3~M098 ~NYEN |3~M060 ~NYON |@1E8C7|0tu0S|3X|3c|3o|3x|3½|3È|3¼|3Î|2A?~TEENS |4е|4৪|4Ӆ|4ōӅ|4ÑӅ|4ԥ|@1E900|0Ļ'!਻|3࿊|3਌|3࿋|3ī|3࿌|3Ǹ|3߅|3â|3Z|3ȝ|3]|3W|3ǳ|3࿍|3ȕ|3ƹ|3Ǥ|3ú|3P|3࿎|3ʶ|3Ë|3ৣ|3Ď|3ƚ|3ˍ|3ן|3ǋ|3ƛ|3߇|3ݠ|3߄|3ů|1%!਻|3࿊|3਌|3࿋|3ī|3࿌|3Ǹ|3߅|3â|3Z|3ȝ|3]|3W|3ǳ|3࿍|3ȕ|3ƹ|3Ǥ|3ú|3P|3࿎|3ʶ|3Ë|3ৣ|3Ď|3ƚ|3ˍ|3ן|3ǋ|3ƛ|3߇|3ݠ|3߄|3ů|1਻߈|12߈|1ضL|1Ř|1ĸ`|1~GEMINATE ĸ`|1ˊ|1ࡣL|@1E950|0Ļ0ĩ|2S|2X|2c|2o|2x|2½|2È|2¼|2Î|@1E95E|0ĻyʴL|2ʈL|@1EC71|0ťÛ?S|3X|3c|3o|3x|3½|3È|3¼|3Î|3ō|3ǫ|3ʃ|3ʩ|3ɓ|3͏|3ɜ|3·|3Ⱥ|3SÑ|3XÑ|3cÑ|3oÑ|3xÑ|3½Ñ|3ÈÑ|3¼Ñ|3ÎÑ|3Só|3Xó|3có|3oó|3xó|3½ó|3Èó|3¼ó|3Îó|3ōó|3ǫó|3ʃó|3ʩó|3ɓó|3͏ó|3ɜó|3·ó|3Ⱥó|3਼|3~LAKHAN |2਼L|2?~KAROR |3~KARORAN |3ѫS|4X|4c|4o|4x|4½|4È|4¼|4Î|2৒|2ėSȳ|4¶|3cͷ|2ӍL|2?ȪS|4X|4ōó|2Ȫ਼L|@1ED01|0ƲÛ?S|3X|3c|3o|3x|3½|3È|3¼|3Î|3ō|3ǫ|3ʃ|3ʩ|3ɓ|3͏|3ɜ|3·|3Ⱥ|3SÑ|3XÑ|3cÑ|3oÑ|3xÑ|3½Ñ|3ÈÑ|3¼Ñ|3ÎÑ|3Só|3Xó|3có|3oó|3xó|3½ó|3Èó|3¼ó|3Îó|3ōó|3ǫó|3ʃó|3ʩó|3ɓó|3͏ó|3ɜó|3·ó|3Ⱥó|2~MARRATAN |2Ȫ?X|4c|4o|4x|4½|4È|4¼|4Î|4ō|4oÑ|4½Ñ|4Xó|4ōó|2ėS¶|4ए|@1EE00|0*.¾|2Ȅ|2Ċ|2̠|@1EE05|0*.ȕ|2ͤ|2ì|2Ȧ|2¤|2Ǥ|2ű|2 |2Ɛ|2Ǟ|2ȅ|2ȷ|2ɚ|2Ɉ|2ȶ|2ȋ|2ǒ|2˗|2Ə|2Ӊ|2ɦ|2Π|2ʸ|2́Ȅ|3Ɛ|3ȷ|3Ɉ|@1EE21|0*.yȄ|3Ċ|@1EE24|0*.yǨ|@1EE27|0*.yì|@1EE29|0*.y¤|3Ǥ|3ű|3 |3Ɛ|3Ǟ|3ȅ|3ȷ|3ɚ|3Ɉ|@1EE34|0*.yȋ|3ǒ|3˗|3Ə|@1EE39|0*.yɦ|@1EE3B|0*.yʸ|@1EE42|0*.ͰĊ|@1EE47|0*.Ͱì|@1EE49|0*.Ͱ¤|@1EE4B|0*.Ͱű|@1EE4D|0*.ͰƐ|3Ǟ|3ȅ|@1EE51|0*.Ͱɚ|3Ɉ|@1EE54|0*.Ͱȋ|@1EE57|0*.ͰƏ|@1EE59|0*.Ͱɦ|@1EE5B|0*.Ͱʸ|@1EE5D|0*.Ͱ́Ɛ|@1EE5F|0*.Ͱ́Ɉ|@1EE61|0*.ˈȄ|3Ċ|@1EE64|0*.ˈǨ|@1EE67|0*.ˈì|3Ȧ|3¤|3Ǥ|@1EE6C|0*.ˈ |3Ɛ|3Ǟ|3ȅ|3ȷ|3ɚ|3Ɉ|@1EE74|0*.ˈȋ|3ǒ|3˗|3Ə|@1EE79|0*.ˈɦ|3Π|3ʸ|3́Ȅ|@1EE7E|0*.ˈ́ȷ|@1EE80|0*.ʳ¾|3Ȅ|3Ċ|3̠|3Ǩ|3ȕ|3ͤ|3ì|3Ȧ|3¤|@1EE8B|0*.ʳű|3 |3Ɛ|3Ǟ|3ȅ|3ȷ|3ɚ|3Ɉ|3ȶ|3ȋ|3ǒ|3˗|3Ə|3Ӊ|3ɦ|3Π|3ʸ|@1EEA1|0*.ĜȄ|3Ċ|3̠|@1EEA5|0*.Ĝȕ|3ͤ|3ì|3Ȧ|3¤|@1EEAB|0*.Ĝű|3 |3Ɛ|3Ǟ|3ȅ|3ȷ|3ɚ|3Ɉ|3ȶ|3ȋ|3ǒ|3˗|3Ə|3Ӊ|3ɦ|3Π|3ʸ|@1EEF0|0*.ǻ $ì$ֈ|3ì$̠|@1F000|0ȎÅƦЭ|2ĺЭ|2ǌЭ|2ąЭ|2̨Ӻ|2ԚӺ|2bӺ|2SkҴ|2XkҴ|2ckҴ|2okҴ|2xkҴ|2½kҴ|2ÈkҴ|2¼kҴ|2ÎkҴ|2Skҵ|2Xkҵ|2ckҵ|2okҵ|2xkҵ|2½kҵ|2Èkҵ|2¼kҵ|2Îkҵ|2Sk͙|2Xk͙|2ck͙|2ok͙|2xk͙|2½k͙|2Èk͙|2¼k͙|2Îk͙|2~PLUM |2~ORCHID |2ॽ|2~CHRYSANTHEMUM |2~SPRING |2~SUMMER |2~AUTUMN |2~WINTER |2ࠔ|2Ђ|@1F030|0đÅíЂ|2~HORIZONTAL-00-00 |2~HORIZONTAL-00-01 |2~HORIZONTAL-00-02 |2~HORIZONTAL-00-03 |2~HORIZONTAL-00-04 |2~HORIZONTAL-00-05 |2~HORIZONTAL-00-06 |2~HORIZONTAL-01-00 |2~HORIZONTAL-01-01 |2~HORIZONTAL-01-02 |2~HORIZONTAL-01-03 |2~HORIZONTAL-01-04 |2~HORIZONTAL-01-05 |2~HORIZONTAL-01-06 |2~HORIZONTAL-02-00 |2~HORIZONTAL-02-01 |2~HORIZONTAL-02-02 |2~HORIZONTAL-02-03 |2~HORIZONTAL-02-04 |2~HORIZONTAL-02-05 |2~HORIZONTAL-02-06 |2~HORIZONTAL-03-00 |2~HORIZONTAL-03-01 |2~HORIZONTAL-03-02 |2~HORIZONTAL-03-03 |2~HORIZONTAL-03-04 |2~HORIZONTAL-03-05 |2~HORIZONTAL-03-06 |2~HORIZONTAL-04-00 |2~HORIZONTAL-04-01 |2~HORIZONTAL-04-02 |2~HORIZONTAL-04-03 |2~HORIZONTAL-04-04 |2~HORIZONTAL-04-05 |2~HORIZONTAL-04-06 |2~HORIZONTAL-05-00 |2~HORIZONTAL-05-01 |2~HORIZONTAL-05-02 |2~HORIZONTAL-05-03 |2~HORIZONTAL-05-04 |2~HORIZONTAL-05-05 |2~HORIZONTAL-05-06 |2~HORIZONTAL-06-00 |2~HORIZONTAL-06-01 |2~HORIZONTAL-06-02 |2~HORIZONTAL-06-03 |2~HORIZONTAL-06-04 |2~HORIZONTAL-06-05 |2~HORIZONTAL-06-06 |2rЂ|2~VERTICAL-00-00 |2~VERTICAL-00-01 |2~VERTICAL-00-02 |2~VERTICAL-00-03 |2~VERTICAL-00-04 |2~VERTICAL-00-05 |2~VERTICAL-00-06 |2~VERTICAL-01-00 |2~VERTICAL-01-01 |2~VERTICAL-01-02 |2~VERTICAL-01-03 |2~VERTICAL-01-04 |2~VERTICAL-01-05 |2~VERTICAL-01-06 |2~VERTICAL-02-00 |2~VERTICAL-02-01 |2~VERTICAL-02-02 |2~VERTICAL-02-03 |2~VERTICAL-02-04 |2~VERTICAL-02-05 |2~VERTICAL-02-06 |2~VERTICAL-03-00 |2~VERTICAL-03-01 |2~VERTICAL-03-02 |2~VERTICAL-03-03 |2~VERTICAL-03-04 |2~VERTICAL-03-05 |2~VERTICAL-03-06 |2~VERTICAL-04-00 |2~VERTICAL-04-01 |2~VERTICAL-04-02 |2~VERTICAL-04-03 |2~VERTICAL-04-04 |2~VERTICAL-04-05 |2~VERTICAL-04-06 |2~VERTICAL-05-00 |2~VERTICAL-05-01 |2~VERTICAL-05-02 |2~VERTICAL-05-03 |2~VERTICAL-05-04 |2~VERTICAL-05-05 |2~VERTICAL-05-06 |2~VERTICAL-06-00 |2~VERTICAL-06-01 |2~VERTICAL-06-02 |2~VERTICAL-06-03 |2~VERTICAL-06-04 |2~VERTICAL-06-05 |2~VERTICAL-06-06 |@1F0A0|0ŐĿЂ|2ࠕkγ|2Xkγ|2ckγ|2okγ|2xkγ|2½kγ|2Èkγ|2¼kγ|2Îkγ|2ōkγ|2ࠖkγ|2ʟkγ|2ͯkγ|2̽kγ|@1F0B1|0ŐĿࠕk͝|2Xk͝|2ck͝|2ok͝|2xk͝|2½k͝|2Èk͝|2¼k͝|2Îk͝|2ōk͝|2ࠖk͝|2ʟk͝|2ͯk͝|2̽k͝|2̨ࠔ|@1F0C1|0ŐĿࠕkδ|2Xkδ|2ckδ|2okδ|2xkδ|2½kδ|2Èkδ|2¼kδ|2Îkδ|2ōkδ|2ࠖkδ|2ʟkδ|2ͯkδ|2̽kδ|2Yࠔ|@1F0D1|0ŐĿࠕkε|2Xkε|2ckε|2okε|2xkε|2½kε|2Èkε|2¼kε|2Îkε|2ōkε|2ࠖkε|2ʟkε|2ͯkε|2̽kε|2bࠔ|2~FOOL |2~TRUMP-1 |2~TRUMP-2 |2~TRUMP-3 |2~TRUMP-4 |2~TRUMP-5 |2~TRUMP-6 |2~TRUMP-7 |2~TRUMP-8 |2~TRUMP-9 |2~TRUMP-10 |2~TRUMP-11 |2~TRUMP-12 |2~TRUMP-13 |2~TRUMP-14 |2~TRUMP-15 |2~TRUMP-16 |2~TRUMP-17 |2~TRUMP-18 |2~TRUMP-19 |2~TRUMP-20 |2~TRUMP-21 |@1F100|00ĩǙŮ|2Ư|1SƯ|1XƯ|1cƯ|1oƯ|1xƯ|1½Ư|1ÈƯ|1¼Ư|1ÎƯ|0ɫOQ0ĩ|1ĔOQ0ĩ|0Oĩ$ͫ|1̊=|1ԟ#$঒Մ|0Í)'!6|4a|4ļ|4ě|4Z|4Ź|4ĉ|4Ē|4]|4Ŝ|4ď|4·|4ø|4à|4W|4ł|4Ƶ|4ª|4«|4Č|4P|4ē|4œ|4Ń|4Ī|4ģ|0ʿɩѸ)'!«|0ON)'!ļ|5ª|1೵|1~WZ |0~COPYLEFT -|0¬)'!6|4a|4ļ|4ě|4Z|4Ź|4ĉ|4Ē|4]|4Ŝ|4ď|4·|4ø|4à|4W|4ł|4Ƶ|4ª|4«|4Č|4P|4ē|4œ|4Ń|4Ī|4ģ|1ۢ|1ٖ|1~SD |1ߔ|1~PPV |1࿏|0ĔO)'!6|5a|5ļ|5ě|5Z|5Ź|5ĉ|5Ē|5]|5Ŝ|5ď|5·|5ø|5à|5W|5ł|5Ƶ|5ª|5«|5Č|5P|5ē|5œ|5Ń|5Ī|5ģ|0ɗ༴#|1~MD #|1~MR #|0O೴|1ļ$঒Մ|1਱Ӣ|0Ĕ¬)'!6|5a|5ļ|5ě|5Z|5Ź|5ĉ|5Ē|5]|5Ŝ|5ď|5·|5ø|5à|5W|5ł|5Ƶ|5ª|5«|5Č|5P|5ē|5œ|5Ń|5Ī|5ģ|0ϒĔ¬)'!ł|0Ĕ¬০|2Þ|2ā|2̃|2࿏|0M~DJ |0¬~CL |1~COOL |1٢|1~ID |1Ĺ|1˱|1ࠗ|1࿐|1¨$ʴL|1~VS |1cě|1ҧٳ|1Xď|1oď|1¼ď|1xʦS|1ÈʦS|1জʦX|1͏ł|1SÑǫł|1)%!ě|1~HC |1~HDR |1~HI-RES |1~LOSSLESS |1~SHV |1~UHD |1~VOD |0਽ঋ-|@1F1E6|0˅ɡ-!6|4a|4ļ|4ě|4Z|4Ź|4ĉ|4Ē|4]|4Ŝ|4ď|4·|4ø|4à|4W|4ł|4Ƶ|4ª|4«|4Č|4P|4ē|4œ|4Ń|4Ī|4ģ|0MĦ~HOKA |0¬l~KOKO |2ā|@1F210|0¬zǝ~IDEOGRAPH-624B |3~IDEOGRAPH-5B57 |3~IDEOGRAPH-53CC |1l˯|1zǝ࿑|3~IDEOGRAPH-591A |3~IDEOGRAPH-89E3 |3~IDEOGRAPH-5929 |3~IDEOGRAPH-4EA4 |3~IDEOGRAPH-6620 |3~IDEOGRAPH-7121 |3~IDEOGRAPH-6599 |3~IDEOGRAPH-524D |3~IDEOGRAPH-5F8C |3~IDEOGRAPH-518D |3~IDEOGRAPH-65B0 |3~IDEOGRAPH-521D |3~IDEOGRAPH-7D42 |3~IDEOGRAPH-751F |3~IDEOGRAPH-8CA9 |3~IDEOGRAPH-58F0 |3~IDEOGRAPH-5439 |3~IDEOGRAPH-6F14 |3~IDEOGRAPH-6295 |3~IDEOGRAPH-6355 |3~IDEOGRAPH-4E00 |3࿒|3~IDEOGRAPH-904A |3~IDEOGRAPH-5DE6 |3~IDEOGRAPH-4E2D |3~IDEOGRAPH-53F3 |3~IDEOGRAPH-6307 |3~IDEOGRAPH-8D70 |3࿓|3~IDEOGRAPH-7981 |3~IDEOGRAPH-7A7A |3~IDEOGRAPH-5408 |3~IDEOGRAPH-6E80 |3~IDEOGRAPH-6709 |3~IDEOGRAPH-6708 |3~IDEOGRAPH-7533 |3~IDEOGRAPH-5272 |3~IDEOGRAPH-55B6 |3~IDEOGRAPH-914D |@1F240|0ʿɩѸzǝ~IDEOGRAPH-672C |5࿒|5࿑|5~IDEOGRAPH-5B89 |5~IDEOGRAPH-70B9 |5࿓|5~IDEOGRAPH-76D7 |5~IDEOGRAPH-52DD |5~IDEOGRAPH-6557 |@1F250|0Oı~ADVANTAGE |2~ACCEPT |@1F260|0ͽ-JҐ|3ʹ|3~SHOU |3͹|3~SHUANGXI |3~CAI |@1F300|0~CYCLONE |0~FOGGY |0Ȋڂ|0޵$~STARS |0࿔Ø~MOUNTAINS |1|0࿕ʣ~DUSK |0~SUNSET Ø࿖|0~RAINBOW |0ոʣ޵|0ίɤ|0~VOLCANO |0~MILKY ٤|0ͭ࠘~EUROPE-AFRICA |2~AMERICAS |2~ASIA-AUSTRALIA |0࠘$~MERIDIANS |0Ĺʐ-|0࿗ׂʐ-|0ҕȳʐ-|0࿗࿘ʐ-|0Ǚʐ-|0࿙࿘ʐ-|0यȳʐ-|0࿙ׂʐ-|0ׂʐ|0Ĺʐ$²|0ҕȳʐ$²|0यȳʐ$²|0Ǚʐ$²|0ͮ$²|0~GLOWING Ʒ|0~SHOOTING Ʒ|0࿚|0Y࿛|0bͮ|2$%ќ|2शќ|4$Ո|0ќ$Ո|2व|2ڃ|2~TORNADO |0~FOG |0Э྽²|0ڄג|0~TACO |0~BURRITO |0~CHESTNUT |0~SEEDLING |0~EVERGREEN ѣ|0~DECIDUOUS ѣ|0אѣ|0~CACTUS |0ڄ࿜|0~TULIP |0~CHERRY ࿝|0~ROSE |0~HIBISCUS |0~SUNFLOWER |0࿝|0Հk~MAIZE |2ז|0~HERB |0o˾~CLOVER |0~MAPLE ˾|0~FALLEN ˾|0˾ྺƠЭ|0~MUSHROOM |0~TOMATO |0~AUBERGINE |0~GRAPES |0ೌ|0~WATERMELON |0~TANGERINE |0~LEMON |0~BANANA |0~PINEAPPLE |0̨࿞|0Ԛ࿞|0~PEAR |0~PEACH |0~CHERRIES |0~STRAWBERRY |0~HAMBURGER |0ೋk~PIZZA |0ާƊޫ|0~POULTRY ̎|0ז~CRACKER |1Ͼ|0~COOKED ז|0~CURRY :ז|0~STEAMING ਾ|0~SPAGHETTI |0࿟|0ఛ~FRIES |0~ROASTED ್࿠|0~DANGO |0~ODEN |0~SUSHI |0~FRIED ࿡|0Ѡਿ$ڳ~DESIGN |0ΚӲ࿢|0~SHAVED Ӳ|0Ӳ࿢|0~DOUGHNUT |0࿣|0~CHOCOLATE ¿|0~CANDY |0~LOLLIPOP |0~CUSTARD |0~HONEY ޼|0~SHORTCAKE |0~BENTO ­|0޼k࠙|0~COOKING |0ބ:ב|0~TEACUP ڇග|0~SAKE ࠚ:ٺ|0ް؉|0~COCKTAIL ؉|0࿤࿥|0࿦߮|0࿧࿦~MUGS |0؊ࠚ|0ބ:ב$~PLATE |0ࠚ$~POPPING ~CORK |0~POPCORN |0б|0~WRAPPED ~PRESENT |0~BIRTHDAY ਿ|0~JACK-O-LANTERN |0ੀѣ|0ೊੀ|0~FIREWORKS |0~FIREWORK ~SPARKLER |0ੁ|0ੂ~POPPER |0~CONFETTI Ͼ|0~TANABATA ѣ|0ϒ~FLAGS |0~PINE ࿨|0ӳ࿩|0~CARP ~STREAMER |0Э~CHIME |0ʐ~VIEWING ~CEREMONY |0ঘ~SATCHEL |0~GRADUATION ݴ|0ʅ$̋ƊȍI|0࿪k~FLOWERS |0੃ۏ|0~REMINDER б|0Eپ$~JACKS |0~STUDIO ࿫|0೚~SLIDER |0Ϲ~KNOBS |0ދ౎Eچ|1ࡢEچ|0࿬~FRAMES |0~ADMISSION ~TICKETS |0~CAROUSEL Ҩ|0~FERRIS ވ|0࿭~COASTER |0~FISHING ڎ:Ѡ|0࿫|0~MOVIE ࠛ|0~CINEMA |0~HEADPHONE |0~ARTIST ~PALETTE |0ǹՏ|0~CIRCUS ऻ|0~TICKET |0~CLAPPER ې|0~PERFORMING ࿮|0࿯࿰|0ञഩ|0~SLOT ੄|0~BILLIARDS |0࿰ӯ|0~BOWLING |0ٲŐ~CARDS |0Eʬ|0υEچ|0~SAXOPHONE |0~GUITAR |0Eپ|0~TRUMPET |0~VIOLIN |0E~SCORE |0੅~SHIRT $~SASH |0࿱࿲:Ͼ|0࿳:࿳࿴|0~BASKETBALL :~HOOP |0~CHEQUERED Ͻ|0~SNOWBOARDER |0~RUNNER |0~SURFER |0~SPORTS ۏ|0~TROPHY |0Ҩ੆|0~AMERICAN ࿵|0~RUGBY ࿵|0~SWIMMER |0נ~LIFTER |0~GOLFER |0੆~MOTORCYCLE |1ӱ|0࿶ধ:Ͼ|0~VOLLEYBALL |0೎࿷ԛ:Ͼ|0Ӳ࿷ԛ:~PUCK |0ॵ࿱~PADDLE :Ͼ|0व~CAPPED Ӯ|0~CAMPING |0~BEACH $ڂ|0ۑੇ|0ָ࿖|0࿕|0~DERELICT ָۑ|0~CLASSICAL ۑ|0࿸|1~ISLAND |0ఙ~PARK |0~STADIUM |0ָۑ|1$~GARDEN |0ੈۑ|0ӳ੉ੈ|0࿹੉ੈ|0~HOSPITAL |0न|0~AUTOMATED ~TELLER ੄|0࿺|0੊࿺|0~CONVENIENCE ࿻|0ঘ|0~DEPARTMENT ࿻|0~FACTORY |0~IZAKAYA ~LANTERN |0ӳऺ|0࿹ऺ|0b࿼|0Y࿼|0ੋbϽ|1YϽ|0ৠ|0Yৠ|0~LABEL |0~BADMINTON ࿲:~SHUTTLECOCK |0׀:=|0~AMPHORA |0Ҷ`ے~TYPE-1-2 |3ౘ|3ౙ|3ౚ|3౛|0ޱ|0ղ|0޺|0ί~BUFFALO |0ڙ|0ީ|0~LEOPARD |0࿽|0ϔ|0Ӻ|0~CROCODILE |0࿾|0~SNAIL |0ݧ|0Ҩ|0ަ|0~GOAT |0ॿ|0ۓ|0~ROOSTER |0~CHICKEN |0ג|0ޯ|0ම|0ੌ|0~OCTOPUS |0Քɩ|0~BUG |0~ANT |0~HONEYBEE |0~LADY ࿿|0Ѡ|0࿤Ѡ|0~BLOWFISH |0ڜ|0~HATCHING ੍|0؊੍|0~FRONT-FACING ؊੍|0ެ|0~PENGUIN |0~KOALA |0~POODLE |0~DROMEDARY က|0~BACTRIAN က|0~DOLPHIN |0ղ²|0ڙ²|0ީ²|0࿽²|0ϔ²|0Ӻ²|0~SPOUTING ࿾|0Ҩ²|0ۓ²|0ג²|0ޯ²|0আ²|0~HAMSTER ²|0~WOLF ²|0ခ²|0~PANDA ²|0ޯв|0ॺ~PRINTS |0~CHIPMUNK |0˄|0ћ|0Հ|0в|0ǭ|0͗|0b¨ŤԜ±|1ºŤԜ±|1IŤԜ±|1GŤԜ±|0~FISTED ɴ#|0ੋɴ#|0ࠗɴ#|0ࠜ¨#|1º#|0~CLAPPING ҩ#|0ùҩ#|0ဂ|0ࠝՏ|0~EYEGLASSES |0~NECKTIE |0~T-SHIRT |0~JEANS |0ဃ|0~KIMONO |0~BIKINI |0ࠝঀ|0~PURSE |0~HANDBAG |0~POUCH |0~MANS Ն|0~ATHLETIC Ն|0~HIGH-HEELED Ն|0ࠝင|1~BOOTS |0~FOOTPRINTS |0~BUST Ơࠞ|0~BUSTS Ơࠞ|0~BOY |0~GIRL |0˸|0ӻ|0೽|0˸:ӻטҩ|0XГטҩ|1~WOMEN טҩ|0ࠟ~OFFICER |0ӻ$~BUNNY ྼ|0~BRIDE $~VEIL |0˻$~BLOND Ձ|0˸$~GUA Ǜ~MAO |2ೆ|0੎˸|1ӻ|0؊|0ੇ~WORKER |0~PRINCESS |0ӳ~OGRE |1~GOBLIN |0঄|0؊~ANGEL |0~EXTRATERRESTRIAL စ|0စ~MONSTER |0~IMP |0ब|0Յ~DESK ˻|0~GUARDSMAN |0~DANCER |0~LIPSTICK |0~NAIL ৑|0²~MASSAGE |0~HAIRCUT |0~BARBER ڎ|0~SYRINGE |0~PILL |0؈L|0੊!|0ç|0~GEM ঐ|0؈|0࿪|0~COUPLE $ʅ|0~WEDDING |0~BEATING ʅ|0նʅ|0X͝|0~SPARKLING ʅ|0~GROWING ʅ|0ʅ$=|0ӹʅ|0Ԛʅ|0ڛʅ|0੏ʅ|0ʅ$б|0ဆ͝|0ʅ࿨|0Ǻ~SHAPE $6^̡|0ݸÃ~BULB |0੐-|0~BOMB |0ੑ-|0~COLLISION -|0~SPLASHING ࠠ-|0࿛|0Ș-|0~PILE kٙ|0~FLEXED ~BICEPS |0ဇ-|0Րੁ|0੒ੁ|0bٲ|0Ñ~POINTS -|0ဈݷ|0л~EXCHANGE |0nԟ#|0࡯Ŀ|0ࠡ$ؕ#|2ԟ#|2ఝ#|2۟#|0ဈ$~WINGS |0۔$Ą੓:ؕ#|0~SEAT |0ဉ੔|0~BRIEFCASE |0~MINIDISC |0ࠢە|0ညǯ|0~DVD |0ֿճ|0ùֿճ|0њ$˭|1ۖ¨|0੕|0~TEAR-OFF ੕|0Ŀ±|0۔$Ą੓|2Ā੓|0¿۔|0~CLIPBOARD |0੖|0ι੖|0~PAPERCLIP |0ɇဋ|0ˮဋ|0ဌ~TABS |0~LEDGER |0ဍ|1$~DECORATIVE ই|0Ȋ؋|0ù؋|0Ԛ؋|0ӹ؋|0،؋|0~BOOKS |0Ӽ~BADGE |0~SCROLL |0~MEMO |0ϴࠣ|0~PAGER |0প੄|0ဎဏ|0~PUBLIC ~ADDRESS ~LOUDSPEAKER |0~CHEERING ~MEGAPHONE |0~OUTBOX တ|0~INBOX တ|0~PACKAGE |0~E-MAIL -|0~INCOMING ң|0ң$Ā=H|0Ȋࠤ$ထϽ|3ɗϽ|0ùࠤ$ɗϽ|3ထϽ|0~POSTBOX |0޲ɖ|0ဒ|0ۗࠥ|2$£=ʣI|0~VIBRATION ~MODE |0ۗࠥ~OFF |0ȟۗ~PHONES |0ဏ$ٽ|0ࠛ|1$~FLASH |0࿯ࠛ|0~TELEVISION |0ဓ|0~VIDEOCASSETTE |0࿬~PROJECTOR |0~PORTABLE ~STEREO |0~PRAYER ~BEADS |0~TWISTED £͓|0ͬ£:´ùÀ͓|7$OSˡ|1Ā:ĄùÀ͓|0̊Ā:ĄùÀ͓|0Ïန-|0Óန-|0մ$܊j|1|1$S͑ɤ|2c͑੗|0ပ|0ݸ~PLUG |0̌ဖ؉|0˔ဖ؉|0ࠦ$~INK ף|0Ȋࠦ$Қ|0Қ|0ࠦ|0ùࠦ|0Շ|1$܊j|0ဌ|0ढ-|0ဓ؍|0Ђ$´=H|0ȯ$´=H|0Ɗ$ʴL$IG=H|0~SOON $£=H|0ǹ$Ą=H|0ȟSјҞ-|0డō|0ۘ-J)'੘|4%੘|3~NUMBERS |3਷|3)੘|0Ь|0ݸ~TORCH |0ဗ|0ކ|0ഛ:ॻ|0~HOCHO |0~PISTOL |0~MICROSCOPE |0~TELESCOPE |0~CRYSTAL Ͼ|0½ȽƷ$p^|0ӳ-J~BEGINNER |0ڲ~EMBLEM |0YM؍|0bM؍|0Į̆À|1ӹÀ|1،Ǻ|1ӹǺ|0%،Ǻ|1ӹǺ|0̨͕õ|0Ϗ̨õ|0͕%̨õ|0Ϗ%̨õ|0³GϓbÀ|0»GϓbÀ|0Oǚਖ਼|0ǚਖ਼$ۋ[|2|0џIٶ$cÕ|1Gٶ$cÕ|0-J~MARKS ~CHAPTER |0b)ǚ|0n)ǚ|0~CELTIC ǚ|0μ-|0හkभ|0~KAABA |0~MOSQUE |0~SYNAGOGUE |0~MENORAH $Î~BRANCHES |0ਾk~HYGIEIA |0ʫ²SЌ|2XЌ|2cЌ|2oЌ|2xЌ|2½Ќ|2ÈЌ|2¼Ќ|2ÎЌ|2ōЌ|2ϵЌ|2ΌЌ|2~ONE-THIRTY |2~TWO-THIRTY |2~THREE-THIRTY |2~FOUR-THIRTY |2~FIVE-THIRTY |2~SIX-THIRTY |2~SEVEN-THIRTY |2~EIGHT-THIRTY |2~NINE-THIRTY |2~TEN-THIRTY |2~ELEVEN-THIRTY |2~TWELVE-THIRTY |0Gմ|2$S͑ɤ|3c͑੗|0ဘ|1$͑੗|0~RINGING Շ|0؋|0~CANDLE |0~MANTELPIECE ʫ|0Yब:౑|0ȟ~PIRACY |0౭|0˸Ơ~BUSINESS Ҡ~LEVITATING |0~SLEUTH Ĥ~SPY |0ోမ|0ယ|1~WEB |0~JOYSTICK |0˸~DANCING |0Iɴϴࠣ|0ϴࠣ$њ|0Gɴϴࠣ|0bရϴ|0Yရϴ|0ϴƊǹk~MODEM |0~CLAMSHELL ۗࠥ|0Ђkң|0လң|0ң$ڃ|0ਗ਼ң|0ףØလң|0~LINKED ~PAPERCLIPS |0Y੖|0³Iސ|2~BALLPOINT ף|2౬ף|2~PAINTBRUSH |2~CRAYON |0I౳ɴ|0èࠗɴ#|0ɗɴ$ɼဝ|0ŀɗɴ$ɼဝ|1ࠜ¨#|2º#|1౲ɴ|1ɴ$pѴ˲|0ɗɴ$ोʼp:çɼ|0bºŤIɴ±|0̢bIŤ±|2GŤ±|1YIŤ±|2GŤ±|0YIŤԜ±|1GŤԜ±|0̢b¨Ť±|2ºŤ±|1Y¨Ť±|2ºŤ±|0Y¨ŤԜ±|1ºŤԜ±|1ʅ|0သ੔|0پ:ղ|0c~NETWORKED ~COMPUTERS |0ဟ|0~POCKET ~CALCULATOR |0Yсɩࠢە|0bсɩࠢە|0Κɩࠢە|0౱~CARTRIDGE |0~WIRED پ|0S؍ղ|0X؍ղ|0c؍ղ|0~TRACKBALL |0Fဉ੔|0сە|0ٳ|0ဟਜ਼|0পਜ਼|0ညǯਜ਼|0ۙ$Е|3:ੜ|2ੜ|0ߚ$ੜ|2~TILES |2ȾŃ|0Yճ|0ճ|0ùճ|0Ŀ±~DIVIDERS |1ֿ­|0ֿ~CABINET |0;ʬ|2њ|2װ|0ʬ|1њ|1װ|0;ۙ|1њ|1ဠ|0ۙ|0њ|0ဠ|0~WASTEBASKET |0Քʬװ|1੕װ|0သအ|0~MINIMIZE |0~MAXIMIZE |0ਐ|0ͬG:Iٶ͓|0܊Ń|0ণဢဣ-|0೾ဢဣ-|0~COMPRESSION |0FҚ|0~ROLLED-UP ဒ|0њ$OЕ|0খ۔|0Ղב|0Ԙ|0~SPEAKING ʛƠࠞ|0cЪH|2[|2I|2G|0IՐҷ|0GՐҷ|0XՐ੝|0cՐ੝|0I੒ҷ|0G੒ҷ|0I੐ҷ|0G੐ҷ|0ਫ਼ҷ|0ڃਫ਼ҷ|2|0ϑ­$ϑ|1åŃ|1­$åŃ|1;åŃ|1­$;åŃ|0ÃήL|0ϑ­$;ή|0~WORLD ډ|0~MOUNT ~FUJI |0~TOKYO ~TOWER |0~STATUE k~LIBERTY |0ࠞk~JAPAN |0~MOYAI |0ۚ²|2$˝˄|0²$੟kਲ|0˝²$ùǭ|5:˝˄|6੠ࠠ|6ဤ˄|3~HALO |3ဥ|0ဦ²|0˝²$˝˄|0²~SAVOURING ~DELICIOUS ࠙|0ဧ²|0˝²$ဨ˄|3မ|0~SMIRKING ²|0ș²|0~EXPRESSIONLESS ²|0~UNAMUSED ²|0²$੠ࠠ|0~PENSIVE ²|0~CONFUSED ²|0~CONFOUNDED ²|0ࠧ²|0²~THROWING 6؈|0ࠧ²$˝˄|3Ȋ˄|0²$੡͗|4:ဦћ|5ဤ˄|0ဩ²|0~WORRIED ²|0~ANGRY ²|0੢²|0੣²|0~PERSEVERING ²|0²$~LOOK k~TRIUMPH |0ဩїဧ²|0މ²$ùǭ|0~ANGUISHED ²|0~FEARFUL ²|0ဪ²|0~SLEEPY ²|0~TIRED ²|0~GRIMACING ²|0~LOUDLY ੣²|0²$ùǭ|0~HUSHED ²|0²$ùǭ:੠ࠠ|1~SCREAMING Ơ~FEAR |0~ASTONISHED ²|0~FLUSHED ²|0ੑ²|0ဇ²|0²ڇǭ|1$~MEDICAL ਽|0ۚϔ²$˝˄|0ϔ²$੟kਲ|0˝ϔ²$ùǭ|4ဨ˄|0ϔ²$~WRY ټ|0ࠧϔ²$Ȋ˄|0੢ϔ²|0੣ϔ²|0ဪϔ²|0ࠨމ²|1˝²|0~UPSIDE-DOWN ²|0²$ါ˄|2ȟ~GOOD ာ|2ࠗာ|0˻~BOWING ~DEEPLY |0~SEE-NO-EVIL ۓ|0~HEAR-NO-EVIL ۓ|0~SPEAK-NO-EVIL ۓ|0~HAPPY ˻ိSɴ|0˻ိྵҩƠ~CELEBRATION |1މ|1$੢²|2~FOLDED ҩ|0ąǌŤ˾|0ĺǌŤ˾|0ąƦŤ˾|0ĺƦŤ˾|0èąǌŤ˾|1ĺǌŤ˾|1ąƦŤ˾|1ĺƦŤ˾|0ąǌŤҭ˾|0ĺǌŤҭ˾|0ąƦŤҭ˾|0ĺƦŤҭ˾|0nąǌŤҭ˾|1ĺǌŤҭ˾|1ąƦŤҭ˾|1ĺƦŤҭ˾|0ąǌŤԝ|0ĺǌŤԝ|0ąƦŤԝ|0ĺƦŤԝ|0nąǌŤԝ|1ĺǌŤԝ|1ąƦŤԝ|1ĺƦŤԝ|0ီࠩMƝ|4ƠYM|0ုࠩMƝ|4ƠYM|0´ۛ|0Ąۛ|0£ۛ|0Āۛ|0åBκƝ|0nåBκƝ|0BùκƝ|0nBùκƝ|1ҸƝ|0շҸƝ|0QnUèƯɾLƝ|3ƯɾLƝ|2ÏUƯɾLƝ|0nٱƝ|0QٱƝ|0nQٱƝ|0ɳn˓|2ˠ˓|0ࠪې|0ˠࠪې|0ۛ|0~HELICOPTER |0೉ူ|0ࠫӱ|0ေ੤|2$άв|0੤|0~METRO |0Ã~RAIL |0~STATION |0ဲ|1ӱ|0੥|0ۜ੥|0~TROLLEYBUS |0੥Ů|0~MINIBUS |0~AMBULANCE |0Ьဳ|0ࠟӱ|0ۜࠟӱ|0ဴ|0ۜဴ|0ဵ|0ۜဵ|0~RECREATIONAL ~VEHICLE |0~DELIVERY स|0~ARTICULATED ~LORRY |0~TRACTOR |0~MONORAIL |0Ӯࠫ|0ःࠫ|0Ӯ~CABLEWAY |0~AERIAL ~TRAMWAY |0য়|0~ROWBOAT |0~SPEEDBOAT |0íڈÃ|0rڈÃ|0ੇ#|0ࠟ~CARS ဆÃ|0ˮϽƊ੉|0ೇ|0ȟष#|0ံ-|0ȟံ-|0ন့Ơ~ITS ԩ-|0̑Ƙ့-|0~POTABLE ί-|0~NON-POTABLE ί-|0~BICYCLE |0ȟ~BICYCLES |0း|0Ӯး|0඿|0ȟ~PEDESTRIANS |0~CHILDREN ɪ|0~MENS -|0~WOMENS -|0~RESTROOM |0؊-|0~TOILET |0ί~CLOSET |0~SHOWER |0੦|0ර|0~PASSPORT Ϲ|0~CUSTOMS |0~BAGGAGE ~CLAIM |0I္|0õ$ͽׁ|0~PROHIBITED #|0OՅऍ|0~BOYS -|0~GIRLS -|0~COUCH :်|0ੑ~ACCOMMODATION |0ျ~BAGS |0~BELLHOP Շ|0~BED |0ԩk~WORSHIP |0~OCTAGONAL #|0ျ~TROLLEY |0~STUPA |0~PAGODA |0~HINDU ~TEMPLE |0~HUT |0~ELEVATOR |@1F6DD|0~PLAYGROUND ~SLIDE |0ވ|0ç~BUOY |0ކ:ဗ|0ह|0ߙח|0~MOTORWAY |0ࠫ೐|0ြ೓|0͕੃ӵ|1ӵ|1%ӵ|0%ӵ|0~NORTHEAST-POINTING ӵ|0ӵྰ|1~ARRIVING |@1F6F0|0ဎ|0ۜЬဳ|0~DIESEL ူ|0~PASSENGER য়|0ွ|0ြွ|0~CANOE |0~SLED |0ਗ਼~SAUCER |0~SKATEBOARD |0~AUTO ~RICKSHAW |0~PICKUP स|0࿭౮|@1F700|0ï-J~QUINTESSENCE |3ע|3Ь|3ͭ|3ί|3~AQUAFORTIS |3ࠬ~REGIA |4~REGIA-2 |4~VITAE |4~VITAE-2 |3ှ|3~VINEGAR-2 |3~VINEGAR-3 |3੧|3~PHILOSOPHERS ੧|3Y੧|3ފ۝|4~SUBLIMATE-2 |4~SUBLIMATE-3 |3~CINNABAR |3Ѥ|3~NITRE |3~VITRIOL |3~VITRIOL-2 |3੨Ѥ|4~SALT-2 |3ު|3~SILVER |3࠭յ|4~ORE-2 |3੩k࠭|3࠮k࠭|3؎յ|3~IRON-COPPER յ|3۝k؎|3੩k؎|5~COPPER-2 |3؎ဿ|3Ѥk؎ဿ|3۝kѤk؎|3~VERDIGRIS |3~TIN յ|3~LEAD յ|3؏յ|3۝k؏|3Ѥk؏|3۝kѤk؏|3ှk؏|3࠮k؏|5~ANTIMONY-2 |4|3~REGULUS-2 |3~REGULUS-3 |3~REGULUS-4 |3~ALKALI |3~ALKALI-2 |3~MARCASITE |3~SAL-AMMONIAC |3~ARSENIC |3~REALGAR |3~REALGAR-2 |3~AURIPIGMENT |3~BISMUTH յ|3~TARTAR |3~TARTAR-2 |3~QUICK ~LIME |3~BORAX |3~BORAX-2 |3~BORAX-3 |3~ALUM |3ߙ|3ޥ|3~TINCTURE |3৵|3ഫ|3~POWDER |3~CALX |3~TUTTY |3~CAPUT ~MORTUUM |3~SCEPTER k~JOVE |3౒|3ڲ|3~STARRED ڲ|3~LODESTONE |3၀|3~URINE |3Ҩ௱|3၁|3޼၁|3੪|3~POWDERED ੪|3~AMALGAM |3੫၂੫|5~STRATUM-2 |3~SUBLIMATION |3~PRECIPITATE |3~DISTILL |3~DISSOLVE |3~DISSOLVE-2 |3~PURIFY |3~PUTREFACTION |3~CRUCIBLE |3~CRUCIBLE-2 |3~CRUCIBLE-3 |3~CRUCIBLE-4 |3~CRUCIBLE-5 |3ౠ|3੦k~MARY |5~VAPOURS |3~RETORT |3ˀ|3޵|3~DAY-NIGHT |3࡮|3¶પ|4ద|@1F780|0Y̌࠯Gõ|1͕࠯Gõ|1˔࠯Gõ|1Ϗ࠯Gõ|1ࠨ%À|0ý;bÀ|0;bÀ|0nbÀ|0ɳnbÀ|0ؐnbÀ|0bÀҟY%À|0ι੬|0YڌM|1ࠨ%M|0ÃbM|0ýbM|0;bM|0nbM|0ɳnbM|0ؐnbM|0bMҟYɳ%M|4ýM|0M੬|0YڌǺ|1ɳ%Ǻ|1ý%Ǻ|0bǺҟYɳ%Ǻ|4ýǺ|0Ǻ੬|0Yڌώ|1ɳ%ώ|1ý%ώ|0bώҟY%ώ|0܃Cǚ|0ÃCǚ|0ýCǚ|0;Cǚ|0ɳ;Cǚ|1nCǚ|0ؐnCǚ|0܃Ы|0ÃЫ|0ýЫ|0;Ы|0nЫ|0ɳnЫ|0ؐnЫ|0Ãx̾Ǿ|0ýx̾Ǿ|0;x̾Ǿ|0nx̾Ǿ|0ɳnx̾Ǿ|0ؐnx̾Ǿ|0Ã½̾Ǿ|0ý½̾Ǿ|0;½̾Ǿ|0n½̾Ǿ|0ɳn½̾Ǿ|0ؐn½̾Ǿ|0Ã¼̾Ǿ|0ý¼̾Ǿ|0;¼̾Ǿ|0n¼̾Ǿ|0ɳn¼̾Ǿ|0ÃcȽYƷ|0ýcȽYƷ|0cȽYƷ|0ýcȽҤƷ|0ÃoȽYƷ|0ýoȽYƷ|0oȽYƷ|0ýoȽҤƷ|0ˠÃoȽҤƷ|0ÃxȽYƷ|0nxȽYƷ|0ý½ȽYƷ|0n½ȽYƷ|0½ȽҤƷ|0ý¼ȽYƷ|0n¼ȽYƷ|0ɳn¼ȽYƷ|0n¼ȽҤƷ|0ÃΌȽYƷ|0nΌȽYƷ|3ҤƷ|0Oõ|0ĔOõ|0OM|0ĔOM|@1F7E0|0Ĭ،À|1ڛÀ|1ԚÀ|1੏À|1੭À|1̨M|1ӹM|1،M|1ڛM|1ԚM|1੏M|1੭M|@1F7F0|0nɅ#|@1F800|0´=$%õũ|0Ą=$%õũ|0£=$%õũ|0Ā=$%õũ|0´=$ýõũ|0Ą=$ýõũ|0£=$ýõũ|0Ā=$ýõũ|0´=$Ĭõũ|0Ą=$Ĭõũ|0£=$Ĭõũ|0Ā=$Ĭõũ|@1F810|0´=$%˞ũ|0Ą=$%˞ũ|0£=$%˞ũ|0Ā=$%˞ũ|0´=$˞ũ|0Ą=$˞ũ|0£=$˞ũ|0Ā=$˞ũ|0n´=$˞ũ|1Ą=$˞ũ|1£=$˞ũ|1Ā=$˞ũ|1´=$Ĭ˞ũ|1Ą=$Ĭ˞ũ|1£=$Ĭ˞ũ|1Ā=$Ĭ˞ũ|0´ş=$ְˆ|0Ąş=$ְˆ|0£ş=$ְˆ|0Āş=$ְˆ|0´ş=$ýˆ|0Ąş=$ýˆ|0£ş=$ýˆ|0Āş=$ýˆ|0´ş=$;ˆ|0Ąş=$;ˆ|0£ş=$;ˆ|0Āş=$;ˆ|0´ş=$nˆ|0Ąş=$nˆ|0£ş=$nˆ|0Āş=$nˆ|0´ş=$ɳnˆ|0Ąş=$ɳnˆ|0£ş=$ɳnˆ|0Āş=$ɳnˆ|0´࠰=|0Ą࠰=|0£࠰=|0Ā࠰=|0´¬=|0Ą¬=|0£¬=|0Ā¬=|0´Ԟ=|0ĄԞ=|0£Ԟ=|0ĀԞ=|0´nԞ=|0ĄnԞ=|0£nԞ=|0ĀnԞ=|0´n=|0Ąn=|0£n=|0Ān=|@1F850|0´Q=|0ĄQ=|0£Q=|0ĀQ=|0ąǌQ=|1ƦQ=|0ĺƦQ=|1ǌQ=|0IGQ=|0¨ºQ=|@1F860|0ȡ´ÃĂ=|1ĄÃĂ=|1£ÃĂ=|1ĀÃĂ=|1ąǌÃĂ=|2ƦÃĂ=|1ĺƦÃĂ=|2ǌÃĂ=|1´Ă=|1ĄĂ=|1£Ă=|1ĀĂ=|1ąǌĂ=|2ƦĂ=|1ĺƦĂ=|2ǌĂ=|1´ýĂ=|1ĄýĂ=|1£ýĂ=|1ĀýĂ=|1ąǌýĂ=|2ƦýĂ=|1ĺƦýĂ=|2ǌýĂ=|1´nĂ=|1ĄnĂ=|1£nĂ=|1ĀnĂ=|1ąǌnĂ=|2ƦnĂ=|1ĺƦnĂ=|2ǌnĂ=|1´ɳnĂ=|1ĄɳnĂ=|1£ɳnĂ=|1ĀɳnĂ=|1ąǌɳnĂ=|2ƦɳnĂ=|1ĺƦɳnĂ=|2ǌɳnĂ=|@1F890|0´õũ|0Ąõũ|0£õũ|0Āõũ|0´b=Ԭõũ|0Ąb=Ԭõũ|0£b=Ԭõũ|0Āb=Ԭõũ|0´=$џư|0Ą=$џư|0£=$џư|0Ā=$џư|0n=ˆХS|4XҖ|4S¶|5χ|0´~BOTTOM-SHADED b=|0£ȿ੮b=|0´ǹ੮b=|0£ǹ੮b=|0´ृb=|0£ूb=|0´ूb=|0£ृb=|0´ॄϓb=|0£ॄϓb=|0´ॅϓb=|0£ॅϓb=|0b=ˆХS|4XҖ|@1F8B0|0=ŤĄҥąǌ|2£ҥڊĺǌ|@1F900|0Oǚ੯$oÕ|4XÕ|3|0I¶À$oÕ|4cÕ|4XÕ|4^|3|0࠱ۖv|2џv|2v$^|2џv$^|0~PINCHED ɼ|0bʅ|0੭ʅ|0~PINCHING ɴ|0~ZIPPER-MOUTH ²|0~MONEY-MOUTH ²|0²$࿚|0~NERD ²|0~THINKING ²|0²$~HEAD-BANDAGE |0~ROBOT ²|0၃²|0#kȍဥ|0গɛɴ|0ɗЂkɴ|0۱ऽ|0۰ऽ|0~HANDSHAKE |0ɴ$±:pɼϒ|0]੊~YOU ɴ#|0²$~COWBOY Տ|0~CLOWN ²|0~NAUSEATED ²|0ါƊȍ̻~LAUGHING |0~DROOLING ²|0~LYING ²|0²א|0~SNEEZING ²|0²$S~EYEBROW ɗ|0ۚ²$Ʒ˄|3SĬ:S%ћ|0²$ѴੰȊԘ|0~SERIOUS ²$਷ੰǭ|0˝²$˝˄:ɴੰǭ|0²$ùǭ~VOMITING |0~SHOCKED ²$~EXPLODING ʛ|0ੱӻ|0~BREAST-FEEDING |0~PALMS ¨޹|0~SELFIE |0~PRINCE |0˸Ơ~TUXEDO |0಻ੀ|0~SHRUG |0˻~DOING ~CARTWHEEL |0~JUGGLING |0~FENCER |0~MODERN ~PENTATHLON |0~WRESTLERS |0ί~POLO |0~HANDBALL |0~DIVING ਽|0~WILTED ٲ|0ח$~DRUMSTICKS |0࿧~GLASSES |0~TUMBLER ؉|0ঈ|0Ӌד|0~RIFLE |0ҕԩۏ|0ҧԩۏ|0χԩۏ|0~BOXING ~GLOVE |0~MARTIAL ࿮~UNIFORM |0~CURLING ঐ|0~LACROSSE ԛ:Ͼ|0~SOFTBALL |0ਗ਼ǯ|0~CROISSANT |0~AVOCADO |0~CUCUMBER |0~BACON |0࿠|0~CARROT |0~BAGUETTE ࿟|0Ԛ~SALAD |0~SHALLOW ৭k࠙|0~STUFFED ၄|0෉|0؉k~MILK |0~PEANUTS |0~KIWIFRUIT |0~PANCAKES |0~DUMPLING |0~FORTUNE ࿣|0~TAKEOUT ­|0~CHOPSTICKS |0ਾ$ঈ|0ٺ$~STRAW |0~COCONUT |0~BROCCOLI |0ഇ|0~PRETZEL |0লkާ|0~SANDWICH |0~CANNED ࠙|0~LEAFY Ԛ|0~MANGO |0ʐਿ|0~BAGEL |0˝²$˝˄:c͝|0~YAWNING ²|0˝²$~TEAR |0²$ੂɖ:ੂՏ|2~UNEVEN ˄:Зǭ|0~OVERHEATED ²|0~FREEZING ²|0~NINJA |0~DISGUISED ²|0²טЂ੟|1$~PLEADING ˄|0௫|0~LAB ၅|0~GOGGLES |0~HIKING ࿴|0ՉՆ|0~CRAB |0~LION ²|0~SCORPION |0~TURKEY |0~UNICORN ²|0ස|0~DUCK |0ধ|0~SHARK |0~OWL |0ഒ²|0~BUTTERFLY |0঑|0~GORILLA |0~LIZARD |0~RHINOCEROS |0࿡|0~SQUID |0~GIRAFFE ²|0~ZEBRA ²|0~HEDGEHOG |0~SAUROPOD |0~T-REX |0࿶|0~KANGAROO |0~LLAMA |0~PEACOCK |0~HIPPOPOTAMUS |0~PARROT |0~RACCOON |0~LOBSTER |0~MOSQUITO |0~MICROBE |0ೕ|0~SWAN |0~MAMMOTH |0~DODO |0~SLOTH |0~OTTER |0~ORANGUTAN |0~SKUNK |0~FLAMINGO |0~OYSTER |0ࣲ|0~BISON |0ॶ|0~GUIDE ג|0~PROBING ~CANE |0Ҷ࠲̨Ձ|2ɆՁ|2~BALD |2bՁ|0ޫ|0̎|0ݾ|0ޮ|0~SUPERHERO |0~SUPERVILLAIN |0़~VEST |0Հ$~HEARING ~AID |0~MOTORIZED ल|0~MANUAL ल|0၆˼|1̎|0~CHEESE ~WEDGE |0~CUPCAKE |0Ѥ~SHAKER |0౐­|0~GARLIC |0~ONION |0~FALAFEL |0~WAFFLE |0~BUTTER |0~MATE ࿥|0Ӳࡒ|0ҷ~TEA |0~TROLL |0~STANDING ˻|0~KNEELING ˻|0~DEAF ˻|0²$~MONOCLE |0၇|0ঊ|0੎၇|0~BEARDED ˻|0˻$~HEADSCARF |1Ơ~STEAMY ~ROOM |1~CLIMBING |1Ơߜֹ|0~MAGE |0~FAIRY |0~VAMPIRE |0~MERPERSON |0~ELF |0~GENIE |0~ZOMBIE |0~BRAIN |0،ʅ|0~BILLED ݴ|0~SCARF |0~GLOVES |0၅|0~SOCKS |0̨~GIFT ң|0~FIRECRACKER |0~JIGSAW ~PUZZLE Ө|0~TEST ~TUBE |0~PETRI ˨|0~DNA U~HELIX |0~COMPASS |0~ABACUS |0Ь~EXTINGUISHER |0~TOOLBOX |0੪|0~MAGNET |0္|0~LOTION ࠚ|0~SPOOL kॷ|0Ͼk~YARN |0़༭|0~TEDDY ခ|0~BROOM |0~BASKET |0~ROLL kތ|0¿k၀|0~SPONGE |0~RECEIPT |0~NAZAR ~AMULET |0șġ̽|2ͯ|2Ϻ|2ϻ|2ʟ|2ϼ|0bġʟơੲǘ|0Yġʟơੲǘ|0șġʟơੲǘ|0bġ̽ơȺǘ|2ͯơȺǘ|2ϺơȺǘ|2ϻơȺǘ|2ʟơȺǘ|2ϼơȺǘ|0Yġ̽ơȺǘ|2ͯơȺǘ|2ϺơȺǘ|2ϻơȺǘ|2ʟơȺǘ|2ϼơȺǘ|0șġ̽ơȺǘ|2ͯơȺǘ|2ϺơȺǘ|2ϻơȺǘ|2ʟơȺǘ|2ϼơȺǘ|0bġʟơSÑੳǘ|0YġʟơSÑੳǘ|0șġʟơSÑੳǘ|0bġè̽|3ͯ|3Ϻ|3ϻ|3ʟ|3ϼ|0Yġè̽|3ͯ|3Ϻ|3ϻ|3ʟ|3ϼ|0șġè̽|3ͯ|3Ϻ|3ϻ|3ʟ|3ϼ|0bġʟơXÑ޸ǘ|0YġʟơXÑ޸ǘ|0șġʟơXÑ޸ǘ|0bġ̽ơXÑɜǘ|2ͯơXÑɜǘ|2ϺơXÑɜǘ|2ϻơXÑɜǘ|2ʟơXÑɜǘ|2ϼơXÑɜǘ|0Yġ̽ơXÑɜǘ|2ͯơXÑɜǘ|2ϺơXÑɜǘ|2ϻơXÑɜǘ|2ʟơXÑɜǘ|2ϼơXÑɜǘ|0șġ̽ơXÑɜǘ|2ͯơXÑɜǘ|2ϺơXÑɜǘ|2ϻơXÑɜǘ|2ʟơXÑɜǘ|2ϼơXÑɜǘ|0bġʟơcÑШǘ|0YġʟơcÑШǘ|0șġʟơcÑШǘ|0bġؑ|0Yġؑ|0șġؑ|0bġؑơȺǘ|0YġؑơȺǘ|0șġؑơȺǘ|0bġ၈|2၉|2၊|0Yġ၈|2၉|2၊|@1FA60|0ζ̨။|2၌|2ੌ|2Ҩ|2ڮ|2၍|2၎|1Y။|2၌|2ੌ|2Ҩ|2ڮ|2၍|2၎|@1FA70|0~BALLET ~SHOES |0~ONE-PIECE ~SWIMSUIT |0~BRIEFS |0ݿ|0૸င|@1FA78|0~DROP k೔|0~ADHESIVE ~BANDAGE |0~STETHOSCOPE |0~X-RAY |0~CRUTCH |@1FA80|0~YO-YO |0~KITE |0~PARACHUTE |0ව|0~MAGIC ~WAND |0~PINATA |0~NESTING ࿩|@1FA90|0~RINGED ~PLANET |0౉|0~RAZOR |0঎|0~DIYA ်|0~BANJO |0੃ގ|0~ACCORDION |0òח|0~COIN |0ශ৕|0~SCREWDRIVER |0~LADDER |0v|0၏|0အ|0~PLUNGER |0~SEWING ~NEEDLE |0~KNOT |0~BUCKET |0ղ~TRAP |0~TOOTHBRUSH |0౯|0~PLACARD |0੨|0၏Ͼ|0ొĿ|0Ïပ|0~HAMSA |@1FAB0|0ঃ|0~WORM |0࿿|0~COCKROACH |0~POTTED ~PLANT |0ক|0ݕ|0ߜ|0~CORAL |0;ၐ|0ၐ$~EGGS |@1FAC0|0~ANATOMICAL ʅ|0~LUNGS |0༰၃|0ੱ˸|1˻|0˻$ဂ|@1FAD0|0~BLUEBERRIES |0Շ࿜|0ඹ|0၄|0~TAMALE |0~FONDUE |0~TEAPOT |0~POURING ඼|0~BEANS |0೑|@1FAE0|0~MELTING ²|0~SALUTING ²|0²$ù˄:ɴØǭ|2~PEEKING ћ|2ăǭ|0Ȕŕ²|0೺޿|0੝|@1FAF0|0ɴ$±Ѵ:Ùϒ|0£ɴ|0´ɴ|0אºɴ|1¨ɴ|0±Ťʣȍ~VIEWER |0ʅҩ|@1FB00|0¸~SEXTANT-1 |1~SEXTANT-2 |1~SEXTANT-12 |1~SEXTANT-3 |1~SEXTANT-13 |1~SEXTANT-23 |1~SEXTANT-123 |1~SEXTANT-4 |1~SEXTANT-14 |1~SEXTANT-24 |1~SEXTANT-124 |1~SEXTANT-34 |1~SEXTANT-134 |1~SEXTANT-234 |1~SEXTANT-1234 |1~SEXTANT-5 |1~SEXTANT-15 |1~SEXTANT-25 |1~SEXTANT-125 |1~SEXTANT-35 |1~SEXTANT-235 |1~SEXTANT-1235 |1~SEXTANT-45 |1~SEXTANT-145 |1~SEXTANT-245 |1~SEXTANT-1245 |1~SEXTANT-345 |1~SEXTANT-1345 |1~SEXTANT-2345 |1~SEXTANT-12345 |1~SEXTANT-6 |1~SEXTANT-16 |1~SEXTANT-26 |1~SEXTANT-126 |1~SEXTANT-36 |1~SEXTANT-136 |1~SEXTANT-236 |1~SEXTANT-1236 |1~SEXTANT-46 |1~SEXTANT-146 |1~SEXTANT-1246 |1~SEXTANT-346 |1~SEXTANT-1346 |1~SEXTANT-2346 |1~SEXTANT-12346 |1~SEXTANT-56 |1~SEXTANT-156 |1~SEXTANT-256 |1~SEXTANT-1256 |1~SEXTANT-356 |1~SEXTANT-1356 |1~SEXTANT-2356 |1~SEXTANT-12356 |1~SEXTANT-456 |1~SEXTANT-1456 |1~SEXTANT-2456 |1~SEXTANT-12456 |1~SEXTANT-3456 |1~SEXTANT-13456 |1~SEXTANT-23456 |0³I¸ă³pIe³ƙ|9G|4»pIe³ƙ|9G|5Ie³ƙ|1G¸ă»pIe»ƙ|9G|4³pIe»ƙ|9G|5Ie»ƙ|5pIe»pG|5ƙe³pG|5Ie³pG|5ƙe»pG|5Ie»pG|5ƙe»G|1I¸ă»ƙe»pG|5Ie»pG|5ƙe³pG|5Ie³pG|5ƙe³G|5pIe³pG|0»G¸ă³pIe³ƙ|9G|4»pIe³ƙ|9G|5Ie³ƙ|1I¸ă»pIe»ƙ|9G|4³pIe»ƙ|9G|5Ie»ƙ|5pIe»pG|5ƙe³pG|5Ie³pG|5ƙe»pG|5Ie»pG|5ƙe»G|1G¸ă»ƙe»pG|5Ie»pG|5ƙe³pG|5Ie³pG|5ƙe³G|5pIe³pG|1:G:³ˮcͷ¸|0I:³:Gˮcͷ¸|0»:I:³ˮcͷ¸|0I:»:Gˮcͷ¸|1ˮSȳ¸|0»ˮSȳ¸|0GˮSȳ¸|0³ˮSȳ¸|0rSȹၑ|3ၒ|3ၓ|3ၔ|3ၕ|3ၖ|0íSȹၑ|3ၒ|3ၓ|3ၔ|3ၕ|3ၖ|0I:³Sȹ¸|2»Sȹ¸|0G:»Sȹ¸|2³Sȹ¸|0»:³Sȹ¸|0íSȹ~BLOCK-1358 |0»Sȳ¸|1c΋¸|1x΋¸|1cͷ¸|1È΋¸|0GSȳ¸|1c΋¸|1x΋¸|1cͷ¸|1È΋¸|0I¶ýΏ|0G¶ýΏ|0»¶ýΏ|0³¶ýΏ|0ЩýΏ|0»¶¸:³¶ЩýΏ|2ЩýΏ:³¶¸|@1FB94|0I¶ЩýΏ:G¶¸|0ࠪې̼|0Щࠪې̼|0ní̼|0»Ie³G̼|1Ge³I̼|1:³ˮ¶¸|0I:Gˮ¶¸|0»IˮýΏ|1GˮýΏ|0³GˮýΏ|1IˮýΏ|0­ÆÃă»ƙepI|8G|4pIe³ƙ|5Ge³ƙ|4»ƙepIe³ƙ|8Ge³ƙ|4pIe³ƙepG|7»ƙepG|4»ƙepI:pGe³ƙ|8G:pIe³ƙ|9e³ƙepI|8Ie³ƙepG|4pIe»ƙepGe³ƙ|5Ge»ƙepIe³ƙ|4Ǻ|3í$rj|0~ARROWHEAD-SHAPED ځ|0ЩήL|0I¶੅˸|0G¶੅˸|0ЩĀ=$̋´|0´=:»:³Sȹ¸|0£=:»:³Sȹ¸|0Ā=:GSȹ¸|0Ą=:GSȹ¸|0I¶ճ|0G¶ճ|0~VOIDED Cǚ|0Gù¬^|0Ĕăǚ|2pGe³ƙ|2Ǻ|0bnЫ$ͽׁ|0IχbGŤ±|0pχbGŤ±|0GχbGŤ±|0Ĕ¬ʈL|0ԛӢ|2$~ARMS ɗ|2ၗI|3G|2$ဃ|0b͕౷|@1FBF0|0ѹ0ĩ|2S|2X|2c|2o|2x|2½|2È|2¼|2Î|@E0001|0~LANGUAGE Ć|@E0020|0Ć˫|1ʴL|1ɾL|1?#|1ԟ#|1ؓ#|1Ҹ|1Ѻ|1Iǽ|1Gǽ|1Ǿ|1©#|1Ư|1۞|1ǙŮ|1˓|10ĩ|2S|2X|2c|2o|2x|2½|2È|2¼|2Î|1ɠ|1ϛ|1Ƴ#|1Ʌ#|1ƴ#|1ʈL|1ؔʣ|1)'!6|4a|4ļ|4ě|4Z|4Ź|4ĉ|4Ē|4]|4Ŝ|4ď|4·|4ø|4à|4W|4ł|4Ƶ|4ª|4«|4Č|4P|4ē|4œ|4Ń|4Ī|4ģ|1IMÊ|1ˠ˓|1GMÊ|1Ŕƍ|1Ïŕ|1ƅƍ|1)%!6|4a|4ļ|4ě|4Z|4Ź|4ĉ|4Ē|4]|4Ŝ|4ď|4·|4ø|4à|4W|4ł|4Ƶ|4ª|4«|4Č|4P|4ē|4œ|4Ń|4Ī|4ģ|1IɆÊ|1rŕ|1GɆÊ|1ÿ|0ރĆ|@E0100|0f~SELECTOR-17 |1~SELECTOR-18 |1~SELECTOR-19 |1~SELECTOR-20 |1~SELECTOR-21 |1~SELECTOR-22 |1~SELECTOR-23 |1~SELECTOR-24 |1~SELECTOR-25 |1~SELECTOR-26 |1~SELECTOR-27 |1~SELECTOR-28 |1~SELECTOR-29 |1~SELECTOR-30 |1~SELECTOR-31 |1~SELECTOR-32 |1~SELECTOR-33 |1~SELECTOR-34 |1~SELECTOR-35 |1~SELECTOR-36 |1~SELECTOR-37 |1~SELECTOR-38 |1~SELECTOR-39 |1~SELECTOR-40 |1~SELECTOR-41 |1~SELECTOR-42 |1~SELECTOR-43 |1~SELECTOR-44 |1~SELECTOR-45 |1~SELECTOR-46 |1~SELECTOR-47 |1~SELECTOR-48 |1~SELECTOR-49 |1~SELECTOR-50 |1~SELECTOR-51 |1~SELECTOR-52 |1~SELECTOR-53 |1~SELECTOR-54 |1~SELECTOR-55 |1~SELECTOR-56 |1~SELECTOR-57 |1~SELECTOR-58 |1~SELECTOR-59 |1~SELECTOR-60 |1~SELECTOR-61 |1~SELECTOR-62 |1~SELECTOR-63 |1~SELECTOR-64 |1~SELECTOR-65 |1~SELECTOR-66 |1~SELECTOR-67 |1~SELECTOR-68 |1~SELECTOR-69 |1~SELECTOR-70 |1~SELECTOR-71 |1~SELECTOR-72 |1~SELECTOR-73 |1~SELECTOR-74 |1~SELECTOR-75 |1~SELECTOR-76 |1~SELECTOR-77 |1~SELECTOR-78 |1~SELECTOR-79 |1~SELECTOR-80 |1~SELECTOR-81 |1~SELECTOR-82 |1~SELECTOR-83 |1~SELECTOR-84 |1~SELECTOR-85 |1~SELECTOR-86 |1~SELECTOR-87 |1~SELECTOR-88 |1~SELECTOR-89 |1~SELECTOR-90 |1~SELECTOR-91 |1~SELECTOR-92 |1~SELECTOR-93 |1~SELECTOR-94 |1~SELECTOR-95 |1~SELECTOR-96 |1~SELECTOR-97 |1~SELECTOR-98 |1~SELECTOR-99 |1~SELECTOR-100 |1~SELECTOR-101 |1~SELECTOR-102 |1~SELECTOR-103 |1~SELECTOR-104 |1~SELECTOR-105 |1~SELECTOR-106 |1~SELECTOR-107 |1~SELECTOR-108 |1~SELECTOR-109 |1~SELECTOR-110 |1~SELECTOR-111 |1~SELECTOR-112 |1~SELECTOR-113 |1~SELECTOR-114 |1~SELECTOR-115 |1~SELECTOR-116 |1~SELECTOR-117 |1~SELECTOR-118 |1~SELECTOR-119 |1~SELECTOR-120 |1~SELECTOR-121 |1~SELECTOR-122 |1~SELECTOR-123 |1~SELECTOR-124 |1~SELECTOR-125 |1~SELECTOR-126 |1~SELECTOR-127 |1~SELECTOR-128 |1~SELECTOR-129 |1~SELECTOR-130 |1~SELECTOR-131 |1~SELECTOR-132 |1~SELECTOR-133 |1~SELECTOR-134 |1~SELECTOR-135 |1~SELECTOR-136 |1~SELECTOR-137 |1~SELECTOR-138 |1~SELECTOR-139 |1~SELECTOR-140 |1~SELECTOR-141 |1~SELECTOR-142 |1~SELECTOR-143 |1~SELECTOR-144 |1~SELECTOR-145 |1~SELECTOR-146 |1~SELECTOR-147 |1~SELECTOR-148 |1~SELECTOR-149 |1~SELECTOR-150 |1~SELECTOR-151 |1~SELECTOR-152 |1~SELECTOR-153 |1~SELECTOR-154 |1~SELECTOR-155 |1~SELECTOR-156 |1~SELECTOR-157 |1~SELECTOR-158 |1~SELECTOR-159 |1~SELECTOR-160 |1~SELECTOR-161 |1~SELECTOR-162 |1~SELECTOR-163 |1~SELECTOR-164 |1~SELECTOR-165 |1~SELECTOR-166 |1~SELECTOR-167 |1~SELECTOR-168 |1~SELECTOR-169 |1~SELECTOR-170 |1~SELECTOR-171 |1~SELECTOR-172 |1~SELECTOR-173 |1~SELECTOR-174 |1~SELECTOR-175 |1~SELECTOR-176 |1~SELECTOR-177 |1~SELECTOR-178 |1~SELECTOR-179 |1~SELECTOR-180 |1~SELECTOR-181 |1~SELECTOR-182 |1~SELECTOR-183 |1~SELECTOR-184 |1~SELECTOR-185 |1~SELECTOR-186 |1~SELECTOR-187 |1~SELECTOR-188 |1~SELECTOR-189 |1~SELECTOR-190 |1~SELECTOR-191 |1~SELECTOR-192 |1~SELECTOR-193 |1~SELECTOR-194 |1~SELECTOR-195 |1~SELECTOR-196 |1~SELECTOR-197 |1~SELECTOR-198 |1~SELECTOR-199 |1~SELECTOR-200 |1~SELECTOR-201 |1~SELECTOR-202 |1~SELECTOR-203 |1~SELECTOR-204 |1~SELECTOR-205 |1~SELECTOR-206 |1~SELECTOR-207 |1~SELECTOR-208 |1~SELECTOR-209 |1~SELECTOR-210 |1~SELECTOR-211 |1~SELECTOR-212 |1~SELECTOR-213 |1~SELECTOR-214 |1~SELECTOR-215 |1~SELECTOR-216 |1~SELECTOR-217 |1~SELECTOR-218 |1~SELECTOR-219 |1~SELECTOR-220 |1~SELECTOR-221 |1~SELECTOR-222 |1~SELECTOR-223 |1~SELECTOR-224 |1~SELECTOR-225 |1~SELECTOR-226 |1~SELECTOR-227 |1~SELECTOR-228 |1~SELECTOR-229 |1~SELECTOR-230 |1~SELECTOR-231 |1~SELECTOR-232 |1~SELECTOR-233 |1~SELECTOR-234 |1~SELECTOR-235 |1~SELECTOR-236 |1~SELECTOR-237 |1~SELECTOR-238 |1~SELECTOR-239 |1~SELECTOR-240 |1~SELECTOR-241 |1~SELECTOR-242 |1~SELECTOR-243 |1~SELECTOR-244 |1~SELECTOR-245 |1~SELECTOR-246 |1~SELECTOR-247 |1~SELECTOR-248 |1~SELECTOR-249 |1~SELECTOR-250 |1~SELECTOR-251 |1~SELECTOR-252 |1~SELECTOR-253 |1~SELECTOR-254 |1~SELECTOR-255 |1~SELECTOR-256 "

/-- The aliases of characters, each after the line of the code point it names. -/
def aliasText : String := "@0|0ड|@0|0~NUL |@1|0Йkు|@1|0~SOH |@2|0ЙkЕ|@2|0~STX |@3|0ȯkЕ|@3|0~ETX |@4|0ȯkހ|@4|0~EOT |@5|0ూ|@5|0~ENQ |@6|0ށ|@6|0~ACK |@7|0~ALERT |@7|0~BEL |@8|0ృ|@8|0~BS |@9|0ċϸ|@9|0íϸ|@9|0~HT |@9|0а|@A|0ŕֽ|@A|0Ĺŕ|@A|0ȯkŕ|@A|0~EOL |@A|0~LF |@A|0~NL |@B|0ŕϸ|@B|0rϸ|@B|0~VT |@C|01ֽ|@C|0ඡ|@D|0ౄֻ|@D|0~CR |@E|0־͖|@E|0ၘS|@E|0ʧ|@F|0־Ơ|@F|0ၘĩ|@F|0˙|@10|0౅ढނ|@10|0஼|@11|0ҝϹS|@11|0~DC1 |@12|0ҝϹX|@12|0~DC2 |@13|0ҝϹc|@13|0~DC3 |@14|0ҝϹo|@14|0~DC4 |@15|0Ĕށ|@15|0~NAK |@16|0ెే|@16|0~SYN |@17|0ȯkހ¸|@17|0~ETB |@18|0ރ|@18|0΃|@19|0ȯký|@19|0~EOM |@1A|0ण|@1A|0~SUB |@1B|0ނ|@1B|0~ESC |@1C|0Յəo|@1C|0ֿə|@1C|0~FS |@1D|0Յəc|@1D|0तə|@1D|0~GS |@1E|0ՅəX|@1E|0ठə|@1E|0~RS |@1F|0ՅəS|@1F|0ϐə|@1F|0ֱ|@20|0ೠ|@7F|0थ|@7F|0ٿ|@80|0~PADDING ċ|@80|0װ|@81|0Ó~OCTET ~PRESET |@81|0പ|@82|0ၙ~PERMITTED ၚ|@82|0~BPH |@83|0ȟၙၚ|@83|0~NBH |@84|0±|@84|0~IND |@85|0఻ŕ|@85|0๮|@86|0Йkၛؒ|@86|0Ȟ|@87|0ȯkၛؒ|@87|0~ESA |@88|0ċϸέ|@88|0íϸέ|@88|0~HTS |@89|0ċϸ$ၜ|@89|0íϸ$ၜ|@89|0~HTJ |@8A|0ŕϸέ|@8A|0rϸέ|@8A|0~VTS |@8B|0ѕŕ̯|@8B|0ѕŕº|@8B|0~PLD |@8C|0ѕŕ~BACKWARD |@8C|0ѕŕ¨|@8C|0~PLU |@8D|0ˠŕֽ|@8D|0ˠ±|@8D|0͍|@8E|0Ņ־X|@8E|0~SINGLE-SHIFT-2 |@8E|0~SS2 |@8F|0Ņ־c|@8F|0~SINGLE-SHIFT-3 |@8F|0~SS3 |@90|0ҝϹੴ|@90|0~DCS |@91|0ڝএS|@91|0ڝ~USE-1 |@91|0~PU1 |@92|0ڝএX|@92|0ڝ~USE-2 |@92|0භ|@93|0έ~TRANSMIT ~STATE |@93|0~STS |@94|0ރċ|@94|0~CCH |@95|0ၝড|@95|0ঠ|@96|0Йkၞؒ|@96|0Йkၟؒ|@96|0๭|@97|0ȯkၞؒ|@97|0ȯkၟؒ|@97|0~EPA |@98|0Йkੴ|@98|0࿐|@99|0Ņ~GRAPHIC ċੵ|@99|0~SGC |@9A|0Ņċੵ|@9A|0~SCI |@9B|0Ϲ~SEQUENCE ੵ|@9B|0~CSI |@9C|0ੴඬ|@9C|0޴|@9D|0~OPERATING ~SYSTEM ၠ|@9D|0~OSC |@9E|0~PRIVACY ၝ|@9E|0೶|@9F|0ఓ~PROGRAM ၠ|@9F|0~APC |@A0|0~NBSP |@AD|0঵|@1A2|0)'!ǩ|@1A3|0)%!ǩ|@34F|0~CGJ |@61C|0~ALM |@709|0ĭ۽ɠرI|@CDE|0İ!ԫ|@E9D|0Ł!ξ༊|@E9F|0Ł!ξ~FAY |@EA3|0Ł!ʨ|@EA5|0Ł!̆|@FD0|0wLଆࢂˌͨ࢈|@11EC|0>É~YESIEUNG-KIYEOK |@11ED|0>É~YESIEUNG-SSANGKIYEOK |@11EE|0>É~SSANGYESIEUNG |@11EF|0>É~YESIEUNG-KHIEUKH |@180B|0~FVS1 |@180C|0~FVS2 |@180D|0~FVS3 |@180E|0~MVS |@180F|0~FVS4 |@200B|0~ZWSP |@200C|0~ZWNJ |@200D|0༶|@200E|0~LRM |@200F|0~RLM |@202A|0~LRE |@202B|0~RLE |@202C|0~PDF |@202D|0~LRO |@202E|0~RLO |@202F|0~NNBSP |@205F|0~MMSP |@2060|0~WJ |@2066|0~LRI |@2067|0~RLI |@2068|0~FSI |@2069|0~PDI |@2118|0~WEIERSTRASS ~ELLIPTIC ई|@2448|0ၡƊֱ-|@2449|0ၡȘ-|@2B7A|0´ş=$Urj|@2B7C|0£ş=$Urj|@A015|0+&ѥL|@AA6E|0q!ʻʜ|@FE00|0~VS1 |@FE01|0~VS2 |@FE02|0~VS3 |@FE03|0~VS4 |@FE04|0~VS5 |@FE05|0~VS6 |@FE06|0~VS7 |@FE07|0~VS8 |@FE08|0~VS9 |@FE09|0~VS10 |@FE0A|0~VS11 |@FE0B|0~VS12 |@FE0C|0~VS13 |@FE0D|0~VS14 |@FE0E|0~VS15 |@FE0F|0~VS16 |@FE18|0ɞ1JrGbҪÊ|@FEFF|0~BYTE ~ORDER L|@FEFF|0~BOM |@FEFF|0~ZWNBSP |@122D4|0,#ڼț|@122D5|0,#ڼØڼгØг|@16E56|0ħ'!Ē|@16E57|0ħ'!˱|@16E76|0ħ%!Ē|@16E77|0ħ%!˱|@1B001|0d!~E-1 |@1D0C5|0iE-̮ࠇۈླྀ|@E0100|0~VS17 |@E0101|0~VS18 |@E0102|0~VS19 |@E0103|0~VS20 |@E0104|0~VS21 |@E0105|0~VS22 |@E0106|0~VS23 |@E0107|0~VS24 |@E0108|0~VS25 |@E0109|0~VS26 |@E010A|0~VS27 |@E010B|0~VS28 |@E010C|0~VS29 |@E010D|0~VS30 |@E010E|0~VS31 |@E010F|0~VS32 |@E0110|0~VS33 |@E0111|0~VS34 |@E0112|0~VS35 |@E0113|0~VS36 |@E0114|0~VS37 |@E0115|0~VS38 |@E0116|0~VS39 |@E0117|0~VS40 |@E0118|0~VS41 |@E0119|0~VS42 |@E011A|0~VS43 |@E011B|0~VS44 |@E011C|0~VS45 |@E011D|0~VS46 |@E011E|0~VS47 |@E011F|0~VS48 |@E0120|0~VS49 |@E0121|0~VS50 |@E0122|0~VS51 |@E0123|0~VS52 |@E0124|0~VS53 |@E0125|0~VS54 |@E0126|0~VS55 |@E0127|0~VS56 |@E0128|0~VS57 |@E0129|0~VS58 |@E012A|0~VS59 |@E012B|0~VS60 |@E012C|0~VS61 |@E012D|0~VS62 |@E012E|0~VS63 |@E012F|0~VS64 |@E0130|0~VS65 |@E0131|0~VS66 |@E0132|0~VS67 |@E0133|0~VS68 |@E0134|0~VS69 |@E0135|0~VS70 |@E0136|0~VS71 |@E0137|0~VS72 |@E0138|0~VS73 |@E0139|0~VS74 |@E013A|0~VS75 |@E013B|0~VS76 |@E013C|0~VS77 |@E013D|0~VS78 |@E013E|0~VS79 |@E013F|0~VS80 |@E0140|0~VS81 |@E0141|0~VS82 |@E0142|0~VS83 |@E0143|0~VS84 |@E0144|0~VS85 |@E0145|0~VS86 |@E0146|0~VS87 |@E0147|0~VS88 |@E0148|0~VS89 |@E0149|0~VS90 |@E014A|0~VS91 |@E014B|0~VS92 |@E014C|0~VS93 |@E014D|0~VS94 |@E014E|0~VS95 |@E014F|0~VS96 |@E0150|0~VS97 |@E0151|0~VS98 |@E0152|0~VS99 |@E0153|0~VS100 |@E0154|0~VS101 |@E0155|0~VS102 |@E0156|0~VS103 |@E0157|0~VS104 |@E0158|0~VS105 |@E0159|0~VS106 |@E015A|0~VS107 |@E015B|0~VS108 |@E015C|0~VS109 |@E015D|0~VS110 |@E015E|0~VS111 |@E015F|0~VS112 |@E0160|0~VS113 |@E0161|0~VS114 |@E0162|0~VS115 |@E0163|0~VS116 |@E0164|0~VS117 |@E0165|0~VS118 |@E0166|0~VS119 |@E0167|0~VS120 |@E0168|0~VS121 |@E0169|0~VS122 |@E016A|0~VS123 |@E016B|0~VS124 |@E016C|0~VS125 |@E016D|0~VS126 |@E016E|0~VS127 |@E016F|0~VS128 |@E0170|0~VS129 |@E0171|0~VS130 |@E0172|0~VS131 |@E0173|0~VS132 |@E0174|0~VS133 |@E0175|0~VS134 |@E0176|0~VS135 |@E0177|0~VS136 |@E0178|0~VS137 |@E0179|0~VS138 |@E017A|0~VS139 |@E017B|0~VS140 |@E017C|0~VS141 |@E017D|0~VS142 |@E017E|0~VS143 |@E017F|0~VS144 |@E0180|0~VS145 |@E0181|0~VS146 |@E0182|0~VS147 |@E0183|0~VS148 |@E0184|0~VS149 |@E0185|0~VS150 |@E0186|0~VS151 |@E0187|0~VS152 |@E0188|0~VS153 |@E0189|0~VS154 |@E018A|0~VS155 |@E018B|0~VS156 |@E018C|0~VS157 |@E018D|0~VS158 |@E018E|0~VS159 |@E018F|0~VS160 |@E0190|0~VS161 |@E0191|0~VS162 |@E0192|0~VS163 |@E0193|0~VS164 |@E0194|0~VS165 |@E0195|0~VS166 |@E0196|0~VS167 |@E0197|0~VS168 |@E0198|0~VS169 |@E0199|0~VS170 |@E019A|0~VS171 |@E019B|0~VS172 |@E019C|0~VS173 |@E019D|0~VS174 |@E019E|0~VS175 |@E019F|0~VS176 |@E01A0|0~VS177 |@E01A1|0~VS178 |@E01A2|0~VS179 |@E01A3|0~VS180 |@E01A4|0~VS181 |@E01A5|0~VS182 |@E01A6|0~VS183 |@E01A7|0~VS184 |@E01A8|0~VS185 |@E01A9|0~VS186 |@E01AA|0~VS187 |@E01AB|0~VS188 |@E01AC|0~VS189 |@E01AD|0~VS190 |@E01AE|0~VS191 |@E01AF|0~VS192 |@E01B0|0~VS193 |@E01B1|0~VS194 |@E01B2|0~VS195 |@E01B3|0~VS196 |@E01B4|0~VS197 |@E01B5|0~VS198 |@E01B6|0~VS199 |@E01B7|0~VS200 |@E01B8|0~VS201 |@E01B9|0~VS202 |@E01BA|0~VS203 |@E01BB|0~VS204 |@E01BC|0~VS205 |@E01BD|0~VS206 |@E01BE|0~VS207 |@E01BF|0~VS208 |@E01C0|0~VS209 |@E01C1|0~VS210 |@E01C2|0~VS211 |@E01C3|0~VS212 |@E01C4|0~VS213 |@E01C5|0~VS214 |@E01C6|0~VS215 |@E01C7|0~VS216 |@E01C8|0~VS217 |@E01C9|0~VS218 |@E01CA|0~VS219 |@E01CB|0~VS220 |@E01CC|0~VS221 |@E01CD|0~VS222 |@E01CE|0~VS223 |@E01CF|0~VS224 |@E01D0|0~VS225 |@E01D1|0~VS226 |@E01D2|0~VS227 |@E01D3|0~VS228 |@E01D4|0~VS229 |@E01D5|0~VS230 |@E01D6|0~VS231 |@E01D7|0~VS232 |@E01D8|0~VS233 |@E01D9|0~VS234 |@E01DA|0~VS235 |@E01DB|0~VS236 |@E01DC|0~VS237 |@E01DD|0~VS238 |@E01DE|0~VS239 |@E01DF|0~VS240 |@E01E0|0~VS241 |@E01E1|0~VS242 |@E01E2|0~VS243 |@E01E3|0~VS244 |@E01E4|0~VS245 |@E01E5|0~VS246 |@E01E6|0~VS247 |@E01E7|0~VS248 |@E01E8|0~VS249 |@E01E9|0~VS250 |@E01EA|0~VS251 |@E01EB|0~VS252 |@E01EC|0~VS253 |@E01ED|0~VS254 |@E01EE|0~VS255 |@E01EF|0~VS256 "

/-- The parts of the listed names, and then the aliases. -/
def nameTexts : List String :=
  [namesPart1, namesPart2, namesPart3, namesPart4, aliasText]

/-- The prefixes of the names made of a prefix and the code point in capital hexadecimal,
each with the ranges of code points it names. -/
def numberedNames : List (String × List (Nat × Nat)) :=
  [("CJK COMPATIBILITY IDEOGRAPH-", [(0xF900, 0xFA6D), (0xFA70, 0xFAD9), (0x2F800, 0x2FA1D)]),
    ("KHITAN SMALL SCRIPT CHARACTER-", [(0x18B00, 0x18CD5)]),
    ("NUSHU CHARACTER-", [(0x1B170, 0x1B2FB)])]

end Templating.Text
