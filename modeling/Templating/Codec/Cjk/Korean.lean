import Templating.Codec.Multibyte

/-!
# Korean codecs

EUC-KR reads KS X 1001 as pairs of bytes from `0xA1` on, and a syllable made up of its letters
as eight bytes after `0xA4 0xD4`; code page 949 adds the other syllables in pairs from `0x81`
on; Johab reads its own layout of syllables, symbols and ideographs.
-/

namespace Templating.Codec

/-- EUC-KR. -/
def eucKr : Table where
  name := "euc_kr"
  single := "\x00\x01\x02\x03\x04\x05\x06\x07\x08\x09\x0a\x0b\x0c\x0d\x0e\x0f\x10\x11\x12\x13\x14\x15\x16\x17\x18\x19\x1a\x1b\x1c\x1d\x1e\x1f !\"#$%&\x27()*+,-./0123456789:;<=>?@ABCDEFGHIJKLMNOPQRSTUVWXYZ[\\]^_\x60abcdefghijklmnopqrstuvwxyz\x7b|\x7d~\x7f\uFDD1\uFDD1\uFDD1\uFDD1\uFDD1\uFDD1\uFDD1\uFDD1\uFDD1\uFDD1\uFDD1\uFDD1\uFDD1\uFDD1\uFDD1\uFDD1\uFDD1\uFDD1\uFDD1\uFDD1\uFDD1\uFDD1\uFDD1\uFDD1\uFDD1\uFDD1\uFDD1\uFDD1\uFDD1\uFDD1\uFDD1\uFDD1\uFDD1\uFDD1\uFDD1\uFDD1\uFDD1\uFDD1\uFDD1\uFDD1\uFDD1\uFDD1\uFDD1\uFDD1\uFDD1\uFDD1\uFDD1\uFDD1\uFDD1\uFDD1\uFDD1\uFDD1\uFDD1\uFDD1\uFDD1\uFDD1\uFDD1\uFDD1\uFDD1\uFDD1\uFDD1\uFDD1\uFDD1\uFDD1\uFDD1\uFDD1\uFDD1\uFDD1\uFDD1\uFDD1\uFDD1\uFDD1\uFDD1\uFDD1\uFDD1\uFDD1\uFDD1\uFDD1\uFDD1\uFDD1\uFDD1\uFDD1\uFDD1\uFDD1\uFDD1\uFDD1\uFDD1\uFDD1\uFDD1\uFDD1\uFDD1\uFDD1\uFDD1\uFDD1\uFDD1\uFDD1\uFDD1\uFDD1\uFDD1\uFDD1\uFDD1\uFDD1\uFDD1\uFDD1\uFDD1\uFDD1\uFDD1\uFDD1\uFDD1\uFDD1\uFDD1\uFDD1\uFDD1\uFDD1\uFDD1\uFDD1\uFDD1\uFDD1\uFDD1\uFDD1\uFDD1\uFDD1\uFDD1\uFDD1\uFDD1\uFDD1\uFDD1\uFDD1"
  rows := [
    ⟨0xA1, 0xA1, "\u3000、。·‥…¨〃\u00AD―∥＼∼‘’“”〔〕〈〉《》「」『』【】±×÷≠≤≥∞∴°′″℃Å￠￡￥♂♀∠⊥⌒∂∇≡≒§※☆★○●◎◇◆□■△▲▽▼→←↑↓↔〓≪≫√∽∝∵∫∬∈∋⊆⊇⊂⊃∪∩∧∨￢"⟩,
    ⟨0xA2, 0xA1, "⇒⇔∀∃´～ˇ˘˝˚˙¸˛¡¿ː∮∑∏¤℉‰◁◀▷▶♤♠♡♥♧♣⊙◈▣◐◑▒▤▥▨▧▦▩♨☏☎☜☞¶†‡↕↗↙↖↘♭♩♪♬㉿㈜№㏇™㏂㏘℡€®"⟩,
    ⟨0xA3, 0xA1, "！＂＃＄％＆＇（）＊＋，－．／０１２３４５６７８９：；＜＝＞？＠ＡＢＣＤＥＦＧＨＩＪＫＬＭＮＯＰＱＲＳＴＵＶＷＸＹＺ［￦］＾＿｀ａｂｃｄｅｆｇｈｉｊｋｌｍｎｏｐｑｒｓｔｕｖｗｘｙｚ｛｜｝￣"⟩,
    ⟨0xA4, 0xA1, "ㄱㄲㄳㄴㄵㄶㄷㄸㄹㄺㄻㄼㄽㄾㄿㅀㅁㅂㅃㅄㅅㅆㅇㅈㅉㅊㅋㅌㅍㅎㅏㅐㅑㅒㅓㅔㅕㅖㅗㅘㅙㅚㅛㅜㅝㅞㅟㅠㅡㅢㅣ\uFDD1ㅥㅦㅧㅨㅩㅪㅫㅬㅭㅮㅯㅰㅱㅲㅳㅴㅵㅶㅷㅸㅹㅺㅻㅼㅽㅾㅿㆀㆁㆂㆃㆄㆅㆆㆇㆈㆉㆊㆋㆌㆍㆎ"⟩,
    ⟨0xA5, 0xA1, "ⅰⅱⅲⅳⅴⅵⅶⅷⅸⅹ\uFDD0\uFDD0\uFDD0\uFDD0\uFDD0ⅠⅡⅢⅣⅤⅥⅦⅧⅨⅩ\uFDD0\uFDD0\uFDD0\uFDD0\uFDD0\uFDD0\uFDD0ΑΒΓΔΕΖΗΘΙΚΛΜΝΞΟΠΡΣΤΥΦΧΨΩ\uFDD0\uFDD0\uFDD0\uFDD0\uFDD0\uFDD0\uFDD0\uFDD0αβγδεζηθικλμνξοπρστυφχψω"⟩,
    ⟨0xA6, 0xA1, "─│┌┐┘└├┬┤┴┼━┃┏┓┛┗┣┳┫┻╋┠┯┨┷┿┝┰┥┸╂┒┑┚┙┖┕┎┍┞┟┡┢┦┧┩┪┭┮┱┲┵┶┹┺┽┾╀╁╃╄╅╆╇╈╉╊"⟩,
    ⟨0xA7, 0xA1, "㎕㎖㎗ℓ㎘㏄㎣㎤㎥㎦㎙㎚㎛㎜㎝㎞㎟㎠㎡㎢㏊㎍㎎㎏㏏㎈㎉㏈㎧㎨㎰㎱㎲㎳㎴㎵㎶㎷㎸㎹㎀㎁㎂㎃㎄㎺㎻㎼㎽㎾㎿㎐㎑㎒㎓㎔Ω㏀㏁㎊㎋㎌㏖㏅㎭㎮㎯㏛㎩㎪㎫㎬㏝㏐㏓㏃㏉㏜㏆"⟩,
    ⟨0xA8, 0xA1, "ÆÐªĦ\uFDD0Ĳ\uFDD0ĿŁØŒºÞŦŊ\uFDD0㉠㉡㉢㉣㉤㉥㉦㉧㉨㉩㉪㉫㉬㉭㉮㉯㉰㉱㉲㉳㉴㉵㉶㉷㉸㉹㉺㉻ⓐⓑⓒⓓⓔⓕⓖⓗⓘⓙⓚⓛⓜⓝⓞⓟⓠⓡⓢⓣⓤⓥⓦⓧⓨⓩ①②③④⑤⑥⑦⑧⑨⑩⑪⑫⑬⑭⑮½⅓⅔¼¾⅛⅜⅝⅞"⟩,
    ⟨0xA9, 0xA1, "æđðħıĳĸŀłøœßþŧŋŉ㈀㈁㈂㈃㈄㈅㈆㈇㈈㈉㈊㈋㈌㈍㈎㈏㈐㈑㈒㈓㈔㈕㈖㈗㈘㈙㈚㈛⒜⒝⒞⒟⒠⒡⒢⒣⒤⒥⒦⒧⒨⒩⒪⒫⒬⒭⒮⒯⒰⒱⒲⒳⒴⒵⑴⑵⑶⑷⑸⑹⑺⑻⑼⑽⑾⑿⒀⒁⒂¹²³⁴ⁿ₁₂₃₄"⟩,
    ⟨0xAA, 0xA1, "ぁあぃいぅうぇえぉおかがきぎくぐけげこごさざしじすずせぜそぞただちぢっつづてでとどなにぬねのはばぱひびぴふぶぷへべぺほぼぽまみむめもゃやゅゆょよらりるれろゎわゐゑをん"⟩,
    ⟨0xAB, 0xA1, "ァアィイゥウェエォオカガキギクグケゲコゴサザシジスズセゼソゾタダチヂッツヅテデトドナニヌネノハバパヒビピフブプヘベペホボポマミムメモャヤュユョヨラリルレロヮワヰヱヲンヴヵヶ"⟩,
    ⟨0xAC, 0xA1, "АБВГДЕЁЖЗИЙКЛМНОПРСТУФХЦЧШЩЪЫЬЭЮЯ\uFDD0\uFDD0\uFDD0\uFDD0\uFDD0\uFDD0\uFDD0\uFDD0\uFDD0\uFDD0\uFDD0\uFDD0\uFDD0\uFDD0\uFDD0абвгдеёжзийклмнопрстуфхцчшщъыьэюя"⟩,
    ⟨0xB0, 0xA1, "가각간갇갈갉갊감갑값갓갔강갖갗같갚갛개객갠갤갬갭갯갰갱갸갹갼걀걋걍걔걘걜거걱건걷걸걺검겁것겄겅겆겉겊겋게겐겔겜겝겟겠겡겨격겪견겯결겸겹겻겼경곁계곈곌곕곗고곡곤곧골곪곬곯곰곱곳공곶과곽관괄괆"⟩,
    ⟨0xB1, 0xA1, "괌괍괏광괘괜괠괩괬괭괴괵괸괼굄굅굇굉교굔굘굡굣구국군굳굴굵굶굻굼굽굿궁궂궈궉권궐궜궝궤궷귀귁귄귈귐귑귓규균귤그극근귿글긁금급긋긍긔기긱긴긷길긺김깁깃깅깆깊까깍깎깐깔깖깜깝깟깠깡깥깨깩깬깰깸"⟩,
    ⟨0xB2, 0xA1, "깹깻깼깽꺄꺅꺌꺼꺽꺾껀껄껌껍껏껐껑께껙껜껨껫껭껴껸껼꼇꼈꼍꼐꼬꼭꼰꼲꼴꼼꼽꼿꽁꽂꽃꽈꽉꽐꽜꽝꽤꽥꽹꾀꾄꾈꾐꾑꾕꾜꾸꾹꾼꿀꿇꿈꿉꿋꿍꿎꿔꿜꿨꿩꿰꿱꿴꿸뀀뀁뀄뀌뀐뀔뀜뀝뀨끄끅끈끊끌끎끓끔끕끗끙"⟩,
    ⟨0xB3, 0xA1, "끝끼끽낀낄낌낍낏낑나낙낚난낟날낡낢남납낫났낭낮낯낱낳내낵낸낼냄냅냇냈냉냐냑냔냘냠냥너넉넋넌널넒넓넘넙넛넜넝넣네넥넨넬넴넵넷넸넹녀녁년녈념녑녔녕녘녜녠노녹논놀놂놈놉놋농높놓놔놘놜놨뇌뇐뇔뇜뇝"⟩,
    ⟨0xB4, 0xA1, "뇟뇨뇩뇬뇰뇹뇻뇽누눅눈눋눌눔눕눗눙눠눴눼뉘뉜뉠뉨뉩뉴뉵뉼늄늅늉느늑는늘늙늚늠늡늣능늦늪늬늰늴니닉닌닐닒님닙닛닝닢다닥닦단닫달닭닮닯닳담답닷닸당닺닻닿대댁댄댈댐댑댓댔댕댜더덕덖던덛덜덞덟덤덥"⟩,
    ⟨0xB5, 0xA1, "덧덩덫덮데덱덴델뎀뎁뎃뎄뎅뎌뎐뎔뎠뎡뎨뎬도독돈돋돌돎돐돔돕돗동돛돝돠돤돨돼됐되된될됨됩됫됴두둑둔둘둠둡둣둥둬뒀뒈뒝뒤뒨뒬뒵뒷뒹듀듄듈듐듕드득든듣들듦듬듭듯등듸디딕딘딛딜딤딥딧딨딩딪따딱딴딸"⟩,
    ⟨0xB6, 0xA1, "땀땁땃땄땅땋때땍땐땔땜땝땟땠땡떠떡떤떨떪떫떰떱떳떴떵떻떼떽뗀뗄뗌뗍뗏뗐뗑뗘뗬또똑똔똘똥똬똴뙈뙤뙨뚜뚝뚠뚤뚫뚬뚱뛔뛰뛴뛸뜀뜁뜅뜨뜩뜬뜯뜰뜸뜹뜻띄띈띌띔띕띠띤띨띰띱띳띵라락란랄람랍랏랐랑랒랖랗"⟩,
    ⟨0xB7, 0xA1, "래랙랜랠램랩랫랬랭랴략랸럇량러럭런럴럼럽럿렀렁렇레렉렌렐렘렙렛렝려력련렬렴렵렷렸령례롄롑롓로록론롤롬롭롯롱롸롼뢍뢨뢰뢴뢸룀룁룃룅료룐룔룝룟룡루룩룬룰룸룹룻룽뤄뤘뤠뤼뤽륀륄륌륏륑류륙륜률륨륩"⟩,
    ⟨0xB8, 0xA1, "륫륭르륵른를름릅릇릉릊릍릎리릭린릴림립릿링마막만많맏말맑맒맘맙맛망맞맡맣매맥맨맬맴맵맷맸맹맺먀먁먈먕머먹먼멀멂멈멉멋멍멎멓메멕멘멜멤멥멧멨멩며멱면멸몃몄명몇몌모목몫몬몰몲몸몹못몽뫄뫈뫘뫙뫼"⟩,
    ⟨0xB9, 0xA1, "묀묄묍묏묑묘묜묠묩묫무묵묶문묻물묽묾뭄뭅뭇뭉뭍뭏뭐뭔뭘뭡뭣뭬뮈뮌뮐뮤뮨뮬뮴뮷므믄믈믐믓미믹민믿밀밂밈밉밋밌밍및밑바박밖밗반받발밝밞밟밤밥밧방밭배백밴밸뱀뱁뱃뱄뱅뱉뱌뱍뱐뱝버벅번벋벌벎범법벗"⟩,
    ⟨0xBA, 0xA1, "벙벚베벡벤벧벨벰벱벳벴벵벼벽변별볍볏볐병볕볘볜보복볶본볼봄봅봇봉봐봔봤봬뵀뵈뵉뵌뵐뵘뵙뵤뵨부북분붇불붉붊붐붑붓붕붙붚붜붤붰붸뷔뷕뷘뷜뷩뷰뷴뷸븀븃븅브븍븐블븜븝븟비빅빈빌빎빔빕빗빙빚빛빠빡빤"⟩,
    ⟨0xBB, 0xA1, "빨빪빰빱빳빴빵빻빼빽뺀뺄뺌뺍뺏뺐뺑뺘뺙뺨뻐뻑뻔뻗뻘뻠뻣뻤뻥뻬뼁뼈뼉뼘뼙뼛뼜뼝뽀뽁뽄뽈뽐뽑뽕뾔뾰뿅뿌뿍뿐뿔뿜뿟뿡쀼쁑쁘쁜쁠쁨쁩삐삑삔삘삠삡삣삥사삭삯산삳살삵삶삼삽삿샀상샅새색샌샐샘샙샛샜생샤"⟩,
    ⟨0xBC, 0xA1, "샥샨샬샴샵샷샹섀섄섈섐섕서석섞섟선섣설섦섧섬섭섯섰성섶세섹센셀셈셉셋셌셍셔셕션셜셤셥셧셨셩셰셴셸솅소속솎손솔솖솜솝솟송솥솨솩솬솰솽쇄쇈쇌쇔쇗쇘쇠쇤쇨쇰쇱쇳쇼쇽숀숄숌숍숏숑수숙순숟술숨숩숫숭"⟩,
    ⟨0xBD, 0xA1, "숯숱숲숴쉈쉐쉑쉔쉘쉠쉥쉬쉭쉰쉴쉼쉽쉿슁슈슉슐슘슛슝스슥슨슬슭슴습슷승시식신싣실싫심십싯싱싶싸싹싻싼쌀쌈쌉쌌쌍쌓쌔쌕쌘쌜쌤쌥쌨쌩썅써썩썬썰썲썸썹썼썽쎄쎈쎌쏀쏘쏙쏜쏟쏠쏢쏨쏩쏭쏴쏵쏸쐈쐐쐤쐬쐰"⟩,
    ⟨0xBE, 0xA1, "쐴쐼쐽쑈쑤쑥쑨쑬쑴쑵쑹쒀쒔쒜쒸쒼쓩쓰쓱쓴쓸쓺쓿씀씁씌씐씔씜씨씩씬씰씸씹씻씽아악안앉않알앍앎앓암압앗았앙앝앞애액앤앨앰앱앳앴앵야약얀얄얇얌얍얏양얕얗얘얜얠얩어억언얹얻얼얽얾엄업없엇었엉엊엌엎"⟩,
    ⟨0xBF, 0xA1, "에엑엔엘엠엡엣엥여역엮연열엶엷염엽엾엿였영옅옆옇예옌옐옘옙옛옜오옥온올옭옮옰옳옴옵옷옹옻와왁완왈왐왑왓왔왕왜왝왠왬왯왱외왹왼욀욈욉욋욍요욕욘욜욤욥욧용우욱운울욹욺움웁웃웅워웍원월웜웝웠웡웨"⟩,
    ⟨0xC0, 0xA1, "웩웬웰웸웹웽위윅윈윌윔윕윗윙유육윤율윰윱윳융윷으윽은을읊음읍읏응읒읓읔읕읖읗의읜읠읨읫이익인일읽읾잃임입잇있잉잊잎자작잔잖잗잘잚잠잡잣잤장잦재잭잰잴잼잽잿쟀쟁쟈쟉쟌쟎쟐쟘쟝쟤쟨쟬저적전절젊"⟩,
    ⟨0xC1, 0xA1, "점접젓정젖제젝젠젤젬젭젯젱져젼졀졈졉졌졍졔조족존졸졺좀좁좃종좆좇좋좌좍좔좝좟좡좨좼좽죄죈죌죔죕죗죙죠죡죤죵주죽준줄줅줆줌줍줏중줘줬줴쥐쥑쥔쥘쥠쥡쥣쥬쥰쥴쥼즈즉즌즐즘즙즛증지직진짇질짊짐집짓"⟩,
    ⟨0xC2, 0xA1, "징짖짙짚짜짝짠짢짤짧짬짭짯짰짱째짹짼쨀쨈쨉쨋쨌쨍쨔쨘쨩쩌쩍쩐쩔쩜쩝쩟쩠쩡쩨쩽쪄쪘쪼쪽쫀쫄쫌쫍쫏쫑쫓쫘쫙쫠쫬쫴쬈쬐쬔쬘쬠쬡쭁쭈쭉쭌쭐쭘쭙쭝쭤쭸쭹쮜쮸쯔쯤쯧쯩찌찍찐찔찜찝찡찢찧차착찬찮찰참찹찻"⟩,
    ⟨0xC3, 0xA1, "찼창찾채책챈챌챔챕챗챘챙챠챤챦챨챰챵처척천철첨첩첫첬청체첵첸첼쳄쳅쳇쳉쳐쳔쳤쳬쳰촁초촉촌촐촘촙촛총촤촨촬촹최쵠쵤쵬쵭쵯쵱쵸춈추축춘출춤춥춧충춰췄췌췐취췬췰췸췹췻췽츄츈츌츔츙츠측츤츨츰츱츳층"⟩,
    ⟨0xC4, 0xA1, "치칙친칟칠칡침칩칫칭카칵칸칼캄캅캇캉캐캑캔캘캠캡캣캤캥캬캭컁커컥컨컫컬컴컵컷컸컹케켁켄켈켐켑켓켕켜켠켤켬켭켯켰켱켸코콕콘콜콤콥콧콩콰콱콴콸쾀쾅쾌쾡쾨쾰쿄쿠쿡쿤쿨쿰쿱쿳쿵쿼퀀퀄퀑퀘퀭퀴퀵퀸퀼"⟩,
    ⟨0xC5, 0xA1, "큄큅큇큉큐큔큘큠크큭큰클큼큽킁키킥킨킬킴킵킷킹타탁탄탈탉탐탑탓탔탕태택탠탤탬탭탯탰탱탸턍터턱턴털턺텀텁텃텄텅테텍텐텔템텝텟텡텨텬텼톄톈토톡톤톨톰톱톳통톺톼퇀퇘퇴퇸툇툉툐투툭툰툴툼툽툿퉁퉈퉜"⟩,
    ⟨0xC6, 0xA1, "퉤튀튁튄튈튐튑튕튜튠튤튬튱트특튼튿틀틂틈틉틋틔틘틜틤틥티틱틴틸팀팁팃팅파팍팎판팔팖팜팝팟팠팡팥패팩팬팰팸팹팻팼팽퍄퍅퍼퍽펀펄펌펍펏펐펑페펙펜펠펨펩펫펭펴편펼폄폅폈평폐폘폡폣포폭폰폴폼폽폿퐁"⟩,
    ⟨0xC7, 0xA1, "퐈퐝푀푄표푠푤푭푯푸푹푼푿풀풂품풉풋풍풔풩퓌퓐퓔퓜퓟퓨퓬퓰퓸퓻퓽프픈플픔픕픗피픽핀필핌핍핏핑하학한할핥함합핫항해핵핸핼햄햅햇했행햐향허헉헌헐헒험헙헛헝헤헥헨헬헴헵헷헹혀혁현혈혐협혓혔형혜혠"⟩,
    ⟨0xC8, 0xA1, "혤혭호혹혼홀홅홈홉홋홍홑화확환활홧황홰홱홴횃횅회획횐횔횝횟횡효횬횰횹횻후훅훈훌훑훔훗훙훠훤훨훰훵훼훽휀휄휑휘휙휜휠휨휩휫휭휴휵휸휼흄흇흉흐흑흔흖흗흘흙흠흡흣흥흩희흰흴흼흽힁히힉힌힐힘힙힛힝"⟩,
    ⟨0xCA, 0xA1, "伽佳假價加可呵哥嘉嫁家暇架枷柯歌珂痂稼苛茄街袈訶賈跏軻迦駕刻却各恪慤殼珏脚覺角閣侃刊墾奸姦干幹懇揀杆柬桿澗癎看磵稈竿簡肝艮艱諫間乫喝曷渴碣竭葛褐蝎鞨勘坎堪嵌感憾戡敢柑橄減甘疳監瞰紺邯鑑鑒龕"⟩,
    ⟨0xCB, 0xA1, "匣岬甲胛鉀閘剛堈姜岡崗康强彊慷江畺疆糠絳綱羌腔舡薑襁講鋼降鱇介价個凱塏愷愾慨改槪漑疥皆盖箇芥蓋豈鎧開喀客坑更粳羹醵倨去居巨拒据據擧渠炬祛距踞車遽鉅鋸乾件健巾建愆楗腱虔蹇鍵騫乞傑杰桀儉劍劒檢"⟩,
    ⟨0xCC, 0xA1, "瞼鈐黔劫怯迲偈憩揭擊格檄激膈覡隔堅牽犬甄絹繭肩見譴遣鵑抉決潔結缺訣兼慊箝謙鉗鎌京俓倞傾儆勁勍卿坰境庚徑慶憬擎敬景暻更梗涇炅烱璟璥瓊痙硬磬竟競絅經耕耿脛莖警輕逕鏡頃頸驚鯨係啓堺契季屆悸戒桂械"⟩,
    ⟨0xCD, 0xA1, "棨溪界癸磎稽系繫繼計誡谿階鷄古叩告呱固姑孤尻庫拷攷故敲暠枯槁沽痼皐睾稿羔考股膏苦苽菰藁蠱袴誥賈辜錮雇顧高鼓哭斛曲梏穀谷鵠困坤崑昆梱棍滾琨袞鯤汨滑骨供公共功孔工恐恭拱控攻珙空蚣貢鞏串寡戈果瓜"⟩,
    ⟨0xCE, 0xA1, "科菓誇課跨過鍋顆廓槨藿郭串冠官寬慣棺款灌琯瓘管罐菅觀貫關館刮恝括适侊光匡壙廣曠洸炚狂珖筐胱鑛卦掛罫乖傀塊壞怪愧拐槐魁宏紘肱轟交僑咬喬嬌嶠巧攪敎校橋狡皎矯絞翹膠蕎蛟較轎郊餃驕鮫丘久九仇俱具勾"⟩,
    ⟨0xCF, 0xA1, "區口句咎嘔坵垢寇嶇廐懼拘救枸柩構歐毆毬求溝灸狗玖球瞿矩究絿耉臼舅舊苟衢謳購軀逑邱鉤銶駒驅鳩鷗龜國局菊鞠鞫麴君窘群裙軍郡堀屈掘窟宮弓穹窮芎躬倦券勸卷圈拳捲權淃眷厥獗蕨蹶闕机櫃潰詭軌饋句晷歸貴"⟩,
    ⟨0xD0, 0xA1, "鬼龜叫圭奎揆槻珪硅窺竅糾葵規赳逵閨勻均畇筠菌鈞龜橘克剋劇戟棘極隙僅劤勤懃斤根槿瑾筋芹菫覲謹近饉契今妗擒昑檎琴禁禽芩衾衿襟金錦伋及急扱汲級給亘兢矜肯企伎其冀嗜器圻基埼夔奇妓寄岐崎己幾忌技旗旣"⟩,
    ⟨0xD1, 0xA1, "朞期杞棋棄機欺氣汽沂淇玘琦琪璂璣畸畿碁磯祁祇祈祺箕紀綺羈耆耭肌記譏豈起錡錤飢饑騎騏驥麒緊佶吉拮桔金喫儺喇奈娜懦懶拏拿癩羅蘿螺裸邏那樂洛烙珞落諾酪駱亂卵暖欄煖爛蘭難鸞捏捺南嵐枏楠湳濫男藍襤拉"⟩,
    ⟨0xD2, 0xA1, "納臘蠟衲囊娘廊朗浪狼郎乃來內奈柰耐冷女年撚秊念恬拈捻寧寗努勞奴弩怒擄櫓爐瑙盧老蘆虜路露駑魯鷺碌祿綠菉錄鹿論壟弄濃籠聾膿農惱牢磊腦賂雷尿壘屢樓淚漏累縷陋嫩訥杻紐勒肋凜凌稜綾能菱陵尼泥匿溺多茶"⟩,
    ⟨0xD3, 0xA1, "丹亶但單團壇彖斷旦檀段湍短端簞緞蛋袒鄲鍛撻澾獺疸達啖坍憺擔曇淡湛潭澹痰聃膽蕁覃談譚錟沓畓答踏遝唐堂塘幢戇撞棠當糖螳黨代垈坮大對岱帶待戴擡玳臺袋貸隊黛宅德悳倒刀到圖堵塗導屠島嶋度徒悼挑掉搗桃"⟩,
    ⟨0xD4, 0xA1, "棹櫂淘渡滔濤燾盜睹禱稻萄覩賭跳蹈逃途道都鍍陶韜毒瀆牘犢獨督禿篤纛讀墩惇敦旽暾沌焞燉豚頓乭突仝冬凍動同憧東桐棟洞潼疼瞳童胴董銅兜斗杜枓痘竇荳讀豆逗頭屯臀芚遁遯鈍得嶝橙燈登等藤謄鄧騰喇懶拏癩羅"⟩,
    ⟨0xD5, 0xA1, "蘿螺裸邏樂洛烙珞絡落諾酪駱丹亂卵欄欒瀾爛蘭鸞剌辣嵐擥攬欖濫籃纜藍襤覽拉臘蠟廊朗浪狼琅瑯螂郞來崍徠萊冷掠略亮倆兩凉梁樑粮粱糧良諒輛量侶儷勵呂廬慮戾旅櫚濾礪藜蠣閭驢驪麗黎力曆歷瀝礫轢靂憐戀攣漣"⟩,
    ⟨0xD6, 0xA1, "煉璉練聯蓮輦連鍊冽列劣洌烈裂廉斂殮濂簾獵令伶囹寧岺嶺怜玲笭羚翎聆逞鈴零靈領齡例澧禮醴隷勞怒撈擄櫓潞瀘爐盧老蘆虜路輅露魯鷺鹵碌祿綠菉錄鹿麓論壟弄朧瀧瓏籠聾儡瀨牢磊賂賚賴雷了僚寮廖料燎療瞭聊蓼"⟩,
    ⟨0xD7, 0xA1, "遼鬧龍壘婁屢樓淚漏瘻累縷蔞褸鏤陋劉旒柳榴流溜瀏琉瑠留瘤硫謬類六戮陸侖倫崙淪綸輪律慄栗率隆勒肋凜凌楞稜綾菱陵俚利厘吏唎履悧李梨浬犁狸理璃異痢籬罹羸莉裏裡里釐離鯉吝潾燐璘藺躪隣鱗麟林淋琳臨霖砬"⟩,
    ⟨0xD8, 0xA1, "立笠粒摩瑪痲碼磨馬魔麻寞幕漠膜莫邈万卍娩巒彎慢挽晩曼滿漫灣瞞萬蔓蠻輓饅鰻唜抹末沫茉襪靺亡妄忘忙望網罔芒茫莽輞邙埋妹媒寐昧枚梅每煤罵買賣邁魅脈貊陌驀麥孟氓猛盲盟萌冪覓免冕勉棉沔眄眠綿緬面麵滅"⟩,
    ⟨0xD9, 0xA1, "蔑冥名命明暝椧溟皿瞑茗蓂螟酩銘鳴袂侮冒募姆帽慕摸摹暮某模母毛牟牡瑁眸矛耗芼茅謀謨貌木沐牧目睦穆鶩歿沒夢朦蒙卯墓妙廟描昴杳渺猫竗苗錨務巫憮懋戊拇撫无楙武毋無珷畝繆舞茂蕪誣貿霧鵡墨默們刎吻問文"⟩,
    ⟨0xDA, 0xA1, "汶紊紋聞蚊門雯勿沕物味媚尾嵋彌微未梶楣渼湄眉米美薇謎迷靡黴岷悶愍憫敏旻旼民泯玟珉緡閔密蜜謐剝博拍搏撲朴樸泊珀璞箔粕縛膊舶薄迫雹駁伴半反叛拌搬攀斑槃泮潘班畔瘢盤盼磐磻礬絆般蟠返頒飯勃拔撥渤潑"⟩,
    ⟨0xDB, 0xA1, "發跋醱鉢髮魃倣傍坊妨尨幇彷房放方旁昉枋榜滂磅紡肪膀舫芳蒡蚌訪謗邦防龐倍俳北培徘拜排杯湃焙盃背胚裴裵褙賠輩配陪伯佰帛柏栢白百魄幡樊煩燔番磻繁蕃藩飜伐筏罰閥凡帆梵氾汎泛犯範范法琺僻劈壁擘檗璧癖"⟩,
    ⟨0xDC, 0xA1, "碧蘗闢霹便卞弁變辨辯邊別瞥鱉鼈丙倂兵屛幷昞昺柄棅炳甁病秉竝輧餠騈保堡報寶普步洑湺潽珤甫菩補褓譜輔伏僕匐卜宓復服福腹茯蔔複覆輹輻馥鰒本乶俸奉封峯峰捧棒烽熢琫縫蓬蜂逢鋒鳳不付俯傅剖副否咐埠夫婦"⟩,
    ⟨0xDD, 0xA1, "孚孵富府復扶敷斧浮溥父符簿缶腐腑膚艀芙莩訃負賦賻赴趺部釜阜附駙鳧北分吩噴墳奔奮忿憤扮昐汾焚盆粉糞紛芬賁雰不佛弗彿拂崩朋棚硼繃鵬丕備匕匪卑妃婢庇悲憊扉批斐枇榧比毖毗毘沸泌琵痺砒碑秕秘粃緋翡肥"⟩,
    ⟨0xDE, 0xA1, "脾臂菲蜚裨誹譬費鄙非飛鼻嚬嬪彬斌檳殯浜濱瀕牝玭貧賓頻憑氷聘騁乍事些仕伺似使俟僿史司唆嗣四士奢娑寫寺射巳師徙思捨斜斯柶査梭死沙泗渣瀉獅砂社祀祠私篩紗絲肆舍莎蓑蛇裟詐詞謝賜赦辭邪飼駟麝削數朔索"⟩,
    ⟨0xDF, 0xA1, "傘刪山散汕珊産疝算蒜酸霰乷撒殺煞薩三參杉森渗芟蔘衫揷澁鈒颯上傷像償商喪嘗孀尙峠常床庠廂想桑橡湘爽牀狀相祥箱翔裳觴詳象賞霜塞璽賽嗇塞穡索色牲生甥省笙墅壻嶼序庶徐恕抒捿敍暑曙書栖棲犀瑞筮絮緖署"⟩,
    ⟨0xE0, 0xA1, "胥舒薯西誓逝鋤黍鼠夕奭席惜昔晳析汐淅潟石碩蓆釋錫仙僊先善嬋宣扇敾旋渲煽琁瑄璇璿癬禪線繕羨腺膳船蘚蟬詵跣選銑鐥饍鮮卨屑楔泄洩渫舌薛褻設說雪齧剡暹殲纖蟾贍閃陝攝涉燮葉城姓宬性惺成星晟猩珹盛省筬"⟩,
    ⟨0xE1, 0xA1, "聖聲腥誠醒世勢歲洗稅笹細說貰召嘯塑宵小少巢所掃搔昭梳沼消溯瀟炤燒甦疏疎瘙笑篠簫素紹蔬蕭蘇訴逍遡邵銷韶騷俗屬束涑粟續謖贖速孫巽損蓀遜飡率宋悚松淞訟誦送頌刷殺灑碎鎖衰釗修受嗽囚垂壽嫂守岫峀帥愁"⟩,
    ⟨0xE2, 0xA1, "戍手授搜收數樹殊水洙漱燧狩獸琇璲瘦睡秀穗竪粹綏綬繡羞脩茱蒐蓚藪袖誰讐輸遂邃酬銖銹隋隧隨雖需須首髓鬚叔塾夙孰宿淑潚熟琡璹肅菽巡徇循恂旬栒楯橓殉洵淳珣盾瞬筍純脣舜荀蓴蕣詢諄醇錞順馴戌術述鉥崇崧"⟩,
    ⟨0xE3, 0xA1, "嵩瑟膝蝨濕拾習褶襲丞乘僧勝升承昇繩蠅陞侍匙嘶始媤尸屎屍市弑恃施是時枾柴猜矢示翅蒔蓍視試詩諡豕豺埴寔式息拭植殖湜熄篒蝕識軾食飾伸侁信呻娠宸愼新晨燼申神紳腎臣莘薪藎蜃訊身辛辰迅失室實悉審尋心沁"⟩,
    ⟨0xE4, 0xA1, "沈深瀋甚芯諶什十拾雙氏亞俄兒啞娥峨我牙芽莪蛾衙訝阿雅餓鴉鵝堊岳嶽幄惡愕握樂渥鄂鍔顎鰐齷安岸按晏案眼雁鞍顔鮟斡謁軋閼唵岩巖庵暗癌菴闇壓押狎鴨仰央怏昻殃秧鴦厓哀埃崖愛曖涯碍艾隘靄厄扼掖液縊腋額"⟩,
    ⟨0xE5, 0xA1, "櫻罌鶯鸚也倻冶夜惹揶椰爺耶若野弱掠略約若葯蒻藥躍亮佯兩凉壤孃恙揚攘敭暘梁楊樣洋瀁煬痒瘍禳穰糧羊良襄諒讓釀陽量養圄御於漁瘀禦語馭魚齬億憶抑檍臆偃堰彦焉言諺孼蘖俺儼嚴奄掩淹嶪業円予余勵呂女如廬"⟩,
    ⟨0xE6, 0xA1, "旅歟汝濾璵礖礪與艅茹輿轝閭餘驪麗黎亦力域役易曆歷疫繹譯轢逆驛嚥堧姸娟宴年延憐戀捐挻撚椽沇沿涎涓淵演漣烟然煙煉燃燕璉硏硯秊筵緣練縯聯衍軟輦蓮連鉛鍊鳶列劣咽悅涅烈熱裂說閱厭廉念捻染殮炎焰琰艶苒"⟩,
    ⟨0xE7, 0xA1, "簾閻髥鹽曄獵燁葉令囹塋寧嶺嶸影怜映暎楹榮永泳渶潁濚瀛瀯煐營獰玲瑛瑩瓔盈穎纓羚聆英詠迎鈴鍈零霙靈領乂倪例刈叡曳汭濊猊睿穢芮藝蘂禮裔詣譽豫醴銳隸霓預五伍俉傲午吾吳嗚塢墺奧娛寤悟惡懊敖旿晤梧汚澳"⟩,
    ⟨0xE8, 0xA1, "烏熬獒筽蜈誤鰲鼇屋沃獄玉鈺溫瑥瘟穩縕蘊兀壅擁瓮甕癰翁邕雍饔渦瓦窩窪臥蛙蝸訛婉完宛梡椀浣玩琓琬碗緩翫脘腕莞豌阮頑曰往旺枉汪王倭娃歪矮外嵬巍猥畏了僚僥凹堯夭妖姚寥寮尿嶢拗搖撓擾料曜樂橈燎燿瑤療"⟩,
    ⟨0xE9, 0xA1, "窈窯繇繞耀腰蓼蟯要謠遙遼邀饒慾欲浴縟褥辱俑傭冗勇埇墉容庸慂榕涌湧溶熔瑢用甬聳茸蓉踊鎔鏞龍于佑偶優又友右宇寓尤愚憂旴牛玗瑀盂祐禑禹紆羽芋藕虞迂遇郵釪隅雨雩勖彧旭昱栯煜稶郁頊云暈橒殞澐熉耘芸蕓"⟩,
    ⟨0xEA, 0xA1, "運隕雲韻蔚鬱亐熊雄元原員圓園垣媛嫄寃怨愿援沅洹湲源爰猿瑗苑袁轅遠阮院願鴛月越鉞位偉僞危圍委威尉慰暐渭爲瑋緯胃萎葦蔿蝟衛褘謂違韋魏乳侑儒兪劉唯喩孺宥幼幽庾悠惟愈愉揄攸有杻柔柚柳楡楢油洧流游溜"⟩,
    ⟨0xEB, 0xA1, "濡猶猷琉瑜由留癒硫紐維臾萸裕誘諛諭踰蹂遊逾遺酉釉鍮類六堉戮毓肉育陸倫允奫尹崙淪潤玧胤贇輪鈗閏律慄栗率聿戎瀜絨融隆垠恩慇殷誾銀隱乙吟淫蔭陰音飮揖泣邑凝應膺鷹依倚儀宜意懿擬椅毅疑矣義艤薏蟻衣誼"⟩,
    ⟨0xEC, 0xA1, "議醫二以伊利吏夷姨履已弛彛怡易李梨泥爾珥理異痍痢移罹而耳肄苡荑裏裡貽貳邇里離飴餌匿溺瀷益翊翌翼謚人仁刃印吝咽因姻寅引忍湮燐璘絪茵藺蚓認隣靭靷鱗麟一佚佾壹日溢逸鎰馹任壬妊姙恁林淋稔臨荏賃入卄"⟩,
    ⟨0xED, 0xA1, "立笠粒仍剩孕芿仔刺咨姉姿子字孜恣慈滋炙煮玆瓷疵磁紫者自茨蔗藉諮資雌作勺嚼斫昨灼炸爵綽芍酌雀鵲孱棧殘潺盞岑暫潛箴簪蠶雜丈仗匠場墻壯奬將帳庄張掌暲杖樟檣欌漿牆狀獐璋章粧腸臟臧莊葬蔣薔藏裝贓醬長"⟩,
    ⟨0xEE, 0xA1, "障再哉在宰才材栽梓渽滓災縡裁財載齋齎爭箏諍錚佇低儲咀姐底抵杵楮樗沮渚狙猪疽箸紵苧菹著藷詛貯躇這邸雎齟勣吊嫡寂摘敵滴狄炙的積笛籍績翟荻謫賊赤跡蹟迪迹適鏑佃佺傳全典前剪塡塼奠專展廛悛戰栓殿氈澱"⟩,
    ⟨0xEF, 0xA1, "煎琠田甸畑癲筌箋箭篆纏詮輾轉鈿銓錢鐫電顚顫餞切截折浙癤竊節絶占岾店漸点粘霑鮎點接摺蝶丁井亭停偵呈姃定幀庭廷征情挺政整旌晶晸柾楨檉正汀淀淨渟湞瀞炡玎珽町睛碇禎程穽精綎艇訂諪貞鄭酊釘鉦鋌錠霆靖"⟩,
    ⟨0xF0, 0xA1, "靜頂鼎制劑啼堤帝弟悌提梯濟祭第臍薺製諸蹄醍除際霽題齊俎兆凋助嘲弔彫措操早晁曺曹朝條棗槽漕潮照燥爪璪眺祖祚租稠窕粗糟組繰肇藻蚤詔調趙躁造遭釣阻雕鳥族簇足鏃存尊卒拙猝倧宗從悰慫棕淙琮種終綜縱腫"⟩,
    ⟨0xF1, 0xA1, "踪踵鍾鐘佐坐左座挫罪主住侏做姝胄呪周嗾奏宙州廚晝朱柱株注洲湊澍炷珠疇籌紂紬綢舟蛛註誅走躊輳週酎酒鑄駐竹粥俊儁准埈寯峻晙樽浚準濬焌畯竣蠢逡遵雋駿茁中仲衆重卽櫛楫汁葺增憎曾拯烝甑症繒蒸證贈之只"⟩,
    ⟨0xF2, 0xA1, "咫地址志持指摯支旨智枝枳止池沚漬知砥祉祗紙肢脂至芝芷蜘誌識贄趾遲直稙稷織職唇嗔塵振搢晉晋桭榛殄津溱珍瑨璡畛疹盡眞瞋秦縉縝臻蔯袗診賑軫辰進鎭陣陳震侄叱姪嫉帙桎瓆疾秩窒膣蛭質跌迭斟朕什執潗緝輯"⟩,
    ⟨0xF3, 0xA1, "鏶集徵懲澄且侘借叉嗟嵯差次此磋箚茶蹉車遮捉搾着窄錯鑿齪撰澯燦璨瓚竄簒纂粲纘讚贊鑽餐饌刹察擦札紮僭參塹慘慙懺斬站讒讖倉倡創唱娼廠彰愴敞昌昶暢槍滄漲猖瘡窓脹艙菖蒼債埰寀寨彩採砦綵菜蔡采釵冊柵策"⟩,
    ⟨0xF4, 0xA1, "責凄妻悽處倜刺剔尺慽戚拓擲斥滌瘠脊蹠陟隻仟千喘天川擅泉淺玔穿舛薦賤踐遷釧闡阡韆凸哲喆徹撤澈綴輟轍鐵僉尖沾添甛瞻簽籤詹諂堞妾帖捷牒疊睫諜貼輒廳晴淸聽菁請靑鯖切剃替涕滯締諦逮遞體初剿哨憔抄招梢"⟩,
    ⟨0xF5, 0xA1, "椒楚樵炒焦硝礁礎秒稍肖艸苕草蕉貂超酢醋醮促囑燭矗蜀觸寸忖村邨叢塚寵悤憁摠總聰蔥銃撮催崔最墜抽推椎楸樞湫皺秋芻萩諏趨追鄒酋醜錐錘鎚雛騶鰍丑畜祝竺筑築縮蓄蹙蹴軸逐春椿瑃出朮黜充忠沖蟲衝衷悴膵萃"⟩,
    ⟨0xF6, 0xA1, "贅取吹嘴娶就炊翠聚脆臭趣醉驟鷲側仄厠惻測層侈値嗤峙幟恥梔治淄熾痔痴癡稚穉緇緻置致蚩輜雉馳齒則勅飭親七柒漆侵寢枕沈浸琛砧針鍼蟄秤稱快他咤唾墮妥惰打拖朶楕舵陀馱駝倬卓啄坼度托拓擢晫柝濁濯琢琸託"⟩,
    ⟨0xF7, 0xA1, "鐸呑嘆坦彈憚歎灘炭綻誕奪脫探眈耽貪塔搭榻宕帑湯糖蕩兌台太怠態殆汰泰笞胎苔跆邰颱宅擇澤撑攄兎吐土討慟桶洞痛筒統通堆槌腿褪退頹偸套妬投透鬪慝特闖坡婆巴把播擺杷波派爬琶破罷芭跛頗判坂板版瓣販辦鈑"⟩,
    ⟨0xF8, 0xA1, "阪八叭捌佩唄悖敗沛浿牌狽稗覇貝彭澎烹膨愎便偏扁片篇編翩遍鞭騙貶坪平枰萍評吠嬖幣廢弊斃肺蔽閉陛佈包匍匏咆哺圃布怖抛抱捕暴泡浦疱砲胞脯苞葡蒲袍褒逋鋪飽鮑幅暴曝瀑爆輻俵剽彪慓杓標漂瓢票表豹飇飄驃"⟩,
    ⟨0xF9, 0xA1, "品稟楓諷豊風馮彼披疲皮被避陂匹弼必泌珌畢疋筆苾馝乏逼下何厦夏廈昰河瑕荷蝦賀遐霞鰕壑學虐謔鶴寒恨悍旱汗漢澣瀚罕翰閑閒限韓割轄函含咸啣喊檻涵緘艦銜陷鹹合哈盒蛤閤闔陜亢伉姮嫦巷恒抗杭桁沆港缸肛航"⟩,
    ⟨0xFA, 0xA1, "行降項亥偕咳垓奚孩害懈楷海瀣蟹解該諧邂駭骸劾核倖幸杏荇行享向嚮珦鄕響餉饗香噓墟虛許憲櫶獻軒歇險驗奕爀赫革俔峴弦懸晛泫炫玄玹現眩睍絃絢縣舷衒見賢鉉顯孑穴血頁嫌俠協夾峽挾浹狹脅脇莢鋏頰亨兄刑型"⟩,
    ⟨0xFB, 0xA1, "形泂滎瀅灐炯熒珩瑩荊螢衡逈邢鎣馨兮彗惠慧暳蕙蹊醯鞋乎互呼壕壺好岵弧戶扈昊晧毫浩淏湖滸澔濠濩灝狐琥瑚瓠皓祜糊縞胡芦葫蒿虎號蝴護豪鎬頀顥惑或酷婚昏混渾琿魂忽惚笏哄弘汞泓洪烘紅虹訌鴻化和嬅樺火畵"⟩,
    ⟨0xFC, 0xA1, "禍禾花華話譁貨靴廓擴攫確碻穫丸喚奐宦幻患換歡晥桓渙煥環紈還驩鰥活滑猾豁闊凰幌徨恍惶愰慌晃晄榥況湟滉潢煌璜皇篁簧荒蝗遑隍黃匯回廻徊恢悔懷晦會檜淮澮灰獪繪膾茴蛔誨賄劃獲宖橫鐄哮嚆孝效斅曉梟涍淆"⟩,
    ⟨0xFD, 0xA1, "爻肴酵驍侯候厚后吼喉嗅帿後朽煦珝逅勛勳塤壎焄熏燻薰訓暈薨喧暄煊萱卉喙毁彙徽揮暉煇諱輝麾休携烋畦虧恤譎鷸兇凶匈洶胸黑昕欣炘痕吃屹紇訖欠欽歆吸恰洽翕興僖凞喜噫囍姬嬉希憙憘戱晞曦熙熹熺犧禧稀羲詰"⟩]
  extension := .makeUp [(0xA1, 0), (0xA2, 1), (0xA4, 2), (0xA7, 3), (0xA8, 4), (0xA9, 5), (0xB1, 6), (0xB2, 7), (0xB3, 8), (0xB5, 9), (0xB6, 10), (0xB7, 11), (0xB8, 12), (0xB9, 13), (0xBA, 14), (0xBB, 15), (0xBC, 16), (0xBD, 17), (0xBE, 18)]
    [(0xBF, 0), (0xC0, 1), (0xC1, 2), (0xC2, 3), (0xC3, 4), (0xC4, 5), (0xC5, 6), (0xC6, 7), (0xC7, 8), (0xC8, 9), (0xC9, 10), (0xCA, 11), (0xCB, 12), (0xCC, 13), (0xCD, 14), (0xCE, 15), (0xCF, 16), (0xD0, 17), (0xD1, 18), (0xD2, 19), (0xD3, 20)]
    [(0xA1, 1), (0xA2, 2), (0xA3, 3), (0xA4, 4), (0xA5, 5), (0xA6, 6), (0xA7, 7), (0xA9, 8), (0xAA, 9), (0xAB, 10), (0xAC, 11), (0xAD, 12), (0xAE, 13), (0xAF, 14), (0xB0, 15), (0xB1, 16), (0xB2, 17), (0xB4, 18), (0xB5, 19), (0xB6, 20), (0xB7, 21), (0xB8, 22), (0xBA, 23), (0xBB, 24), (0xBC, 25), (0xBD, 26), (0xBE, 27), (0xD4, 0)]

/-- Code page 949. -/
def cp949 : Table where
  name := "cp949"
  single := "\x00\x01\x02\x03\x04\x05\x06\x07\x08\x09\x0a\x0b\x0c\x0d\x0e\x0f\x10\x11\x12\x13\x14\x15\x16\x17\x18\x19\x1a\x1b\x1c\x1d\x1e\x1f !\"#$%&\x27()*+,-./0123456789:;<=>?@ABCDEFGHIJKLMNOPQRSTUVWXYZ[\\]^_\x60abcdefghijklmnopqrstuvwxyz\x7b|\x7d~\x7f\uFDD1\uFDD1\uFDD1\uFDD1\uFDD1\uFDD1\uFDD1\uFDD1\uFDD1\uFDD1\uFDD1\uFDD1\uFDD1\uFDD1\uFDD1\uFDD1\uFDD1\uFDD1\uFDD1\uFDD1\uFDD1\uFDD1\uFDD1\uFDD1\uFDD1\uFDD1\uFDD1\uFDD1\uFDD1\uFDD1\uFDD1\uFDD1\uFDD1\uFDD1\uFDD1\uFDD1\uFDD1\uFDD1\uFDD1\uFDD1\uFDD1\uFDD1\uFDD1\uFDD1\uFDD1\uFDD1\uFDD1\uFDD1\uFDD1\uFDD1\uFDD1\uFDD1\uFDD1\uFDD1\uFDD1\uFDD1\uFDD1\uFDD1\uFDD1\uFDD1\uFDD1\uFDD1\uFDD1\uFDD1\uFDD1\uFDD1\uFDD1\uFDD1\uFDD1\uFDD1\uFDD1\uFDD1\uFDD1\uFDD1\uFDD1\uFDD1\uFDD1\uFDD1\uFDD1\uFDD1\uFDD1\uFDD1\uFDD1\uFDD1\uFDD1\uFDD1\uFDD1\uFDD1\uFDD1\uFDD1\uFDD1\uFDD1\uFDD1\uFDD1\uFDD1\uFDD1\uFDD1\uFDD1\uFDD1\uFDD1\uFDD1\uFDD1\uFDD1\uFDD1\uFDD1\uFDD1\uFDD1\uFDD1\uFDD1\uFDD1\uFDD1\uFDD1\uFDD1\uFDD1\uFDD1\uFDD1\uFDD1\uFDD1\uFDD1\uFDD1\uFDD1\uFDD1\uFDD1\uFDD1\uFDD1\uFDD1\uFDD1\uFDD1"
  rows := [
    ⟨0x81, 0x41, "갂갃갅갆갋갌갍갎갏갘갞갟갡갢갣갥갦갧갨갩갪갫갮갲갳갴\uFDD0\uFDD0\uFDD0\uFDD0\uFDD0\uFDD0갵갶갷갺갻갽갾갿걁걂걃걄걅걆걇걈걉걊걌걎걏걐걑걒걓걕\uFDD0\uFDD0\uFDD0\uFDD0\uFDD0\uFDD0걖걗걙걚걛걝걞걟걠걡걢걣걤걥걦걧걨걩걪걫걬걭걮걯걲걳걵걶걹걻걼걽걾걿겂겇겈겍겎겏겑겒겓겕겖겗겘겙겚겛겞겢겣겤겥겦겧겫겭겮겱겲겳겴겵겶겷겺겾겿곀곂곃곅곆곇곉곊곋곍곎곏곐곑곒곓곔곖곘곙곚곛곜곝곞곟곢곣곥곦곩곫곭곮곲곴곷곸곹곺곻곾곿괁괂괃괅괇괈괉괊괋괎괐괒괓"⟩,
    ⟨0x82, 0x41, "괔괕괖괗괙괚괛괝괞괟괡괢괣괤괥괦괧괨괪괫괮괯괰괱괲괳\uFDD0\uFDD0\uFDD0\uFDD0\uFDD0\uFDD0괶괷괹괺괻괽괾괿굀굁굂굃굆굈굊굋굌굍굎굏굑굒굓굕굖굗\uFDD0\uFDD0\uFDD0\uFDD0\uFDD0\uFDD0굙굚굛굜굝굞굟굠굢굤굥굦굧굨굩굪굫굮굯굱굲굷굸굹굺굾궀궃궄궅궆궇궊궋궍궎궏궑궒궓궔궕궖궗궘궙궚궛궞궟궠궡궢궣궥궦궧궨궩궪궫궬궭궮궯궰궱궲궳궴궵궶궸궹궺궻궼궽궾궿귂귃귅귆귇귉귊귋귌귍귎귏귒귔귕귖귗귘귙귚귛귝귞귟귡귢귣귥귦귧귨귩귪귫귬귭귮귯귰귱귲귳귴귵귶귷"⟩,
    ⟨0x83, 0x41, "귺귻귽귾긂긃긄긅긆긇긊긌긎긏긐긑긒긓긕긖긗긘긙긚긛긜\uFDD0\uFDD0\uFDD0\uFDD0\uFDD0\uFDD0긝긞긟긠긡긢긣긤긥긦긧긨긩긪긫긬긭긮긯긲긳긵긶긹긻긼\uFDD0\uFDD0\uFDD0\uFDD0\uFDD0\uFDD0긽긾긿깂깄깇깈깉깋깏깑깒깓깕깗깘깙깚깛깞깢깣깤깦깧깪깫깭깮깯깱깲깳깴깵깶깷깺깾깿꺀꺁꺂꺃꺆꺇꺈꺉꺊꺋꺍꺎꺏꺐꺑꺒꺓꺔꺕꺖꺗꺘꺙꺚꺛꺜꺝꺞꺟꺠꺡꺢꺣꺤꺥꺦꺧꺨꺩꺪꺫꺬꺭꺮꺯꺰꺱꺲꺳꺴꺵꺶꺷꺸꺹꺺꺻꺿껁껂껃껅껆껇껈껉껊껋껎껒껓껔껕껖껗껚껛껝껞껟껠껡껢껣껤껥"⟩,
    ⟨0x84, 0x41, "껦껧껩껪껬껮껯껰껱껲껳껵껶껷껹껺껻껽껾껿꼀꼁꼂꼃꼄꼅\uFDD0\uFDD0\uFDD0\uFDD0\uFDD0\uFDD0꼆꼉꼊꼋꼌꼎꼏꼑꼒꼓꼔꼕꼖꼗꼘꼙꼚꼛꼜꼝꼞꼟꼠꼡꼢꼣\uFDD0\uFDD0\uFDD0\uFDD0\uFDD0\uFDD0꼤꼥꼦꼧꼨꼩꼪꼫꼮꼯꼱꼳꼵꼶꼷꼸꼹꼺꼻꼾꽀꽄꽅꽆꽇꽊꽋꽌꽍꽎꽏꽑꽒꽓꽔꽕꽖꽗꽘꽙꽚꽛꽞꽟꽠꽡꽢꽣꽦꽧꽨꽩꽪꽫꽬꽭꽮꽯꽰꽱꽲꽳꽴꽵꽶꽷꽸꽺꽻꽼꽽꽾꽿꾁꾂꾃꾅꾆꾇꾉꾊꾋꾌꾍꾎꾏꾒꾓꾔꾖꾗꾘꾙꾚꾛꾝꾞꾟꾠꾡꾢꾣꾤꾥꾦꾧꾨꾩꾪꾫꾬꾭꾮꾯꾰꾱꾲꾳꾴꾵꾶꾷꾺꾻꾽꾾"⟩,
    ⟨0x85, 0x41, "꾿꿁꿂꿃꿄꿅꿆꿊꿌꿏꿐꿑꿒꿓꿕꿖꿗꿘꿙꿚꿛꿝꿞꿟꿠꿡\uFDD0\uFDD0\uFDD0\uFDD0\uFDD0\uFDD0꿢꿣꿤꿥꿦꿧꿪꿫꿬꿭꿮꿯꿲꿳꿵꿶꿷꿹꿺꿻꿼꿽꿾꿿뀂뀃\uFDD0\uFDD0\uFDD0\uFDD0\uFDD0\uFDD0뀅뀆뀇뀈뀉뀊뀋뀍뀎뀏뀑뀒뀓뀕뀖뀗뀘뀙뀚뀛뀞뀟뀠뀡뀢뀣뀤뀥뀦뀧뀩뀪뀫뀬뀭뀮뀯뀰뀱뀲뀳뀴뀵뀶뀷뀸뀹뀺뀻뀼뀽뀾뀿끀끁끂끃끆끇끉끋끍끏끐끑끒끖끘끚끛끜끞끟끠끡끢끣끤끥끦끧끨끩끪끫끬끭끮끯끰끱끲끳끴끵끶끷끸끹끺끻끾끿낁낂낃낅낆낇낈낉낊낋낎낐낒낓낔낕낖낗낛낝낞낣낤"⟩,
    ⟨0x86, 0x41, "낥낦낧낪낰낲낶낷낹낺낻낽낾낿냀냁냂냃냆냊냋냌냍냎냏냒\uFDD0\uFDD0\uFDD0\uFDD0\uFDD0\uFDD0냓냕냖냗냙냚냛냜냝냞냟냡냢냣냤냦냧냨냩냪냫냬냭냮냯냰\uFDD0\uFDD0\uFDD0\uFDD0\uFDD0\uFDD0냱냲냳냴냵냶냷냸냹냺냻냼냽냾냿넀넁넂넃넄넅넆넇넊넍넎넏넑넔넕넖넗넚넞넟넠넡넢넦넧넩넪넫넭넮넯넰넱넲넳넶넺넻넼넽넾넿녂녃녅녆녇녉녊녋녌녍녎녏녒녓녖녗녙녚녛녝녞녟녡녢녣녤녥녦녧녨녩녪녫녬녭녮녯녰녱녲녳녴녵녶녷녺녻녽녾녿놁놃놄놅놆놇놊놌놎놏놐놑놕놖놗놙놚놛놝"⟩,
    ⟨0x87, 0x41, "놞놟놠놡놢놣놤놥놦놧놩놪놫놬놭놮놯놰놱놲놳놴놵놶놷놸\uFDD0\uFDD0\uFDD0\uFDD0\uFDD0\uFDD0놹놺놻놼놽놾놿뇀뇁뇂뇃뇄뇅뇆뇇뇈뇉뇊뇋뇍뇎뇏뇑뇒뇓뇕\uFDD0\uFDD0\uFDD0\uFDD0\uFDD0\uFDD0뇖뇗뇘뇙뇚뇛뇞뇠뇡뇢뇣뇤뇥뇦뇧뇪뇫뇭뇮뇯뇱뇲뇳뇴뇵뇶뇷뇸뇺뇼뇾뇿눀눁눂눃눆눇눉눊눍눎눏눐눑눒눓눖눘눚눛눜눝눞눟눡눢눣눤눥눦눧눨눩눪눫눬눭눮눯눰눱눲눳눵눶눷눸눹눺눻눽눾눿뉀뉁뉂뉃뉄뉅뉆뉇뉈뉉뉊뉋뉌뉍뉎뉏뉐뉑뉒뉓뉔뉕뉖뉗뉙뉚뉛뉝뉞뉟뉡뉢뉣뉤뉥뉦뉧뉪뉫뉬뉭뉮"⟩,
    ⟨0x88, 0x41, "뉯뉰뉱뉲뉳뉶뉷뉸뉹뉺뉻뉽뉾뉿늀늁늂늃늆늇늈늊늋늌늍늎\uFDD0\uFDD0\uFDD0\uFDD0\uFDD0\uFDD0늏늒늓늕늖늗늛늜늝늞늟늢늤늧늨늩늫늭늮늯늱늲늳늵늶늷\uFDD0\uFDD0\uFDD0\uFDD0\uFDD0\uFDD0늸늹늺늻늼늽늾늿닀닁닂닃닄닅닆닇닊닋닍닎닏닑닓닔닕닖닗닚닜닞닟닠닡닣닧닩닪닰닱닲닶닼닽닾댂댃댅댆댇댉댊댋댌댍댎댏댒댖댗댘댙댚댛댝댞댟댠댡댢댣댤댥댦댧댨댩댪댫댬댭댮댯댰댱댲댳댴댵댶댷댸댹댺댻댼댽댾댿덀덁덂덃덄덅덆덇덈덉덊덋덌덍덎덏덐덑덒덓덗덙덚덝덠덡덢덣"⟩,
    ⟨0x89, 0x41, "덦덨덪덬덭덯덲덳덵덶덷덹덺덻덼덽덾덿뎂뎆뎇뎈뎉뎊뎋뎍\uFDD0\uFDD0\uFDD0\uFDD0\uFDD0\uFDD0뎎뎏뎑뎒뎓뎕뎖뎗뎘뎙뎚뎛뎜뎝뎞뎟뎢뎣뎤뎥뎦뎧뎩뎪뎫뎭\uFDD0\uFDD0\uFDD0\uFDD0\uFDD0\uFDD0뎮뎯뎰뎱뎲뎳뎴뎵뎶뎷뎸뎹뎺뎻뎼뎽뎾뎿돀돁돂돃돆돇돉돊돍돏돑돒돓돖돘돚돜돞돟돡돢돣돥돦돧돩돪돫돬돭돮돯돰돱돲돳돴돵돶돷돸돹돺돻돽돾돿됀됁됂됃됄됅됆됇됈됉됊됋됌됍됎됏됑됒됓됔됕됖됗됙됚됛됝됞됟됡됢됣됤됥됦됧됪됬됭됮됯됰됱됲됳됵됶됷됸됹됺됻됼됽됾됿둀둁둂둃둄"⟩,
    ⟨0x8A, 0x41, "둅둆둇둈둉둊둋둌둍둎둏둒둓둕둖둗둙둚둛둜둝둞둟둢둤둦\uFDD0\uFDD0\uFDD0\uFDD0\uFDD0\uFDD0둧둨둩둪둫둭둮둯둰둱둲둳둴둵둶둷둸둹둺둻둼둽둾둿뒁뒂\uFDD0\uFDD0\uFDD0\uFDD0\uFDD0\uFDD0뒃뒄뒅뒆뒇뒉뒊뒋뒌뒍뒎뒏뒐뒑뒒뒓뒔뒕뒖뒗뒘뒙뒚뒛뒜뒞뒟뒠뒡뒢뒣뒥뒦뒧뒩뒪뒫뒭뒮뒯뒰뒱뒲뒳뒴뒶뒸뒺뒻뒼뒽뒾뒿듁듂듃듅듆듇듉듊듋듌듍듎듏듑듒듓듔듖듗듘듙듚듛듞듟듡듢듥듧듨듩듪듫듮듰듲듳듴듵듶듷듹듺듻듼듽듾듿딀딁딂딃딄딅딆딇딈딉딊딋딌딍딎딏딐딑딒딓딖딗딙딚딝"⟩,
    ⟨0x8B, 0x41, "딞딟딠딡딢딣딦딫딬딭딮딯딲딳딵딶딷딹딺딻딼딽딾딿땂땆\uFDD0\uFDD0\uFDD0\uFDD0\uFDD0\uFDD0땇땈땉땊땎땏땑땒땓땕땖땗땘땙땚땛땞땢땣땤땥땦땧땨땩땪\uFDD0\uFDD0\uFDD0\uFDD0\uFDD0\uFDD0땫땬땭땮땯땰땱땲땳땴땵땶땷땸땹땺땻땼땽땾땿떀떁떂떃떄떅떆떇떈떉떊떋떌떍떎떏떐떑떒떓떔떕떖떗떘떙떚떛떜떝떞떟떢떣떥떦떧떩떬떭떮떯떲떶떷떸떹떺떾떿뗁뗂뗃뗅뗆뗇뗈뗉뗊뗋뗎뗒뗓뗔뗕뗖뗗뗙뗚뗛뗜뗝뗞뗟뗠뗡뗢뗣뗤뗥뗦뗧뗨뗩뗪뗫뗭뗮뗯뗰뗱뗲뗳뗴뗵뗶뗷뗸뗹뗺뗻뗼뗽뗾뗿"⟩,
    ⟨0x8C, 0x41, "똀똁똂똃똄똅똆똇똈똉똊똋똌똍똎똏똒똓똕똖똗똙똚똛똜똝\uFDD0\uFDD0\uFDD0\uFDD0\uFDD0\uFDD0똞똟똠똡똢똣똤똦똧똨똩똪똫똭똮똯똰똱똲똳똵똶똷똸똹똺\uFDD0\uFDD0\uFDD0\uFDD0\uFDD0\uFDD0똻똼똽똾똿뙀뙁뙂뙃뙄뙅뙆뙇뙉뙊뙋뙌뙍뙎뙏뙐뙑뙒뙓뙔뙕뙖뙗뙘뙙뙚뙛뙜뙝뙞뙟뙠뙡뙢뙣뙥뙦뙧뙩뙪뙫뙬뙭뙮뙯뙰뙱뙲뙳뙴뙵뙶뙷뙸뙹뙺뙻뙼뙽뙾뙿뚀뚁뚂뚃뚄뚅뚆뚇뚈뚉뚊뚋뚌뚍뚎뚏뚐뚑뚒뚓뚔뚕뚖뚗뚘뚙뚚뚛뚞뚟뚡뚢뚣뚥뚦뚧뚨뚩뚪뚭뚮뚯뚰뚲뚳뚴뚵뚶뚷뚸뚹뚺뚻뚼뚽뚾뚿뛀뛁뛂"⟩,
    ⟨0x8D, 0x41, "뛃뛄뛅뛆뛇뛈뛉뛊뛋뛌뛍뛎뛏뛐뛑뛒뛓뛕뛖뛗뛘뛙뛚뛛뛜뛝\uFDD0\uFDD0\uFDD0\uFDD0\uFDD0\uFDD0뛞뛟뛠뛡뛢뛣뛤뛥뛦뛧뛨뛩뛪뛫뛬뛭뛮뛯뛱뛲뛳뛵뛶뛷뛹뛺\uFDD0\uFDD0\uFDD0\uFDD0\uFDD0\uFDD0뛻뛼뛽뛾뛿뜂뜃뜄뜆뜇뜈뜉뜊뜋뜌뜍뜎뜏뜐뜑뜒뜓뜔뜕뜖뜗뜘뜙뜚뜛뜜뜝뜞뜟뜠뜡뜢뜣뜤뜥뜦뜧뜪뜫뜭뜮뜱뜲뜳뜴뜵뜶뜷뜺뜼뜽뜾뜿띀띁띂띃띅띆띇띉띊띋띍띎띏띐띑띒띓띖띗띘띙띚띛띜띝띞띟띡띢띣띥띦띧띩띪띫띬띭띮띯띲띴띶띷띸띹띺띻띾띿랁랂랃랅랆랇랈랉랊랋랎랓랔랕랚랛랝랞"⟩,
    ⟨0x8E, 0x41, "랟랡랢랣랤랥랦랧랪랮랯랰랱랲랳랶랷랹랺랻랼랽랾랿럀럁\uFDD0\uFDD0\uFDD0\uFDD0\uFDD0\uFDD0럂럃럄럅럆럈럊럋럌럍럎럏럐럑럒럓럔럕럖럗럘럙럚럛럜럝\uFDD0\uFDD0\uFDD0\uFDD0\uFDD0\uFDD0럞럟럠럡럢럣럤럥럦럧럨럩럪럫럮럯럱럲럳럵럶럷럸럹럺럻럾렂렃렄렅렆렊렋렍렎렏렑렒렓렔렕렖렗렚렜렞렟렠렡렢렣렦렧렩렪렫렭렮렯렰렱렲렳렶렺렻렼렽렾렿롁롂롃롅롆롇롈롉롊롋롌롍롎롏롐롒롔롕롖롗롘롙롚롛롞롟롡롢롣롥롦롧롨롩롪롫롮롰롲롳롴롵롶롷롹롺롻롽롾롿뢀뢁뢂뢃뢄"⟩,
    ⟨0x8F, 0x41, "뢅뢆뢇뢈뢉뢊뢋뢌뢎뢏뢐뢑뢒뢓뢔뢕뢖뢗뢘뢙뢚뢛뢜뢝뢞뢟\uFDD0\uFDD0\uFDD0\uFDD0\uFDD0\uFDD0뢠뢡뢢뢣뢤뢥뢦뢧뢩뢪뢫뢬뢭뢮뢯뢱뢲뢳뢵뢶뢷뢹뢺뢻뢼뢽\uFDD0\uFDD0\uFDD0\uFDD0\uFDD0\uFDD0뢾뢿룂룄룆룇룈룉룊룋룍룎룏룑룒룓룕룖룗룘룙룚룛룜룞룠룢룣룤룥룦룧룪룫룭룮룯룱룲룳룴룵룶룷룺룼룾룿뤀뤁뤂뤃뤅뤆뤇뤈뤉뤊뤋뤌뤍뤎뤏뤐뤑뤒뤓뤔뤕뤖뤗뤙뤚뤛뤜뤝뤞뤟뤡뤢뤣뤤뤥뤦뤧뤨뤩뤪뤫뤬뤭뤮뤯뤰뤱뤲뤳뤴뤵뤶뤷뤸뤹뤺뤻뤾뤿륁륂륃륅륆륇륈륉륊륋륍륎륐륒륓륔륕륖륗"⟩,
    ⟨0x90, 0x41, "륚륛륝륞륟륡륢륣륤륥륦륧륪륬륮륯륰륱륲륳륶륷륹륺륻륽\uFDD0\uFDD0\uFDD0\uFDD0\uFDD0\uFDD0륾륿릀릁릂릃릆릈릋릌릏릐릑릒릓릔릕릖릗릘릙릚릛릜릝릞\uFDD0\uFDD0\uFDD0\uFDD0\uFDD0\uFDD0릟릠릡릢릣릤릥릦릧릨릩릪릫릮릯릱릲릳릵릶릷릸릹릺릻릾맀맂맃맄맅맆맇맊맋맍맓맔맕맖맗맚맜맟맠맢맦맧맩맪맫맭맮맯맰맱맲맳맶맻맼맽맾맿먂먃먄먅먆먇먉먊먋먌먍먎먏먐먑먒먓먔먖먗먘먙먚먛먜먝먞먟먠먡먢먣먤먥먦먧먨먩먪먫먬먭먮먯먰먱먲먳먴먵먶먷먺먻먽먾먿멁멃멄멅멆"⟩,
    ⟨0x91, 0x41, "멇멊멌멏멐멑멒멖멗멙멚멛멝멞멟멠멡멢멣멦멪멫멬멭멮멯\uFDD0\uFDD0\uFDD0\uFDD0\uFDD0\uFDD0멲멳멵멶멷멹멺멻멼멽멾멿몀몁몂몆몈몉몊몋몍몎몏몐몑몒\uFDD0\uFDD0\uFDD0\uFDD0\uFDD0\uFDD0몓몔몕몖몗몘몙몚몛몜몝몞몟몠몡몢몣몤몥몦몧몪몭몮몯몱몳몴몵몶몷몺몼몾몿뫀뫁뫂뫃뫅뫆뫇뫉뫊뫋뫌뫍뫎뫏뫐뫑뫒뫓뫔뫕뫖뫗뫚뫛뫜뫝뫞뫟뫠뫡뫢뫣뫤뫥뫦뫧뫨뫩뫪뫫뫬뫭뫮뫯뫰뫱뫲뫳뫴뫵뫶뫷뫸뫹뫺뫻뫽뫾뫿묁묂묃묅묆묇묈묉묊묋묌묎묐묒묓묔묕묖묗묙묚묛묝묞묟묡묢묣묤묥묦묧"⟩,
    ⟨0x92, 0x41, "묨묪묬묭묮묯묰묱묲묳묷묹묺묿뭀뭁뭂뭃뭆뭈뭊뭋뭌뭎뭑뭒\uFDD0\uFDD0\uFDD0\uFDD0\uFDD0\uFDD0뭓뭕뭖뭗뭙뭚뭛뭜뭝뭞뭟뭠뭢뭤뭥뭦뭧뭨뭩뭪뭫뭭뭮뭯뭰뭱\uFDD0\uFDD0\uFDD0\uFDD0\uFDD0\uFDD0뭲뭳뭴뭵뭶뭷뭸뭹뭺뭻뭼뭽뭾뭿뮀뮁뮂뮃뮄뮅뮆뮇뮉뮊뮋뮍뮎뮏뮑뮒뮓뮔뮕뮖뮗뮘뮙뮚뮛뮜뮝뮞뮟뮠뮡뮢뮣뮥뮦뮧뮩뮪뮫뮭뮮뮯뮰뮱뮲뮳뮵뮶뮸뮹뮺뮻뮼뮽뮾뮿믁믂믃믅믆믇믉믊믋믌믍믎믏믑믒믔믕믖믗믘믙믚믛믜믝믞믟믠믡믢믣믤믥믦믧믨믩믪믫믬믭믮믯믰믱믲믳믴믵믶믷믺믻믽믾밁"⟩,
    ⟨0x93, 0x41, "밃밄밅밆밇밊밎밐밒밓밙밚밠밡밢밣밦밨밪밫밬밮밯밲밳밵\uFDD0\uFDD0\uFDD0\uFDD0\uFDD0\uFDD0밶밷밹밺밻밼밽밾밿뱂뱆뱇뱈뱊뱋뱎뱏뱑뱒뱓뱔뱕뱖뱗뱘뱙\uFDD0\uFDD0\uFDD0\uFDD0\uFDD0\uFDD0뱚뱛뱜뱞뱟뱠뱡뱢뱣뱤뱥뱦뱧뱨뱩뱪뱫뱬뱭뱮뱯뱰뱱뱲뱳뱴뱵뱶뱷뱸뱹뱺뱻뱼뱽뱾뱿벀벁벂벃벆벇벉벊벍벏벐벑벒벓벖벘벛벜벝벞벟벢벣벥벦벩벪벫벬벭벮벯벲벶벷벸벹벺벻벾벿볁볂볃볅볆볇볈볉볊볋볌볎볒볓볔볖볗볙볚볛볝볞볟볠볡볢볣볤볥볦볧볨볩볪볫볬볭볮볯볰볱볲볳볷볹볺볻볽"⟩,
    ⟨0x94, 0x41, "볾볿봀봁봂봃봆봈봊봋봌봍봎봏봑봒봓봕봖봗봘봙봚봛봜봝\uFDD0\uFDD0\uFDD0\uFDD0\uFDD0\uFDD0봞봟봠봡봢봣봥봦봧봨봩봪봫봭봮봯봰봱봲봳봴봵봶봷봸봹\uFDD0\uFDD0\uFDD0\uFDD0\uFDD0\uFDD0봺봻봼봽봾봿뵁뵂뵃뵄뵅뵆뵇뵊뵋뵍뵎뵏뵑뵒뵓뵔뵕뵖뵗뵚뵛뵜뵝뵞뵟뵠뵡뵢뵣뵥뵦뵧뵩뵪뵫뵬뵭뵮뵯뵰뵱뵲뵳뵴뵵뵶뵷뵸뵹뵺뵻뵼뵽뵾뵿붂붃붅붆붋붌붍붎붏붒붔붖붗붘붛붝붞붟붠붡붢붣붥붦붧붨붩붪붫붬붭붮붯붱붲붳붴붵붶붷붹붺붻붼붽붾붿뷀뷁뷂뷃뷄뷅뷆뷇뷈뷉뷊뷋뷌뷍뷎뷏뷐뷑"⟩,
    ⟨0x95, 0x41, "뷒뷓뷖뷗뷙뷚뷛뷝뷞뷟뷠뷡뷢뷣뷤뷥뷦뷧뷨뷪뷫뷬뷭뷮뷯뷱\uFDD0\uFDD0\uFDD0\uFDD0\uFDD0\uFDD0뷲뷳뷵뷶뷷뷹뷺뷻뷼뷽뷾뷿븁븂븄븆븇븈븉븊븋븎븏븑븒븓\uFDD0\uFDD0\uFDD0\uFDD0\uFDD0\uFDD0븕븖븗븘븙븚븛븞븠븡븢븣븤븥븦븧븨븩븪븫븬븭븮븯븰븱븲븳븴븵븶븷븸븹븺븻븼븽븾븿빀빁빂빃빆빇빉빊빋빍빏빐빑빒빓빖빘빜빝빞빟빢빣빥빦빧빩빫빬빭빮빯빲빶빷빸빹빺빾빿뺁뺂뺃뺅뺆뺇뺈뺉뺊뺋뺎뺒뺓뺔뺕뺖뺗뺚뺛뺜뺝뺞뺟뺠뺡뺢뺣뺤뺥뺦뺧뺩뺪뺫뺬뺭뺮뺯뺰뺱뺲뺳뺴뺵뺶뺷"⟩,
    ⟨0x96, 0x41, "뺸뺹뺺뺻뺼뺽뺾뺿뻀뻁뻂뻃뻄뻅뻆뻇뻈뻉뻊뻋뻌뻍뻎뻏뻒뻓\uFDD0\uFDD0\uFDD0\uFDD0\uFDD0\uFDD0뻕뻖뻙뻚뻛뻜뻝뻞뻟뻡뻢뻦뻧뻨뻩뻪뻫뻭뻮뻯뻰뻱뻲뻳뻴뻵\uFDD0\uFDD0\uFDD0\uFDD0\uFDD0\uFDD0뻶뻷뻸뻹뻺뻻뻼뻽뻾뻿뼀뼂뼃뼄뼅뼆뼇뼊뼋뼌뼍뼎뼏뼐뼑뼒뼓뼔뼕뼖뼗뼚뼞뼟뼠뼡뼢뼣뼤뼥뼦뼧뼨뼩뼪뼫뼬뼭뼮뼯뼰뼱뼲뼳뼴뼵뼶뼷뼸뼹뼺뼻뼼뼽뼾뼿뽂뽃뽅뽆뽇뽉뽊뽋뽌뽍뽎뽏뽒뽓뽔뽖뽗뽘뽙뽚뽛뽜뽝뽞뽟뽠뽡뽢뽣뽤뽥뽦뽧뽨뽩뽪뽫뽬뽭뽮뽯뽰뽱뽲뽳뽴뽵뽶뽷뽸뽹뽺뽻뽼뽽뽾뽿뾀뾁뾂"⟩,
    ⟨0x97, 0x41, "뾃뾄뾅뾆뾇뾈뾉뾊뾋뾌뾍뾎뾏뾐뾑뾒뾓뾕뾖뾗뾘뾙뾚뾛뾜뾝\uFDD0\uFDD0\uFDD0\uFDD0\uFDD0\uFDD0뾞뾟뾠뾡뾢뾣뾤뾥뾦뾧뾨뾩뾪뾫뾬뾭뾮뾯뾱뾲뾳뾴뾵뾶뾷뾸\uFDD0\uFDD0\uFDD0\uFDD0\uFDD0\uFDD0뾹뾺뾻뾼뾽뾾뾿뿀뿁뿂뿃뿄뿆뿇뿈뿉뿊뿋뿎뿏뿑뿒뿓뿕뿖뿗뿘뿙뿚뿛뿝뿞뿠뿢뿣뿤뿥뿦뿧뿨뿩뿪뿫뿬뿭뿮뿯뿰뿱뿲뿳뿴뿵뿶뿷뿸뿹뿺뿻뿼뿽뿾뿿쀀쀁쀂쀃쀄쀅쀆쀇쀈쀉쀊쀋쀌쀍쀎쀏쀐쀑쀒쀓쀔쀕쀖쀗쀘쀙쀚쀛쀜쀝쀞쀟쀠쀡쀢쀣쀤쀥쀦쀧쀨쀩쀪쀫쀬쀭쀮쀯쀰쀱쀲쀳쀴쀵쀶쀷쀸쀹쀺쀻쀽쀾쀿"⟩,
    ⟨0x98, 0x41, "쁀쁁쁂쁃쁄쁅쁆쁇쁈쁉쁊쁋쁌쁍쁎쁏쁐쁒쁓쁔쁕쁖쁗쁙쁚쁛\uFDD0\uFDD0\uFDD0\uFDD0\uFDD0\uFDD0쁝쁞쁟쁡쁢쁣쁤쁥쁦쁧쁪쁫쁬쁭쁮쁯쁰쁱쁲쁳쁴쁵쁶쁷쁸쁹\uFDD0\uFDD0\uFDD0\uFDD0\uFDD0\uFDD0쁺쁻쁼쁽쁾쁿삀삁삂삃삄삅삆삇삈삉삊삋삌삍삎삏삒삓삕삖삗삙삚삛삜삝삞삟삢삤삦삧삨삩삪삫삮삱삲삷삸삹삺삻삾샂샃샄샆샇샊샋샍샎샏샑샒샓샔샕샖샗샚샞샟샠샡샢샣샦샧샩샪샫샭샮샯샰샱샲샳샶샸샺샻샼샽샾샿섁섂섃섅섆섇섉섊섋섌섍섎섏섑섒섓섔섖섗섘섙섚섛섡섢섥섨섩섪섫섮"⟩,
    ⟨0x99, 0x41, "섲섳섴섵섷섺섻섽섾섿셁셂셃셄셅셆셇셊셎셏셐셑셒셓셖셗\uFDD0\uFDD0\uFDD0\uFDD0\uFDD0\uFDD0셙셚셛셝셞셟셠셡셢셣셦셪셫셬셭셮셯셱셲셳셵셶셷셹셺셻\uFDD0\uFDD0\uFDD0\uFDD0\uFDD0\uFDD0셼셽셾셿솀솁솂솃솄솆솇솈솉솊솋솏솑솒솓솕솗솘솙솚솛솞솠솢솣솤솦솧솪솫솭솮솯솱솲솳솴솵솶솷솸솹솺솻솼솾솿쇀쇁쇂쇃쇅쇆쇇쇉쇊쇋쇍쇎쇏쇐쇑쇒쇓쇕쇖쇙쇚쇛쇜쇝쇞쇟쇡쇢쇣쇥쇦쇧쇩쇪쇫쇬쇭쇮쇯쇲쇴쇵쇶쇷쇸쇹쇺쇻쇾쇿숁숂숃숅숆숇숈숉숊숋숎숐숒숓숔숕숖숗숚숛숝숞숡숢숣"⟩,
    ⟨0x9A, 0x41, "숤숥숦숧숪숬숮숰숳숵숶숷숸숹숺숻숼숽숾숿쉀쉁쉂쉃쉄쉅\uFDD0\uFDD0\uFDD0\uFDD0\uFDD0\uFDD0쉆쉇쉉쉊쉋쉌쉍쉎쉏쉒쉓쉕쉖쉗쉙쉚쉛쉜쉝쉞쉟쉡쉢쉣쉤쉦\uFDD0\uFDD0\uFDD0\uFDD0\uFDD0\uFDD0쉧쉨쉩쉪쉫쉮쉯쉱쉲쉳쉵쉶쉷쉸쉹쉺쉻쉾슀슂슃슄슅슆슇슊슋슌슍슎슏슑슒슓슔슕슖슗슙슚슜슞슟슠슡슢슣슦슧슩슪슫슮슯슰슱슲슳슶슸슺슻슼슽슾슿싀싁싂싃싄싅싆싇싈싉싊싋싌싍싎싏싐싑싒싓싔싕싖싗싘싙싚싛싞싟싡싢싥싦싧싨싩싪싮싰싲싳싴싵싷싺싽싾싿쌁쌂쌃쌄쌅쌆쌇쌊쌋쌎쌏"⟩,
    ⟨0x9B, 0x41, "쌐쌑쌒쌖쌗쌙쌚쌛쌝쌞쌟쌠쌡쌢쌣쌦쌧쌪쌫쌬쌭쌮쌯쌰쌱쌲\uFDD0\uFDD0\uFDD0\uFDD0\uFDD0\uFDD0쌳쌴쌵쌶쌷쌸쌹쌺쌻쌼쌽쌾쌿썀썁썂썃썄썆썇썈썉썊썋썌썍\uFDD0\uFDD0\uFDD0\uFDD0\uFDD0\uFDD0썎썏썐썑썒썓썔썕썖썗썘썙썚썛썜썝썞썟썠썡썢썣썤썥썦썧썪썫썭썮썯썱썳썴썵썶썷썺썻썾썿쎀쎁쎂쎃쎅쎆쎇쎉쎊쎋쎍쎎쎏쎐쎑쎒쎓쎔쎕쎖쎗쎘쎙쎚쎛쎜쎝쎞쎟쎠쎡쎢쎣쎤쎥쎦쎧쎨쎩쎪쎫쎬쎭쎮쎯쎰쎱쎲쎳쎴쎵쎶쎷쎸쎹쎺쎻쎼쎽쎾쎿쏁쏂쏃쏄쏅쏆쏇쏈쏉쏊쏋쏌쏍쏎쏏쏐쏑쏒쏓쏔쏕쏖쏗쏚"⟩,
    ⟨0x9C, 0x41, "쏛쏝쏞쏡쏣쏤쏥쏦쏧쏪쏫쏬쏮쏯쏰쏱쏲쏳쏶쏷쏹쏺쏻쏼쏽쏾\uFDD0\uFDD0\uFDD0\uFDD0\uFDD0\uFDD0쏿쐀쐁쐂쐃쐄쐅쐆쐇쐉쐊쐋쐌쐍쐎쐏쐑쐒쐓쐔쐕쐖쐗쐘쐙쐚\uFDD0\uFDD0\uFDD0\uFDD0\uFDD0\uFDD0쐛쐜쐝쐞쐟쐠쐡쐢쐣쐥쐦쐧쐨쐩쐪쐫쐭쐮쐯쐱쐲쐳쐵쐶쐷쐸쐹쐺쐻쐾쐿쑀쑁쑂쑃쑄쑅쑆쑇쑉쑊쑋쑌쑍쑎쑏쑐쑑쑒쑓쑔쑕쑖쑗쑘쑙쑚쑛쑜쑝쑞쑟쑠쑡쑢쑣쑦쑧쑩쑪쑫쑭쑮쑯쑰쑱쑲쑳쑶쑷쑸쑺쑻쑼쑽쑾쑿쒁쒂쒃쒄쒅쒆쒇쒈쒉쒊쒋쒌쒍쒎쒏쒐쒑쒒쒓쒕쒖쒗쒘쒙쒚쒛쒝쒞쒟쒠쒡쒢쒣쒤쒥쒦쒧쒨쒩"⟩,
    ⟨0x9D, 0x41, "쒪쒫쒬쒭쒮쒯쒰쒱쒲쒳쒴쒵쒶쒷쒹쒺쒻쒽쒾쒿쓀쓁쓂쓃쓄쓅\uFDD0\uFDD0\uFDD0\uFDD0\uFDD0\uFDD0쓆쓇쓈쓉쓊쓋쓌쓍쓎쓏쓐쓑쓒쓓쓔쓕쓖쓗쓘쓙쓚쓛쓜쓝쓞쓟\uFDD0\uFDD0\uFDD0\uFDD0\uFDD0\uFDD0쓠쓡쓢쓣쓤쓥쓦쓧쓨쓪쓫쓬쓭쓮쓯쓲쓳쓵쓶쓷쓹쓻쓼쓽쓾씂씃씄씅씆씇씈씉씊씋씍씎씏씑씒씓씕씖씗씘씙씚씛씝씞씟씠씡씢씣씤씥씦씧씪씫씭씮씯씱씲씳씴씵씶씷씺씼씾씿앀앁앂앃앆앇앋앏앐앑앒앖앚앛앜앟앢앣앥앦앧앩앪앫앬앭앮앯앲앶앷앸앹앺앻앾앿얁얂얃얅얆얈얉얊얋얎얐얒얓얔"⟩,
    ⟨0x9E, 0x41, "얖얙얚얛얝얞얟얡얢얣얤얥얦얧얨얪얫얬얭얮얯얰얱얲얳얶\uFDD0\uFDD0\uFDD0\uFDD0\uFDD0\uFDD0얷얺얿엀엁엂엃엋엍엏엒엓엕엖엗엙엚엛엜엝엞엟엢엤엦엧\uFDD0\uFDD0\uFDD0\uFDD0\uFDD0\uFDD0엨엩엪엫엯엱엲엳엵엸엹엺엻옂옃옄옉옊옋옍옎옏옑옒옓옔옕옖옗옚옝옞옟옠옡옢옣옦옧옩옪옫옯옱옲옶옸옺옼옽옾옿왂왃왅왆왇왉왊왋왌왍왎왏왒왖왗왘왙왚왛왞왟왡왢왣왤왥왦왧왨왩왪왫왭왮왰왲왳왴왵왶왷왺왻왽왾왿욁욂욃욄욅욆욇욊욌욎욏욐욑욒욓욖욗욙욚욛욝욞욟욠욡욢욣욦"⟩,
    ⟨0x9F, 0x41, "욨욪욫욬욭욮욯욲욳욵욶욷욻욼욽욾욿웂웄웆웇웈웉웊웋웎\uFDD0\uFDD0\uFDD0\uFDD0\uFDD0\uFDD0웏웑웒웓웕웖웗웘웙웚웛웞웟웢웣웤웥웦웧웪웫웭웮웯웱웲\uFDD0\uFDD0\uFDD0\uFDD0\uFDD0\uFDD0웳웴웵웶웷웺웻웼웾웿윀윁윂윃윆윇윉윊윋윍윎윏윐윑윒윓윖윘윚윛윜윝윞윟윢윣윥윦윧윩윪윫윬윭윮윯윲윴윶윸윹윺윻윾윿읁읂읃읅읆읇읈읉읋읎읐읙읚읛읝읞읟읡읢읣읤읥읦읧읩읪읬읭읮읯읰읱읲읳읶읷읹읺읻읿잀잁잂잆잋잌잍잏잒잓잕잙잛잜잝잞잟잢잧잨잩잪잫잮잯잱잲잳잵잶잷"⟩,
    ⟨0xA0, 0x41, "잸잹잺잻잾쟂쟃쟄쟅쟆쟇쟊쟋쟍쟏쟑쟒쟓쟔쟕쟖쟗쟙쟚쟛쟜\uFDD0\uFDD0\uFDD0\uFDD0\uFDD0\uFDD0쟞쟟쟠쟡쟢쟣쟥쟦쟧쟩쟪쟫쟭쟮쟯쟰쟱쟲쟳쟴쟵쟶쟷쟸쟹쟺\uFDD0\uFDD0\uFDD0\uFDD0\uFDD0\uFDD0쟻쟼쟽쟾쟿젂젃젅젆젇젉젋젌젍젎젏젒젔젗젘젙젚젛젞젟젡젢젣젥젦젧젨젩젪젫젮젰젲젳젴젵젶젷젹젺젻젽젾젿졁졂졃졄졅졆졇졊졋졎졏졐졑졒졓졕졖졗졘졙졚졛졜졝졞졟졠졡졢졣졤졥졦졧졨졩졪졫졬졭졮졯졲졳졵졶졷졹졻졼졽졾졿좂좄좈좉좊좎좏좐좑좒좓좕좖좗좘좙좚좛좜좞좠좢좣좤"⟩,
    ⟨0xA1, 0x41, "좥좦좧좩좪좫좬좭좮좯좰좱좲좳좴좵좶좷좸좹좺좻좾좿죀죁\uFDD0\uFDD0\uFDD0\uFDD0\uFDD0\uFDD0죂죃죅죆죇죉죊죋죍죎죏죐죑죒죓죖죘죚죛죜죝죞죟죢죣죥\uFDD0\uFDD0\uFDD0\uFDD0\uFDD0\uFDD0죦죧죨죩죪죫죬죭죮죯죰죱죲죳죴죶죷죸죹죺죻죾죿줁줂줃줇줈줉줊줋줎\u3000、。·‥…¨〃\u00AD―∥＼∼‘’“”〔〕〈〉《》「」『』【】±×÷≠≤≥∞∴°′″℃Å￠￡￥♂♀∠⊥⌒∂∇≡≒§※☆★○●◎◇◆□■△▲▽▼→←↑↓↔〓≪≫√∽∝∵∫∬∈∋⊆⊇⊂⊃∪∩∧∨￢"⟩,
    ⟨0xA2, 0x41, "줐줒줓줔줕줖줗줙줚줛줜줝줞줟줠줡줢줣줤줥줦줧줨줩줪줫\uFDD0\uFDD0\uFDD0\uFDD0\uFDD0\uFDD0줭줮줯줰줱줲줳줵줶줷줸줹줺줻줼줽줾줿쥀쥁쥂쥃쥄쥅쥆쥇\uFDD0\uFDD0\uFDD0\uFDD0\uFDD0\uFDD0쥈쥉쥊쥋쥌쥍쥎쥏쥒쥓쥕쥖쥗쥙쥚쥛쥜쥝쥞쥟쥢쥤쥥쥦쥧쥨쥩쥪쥫쥭쥮쥯⇒⇔∀∃´～ˇ˘˝˚˙¸˛¡¿ː∮∑∏¤℉‰◁◀▷▶♤♠♡♥♧♣⊙◈▣◐◑▒▤▥▨▧▦▩♨☏☎☜☞¶†‡↕↗↙↖↘♭♩♪♬㉿㈜№㏇™㏂㏘℡€®"⟩,
    ⟨0xA3, 0x41, "쥱쥲쥳쥵쥶쥷쥸쥹쥺쥻쥽쥾쥿즀즁즂즃즄즅즆즇즊즋즍즎즏\uFDD0\uFDD0\uFDD0\uFDD0\uFDD0\uFDD0즑즒즓즔즕즖즗즚즜즞즟즠즡즢즣즤즥즦즧즨즩즪즫즬즭즮\uFDD0\uFDD0\uFDD0\uFDD0\uFDD0\uFDD0즯즰즱즲즳즴즵즶즷즸즹즺즻즼즽즾즿짂짃짅짆짉짋짌짍짎짏짒짔짗짘짛！＂＃＄％＆＇（）＊＋，－．／０１２３４５６７８９：；＜＝＞？＠ＡＢＣＤＥＦＧＨＩＪＫＬＭＮＯＰＱＲＳＴＵＶＷＸＹＺ［￦］＾＿｀ａｂｃｄｅｆｇｈｉｊｋｌｍｎｏｐｑｒｓｔｕｖｗｘｙｚ｛｜｝￣"⟩,
    ⟨0xA4, 0x41, "짞짟짡짣짥짦짨짩짪짫짮짲짳짴짵짶짷짺짻짽짾짿쨁쨂쨃쨄\uFDD0\uFDD0\uFDD0\uFDD0\uFDD0\uFDD0쨅쨆쨇쨊쨎쨏쨐쨑쨒쨓쨕쨖쨗쨙쨚쨛쨜쨝쨞쨟쨠쨡쨢쨣쨤쨥\uFDD0\uFDD0\uFDD0\uFDD0\uFDD0\uFDD0쨦쨧쨨쨪쨫쨬쨭쨮쨯쨰쨱쨲쨳쨴쨵쨶쨷쨸쨹쨺쨻쨼쨽쨾쨿쩀쩁쩂쩃쩄쩅쩆ㄱㄲㄳㄴㄵㄶㄷㄸㄹㄺㄻㄼㄽㄾㄿㅀㅁㅂㅃㅄㅅㅆㅇㅈㅉㅊㅋㅌㅍㅎㅏㅐㅑㅒㅓㅔㅕㅖㅗㅘㅙㅚㅛㅜㅝㅞㅟㅠㅡㅢㅣㅤㅥㅦㅧㅨㅩㅪㅫㅬㅭㅮㅯㅰㅱㅲㅳㅴㅵㅶㅷㅸㅹㅺㅻㅼㅽㅾㅿㆀㆁㆂㆃㆄㆅㆆㆇㆈㆉㆊㆋㆌㆍㆎ"⟩,
    ⟨0xA5, 0x41, "쩇쩈쩉쩊쩋쩎쩏쩑쩒쩓쩕쩖쩗쩘쩙쩚쩛쩞쩢쩣쩤쩥쩦쩧쩩쩪\uFDD0\uFDD0\uFDD0\uFDD0\uFDD0\uFDD0쩫쩬쩭쩮쩯쩰쩱쩲쩳쩴쩵쩶쩷쩸쩹쩺쩻쩼쩾쩿쪀쪁쪂쪃쪅쪆\uFDD0\uFDD0\uFDD0\uFDD0\uFDD0\uFDD0쪇쪈쪉쪊쪋쪌쪍쪎쪏쪐쪑쪒쪓쪔쪕쪖쪗쪙쪚쪛쪜쪝쪞쪟쪠쪡쪢쪣쪤쪥쪦쪧ⅰⅱⅲⅳⅴⅵⅶⅷⅸⅹ\uFDD0\uFDD0\uFDD0\uFDD0\uFDD0ⅠⅡⅢⅣⅤⅥⅦⅧⅨⅩ\uFDD0\uFDD0\uFDD0\uFDD0\uFDD0\uFDD0\uFDD0ΑΒΓΔΕΖΗΘΙΚΛΜΝΞΟΠΡΣΤΥΦΧΨΩ\uFDD0\uFDD0\uFDD0\uFDD0\uFDD0\uFDD0\uFDD0\uFDD0αβγδεζηθικλμνξοπρστυφχψω"⟩,
    ⟨0xA6, 0x41, "쪨쪩쪪쪫쪬쪭쪮쪯쪰쪱쪲쪳쪴쪵쪶쪷쪸쪹쪺쪻쪾쪿쫁쫂쫃쫅\uFDD0\uFDD0\uFDD0\uFDD0\uFDD0\uFDD0쫆쫇쫈쫉쫊쫋쫎쫐쫒쫔쫕쫖쫗쫚쫛쫜쫝쫞쫟쫡쫢쫣쫤쫥쫦쫧\uFDD0\uFDD0\uFDD0\uFDD0\uFDD0\uFDD0쫨쫩쫪쫫쫭쫮쫯쫰쫱쫲쫳쫵쫶쫷쫸쫹쫺쫻쫼쫽쫾쫿쬀쬁쬂쬃쬄쬅쬆쬇쬉쬊─│┌┐┘└├┬┤┴┼━┃┏┓┛┗┣┳┫┻╋┠┯┨┷┿┝┰┥┸╂┒┑┚┙┖┕┎┍┞┟┡┢┦┧┩┪┭┮┱┲┵┶┹┺┽┾╀╁╃╄╅╆╇╈╉╊"⟩,
    ⟨0xA7, 0x41, "쬋쬌쬍쬎쬏쬑쬒쬓쬕쬖쬗쬙쬚쬛쬜쬝쬞쬟쬢쬣쬤쬥쬦쬧쬨쬩\uFDD0\uFDD0\uFDD0\uFDD0\uFDD0\uFDD0쬪쬫쬬쬭쬮쬯쬰쬱쬲쬳쬴쬵쬶쬷쬸쬹쬺쬻쬼쬽쬾쬿쭀쭂쭃쭄\uFDD0\uFDD0\uFDD0\uFDD0\uFDD0\uFDD0쭅쭆쭇쭊쭋쭍쭎쭏쭑쭒쭓쭔쭕쭖쭗쭚쭛쭜쭞쭟쭠쭡쭢쭣쭥쭦쭧쭨쭩쭪쭫쭬㎕㎖㎗ℓ㎘㏄㎣㎤㎥㎦㎙㎚㎛㎜㎝㎞㎟㎠㎡㎢㏊㎍㎎㎏㏏㎈㎉㏈㎧㎨㎰㎱㎲㎳㎴㎵㎶㎷㎸㎹㎀㎁㎂㎃㎄㎺㎻㎼㎽㎾㎿㎐㎑㎒㎓㎔Ω㏀㏁㎊㎋㎌㏖㏅㎭㎮㎯㏛㎩㎪㎫㎬㏝㏐㏓㏃㏉㏜㏆"⟩,
    ⟨0xA8, 0x41, "쭭쭮쭯쭰쭱쭲쭳쭴쭵쭶쭷쭺쭻쭼쭽쭾쭿쮀쮁쮂쮃쮄쮅쮆쮇쮈\uFDD0\uFDD0\uFDD0\uFDD0\uFDD0\uFDD0쮉쮊쮋쮌쮍쮎쮏쮐쮑쮒쮓쮔쮕쮖쮗쮘쮙쮚쮛쮝쮞쮟쮠쮡쮢쮣\uFDD0\uFDD0\uFDD0\uFDD0\uFDD0\uFDD0쮤쮥쮦쮧쮨쮩쮪쮫쮬쮭쮮쮯쮰쮱쮲쮳쮴쮵쮶쮷쮹쮺쮻쮼쮽쮾쮿쯀쯁쯂쯃쯄ÆÐªĦ\uFDD0Ĳ\uFDD0ĿŁØŒºÞŦŊ\uFDD0㉠㉡㉢㉣㉤㉥㉦㉧㉨㉩㉪㉫㉬㉭㉮㉯㉰㉱㉲㉳㉴㉵㉶㉷㉸㉹㉺㉻ⓐⓑⓒⓓⓔⓕⓖⓗⓘⓙⓚⓛⓜⓝⓞⓟⓠⓡⓢⓣⓤⓥⓦⓧⓨⓩ①②③④⑤⑥⑦⑧⑨⑩⑪⑫⑬⑭⑮½⅓⅔¼¾⅛⅜⅝⅞"⟩,
    ⟨0xA9, 0x41, "쯅쯆쯇쯈쯉쯊쯋쯌쯍쯎쯏쯐쯑쯒쯓쯕쯖쯗쯘쯙쯚쯛쯜쯝쯞쯟\uFDD0\uFDD0\uFDD0\uFDD0\uFDD0\uFDD0쯠쯡쯢쯣쯥쯦쯨쯪쯫쯬쯭쯮쯯쯰쯱쯲쯳쯴쯵쯶쯷쯸쯹쯺쯻쯼\uFDD0\uFDD0\uFDD0\uFDD0\uFDD0\uFDD0쯽쯾쯿찀찁찂찃찄찅찆찇찈찉찊찋찎찏찑찒찓찕찖찗찘찙찚찛찞찟찠찣찤æđðħıĳĸŀłøœßþŧŋŉ㈀㈁㈂㈃㈄㈅㈆㈇㈈㈉㈊㈋㈌㈍㈎㈏㈐㈑㈒㈓㈔㈕㈖㈗㈘㈙㈚㈛⒜⒝⒞⒟⒠⒡⒢⒣⒤⒥⒦⒧⒨⒩⒪⒫⒬⒭⒮⒯⒰⒱⒲⒳⒴⒵⑴⑵⑶⑷⑸⑹⑺⑻⑼⑽⑾⑿⒀⒁⒂¹²³⁴ⁿ₁₂₃₄"⟩,
    ⟨0xAA, 0x41, "찥찦찪찫찭찯찱찲찳찴찵찶찷찺찿챀챁챂챃챆챇챉챊챋챍챎\uFDD0\uFDD0\uFDD0\uFDD0\uFDD0\uFDD0챏챐챑챒챓챖챚챛챜챝챞챟챡챢챣챥챧챩챪챫챬챭챮챯챱챲\uFDD0\uFDD0\uFDD0\uFDD0\uFDD0\uFDD0챳챴챶챷챸챹챺챻챼챽챾챿첀첁첂첃첄첅첆첇첈첉첊첋첌첍첎첏첐첑첒첓ぁあぃいぅうぇえぉおかがきぎくぐけげこごさざしじすずせぜそぞただちぢっつづてでとどなにぬねのはばぱひびぴふぶぷへべぺほぼぽまみむめもゃやゅゆょよらりるれろゎわゐゑをん"⟩,
    ⟨0xAB, 0x41, "첔첕첖첗첚첛첝첞첟첡첢첣첤첥첦첧첪첮첯첰첱첲첳첶첷첹\uFDD0\uFDD0\uFDD0\uFDD0\uFDD0\uFDD0첺첻첽첾첿쳀쳁쳂쳃쳆쳈쳊쳋쳌쳍쳎쳏쳑쳒쳓쳕쳖쳗쳘쳙쳚\uFDD0\uFDD0\uFDD0\uFDD0\uFDD0\uFDD0쳛쳜쳝쳞쳟쳠쳡쳢쳣쳥쳦쳧쳨쳩쳪쳫쳭쳮쳯쳱쳲쳳쳴쳵쳶쳷쳸쳹쳺쳻쳼쳽ァアィイゥウェエォオカガキギクグケゲコゴサザシジスズセゼソゾタダチヂッツヅテデトドナニヌネノハバパヒビピフブプヘベペホボポマミムメモャヤュユョヨラリルレロヮワヰヱヲンヴヵヶ"⟩,
    ⟨0xAC, 0x41, "쳾쳿촀촂촃촄촅촆촇촊촋촍촎촏촑촒촓촔촕촖촗촚촜촞촟촠\uFDD0\uFDD0\uFDD0\uFDD0\uFDD0\uFDD0촡촢촣촥촦촧촩촪촫촭촮촯촰촱촲촳촴촵촶촷촸촺촻촼촽촾\uFDD0\uFDD0\uFDD0\uFDD0\uFDD0\uFDD0촿쵀쵁쵂쵃쵄쵅쵆쵇쵈쵉쵊쵋쵌쵍쵎쵏쵐쵑쵒쵓쵔쵕쵖쵗쵘쵙쵚쵛쵝쵞쵟АБВГДЕЁЖЗИЙКЛМНОПРСТУФХЦЧШЩЪЫЬЭЮЯ\uFDD0\uFDD0\uFDD0\uFDD0\uFDD0\uFDD0\uFDD0\uFDD0\uFDD0\uFDD0\uFDD0\uFDD0\uFDD0\uFDD0\uFDD0абвгдеёжзийклмнопрстуфхцчшщъыьэюя"⟩,
    ⟨0xAD, 0x41, "쵡쵢쵣쵥쵦쵧쵨쵩쵪쵫쵮쵰쵲쵳쵴쵵쵶쵷쵹쵺쵻쵼쵽쵾쵿춀\uFDD0\uFDD0\uFDD0\uFDD0\uFDD0\uFDD0춁춂춃춄춅춆춇춉춊춋춌춍춎춏춐춑춒춓춖춗춙춚춛춝춞춟\uFDD0\uFDD0\uFDD0\uFDD0\uFDD0\uFDD0춠춡춢춣춦춨춪춫춬춭춮춯춱춲춳춴춵춶춷춸춹춺춻춼춽춾춿췀췁췂췃췅"⟩,
    ⟨0xAE, 0x41, "췆췇췈췉췊췋췍췎췏췑췒췓췔췕췖췗췘췙췚췛췜췝췞췟췠췡\uFDD0\uFDD0\uFDD0\uFDD0\uFDD0\uFDD0췢췣췤췥췦췧췩췪췫췭췮췯췱췲췳췴췵췶췷췺췼췾췿츀츁츂\uFDD0\uFDD0\uFDD0\uFDD0\uFDD0\uFDD0츃츅츆츇츉츊츋츍츎츏츐츑츒츓츕츖츗츘츚츛츜츝츞츟츢츣츥츦츧츩츪츫"⟩,
    ⟨0xAF, 0x41, "츬츭츮츯츲츴츶츷츸츹츺츻츼츽츾츿칀칁칂칃칄칅칆칇칈칉\uFDD0\uFDD0\uFDD0\uFDD0\uFDD0\uFDD0칊칋칌칍칎칏칐칑칒칓칔칕칖칗칚칛칝칞칢칣칤칥칦칧칪칬\uFDD0\uFDD0\uFDD0\uFDD0\uFDD0\uFDD0칮칯칰칱칲칳칶칷칹칺칻칽칾칿캀캁캂캃캆캈캊캋캌캍캎캏캒캓캕캖캗캙"⟩,
    ⟨0xB0, 0x41, "캚캛캜캝캞캟캢캦캧캨캩캪캫캮캯캰캱캲캳캴캵캶캷캸캹캺\uFDD0\uFDD0\uFDD0\uFDD0\uFDD0\uFDD0캻캼캽캾캿컀컂컃컄컅컆컇컈컉컊컋컌컍컎컏컐컑컒컓컔컕\uFDD0\uFDD0\uFDD0\uFDD0\uFDD0\uFDD0컖컗컘컙컚컛컜컝컞컟컠컡컢컣컦컧컩컪컭컮컯컰컱컲컳컶컺컻컼컽컾컿가각간갇갈갉갊감갑값갓갔강갖갗같갚갛개객갠갤갬갭갯갰갱갸갹갼걀걋걍걔걘걜거걱건걷걸걺검겁것겄겅겆겉겊겋게겐겔겜겝겟겠겡겨격겪견겯결겸겹겻겼경곁계곈곌곕곗고곡곤곧골곪곬곯곰곱곳공곶과곽관괄괆"⟩,
    ⟨0xB1, 0x41, "켂켃켅켆켇켉켊켋켌켍켎켏켒켔켖켗켘켙켚켛켝켞켟켡켢켣\uFDD0\uFDD0\uFDD0\uFDD0\uFDD0\uFDD0켥켦켧켨켩켪켫켮켲켳켴켵켶켷켹켺켻켼켽켾켿콀콁콂콃콄\uFDD0\uFDD0\uFDD0\uFDD0\uFDD0\uFDD0콅콆콇콈콉콊콋콌콍콎콏콐콑콒콓콖콗콙콚콛콝콞콟콠콡콢콣콦콨콪콫콬괌괍괏광괘괜괠괩괬괭괴괵괸괼굄굅굇굉교굔굘굡굣구국군굳굴굵굶굻굼굽굿궁궂궈궉권궐궜궝궤궷귀귁귄귈귐귑귓규균귤그극근귿글긁금급긋긍긔기긱긴긷길긺김깁깃깅깆깊까깍깎깐깔깖깜깝깟깠깡깥깨깩깬깰깸"⟩,
    ⟨0xB2, 0x41, "콭콮콯콲콳콵콶콷콹콺콻콼콽콾콿쾁쾂쾃쾄쾆쾇쾈쾉쾊쾋쾍\uFDD0\uFDD0\uFDD0\uFDD0\uFDD0\uFDD0쾎쾏쾐쾑쾒쾓쾔쾕쾖쾗쾘쾙쾚쾛쾜쾝쾞쾟쾠쾢쾣쾤쾥쾦쾧쾩\uFDD0\uFDD0\uFDD0\uFDD0\uFDD0\uFDD0쾪쾫쾬쾭쾮쾯쾱쾲쾳쾴쾵쾶쾷쾸쾹쾺쾻쾼쾽쾾쾿쿀쿁쿂쿃쿅쿆쿇쿈쿉쿊쿋깹깻깼깽꺄꺅꺌꺼꺽꺾껀껄껌껍껏껐껑께껙껜껨껫껭껴껸껼꼇꼈꼍꼐꼬꼭꼰꼲꼴꼼꼽꼿꽁꽂꽃꽈꽉꽐꽜꽝꽤꽥꽹꾀꾄꾈꾐꾑꾕꾜꾸꾹꾼꿀꿇꿈꿉꿋꿍꿎꿔꿜꿨꿩꿰꿱꿴꿸뀀뀁뀄뀌뀐뀔뀜뀝뀨끄끅끈끊끌끎끓끔끕끗끙"⟩,
    ⟨0xB3, 0x41, "쿌쿍쿎쿏쿐쿑쿒쿓쿔쿕쿖쿗쿘쿙쿚쿛쿜쿝쿞쿟쿢쿣쿥쿦쿧쿩\uFDD0\uFDD0\uFDD0\uFDD0\uFDD0\uFDD0쿪쿫쿬쿭쿮쿯쿲쿴쿶쿷쿸쿹쿺쿻쿽쿾쿿퀁퀂퀃퀅퀆퀇퀈퀉퀊\uFDD0\uFDD0\uFDD0\uFDD0\uFDD0\uFDD0퀋퀌퀍퀎퀏퀐퀒퀓퀔퀕퀖퀗퀙퀚퀛퀜퀝퀞퀟퀠퀡퀢퀣퀤퀥퀦퀧퀨퀩퀪퀫퀬끝끼끽낀낄낌낍낏낑나낙낚난낟날낡낢남납낫났낭낮낯낱낳내낵낸낼냄냅냇냈냉냐냑냔냘냠냥너넉넋넌널넒넓넘넙넛넜넝넣네넥넨넬넴넵넷넸넹녀녁년녈념녑녔녕녘녜녠노녹논놀놂놈놉놋농높놓놔놘놜놨뇌뇐뇔뇜뇝"⟩,
    ⟨0xB4, 0x41, "퀮퀯퀰퀱퀲퀳퀶퀷퀹퀺퀻퀽퀾퀿큀큁큂큃큆큈큊큋큌큍큎큏\uFDD0\uFDD0\uFDD0\uFDD0\uFDD0\uFDD0큑큒큓큕큖큗큙큚큛큜큝큞큟큡큢큣큤큥큦큧큨큩큪큫큮큯\uFDD0\uFDD0\uFDD0\uFDD0\uFDD0\uFDD0큱큲큳큵큶큷큸큹큺큻큾큿킀킂킃킄킅킆킇킈킉킊킋킌킍킎킏킐킑킒킓킔뇟뇨뇩뇬뇰뇹뇻뇽누눅눈눋눌눔눕눗눙눠눴눼뉘뉜뉠뉨뉩뉴뉵뉼늄늅늉느늑는늘늙늚늠늡늣능늦늪늬늰늴니닉닌닐닒님닙닛닝닢다닥닦단닫달닭닮닯닳담답닷닸당닺닻닿대댁댄댈댐댑댓댔댕댜더덕덖던덛덜덞덟덤덥"⟩,
    ⟨0xB5, 0x41, "킕킖킗킘킙킚킛킜킝킞킟킠킡킢킣킦킧킩킪킫킭킮킯킰킱킲\uFDD0\uFDD0\uFDD0\uFDD0\uFDD0\uFDD0킳킶킸킺킻킼킽킾킿탂탃탅탆탇탊탋탌탍탎탏탒탖탗탘탙탚\uFDD0\uFDD0\uFDD0\uFDD0\uFDD0\uFDD0탛탞탟탡탢탣탥탦탧탨탩탪탫탮탲탳탴탵탶탷탹탺탻탼탽탾탿턀턁턂턃턄덧덩덫덮데덱덴델뎀뎁뎃뎄뎅뎌뎐뎔뎠뎡뎨뎬도독돈돋돌돎돐돔돕돗동돛돝돠돤돨돼됐되된될됨됩됫됴두둑둔둘둠둡둣둥둬뒀뒈뒝뒤뒨뒬뒵뒷뒹듀듄듈듐듕드득든듣들듦듬듭듯등듸디딕딘딛딜딤딥딧딨딩딪따딱딴딸"⟩,
    ⟨0xB6, 0x41, "턅턆턇턈턉턊턋턌턎턏턐턑턒턓턔턕턖턗턘턙턚턛턜턝턞턟\uFDD0\uFDD0\uFDD0\uFDD0\uFDD0\uFDD0턠턡턢턣턤턥턦턧턨턩턪턫턬턭턮턯턲턳턵턶턷턹턻턼턽턾\uFDD0\uFDD0\uFDD0\uFDD0\uFDD0\uFDD0턿텂텆텇텈텉텊텋텎텏텑텒텓텕텖텗텘텙텚텛텞텠텢텣텤텥텦텧텩텪텫텭땀땁땃땄땅땋때땍땐땔땜땝땟땠땡떠떡떤떨떪떫떰떱떳떴떵떻떼떽뗀뗄뗌뗍뗏뗐뗑뗘뗬또똑똔똘똥똬똴뙈뙤뙨뚜뚝뚠뚤뚫뚬뚱뛔뛰뛴뛸뜀뜁뜅뜨뜩뜬뜯뜰뜸뜹뜻띄띈띌띔띕띠띤띨띰띱띳띵라락란랄람랍랏랐랑랒랖랗"⟩,
    ⟨0xB7, 0x41, "텮텯텰텱텲텳텴텵텶텷텸텹텺텻텽텾텿톀톁톂톃톅톆톇톉톊\uFDD0\uFDD0\uFDD0\uFDD0\uFDD0\uFDD0톋톌톍톎톏톐톑톒톓톔톕톖톗톘톙톚톛톜톝톞톟톢톣톥톦톧\uFDD0\uFDD0\uFDD0\uFDD0\uFDD0\uFDD0톩톪톫톬톭톮톯톲톴톶톷톸톹톻톽톾톿퇁퇂퇃퇄퇅퇆퇇퇈퇉퇊퇋퇌퇍퇎퇏래랙랜랠램랩랫랬랭랴략랸럇량러럭런럴럼럽럿렀렁렇레렉렌렐렘렙렛렝려력련렬렴렵렷렸령례롄롑롓로록론롤롬롭롯롱롸롼뢍뢨뢰뢴뢸룀룁룃룅료룐룔룝룟룡루룩룬룰룸룹룻룽뤄뤘뤠뤼뤽륀륄륌륏륑류륙륜률륨륩"⟩,
    ⟨0xB8, 0x41, "퇐퇑퇒퇓퇔퇕퇖퇗퇙퇚퇛퇜퇝퇞퇟퇠퇡퇢퇣퇤퇥퇦퇧퇨퇩퇪\uFDD0\uFDD0\uFDD0\uFDD0\uFDD0\uFDD0퇫퇬퇭퇮퇯퇰퇱퇲퇳퇵퇶퇷퇹퇺퇻퇼퇽퇾퇿툀툁툂툃툄툅툆\uFDD0\uFDD0\uFDD0\uFDD0\uFDD0\uFDD0툈툊툋툌툍툎툏툑툒툓툔툕툖툗툘툙툚툛툜툝툞툟툠툡툢툣툤툥툦툧툨툩륫륭르륵른를름릅릇릉릊릍릎리릭린릴림립릿링마막만많맏말맑맒맘맙맛망맞맡맣매맥맨맬맴맵맷맸맹맺먀먁먈먕머먹먼멀멂멈멉멋멍멎멓메멕멘멜멤멥멧멨멩며멱면멸몃몄명몇몌모목몫몬몰몲몸몹못몽뫄뫈뫘뫙뫼"⟩,
    ⟨0xB9, 0x41, "툪툫툮툯툱툲툳툵툶툷툸툹툺툻툾퉀퉂퉃퉄퉅퉆퉇퉉퉊퉋퉌\uFDD0\uFDD0\uFDD0\uFDD0\uFDD0\uFDD0퉍퉎퉏퉐퉑퉒퉓퉔퉕퉖퉗퉘퉙퉚퉛퉝퉞퉟퉠퉡퉢퉣퉥퉦퉧퉨\uFDD0\uFDD0\uFDD0\uFDD0\uFDD0\uFDD0퉩퉪퉫퉬퉭퉮퉯퉰퉱퉲퉳퉴퉵퉶퉷퉸퉹퉺퉻퉼퉽퉾퉿튂튃튅튆튇튉튊튋튌묀묄묍묏묑묘묜묠묩묫무묵묶문묻물묽묾뭄뭅뭇뭉뭍뭏뭐뭔뭘뭡뭣뭬뮈뮌뮐뮤뮨뮬뮴뮷므믄믈믐믓미믹민믿밀밂밈밉밋밌밍및밑바박밖밗반받발밝밞밟밤밥밧방밭배백밴밸뱀뱁뱃뱄뱅뱉뱌뱍뱐뱝버벅번벋벌벎범법벗"⟩,
    ⟨0xBA, 0x41, "튍튎튏튒튓튔튖튗튘튙튚튛튝튞튟튡튢튣튥튦튧튨튩튪튫튭\uFDD0\uFDD0\uFDD0\uFDD0\uFDD0\uFDD0튮튯튰튲튳튴튵튶튷튺튻튽튾틁틃틄틅틆틇틊틌틍틎틏틐틑\uFDD0\uFDD0\uFDD0\uFDD0\uFDD0\uFDD0틒틓틕틖틗틙틚틛틝틞틟틠틡틢틣틦틧틨틩틪틫틬틭틮틯틲틳틵틶틷틹틺벙벚베벡벤벧벨벰벱벳벴벵벼벽변별볍볏볐병볕볘볜보복볶본볼봄봅봇봉봐봔봤봬뵀뵈뵉뵌뵐뵘뵙뵤뵨부북분붇불붉붊붐붑붓붕붙붚붜붤붰붸뷔뷕뷘뷜뷩뷰뷴뷸븀븃븅브븍븐블븜븝븟비빅빈빌빎빔빕빗빙빚빛빠빡빤"⟩,
    ⟨0xBB, 0x41, "틻틼틽틾틿팂팄팆팇팈팉팊팋팏팑팒팓팕팗팘팙팚팛팞팢팣\uFDD0\uFDD0\uFDD0\uFDD0\uFDD0\uFDD0팤팦팧팪팫팭팮팯팱팲팳팴팵팶팷팺팾팿퍀퍁퍂퍃퍆퍇퍈퍉\uFDD0\uFDD0\uFDD0\uFDD0\uFDD0\uFDD0퍊퍋퍌퍍퍎퍏퍐퍑퍒퍓퍔퍕퍖퍗퍘퍙퍚퍛퍜퍝퍞퍟퍠퍡퍢퍣퍤퍥퍦퍧퍨퍩빨빪빰빱빳빴빵빻빼빽뺀뺄뺌뺍뺏뺐뺑뺘뺙뺨뻐뻑뻔뻗뻘뻠뻣뻤뻥뻬뼁뼈뼉뼘뼙뼛뼜뼝뽀뽁뽄뽈뽐뽑뽕뾔뾰뿅뿌뿍뿐뿔뿜뿟뿡쀼쁑쁘쁜쁠쁨쁩삐삑삔삘삠삡삣삥사삭삯산삳살삵삶삼삽삿샀상샅새색샌샐샘샙샛샜생샤"⟩,
    ⟨0xBC, 0x41, "퍪퍫퍬퍭퍮퍯퍰퍱퍲퍳퍴퍵퍶퍷퍸퍹퍺퍻퍾퍿펁펂펃펅펆펇\uFDD0\uFDD0\uFDD0\uFDD0\uFDD0\uFDD0펈펉펊펋펎펒펓펔펕펖펗펚펛펝펞펟펡펢펣펤펥펦펧펪펬펮\uFDD0\uFDD0\uFDD0\uFDD0\uFDD0\uFDD0펯펰펱펲펳펵펶펷펹펺펻펽펾펿폀폁폂폃폆폇폊폋폌폍폎폏폑폒폓폔폕폖샥샨샬샴샵샷샹섀섄섈섐섕서석섞섟선섣설섦섧섬섭섯섰성섶세섹센셀셈셉셋셌셍셔셕션셜셤셥셧셨셩셰셴셸솅소속솎손솔솖솜솝솟송솥솨솩솬솰솽쇄쇈쇌쇔쇗쇘쇠쇤쇨쇰쇱쇳쇼쇽숀숄숌숍숏숑수숙순숟술숨숩숫숭"⟩,
    ⟨0xBD, 0x41, "폗폙폚폛폜폝폞폟폠폢폤폥폦폧폨폩폪폫폮폯폱폲폳폵폶폷\uFDD0\uFDD0\uFDD0\uFDD0\uFDD0\uFDD0폸폹폺폻폾퐀퐂퐃퐄퐅퐆퐇퐉퐊퐋퐌퐍퐎퐏퐐퐑퐒퐓퐔퐕퐖\uFDD0\uFDD0\uFDD0\uFDD0\uFDD0\uFDD0퐗퐘퐙퐚퐛퐜퐞퐟퐠퐡퐢퐣퐤퐥퐦퐧퐨퐩퐪퐫퐬퐭퐮퐯퐰퐱퐲퐳퐴퐵퐶퐷숯숱숲숴쉈쉐쉑쉔쉘쉠쉥쉬쉭쉰쉴쉼쉽쉿슁슈슉슐슘슛슝스슥슨슬슭슴습슷승시식신싣실싫심십싯싱싶싸싹싻싼쌀쌈쌉쌌쌍쌓쌔쌕쌘쌜쌤쌥쌨쌩썅써썩썬썰썲썸썹썼썽쎄쎈쎌쏀쏘쏙쏜쏟쏠쏢쏨쏩쏭쏴쏵쏸쐈쐐쐤쐬쐰"⟩,
    ⟨0xBE, 0x41, "퐸퐹퐺퐻퐼퐽퐾퐿푁푂푃푅푆푇푈푉푊푋푌푍푎푏푐푑푒푓\uFDD0\uFDD0\uFDD0\uFDD0\uFDD0\uFDD0푔푕푖푗푘푙푚푛푝푞푟푡푢푣푥푦푧푨푩푪푫푬푮푰푱푲\uFDD0\uFDD0\uFDD0\uFDD0\uFDD0\uFDD0푳푴푵푶푷푺푻푽푾풁풃풄풅풆풇풊풌풎풏풐풑풒풓풕풖풗풘풙풚풛풜풝쐴쐼쐽쑈쑤쑥쑨쑬쑴쑵쑹쒀쒔쒜쒸쒼쓩쓰쓱쓴쓸쓺쓿씀씁씌씐씔씜씨씩씬씰씸씹씻씽아악안앉않알앍앎앓암압앗았앙앝앞애액앤앨앰앱앳앴앵야약얀얄얇얌얍얏양얕얗얘얜얠얩어억언얹얻얼얽얾엄업없엇었엉엊엌엎"⟩,
    ⟨0xBF, 0x41, "풞풟풠풡풢풣풤풥풦풧풨풪풫풬풭풮풯풰풱풲풳풴풵풶풷풸\uFDD0\uFDD0\uFDD0\uFDD0\uFDD0\uFDD0풹풺풻풼풽풾풿퓀퓁퓂퓃퓄퓅퓆퓇퓈퓉퓊퓋퓍퓎퓏퓑퓒퓓퓕\uFDD0\uFDD0\uFDD0\uFDD0\uFDD0\uFDD0퓖퓗퓘퓙퓚퓛퓝퓞퓠퓡퓢퓣퓤퓥퓦퓧퓩퓪퓫퓭퓮퓯퓱퓲퓳퓴퓵퓶퓷퓹퓺퓼에엑엔엘엠엡엣엥여역엮연열엶엷염엽엾엿였영옅옆옇예옌옐옘옙옛옜오옥온올옭옮옰옳옴옵옷옹옻와왁완왈왐왑왓왔왕왜왝왠왬왯왱외왹왼욀욈욉욋욍요욕욘욜욤욥욧용우욱운울욹욺움웁웃웅워웍원월웜웝웠웡웨"⟩,
    ⟨0xC0, 0x41, "퓾퓿픀픁픂픃픅픆픇픉픊픋픍픎픏픐픑픒픓픖픘픙픚픛픜픝\uFDD0\uFDD0\uFDD0\uFDD0\uFDD0\uFDD0픞픟픠픡픢픣픤픥픦픧픨픩픪픫픬픭픮픯픰픱픲픳픴픵픶픷\uFDD0\uFDD0\uFDD0\uFDD0\uFDD0\uFDD0픸픹픺픻픾픿핁핂핃핅핆핇핈핉핊핋핎핐핒핓핔핕핖핗핚핛핝핞핟핡핢핣웩웬웰웸웹웽위윅윈윌윔윕윗윙유육윤율윰윱윳융윷으윽은을읊음읍읏응읒읓읔읕읖읗의읜읠읨읫이익인일읽읾잃임입잇있잉잊잎자작잔잖잗잘잚잠잡잣잤장잦재잭잰잴잼잽잿쟀쟁쟈쟉쟌쟎쟐쟘쟝쟤쟨쟬저적전절젊"⟩,
    ⟨0xC1, 0x41, "핤핦핧핪핬핮핯핰핱핲핳핶핷핹핺핻핽핾핿햀햁햂햃햆햊햋\uFDD0\uFDD0\uFDD0\uFDD0\uFDD0\uFDD0햌햍햎햏햑햒햓햔햕햖햗햘햙햚햛햜햝햞햟햠햡햢햣햤햦햧\uFDD0\uFDD0\uFDD0\uFDD0\uFDD0\uFDD0햨햩햪햫햬햭햮햯햰햱햲햳햴햵햶햷햸햹햺햻햼햽햾햿헀헁헂헃헄헅헆헇점접젓정젖제젝젠젤젬젭젯젱져젼졀졈졉졌졍졔조족존졸졺좀좁좃종좆좇좋좌좍좔좝좟좡좨좼좽죄죈죌죔죕죗죙죠죡죤죵주죽준줄줅줆줌줍줏중줘줬줴쥐쥑쥔쥘쥠쥡쥣쥬쥰쥴쥼즈즉즌즐즘즙즛증지직진짇질짊짐집짓"⟩,
    ⟨0xC2, 0x41, "헊헋헍헎헏헑헓헔헕헖헗헚헜헞헟헠헡헢헣헦헧헩헪헫헭헮\uFDD0\uFDD0\uFDD0\uFDD0\uFDD0\uFDD0헯헰헱헲헳헶헸헺헻헼헽헾헿혂혃혅혆혇혉혊혋혌혍혎혏혒\uFDD0\uFDD0\uFDD0\uFDD0\uFDD0\uFDD0혖혗혘혙혚혛혝혞혟혡혢혣혥혦혧혨혩혪혫혬혮혯혰혱혲혳혴혵혶혷혺혻징짖짙짚짜짝짠짢짤짧짬짭짯짰짱째짹짼쨀쨈쨉쨋쨌쨍쨔쨘쨩쩌쩍쩐쩔쩜쩝쩟쩠쩡쩨쩽쪄쪘쪼쪽쫀쫄쫌쫍쫏쫑쫓쫘쫙쫠쫬쫴쬈쬐쬔쬘쬠쬡쭁쭈쭉쭌쭐쭘쭙쭝쭤쭸쭹쮜쮸쯔쯤쯧쯩찌찍찐찔찜찝찡찢찧차착찬찮찰참찹찻"⟩,
    ⟨0xC3, 0x41, "혽혾혿홁홂홃홄홆홇홊홌홎홏홐홒홓홖홗홙홚홛홝홞홟홠홡\uFDD0\uFDD0\uFDD0\uFDD0\uFDD0\uFDD0홢홣홤홥홦홨홪홫홬홭홮홯홲홳홵홶홷홸홹홺홻홼홽홾홿횀\uFDD0\uFDD0\uFDD0\uFDD0\uFDD0\uFDD0횁횂횄횆횇횈횉횊횋횎횏횑횒횓횕횖횗횘횙횚횛횜횞횠횢횣횤횥횦횧횩횪찼창찾채책챈챌챔챕챗챘챙챠챤챦챨챰챵처척천철첨첩첫첬청체첵첸첼쳄쳅쳇쳉쳐쳔쳤쳬쳰촁초촉촌촐촘촙촛총촤촨촬촹최쵠쵤쵬쵭쵯쵱쵸춈추축춘출춤춥춧충춰췄췌췐취췬췰췸췹췻췽츄츈츌츔츙츠측츤츨츰츱츳층"⟩,
    ⟨0xC4, 0x41, "횫횭횮횯횱횲횳횴횵횶횷횸횺횼횽횾횿훀훁훂훃훆훇훉훊훋\uFDD0\uFDD0\uFDD0\uFDD0\uFDD0\uFDD0훍훎훏훐훒훓훕훖훘훚훛훜훝훞훟훡훢훣훥훦훧훩훪훫훬훭\uFDD0\uFDD0\uFDD0\uFDD0\uFDD0\uFDD0훮훯훱훲훳훴훶훷훸훹훺훻훾훿휁휂휃휅휆휇휈휉휊휋휌휍휎휏휐휒휓휔치칙친칟칠칡침칩칫칭카칵칸칼캄캅캇캉캐캑캔캘캠캡캣캤캥캬캭컁커컥컨컫컬컴컵컷컸컹케켁켄켈켐켑켓켕켜켠켤켬켭켯켰켱켸코콕콘콜콤콥콧콩콰콱콴콸쾀쾅쾌쾡쾨쾰쿄쿠쿡쿤쿨쿰쿱쿳쿵쿼퀀퀄퀑퀘퀭퀴퀵퀸퀼"⟩,
    ⟨0xC5, 0x41, "휕휖휗휚휛휝휞휟휡휢휣휤휥휦휧휪휬휮휯휰휱휲휳휶휷휹\uFDD0\uFDD0\uFDD0\uFDD0\uFDD0\uFDD0휺휻휽휾휿흀흁흂흃흅흆흈흊흋흌흍흎흏흒흓흕흚흛흜흝흞\uFDD0\uFDD0\uFDD0\uFDD0\uFDD0\uFDD0흟흢흤흦흧흨흪흫흭흮흯흱흲흳흵흶흷흸흹흺흻흾흿힀힂힃힄힅힆힇힊힋큄큅큇큉큐큔큘큠크큭큰클큼큽킁키킥킨킬킴킵킷킹타탁탄탈탉탐탑탓탔탕태택탠탤탬탭탯탰탱탸턍터턱턴털턺텀텁텃텄텅테텍텐텔템텝텟텡텨텬텼톄톈토톡톤톨톰톱톳통톺톼퇀퇘퇴퇸툇툉툐투툭툰툴툼툽툿퉁퉈퉜"⟩,
    ⟨0xC6, 0x41, "힍힎힏힑힒힓힔힕힖힗힚힜힞힟힠힡힢힣\uFDD0\uFDD0\uFDD0\uFDD0\uFDD0\uFDD0\uFDD0\uFDD0\uFDD0\uFDD0\uFDD0\uFDD0\uFDD0\uFDD0\uFDD0\uFDD0\uFDD0\uFDD0\uFDD0\uFDD0\uFDD0\uFDD0\uFDD0\uFDD0\uFDD0\uFDD0\uFDD0\uFDD0\uFDD0\uFDD0\uFDD0\uFDD0\uFDD0\uFDD0\uFDD0\uFDD0\uFDD0\uFDD0\uFDD0\uFDD0\uFDD0\uFDD0\uFDD0\uFDD0\uFDD0\uFDD0\uFDD0\uFDD0\uFDD0\uFDD0\uFDD0\uFDD0\uFDD0\uFDD0\uFDD0\uFDD0\uFDD0\uFDD0\uFDD0\uFDD0\uFDD0\uFDD0\uFDD0\uFDD0\uFDD0\uFDD0\uFDD0\uFDD0\uFDD0\uFDD0\uFDD0\uFDD0\uFDD0\uFDD0\uFDD0\uFDD0\uFDD0\uFDD0퉤튀튁튄튈튐튑튕튜튠튤튬튱트특튼튿틀틂틈틉틋틔틘틜틤틥티틱틴틸팀팁팃팅파팍팎판팔팖팜팝팟팠팡팥패팩팬팰팸팹팻팼팽퍄퍅퍼퍽펀펄펌펍펏펐펑페펙펜펠펨펩펫펭펴편펼폄폅폈평폐폘폡폣포폭폰폴폼폽폿퐁"⟩] ++ eucKr.rows
  extension := eucKr.extension

/-- Johab. -/
def johab : Table where
  name := "johab"
  single := "\x00\x01\x02\x03\x04\x05\x06\x07\x08\x09\x0a\x0b\x0c\x0d\x0e\x0f\x10\x11\x12\x13\x14\x15\x16\x17\x18\x19\x1a\x1b\x1c\x1d\x1e\x1f !\"#$%&\x27()*+,-./0123456789:;<=>?@ABCDEFGHIJKLMNOPQRSTUVWXYZ[\\]^_\x60abcdefghijklmnopqrstuvwxyz\x7b|\x7d~\x7f\uFDD1\uFDD1\uFDD1\uFDD1\uFDD1\uFDD1\uFDD1\uFDD1\uFDD1\uFDD1\uFDD1\uFDD1\uFDD1\uFDD1\uFDD1\uFDD1\uFDD1\uFDD1\uFDD1\uFDD1\uFDD1\uFDD1\uFDD1\uFDD1\uFDD1\uFDD1\uFDD1\uFDD1\uFDD1\uFDD1\uFDD1\uFDD1\uFDD1\uFDD1\uFDD1\uFDD1\uFDD1\uFDD1\uFDD1\uFDD1\uFDD1\uFDD1\uFDD1\uFDD1\uFDD1\uFDD1\uFDD1\uFDD1\uFDD1\uFDD1\uFDD1\uFDD1\uFDD1\uFDD1\uFDD1\uFDD1\uFDD1\uFDD1\uFDD1\uFDD1\uFDD1\uFDD1\uFDD1\uFDD1\uFDD1\uFDD1\uFDD1\uFDD1\uFDD1\uFDD1\uFDD1\uFDD1\uFDD1\uFDD1\uFDD1\uFDD1\uFDD1\uFDD1\uFDD1\uFDD1\uFDD1\uFDD1\uFDD1\uFDD1\uFDD1\uFDD1\uFDD1\uFDD1\uFDD1\uFDD1\uFDD1\uFDD1\uFDD1\uFDD1\uFDD1\uFDD1\uFDD1\uFDD1\uFDD1\uFDD1\uFDD1\uFDD1\uFDD1\uFDD1\uFDD1\uFDD1\uFDD1\uFDD1\uFDD1\uFDD1\uFDD1\uFDD1\uFDD1\uFDD1\uFDD1\uFDD1\uFDD1\uFDD1\uFDD1\uFDD1\uFDD1\uFDD1\uFDD1\uFDD1\uFDD1\uFDD1\uFDD1\uFDD1"
  rows := [
    ⟨0x84, 0x41, "\u3000ㄱㄲㄳㄴㄵㄶㄷㄹㄺㄻㄼㄽㄾㄿㅀㅁ\uFDD0ㅂㅄㅅㅆㅇㅈㅊㅋㅌㅍㅎ\uFDD0\uFDD0\uFDD0ㅏ\uFDD0\uFDD0\uFDD0\uFDD0\uFDD0\uFDD0\uFDD0\uFDD0\uFDD0\uFDD0\uFDD0\uFDD0\uFDD0\uFDD0\uFDD0\uFDD0\uFDD0\uFDD0\uFDD0\uFDD0\uFDD0\uFDD0\uFDD0\uFDD0\uFDD0\uFDD0\uFDD0\uFDD0\uFDD0\uFDD0\uFDD0ㅐ\uFDD0\uFDD0\uFDD0\uFDD0\uFDD0\uFDD0\uFDD0\uFDD0\uFDD0\uFDD0\uFDD0\uFDD0\uFDD0\uFDD0\uFDD0\uFDD0\uFDD0\uFDD0\uFDD0\uFDD0\uFDD0\uFDD0\uFDD0\uFDD0\uFDD0\uFDD0\uFDD0\uFDD0\uFDD0\uFDD0\uFDD0ㅑ\uFDD0\uFDD0\uFDD0\uFDD0\uFDD0\uFDD0\uFDD0\uFDD0\uFDD0\uFDD0\uFDD0\uFDD0\uFDD0\uFDD0\uFDD0\uFDD0\uFDD0\uFDD0\uFDD0\uFDD0\uFDD0\uFDD0\uFDD0\uFDD0\uFDD0\uFDD0\uFDD0\uFDD0\uFDD0\uFDD0\uFDD0ㅒ\uFDD0\uFDD0\uFDD0\uFDD0\uFDD0\uFDD0\uFDD0\uFDD0\uFDD0\uFDD0\uFDD0\uFDD0\uFDD0\uFDD0\uFDD0\uFDD0\uFDD0\uFDD0\uFDD0\uFDD0\uFDD0\uFDD0\uFDD0\uFDD0\uFDD0\uFDD0\uFDD0\uFDD0\uFDD0\uFDD0\uFDD0ㅓ"⟩,
    ⟨0x85, 0x41, "ㅔ\uFDD0\uFDD0\uFDD0\uFDD0\uFDD0\uFDD0\uFDD0\uFDD0\uFDD0\uFDD0\uFDD0\uFDD0\uFDD0\uFDD0\uFDD0\uFDD0\uFDD0\uFDD0\uFDD0\uFDD0\uFDD0\uFDD0\uFDD0\uFDD0\uFDD0\uFDD0\uFDD0\uFDD0\uFDD0\uFDD0\uFDD0ㅕ\uFDD0\uFDD0\uFDD0\uFDD0\uFDD0\uFDD0\uFDD0\uFDD0\uFDD0\uFDD0\uFDD0\uFDD0\uFDD0\uFDD0\uFDD0\uFDD0\uFDD0\uFDD0\uFDD0\uFDD0\uFDD0\uFDD0\uFDD0\uFDD0\uFDD0\uFDD0\uFDD0\uFDD0\uFDD0\uFDD0\uFDD0ㅖ\uFDD0\uFDD0\uFDD0\uFDD0\uFDD0\uFDD0\uFDD0\uFDD0\uFDD0\uFDD0\uFDD0\uFDD0\uFDD0\uFDD0\uFDD0\uFDD0\uFDD0\uFDD0\uFDD0\uFDD0\uFDD0\uFDD0\uFDD0\uFDD0\uFDD0\uFDD0\uFDD0\uFDD0\uFDD0\uFDD0\uFDD0ㅗ\uFDD0\uFDD0\uFDD0\uFDD0\uFDD0\uFDD0\uFDD0\uFDD0\uFDD0\uFDD0\uFDD0\uFDD0\uFDD0\uFDD0\uFDD0\uFDD0\uFDD0\uFDD0\uFDD0\uFDD0\uFDD0\uFDD0\uFDD0\uFDD0\uFDD0\uFDD0\uFDD0\uFDD0\uFDD0\uFDD0\uFDD0ㅘ\uFDD0\uFDD0\uFDD0\uFDD0\uFDD0\uFDD0\uFDD0\uFDD0\uFDD0\uFDD0\uFDD0\uFDD0\uFDD0\uFDD0\uFDD0\uFDD0\uFDD0\uFDD0\uFDD0\uFDD0\uFDD0\uFDD0\uFDD0\uFDD0\uFDD0\uFDD0\uFDD0\uFDD0\uFDD0\uFDD0\uFDD0ㅙ"⟩,
    ⟨0x86, 0x41, "ㅚ\uFDD0\uFDD0\uFDD0\uFDD0\uFDD0\uFDD0\uFDD0\uFDD0\uFDD0\uFDD0\uFDD0\uFDD0\uFDD0\uFDD0\uFDD0\uFDD0\uFDD0\uFDD0\uFDD0\uFDD0\uFDD0\uFDD0\uFDD0\uFDD0\uFDD0\uFDD0\uFDD0\uFDD0\uFDD0\uFDD0\uFDD0ㅛ\uFDD0\uFDD0\uFDD0\uFDD0\uFDD0\uFDD0\uFDD0\uFDD0\uFDD0\uFDD0\uFDD0\uFDD0\uFDD0\uFDD0\uFDD0\uFDD0\uFDD0\uFDD0\uFDD0\uFDD0\uFDD0\uFDD0\uFDD0\uFDD0\uFDD0\uFDD0\uFDD0\uFDD0\uFDD0\uFDD0\uFDD0ㅜ\uFDD0\uFDD0\uFDD0\uFDD0\uFDD0\uFDD0\uFDD0\uFDD0\uFDD0\uFDD0\uFDD0\uFDD0\uFDD0\uFDD0\uFDD0\uFDD0\uFDD0\uFDD0\uFDD0\uFDD0\uFDD0\uFDD0\uFDD0\uFDD0\uFDD0\uFDD0\uFDD0\uFDD0\uFDD0\uFDD0\uFDD0ㅝ\uFDD0\uFDD0\uFDD0\uFDD0\uFDD0\uFDD0\uFDD0\uFDD0\uFDD0\uFDD0\uFDD0\uFDD0\uFDD0\uFDD0\uFDD0\uFDD0\uFDD0\uFDD0\uFDD0\uFDD0\uFDD0\uFDD0\uFDD0\uFDD0\uFDD0\uFDD0\uFDD0\uFDD0\uFDD0\uFDD0\uFDD0ㅞ\uFDD0\uFDD0\uFDD0\uFDD0\uFDD0\uFDD0\uFDD0\uFDD0\uFDD0\uFDD0\uFDD0\uFDD0\uFDD0\uFDD0\uFDD0\uFDD0\uFDD0\uFDD0\uFDD0\uFDD0\uFDD0\uFDD0\uFDD0\uFDD0\uFDD0\uFDD0\uFDD0\uFDD0\uFDD0\uFDD0\uFDD0ㅟ"⟩,
    ⟨0x87, 0x41, "ㅠ\uFDD0\uFDD0\uFDD0\uFDD0\uFDD0\uFDD0\uFDD0\uFDD0\uFDD0\uFDD0\uFDD0\uFDD0\uFDD0\uFDD0\uFDD0\uFDD0\uFDD0\uFDD0\uFDD0\uFDD0\uFDD0\uFDD0\uFDD0\uFDD0\uFDD0\uFDD0\uFDD0\uFDD0\uFDD0\uFDD0\uFDD0ㅡ\uFDD0\uFDD0\uFDD0\uFDD0\uFDD0\uFDD0\uFDD0\uFDD0\uFDD0\uFDD0\uFDD0\uFDD0\uFDD0\uFDD0\uFDD0\uFDD0\uFDD0\uFDD0\uFDD0\uFDD0\uFDD0\uFDD0\uFDD0\uFDD0\uFDD0\uFDD0\uFDD0\uFDD0\uFDD0\uFDD0\uFDD0ㅢ\uFDD0\uFDD0\uFDD0\uFDD0\uFDD0\uFDD0\uFDD0\uFDD0\uFDD0\uFDD0\uFDD0\uFDD0\uFDD0\uFDD0\uFDD0\uFDD0\uFDD0\uFDD0\uFDD0\uFDD0\uFDD0\uFDD0\uFDD0\uFDD0\uFDD0\uFDD0\uFDD0\uFDD0\uFDD0\uFDD0\uFDD0ㅣ"⟩,
    ⟨0x88, 0x41, "ㄱ\uFDD0\uFDD0\uFDD0\uFDD0\uFDD0\uFDD0\uFDD0\uFDD0\uFDD0\uFDD0\uFDD0\uFDD0\uFDD0\uFDD0\uFDD0\uFDD0\uFDD0\uFDD0\uFDD0\uFDD0\uFDD0\uFDD0\uFDD0\uFDD0\uFDD0\uFDD0\uFDD0\uFDD0\uFDD0\uFDD0\uFDD0가각갂갃간갅갆갇갈갉갊갋갌갍갎갏감\uFDD0갑값갓갔강갖갗갘같갚갛\uFDD0\uFDD0\uFDD0개객갞갟갠갡갢갣갤갥갦갧갨갩갪갫갬\uFDD0갭갮갯갰갱갲갳갴갵갶갷\uFDD0\uFDD0\uFDD0갸갹갺갻갼갽갾갿걀걁걂걃걄걅걆걇걈\uFDD0걉걊걋걌걍걎걏걐걑걒걓\uFDD0\uFDD0\uFDD0걔걕걖걗걘걙걚걛걜걝걞걟걠걡걢걣걤\uFDD0걥걦걧걨걩걪걫걬걭걮걯\uFDD0\uFDD0\uFDD0거걱걲걳건걵걶걷걸걹걺걻걼걽걾걿검\uFDD0겁겂것겄겅겆겇겈겉겊겋"⟩,
    ⟨0x89, 0x41, "게겍겎겏겐겑겒겓겔겕겖겗겘겙겚겛겜\uFDD0겝겞겟겠겡겢겣겤겥겦겧\uFDD0\uFDD0\uFDD0겨격겪겫견겭겮겯결겱겲겳겴겵겶겷겸\uFDD0겹겺겻겼경겾겿곀곁곂곃\uFDD0\uFDD0\uFDD0계곅곆곇곈곉곊곋곌곍곎곏곐곑곒곓곔\uFDD0곕곖곗곘곙곚곛곜곝곞곟\uFDD0\uFDD0\uFDD0고곡곢곣곤곥곦곧골곩곪곫곬곭곮곯곰\uFDD0곱곲곳곴공곶곷곸곹곺곻\uFDD0\uFDD0\uFDD0과곽곾곿관괁괂괃괄괅괆괇괈괉괊괋괌\uFDD0괍괎괏괐광괒괓괔괕괖괗\uFDD0\uFDD0\uFDD0괘괙괚괛괜괝괞괟괠괡괢괣괤괥괦괧괨\uFDD0괩괪괫괬괭괮괯괰괱괲괳"⟩,
    ⟨0x8A, 0x41, "괴괵괶괷괸괹괺괻괼괽괾괿굀굁굂굃굄\uFDD0굅굆굇굈굉굊굋굌굍굎굏\uFDD0\uFDD0\uFDD0교굑굒굓굔굕굖굗굘굙굚굛굜굝굞굟굠\uFDD0굡굢굣굤굥굦굧굨굩굪굫\uFDD0\uFDD0\uFDD0구국굮굯군굱굲굳굴굵굶굷굸굹굺굻굼\uFDD0굽굾굿궀궁궂궃궄궅궆궇\uFDD0\uFDD0\uFDD0궈궉궊궋권궍궎궏궐궑궒궓궔궕궖궗궘\uFDD0궙궚궛궜궝궞궟궠궡궢궣\uFDD0\uFDD0\uFDD0궤궥궦궧궨궩궪궫궬궭궮궯궰궱궲궳궴\uFDD0궵궶궷궸궹궺궻궼궽궾궿\uFDD0\uFDD0\uFDD0귀귁귂귃귄귅귆귇귈귉귊귋귌귍귎귏귐\uFDD0귑귒귓귔귕귖귗귘귙귚귛"⟩,
    ⟨0x8B, 0x41, "규귝귞귟균귡귢귣귤귥귦귧귨귩귪귫귬\uFDD0귭귮귯귰귱귲귳귴귵귶귷\uFDD0\uFDD0\uFDD0그극귺귻근귽귾귿글긁긂긃긄긅긆긇금\uFDD0급긊긋긌긍긎긏긐긑긒긓\uFDD0\uFDD0\uFDD0긔긕긖긗긘긙긚긛긜긝긞긟긠긡긢긣긤\uFDD0긥긦긧긨긩긪긫긬긭긮긯\uFDD0\uFDD0\uFDD0기긱긲긳긴긵긶긷길긹긺긻긼긽긾긿김\uFDD0깁깂깃깄깅깆깇깈깉깊깋"⟩,
    ⟨0x8C, 0x41, "ㄲ\uFDD0\uFDD0\uFDD0\uFDD0\uFDD0\uFDD0\uFDD0\uFDD0\uFDD0\uFDD0\uFDD0\uFDD0\uFDD0\uFDD0\uFDD0\uFDD0\uFDD0\uFDD0\uFDD0\uFDD0\uFDD0\uFDD0\uFDD0\uFDD0\uFDD0\uFDD0\uFDD0\uFDD0\uFDD0\uFDD0\uFDD0까깍깎깏깐깑깒깓깔깕깖깗깘깙깚깛깜\uFDD0깝깞깟깠깡깢깣깤깥깦깧\uFDD0\uFDD0\uFDD0깨깩깪깫깬깭깮깯깰깱깲깳깴깵깶깷깸\uFDD0깹깺깻깼깽깾깿꺀꺁꺂꺃\uFDD0\uFDD0\uFDD0꺄꺅꺆꺇꺈꺉꺊꺋꺌꺍꺎꺏꺐꺑꺒꺓꺔\uFDD0꺕꺖꺗꺘꺙꺚꺛꺜꺝꺞꺟\uFDD0\uFDD0\uFDD0꺠꺡꺢꺣꺤꺥꺦꺧꺨꺩꺪꺫꺬꺭꺮꺯꺰\uFDD0꺱꺲꺳꺴꺵꺶꺷꺸꺹꺺꺻\uFDD0\uFDD0\uFDD0꺼꺽꺾꺿껀껁껂껃껄껅껆껇껈껉껊껋껌\uFDD0껍껎껏껐껑껒껓껔껕껖껗"⟩,
    ⟨0x8D, 0x41, "께껙껚껛껜껝껞껟껠껡껢껣껤껥껦껧껨\uFDD0껩껪껫껬껭껮껯껰껱껲껳\uFDD0\uFDD0\uFDD0껴껵껶껷껸껹껺껻껼껽껾껿꼀꼁꼂꼃꼄\uFDD0꼅꼆꼇꼈꼉꼊꼋꼌꼍꼎꼏\uFDD0\uFDD0\uFDD0꼐꼑꼒꼓꼔꼕꼖꼗꼘꼙꼚꼛꼜꼝꼞꼟꼠\uFDD0꼡꼢꼣꼤꼥꼦꼧꼨꼩꼪꼫\uFDD0\uFDD0\uFDD0꼬꼭꼮꼯꼰꼱꼲꼳꼴꼵꼶꼷꼸꼹꼺꼻꼼\uFDD0꼽꼾꼿꽀꽁꽂꽃꽄꽅꽆꽇\uFDD0\uFDD0\uFDD0꽈꽉꽊꽋꽌꽍꽎꽏꽐꽑꽒꽓꽔꽕꽖꽗꽘\uFDD0꽙꽚꽛꽜꽝꽞꽟꽠꽡꽢꽣\uFDD0\uFDD0\uFDD0꽤꽥꽦꽧꽨꽩꽪꽫꽬꽭꽮꽯꽰꽱꽲꽳꽴\uFDD0꽵꽶꽷꽸꽹꽺꽻꽼꽽꽾꽿"⟩,
    ⟨0x8E, 0x41, "꾀꾁꾂꾃꾄꾅꾆꾇꾈꾉꾊꾋꾌꾍꾎꾏꾐\uFDD0꾑꾒꾓꾔꾕꾖꾗꾘꾙꾚꾛\uFDD0\uFDD0\uFDD0꾜꾝꾞꾟꾠꾡꾢꾣꾤꾥꾦꾧꾨꾩꾪꾫꾬\uFDD0꾭꾮꾯꾰꾱꾲꾳꾴꾵꾶꾷\uFDD0\uFDD0\uFDD0꾸꾹꾺꾻꾼꾽꾾꾿꿀꿁꿂꿃꿄꿅꿆꿇꿈\uFDD0꿉꿊꿋꿌꿍꿎꿏꿐꿑꿒꿓\uFDD0\uFDD0\uFDD0꿔꿕꿖꿗꿘꿙꿚꿛꿜꿝꿞꿟꿠꿡꿢꿣꿤\uFDD0꿥꿦꿧꿨꿩꿪꿫꿬꿭꿮꿯\uFDD0\uFDD0\uFDD0꿰꿱꿲꿳꿴꿵꿶꿷꿸꿹꿺꿻꿼꿽꿾꿿뀀\uFDD0뀁뀂뀃뀄뀅뀆뀇뀈뀉뀊뀋\uFDD0\uFDD0\uFDD0뀌뀍뀎뀏뀐뀑뀒뀓뀔뀕뀖뀗뀘뀙뀚뀛뀜\uFDD0뀝뀞뀟뀠뀡뀢뀣뀤뀥뀦뀧"⟩,
    ⟨0x8F, 0x41, "뀨뀩뀪뀫뀬뀭뀮뀯뀰뀱뀲뀳뀴뀵뀶뀷뀸\uFDD0뀹뀺뀻뀼뀽뀾뀿끀끁끂끃\uFDD0\uFDD0\uFDD0끄끅끆끇끈끉끊끋끌끍끎끏끐끑끒끓끔\uFDD0끕끖끗끘끙끚끛끜끝끞끟\uFDD0\uFDD0\uFDD0끠끡끢끣끤끥끦끧끨끩끪끫끬끭끮끯끰\uFDD0끱끲끳끴끵끶끷끸끹끺끻\uFDD0\uFDD0\uFDD0끼끽끾끿낀낁낂낃낄낅낆낇낈낉낊낋낌\uFDD0낍낎낏낐낑낒낓낔낕낖낗"⟩,
    ⟨0x90, 0x41, "ㄴ\uFDD0\uFDD0\uFDD0\uFDD0\uFDD0\uFDD0\uFDD0\uFDD0\uFDD0\uFDD0\uFDD0\uFDD0\uFDD0\uFDD0\uFDD0\uFDD0\uFDD0\uFDD0\uFDD0\uFDD0\uFDD0\uFDD0\uFDD0\uFDD0\uFDD0\uFDD0\uFDD0\uFDD0\uFDD0\uFDD0\uFDD0나낙낚낛난낝낞낟날낡낢낣낤낥낦낧남\uFDD0납낪낫났낭낮낯낰낱낲낳\uFDD0\uFDD0\uFDD0내낵낶낷낸낹낺낻낼낽낾낿냀냁냂냃냄\uFDD0냅냆냇냈냉냊냋냌냍냎냏\uFDD0\uFDD0\uFDD0냐냑냒냓냔냕냖냗냘냙냚냛냜냝냞냟냠\uFDD0냡냢냣냤냥냦냧냨냩냪냫\uFDD0\uFDD0\uFDD0냬냭냮냯냰냱냲냳냴냵냶냷냸냹냺냻냼\uFDD0냽냾냿넀넁넂넃넄넅넆넇\uFDD0\uFDD0\uFDD0너넉넊넋넌넍넎넏널넑넒넓넔넕넖넗넘\uFDD0넙넚넛넜넝넞넟넠넡넢넣"⟩,
    ⟨0x91, 0x41, "네넥넦넧넨넩넪넫넬넭넮넯넰넱넲넳넴\uFDD0넵넶넷넸넹넺넻넼넽넾넿\uFDD0\uFDD0\uFDD0녀녁녂녃년녅녆녇녈녉녊녋녌녍녎녏념\uFDD0녑녒녓녔녕녖녗녘녙녚녛\uFDD0\uFDD0\uFDD0녜녝녞녟녠녡녢녣녤녥녦녧녨녩녪녫녬\uFDD0녭녮녯녰녱녲녳녴녵녶녷\uFDD0\uFDD0\uFDD0노녹녺녻논녽녾녿놀놁놂놃놄놅놆놇놈\uFDD0놉놊놋놌농놎놏놐놑높놓\uFDD0\uFDD0\uFDD0놔놕놖놗놘놙놚놛놜놝놞놟놠놡놢놣놤\uFDD0놥놦놧놨놩놪놫놬놭놮놯\uFDD0\uFDD0\uFDD0놰놱놲놳놴놵놶놷놸놹놺놻놼놽놾놿뇀\uFDD0뇁뇂뇃뇄뇅뇆뇇뇈뇉뇊뇋"⟩,
    ⟨0x92, 0x41, "뇌뇍뇎뇏뇐뇑뇒뇓뇔뇕뇖뇗뇘뇙뇚뇛뇜\uFDD0뇝뇞뇟뇠뇡뇢뇣뇤뇥뇦뇧\uFDD0\uFDD0\uFDD0뇨뇩뇪뇫뇬뇭뇮뇯뇰뇱뇲뇳뇴뇵뇶뇷뇸\uFDD0뇹뇺뇻뇼뇽뇾뇿눀눁눂눃\uFDD0\uFDD0\uFDD0누눅눆눇눈눉눊눋눌눍눎눏눐눑눒눓눔\uFDD0눕눖눗눘눙눚눛눜눝눞눟\uFDD0\uFDD0\uFDD0눠눡눢눣눤눥눦눧눨눩눪눫눬눭눮눯눰\uFDD0눱눲눳눴눵눶눷눸눹눺눻\uFDD0\uFDD0\uFDD0눼눽눾눿뉀뉁뉂뉃뉄뉅뉆뉇뉈뉉뉊뉋뉌\uFDD0뉍뉎뉏뉐뉑뉒뉓뉔뉕뉖뉗\uFDD0\uFDD0\uFDD0뉘뉙뉚뉛뉜뉝뉞뉟뉠뉡뉢뉣뉤뉥뉦뉧뉨\uFDD0뉩뉪뉫뉬뉭뉮뉯뉰뉱뉲뉳"⟩,
    ⟨0x93, 0x41, "뉴뉵뉶뉷뉸뉹뉺뉻뉼뉽뉾뉿늀늁늂늃늄\uFDD0늅늆늇늈늉늊늋늌늍늎늏\uFDD0\uFDD0\uFDD0느늑늒늓는늕늖늗늘늙늚늛늜늝늞늟늠\uFDD0늡늢늣늤능늦늧늨늩늪늫\uFDD0\uFDD0\uFDD0늬늭늮늯늰늱늲늳늴늵늶늷늸늹늺늻늼\uFDD0늽늾늿닀닁닂닃닄닅닆닇\uFDD0\uFDD0\uFDD0니닉닊닋닌닍닎닏닐닑닒닓닔닕닖닗님\uFDD0닙닚닛닜닝닞닟닠닡닢닣"⟩,
    ⟨0x94, 0x41, "ㄷ\uFDD0\uFDD0\uFDD0\uFDD0\uFDD0\uFDD0\uFDD0\uFDD0\uFDD0\uFDD0\uFDD0\uFDD0\uFDD0\uFDD0\uFDD0\uFDD0\uFDD0\uFDD0\uFDD0\uFDD0\uFDD0\uFDD0\uFDD0\uFDD0\uFDD0\uFDD0\uFDD0\uFDD0\uFDD0\uFDD0\uFDD0다닥닦닧단닩닪닫달닭닮닯닰닱닲닳담\uFDD0답닶닷닸당닺닻닼닽닾닿\uFDD0\uFDD0\uFDD0대댁댂댃댄댅댆댇댈댉댊댋댌댍댎댏댐\uFDD0댑댒댓댔댕댖댗댘댙댚댛\uFDD0\uFDD0\uFDD0댜댝댞댟댠댡댢댣댤댥댦댧댨댩댪댫댬\uFDD0댭댮댯댰댱댲댳댴댵댶댷\uFDD0\uFDD0\uFDD0댸댹댺댻댼댽댾댿덀덁덂덃덄덅덆덇덈\uFDD0덉덊덋덌덍덎덏덐덑덒덓\uFDD0\uFDD0\uFDD0더덕덖덗던덙덚덛덜덝덞덟덠덡덢덣덤\uFDD0덥덦덧덨덩덪덫덬덭덮덯"⟩,
    ⟨0x95, 0x41, "데덱덲덳덴덵덶덷델덹덺덻덼덽덾덿뎀\uFDD0뎁뎂뎃뎄뎅뎆뎇뎈뎉뎊뎋\uFDD0\uFDD0\uFDD0뎌뎍뎎뎏뎐뎑뎒뎓뎔뎕뎖뎗뎘뎙뎚뎛뎜\uFDD0뎝뎞뎟뎠뎡뎢뎣뎤뎥뎦뎧\uFDD0\uFDD0\uFDD0뎨뎩뎪뎫뎬뎭뎮뎯뎰뎱뎲뎳뎴뎵뎶뎷뎸\uFDD0뎹뎺뎻뎼뎽뎾뎿돀돁돂돃\uFDD0\uFDD0\uFDD0도독돆돇돈돉돊돋돌돍돎돏돐돑돒돓돔\uFDD0돕돖돗돘동돚돛돜돝돞돟\uFDD0\uFDD0\uFDD0돠돡돢돣돤돥돦돧돨돩돪돫돬돭돮돯돰\uFDD0돱돲돳돴돵돶돷돸돹돺돻\uFDD0\uFDD0\uFDD0돼돽돾돿됀됁됂됃됄됅됆됇됈됉됊됋됌\uFDD0됍됎됏됐됑됒됓됔됕됖됗"⟩,
    ⟨0x96, 0x41, "되됙됚됛된됝됞됟될됡됢됣됤됥됦됧됨\uFDD0됩됪됫됬됭됮됯됰됱됲됳\uFDD0\uFDD0\uFDD0됴됵됶됷됸됹됺됻됼됽됾됿둀둁둂둃둄\uFDD0둅둆둇둈둉둊둋둌둍둎둏\uFDD0\uFDD0\uFDD0두둑둒둓둔둕둖둗둘둙둚둛둜둝둞둟둠\uFDD0둡둢둣둤둥둦둧둨둩둪둫\uFDD0\uFDD0\uFDD0둬둭둮둯둰둱둲둳둴둵둶둷둸둹둺둻둼\uFDD0둽둾둿뒀뒁뒂뒃뒄뒅뒆뒇\uFDD0\uFDD0\uFDD0뒈뒉뒊뒋뒌뒍뒎뒏뒐뒑뒒뒓뒔뒕뒖뒗뒘\uFDD0뒙뒚뒛뒜뒝뒞뒟뒠뒡뒢뒣\uFDD0\uFDD0\uFDD0뒤뒥뒦뒧뒨뒩뒪뒫뒬뒭뒮뒯뒰뒱뒲뒳뒴\uFDD0뒵뒶뒷뒸뒹뒺뒻뒼뒽뒾뒿"⟩,
    ⟨0x97, 0x41, "듀듁듂듃듄듅듆듇듈듉듊듋듌듍듎듏듐\uFDD0듑듒듓듔듕듖듗듘듙듚듛\uFDD0\uFDD0\uFDD0드득듞듟든듡듢듣들듥듦듧듨듩듪듫듬\uFDD0듭듮듯듰등듲듳듴듵듶듷\uFDD0\uFDD0\uFDD0듸듹듺듻듼듽듾듿딀딁딂딃딄딅딆딇딈\uFDD0딉딊딋딌딍딎딏딐딑딒딓\uFDD0\uFDD0\uFDD0디딕딖딗딘딙딚딛딜딝딞딟딠딡딢딣딤\uFDD0딥딦딧딨딩딪딫딬딭딮딯"⟩,
    ⟨0x98, 0x41, "ㄸ\uFDD0\uFDD0\uFDD0\uFDD0\uFDD0\uFDD0\uFDD0\uFDD0\uFDD0\uFDD0\uFDD0\uFDD0\uFDD0\uFDD0\uFDD0\uFDD0\uFDD0\uFDD0\uFDD0\uFDD0\uFDD0\uFDD0\uFDD0\uFDD0\uFDD0\uFDD0\uFDD0\uFDD0\uFDD0\uFDD0\uFDD0따딱딲딳딴딵딶딷딸딹딺딻딼딽딾딿땀\uFDD0땁땂땃땄땅땆땇땈땉땊땋\uFDD0\uFDD0\uFDD0때땍땎땏땐땑땒땓땔땕땖땗땘땙땚땛땜\uFDD0땝땞땟땠땡땢땣땤땥땦땧\uFDD0\uFDD0\uFDD0땨땩땪땫땬땭땮땯땰땱땲땳땴땵땶땷땸\uFDD0땹땺땻땼땽땾땿떀떁떂떃\uFDD0\uFDD0\uFDD0떄떅떆떇떈떉떊떋떌떍떎떏떐떑떒떓떔\uFDD0떕떖떗떘떙떚떛떜떝떞떟\uFDD0\uFDD0\uFDD0떠떡떢떣떤떥떦떧떨떩떪떫떬떭떮떯떰\uFDD0떱떲떳떴떵떶떷떸떹떺떻"⟩,
    ⟨0x99, 0x41, "떼떽떾떿뗀뗁뗂뗃뗄뗅뗆뗇뗈뗉뗊뗋뗌\uFDD0뗍뗎뗏뗐뗑뗒뗓뗔뗕뗖뗗\uFDD0\uFDD0\uFDD0뗘뗙뗚뗛뗜뗝뗞뗟뗠뗡뗢뗣뗤뗥뗦뗧뗨\uFDD0뗩뗪뗫뗬뗭뗮뗯뗰뗱뗲뗳\uFDD0\uFDD0\uFDD0뗴뗵뗶뗷뗸뗹뗺뗻뗼뗽뗾뗿똀똁똂똃똄\uFDD0똅똆똇똈똉똊똋똌똍똎똏\uFDD0\uFDD0\uFDD0또똑똒똓똔똕똖똗똘똙똚똛똜똝똞똟똠\uFDD0똡똢똣똤똥똦똧똨똩똪똫\uFDD0\uFDD0\uFDD0똬똭똮똯똰똱똲똳똴똵똶똷똸똹똺똻똼\uFDD0똽똾똿뙀뙁뙂뙃뙄뙅뙆뙇\uFDD0\uFDD0\uFDD0뙈뙉뙊뙋뙌뙍뙎뙏뙐뙑뙒뙓뙔뙕뙖뙗뙘\uFDD0뙙뙚뙛뙜뙝뙞뙟뙠뙡뙢뙣"⟩,
    ⟨0x9A, 0x41, "뙤뙥뙦뙧뙨뙩뙪뙫뙬뙭뙮뙯뙰뙱뙲뙳뙴\uFDD0뙵뙶뙷뙸뙹뙺뙻뙼뙽뙾뙿\uFDD0\uFDD0\uFDD0뚀뚁뚂뚃뚄뚅뚆뚇뚈뚉뚊뚋뚌뚍뚎뚏뚐\uFDD0뚑뚒뚓뚔뚕뚖뚗뚘뚙뚚뚛\uFDD0\uFDD0\uFDD0뚜뚝뚞뚟뚠뚡뚢뚣뚤뚥뚦뚧뚨뚩뚪뚫뚬\uFDD0뚭뚮뚯뚰뚱뚲뚳뚴뚵뚶뚷\uFDD0\uFDD0\uFDD0뚸뚹뚺뚻뚼뚽뚾뚿뛀뛁뛂뛃뛄뛅뛆뛇뛈\uFDD0뛉뛊뛋뛌뛍뛎뛏뛐뛑뛒뛓\uFDD0\uFDD0\uFDD0뛔뛕뛖뛗뛘뛙뛚뛛뛜뛝뛞뛟뛠뛡뛢뛣뛤\uFDD0뛥뛦뛧뛨뛩뛪뛫뛬뛭뛮뛯\uFDD0\uFDD0\uFDD0뛰뛱뛲뛳뛴뛵뛶뛷뛸뛹뛺뛻뛼뛽뛾뛿뜀\uFDD0뜁뜂뜃뜄뜅뜆뜇뜈뜉뜊뜋"⟩,
    ⟨0x9B, 0x41, "뜌뜍뜎뜏뜐뜑뜒뜓뜔뜕뜖뜗뜘뜙뜚뜛뜜\uFDD0뜝뜞뜟뜠뜡뜢뜣뜤뜥뜦뜧\uFDD0\uFDD0\uFDD0뜨뜩뜪뜫뜬뜭뜮뜯뜰뜱뜲뜳뜴뜵뜶뜷뜸\uFDD0뜹뜺뜻뜼뜽뜾뜿띀띁띂띃\uFDD0\uFDD0\uFDD0띄띅띆띇띈띉띊띋띌띍띎띏띐띑띒띓띔\uFDD0띕띖띗띘띙띚띛띜띝띞띟\uFDD0\uFDD0\uFDD0띠띡띢띣띤띥띦띧띨띩띪띫띬띭띮띯띰\uFDD0띱띲띳띴띵띶띷띸띹띺띻"⟩,
    ⟨0x9C, 0x41, "ㄹ\uFDD0\uFDD0\uFDD0\uFDD0\uFDD0\uFDD0\uFDD0\uFDD0\uFDD0\uFDD0\uFDD0\uFDD0\uFDD0\uFDD0\uFDD0\uFDD0\uFDD0\uFDD0\uFDD0\uFDD0\uFDD0\uFDD0\uFDD0\uFDD0\uFDD0\uFDD0\uFDD0\uFDD0\uFDD0\uFDD0\uFDD0라락띾띿란랁랂랃랄랅랆랇랈랉랊랋람\uFDD0랍랎랏랐랑랒랓랔랕랖랗\uFDD0\uFDD0\uFDD0래랙랚랛랜랝랞랟랠랡랢랣랤랥랦랧램\uFDD0랩랪랫랬랭랮랯랰랱랲랳\uFDD0\uFDD0\uFDD0랴략랶랷랸랹랺랻랼랽랾랿럀럁럂럃럄\uFDD0럅럆럇럈량럊럋럌럍럎럏\uFDD0\uFDD0\uFDD0럐럑럒럓럔럕럖럗럘럙럚럛럜럝럞럟럠\uFDD0럡럢럣럤럥럦럧럨럩럪럫\uFDD0\uFDD0\uFDD0러럭럮럯런럱럲럳럴럵럶럷럸럹럺럻럼\uFDD0럽럾럿렀렁렂렃렄렅렆렇"⟩,
    ⟨0x9D, 0x41, "레렉렊렋렌렍렎렏렐렑렒렓렔렕렖렗렘\uFDD0렙렚렛렜렝렞렟렠렡렢렣\uFDD0\uFDD0\uFDD0려력렦렧련렩렪렫렬렭렮렯렰렱렲렳렴\uFDD0렵렶렷렸령렺렻렼렽렾렿\uFDD0\uFDD0\uFDD0례롁롂롃롄롅롆롇롈롉롊롋롌롍롎롏롐\uFDD0롑롒롓롔롕롖롗롘롙롚롛\uFDD0\uFDD0\uFDD0로록롞롟론롡롢롣롤롥롦롧롨롩롪롫롬\uFDD0롭롮롯롰롱롲롳롴롵롶롷\uFDD0\uFDD0\uFDD0롸롹롺롻롼롽롾롿뢀뢁뢂뢃뢄뢅뢆뢇뢈\uFDD0뢉뢊뢋뢌뢍뢎뢏뢐뢑뢒뢓\uFDD0\uFDD0\uFDD0뢔뢕뢖뢗뢘뢙뢚뢛뢜뢝뢞뢟뢠뢡뢢뢣뢤\uFDD0뢥뢦뢧뢨뢩뢪뢫뢬뢭뢮뢯"⟩,
    ⟨0x9E, 0x41, "뢰뢱뢲뢳뢴뢵뢶뢷뢸뢹뢺뢻뢼뢽뢾뢿룀\uFDD0룁룂룃룄룅룆룇룈룉룊룋\uFDD0\uFDD0\uFDD0료룍룎룏룐룑룒룓룔룕룖룗룘룙룚룛룜\uFDD0룝룞룟룠룡룢룣룤룥룦룧\uFDD0\uFDD0\uFDD0루룩룪룫룬룭룮룯룰룱룲룳룴룵룶룷룸\uFDD0룹룺룻룼룽룾룿뤀뤁뤂뤃\uFDD0\uFDD0\uFDD0뤄뤅뤆뤇뤈뤉뤊뤋뤌뤍뤎뤏뤐뤑뤒뤓뤔\uFDD0뤕뤖뤗뤘뤙뤚뤛뤜뤝뤞뤟\uFDD0\uFDD0\uFDD0뤠뤡뤢뤣뤤뤥뤦뤧뤨뤩뤪뤫뤬뤭뤮뤯뤰\uFDD0뤱뤲뤳뤴뤵뤶뤷뤸뤹뤺뤻\uFDD0\uFDD0\uFDD0뤼뤽뤾뤿륀륁륂륃륄륅륆륇륈륉륊륋륌\uFDD0륍륎륏륐륑륒륓륔륕륖륗"⟩,
    ⟨0x9F, 0x41, "류륙륚륛륜륝륞륟률륡륢륣륤륥륦륧륨\uFDD0륩륪륫륬륭륮륯륰륱륲륳\uFDD0\uFDD0\uFDD0르륵륶륷른륹륺륻를륽륾륿릀릁릂릃름\uFDD0릅릆릇릈릉릊릋릌릍릎릏\uFDD0\uFDD0\uFDD0릐릑릒릓릔릕릖릗릘릙릚릛릜릝릞릟릠\uFDD0릡릢릣릤릥릦릧릨릩릪릫\uFDD0\uFDD0\uFDD0리릭릮릯린릱릲릳릴릵릶릷릸릹릺릻림\uFDD0립릾릿맀링맂맃맄맅맆맇"⟩,
    ⟨0xA0, 0x41, "ㅁ\uFDD0\uFDD0\uFDD0\uFDD0\uFDD0\uFDD0\uFDD0\uFDD0\uFDD0\uFDD0\uFDD0\uFDD0\uFDD0\uFDD0\uFDD0\uFDD0\uFDD0\uFDD0\uFDD0\uFDD0\uFDD0\uFDD0\uFDD0\uFDD0\uFDD0\uFDD0\uFDD0\uFDD0\uFDD0\uFDD0\uFDD0마막맊맋만맍많맏말맑맒맓맔맕맖맗맘\uFDD0맙맚맛맜망맞맟맠맡맢맣\uFDD0\uFDD0\uFDD0매맥맦맧맨맩맪맫맬맭맮맯맰맱맲맳맴\uFDD0맵맶맷맸맹맺맻맼맽맾맿\uFDD0\uFDD0\uFDD0먀먁먂먃먄먅먆먇먈먉먊먋먌먍먎먏먐\uFDD0먑먒먓먔먕먖먗먘먙먚먛\uFDD0\uFDD0\uFDD0먜먝먞먟먠먡먢먣먤먥먦먧먨먩먪먫먬\uFDD0먭먮먯먰먱먲먳먴먵먶먷\uFDD0\uFDD0\uFDD0머먹먺먻먼먽먾먿멀멁멂멃멄멅멆멇멈\uFDD0멉멊멋멌멍멎멏멐멑멒멓"⟩,
    ⟨0xA1, 0x41, "메멕멖멗멘멙멚멛멜멝멞멟멠멡멢멣멤\uFDD0멥멦멧멨멩멪멫멬멭멮멯\uFDD0\uFDD0\uFDD0며멱멲멳면멵멶멷멸멹멺멻멼멽멾멿몀\uFDD0몁몂몃몄명몆몇몈몉몊몋\uFDD0\uFDD0\uFDD0몌몍몎몏몐몑몒몓몔몕몖몗몘몙몚몛몜\uFDD0몝몞몟몠몡몢몣몤몥몦몧\uFDD0\uFDD0\uFDD0모목몪몫몬몭몮몯몰몱몲몳몴몵몶몷몸\uFDD0몹몺못몼몽몾몿뫀뫁뫂뫃\uFDD0\uFDD0\uFDD0뫄뫅뫆뫇뫈뫉뫊뫋뫌뫍뫎뫏뫐뫑뫒뫓뫔\uFDD0뫕뫖뫗뫘뫙뫚뫛뫜뫝뫞뫟\uFDD0\uFDD0\uFDD0뫠뫡뫢뫣뫤뫥뫦뫧뫨뫩뫪뫫뫬뫭뫮뫯뫰\uFDD0뫱뫲뫳뫴뫵뫶뫷뫸뫹뫺뫻"⟩,
    ⟨0xA2, 0x41, "뫼뫽뫾뫿묀묁묂묃묄묅묆묇묈묉묊묋묌\uFDD0묍묎묏묐묑묒묓묔묕묖묗\uFDD0\uFDD0\uFDD0묘묙묚묛묜묝묞묟묠묡묢묣묤묥묦묧묨\uFDD0묩묪묫묬묭묮묯묰묱묲묳\uFDD0\uFDD0\uFDD0무묵묶묷문묹묺묻물묽묾묿뭀뭁뭂뭃뭄\uFDD0뭅뭆뭇뭈뭉뭊뭋뭌뭍뭎뭏\uFDD0\uFDD0\uFDD0뭐뭑뭒뭓뭔뭕뭖뭗뭘뭙뭚뭛뭜뭝뭞뭟뭠\uFDD0뭡뭢뭣뭤뭥뭦뭧뭨뭩뭪뭫\uFDD0\uFDD0\uFDD0뭬뭭뭮뭯뭰뭱뭲뭳뭴뭵뭶뭷뭸뭹뭺뭻뭼\uFDD0뭽뭾뭿뮀뮁뮂뮃뮄뮅뮆뮇\uFDD0\uFDD0\uFDD0뮈뮉뮊뮋뮌뮍뮎뮏뮐뮑뮒뮓뮔뮕뮖뮗뮘\uFDD0뮙뮚뮛뮜뮝뮞뮟뮠뮡뮢뮣"⟩,
    ⟨0xA3, 0x41, "뮤뮥뮦뮧뮨뮩뮪뮫뮬뮭뮮뮯뮰뮱뮲뮳뮴\uFDD0뮵뮶뮷뮸뮹뮺뮻뮼뮽뮾뮿\uFDD0\uFDD0\uFDD0므믁믂믃믄믅믆믇믈믉믊믋믌믍믎믏믐\uFDD0믑믒믓믔믕믖믗믘믙믚믛\uFDD0\uFDD0\uFDD0믜믝믞믟믠믡믢믣믤믥믦믧믨믩믪믫믬\uFDD0믭믮믯믰믱믲믳믴믵믶믷\uFDD0\uFDD0\uFDD0미믹믺믻민믽믾믿밀밁밂밃밄밅밆밇밈\uFDD0밉밊밋밌밍밎및밐밑밒밓"⟩,
    ⟨0xA4, 0x41, "ㅂ\uFDD0\uFDD0\uFDD0\uFDD0\uFDD0\uFDD0\uFDD0\uFDD0\uFDD0\uFDD0\uFDD0\uFDD0\uFDD0\uFDD0\uFDD0\uFDD0\uFDD0\uFDD0\uFDD0\uFDD0\uFDD0\uFDD0\uFDD0\uFDD0\uFDD0\uFDD0\uFDD0\uFDD0\uFDD0\uFDD0\uFDD0바박밖밗반밙밚받발밝밞밟밠밡밢밣밤\uFDD0밥밦밧밨방밪밫밬밭밮밯\uFDD0\uFDD0\uFDD0배백밲밳밴밵밶밷밸밹밺밻밼밽밾밿뱀\uFDD0뱁뱂뱃뱄뱅뱆뱇뱈뱉뱊뱋\uFDD0\uFDD0\uFDD0뱌뱍뱎뱏뱐뱑뱒뱓뱔뱕뱖뱗뱘뱙뱚뱛뱜\uFDD0뱝뱞뱟뱠뱡뱢뱣뱤뱥뱦뱧\uFDD0\uFDD0\uFDD0뱨뱩뱪뱫뱬뱭뱮뱯뱰뱱뱲뱳뱴뱵뱶뱷뱸\uFDD0뱹뱺뱻뱼뱽뱾뱿벀벁벂벃\uFDD0\uFDD0\uFDD0버벅벆벇번벉벊벋벌벍벎벏벐벑벒벓범\uFDD0법벖벗벘벙벚벛벜벝벞벟"⟩,
    ⟨0xA5, 0x41, "베벡벢벣벤벥벦벧벨벩벪벫벬벭벮벯벰\uFDD0벱벲벳벴벵벶벷벸벹벺벻\uFDD0\uFDD0\uFDD0벼벽벾벿변볁볂볃별볅볆볇볈볉볊볋볌\uFDD0볍볎볏볐병볒볓볔볕볖볗\uFDD0\uFDD0\uFDD0볘볙볚볛볜볝볞볟볠볡볢볣볤볥볦볧볨\uFDD0볩볪볫볬볭볮볯볰볱볲볳\uFDD0\uFDD0\uFDD0보복볶볷본볹볺볻볼볽볾볿봀봁봂봃봄\uFDD0봅봆봇봈봉봊봋봌봍봎봏\uFDD0\uFDD0\uFDD0봐봑봒봓봔봕봖봗봘봙봚봛봜봝봞봟봠\uFDD0봡봢봣봤봥봦봧봨봩봪봫\uFDD0\uFDD0\uFDD0봬봭봮봯봰봱봲봳봴봵봶봷봸봹봺봻봼\uFDD0봽봾봿뵀뵁뵂뵃뵄뵅뵆뵇"⟩,
    ⟨0xA6, 0x41, "뵈뵉뵊뵋뵌뵍뵎뵏뵐뵑뵒뵓뵔뵕뵖뵗뵘\uFDD0뵙뵚뵛뵜뵝뵞뵟뵠뵡뵢뵣\uFDD0\uFDD0\uFDD0뵤뵥뵦뵧뵨뵩뵪뵫뵬뵭뵮뵯뵰뵱뵲뵳뵴\uFDD0뵵뵶뵷뵸뵹뵺뵻뵼뵽뵾뵿\uFDD0\uFDD0\uFDD0부북붂붃분붅붆붇불붉붊붋붌붍붎붏붐\uFDD0붑붒붓붔붕붖붗붘붙붚붛\uFDD0\uFDD0\uFDD0붜붝붞붟붠붡붢붣붤붥붦붧붨붩붪붫붬\uFDD0붭붮붯붰붱붲붳붴붵붶붷\uFDD0\uFDD0\uFDD0붸붹붺붻붼붽붾붿뷀뷁뷂뷃뷄뷅뷆뷇뷈\uFDD0뷉뷊뷋뷌뷍뷎뷏뷐뷑뷒뷓\uFDD0\uFDD0\uFDD0뷔뷕뷖뷗뷘뷙뷚뷛뷜뷝뷞뷟뷠뷡뷢뷣뷤\uFDD0뷥뷦뷧뷨뷩뷪뷫뷬뷭뷮뷯"⟩,
    ⟨0xA7, 0x41, "뷰뷱뷲뷳뷴뷵뷶뷷뷸뷹뷺뷻뷼뷽뷾뷿븀\uFDD0븁븂븃븄븅븆븇븈븉븊븋\uFDD0\uFDD0\uFDD0브븍븎븏븐븑븒븓블븕븖븗븘븙븚븛븜\uFDD0븝븞븟븠븡븢븣븤븥븦븧\uFDD0\uFDD0\uFDD0븨븩븪븫븬븭븮븯븰븱븲븳븴븵븶븷븸\uFDD0븹븺븻븼븽븾븿빀빁빂빃\uFDD0\uFDD0\uFDD0비빅빆빇빈빉빊빋빌빍빎빏빐빑빒빓빔\uFDD0빕빖빗빘빙빚빛빜빝빞빟"⟩,
    ⟨0xA8, 0x41, "ㅃ\uFDD0\uFDD0\uFDD0\uFDD0\uFDD0\uFDD0\uFDD0\uFDD0\uFDD0\uFDD0\uFDD0\uFDD0\uFDD0\uFDD0\uFDD0\uFDD0\uFDD0\uFDD0\uFDD0\uFDD0\uFDD0\uFDD0\uFDD0\uFDD0\uFDD0\uFDD0\uFDD0\uFDD0\uFDD0\uFDD0\uFDD0빠빡빢빣빤빥빦빧빨빩빪빫빬빭빮빯빰\uFDD0빱빲빳빴빵빶빷빸빹빺빻\uFDD0\uFDD0\uFDD0빼빽빾빿뺀뺁뺂뺃뺄뺅뺆뺇뺈뺉뺊뺋뺌\uFDD0뺍뺎뺏뺐뺑뺒뺓뺔뺕뺖뺗\uFDD0\uFDD0\uFDD0뺘뺙뺚뺛뺜뺝뺞뺟뺠뺡뺢뺣뺤뺥뺦뺧뺨\uFDD0뺩뺪뺫뺬뺭뺮뺯뺰뺱뺲뺳\uFDD0\uFDD0\uFDD0뺴뺵뺶뺷뺸뺹뺺뺻뺼뺽뺾뺿뻀뻁뻂뻃뻄\uFDD0뻅뻆뻇뻈뻉뻊뻋뻌뻍뻎뻏\uFDD0\uFDD0\uFDD0뻐뻑뻒뻓뻔뻕뻖뻗뻘뻙뻚뻛뻜뻝뻞뻟뻠\uFDD0뻡뻢뻣뻤뻥뻦뻧뻨뻩뻪뻫"⟩,
    ⟨0xA9, 0x41, "뻬뻭뻮뻯뻰뻱뻲뻳뻴뻵뻶뻷뻸뻹뻺뻻뻼\uFDD0뻽뻾뻿뼀뼁뼂뼃뼄뼅뼆뼇\uFDD0\uFDD0\uFDD0뼈뼉뼊뼋뼌뼍뼎뼏뼐뼑뼒뼓뼔뼕뼖뼗뼘\uFDD0뼙뼚뼛뼜뼝뼞뼟뼠뼡뼢뼣\uFDD0\uFDD0\uFDD0뼤뼥뼦뼧뼨뼩뼪뼫뼬뼭뼮뼯뼰뼱뼲뼳뼴\uFDD0뼵뼶뼷뼸뼹뼺뼻뼼뼽뼾뼿\uFDD0\uFDD0\uFDD0뽀뽁뽂뽃뽄뽅뽆뽇뽈뽉뽊뽋뽌뽍뽎뽏뽐\uFDD0뽑뽒뽓뽔뽕뽖뽗뽘뽙뽚뽛\uFDD0\uFDD0\uFDD0뽜뽝뽞뽟뽠뽡뽢뽣뽤뽥뽦뽧뽨뽩뽪뽫뽬\uFDD0뽭뽮뽯뽰뽱뽲뽳뽴뽵뽶뽷\uFDD0\uFDD0\uFDD0뽸뽹뽺뽻뽼뽽뽾뽿뾀뾁뾂뾃뾄뾅뾆뾇뾈\uFDD0뾉뾊뾋뾌뾍뾎뾏뾐뾑뾒뾓"⟩,
    ⟨0xAA, 0x41, "뾔뾕뾖뾗뾘뾙뾚뾛뾜뾝뾞뾟뾠뾡뾢뾣뾤\uFDD0뾥뾦뾧뾨뾩뾪뾫뾬뾭뾮뾯\uFDD0\uFDD0\uFDD0뾰뾱뾲뾳뾴뾵뾶뾷뾸뾹뾺뾻뾼뾽뾾뾿뿀\uFDD0뿁뿂뿃뿄뿅뿆뿇뿈뿉뿊뿋\uFDD0\uFDD0\uFDD0뿌뿍뿎뿏뿐뿑뿒뿓뿔뿕뿖뿗뿘뿙뿚뿛뿜\uFDD0뿝뿞뿟뿠뿡뿢뿣뿤뿥뿦뿧\uFDD0\uFDD0\uFDD0뿨뿩뿪뿫뿬뿭뿮뿯뿰뿱뿲뿳뿴뿵뿶뿷뿸\uFDD0뿹뿺뿻뿼뿽뿾뿿쀀쀁쀂쀃\uFDD0\uFDD0\uFDD0쀄쀅쀆쀇쀈쀉쀊쀋쀌쀍쀎쀏쀐쀑쀒쀓쀔\uFDD0쀕쀖쀗쀘쀙쀚쀛쀜쀝쀞쀟\uFDD0\uFDD0\uFDD0쀠쀡쀢쀣쀤쀥쀦쀧쀨쀩쀪쀫쀬쀭쀮쀯쀰\uFDD0쀱쀲쀳쀴쀵쀶쀷쀸쀹쀺쀻"⟩,
    ⟨0xAB, 0x41, "쀼쀽쀾쀿쁀쁁쁂쁃쁄쁅쁆쁇쁈쁉쁊쁋쁌\uFDD0쁍쁎쁏쁐쁑쁒쁓쁔쁕쁖쁗\uFDD0\uFDD0\uFDD0쁘쁙쁚쁛쁜쁝쁞쁟쁠쁡쁢쁣쁤쁥쁦쁧쁨\uFDD0쁩쁪쁫쁬쁭쁮쁯쁰쁱쁲쁳\uFDD0\uFDD0\uFDD0쁴쁵쁶쁷쁸쁹쁺쁻쁼쁽쁾쁿삀삁삂삃삄\uFDD0삅삆삇삈삉삊삋삌삍삎삏\uFDD0\uFDD0\uFDD0삐삑삒삓삔삕삖삗삘삙삚삛삜삝삞삟삠\uFDD0삡삢삣삤삥삦삧삨삩삪삫"⟩,
    ⟨0xAC, 0x41, "ㅅ\uFDD0\uFDD0\uFDD0\uFDD0\uFDD0\uFDD0\uFDD0\uFDD0\uFDD0\uFDD0\uFDD0\uFDD0\uFDD0\uFDD0\uFDD0\uFDD0\uFDD0\uFDD0\uFDD0\uFDD0\uFDD0\uFDD0\uFDD0\uFDD0\uFDD0\uFDD0\uFDD0\uFDD0\uFDD0\uFDD0\uFDD0사삭삮삯산삱삲삳살삵삶삷삸삹삺삻삼\uFDD0삽삾삿샀상샂샃샄샅샆샇\uFDD0\uFDD0\uFDD0새색샊샋샌샍샎샏샐샑샒샓샔샕샖샗샘\uFDD0샙샚샛샜생샞샟샠샡샢샣\uFDD0\uFDD0\uFDD0샤샥샦샧샨샩샪샫샬샭샮샯샰샱샲샳샴\uFDD0샵샶샷샸샹샺샻샼샽샾샿\uFDD0\uFDD0\uFDD0섀섁섂섃섄섅섆섇섈섉섊섋섌섍섎섏섐\uFDD0섑섒섓섔섕섖섗섘섙섚섛\uFDD0\uFDD0\uFDD0서석섞섟선섡섢섣설섥섦섧섨섩섪섫섬\uFDD0섭섮섯섰성섲섳섴섵섶섷"⟩,
    ⟨0xAD, 0x41, "세섹섺섻센섽섾섿셀셁셂셃셄셅셆셇셈\uFDD0셉셊셋셌셍셎셏셐셑셒셓\uFDD0\uFDD0\uFDD0셔셕셖셗션셙셚셛셜셝셞셟셠셡셢셣셤\uFDD0셥셦셧셨셩셪셫셬셭셮셯\uFDD0\uFDD0\uFDD0셰셱셲셳셴셵셶셷셸셹셺셻셼셽셾셿솀\uFDD0솁솂솃솄솅솆솇솈솉솊솋\uFDD0\uFDD0\uFDD0소속솎솏손솑솒솓솔솕솖솗솘솙솚솛솜\uFDD0솝솞솟솠송솢솣솤솥솦솧\uFDD0\uFDD0\uFDD0솨솩솪솫솬솭솮솯솰솱솲솳솴솵솶솷솸\uFDD0솹솺솻솼솽솾솿쇀쇁쇂쇃\uFDD0\uFDD0\uFDD0쇄쇅쇆쇇쇈쇉쇊쇋쇌쇍쇎쇏쇐쇑쇒쇓쇔\uFDD0쇕쇖쇗쇘쇙쇚쇛쇜쇝쇞쇟"⟩,
    ⟨0xAE, 0x41, "쇠쇡쇢쇣쇤쇥쇦쇧쇨쇩쇪쇫쇬쇭쇮쇯쇰\uFDD0쇱쇲쇳쇴쇵쇶쇷쇸쇹쇺쇻\uFDD0\uFDD0\uFDD0쇼쇽쇾쇿숀숁숂숃숄숅숆숇숈숉숊숋숌\uFDD0숍숎숏숐숑숒숓숔숕숖숗\uFDD0\uFDD0\uFDD0수숙숚숛순숝숞숟술숡숢숣숤숥숦숧숨\uFDD0숩숪숫숬숭숮숯숰숱숲숳\uFDD0\uFDD0\uFDD0숴숵숶숷숸숹숺숻숼숽숾숿쉀쉁쉂쉃쉄\uFDD0쉅쉆쉇쉈쉉쉊쉋쉌쉍쉎쉏\uFDD0\uFDD0\uFDD0쉐쉑쉒쉓쉔쉕쉖쉗쉘쉙쉚쉛쉜쉝쉞쉟쉠\uFDD0쉡쉢쉣쉤쉥쉦쉧쉨쉩쉪쉫\uFDD0\uFDD0\uFDD0쉬쉭쉮쉯쉰쉱쉲쉳쉴쉵쉶쉷쉸쉹쉺쉻쉼\uFDD0쉽쉾쉿슀슁슂슃슄슅슆슇"⟩,
    ⟨0xAF, 0x41, "슈슉슊슋슌슍슎슏슐슑슒슓슔슕슖슗슘\uFDD0슙슚슛슜슝슞슟슠슡슢슣\uFDD0\uFDD0\uFDD0스슥슦슧슨슩슪슫슬슭슮슯슰슱슲슳슴\uFDD0습슶슷슸승슺슻슼슽슾슿\uFDD0\uFDD0\uFDD0싀싁싂싃싄싅싆싇싈싉싊싋싌싍싎싏싐\uFDD0싑싒싓싔싕싖싗싘싙싚싛\uFDD0\uFDD0\uFDD0시식싞싟신싡싢싣실싥싦싧싨싩싪싫심\uFDD0십싮싯싰싱싲싳싴싵싶싷"⟩,
    ⟨0xB0, 0x41, "ㅆ\uFDD0\uFDD0\uFDD0\uFDD0\uFDD0\uFDD0\uFDD0\uFDD0\uFDD0\uFDD0\uFDD0\uFDD0\uFDD0\uFDD0\uFDD0\uFDD0\uFDD0\uFDD0\uFDD0\uFDD0\uFDD0\uFDD0\uFDD0\uFDD0\uFDD0\uFDD0\uFDD0\uFDD0\uFDD0\uFDD0\uFDD0싸싹싺싻싼싽싾싿쌀쌁쌂쌃쌄쌅쌆쌇쌈\uFDD0쌉쌊쌋쌌쌍쌎쌏쌐쌑쌒쌓\uFDD0\uFDD0\uFDD0쌔쌕쌖쌗쌘쌙쌚쌛쌜쌝쌞쌟쌠쌡쌢쌣쌤\uFDD0쌥쌦쌧쌨쌩쌪쌫쌬쌭쌮쌯\uFDD0\uFDD0\uFDD0쌰쌱쌲쌳쌴쌵쌶쌷쌸쌹쌺쌻쌼쌽쌾쌿썀\uFDD0썁썂썃썄썅썆썇썈썉썊썋\uFDD0\uFDD0\uFDD0썌썍썎썏썐썑썒썓썔썕썖썗썘썙썚썛썜\uFDD0썝썞썟썠썡썢썣썤썥썦썧\uFDD0\uFDD0\uFDD0써썩썪썫썬썭썮썯썰썱썲썳썴썵썶썷썸\uFDD0썹썺썻썼썽썾썿쎀쎁쎂쎃"⟩,
    ⟨0xB1, 0x41, "쎄쎅쎆쎇쎈쎉쎊쎋쎌쎍쎎쎏쎐쎑쎒쎓쎔\uFDD0쎕쎖쎗쎘쎙쎚쎛쎜쎝쎞쎟\uFDD0\uFDD0\uFDD0쎠쎡쎢쎣쎤쎥쎦쎧쎨쎩쎪쎫쎬쎭쎮쎯쎰\uFDD0쎱쎲쎳쎴쎵쎶쎷쎸쎹쎺쎻\uFDD0\uFDD0\uFDD0쎼쎽쎾쎿쏀쏁쏂쏃쏄쏅쏆쏇쏈쏉쏊쏋쏌\uFDD0쏍쏎쏏쏐쏑쏒쏓쏔쏕쏖쏗\uFDD0\uFDD0\uFDD0쏘쏙쏚쏛쏜쏝쏞쏟쏠쏡쏢쏣쏤쏥쏦쏧쏨\uFDD0쏩쏪쏫쏬쏭쏮쏯쏰쏱쏲쏳\uFDD0\uFDD0\uFDD0쏴쏵쏶쏷쏸쏹쏺쏻쏼쏽쏾쏿쐀쐁쐂쐃쐄\uFDD0쐅쐆쐇쐈쐉쐊쐋쐌쐍쐎쐏\uFDD0\uFDD0\uFDD0쐐쐑쐒쐓쐔쐕쐖쐗쐘쐙쐚쐛쐜쐝쐞쐟쐠\uFDD0쐡쐢쐣쐤쐥쐦쐧쐨쐩쐪쐫"⟩,
    ⟨0xB2, 0x41, "쐬쐭쐮쐯쐰쐱쐲쐳쐴쐵쐶쐷쐸쐹쐺쐻쐼\uFDD0쐽쐾쐿쑀쑁쑂쑃쑄쑅쑆쑇\uFDD0\uFDD0\uFDD0쑈쑉쑊쑋쑌쑍쑎쑏쑐쑑쑒쑓쑔쑕쑖쑗쑘\uFDD0쑙쑚쑛쑜쑝쑞쑟쑠쑡쑢쑣\uFDD0\uFDD0\uFDD0쑤쑥쑦쑧쑨쑩쑪쑫쑬쑭쑮쑯쑰쑱쑲쑳쑴\uFDD0쑵쑶쑷쑸쑹쑺쑻쑼쑽쑾쑿\uFDD0\uFDD0\uFDD0쒀쒁쒂쒃쒄쒅쒆쒇쒈쒉쒊쒋쒌쒍쒎쒏쒐\uFDD0쒑쒒쒓쒔쒕쒖쒗쒘쒙쒚쒛\uFDD0\uFDD0\uFDD0쒜쒝쒞쒟쒠쒡쒢쒣쒤쒥쒦쒧쒨쒩쒪쒫쒬\uFDD0쒭쒮쒯쒰쒱쒲쒳쒴쒵쒶쒷\uFDD0\uFDD0\uFDD0쒸쒹쒺쒻쒼쒽쒾쒿쓀쓁쓂쓃쓄쓅쓆쓇쓈\uFDD0쓉쓊쓋쓌쓍쓎쓏쓐쓑쓒쓓"⟩,
    ⟨0xB3, 0x41, "쓔쓕쓖쓗쓘쓙쓚쓛쓜쓝쓞쓟쓠쓡쓢쓣쓤\uFDD0쓥쓦쓧쓨쓩쓪쓫쓬쓭쓮쓯\uFDD0\uFDD0\uFDD0쓰쓱쓲쓳쓴쓵쓶쓷쓸쓹쓺쓻쓼쓽쓾쓿씀\uFDD0씁씂씃씄씅씆씇씈씉씊씋\uFDD0\uFDD0\uFDD0씌씍씎씏씐씑씒씓씔씕씖씗씘씙씚씛씜\uFDD0씝씞씟씠씡씢씣씤씥씦씧\uFDD0\uFDD0\uFDD0씨씩씪씫씬씭씮씯씰씱씲씳씴씵씶씷씸\uFDD0씹씺씻씼씽씾씿앀앁앂앃"⟩,
    ⟨0xB4, 0x41, "ㅇ\uFDD0\uFDD0\uFDD0\uFDD0\uFDD0\uFDD0\uFDD0\uFDD0\uFDD0\uFDD0\uFDD0\uFDD0\uFDD0\uFDD0\uFDD0\uFDD0\uFDD0\uFDD0\uFDD0\uFDD0\uFDD0\uFDD0\uFDD0\uFDD0\uFDD0\uFDD0\uFDD0\uFDD0\uFDD0\uFDD0\uFDD0아악앆앇안앉않앋알앍앎앏앐앑앒앓암\uFDD0압앖앗았앙앚앛앜앝앞앟\uFDD0\uFDD0\uFDD0애액앢앣앤앥앦앧앨앩앪앫앬앭앮앯앰\uFDD0앱앲앳앴앵앶앷앸앹앺앻\uFDD0\uFDD0\uFDD0야약앾앿얀얁얂얃얄얅얆얇얈얉얊얋얌\uFDD0얍얎얏얐양얒얓얔얕얖얗\uFDD0\uFDD0\uFDD0얘얙얚얛얜얝얞얟얠얡얢얣얤얥얦얧얨\uFDD0얩얪얫얬얭얮얯얰얱얲얳\uFDD0\uFDD0\uFDD0어억얶얷언얹얺얻얼얽얾얿엀엁엂엃엄\uFDD0업없엇었엉엊엋엌엍엎엏"⟩,
    ⟨0xB5, 0x41, "에엑엒엓엔엕엖엗엘엙엚엛엜엝엞엟엠\uFDD0엡엢엣엤엥엦엧엨엩엪엫\uFDD0\uFDD0\uFDD0여역엮엯연엱엲엳열엵엶엷엸엹엺엻염\uFDD0엽엾엿였영옂옃옄옅옆옇\uFDD0\uFDD0\uFDD0예옉옊옋옌옍옎옏옐옑옒옓옔옕옖옗옘\uFDD0옙옚옛옜옝옞옟옠옡옢옣\uFDD0\uFDD0\uFDD0오옥옦옧온옩옪옫올옭옮옯옰옱옲옳옴\uFDD0옵옶옷옸옹옺옻옼옽옾옿\uFDD0\uFDD0\uFDD0와왁왂왃완왅왆왇왈왉왊왋왌왍왎왏왐\uFDD0왑왒왓왔왕왖왗왘왙왚왛\uFDD0\uFDD0\uFDD0왜왝왞왟왠왡왢왣왤왥왦왧왨왩왪왫왬\uFDD0왭왮왯왰왱왲왳왴왵왶왷"⟩,
    ⟨0xB6, 0x41, "외왹왺왻왼왽왾왿욀욁욂욃욄욅욆욇욈\uFDD0욉욊욋욌욍욎욏욐욑욒욓\uFDD0\uFDD0\uFDD0요욕욖욗욘욙욚욛욜욝욞욟욠욡욢욣욤\uFDD0욥욦욧욨용욪욫욬욭욮욯\uFDD0\uFDD0\uFDD0우욱욲욳운욵욶욷울욹욺욻욼욽욾욿움\uFDD0웁웂웃웄웅웆웇웈웉웊웋\uFDD0\uFDD0\uFDD0워웍웎웏원웑웒웓월웕웖웗웘웙웚웛웜\uFDD0웝웞웟웠웡웢웣웤웥웦웧\uFDD0\uFDD0\uFDD0웨웩웪웫웬웭웮웯웰웱웲웳웴웵웶웷웸\uFDD0웹웺웻웼웽웾웿윀윁윂윃\uFDD0\uFDD0\uFDD0위윅윆윇윈윉윊윋윌윍윎윏윐윑윒윓윔\uFDD0윕윖윗윘윙윚윛윜윝윞윟"⟩,
    ⟨0xB7, 0x41, "유육윢윣윤윥윦윧율윩윪윫윬윭윮윯윰\uFDD0윱윲윳윴융윶윷윸윹윺윻\uFDD0\uFDD0\uFDD0으윽윾윿은읁읂읃을읅읆읇읈읉읊읋음\uFDD0읍읎읏읐응읒읓읔읕읖읗\uFDD0\uFDD0\uFDD0의읙읚읛읜읝읞읟읠읡읢읣읤읥읦읧읨\uFDD0읩읪읫읬읭읮읯읰읱읲읳\uFDD0\uFDD0\uFDD0이익읶읷인읹읺읻일읽읾읿잀잁잂잃임\uFDD0입잆잇있잉잊잋잌잍잎잏"⟩,
    ⟨0xB8, 0x41, "ㅈ\uFDD0\uFDD0\uFDD0\uFDD0\uFDD0\uFDD0\uFDD0\uFDD0\uFDD0\uFDD0\uFDD0\uFDD0\uFDD0\uFDD0\uFDD0\uFDD0\uFDD0\uFDD0\uFDD0\uFDD0\uFDD0\uFDD0\uFDD0\uFDD0\uFDD0\uFDD0\uFDD0\uFDD0\uFDD0\uFDD0\uFDD0자작잒잓잔잕잖잗잘잙잚잛잜잝잞잟잠\uFDD0잡잢잣잤장잦잧잨잩잪잫\uFDD0\uFDD0\uFDD0재잭잮잯잰잱잲잳잴잵잶잷잸잹잺잻잼\uFDD0잽잾잿쟀쟁쟂쟃쟄쟅쟆쟇\uFDD0\uFDD0\uFDD0쟈쟉쟊쟋쟌쟍쟎쟏쟐쟑쟒쟓쟔쟕쟖쟗쟘\uFDD0쟙쟚쟛쟜쟝쟞쟟쟠쟡쟢쟣\uFDD0\uFDD0\uFDD0쟤쟥쟦쟧쟨쟩쟪쟫쟬쟭쟮쟯쟰쟱쟲쟳쟴\uFDD0쟵쟶쟷쟸쟹쟺쟻쟼쟽쟾쟿\uFDD0\uFDD0\uFDD0저적젂젃전젅젆젇절젉젊젋젌젍젎젏점\uFDD0접젒젓젔정젖젗젘젙젚젛"⟩,
    ⟨0xB9, 0x41, "제젝젞젟젠젡젢젣젤젥젦젧젨젩젪젫젬\uFDD0젭젮젯젰젱젲젳젴젵젶젷\uFDD0\uFDD0\uFDD0져젹젺젻젼젽젾젿졀졁졂졃졄졅졆졇졈\uFDD0졉졊졋졌졍졎졏졐졑졒졓\uFDD0\uFDD0\uFDD0졔졕졖졗졘졙졚졛졜졝졞졟졠졡졢졣졤\uFDD0졥졦졧졨졩졪졫졬졭졮졯\uFDD0\uFDD0\uFDD0조족졲졳존졵졶졷졸졹졺졻졼졽졾졿좀\uFDD0좁좂좃좄종좆좇좈좉좊좋\uFDD0\uFDD0\uFDD0좌좍좎좏좐좑좒좓좔좕좖좗좘좙좚좛좜\uFDD0좝좞좟좠좡좢좣좤좥좦좧\uFDD0\uFDD0\uFDD0좨좩좪좫좬좭좮좯좰좱좲좳좴좵좶좷좸\uFDD0좹좺좻좼좽좾좿죀죁죂죃"⟩,
    ⟨0xBA, 0x41, "죄죅죆죇죈죉죊죋죌죍죎죏죐죑죒죓죔\uFDD0죕죖죗죘죙죚죛죜죝죞죟\uFDD0\uFDD0\uFDD0죠죡죢죣죤죥죦죧죨죩죪죫죬죭죮죯죰\uFDD0죱죲죳죴죵죶죷죸죹죺죻\uFDD0\uFDD0\uFDD0주죽죾죿준줁줂줃줄줅줆줇줈줉줊줋줌\uFDD0줍줎줏줐중줒줓줔줕줖줗\uFDD0\uFDD0\uFDD0줘줙줚줛줜줝줞줟줠줡줢줣줤줥줦줧줨\uFDD0줩줪줫줬줭줮줯줰줱줲줳\uFDD0\uFDD0\uFDD0줴줵줶줷줸줹줺줻줼줽줾줿쥀쥁쥂쥃쥄\uFDD0쥅쥆쥇쥈쥉쥊쥋쥌쥍쥎쥏\uFDD0\uFDD0\uFDD0쥐쥑쥒쥓쥔쥕쥖쥗쥘쥙쥚쥛쥜쥝쥞쥟쥠\uFDD0쥡쥢쥣쥤쥥쥦쥧쥨쥩쥪쥫"⟩,
    ⟨0xBB, 0x41, "쥬쥭쥮쥯쥰쥱쥲쥳쥴쥵쥶쥷쥸쥹쥺쥻쥼\uFDD0쥽쥾쥿즀즁즂즃즄즅즆즇\uFDD0\uFDD0\uFDD0즈즉즊즋즌즍즎즏즐즑즒즓즔즕즖즗즘\uFDD0즙즚즛즜증즞즟즠즡즢즣\uFDD0\uFDD0\uFDD0즤즥즦즧즨즩즪즫즬즭즮즯즰즱즲즳즴\uFDD0즵즶즷즸즹즺즻즼즽즾즿\uFDD0\uFDD0\uFDD0지직짂짃진짅짆짇질짉짊짋짌짍짎짏짐\uFDD0집짒짓짔징짖짗짘짙짚짛"⟩,
    ⟨0xBC, 0x41, "ㅉ\uFDD0\uFDD0\uFDD0\uFDD0\uFDD0\uFDD0\uFDD0\uFDD0\uFDD0\uFDD0\uFDD0\uFDD0\uFDD0\uFDD0\uFDD0\uFDD0\uFDD0\uFDD0\uFDD0\uFDD0\uFDD0\uFDD0\uFDD0\uFDD0\uFDD0\uFDD0\uFDD0\uFDD0\uFDD0\uFDD0\uFDD0짜짝짞짟짠짡짢짣짤짥짦짧짨짩짪짫짬\uFDD0짭짮짯짰짱짲짳짴짵짶짷\uFDD0\uFDD0\uFDD0째짹짺짻짼짽짾짿쨀쨁쨂쨃쨄쨅쨆쨇쨈\uFDD0쨉쨊쨋쨌쨍쨎쨏쨐쨑쨒쨓\uFDD0\uFDD0\uFDD0쨔쨕쨖쨗쨘쨙쨚쨛쨜쨝쨞쨟쨠쨡쨢쨣쨤\uFDD0쨥쨦쨧쨨쨩쨪쨫쨬쨭쨮쨯\uFDD0\uFDD0\uFDD0쨰쨱쨲쨳쨴쨵쨶쨷쨸쨹쨺쨻쨼쨽쨾쨿쩀\uFDD0쩁쩂쩃쩄쩅쩆쩇쩈쩉쩊쩋\uFDD0\uFDD0\uFDD0쩌쩍쩎쩏쩐쩑쩒쩓쩔쩕쩖쩗쩘쩙쩚쩛쩜\uFDD0쩝쩞쩟쩠쩡쩢쩣쩤쩥쩦쩧"⟩,
    ⟨0xBD, 0x41, "쩨쩩쩪쩫쩬쩭쩮쩯쩰쩱쩲쩳쩴쩵쩶쩷쩸\uFDD0쩹쩺쩻쩼쩽쩾쩿쪀쪁쪂쪃\uFDD0\uFDD0\uFDD0쪄쪅쪆쪇쪈쪉쪊쪋쪌쪍쪎쪏쪐쪑쪒쪓쪔\uFDD0쪕쪖쪗쪘쪙쪚쪛쪜쪝쪞쪟\uFDD0\uFDD0\uFDD0쪠쪡쪢쪣쪤쪥쪦쪧쪨쪩쪪쪫쪬쪭쪮쪯쪰\uFDD0쪱쪲쪳쪴쪵쪶쪷쪸쪹쪺쪻\uFDD0\uFDD0\uFDD0쪼쪽쪾쪿쫀쫁쫂쫃쫄쫅쫆쫇쫈쫉쫊쫋쫌\uFDD0쫍쫎쫏쫐쫑쫒쫓쫔쫕쫖쫗\uFDD0\uFDD0\uFDD0쫘쫙쫚쫛쫜쫝쫞쫟쫠쫡쫢쫣쫤쫥쫦쫧쫨\uFDD0쫩쫪쫫쫬쫭쫮쫯쫰쫱쫲쫳\uFDD0\uFDD0\uFDD0쫴쫵쫶쫷쫸쫹쫺쫻쫼쫽쫾쫿쬀쬁쬂쬃쬄\uFDD0쬅쬆쬇쬈쬉쬊쬋쬌쬍쬎쬏"⟩,
    ⟨0xBE, 0x41, "쬐쬑쬒쬓쬔쬕쬖쬗쬘쬙쬚쬛쬜쬝쬞쬟쬠\uFDD0쬡쬢쬣쬤쬥쬦쬧쬨쬩쬪쬫\uFDD0\uFDD0\uFDD0쬬쬭쬮쬯쬰쬱쬲쬳쬴쬵쬶쬷쬸쬹쬺쬻쬼\uFDD0쬽쬾쬿쭀쭁쭂쭃쭄쭅쭆쭇\uFDD0\uFDD0\uFDD0쭈쭉쭊쭋쭌쭍쭎쭏쭐쭑쭒쭓쭔쭕쭖쭗쭘\uFDD0쭙쭚쭛쭜쭝쭞쭟쭠쭡쭢쭣\uFDD0\uFDD0\uFDD0쭤쭥쭦쭧쭨쭩쭪쭫쭬쭭쭮쭯쭰쭱쭲쭳쭴\uFDD0쭵쭶쭷쭸쭹쭺쭻쭼쭽쭾쭿\uFDD0\uFDD0\uFDD0쮀쮁쮂쮃쮄쮅쮆쮇쮈쮉쮊쮋쮌쮍쮎쮏쮐\uFDD0쮑쮒쮓쮔쮕쮖쮗쮘쮙쮚쮛\uFDD0\uFDD0\uFDD0쮜쮝쮞쮟쮠쮡쮢쮣쮤쮥쮦쮧쮨쮩쮪쮫쮬\uFDD0쮭쮮쮯쮰쮱쮲쮳쮴쮵쮶쮷"⟩,
    ⟨0xBF, 0x41, "쮸쮹쮺쮻쮼쮽쮾쮿쯀쯁쯂쯃쯄쯅쯆쯇쯈\uFDD0쯉쯊쯋쯌쯍쯎쯏쯐쯑쯒쯓\uFDD0\uFDD0\uFDD0쯔쯕쯖쯗쯘쯙쯚쯛쯜쯝쯞쯟쯠쯡쯢쯣쯤\uFDD0쯥쯦쯧쯨쯩쯪쯫쯬쯭쯮쯯\uFDD0\uFDD0\uFDD0쯰쯱쯲쯳쯴쯵쯶쯷쯸쯹쯺쯻쯼쯽쯾쯿찀\uFDD0찁찂찃찄찅찆찇찈찉찊찋\uFDD0\uFDD0\uFDD0찌찍찎찏찐찑찒찓찔찕찖찗찘찙찚찛찜\uFDD0찝찞찟찠찡찢찣찤찥찦찧"⟩,
    ⟨0xC0, 0x41, "ㅊ\uFDD0\uFDD0\uFDD0\uFDD0\uFDD0\uFDD0\uFDD0\uFDD0\uFDD0\uFDD0\uFDD0\uFDD0\uFDD0\uFDD0\uFDD0\uFDD0\uFDD0\uFDD0\uFDD0\uFDD0\uFDD0\uFDD0\uFDD0\uFDD0\uFDD0\uFDD0\uFDD0\uFDD0\uFDD0\uFDD0\uFDD0차착찪찫찬찭찮찯찰찱찲찳찴찵찶찷참\uFDD0찹찺찻찼창찾찿챀챁챂챃\uFDD0\uFDD0\uFDD0채책챆챇챈챉챊챋챌챍챎챏챐챑챒챓챔\uFDD0챕챖챗챘챙챚챛챜챝챞챟\uFDD0\uFDD0\uFDD0챠챡챢챣챤챥챦챧챨챩챪챫챬챭챮챯챰\uFDD0챱챲챳챴챵챶챷챸챹챺챻\uFDD0\uFDD0\uFDD0챼챽챾챿첀첁첂첃첄첅첆첇첈첉첊첋첌\uFDD0첍첎첏첐첑첒첓첔첕첖첗\uFDD0\uFDD0\uFDD0처척첚첛천첝첞첟철첡첢첣첤첥첦첧첨\uFDD0첩첪첫첬청첮첯첰첱첲첳"⟩,
    ⟨0xC1, 0x41, "체첵첶첷첸첹첺첻첼첽첾첿쳀쳁쳂쳃쳄\uFDD0쳅쳆쳇쳈쳉쳊쳋쳌쳍쳎쳏\uFDD0\uFDD0\uFDD0쳐쳑쳒쳓쳔쳕쳖쳗쳘쳙쳚쳛쳜쳝쳞쳟쳠\uFDD0쳡쳢쳣쳤쳥쳦쳧쳨쳩쳪쳫\uFDD0\uFDD0\uFDD0쳬쳭쳮쳯쳰쳱쳲쳳쳴쳵쳶쳷쳸쳹쳺쳻쳼\uFDD0쳽쳾쳿촀촁촂촃촄촅촆촇\uFDD0\uFDD0\uFDD0초촉촊촋촌촍촎촏촐촑촒촓촔촕촖촗촘\uFDD0촙촚촛촜총촞촟촠촡촢촣\uFDD0\uFDD0\uFDD0촤촥촦촧촨촩촪촫촬촭촮촯촰촱촲촳촴\uFDD0촵촶촷촸촹촺촻촼촽촾촿\uFDD0\uFDD0\uFDD0쵀쵁쵂쵃쵄쵅쵆쵇쵈쵉쵊쵋쵌쵍쵎쵏쵐\uFDD0쵑쵒쵓쵔쵕쵖쵗쵘쵙쵚쵛"⟩,
    ⟨0xC2, 0x41, "최쵝쵞쵟쵠쵡쵢쵣쵤쵥쵦쵧쵨쵩쵪쵫쵬\uFDD0쵭쵮쵯쵰쵱쵲쵳쵴쵵쵶쵷\uFDD0\uFDD0\uFDD0쵸쵹쵺쵻쵼쵽쵾쵿춀춁춂춃춄춅춆춇춈\uFDD0춉춊춋춌춍춎춏춐춑춒춓\uFDD0\uFDD0\uFDD0추축춖춗춘춙춚춛출춝춞춟춠춡춢춣춤\uFDD0춥춦춧춨충춪춫춬춭춮춯\uFDD0\uFDD0\uFDD0춰춱춲춳춴춵춶춷춸춹춺춻춼춽춾춿췀\uFDD0췁췂췃췄췅췆췇췈췉췊췋\uFDD0\uFDD0\uFDD0췌췍췎췏췐췑췒췓췔췕췖췗췘췙췚췛췜\uFDD0췝췞췟췠췡췢췣췤췥췦췧\uFDD0\uFDD0\uFDD0취췩췪췫췬췭췮췯췰췱췲췳췴췵췶췷췸\uFDD0췹췺췻췼췽췾췿츀츁츂츃"⟩,
    ⟨0xC3, 0x41, "츄츅츆츇츈츉츊츋츌츍츎츏츐츑츒츓츔\uFDD0츕츖츗츘츙츚츛츜츝츞츟\uFDD0\uFDD0\uFDD0츠측츢츣츤츥츦츧츨츩츪츫츬츭츮츯츰\uFDD0츱츲츳츴층츶츷츸츹츺츻\uFDD0\uFDD0\uFDD0츼츽츾츿칀칁칂칃칄칅칆칇칈칉칊칋칌\uFDD0칍칎칏칐칑칒칓칔칕칖칗\uFDD0\uFDD0\uFDD0치칙칚칛친칝칞칟칠칡칢칣칤칥칦칧침\uFDD0칩칪칫칬칭칮칯칰칱칲칳"⟩,
    ⟨0xC4, 0x41, "ㅋ\uFDD0\uFDD0\uFDD0\uFDD0\uFDD0\uFDD0\uFDD0\uFDD0\uFDD0\uFDD0\uFDD0\uFDD0\uFDD0\uFDD0\uFDD0\uFDD0\uFDD0\uFDD0\uFDD0\uFDD0\uFDD0\uFDD0\uFDD0\uFDD0\uFDD0\uFDD0\uFDD0\uFDD0\uFDD0\uFDD0\uFDD0카칵칶칷칸칹칺칻칼칽칾칿캀캁캂캃캄\uFDD0캅캆캇캈캉캊캋캌캍캎캏\uFDD0\uFDD0\uFDD0캐캑캒캓캔캕캖캗캘캙캚캛캜캝캞캟캠\uFDD0캡캢캣캤캥캦캧캨캩캪캫\uFDD0\uFDD0\uFDD0캬캭캮캯캰캱캲캳캴캵캶캷캸캹캺캻캼\uFDD0캽캾캿컀컁컂컃컄컅컆컇\uFDD0\uFDD0\uFDD0컈컉컊컋컌컍컎컏컐컑컒컓컔컕컖컗컘\uFDD0컙컚컛컜컝컞컟컠컡컢컣\uFDD0\uFDD0\uFDD0커컥컦컧컨컩컪컫컬컭컮컯컰컱컲컳컴\uFDD0컵컶컷컸컹컺컻컼컽컾컿"⟩,
    ⟨0xC5, 0x41, "케켁켂켃켄켅켆켇켈켉켊켋켌켍켎켏켐\uFDD0켑켒켓켔켕켖켗켘켙켚켛\uFDD0\uFDD0\uFDD0켜켝켞켟켠켡켢켣켤켥켦켧켨켩켪켫켬\uFDD0켭켮켯켰켱켲켳켴켵켶켷\uFDD0\uFDD0\uFDD0켸켹켺켻켼켽켾켿콀콁콂콃콄콅콆콇콈\uFDD0콉콊콋콌콍콎콏콐콑콒콓\uFDD0\uFDD0\uFDD0코콕콖콗콘콙콚콛콜콝콞콟콠콡콢콣콤\uFDD0콥콦콧콨콩콪콫콬콭콮콯\uFDD0\uFDD0\uFDD0콰콱콲콳콴콵콶콷콸콹콺콻콼콽콾콿쾀\uFDD0쾁쾂쾃쾄쾅쾆쾇쾈쾉쾊쾋\uFDD0\uFDD0\uFDD0쾌쾍쾎쾏쾐쾑쾒쾓쾔쾕쾖쾗쾘쾙쾚쾛쾜\uFDD0쾝쾞쾟쾠쾡쾢쾣쾤쾥쾦쾧"⟩,
    ⟨0xC6, 0x41, "쾨쾩쾪쾫쾬쾭쾮쾯쾰쾱쾲쾳쾴쾵쾶쾷쾸\uFDD0쾹쾺쾻쾼쾽쾾쾿쿀쿁쿂쿃\uFDD0\uFDD0\uFDD0쿄쿅쿆쿇쿈쿉쿊쿋쿌쿍쿎쿏쿐쿑쿒쿓쿔\uFDD0쿕쿖쿗쿘쿙쿚쿛쿜쿝쿞쿟\uFDD0\uFDD0\uFDD0쿠쿡쿢쿣쿤쿥쿦쿧쿨쿩쿪쿫쿬쿭쿮쿯쿰\uFDD0쿱쿲쿳쿴쿵쿶쿷쿸쿹쿺쿻\uFDD0\uFDD0\uFDD0쿼쿽쿾쿿퀀퀁퀂퀃퀄퀅퀆퀇퀈퀉퀊퀋퀌\uFDD0퀍퀎퀏퀐퀑퀒퀓퀔퀕퀖퀗\uFDD0\uFDD0\uFDD0퀘퀙퀚퀛퀜퀝퀞퀟퀠퀡퀢퀣퀤퀥퀦퀧퀨\uFDD0퀩퀪퀫퀬퀭퀮퀯퀰퀱퀲퀳\uFDD0\uFDD0\uFDD0퀴퀵퀶퀷퀸퀹퀺퀻퀼퀽퀾퀿큀큁큂큃큄\uFDD0큅큆큇큈큉큊큋큌큍큎큏"⟩,
    ⟨0xC7, 0x41, "큐큑큒큓큔큕큖큗큘큙큚큛큜큝큞큟큠\uFDD0큡큢큣큤큥큦큧큨큩큪큫\uFDD0\uFDD0\uFDD0크큭큮큯큰큱큲큳클큵큶큷큸큹큺큻큼\uFDD0큽큾큿킀킁킂킃킄킅킆킇\uFDD0\uFDD0\uFDD0킈킉킊킋킌킍킎킏킐킑킒킓킔킕킖킗킘\uFDD0킙킚킛킜킝킞킟킠킡킢킣\uFDD0\uFDD0\uFDD0키킥킦킧킨킩킪킫킬킭킮킯킰킱킲킳킴\uFDD0킵킶킷킸킹킺킻킼킽킾킿"⟩,
    ⟨0xC8, 0x41, "ㅌ\uFDD0\uFDD0\uFDD0\uFDD0\uFDD0\uFDD0\uFDD0\uFDD0\uFDD0\uFDD0\uFDD0\uFDD0\uFDD0\uFDD0\uFDD0\uFDD0\uFDD0\uFDD0\uFDD0\uFDD0\uFDD0\uFDD0\uFDD0\uFDD0\uFDD0\uFDD0\uFDD0\uFDD0\uFDD0\uFDD0\uFDD0타탁탂탃탄탅탆탇탈탉탊탋탌탍탎탏탐\uFDD0탑탒탓탔탕탖탗탘탙탚탛\uFDD0\uFDD0\uFDD0태택탞탟탠탡탢탣탤탥탦탧탨탩탪탫탬\uFDD0탭탮탯탰탱탲탳탴탵탶탷\uFDD0\uFDD0\uFDD0탸탹탺탻탼탽탾탿턀턁턂턃턄턅턆턇턈\uFDD0턉턊턋턌턍턎턏턐턑턒턓\uFDD0\uFDD0\uFDD0턔턕턖턗턘턙턚턛턜턝턞턟턠턡턢턣턤\uFDD0턥턦턧턨턩턪턫턬턭턮턯\uFDD0\uFDD0\uFDD0터턱턲턳턴턵턶턷털턹턺턻턼턽턾턿텀\uFDD0텁텂텃텄텅텆텇텈텉텊텋"⟩,
    ⟨0xC9, 0x41, "테텍텎텏텐텑텒텓텔텕텖텗텘텙텚텛템\uFDD0텝텞텟텠텡텢텣텤텥텦텧\uFDD0\uFDD0\uFDD0텨텩텪텫텬텭텮텯텰텱텲텳텴텵텶텷텸\uFDD0텹텺텻텼텽텾텿톀톁톂톃\uFDD0\uFDD0\uFDD0톄톅톆톇톈톉톊톋톌톍톎톏톐톑톒톓톔\uFDD0톕톖톗톘톙톚톛톜톝톞톟\uFDD0\uFDD0\uFDD0토톡톢톣톤톥톦톧톨톩톪톫톬톭톮톯톰\uFDD0톱톲톳톴통톶톷톸톹톺톻\uFDD0\uFDD0\uFDD0톼톽톾톿퇀퇁퇂퇃퇄퇅퇆퇇퇈퇉퇊퇋퇌\uFDD0퇍퇎퇏퇐퇑퇒퇓퇔퇕퇖퇗\uFDD0\uFDD0\uFDD0퇘퇙퇚퇛퇜퇝퇞퇟퇠퇡퇢퇣퇤퇥퇦퇧퇨\uFDD0퇩퇪퇫퇬퇭퇮퇯퇰퇱퇲퇳"⟩,
    ⟨0xCA, 0x41, "퇴퇵퇶퇷퇸퇹퇺퇻퇼퇽퇾퇿툀툁툂툃툄\uFDD0툅툆툇툈툉툊툋툌툍툎툏\uFDD0\uFDD0\uFDD0툐툑툒툓툔툕툖툗툘툙툚툛툜툝툞툟툠\uFDD0툡툢툣툤툥툦툧툨툩툪툫\uFDD0\uFDD0\uFDD0투툭툮툯툰툱툲툳툴툵툶툷툸툹툺툻툼\uFDD0툽툾툿퉀퉁퉂퉃퉄퉅퉆퉇\uFDD0\uFDD0\uFDD0퉈퉉퉊퉋퉌퉍퉎퉏퉐퉑퉒퉓퉔퉕퉖퉗퉘\uFDD0퉙퉚퉛퉜퉝퉞퉟퉠퉡퉢퉣\uFDD0\uFDD0\uFDD0퉤퉥퉦퉧퉨퉩퉪퉫퉬퉭퉮퉯퉰퉱퉲퉳퉴\uFDD0퉵퉶퉷퉸퉹퉺퉻퉼퉽퉾퉿\uFDD0\uFDD0\uFDD0튀튁튂튃튄튅튆튇튈튉튊튋튌튍튎튏튐\uFDD0튑튒튓튔튕튖튗튘튙튚튛"⟩,
    ⟨0xCB, 0x41, "튜튝튞튟튠튡튢튣튤튥튦튧튨튩튪튫튬\uFDD0튭튮튯튰튱튲튳튴튵튶튷\uFDD0\uFDD0\uFDD0트특튺튻튼튽튾튿틀틁틂틃틄틅틆틇틈\uFDD0틉틊틋틌틍틎틏틐틑틒틓\uFDD0\uFDD0\uFDD0틔틕틖틗틘틙틚틛틜틝틞틟틠틡틢틣틤\uFDD0틥틦틧틨틩틪틫틬틭틮틯\uFDD0\uFDD0\uFDD0티틱틲틳틴틵틶틷틸틹틺틻틼틽틾틿팀\uFDD0팁팂팃팄팅팆팇팈팉팊팋"⟩,
    ⟨0xCC, 0x41, "ㅍ\uFDD0\uFDD0\uFDD0\uFDD0\uFDD0\uFDD0\uFDD0\uFDD0\uFDD0\uFDD0\uFDD0\uFDD0\uFDD0\uFDD0\uFDD0\uFDD0\uFDD0\uFDD0\uFDD0\uFDD0\uFDD0\uFDD0\uFDD0\uFDD0\uFDD0\uFDD0\uFDD0\uFDD0\uFDD0\uFDD0\uFDD0파팍팎팏판팑팒팓팔팕팖팗팘팙팚팛팜\uFDD0팝팞팟팠팡팢팣팤팥팦팧\uFDD0\uFDD0\uFDD0패팩팪팫팬팭팮팯팰팱팲팳팴팵팶팷팸\uFDD0팹팺팻팼팽팾팿퍀퍁퍂퍃\uFDD0\uFDD0\uFDD0퍄퍅퍆퍇퍈퍉퍊퍋퍌퍍퍎퍏퍐퍑퍒퍓퍔\uFDD0퍕퍖퍗퍘퍙퍚퍛퍜퍝퍞퍟\uFDD0\uFDD0\uFDD0퍠퍡퍢퍣퍤퍥퍦퍧퍨퍩퍪퍫퍬퍭퍮퍯퍰\uFDD0퍱퍲퍳퍴퍵퍶퍷퍸퍹퍺퍻\uFDD0\uFDD0\uFDD0퍼퍽퍾퍿펀펁펂펃펄펅펆펇펈펉펊펋펌\uFDD0펍펎펏펐펑펒펓펔펕펖펗"⟩,
    ⟨0xCD, 0x41, "페펙펚펛펜펝펞펟펠펡펢펣펤펥펦펧펨\uFDD0펩펪펫펬펭펮펯펰펱펲펳\uFDD0\uFDD0\uFDD0펴펵펶펷편펹펺펻펼펽펾펿폀폁폂폃폄\uFDD0폅폆폇폈평폊폋폌폍폎폏\uFDD0\uFDD0\uFDD0폐폑폒폓폔폕폖폗폘폙폚폛폜폝폞폟폠\uFDD0폡폢폣폤폥폦폧폨폩폪폫\uFDD0\uFDD0\uFDD0포폭폮폯폰폱폲폳폴폵폶폷폸폹폺폻폼\uFDD0폽폾폿퐀퐁퐂퐃퐄퐅퐆퐇\uFDD0\uFDD0\uFDD0퐈퐉퐊퐋퐌퐍퐎퐏퐐퐑퐒퐓퐔퐕퐖퐗퐘\uFDD0퐙퐚퐛퐜퐝퐞퐟퐠퐡퐢퐣\uFDD0\uFDD0\uFDD0퐤퐥퐦퐧퐨퐩퐪퐫퐬퐭퐮퐯퐰퐱퐲퐳퐴\uFDD0퐵퐶퐷퐸퐹퐺퐻퐼퐽퐾퐿"⟩,
    ⟨0xCE, 0x41, "푀푁푂푃푄푅푆푇푈푉푊푋푌푍푎푏푐\uFDD0푑푒푓푔푕푖푗푘푙푚푛\uFDD0\uFDD0\uFDD0표푝푞푟푠푡푢푣푤푥푦푧푨푩푪푫푬\uFDD0푭푮푯푰푱푲푳푴푵푶푷\uFDD0\uFDD0\uFDD0푸푹푺푻푼푽푾푿풀풁풂풃풄풅풆풇품\uFDD0풉풊풋풌풍풎풏풐풑풒풓\uFDD0\uFDD0\uFDD0풔풕풖풗풘풙풚풛풜풝풞풟풠풡풢풣풤\uFDD0풥풦풧풨풩풪풫풬풭풮풯\uFDD0\uFDD0\uFDD0풰풱풲풳풴풵풶풷풸풹풺풻풼풽풾풿퓀\uFDD0퓁퓂퓃퓄퓅퓆퓇퓈퓉퓊퓋\uFDD0\uFDD0\uFDD0퓌퓍퓎퓏퓐퓑퓒퓓퓔퓕퓖퓗퓘퓙퓚퓛퓜\uFDD0퓝퓞퓟퓠퓡퓢퓣퓤퓥퓦퓧"⟩,
    ⟨0xCF, 0x41, "퓨퓩퓪퓫퓬퓭퓮퓯퓰퓱퓲퓳퓴퓵퓶퓷퓸\uFDD0퓹퓺퓻퓼퓽퓾퓿픀픁픂픃\uFDD0\uFDD0\uFDD0프픅픆픇픈픉픊픋플픍픎픏픐픑픒픓픔\uFDD0픕픖픗픘픙픚픛픜픝픞픟\uFDD0\uFDD0\uFDD0픠픡픢픣픤픥픦픧픨픩픪픫픬픭픮픯픰\uFDD0픱픲픳픴픵픶픷픸픹픺픻\uFDD0\uFDD0\uFDD0피픽픾픿핀핁핂핃필핅핆핇핈핉핊핋핌\uFDD0핍핎핏핐핑핒핓핔핕핖핗"⟩,
    ⟨0xD0, 0x41, "ㅎ\uFDD0\uFDD0\uFDD0\uFDD0\uFDD0\uFDD0\uFDD0\uFDD0\uFDD0\uFDD0\uFDD0\uFDD0\uFDD0\uFDD0\uFDD0\uFDD0\uFDD0\uFDD0\uFDD0\uFDD0\uFDD0\uFDD0\uFDD0\uFDD0\uFDD0\uFDD0\uFDD0\uFDD0\uFDD0\uFDD0\uFDD0하학핚핛한핝핞핟할핡핢핣핤핥핦핧함\uFDD0합핪핫핬항핮핯핰핱핲핳\uFDD0\uFDD0\uFDD0해핵핶핷핸핹핺핻핼핽핾핿햀햁햂햃햄\uFDD0햅햆햇했행햊햋햌햍햎햏\uFDD0\uFDD0\uFDD0햐햑햒햓햔햕햖햗햘햙햚햛햜햝햞햟햠\uFDD0햡햢햣햤향햦햧햨햩햪햫\uFDD0\uFDD0\uFDD0햬햭햮햯햰햱햲햳햴햵햶햷햸햹햺햻햼\uFDD0햽햾햿헀헁헂헃헄헅헆헇\uFDD0\uFDD0\uFDD0허헉헊헋헌헍헎헏헐헑헒헓헔헕헖헗험\uFDD0헙헚헛헜헝헞헟헠헡헢헣"⟩,
    ⟨0xD1, 0x41, "헤헥헦헧헨헩헪헫헬헭헮헯헰헱헲헳헴\uFDD0헵헶헷헸헹헺헻헼헽헾헿\uFDD0\uFDD0\uFDD0혀혁혂혃현혅혆혇혈혉혊혋혌혍혎혏혐\uFDD0협혒혓혔형혖혗혘혙혚혛\uFDD0\uFDD0\uFDD0혜혝혞혟혠혡혢혣혤혥혦혧혨혩혪혫혬\uFDD0혭혮혯혰혱혲혳혴혵혶혷\uFDD0\uFDD0\uFDD0호혹혺혻혼혽혾혿홀홁홂홃홄홅홆홇홈\uFDD0홉홊홋홌홍홎홏홐홑홒홓\uFDD0\uFDD0\uFDD0화확홖홗환홙홚홛활홝홞홟홠홡홢홣홤\uFDD0홥홦홧홨황홪홫홬홭홮홯\uFDD0\uFDD0\uFDD0홰홱홲홳홴홵홶홷홸홹홺홻홼홽홾홿횀\uFDD0횁횂횃횄횅횆횇횈횉횊횋"⟩,
    ⟨0xD2, 0x41, "회획횎횏횐횑횒횓횔횕횖횗횘횙횚횛횜\uFDD0횝횞횟횠횡횢횣횤횥횦횧\uFDD0\uFDD0\uFDD0효횩횪횫횬횭횮횯횰횱횲횳횴횵횶횷횸\uFDD0횹횺횻횼횽횾횿훀훁훂훃\uFDD0\uFDD0\uFDD0후훅훆훇훈훉훊훋훌훍훎훏훐훑훒훓훔\uFDD0훕훖훗훘훙훚훛훜훝훞훟\uFDD0\uFDD0\uFDD0훠훡훢훣훤훥훦훧훨훩훪훫훬훭훮훯훰\uFDD0훱훲훳훴훵훶훷훸훹훺훻\uFDD0\uFDD0\uFDD0훼훽훾훿휀휁휂휃휄휅휆휇휈휉휊휋휌\uFDD0휍휎휏휐휑휒휓휔휕휖휗\uFDD0\uFDD0\uFDD0휘휙휚휛휜휝휞휟휠휡휢휣휤휥휦휧휨\uFDD0휩휪휫휬휭휮휯휰휱휲휳"⟩,
    ⟨0xD3, 0x41, "휴휵휶휷휸휹휺휻휼휽휾휿흀흁흂흃흄\uFDD0흅흆흇흈흉흊흋흌흍흎흏\uFDD0\uFDD0\uFDD0흐흑흒흓흔흕흖흗흘흙흚흛흜흝흞흟흠\uFDD0흡흢흣흤흥흦흧흨흩흪흫\uFDD0\uFDD0\uFDD0희흭흮흯흰흱흲흳흴흵흶흷흸흹흺흻흼\uFDD0흽흾흿힀힁힂힃힄힅힆힇\uFDD0\uFDD0\uFDD0히힉힊힋힌힍힎힏힐힑힒힓힔힕힖힗힘\uFDD0힙힚힛힜힝힞힟힠힡힢힣"⟩,
    ⟨0xD9, 0x31, "\u3000、。·‥…¨〃\u00AD―∥＼∼‘’“”〔〕〈〉《》「」『』【】±×÷≠≤≥∞∴°′″℃Å￠￡￥♂♀∠⊥⌒∂∇≡≒§※☆★○●◎◇◆□■△▲▽▼→←↑↓↔〓≪≫√\uFDD0\uFDD0\uFDD0\uFDD0\uFDD0\uFDD0\uFDD0\uFDD0\uFDD0\uFDD0\uFDD0\uFDD0\uFDD0\uFDD0\uFDD0\uFDD0\uFDD0\uFDD0∽∝∵∫∬∈∋⊆⊇⊂⊃∪∩∧∨￢⇒⇔∀∃´～ˇ˘˝˚˙¸˛¡¿ː∮∑∏¤℉‰◁◀▷▶♤♠♡♥♧♣⊙◈▣◐◑▒▤▥▨▧▦▩♨☏☎☜☞¶†‡↕↗↙↖↘♭♩♪♬㉿㈜№㏇™㏂㏘℡€®"⟩,
    ⟨0xDA, 0x31, "！＂＃＄％＆＇（）＊＋，－．／０１２３４５６７８９：；＜＝＞？＠ＡＢＣＤＥＦＧＨＩＪＫＬＭＮＯＰＱＲＳＴＵＶＷＸＹＺ［￦］＾＿｀ａｂｃｄｅｆｇｈｉｊｋｌｍｎ\uFDD0\uFDD0\uFDD0\uFDD0\uFDD0\uFDD0\uFDD0\uFDD0\uFDD0\uFDD0\uFDD0\uFDD0\uFDD0\uFDD0\uFDD0\uFDD0\uFDD0\uFDD0ｏｐｑｒｓｔｕｖｗｘｙｚ｛｜｝￣\uFDD0\uFDD0\uFDD0\uFDD0\uFDD0\uFDD0\uFDD0\uFDD0\uFDD0\uFDD0\uFDD0\uFDD0\uFDD0\uFDD0\uFDD0\uFDD0\uFDD0\uFDD0\uFDD0\uFDD0\uFDD0\uFDD0\uFDD0\uFDD0\uFDD0\uFDD0\uFDD0\uFDD0\uFDD0\uFDD0\uFDD0\uFDD0\uFDD0\uFDD0\uFDD0\uFDD0\uFDD0\uFDD0\uFDD0\uFDD0\uFDD0\uFDD0\uFDD0\uFDD0\uFDD0\uFDD0\uFDD0\uFDD0\uFDD0\uFDD0\uFDD0ㅤㅥㅦㅧㅨㅩㅪㅫㅬㅭㅮㅯㅰㅱㅲㅳㅴㅵㅶㅷㅸㅹㅺㅻㅼㅽㅾㅿㆀㆁㆂㆃㆄㆅㆆㆇㆈㆉㆊㆋㆌㆍㆎ"⟩,
    ⟨0xDB, 0x31, "ⅰⅱⅲⅳⅴⅵⅶⅷⅸⅹ\uFDD0\uFDD0\uFDD0\uFDD0\uFDD0ⅠⅡⅢⅣⅤⅥⅦⅧⅨⅩ\uFDD0\uFDD0\uFDD0\uFDD0\uFDD0\uFDD0\uFDD0ΑΒΓΔΕΖΗΘΙΚΛΜΝΞΟΠΡΣΤΥΦΧΨΩ\uFDD0\uFDD0\uFDD0\uFDD0\uFDD0\uFDD0\uFDD0\uFDD0αβγδεζηθικλμνξ\uFDD0\uFDD0\uFDD0\uFDD0\uFDD0\uFDD0\uFDD0\uFDD0\uFDD0\uFDD0\uFDD0\uFDD0\uFDD0\uFDD0\uFDD0\uFDD0\uFDD0\uFDD0οπρστυφχψω\uFDD0\uFDD0\uFDD0\uFDD0\uFDD0\uFDD0─│┌┐┘└├┬┤┴┼━┃┏┓┛┗┣┳┫┻╋┠┯┨┷┿┝┰┥┸╂┒┑┚┙┖┕┎┍┞┟┡┢┦┧┩┪┭┮┱┲┵┶┹┺┽┾╀╁╃╄╅╆╇╈╉╊"⟩,
    ⟨0xDC, 0x31, "㎕㎖㎗ℓ㎘㏄㎣㎤㎥㎦㎙㎚㎛㎜㎝㎞㎟㎠㎡㎢㏊㎍㎎㎏㏏㎈㎉㏈㎧㎨㎰㎱㎲㎳㎴㎵㎶㎷㎸㎹㎀㎁㎂㎃㎄㎺㎻㎼㎽㎾㎿㎐㎑㎒㎓㎔Ω㏀㏁㎊㎋㎌㏖㏅㎭㎮㎯㏛㎩㎪㎫㎬㏝㏐㏓㏃㏉㏜\uFDD0\uFDD0\uFDD0\uFDD0\uFDD0\uFDD0\uFDD0\uFDD0\uFDD0\uFDD0\uFDD0\uFDD0\uFDD0\uFDD0\uFDD0\uFDD0\uFDD0\uFDD0㏆\uFDD0\uFDD0\uFDD0\uFDD0\uFDD0\uFDD0\uFDD0\uFDD0\uFDD0\uFDD0\uFDD0\uFDD0\uFDD0\uFDD0\uFDD0ÆÐªĦ\uFDD0Ĳ\uFDD0ĿŁØŒºÞŦŊ\uFDD0㉠㉡㉢㉣㉤㉥㉦㉧㉨㉩㉪㉫㉬㉭㉮㉯㉰㉱㉲㉳㉴㉵㉶㉷㉸㉹㉺㉻ⓐⓑⓒⓓⓔⓕⓖⓗⓘⓙⓚⓛⓜⓝⓞⓟⓠⓡⓢⓣⓤⓥⓦⓧⓨⓩ①②③④⑤⑥⑦⑧⑨⑩⑪⑫⑬⑭⑮½⅓⅔¼¾⅛⅜⅝⅞"⟩,
    ⟨0xDD, 0x31, "æđðħıĳĸŀłøœßþŧŋŉ㈀㈁㈂㈃㈄㈅㈆㈇㈈㈉㈊㈋㈌㈍㈎㈏㈐㈑㈒㈓㈔㈕㈖㈗㈘㈙㈚㈛⒜⒝⒞⒟⒠⒡⒢⒣⒤⒥⒦⒧⒨⒩⒪⒫⒬⒭⒮⒯⒰⒱⒲⒳⒴⒵⑴⑵⑶⑷⑸⑹⑺⑻\uFDD0\uFDD0\uFDD0\uFDD0\uFDD0\uFDD0\uFDD0\uFDD0\uFDD0\uFDD0\uFDD0\uFDD0\uFDD0\uFDD0\uFDD0\uFDD0\uFDD0\uFDD0⑼⑽⑾⑿⒀⒁⒂¹²³⁴ⁿ₁₂₃₄ぁあぃいぅうぇえぉおかがきぎくぐけげこごさざしじすずせぜそぞただちぢっつづてでとどなにぬねのはばぱひびぴふぶぷへべぺほぼぽまみむめもゃやゅゆょよらりるれろゎわゐゑをん"⟩,
    ⟨0xDE, 0x31, "ァアィイゥウェエォオカガキギクグケゲコゴサザシジスズセゼソゾタダチヂッツヅテデトドナニヌネノハバパヒビピフブプヘベペホボポマミムメモャヤュユョヨラリルレロヮ\uFDD0\uFDD0\uFDD0\uFDD0\uFDD0\uFDD0\uFDD0\uFDD0\uFDD0\uFDD0\uFDD0\uFDD0\uFDD0\uFDD0\uFDD0\uFDD0\uFDD0\uFDD0ワヰヱヲンヴヵヶ\uFDD0\uFDD0\uFDD0\uFDD0\uFDD0\uFDD0\uFDD0\uFDD0АБВГДЕЁЖЗИЙКЛМНОПРСТУФХЦЧШЩЪЫЬЭЮЯ\uFDD0\uFDD0\uFDD0\uFDD0\uFDD0\uFDD0\uFDD0\uFDD0\uFDD0\uFDD0\uFDD0\uFDD0\uFDD0\uFDD0\uFDD0абвгдеёжзийклмнопрстуфхцчшщъыьэюя"⟩,
    ⟨0xE0, 0x31, "伽佳假價加可呵哥嘉嫁家暇架枷柯歌珂痂稼苛茄街袈訶賈跏軻迦駕刻却各恪慤殼珏脚覺角閣侃刊墾奸姦干幹懇揀杆柬桿澗癎看磵稈竿簡肝艮艱諫間乫喝曷渴碣竭葛褐蝎鞨勘坎堪嵌\uFDD0\uFDD0\uFDD0\uFDD0\uFDD0\uFDD0\uFDD0\uFDD0\uFDD0\uFDD0\uFDD0\uFDD0\uFDD0\uFDD0\uFDD0\uFDD0\uFDD0\uFDD0感憾戡敢柑橄減甘疳監瞰紺邯鑑鑒龕匣岬甲胛鉀閘剛堈姜岡崗康强彊慷江畺疆糠絳綱羌腔舡薑襁講鋼降鱇介价個凱塏愷愾慨改槪漑疥皆盖箇芥蓋豈鎧開喀客坑更粳羹醵倨去居巨拒据據擧渠炬祛距踞車遽鉅鋸乾件健巾建愆楗腱虔蹇鍵騫乞傑杰桀儉劍劒檢"⟩,
    ⟨0xE1, 0x31, "瞼鈐黔劫怯迲偈憩揭擊格檄激膈覡隔堅牽犬甄絹繭肩見譴遣鵑抉決潔結缺訣兼慊箝謙鉗鎌京俓倞傾儆勁勍卿坰境庚徑慶憬擎敬景暻更梗涇炅烱璟璥瓊痙硬磬竟競絅經耕耿脛莖警輕\uFDD0\uFDD0\uFDD0\uFDD0\uFDD0\uFDD0\uFDD0\uFDD0\uFDD0\uFDD0\uFDD0\uFDD0\uFDD0\uFDD0\uFDD0\uFDD0\uFDD0\uFDD0逕鏡頃頸驚鯨係啓堺契季屆悸戒桂械棨溪界癸磎稽系繫繼計誡谿階鷄古叩告呱固姑孤尻庫拷攷故敲暠枯槁沽痼皐睾稿羔考股膏苦苽菰藁蠱袴誥賈辜錮雇顧高鼓哭斛曲梏穀谷鵠困坤崑昆梱棍滾琨袞鯤汨滑骨供公共功孔工恐恭拱控攻珙空蚣貢鞏串寡戈果瓜"⟩,
    ⟨0xE2, 0x31, "科菓誇課跨過鍋顆廓槨藿郭串冠官寬慣棺款灌琯瓘管罐菅觀貫關館刮恝括适侊光匡壙廣曠洸炚狂珖筐胱鑛卦掛罫乖傀塊壞怪愧拐槐魁宏紘肱轟交僑咬喬嬌嶠巧攪敎校橋狡皎矯絞翹\uFDD0\uFDD0\uFDD0\uFDD0\uFDD0\uFDD0\uFDD0\uFDD0\uFDD0\uFDD0\uFDD0\uFDD0\uFDD0\uFDD0\uFDD0\uFDD0\uFDD0\uFDD0膠蕎蛟較轎郊餃驕鮫丘久九仇俱具勾區口句咎嘔坵垢寇嶇廐懼拘救枸柩構歐毆毬求溝灸狗玖球瞿矩究絿耉臼舅舊苟衢謳購軀逑邱鉤銶駒驅鳩鷗龜國局菊鞠鞫麴君窘群裙軍郡堀屈掘窟宮弓穹窮芎躬倦券勸卷圈拳捲權淃眷厥獗蕨蹶闕机櫃潰詭軌饋句晷歸貴"⟩,
    ⟨0xE3, 0x31, "鬼龜叫圭奎揆槻珪硅窺竅糾葵規赳逵閨勻均畇筠菌鈞龜橘克剋劇戟棘極隙僅劤勤懃斤根槿瑾筋芹菫覲謹近饉契今妗擒昑檎琴禁禽芩衾衿襟金錦伋及急扱汲級給亘兢矜肯企伎其冀嗜\uFDD0\uFDD0\uFDD0\uFDD0\uFDD0\uFDD0\uFDD0\uFDD0\uFDD0\uFDD0\uFDD0\uFDD0\uFDD0\uFDD0\uFDD0\uFDD0\uFDD0\uFDD0器圻基埼夔奇妓寄岐崎己幾忌技旗旣朞期杞棋棄機欺氣汽沂淇玘琦琪璂璣畸畿碁磯祁祇祈祺箕紀綺羈耆耭肌記譏豈起錡錤飢饑騎騏驥麒緊佶吉拮桔金喫儺喇奈娜懦懶拏拿癩羅蘿螺裸邏那樂洛烙珞落諾酪駱亂卵暖欄煖爛蘭難鸞捏捺南嵐枏楠湳濫男藍襤拉"⟩,
    ⟨0xE4, 0x31, "納臘蠟衲囊娘廊朗浪狼郎乃來內奈柰耐冷女年撚秊念恬拈捻寧寗努勞奴弩怒擄櫓爐瑙盧老蘆虜路露駑魯鷺碌祿綠菉錄鹿論壟弄濃籠聾膿農惱牢磊腦賂雷尿壘屢樓淚漏累縷陋嫩訥杻\uFDD0\uFDD0\uFDD0\uFDD0\uFDD0\uFDD0\uFDD0\uFDD0\uFDD0\uFDD0\uFDD0\uFDD0\uFDD0\uFDD0\uFDD0\uFDD0\uFDD0\uFDD0紐勒肋凜凌稜綾能菱陵尼泥匿溺多茶丹亶但單團壇彖斷旦檀段湍短端簞緞蛋袒鄲鍛撻澾獺疸達啖坍憺擔曇淡湛潭澹痰聃膽蕁覃談譚錟沓畓答踏遝唐堂塘幢戇撞棠當糖螳黨代垈坮大對岱帶待戴擡玳臺袋貸隊黛宅德悳倒刀到圖堵塗導屠島嶋度徒悼挑掉搗桃"⟩,
    ⟨0xE5, 0x31, "棹櫂淘渡滔濤燾盜睹禱稻萄覩賭跳蹈逃途道都鍍陶韜毒瀆牘犢獨督禿篤纛讀墩惇敦旽暾沌焞燉豚頓乭突仝冬凍動同憧東桐棟洞潼疼瞳童胴董銅兜斗杜枓痘竇荳讀豆逗頭屯臀芚遁遯\uFDD0\uFDD0\uFDD0\uFDD0\uFDD0\uFDD0\uFDD0\uFDD0\uFDD0\uFDD0\uFDD0\uFDD0\uFDD0\uFDD0\uFDD0\uFDD0\uFDD0\uFDD0鈍得嶝橙燈登等藤謄鄧騰喇懶拏癩羅蘿螺裸邏樂洛烙珞絡落諾酪駱丹亂卵欄欒瀾爛蘭鸞剌辣嵐擥攬欖濫籃纜藍襤覽拉臘蠟廊朗浪狼琅瑯螂郞來崍徠萊冷掠略亮倆兩凉梁樑粮粱糧良諒輛量侶儷勵呂廬慮戾旅櫚濾礪藜蠣閭驢驪麗黎力曆歷瀝礫轢靂憐戀攣漣"⟩,
    ⟨0xE6, 0x31, "煉璉練聯蓮輦連鍊冽列劣洌烈裂廉斂殮濂簾獵令伶囹寧岺嶺怜玲笭羚翎聆逞鈴零靈領齡例澧禮醴隷勞怒撈擄櫓潞瀘爐盧老蘆虜路輅露魯鷺鹵碌祿綠菉錄鹿麓論壟弄朧瀧瓏籠聾儡瀨\uFDD0\uFDD0\uFDD0\uFDD0\uFDD0\uFDD0\uFDD0\uFDD0\uFDD0\uFDD0\uFDD0\uFDD0\uFDD0\uFDD0\uFDD0\uFDD0\uFDD0\uFDD0牢磊賂賚賴雷了僚寮廖料燎療瞭聊蓼遼鬧龍壘婁屢樓淚漏瘻累縷蔞褸鏤陋劉旒柳榴流溜瀏琉瑠留瘤硫謬類六戮陸侖倫崙淪綸輪律慄栗率隆勒肋凜凌楞稜綾菱陵俚利厘吏唎履悧李梨浬犁狸理璃異痢籬罹羸莉裏裡里釐離鯉吝潾燐璘藺躪隣鱗麟林淋琳臨霖砬"⟩,
    ⟨0xE7, 0x31, "立笠粒摩瑪痲碼磨馬魔麻寞幕漠膜莫邈万卍娩巒彎慢挽晩曼滿漫灣瞞萬蔓蠻輓饅鰻唜抹末沫茉襪靺亡妄忘忙望網罔芒茫莽輞邙埋妹媒寐昧枚梅每煤罵買賣邁魅脈貊陌驀麥孟氓猛盲\uFDD0\uFDD0\uFDD0\uFDD0\uFDD0\uFDD0\uFDD0\uFDD0\uFDD0\uFDD0\uFDD0\uFDD0\uFDD0\uFDD0\uFDD0\uFDD0\uFDD0\uFDD0盟萌冪覓免冕勉棉沔眄眠綿緬面麵滅蔑冥名命明暝椧溟皿瞑茗蓂螟酩銘鳴袂侮冒募姆帽慕摸摹暮某模母毛牟牡瑁眸矛耗芼茅謀謨貌木沐牧目睦穆鶩歿沒夢朦蒙卯墓妙廟描昴杳渺猫竗苗錨務巫憮懋戊拇撫无楙武毋無珷畝繆舞茂蕪誣貿霧鵡墨默們刎吻問文"⟩,
    ⟨0xE8, 0x31, "汶紊紋聞蚊門雯勿沕物味媚尾嵋彌微未梶楣渼湄眉米美薇謎迷靡黴岷悶愍憫敏旻旼民泯玟珉緡閔密蜜謐剝博拍搏撲朴樸泊珀璞箔粕縛膊舶薄迫雹駁伴半反叛拌搬攀斑槃泮潘班畔瘢\uFDD0\uFDD0\uFDD0\uFDD0\uFDD0\uFDD0\uFDD0\uFDD0\uFDD0\uFDD0\uFDD0\uFDD0\uFDD0\uFDD0\uFDD0\uFDD0\uFDD0\uFDD0盤盼磐磻礬絆般蟠返頒飯勃拔撥渤潑發跋醱鉢髮魃倣傍坊妨尨幇彷房放方旁昉枋榜滂磅紡肪膀舫芳蒡蚌訪謗邦防龐倍俳北培徘拜排杯湃焙盃背胚裴裵褙賠輩配陪伯佰帛柏栢白百魄幡樊煩燔番磻繁蕃藩飜伐筏罰閥凡帆梵氾汎泛犯範范法琺僻劈壁擘檗璧癖"⟩,
    ⟨0xE9, 0x31, "碧蘗闢霹便卞弁變辨辯邊別瞥鱉鼈丙倂兵屛幷昞昺柄棅炳甁病秉竝輧餠騈保堡報寶普步洑湺潽珤甫菩補褓譜輔伏僕匐卜宓復服福腹茯蔔複覆輹輻馥鰒本乶俸奉封峯峰捧棒烽熢琫縫\uFDD0\uFDD0\uFDD0\uFDD0\uFDD0\uFDD0\uFDD0\uFDD0\uFDD0\uFDD0\uFDD0\uFDD0\uFDD0\uFDD0\uFDD0\uFDD0\uFDD0\uFDD0蓬蜂逢鋒鳳不付俯傅剖副否咐埠夫婦孚孵富府復扶敷斧浮溥父符簿缶腐腑膚艀芙莩訃負賦賻赴趺部釜阜附駙鳧北分吩噴墳奔奮忿憤扮昐汾焚盆粉糞紛芬賁雰不佛弗彿拂崩朋棚硼繃鵬丕備匕匪卑妃婢庇悲憊扉批斐枇榧比毖毗毘沸泌琵痺砒碑秕秘粃緋翡肥"⟩,
    ⟨0xEA, 0x31, "脾臂菲蜚裨誹譬費鄙非飛鼻嚬嬪彬斌檳殯浜濱瀕牝玭貧賓頻憑氷聘騁乍事些仕伺似使俟僿史司唆嗣四士奢娑寫寺射巳師徙思捨斜斯柶査梭死沙泗渣瀉獅砂社祀祠私篩紗絲肆舍莎蓑\uFDD0\uFDD0\uFDD0\uFDD0\uFDD0\uFDD0\uFDD0\uFDD0\uFDD0\uFDD0\uFDD0\uFDD0\uFDD0\uFDD0\uFDD0\uFDD0\uFDD0\uFDD0蛇裟詐詞謝賜赦辭邪飼駟麝削數朔索傘刪山散汕珊産疝算蒜酸霰乷撒殺煞薩三參杉森渗芟蔘衫揷澁鈒颯上傷像償商喪嘗孀尙峠常床庠廂想桑橡湘爽牀狀相祥箱翔裳觴詳象賞霜塞璽賽嗇塞穡索色牲生甥省笙墅壻嶼序庶徐恕抒捿敍暑曙書栖棲犀瑞筮絮緖署"⟩,
    ⟨0xEB, 0x31, "胥舒薯西誓逝鋤黍鼠夕奭席惜昔晳析汐淅潟石碩蓆釋錫仙僊先善嬋宣扇敾旋渲煽琁瑄璇璿癬禪線繕羨腺膳船蘚蟬詵跣選銑鐥饍鮮卨屑楔泄洩渫舌薛褻設說雪齧剡暹殲纖蟾贍閃陝攝\uFDD0\uFDD0\uFDD0\uFDD0\uFDD0\uFDD0\uFDD0\uFDD0\uFDD0\uFDD0\uFDD0\uFDD0\uFDD0\uFDD0\uFDD0\uFDD0\uFDD0\uFDD0涉燮葉城姓宬性惺成星晟猩珹盛省筬聖聲腥誠醒世勢歲洗稅笹細說貰召嘯塑宵小少巢所掃搔昭梳沼消溯瀟炤燒甦疏疎瘙笑篠簫素紹蔬蕭蘇訴逍遡邵銷韶騷俗屬束涑粟續謖贖速孫巽損蓀遜飡率宋悚松淞訟誦送頌刷殺灑碎鎖衰釗修受嗽囚垂壽嫂守岫峀帥愁"⟩,
    ⟨0xEC, 0x31, "戍手授搜收數樹殊水洙漱燧狩獸琇璲瘦睡秀穗竪粹綏綬繡羞脩茱蒐蓚藪袖誰讐輸遂邃酬銖銹隋隧隨雖需須首髓鬚叔塾夙孰宿淑潚熟琡璹肅菽巡徇循恂旬栒楯橓殉洵淳珣盾瞬筍純脣\uFDD0\uFDD0\uFDD0\uFDD0\uFDD0\uFDD0\uFDD0\uFDD0\uFDD0\uFDD0\uFDD0\uFDD0\uFDD0\uFDD0\uFDD0\uFDD0\uFDD0\uFDD0舜荀蓴蕣詢諄醇錞順馴戌術述鉥崇崧嵩瑟膝蝨濕拾習褶襲丞乘僧勝升承昇繩蠅陞侍匙嘶始媤尸屎屍市弑恃施是時枾柴猜矢示翅蒔蓍視試詩諡豕豺埴寔式息拭植殖湜熄篒蝕識軾食飾伸侁信呻娠宸愼新晨燼申神紳腎臣莘薪藎蜃訊身辛辰迅失室實悉審尋心沁"⟩,
    ⟨0xED, 0x31, "沈深瀋甚芯諶什十拾雙氏亞俄兒啞娥峨我牙芽莪蛾衙訝阿雅餓鴉鵝堊岳嶽幄惡愕握樂渥鄂鍔顎鰐齷安岸按晏案眼雁鞍顔鮟斡謁軋閼唵岩巖庵暗癌菴闇壓押狎鴨仰央怏昻殃秧鴦厓哀\uFDD0\uFDD0\uFDD0\uFDD0\uFDD0\uFDD0\uFDD0\uFDD0\uFDD0\uFDD0\uFDD0\uFDD0\uFDD0\uFDD0\uFDD0\uFDD0\uFDD0\uFDD0埃崖愛曖涯碍艾隘靄厄扼掖液縊腋額櫻罌鶯鸚也倻冶夜惹揶椰爺耶若野弱掠略約若葯蒻藥躍亮佯兩凉壤孃恙揚攘敭暘梁楊樣洋瀁煬痒瘍禳穰糧羊良襄諒讓釀陽量養圄御於漁瘀禦語馭魚齬億憶抑檍臆偃堰彦焉言諺孼蘖俺儼嚴奄掩淹嶪業円予余勵呂女如廬"⟩,
    ⟨0xEE, 0x31, "旅歟汝濾璵礖礪與艅茹輿轝閭餘驪麗黎亦力域役易曆歷疫繹譯轢逆驛嚥堧姸娟宴年延憐戀捐挻撚椽沇沿涎涓淵演漣烟然煙煉燃燕璉硏硯秊筵緣練縯聯衍軟輦蓮連鉛鍊鳶列劣咽悅涅\uFDD0\uFDD0\uFDD0\uFDD0\uFDD0\uFDD0\uFDD0\uFDD0\uFDD0\uFDD0\uFDD0\uFDD0\uFDD0\uFDD0\uFDD0\uFDD0\uFDD0\uFDD0烈熱裂說閱厭廉念捻染殮炎焰琰艶苒簾閻髥鹽曄獵燁葉令囹塋寧嶺嶸影怜映暎楹榮永泳渶潁濚瀛瀯煐營獰玲瑛瑩瓔盈穎纓羚聆英詠迎鈴鍈零霙靈領乂倪例刈叡曳汭濊猊睿穢芮藝蘂禮裔詣譽豫醴銳隸霓預五伍俉傲午吾吳嗚塢墺奧娛寤悟惡懊敖旿晤梧汚澳"⟩,
    ⟨0xEF, 0x31, "烏熬獒筽蜈誤鰲鼇屋沃獄玉鈺溫瑥瘟穩縕蘊兀壅擁瓮甕癰翁邕雍饔渦瓦窩窪臥蛙蝸訛婉完宛梡椀浣玩琓琬碗緩翫脘腕莞豌阮頑曰往旺枉汪王倭娃歪矮外嵬巍猥畏了僚僥凹堯夭妖姚\uFDD0\uFDD0\uFDD0\uFDD0\uFDD0\uFDD0\uFDD0\uFDD0\uFDD0\uFDD0\uFDD0\uFDD0\uFDD0\uFDD0\uFDD0\uFDD0\uFDD0\uFDD0寥寮尿嶢拗搖撓擾料曜樂橈燎燿瑤療窈窯繇繞耀腰蓼蟯要謠遙遼邀饒慾欲浴縟褥辱俑傭冗勇埇墉容庸慂榕涌湧溶熔瑢用甬聳茸蓉踊鎔鏞龍于佑偶優又友右宇寓尤愚憂旴牛玗瑀盂祐禑禹紆羽芋藕虞迂遇郵釪隅雨雩勖彧旭昱栯煜稶郁頊云暈橒殞澐熉耘芸蕓"⟩,
    ⟨0xF0, 0x31, "運隕雲韻蔚鬱亐熊雄元原員圓園垣媛嫄寃怨愿援沅洹湲源爰猿瑗苑袁轅遠阮院願鴛月越鉞位偉僞危圍委威尉慰暐渭爲瑋緯胃萎葦蔿蝟衛褘謂違韋魏乳侑儒兪劉唯喩孺宥幼幽庾悠惟\uFDD0\uFDD0\uFDD0\uFDD0\uFDD0\uFDD0\uFDD0\uFDD0\uFDD0\uFDD0\uFDD0\uFDD0\uFDD0\uFDD0\uFDD0\uFDD0\uFDD0\uFDD0愈愉揄攸有杻柔柚柳楡楢油洧流游溜濡猶猷琉瑜由留癒硫紐維臾萸裕誘諛諭踰蹂遊逾遺酉釉鍮類六堉戮毓肉育陸倫允奫尹崙淪潤玧胤贇輪鈗閏律慄栗率聿戎瀜絨融隆垠恩慇殷誾銀隱乙吟淫蔭陰音飮揖泣邑凝應膺鷹依倚儀宜意懿擬椅毅疑矣義艤薏蟻衣誼"⟩,
    ⟨0xF1, 0x31, "議醫二以伊利吏夷姨履已弛彛怡易李梨泥爾珥理異痍痢移罹而耳肄苡荑裏裡貽貳邇里離飴餌匿溺瀷益翊翌翼謚人仁刃印吝咽因姻寅引忍湮燐璘絪茵藺蚓認隣靭靷鱗麟一佚佾壹日溢\uFDD0\uFDD0\uFDD0\uFDD0\uFDD0\uFDD0\uFDD0\uFDD0\uFDD0\uFDD0\uFDD0\uFDD0\uFDD0\uFDD0\uFDD0\uFDD0\uFDD0\uFDD0逸鎰馹任壬妊姙恁林淋稔臨荏賃入卄立笠粒仍剩孕芿仔刺咨姉姿子字孜恣慈滋炙煮玆瓷疵磁紫者自茨蔗藉諮資雌作勺嚼斫昨灼炸爵綽芍酌雀鵲孱棧殘潺盞岑暫潛箴簪蠶雜丈仗匠場墻壯奬將帳庄張掌暲杖樟檣欌漿牆狀獐璋章粧腸臟臧莊葬蔣薔藏裝贓醬長"⟩,
    ⟨0xF2, 0x31, "障再哉在宰才材栽梓渽滓災縡裁財載齋齎爭箏諍錚佇低儲咀姐底抵杵楮樗沮渚狙猪疽箸紵苧菹著藷詛貯躇這邸雎齟勣吊嫡寂摘敵滴狄炙的積笛籍績翟荻謫賊赤跡蹟迪迹適鏑佃佺傳\uFDD0\uFDD0\uFDD0\uFDD0\uFDD0\uFDD0\uFDD0\uFDD0\uFDD0\uFDD0\uFDD0\uFDD0\uFDD0\uFDD0\uFDD0\uFDD0\uFDD0\uFDD0全典前剪塡塼奠專展廛悛戰栓殿氈澱煎琠田甸畑癲筌箋箭篆纏詮輾轉鈿銓錢鐫電顚顫餞切截折浙癤竊節絶占岾店漸点粘霑鮎點接摺蝶丁井亭停偵呈姃定幀庭廷征情挺政整旌晶晸柾楨檉正汀淀淨渟湞瀞炡玎珽町睛碇禎程穽精綎艇訂諪貞鄭酊釘鉦鋌錠霆靖"⟩,
    ⟨0xF3, 0x31, "靜頂鼎制劑啼堤帝弟悌提梯濟祭第臍薺製諸蹄醍除際霽題齊俎兆凋助嘲弔彫措操早晁曺曹朝條棗槽漕潮照燥爪璪眺祖祚租稠窕粗糟組繰肇藻蚤詔調趙躁造遭釣阻雕鳥族簇足鏃存尊\uFDD0\uFDD0\uFDD0\uFDD0\uFDD0\uFDD0\uFDD0\uFDD0\uFDD0\uFDD0\uFDD0\uFDD0\uFDD0\uFDD0\uFDD0\uFDD0\uFDD0\uFDD0卒拙猝倧宗從悰慫棕淙琮種終綜縱腫踪踵鍾鐘佐坐左座挫罪主住侏做姝胄呪周嗾奏宙州廚晝朱柱株注洲湊澍炷珠疇籌紂紬綢舟蛛註誅走躊輳週酎酒鑄駐竹粥俊儁准埈寯峻晙樽浚準濬焌畯竣蠢逡遵雋駿茁中仲衆重卽櫛楫汁葺增憎曾拯烝甑症繒蒸證贈之只"⟩,
    ⟨0xF4, 0x31, "咫地址志持指摯支旨智枝枳止池沚漬知砥祉祗紙肢脂至芝芷蜘誌識贄趾遲直稙稷織職唇嗔塵振搢晉晋桭榛殄津溱珍瑨璡畛疹盡眞瞋秦縉縝臻蔯袗診賑軫辰進鎭陣陳震侄叱姪嫉帙桎\uFDD0\uFDD0\uFDD0\uFDD0\uFDD0\uFDD0\uFDD0\uFDD0\uFDD0\uFDD0\uFDD0\uFDD0\uFDD0\uFDD0\uFDD0\uFDD0\uFDD0\uFDD0瓆疾秩窒膣蛭質跌迭斟朕什執潗緝輯鏶集徵懲澄且侘借叉嗟嵯差次此磋箚茶蹉車遮捉搾着窄錯鑿齪撰澯燦璨瓚竄簒纂粲纘讚贊鑽餐饌刹察擦札紮僭參塹慘慙懺斬站讒讖倉倡創唱娼廠彰愴敞昌昶暢槍滄漲猖瘡窓脹艙菖蒼債埰寀寨彩採砦綵菜蔡采釵冊柵策"⟩,
    ⟨0xF5, 0x31, "責凄妻悽處倜刺剔尺慽戚拓擲斥滌瘠脊蹠陟隻仟千喘天川擅泉淺玔穿舛薦賤踐遷釧闡阡韆凸哲喆徹撤澈綴輟轍鐵僉尖沾添甛瞻簽籤詹諂堞妾帖捷牒疊睫諜貼輒廳晴淸聽菁請靑鯖切\uFDD0\uFDD0\uFDD0\uFDD0\uFDD0\uFDD0\uFDD0\uFDD0\uFDD0\uFDD0\uFDD0\uFDD0\uFDD0\uFDD0\uFDD0\uFDD0\uFDD0\uFDD0剃替涕滯締諦逮遞體初剿哨憔抄招梢椒楚樵炒焦硝礁礎秒稍肖艸苕草蕉貂超酢醋醮促囑燭矗蜀觸寸忖村邨叢塚寵悤憁摠總聰蔥銃撮催崔最墜抽推椎楸樞湫皺秋芻萩諏趨追鄒酋醜錐錘鎚雛騶鰍丑畜祝竺筑築縮蓄蹙蹴軸逐春椿瑃出朮黜充忠沖蟲衝衷悴膵萃"⟩,
    ⟨0xF6, 0x31, "贅取吹嘴娶就炊翠聚脆臭趣醉驟鷲側仄厠惻測層侈値嗤峙幟恥梔治淄熾痔痴癡稚穉緇緻置致蚩輜雉馳齒則勅飭親七柒漆侵寢枕沈浸琛砧針鍼蟄秤稱快他咤唾墮妥惰打拖朶楕舵陀馱\uFDD0\uFDD0\uFDD0\uFDD0\uFDD0\uFDD0\uFDD0\uFDD0\uFDD0\uFDD0\uFDD0\uFDD0\uFDD0\uFDD0\uFDD0\uFDD0\uFDD0\uFDD0駝倬卓啄坼度托拓擢晫柝濁濯琢琸託鐸呑嘆坦彈憚歎灘炭綻誕奪脫探眈耽貪塔搭榻宕帑湯糖蕩兌台太怠態殆汰泰笞胎苔跆邰颱宅擇澤撑攄兎吐土討慟桶洞痛筒統通堆槌腿褪退頹偸套妬投透鬪慝特闖坡婆巴把播擺杷波派爬琶破罷芭跛頗判坂板版瓣販辦鈑"⟩,
    ⟨0xF7, 0x31, "阪八叭捌佩唄悖敗沛浿牌狽稗覇貝彭澎烹膨愎便偏扁片篇編翩遍鞭騙貶坪平枰萍評吠嬖幣廢弊斃肺蔽閉陛佈包匍匏咆哺圃布怖抛抱捕暴泡浦疱砲胞脯苞葡蒲袍褒逋鋪飽鮑幅暴曝瀑\uFDD0\uFDD0\uFDD0\uFDD0\uFDD0\uFDD0\uFDD0\uFDD0\uFDD0\uFDD0\uFDD0\uFDD0\uFDD0\uFDD0\uFDD0\uFDD0\uFDD0\uFDD0爆輻俵剽彪慓杓標漂瓢票表豹飇飄驃品稟楓諷豊風馮彼披疲皮被避陂匹弼必泌珌畢疋筆苾馝乏逼下何厦夏廈昰河瑕荷蝦賀遐霞鰕壑學虐謔鶴寒恨悍旱汗漢澣瀚罕翰閑閒限韓割轄函含咸啣喊檻涵緘艦銜陷鹹合哈盒蛤閤闔陜亢伉姮嫦巷恒抗杭桁沆港缸肛航"⟩,
    ⟨0xF8, 0x31, "行降項亥偕咳垓奚孩害懈楷海瀣蟹解該諧邂駭骸劾核倖幸杏荇行享向嚮珦鄕響餉饗香噓墟虛許憲櫶獻軒歇險驗奕爀赫革俔峴弦懸晛泫炫玄玹現眩睍絃絢縣舷衒見賢鉉顯孑穴血頁嫌\uFDD0\uFDD0\uFDD0\uFDD0\uFDD0\uFDD0\uFDD0\uFDD0\uFDD0\uFDD0\uFDD0\uFDD0\uFDD0\uFDD0\uFDD0\uFDD0\uFDD0\uFDD0俠協夾峽挾浹狹脅脇莢鋏頰亨兄刑型形泂滎瀅灐炯熒珩瑩荊螢衡逈邢鎣馨兮彗惠慧暳蕙蹊醯鞋乎互呼壕壺好岵弧戶扈昊晧毫浩淏湖滸澔濠濩灝狐琥瑚瓠皓祜糊縞胡芦葫蒿虎號蝴護豪鎬頀顥惑或酷婚昏混渾琿魂忽惚笏哄弘汞泓洪烘紅虹訌鴻化和嬅樺火畵"⟩,
    ⟨0xF9, 0x31, "禍禾花華話譁貨靴廓擴攫確碻穫丸喚奐宦幻患換歡晥桓渙煥環紈還驩鰥活滑猾豁闊凰幌徨恍惶愰慌晃晄榥況湟滉潢煌璜皇篁簧荒蝗遑隍黃匯回廻徊恢悔懷晦會檜淮澮灰獪繪膾茴蛔\uFDD0\uFDD0\uFDD0\uFDD0\uFDD0\uFDD0\uFDD0\uFDD0\uFDD0\uFDD0\uFDD0\uFDD0\uFDD0\uFDD0\uFDD0\uFDD0\uFDD0\uFDD0誨賄劃獲宖橫鐄哮嚆孝效斅曉梟涍淆爻肴酵驍侯候厚后吼喉嗅帿後朽煦珝逅勛勳塤壎焄熏燻薰訓暈薨喧暄煊萱卉喙毁彙徽揮暉煇諱輝麾休携烋畦虧恤譎鷸兇凶匈洶胸黑昕欣炘痕吃屹紇訖欠欽歆吸恰洽翕興僖凞喜噫囍姬嬉希憙憘戱晞曦熙熹熺犧禧稀羲詰"⟩]

end Templating.Codec
