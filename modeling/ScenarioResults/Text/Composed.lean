import ScenarioResults.Text.CombiningClass

/-!
# Composed text

A letter with its marks can often be written as one character or as several. In composed text the
marks behind a letter are in the order of their classes, and each mark that has a character together
with what stands before it has become part of that character. Characters that stand for another
single one are taken to be replaced already.
-/

namespace ScenarioResults.Text

/-- Behind the number of a mark, characters without it and with it in turn. -/
def compositeRows : List (Nat × String) :=
  [(0x300, "AÀEÈIÌNǸOÒUÙWẀYỲaàeèiìnǹoòuùwẁyỳ¨῭ÂẦÊỀÔỒÜǛâầêềôồüǜĂẰăằĒḔēḕŌṐōṑƠỜơờƯỪưừΑᾺΕῈΗῊΙῚΟῸΥῪΩῺ"),
   (0x300, "αὰεὲηὴιὶοὸυὺωὼϊῒϋῢЕЀИЍеѐиѝἀἂἁἃἈἊἉἋἐἒἑἓἘἚἙἛἠἢἡἣἨἪἩἫἰἲἱἳἸἺἹἻὀὂὁὃὈὊὉὋὐὒὑὓὙὛὠὢὡὣὨὪὩὫ᾿῍῾῝"),
   (0x301, "AÁCĆEÉGǴIÍKḰLĹMḾNŃOÓPṔRŔSŚUÚWẂYÝZŹaácćeégǵiíkḱlĺmḿnńoópṕrŕsśuúwẃyýzź¨΅ÂẤÅǺÆǼÇḈÊẾÏḮÔỐ"),
   (0x301, "ÕṌØǾÜǗâấåǻæǽçḉêếïḯôốõṍøǿüǘĂẮăắĒḖēḗŌṒōṓŨṸũṹƠỚơớƯỨưứΑΆΕΈΗΉΙΊΟΌΥΎΩΏαάεέηήιίοόυύωώϊΐϋΰϒϓ"),
   (0x301, "ГЃКЌгѓкќἀἄἁἅἈἌἉἍἐἔἑἕἘἜἙἝἠἤἡἥἨἬἩἭἰἴἱἵἸἼἹἽὀὄὁὅὈὌὉὍὐὔὑὕὙὝὠὤὡὥὨὬὩὭ᾿῎῾῞"),
   (0x302, "AÂCĈEÊGĜHĤIÎJĴOÔSŜUÛWŴYŶZẐaâcĉeêgĝhĥiîjĵoôsŝuûwŵyŷzẑẠẬạậẸỆẹệỌỘọộ"),
   (0x303, "AÃEẼIĨNÑOÕUŨVṼYỸaãeẽiĩnñoõuũvṽyỹÂẪÊỄÔỖâẫêễôỗĂẴăẵƠỠơỡƯỮưữ"),
   (0x304, "AĀEĒGḠIĪOŌUŪYȲaāeēgḡiīoōuūyȳÄǞÆǢÕȬÖȪÜǕäǟæǣõȭöȫüǖǪǬǫǭȦǠȧǡȮȰȯȱΑᾹΙῙΥῩαᾱιῑυῡИӢУӮиӣуӯḶḸḷḹ"),
   (0x304, "ṚṜṛṝ"), (0x306, "AĂEĔGĞIĬOŎUŬaăeĕgğiĭoŏuŭȨḜȩḝΑᾸΙῘΥῨαᾰιῐυῠАӐЕӖЖӁИЙУЎаӑеӗжӂийуўẠẶạặ"),
   (0x307, "AȦBḂCĊDḊEĖFḞGĠHḢIİMṀNṄOȮPṖRṘSṠTṪWẆXẊYẎZŻaȧbḃcċdḋeėfḟgġhḣmṁnṅoȯpṗrṙsṡtṫwẇxẋyẏzżŚṤśṥŠṦ"),
   (0x307, "šṧſẛṢṨṣṩ𐗒𐗉𐗚𐗤"),
   (0x308, "AÄEËHḦIÏOÖUÜWẄXẌYŸaäeëhḧiïoötẗuüwẅxẍyÿÕṎõṏŪṺūṻΙΪΥΫιϊυϋϒϔІЇАӒЕЁЖӜЗӞИӤОӦУӰЧӴЫӸЭӬаӓеёжӝ"),
   (0x308, "зӟиӥоӧуӱчӵыӹэӭіїӘӚәӛӨӪөӫ"), (0x309, "AẢEẺIỈOỎUỦYỶaảeẻiỉoỏuủyỷÂẨÊỂÔỔâẩêểôổĂẲăẳƠỞơởƯỬưử"),
   (0x30a, "AÅUŮaåuůwẘyẙ"), (0x30b, "OŐUŰoőuűУӲуӳ"),
   (0x30c, "AǍCČDĎEĚGǦHȞIǏKǨLĽNŇOǑRŘSŠTŤUǓZŽaǎcčdďeěgǧhȟiǐjǰkǩlľnňoǒrřsštťuǔzžÜǙüǚƷǮʒǯ"),
   (0x30f, "AȀEȄIȈOȌRȐUȔaȁeȅiȉoȍrȑuȕѴѶѵѷ"), (0x311, "AȂEȆIȊOȎRȒUȖaȃeȇiȋoȏrȓuȗ"),
   (0x313, "ΑἈΕἘΗἨΙἸΟὈΩὨαἀεἐηἠιἰοὀρῤυὐωὠ"), (0x314, "ΑἉΕἙΗἩΙἹΟὉΡῬΥὙΩὩαἁεἑηἡιἱοὁρῥυὑωὡ"),
   (0x31b, "OƠUƯoơuư"),
   (0x323, "AẠBḄDḌEẸHḤIỊKḲLḶMṂNṆOỌRṚSṢTṬUỤVṾWẈYỴZẒaạbḅdḍeẹhḥiịkḳlḷmṃnṇoọrṛsṣtṭuụvṿwẉyỵzẓƠỢơợƯỰưự"),
   (0x324, "UṲuṳ"), (0x325, "AḀaḁ"), (0x326, "SȘTȚsștț"),
   (0x327, "CÇDḐEȨGĢHḨKĶLĻNŅRŖSŞTŢcçdḑeȩgģhḩkķlļnņrŗsştţ"), (0x328, "AĄEĘIĮOǪUŲaąeęiįoǫuų"),
   (0x32d, "DḒEḘLḼNṊTṰUṶdḓeḙlḽnṋtṱuṷ"), (0x32e, "HḪhḫ"), (0x330, "EḚIḬUṴeḛiḭuṵ"),
   (0x331, "BḆDḎKḴLḺNṈRṞTṮZẔbḇdḏhẖkḵlḻnṉrṟtṯzẕ"),
   (0x338, "<≮=≠>≯←↚→↛↔↮⇐⇍⇒⇏⇔⇎∃∄∈∉∋∌∣∤∥∦∼≁≃≄≅≇≈≉≍≭≡≢≤≰≥≱≲≴≳≵≶≸≷≹≺⊀≻⊁≼⋠≽⋡⊂⊄⊃⊅⊆⊈⊇⊉⊑⋢⊒⋣⊢⊬⊨⊭⊩⊮⊫⊯⊲⋪⊳⋫"),
   (0x338, "⊴⋬⊵⋭"), (0x342, "¨῁αᾶηῆιῖυῦωῶϊῗϋῧἀἆἁἇἈἎἉἏἠἦἡἧἨἮἩἯἰἶἱἷἸἾἹἿὐὖὑὗὙὟὠὦὡὧὨὮὩὯ᾿῏῾῟"),
   (0x345, "ΑᾼΗῌΩῼάᾴήῄαᾳηῃωῳώῴἀᾀἁᾁἂᾂἃᾃἄᾄἅᾅἆᾆἇᾇἈᾈἉᾉἊᾊἋᾋἌᾌἍᾍἎᾎἏᾏἠᾐἡᾑἢᾒἣᾓἤᾔἥᾕἦᾖἧᾗἨᾘἩᾙἪᾚἫᾛἬᾜἭᾝἮᾞἯᾟὠᾠ"),
   (0x345, "ὡᾡὢᾢὣᾣὤᾤὥᾥὦᾦὧᾧὨᾨὩᾩὪᾪὫᾫὬᾬὭᾭὮᾮὯᾯὰᾲὴῂὼῲᾶᾷῆῇῶῷ"), (0x653, "\u0627\u0622"),
   (0x654, "\u0627\u0623\u0648\u0624\u064a\u0626\u06c1\u06c2\u06d2\u06d3\u06d5\u06c0"),
   (0x655, "\u0627\u0625"), (0x93c, "नऩरऱळऴ"), (0x9be, "\u09c7\u09cb"), (0x9d7, "\u09c7\u09cc"),
   (0xb3e, "\u0b47\u0b4b"), (0xb56, "\u0b47\u0b48"), (0xb57, "\u0b47\u0b4c"),
   (0xbbe, "\u0bc6\u0bca\u0bc7\u0bcb"), (0xbd7, "ஒஔ\u0bc6\u0bcc"), (0xc56, "\u0c46\u0c48"),
   (0xcc2, "\u0cc6\u0cca"), (0xcd5, "\u0cbf\u0cc0\u0cc6\u0cc7\u0cca\u0ccb"),
   (0xcd6, "\u0cc6\u0cc8"), (0xd3e, "\u0d46\u0d4a\u0d47\u0d4b"), (0xd57, "\u0d46\u0d4c"),
   (0xdca, "\u0dd9\u0dda\u0ddc\u0ddd"), (0xdcf, "\u0dd9\u0ddc"), (0xddf, "\u0dd9\u0dde"),
   (0x102e, "ဥဦ"),
   (0x1b35, "ᬅᬆᬇᬈᬉᬊᬋᬌᬍᬎᬑᬒ\u1b3a\u1b3b\u1b3c\u1b3d\u1b3e\u1b40\u1b3f\u1b41\u1b42\u1b43"),
   (0x3099, "うゔかがきぎくぐけげこごさざしじすずせぜそぞただちぢつづてでとどはばひびふぶへべほぼゝゞウヴカガキギクグケゲコゴサザシジスズセゼソゾタダチヂツヅテデトドハバヒビフブヘベ"),
   (0x3099, "ホボワヷヰヸヱヹヲヺヽヾ"), (0x309a, "はぱひぴふぷへぺほぽハパヒピフプヘペホポ"), (0x110ba, "𑂙𑂚𑂛𑂜𑂥𑂫"),
   (0x11127, "𑄱𑄮𑄲𑄯"), (0x1133e, "𑍇𑍋"), (0x11357, "𑍇𑍌"), (0x113b8, "𑏅𑎸"), (0x113bb, "𑎄𑎅"),
   (0x113c2, "𑎋𑎎𑏅𑏂"), (0x113c9, "𑎂𑎃𑎐𑎑𑏅𑏉"), (0x114b0, "𑒹𑒼"), (0x114ba, "𑒹𑒻"), (0x114bd, "𑒹𑒾"),
   (0x115af, "𑖸𑖺𑖹𑖻"), (0x11930, "𑤵𑤸"), (0x1611e, "𖄡𖄞"), (0x1611f, "𖄦𖄡𖄦𖄢𖄧𖄩𖄤"), (0x16120, "𖄨𖄡𖄨"),
   (0x16129, "𖄡𖄩"), (0x16d67, "𖵣𖵪𖵨𖵩𖵪")]

/-! ### Syllables of three letters -/

def firstSyllable : Nat := 0xac00

def firstLead : Nat := 0x1100

def firstVowel : Nat := 0x1161

/-- One less than the number of the first letter that ends a syllable. -/
def beforeTrail : Nat := 0x11a7

def leadCount : Nat := 19

def vowelCount : Nat := 21

/-- How many ends a syllable can have, none included. -/
def trailCount : Nat := 28

def isSyllable (n : Nat) : Bool :=
  firstSyllable ≤ n && n < firstSyllable + leadCount * vowelCount * trailCount

/-- Two letters, or a syllable without an end and its end, as one syllable. -/
def joinSyllable? (a b : Nat) : Option Nat :=
  if firstLead ≤ a && a < firstLead + leadCount && firstVowel ≤ b && b < firstVowel + vowelCount then
    some (firstSyllable + ((a - firstLead) * vowelCount + (b - firstVowel)) * trailCount)
  else if isSyllable a && (a - firstSyllable) % trailCount == 0
      && beforeTrail < b && b < beforeTrail + trailCount then
    some (a + (b - beforeTrail))
  else none

def splitSyllable (n : Nat) : Nat × Nat :=
  let place := n - firstSyllable
  if place % trailCount = 0 then
    (firstLead + place / trailCount / vowelCount, firstVowel + place / trailCount % vowelCount)
  else (n - place % trailCount, beforeTrail + place % trailCount)

/-! ### Pairs -/

/-- The character with a mark, in a row of characters without it and with it. -/
def withMark? (base : Char) : List Char → Option Char
  | plain :: composite :: rest => if plain = base then some composite else withMark? base rest
  | _ => none

def withoutMark? (whole : Char) : List Char → Option Char
  | plain :: composite :: rest => if composite = whole then some plain else withoutMark? whole rest
  | _ => none

def join? (base mark : Char) : Option Char :=
  ((joinSyllable? base.toNat mark.toNat).map Char.ofNat).orElse fun () =>
    (compositeRows.filter fun row => row.1 == mark.toNat).findSome? fun row =>
      withMark? base row.2.toList

def split? (c : Char) : Option (Char × Char) :=
  if isSyllable c.toNat then
    let (base, mark) := splitSyllable c.toNat
    some (Char.ofNat base, Char.ofNat mark)
  else
    compositeRows.findSome? fun row =>
      (withoutMark? c row.2.toList).map fun base => (base, Char.ofNat row.1)

/-! ### Text -/

/-- A character taken apart at most so many times. -/
def apartIn : Nat → Char → List Char
  | 0, c => [c]
  | steps + 1, c =>
    match split? c with
    | some (base, mark) => apartIn steps base ++ [mark]
    | none => [c]

/-- The most marks that one character has in it. -/
def maxMarks : Nat := 3

def apart (c : Char) : List Char := apartIn maxMarks c

/-- A character put in front of text whose marks are in order: a mark goes behind those of a lower
class. -/
def insertInOrder (c : Char) : List Char → List Char
  | [] => [c]
  | d :: rest =>
    if 0 < combiningClass d && combiningClass d < combiningClass c then
      d :: insertInOrder c rest
    else c :: d :: rest

def inOrder (cs : List Char) : List Char := cs.foldr insertInOrder []

/-- Marks joined to a base as far as they can be. `kept` are those that cannot, in reverse; behind
one of them no mark of its class, and no character of class zero, reaches the base. -/
def joinOnto (base : Char) (kept : List Char) : List Char → List Char
  | [] => base :: kept.reverse
  | c :: rest =>
    let reaches := kept.head?.all fun last => combiningClass last < combiningClass c
    match if reaches then join? base c else none with
    | some whole => joinOnto whole kept rest
    | none =>
      if combiningClass c = 0 then base :: (kept.reverse ++ joinOnto c [] rest)
      else joinOnto base (c :: kept) rest

def joined : List Char → List Char
  | [] => []
  | c :: rest => if combiningClass c = 0 then joinOnto c [] rest else c :: joined rest

def composed (cs : List Char) : List Char := joined (inOrder (cs.flatMap apart))

end ScenarioResults.Text
