namespace FacetBrowser.Text

structure MarkRow where
  mark : Nat
  pairs : String

private def markRows1 : List MarkRow := [
    ⟨0x300, "AÀEÈIÌOÒUÙaàeèiìoòuùÜǛüǜNǸnǹЕЀИЍеѐиѝĒḔēḕŌṐōṑWẀwẁÂẦâầĂẰăằÊỀêềÔỒôồƠỜơờƯỪ"⟩,
    ⟨0x300, "ưừYỲyỳἀἂἁἃἈἊἉἋἐἒἑἓἘἚἙἛἠἢἡἣἨἪἩἫἰἲἱἳἸἺἹἻὀὂὁὃὈὊὉὋὐὒὑὓὙὛὠὢὡὣὨὪὩὫαὰεὲηὴιὶοὸ"⟩,
    ⟨0x300, "υὺωὼΑᾺΕῈΗῊ᾿῍ϊῒΙῚ῾῝ϋῢΥῪ¨῭ΟῸΩῺ"⟩,
    ⟨0x301, "AÁEÉIÍOÓUÚYÝaáeéiíoóuúyýCĆcćLĹlĺNŃnńRŔrŕSŚsśZŹzźÜǗüǘGǴgǵÅǺåǻÆǼæǽØǾøǿ¨΅"⟩,
    ⟨0x301, "ΑΆΕΈΗΉΙΊΟΌΥΎΩΏϊΐαάεέηήιίϋΰοόυύωώϒϓГЃКЌгѓкќÇḈçḉĒḖēḗÏḮïḯKḰkḱMḾmḿÕṌõṍŌṒōṓ"⟩,
    ⟨0x301, "PṔpṕŨṸũṹWẂwẃÂẤâấĂẮăắÊẾêếÔỐôốƠỚơớƯỨưứἀἄἁἅἈἌἉἍἐἔἑἕἘἜἙἝἠἤἡἥἨἬἩἭἰἴἱἵἸἼἹἽὀὄ"⟩,
    ⟨0x301, "ὁὅὈὌὉὍὐὔὑὕὙὝὠὤὡὥὨὬὩὭ᾿῎῾῞"⟩,
    ⟨0x302, "AÂEÊIÎOÔUÛaâeêiîoôuûCĈcĉGĜgĝHĤhĥJĴjĵSŜsŝWŴwŵYŶyŷZẐzẑẠẬạậẸỆẹệỌỘọộ"⟩,
    ⟨0x303, "AÃNÑOÕaãnñoõIĨiĩUŨuũVṼvṽÂẪâẫĂẴăẵEẼeẽÊỄêễÔỖôỗƠỠơỡƯỮưữYỸyỹ"⟩,
    ⟨0x304, "AĀaāEĒeēIĪiīOŌoōUŪuūÜǕüǖÄǞäǟȦǠȧǡÆǢæǣǪǬǫǭÖȪöȫÕȬõȭȮȰȯȱYȲyȳИӢиӣУӮуӯGḠgḡḶḸ"⟩,
    ⟨0x304, "ḷḹṚṜṛṝαᾱΑᾹιῑΙῙυῡΥῩ"⟩,
    ⟨0x306, "AĂaăEĔeĕGĞgğIĬiĭOŎoŏUŬuŭУЎИЙийуўЖӁжӂАӐаӑЕӖеӗȨḜȩḝẠẶạặαᾰΑᾸιῐΙῘυῠΥῨ"⟩,
    ⟨0x307, "CĊcċEĖeėGĠgġIİZŻzżAȦaȧOȮoȯBḂbḃDḊdḋFḞfḟHḢhḣMṀmṁNṄnṅPṖpṗRṘrṙSṠsṡŚṤśṥŠṦšṧ"⟩,
    ⟨0x307, "ṢṨṣṩTṪtṫWẆwẇXẊxẋYẎyẏſẛ𐗒𐗉𐗚𐗤"⟩,
    ⟨0x308, "AÄEËIÏOÖUÜaäeëiïoöuüyÿYŸΙΪΥΫιϊυϋϒϔЕЁІЇеёіїАӒаӓӘӚәӛЖӜжӝЗӞзӟИӤиӥОӦоӧӨӪөӫ"⟩,
    ⟨0x308, "ЭӬэӭУӰуӱЧӴчӵЫӸыӹHḦhḧÕṎõṏŪṺūṻWẄwẅXẌxẍtẗ"⟩,
    ⟨0x309, "AẢaảÂẨâẩĂẲăẳEẺeẻÊỂêểIỈiỉOỎoỏÔỔôổƠỞơởUỦuủƯỬưửYỶyỷ"⟩,
    ⟨0x30A, "AÅaåUŮuůwẘyẙ"⟩,
    ⟨0x30B, "OŐoőUŰuűУӲуӳ"⟩,
    ⟨0x30C, "CČcčDĎdďEĚeěLĽlľNŇnňRŘrřSŠsšTŤtťZŽzžAǍaǎIǏiǐOǑoǒUǓuǔÜǙüǚGǦgǧKǨkǩƷǮʒǯjǰ"⟩,
    ⟨0x30C, "HȞhȟ"⟩,
    ⟨0x30F, "AȀaȁEȄeȅIȈiȉOȌoȍRȐrȑUȔuȕѴѶѵѷ"⟩,
    ⟨0x311, "AȂaȃEȆeȇIȊiȋOȎoȏRȒrȓUȖuȗ"⟩,
    ⟨0x313, "αἀΑἈεἐΕἘηἠΗἨιἰΙἸοὀΟὈυὐωὠΩὨρῤ"⟩,
    ⟨0x314, "αἁΑἉεἑΕἙηἡΗἩιἱΙἹοὁΟὉυὑΥὙωὡΩὩρῥΡῬ"⟩,
    ⟨0x31B, "OƠoơUƯuư"⟩,
    ⟨0x323, "BḄbḅDḌdḍHḤhḥKḲkḳLḶlḷMṂmṃNṆnṇRṚrṛSṢsṣTṬtṭVṾvṿWẈwẉZẒzẓAẠaạEẸeẹIỊiịOỌoọƠỢ"⟩,
    ⟨0x323, "ơợUỤuụƯỰưựYỴyỵ"⟩,
    ⟨0x324, "UṲuṳ"⟩,
    ⟨0x325, "AḀaḁ"⟩,
    ⟨0x326, "SȘsșTȚtț"⟩,
    ⟨0x327, "CÇcçGĢgģKĶkķLĻlļNŅnņRŖrŗSŞsşTŢtţEȨeȩDḐdḑHḨhḩ"⟩,
    ⟨0x328, "AĄaąEĘeęIĮiįUŲuųOǪoǫ"⟩,
    ⟨0x32D, "DḒdḓEḘeḙLḼlḽNṊnṋTṰtṱUṶuṷ"⟩,
    ⟨0x32E, "HḪhḫ"⟩,
    ⟨0x330, "EḚeḛIḬiḭUṴuṵ"⟩,
    ⟨0x331, "BḆbḇDḎdḏKḴkḵLḺlḻNṈnṉRṞrṟTṮtṯZẔzẕhẖ"⟩,
    ⟨0x338, "←↚→↛↔↮⇐⇍⇔⇎⇒⇏∃∄∈∉∋∌∣∤∥∦∼≁≃≄≅≇≈≉=≠≡≢≍≭<≮>≯≤≰≥≱≲≴≳≵≶≸≷≹≺⊀≻⊁⊂⊄⊃⊅⊆⊈⊇⊉⊢⊬⊨⊭⊩⊮"⟩,
    ⟨0x338, "⊫⊯≼⋠≽⋡⊑⋢⊒⋣⊲⋪⊳⋫⊴⋬⊵⋭"⟩,
    ⟨0x342, "ἀἆἁἇἈἎἉἏἠἦἡἧἨἮἩἯἰἶἱἷἸἾἹἿὐὖὑὗὙὟὠὦὡὧὨὮὩὯαᾶ¨῁ηῆ᾿῏ιῖϊῗ῾῟υῦϋῧωῶ"⟩,
    ⟨0x345, "ἀᾀἁᾁἂᾂἃᾃἄᾄἅᾅἆᾆἇᾇἈᾈἉᾉἊᾊἋᾋἌᾌἍᾍἎᾎἏᾏἠᾐἡᾑἢᾒἣᾓἤᾔἥᾕἦᾖἧᾗἨᾘἩᾙἪᾚἫᾛἬᾜἭᾝἮᾞἯᾟὠᾠὡᾡὢᾢ"⟩,
    ⟨0x345, "ὣᾣὤᾤὥᾥὦᾦὧᾧὨᾨὩᾩὪᾪὫᾫὬᾬὭᾭὮᾮὯᾯὰᾲαᾳάᾴᾶᾷΑᾼὴῂηῃήῄῆῇΗῌὼῲωῳώῴῶῷΩῼ"⟩,
    ⟨0x653, "\u0627\u0622"⟩,
    ⟨0x654, "\u0627\u0623\u0648\u0624\u064A\u0626\u06D5\u06C0\u06C1\u06C2"⟩,
    ⟨0x654, "\u06D2\u06D3"⟩,
    ⟨0x655, "\u0627\u0625"⟩,
    ⟨0x93C, "नऩरऱळऴ"⟩,
    ⟨0x9BE, "\u09C7\u09CB"⟩]

private def markRows2 : List MarkRow := [
    ⟨0x9D7, "\u09C7\u09CC"⟩,
    ⟨0xB3E, "\u0B47\u0B4B"⟩,
    ⟨0xB56, "\u0B47\u0B48"⟩,
    ⟨0xB57, "\u0B47\u0B4C"⟩,
    ⟨0xBBE, "\u0BC6\u0BCA\u0BC7\u0BCB"⟩,
    ⟨0xBD7, "ஒஔ\u0BC6\u0BCC"⟩,
    ⟨0xC56, "\u0C46\u0C48"⟩,
    ⟨0xCC2, "\u0CC6\u0CCA"⟩,
    ⟨0xCD5, "\u0CBF\u0CC0\u0CC6\u0CC7\u0CCA\u0CCB"⟩,
    ⟨0xCD6, "\u0CC6\u0CC8"⟩,
    ⟨0xD3E, "\u0D46\u0D4A\u0D47\u0D4B"⟩,
    ⟨0xD57, "\u0D46\u0D4C"⟩,
    ⟨0xDCA, "\u0DD9\u0DDA\u0DDC\u0DDD"⟩,
    ⟨0xDCF, "\u0DD9\u0DDC"⟩,
    ⟨0xDDF, "\u0DD9\u0DDE"⟩,
    ⟨0x102E, "ဥဦ"⟩,
    ⟨0x1B35, "ᬅᬆᬇᬈᬉᬊᬋᬌᬍᬎᬑᬒ\u1B3A\u1B3B\u1B3C\u1B3D\u1B3E\u1B40\u1B3F\u1B41"⟩,
    ⟨0x1B35, "\u1B42\u1B43"⟩,
    ⟨0x3099, "かがきぎくぐけげこごさざしじすずせぜそぞただちぢつづてでとどはばひびふぶへべほぼうゔゝゞカガキギクグケゲコゴサザシジスズセゼソゾタダチヂツヅ"⟩,
    ⟨0x3099, "テデトドハバヒビフブヘベホボウヴワヷヰヸヱヹヲヺヽヾ"⟩,
    ⟨0x309A, "はぱひぴふぷへぺほぽハパヒピフプヘペホポ"⟩,
    ⟨0x110BA, "𑂙𑂚𑂛𑂜𑂥𑂫"⟩,
    ⟨0x11127, "𑄱𑄮𑄲𑄯"⟩,
    ⟨0x1133E, "𑍇𑍋"⟩,
    ⟨0x11357, "𑍇𑍌"⟩,
    ⟨0x113B8, "𑏅𑎸"⟩,
    ⟨0x113BB, "𑎄𑎅"⟩,
    ⟨0x113C2, "𑎋𑎎𑏅𑏂"⟩,
    ⟨0x113C9, "𑎂𑎃𑎐𑎑𑏅𑏉"⟩,
    ⟨0x114B0, "𑒹𑒼"⟩,
    ⟨0x114BA, "𑒹𑒻"⟩,
    ⟨0x114BD, "𑒹𑒾"⟩,
    ⟨0x115AF, "𑖸𑖺𑖹𑖻"⟩,
    ⟨0x11930, "𑤵𑤸"⟩,
    ⟨0x1611E, "𖄡𖄞"⟩,
    ⟨0x1611F, "𖄦𖄩𖄤𖄡𖄦𖄢𖄧"⟩,
    ⟨0x16120, "𖄨𖄡𖄨"⟩,
    ⟨0x16129, "𖄡𖄩"⟩,
    ⟨0x16D67, "𖵨𖵧𖵣𖵩𖵩𖵪"⟩]

def markRows : List MarkRow :=
  markRows1 ++ markRows2

def wholeIn? (base : Char) : List Char → Option Char
  | letter :: whole :: pairs => if letter = base then some whole else wholeIn? base pairs
  | _ => none

def baseIn? (whole : Char) : List Char → Option Char
  | letter :: found :: pairs => if found = whole then some letter else baseIn? whole pairs
  | _ => none

namespace Hangul

def firstLeading : Nat := 0x1100

def leadings : Nat := 19

def firstVowel : Nat := 0x1161

def vowels : Nat := 21

def noTrailing : Nat := 0x11A7

def trailings : Nat := 28

def firstSyllable : Nat := 0xAC00

def syllables : Nat := leadings * vowels * trailings

def lies (first size n : Nat) : Bool :=
  first ≤ n && n < first + size

def isOpen (n : Nat) : Bool :=
  lies firstSyllable syllables n && (n - firstSyllable) % trailings == 0

def compose? (a b : Char) : Option Char :=
  let m := a.toNat
  let n := b.toNat
  if lies firstLeading leadings m && lies firstVowel vowels n then
    let pair := (m - firstLeading) * vowels + (n - firstVowel)
    some (Char.ofNat (firstSyllable + pair * trailings))
  else if isOpen m && n ≠ noTrailing && lies noTrailing trailings n then
    some (Char.ofNat (m + (n - noTrailing)))
  else none

def parts? (c : Char) : Option (Char × Char) :=
  let n := c.toNat - firstSyllable
  if !lies firstSyllable syllables c.toNat then none
  else if n % trailings = 0 then
    let pair := n / trailings
    some (Char.ofNat (firstLeading + pair / vowels), Char.ofNat (firstVowel + pair % vowels))
  else
    some (Char.ofNat (c.toNat - n % trailings), Char.ofNat (noTrailing + n % trailings))

end Hangul

def compose? (a b : Char) : Option Char :=
  (Hangul.compose? a b).or <|
    markRows.findSome? fun row =>
      if row.mark = b.toNat then wholeIn? a row.pairs.toList else none

def parts? (c : Char) : Option (Char × Char) :=
  if c.toNat < 128 then none
  else
    (Hangul.parts? c).or <|
      markRows.findSome? fun row =>
        (baseIn? c row.pairs.toList).map (·, Char.ofNat row.mark)

end FacetBrowser.Text
