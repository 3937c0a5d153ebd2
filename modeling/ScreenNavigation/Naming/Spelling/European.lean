/-!
Greek, Cyrillic, Armenian and Georgian letters.
-/
namespace ScreenNavigation.Naming

/-- Each row has a spelling and the characters that are so spelled. -/
def europeanSpellings : List (String × String) := [
  ("A", "ΆΑАӐӒӘӚԱႠᲐἈἉἊἋἌἍἎἏᾈᾉᾊᾋᾌᾍᾎᾏᾸᾹᾺΆᾼ"), ("B", "БԲႡᲑ"), ("C", "Ћ"), ("Ch", "ΧЧҸҼӴՃႹᲩ"),
  ("Ch'", "ՉႽᲭ"), ("D", "ΔЂДԴႣᲓ"), ("Dz", "ЅЏӠՁႻᲫ"), ("E", "ΈΕЀЁЄЕЭѢӖӬԵԷႤჁᲔᲱἘἙἚἛἜἝῈΈ"),
  ("F", "ΦФѲՖᲶ"), ("G", "ΓЃГҐҜԳႢᲒ"), ("Gh", "ҒҔՂႶᲦ"), ("H", "ͰҲҺՀჀᲰ"),
  ("I", "ΉΊΗΙΪІЇЍИӢӤԻႨᲘἨἩἪἫἬἭἮἯἸἹἺἻἼἽἾἿᾘᾙᾚᾛᾜᾝᾞᾟῊΉῌῘῙῚΊ"), ("J", "ͿЈҶՋႿᲯ"), ("K", "ΚЌКҞҠԿႵᲥ"),
  ("K'", "ՔႩᲙ"), ("Kh", "ХԽႾᲮ"), ("L", "ΛЛԼႪᲚ"), ("Lj", "Љ"), ("M", "ΜМՄႫᲛ"), ("N", "ΝНҢՆႬᲜ"),
  ("Ng", "Ҥ"), ("Nj", "Њ"), ("O", "ΌΏΟОӦӨӪՈՕႭჅᲝᲵὈὉὊὋὌὍὨὩὪὫὬὭὮὯᾨᾩᾪᾫᾬᾭᾮᾯῸΌῺΏῼ"), ("P", "ΠПԤՊႴᲤ"),
  ("P'", "ՓႮᲞ"), ("Ps", "Ψ"), ("Q", "ϘϞҚჄᲴ"), ("Q'", "ႷᲧ"), ("R", "ΡРՌՐႰᲠῬ"), ("S", "ΣϹϺСҪՍႱᲡ"),
  ("Sh", "ϷШՇႸᲨ"), ("Shch", "Щ"), ("Ss", "Ϡ"), ("St", "Ϛ"), ("T", "ΤТՏႧᲗ"), ("T'", "ԹႲᲢ"),
  ("Th", "Θϴ"), ("Ts", "ЦҴԾႺᲪ"), ("Ts'", "ՑႼᲬ"), ("U", "ЎУҮҰӮӰӲႳᲣ"), ("V", "ΒВՎႥᲕ"),
  ("W", "ͶϜՒჃᲳ"), ("X", "Ξ"), ("Y", "ΎΥΫϒϓϔЙЫѴѶӸԸՅჂᲲὙὛὝὟῨῩῪΎ"), ("Ya", "Я"), ("Yu", "Ю"),
  ("Z", "ΖЗҘӞԶႦᲖ"), ("Zh", "ЖҖӁӜԺႯᲟ"), ("a", "άαаӑӓәӛաაἀἁἂἃἄἅἆἇὰάᾀᾁᾂᾃᾄᾅᾆᾇᾰᾱᾲᾳᾴᾶᾷ"), ("b", "бբბ"),
  ("c", "ћ"), ("ch", "χчҹҽӵճჩ\u1d6a"), ("ch'", "չჭ"), ("d", "δдђդდ"), ("dz", "ѕџӡձძ"),
  ("e", "έεϵеэѐёєѣӗӭեէეჱἐἑἒἓἔἕὲέ"), ("ev", "և"), ("f", "φϕфѳֆჶ\u1d69"), ("g", "γгѓґҝգგ\u1d67"),
  ("gh", "ғҕղღ"), ("h", "ͱҳһհჰ"),
  ("i", "ΐήίηιϊиіїѝӣӥիიἠἡἢἣἤἥἦἧἰἱἲἳἴἵἶἷὴήὶίᾐᾑᾒᾓᾔᾕᾖᾗιῂῃῄῆῇῐῑῒΐῖῗ"), ("j", "ϳјҷջჯ"),
  ("k", "κϰкќҟҡկქ"), ("k'", "քკ"), ("kh", "хխხ"), ("l", "λлլლ"), ("lj", "љ"), ("m", "μмմმ"),
  ("n", "νнңնნ"), ("ng", "ҥ"), ("nj", "њ"), ("o", "οωόώоӧөӫոօოჵὀὁὂὃὄὅὠὡὢὣὤὥὦὧὸόὼώᾠᾡᾢᾣᾤᾥᾦᾧῲῳῴῶῷ"),
  ("p", "πϖпԥպფ"), ("p'", "փპ"), ("ps", "ψ"), ("q", "ϙϟқჴ"), ("q'", "ყ"),
  ("r", "ρϱрռրრ\u1d68ῤῥ"), ("s", "ςσϲϻсҫսს"), ("sh", "ϸшշშ"), ("shch", "щ"), ("ss", "ϡ"),
  ("st", "ϛ"), ("t", "τтտთ"), ("t'", "թტ"), ("th", "θϑ"), ("ts", "цҵծც"), ("ts'", "ցწ"),
  ("u", "уўүұӯӱӳუ"), ("v", "βϐвվვ\u1d66"), ("w", "ͷϝւჳ"), ("x", "ξ"),
  ("y", "ΰυϋύйыѵѷӹըյჲὐὑὒὓὔὕὖὗὺύῠῡῢΰῦῧ"), ("ya", "я"), ("yu", "ю"), ("z", "ζзҙӟզზ"),
  ("zh", "жҗӂӝժჟ")]

end ScreenNavigation.Naming
