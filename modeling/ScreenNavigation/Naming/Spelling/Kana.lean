/-!
Japanese kana, Korean single letters and Bopomofo.
-/
namespace ScreenNavigation.Naming

/-- Each row has a spelling and the characters that are so spelled. -/
def kanaSpellings : List (String × String) := [
  ("a", "ぁあァアㄚㅏｧｱ"), ("ae", "ㅐ"), ("ai", "ㄞ"), ("an", "ㄢ"), ("ang", "ㄤ"), ("ao", "ㄠ"),
  ("b", "ㄅㅂ"), ("ba", "ばバ"), ("be", "べベ"), ("bi", "びビ"), ("bo", "ぼボ"), ("bs", "ㅄ"), ("bu", "ぶブ"),
  ("c", "ㄘ"), ("ch", "ㄔㅊ"), ("chi", "ちチﾁ"), ("d", "ㄉㄷ"), ("da", "だダ"), ("de", "でデ"),
  ("do", "どド"), ("e", "ぇえェエㄜㄝㅔｪｴ"), ("ei", "ㄟ"), ("en", "ㄣ"), ("eng", "ㄥ"), ("eo", "ㅓ"),
  ("er", "ㄦ"), ("eu", "ㅡ"), ("f", "ㄈ"), ("fu", "ふフﾌ"), ("g", "ㄍㄱ"), ("ga", "がガ"), ("ge", "げゲ"),
  ("gi", "ぎギ"), ("go", "ごゴ"), ("gs", "ㄳ"), ("gu", "ぐグ"), ("h", "ㄏㅎ"), ("ha", "はハﾊ"),
  ("he", "へヘﾍ"), ("hi", "ひヒﾋ"), ("ho", "ほホﾎ"), ("i", "ぃいィイㄧㅣｨｲ"), ("j", "ㄐㅈ"), ("ji", "じぢジヂ"),
  ("jj", "ㅉ"), ("k", "ㄎㅋ"), ("ka", "かゕカヵｶ"), ("ke", "けゖケヶｹ"), ("ki", "きキｷ"), ("kk", "ㄲ"),
  ("ko", "こコｺ"), ("koto", "ヿ"), ("ku", "くクｸ"), ("l", "ㄌㄹ"), ("lb", "ㄼ"), ("lg", "ㄺ"),
  ("lh", "ㅀ"), ("lm", "ㄻ"), ("lp", "ㄿ"), ("ls", "ㄽ"), ("lt", "ㄾ"), ("m", "ㄇㅁ"), ("ma", "まマﾏ"),
  ("me", "めメﾒ"), ("mi", "みミﾐ"), ("mo", "もモﾓ"), ("mu", "むムﾑ"), ("n", "んンㄋㄴﾝ"), ("na", "なナﾅ"),
  ("ne", "ねネﾈ"), ("ng", "ㅇ"), ("nh", "ㄶ"), ("ni", "にニﾆ"), ("nj", "ㄵ"), ("no", "のノﾉ"),
  ("nu", "ぬヌﾇ"), ("o", "ぉおォオㄛㅗｫｵ"), ("oe", "ㅚ"), ("ou", "ㄡ"), ("p", "ㄆㅍ"), ("pa", "ぱパ"),
  ("pe", "ぺペ"), ("pi", "ぴピ"), ("po", "ぽポ"), ("pp", "ㅃ"), ("pu", "ぷプ"), ("q", "ㄑ"), ("r", "ㄖ"),
  ("ra", "らラﾗ"), ("re", "れレﾚ"), ("ri", "りリﾘ"), ("ro", "ろロﾛ"), ("ru", "るルﾙ"), ("s", "ㄙㅅ"),
  ("sa", "さサｻ"), ("se", "せセｾ"), ("sh", "ㄕ"), ("shi", "しシｼ"), ("shime", "〆"), ("so", "そソｿ"),
  ("ss", "ㅆ"), ("su", "すスｽ"), ("t", "ㄊㅌ"), ("ta", "たタﾀ"), ("te", "てテﾃ"), ("to", "とトﾄ"),
  ("tsu", "っつッツｯﾂ"), ("tt", "ㄸ"), ("u", "ぅうゥウㄨㄩㅜｩｳ"), ("ui", "ㅢ"), ("va", "ヷ"), ("ve", "ヹ"),
  ("vi", "ヸ"), ("vo", "ヺ"), ("vu", "ゔヴ"), ("wa", "ゎわヮワㅘﾜ"), ("wae", "ㅙ"), ("we", "ゑヱㅞ"),
  ("wi", "ゐヰㅟ"), ("wo", "をヲㅝｦ"), ("x", "ㄒ"), ("ya", "ゃやャヤㅑｬﾔ"), ("yae", "ㅒ"), ("ye", "ㅖ"),
  ("yeo", "ㅕ"), ("yo", "ょよョヨㅛｮﾖ"), ("yori", "ゟ"), ("yu", "ゅゆュユㅠｭﾕ"), ("z", "ㄗ"), ("za", "ざザ"),
  ("ze", "ぜゼ"), ("zh", "ㄓ"), ("zo", "ぞゾ"), ("zu", "ずづズヅ")]

end ScreenNavigation.Naming
