/-!
Letters of the scripts of India, Southeast Asia and Ethiopia.
-/
namespace ScreenNavigation.Naming

/-- Each row has a spelling and the characters that are so spelled. -/
def southernSpellings : List (String × String) := [
  ("a", "अआ\u093eঅআ\u09beਅਆ\u0a3eઅઆ\u0abeଅଆ\u0b3eஅஆ\u0bbeఅఆ\u0c3eಅಆ\u0cbeഅആ\u0d3eඅආ\u0dcfะ\u0e31าๅະ\u0eb1າအ\u102b\u102cአኣዐዓឣឤ\u17b6"),
  ("ae", "ඇඈ\u0dd0\u0dd1แແ\u17c2"), ("aeu", "\u17be"),
  ("ai", "ऐ\u0948ঐ\u09c8ਐ\u0a48ઐ\u0ac8ଐ\u0b48ஐ\u0bc8ఐ\u0c48ಐ\u0cc8ഐ\u0d48ඓ\u0ddbใไໃໄ\u1032ឰ\u17c3"),
  ("am", "ำຳ"),
  ("au", "औ\u094cঔ\u09ccਔ\u0a4cઔ\u0accଔ\u0b4cஔ\u0bccఔ\u0c4cಔ\u0cccഔ\u0d4cඖ\u0ddeဪឳ\u17c5"),
  ("aw", "\u094fॵ"), ("b", "बবਬબବబಬബබบບဗብប"), ("ba", "ባ"), ("be", "በቤ"), ("bh", "भভਭભଭభಭഭභဘ"),
  ("bi", "ቢ"), ("bo", "ቦ"), ("bu", "ቡ"), ("c", "चচਚચଚசచಚചචစ"), ("ch", "छছਛછଛఛಛഛඡจฉชฌຈဆችចជ"),
  ("ch'", "ጭ"), ("ch'a", "ጫ"), ("ch'e", "ጨጬ"), ("ch'i", "ጪ"), ("ch'o", "ጮ"), ("ch'u", "ጩ"),
  ("cha", "ቻ"), ("che", "ቸቼ"), ("chh", "ឆឈ"), ("chi", "ቺ"), ("cho", "ቾ"), ("chu", "ቹ"),
  ("d", "डदডদਡਦડદଡଦడదಡದഡദඩදฎดດဍဒድዽដឌ"), ("da", "ዳዻ"), ("de", "ደዴዸዼ"),
  ("dh", "ढधঢধਢਧઢધଢଧఢధಢಧഢധඪධဎဓ"), ("di", "ዲዺ"), ("do", "ዶዾ"), ("du", "ዱዹ"),
  ("e", "ऍऎए\u0945\u0946\u0947এ\u09c7ਏ\u0a47એ\u0ac5\u0ac7ଏ\u0b47எஏ\u0bc6\u0bc7ఎఏ\u0c46\u0c47ಎಏ\u0cc6\u0cc7എഏ\u0d46\u0d47එඒ\u0dd9\u0ddaเເဧ\u1031ኤእዔዕឯ\u17c1"),
  ("f", "फ़ਫ਼ೞෆฝฟຝຟፍ"), ("fa", "ፋ"), ("fe", "ፈፌ"), ("fi", "ፊ"), ("fo", "ፎ"), ("fu", "ፉ"),
  ("g", "गग़গਗਗ਼ગଗగಗഗගဂግጝ"), ("ga", "ጋጛ"), ("ge", "ገጌጘጜ"), ("gh", "घঘਘઘଘఘಘഘඝဃ"), ("gi", "ጊጚ"),
  ("go", "ጎጞ"), ("goa", "ጏ"), ("gu", "ጉጙ"),
  ("h", "\u0903ह\u0983হ\u0a03ਹ\u0a83હ\u0b03ହஃஹ\u0c03హ\u0c83ಹ\u0d03ഹ\u0d83හหฮຫຮဟ\u103eህሕኅហ"),
  ("ha", "ሃሓኃ"), ("he", "ሀሄሐሔኀኄ"), ("hi", "ሂሒኂ"), ("hm", "ໝ"), ("hn", "ໜ"), ("ho", "ሆሖኆ"),
  ("hoa", "ሇኇ"), ("hu", "ሁሑኁ"),
  ("i", "इई\u093f\u0940ইঈ\u09bf\u09c0ਇਈ\u0a3f\u0a40ઇઈ\u0abf\u0ac0ଇଈ\u0b3f\u0b40இஈ\u0bbf\u0bc0ఇఈ\u0c3f\u0c40ಇಈ\u0cbf\u0cc0ഇഈ\u0d3f\u0d40ඉඊ\u0dd2\u0dd3\u0e34\u0e35\u0eb4\u0eb5ဣဤ\u102d\u102eኢዒឥឦ\u17b7\u17b8"),
  ("ie", "\u17c0"), ("j", "जজਜજଜஜజಜജජဇጅ"), ("ja", "ጃ"), ("je", "ጀጄ"), ("jh", "झঝਝઝଝఝಝഝඣဈ"),
  ("ji", "ጂ"), ("jo", "ጆ"), ("ju", "ጁ"), ("k", "कকਕકକகకಕകකกກကክកគ"), ("k'", "ቅቕ"), ("k'a", "ቃቓ"),
  ("k'e", "ቀቄቐቔ"), ("k'i", "ቂቒ"), ("k'o", "ቆቖ"), ("k'oa", "ቇ"), ("k'u", "ቁቑ"), ("ka", "ካ"),
  ("ke", "ከኬ"), ("kh", "खख़খਖਖ਼ખଖఖಖഖඛขฃคฅฆຂຄခኽខឃ"), ("kha", "ኻ"), ("khe", "ኸኼ"), ("khi", "ኺ"),
  ("kho", "ኾ"), ("khu", "ኹ"), ("ki", "ኪ"), ("ko", "ኮ"), ("koa", "ኯ"), ("ku", "ኩ"),
  ("l", "ऌलळऴॡ\u0962\u0963ঌলৡ\u09e2\u09e3ਲਲ਼ઌલળૡ\u0ae2\u0ae3ଌଲଳୡ\u0b62\u0b63லளழఌలళఴౡ\u0c62\u0c63ಌಲಳೡ\u0ce2\u0ce3ഌലളഴൡ\u0d62\u0d63ලළลฬລ\u0ebcလဠልលឡ"),
  ("l", "ឭឮ"), ("la", "ላ"), ("le", "ለሌ"), ("li", "ሊ"), ("lo", "ሎ"), ("lu", "ሉ"), ("lue", "ฦ"),
  ("m", "\u0901\u0902म\u0981\u0982ম\u0a02ਮ\u0a70\u0a81\u0a82મ\u0b01\u0b02ମ\u0b82ம\u0c01\u0c02మ\u0c81\u0c82ಮ\u0d01\u0d02മ\u0d82මมມမ\u1036ምម"),
  ("ma", "ማ"), ("mb", "ඹ"), ("me", "መሜ"), ("mi", "ሚ"), ("mo", "ሞ"), ("mu", "ሙ"),
  ("n", "णनऩণনਣਨણનଣନணநனణనಣನണനഩණනณนນဏနንណន"), ("na", "ና"), ("nd", "ඬඳ"), ("ne", "ነኔ"),
  ("ng", "ङঙਙઙଙஙఙಙങඞඟงງငង"), ("nh", "ញ"), ("ni", "ኒ"), ("no", "ኖ"), ("nu", "ኑ"),
  ("ny", "ञঞਞઞଞஞఞಞഞඤຍဉኝ"), ("nya", "ኛ"), ("nye", "ኘኜ"), ("nyi", "ኚ"), ("nyo", "ኞ"), ("nyu", "ኙ"),
  ("o", "ऑऒओ\u0949\u094a\u094bও\u09cbਓ\u0a4bઓ\u0ac9\u0acbଓ\u0b4bஒஓ\u0bca\u0bcbఒఓ\u0c4a\u0c4bಒಓ\u0cca\u0ccbഒഓ\u0d4a\u0d4bඔඕ\u0ddc\u0dddอโອ\u0ebbໂဩኦዖឱឲ\u17c4"),
  ("oe", "\u093aॳ\u17b9\u17ba"), ("oea", "\u17bf"), ("p", "पপਪપପபపಪപපปປပፕព"), ("p'", "ጵ"),
  ("p'a", "ጳ"), ("p'e", "ጰጴ"), ("p'i", "ጲ"), ("p'o", "ጶ"), ("p'u", "ጱ"), ("pa", "ፓ"),
  ("pe", "ፐፔ"), ("ph", "फফਫફଫఫಫഫඵผพภຜພဖផភ"), ("pi", "ፒ"), ("po", "ፖ"), ("pu", "ፑ"), ("q", "क़"),
  ("r", "ऋरऱ\u0943\u0944ड़ॠঋর\u09c3\u09c4ড়ৠਰੜઋર\u0ac3\u0ac4ૠଋର\u0b43\u0b44ଡ଼ୠரறఋరఱ\u0c43\u0c44ౠಋರಱ\u0cc3\u0cc4ೠഋരറ\u0d43\u0d44ൠර\u0dd8รຣရ\u103cርរឫឬ"),
  ("ra", "ራ"), ("re", "ረሬ"), ("rh", "ढ़ঢ়ଢ଼"), ("ri", "ሪ"), ("ro", "ሮ"), ("ru", "ሩ"), ("rue", "ฤ"),
  ("s", "शषसশষসਸ਼ਸશષસଶଷସஶஷஸశషసಶಷಸശഷസශෂසซศษสຊສသሥስឞស"), ("sa", "ሣሳ"), ("se", "ሠሤሰሴ"), ("sh", "ሽឝ"),
  ("sha", "ሻ"), ("she", "ሸሼ"), ("shi", "ሺ"), ("sho", "ሾ"), ("shu", "ሹ"), ("si", "ሢሲ"),
  ("so", "ሦሶ"), ("su", "ሡሱ"), ("t", "टतটতਟਤટતଟତடதటతಟತടതටතฏตຕဋတትតទ"), ("t'", "ጥ"), ("t'a", "ጣ"),
  ("t'e", "ጠጤ"), ("t'i", "ጢ"), ("t'o", "ጦ"), ("t'u", "ጡ"), ("ta", "ታ"), ("te", "ተቴ"),
  ("th", "ठथঠথਠਥઠથଠଥఠథಠಥഠഥඨථฐฑฒถทธຖທဌထឋឍថធ"), ("ti", "ቲ"), ("to", "ቶ"), ("ts'", "ጽፅ"),
  ("ts'a", "ጻፃ"), ("ts'e", "ጸጼፀፄ"), ("ts'i", "ጺፂ"), ("ts'o", "ጾፆ"), ("ts'oa", "ፇ"),
  ("ts'u", "ጹፁ"), ("tu", "ቱ"),
  ("u", "उऊ\u0941\u0942উঊ\u09c1\u09c2ਉਊ\u0a41\u0a42ઉઊ\u0ac1\u0ac2ଉଊ\u0b41\u0b42உஊ\u0bc1\u0bc2ఉఊ\u0c41\u0c42ಉಊ\u0cc1\u0cc2ഉഊ\u0d41\u0d42උඌ\u0dd4\u0dd6\u0e38\u0e39\u0eb8\u0eb9ဥဦ\u102f\u1030ኡዑឧឩ\u17bb\u17bc"),
  ("ua", "\u17bd"), ("ue", "\u0e36\u0e37\u0eb6\u0eb7"), ("uk", "ឨ"), ("uv", "ឪ"),
  ("v", "वਵવଵୱவవವവවວቭវ"), ("va", "ቫ"), ("ve", "ቨቬ"), ("vi", "ቪ"), ("vo", "ቮ"), ("vu", "ቩ"),
  ("w", "วဝ\u103dው"), ("wa", "ዋ"), ("we", "ኧወዌ"), ("wi", "ዊ"), ("wo", "ዎ"), ("woa", "ዏ"),
  ("wu", "ዉ"), ("y", "यय़যয়ਯયଯୟயయಯയයญยຢຽယ\u103bይយ"), ("ya", "ያ"), ("ye", "የዬ"), ("yi", "ዪ"),
  ("yo", "ዮ"), ("yoa", "ዯ"), ("yu", "ዩ"), ("z", "ज़ਜ਼ዝ"), ("za", "ዛ"), ("ze", "ዘዜ"), ("zh", "ዥ"),
  ("zha", "ዣ"), ("zhe", "ዠዤ"), ("zhi", "ዢ"), ("zho", "ዦ"), ("zhu", "ዡ"), ("zi", "ዚ"),
  ("zo", "ዞ"), ("zu", "ዙ")]

end ScreenNavigation.Naming
