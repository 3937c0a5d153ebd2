/-!
Hebrew and Arabic letters. Vowel signs are left out.
-/
namespace ScreenNavigation.Naming

/-- Each row has a spelling and the characters that are so spelled. -/
def semiticSpellings : List (String × String) := [
  ("a", "آأاىٱﭐﭑﯨﯩﱝﲐﴼﴽﺁﺂﺃﺄﺇﺈﺍﺎﻯﻰ𞸀𞺀"), ("akbr", "ﷳ"), ("allh", "ﷲ"), ("b", "بﺏﺐﺑﺒ𞸁𞸡𞹡𞺁𞺡"),
  ("ba", "ﰉﱮ"), ("bh", "ﰆﲝﲠﳢ"), ("bhy", "ﷂ"), ("bj", "ﰅﲜ"), ("bkh", "ﰇﲞ"), ("bkhy", "ﶞ"),
  ("bm", "ﰈﱬﲟﳡ"), ("bn", "ﱭ"), ("br", "ﱪ"), ("by", "ﰊﱯ"), ("bz", "ﱫ"), ("ch", "چﭺﭻﭼﭽ"),
  ("d", "דدضڈډﬢדּﮈﮉﺩﺪﺽﺾﺿﻀ𞸃𞸙𞸹𞹙𞹹𞺃𞺙𞺣𞺹"), ("da", "ﴇﴣ"), ("dh", "ذﰣﱛﲵﺫﺬ𞸘𞺘𞺸"), ("dha", "ﵮ"),
  ("dhy", "ﶫ"), ("dj", "ﰢﲴ"), ("dkh", "ﰤﲶ"), ("dkhm", "ﵯﵰ"), ("dm", "ﰥﲷ"), ("dr", "ﴐﴬ"),
  ("dy", "ﴈﴤ"), ("e", "ێېےۓەﮤﮥﮮﮯﮰﮱﯤﯥﯦﯧ"), ("f", "ףפفףּפּפֿﻑﻒﻓﻔ𞸐𞸰𞹰𞺐𞺰"), ("fa", "ﰱﱼ"), ("fh", "ﰮﲿ"),
  ("fj", "ﰭﲾ"), ("fkh", "ﰯﳀ"), ("fkhm", "ﵼﵽ"), ("fm", "ﰰﳁ"), ("fmy", "ﷁ"), ("fy", "ﰲﱽ"),
  ("g", "גګگגּﮒﮓﮔﮕ"), ("gh", "غﻍﻎﻏﻐ𞸛𞸻𞹛𞹻𞺛𞺻"), ("gha", "ﳹﴕ"), ("ghj", "ﰫﲼ"), ("ghm", "ﰬﲽ"),
  ("ghma", "ﵻ"), ("ghmm", "ﵹ"), ("ghmy", "ﵺ"), ("ghy", "ﳺﴖ"),
  ("h", "החةحهھۀہۂﬣהּﮦﮧﮨﮩﮪﮫﮬﮭﳙﺓﺔﺡﺢﺣﺤﻩﻪﻫﻬ𞸇𞸤𞸧𞹇𞹤𞹧𞺄𞺇𞺧"), ("ha", "ﱓﳿﴛ"), ("hj", "ﰗﱑﲩﳗ"), ("hjy", "ﶿ"),
  ("hm", "ﰘﱒﲪﳘ"), ("hma", "ﵛ"), ("hmj", "ﶓ"), ("hmm", "ﶔ"), ("hmy", "ﵚ"), ("hy", "ﱔﴀﴜ"),
  ("i", "إ"), ("j", "جﺝﺞﺟﺠ𞸂𞸢𞹂𞹢𞺂𞺢"), ("ja", "ﴁﴝ"), ("jh", "ﰕﲧ"), ("jha", "ﶦ"), ("jhy", "ﶾ"),
  ("jm", "ﰖﲨ"), ("jma", "ﶧ"), ("jmh", "ﵘﵙ"), ("jmy", "ﶥ"), ("jy", "ﴂﴞ"),
  ("k", "קكکקּﮎﮏﮐﮑﻙﻚﻛﻜ𞸊𞸪𞹪"), ("ka", "ﰷﰽﲀﲃ"), ("kh", "ךכخﬤךּכּכֿﰹﳅﺥﺦﺧﺨ𞸗𞸷𞹗𞹷𞺗𞺷"), ("kha", "ﴃﴟ"),
  ("khh", "ﰚ"), ("khj", "ﰙﲫ"), ("khm", "ﰛﲬ"), ("khy", "ﴄﴠ"), ("kj", "ﰸﳄ"), ("kkh", "ﰺﳆ"),
  ("kl", "ﰻﲁﳇﳫ"), ("km", "ﰼﲂﳈﳬ"), ("kmm", "ﶻﷃ"), ("kmy", "ﶷ"), ("ky", "ﰾﲄ"),
  ("l", "לلڵﬥלּﻝﻞﻟﻠ𞸋𞸫𞹋𞺋𞺫"), ("la", "ﱃﲆﻵﻶﻷﻸﻹﻺﻻﻼ"), ("lh", "ﱀﳊﳍ"), ("lha", "ﶂ"), ("lhm", "ﶀﶵ"),
  ("lhy", "ﶁ"), ("lj", "ﰿﳉ"), ("ljj", "ﶃﶄ"), ("ljm", "ﶺﶼ"), ("ljy", "ﶬ"), ("lkh", "ﱁﳋ"),
  ("lkhm", "ﶅﶆ"), ("lm", "ﱂﲅﳌﳭ"), ("lmh", "ﶇﶈ"), ("lmy", "ﶭ"), ("ly", "ﱄﲇ"),
  ("m", "םמمﬦמּﻡﻢﻣﻤ𞸌𞸬𞹬𞺌𞺬"), ("ma", "ﱉﲈ"), ("mh", "ﱆﳏ"), ("mhj", "ﶉ"), ("mhm", "ﶊ"), ("mhmd", "ﷴ"),
  ("mhy", "ﶋ"), ("mj", "ﱅﳎ"), ("mjh", "ﶌ"), ("mjkh", "ﶒ"), ("mjm", "ﶍ"), ("mjy", "ﷀ"),
  ("mkh", "ﱇﳐ"), ("mkhj", "ﶎ"), ("mkhm", "ﶏ"), ("mkhy", "ﶹ"), ("mm", "ﱈﲉﳑ"), ("mmy", "ﶱ"),
  ("my", "ﱊ"), ("n", "ןנنںڼנּﮞﮟﻥﻦﻧﻨ𞸍𞸝𞸭𞹍𞹝𞹭𞺍𞺭"), ("na", "ﱏﲎ"), ("ng", "ڭﯓﯔﯕﯖ"), ("nh", "ﱌﳓﳖﳯ"),
  ("nha", "ﶖ"), ("nhm", "ﶕ"), ("nhy", "ﶳ"), ("nj", "ﱋﳒ"), ("nja", "ﶙ"), ("njh", "ﶸﶽ"),
  ("njm", "ﶗﶘ"), ("njy", "ﷇ"), ("nkh", "ﱍﳔ"), ("nm", "ﱎﲌﳕﳮ"), ("nma", "ﶛ"), ("nmy", "ﶚ"),
  ("nn", "ﲍ"), ("nr", "ﲊ"), ("ny", "ﱐﲏ"), ("nz", "ﲋ"), ("o", "ۆﯙﯚ"), ("p", "پﭖﭗﭘﭙ"),
  ("q", "قﻕﻖﻗﻘ𞸒𞸲𞹒𞹲𞺒𞺲"), ("qa", "ﰵﱾ"), ("qh", "ﰳﳂ"), ("qle", "ﷱ"), ("qm", "ﰴﳃ"), ("qmh", "ﵾﶴ"),
  ("qmm", "ﵿ"), ("qmy", "ﶲ"), ("qy", "ﰶﱿ"), ("r", "רرڑړڕﬧרּﮌﮍﱜﺭﺮ𞸓𞺓𞺳"), ("rswl", "ﷶ"),
  ("s", "סשسصשׁשׂשּׁשּׂסּשּﺱﺲﺳﺴﺹﺺﺻﺼ𞸎𞸑𞸮𞸱𞹎𞹑𞹮𞹱𞺎𞺑𞺮𞺱"), ("sa", "ﳻﴅﴗﴡ"), ("sh", "شښﰝﰠﲮﲱﳨﴱﴵﺵﺶﺷﺸ𞸔𞸴𞹔𞹴𞺔𞺴"),
  ("sha", "ﳽﴙ"), ("shh", "ﳪﴊﴦﴮﴲﴸﵤﵥ"), ("shhm", "ﵧﵨ"), ("shhy", "ﶪ"), ("shj", "ﴉﴥﴭﴷﵜ"),
  ("shjy", "ﵩ"), ("shkh", "ﴋﴧﴯﴹ"), ("shm", "ﳩﴌﴨﴰ"), ("shmkh", "ﵪﵫ"), ("shmm", "ﵬﵭ"),
  ("shr", "ﴍﴩ"), ("shy", "ﳾﴚﶩ"), ("sj", "ﰜﲭﴴ"), ("sja", "ﵞ"), ("sjh", "ﵝ"), ("skh", "ﰞﲯﲲﴶ"),
  ("skha", "ﶨ"), ("skhy", "ﷆ"), ("sla", "ﷹ"), ("sle", "ﷰ"), ("sm", "ﰟﰡﲰﲳﳧ"), ("smh", "ﵟﵠ"),
  ("smj", "ﵡ"), ("smm", "ﵢﵣﵦﷅ"), ("sr", "ﴎﴏﴪﴫ"), ("sy", "ﳼﴆﴘﴢ"),
  ("t", "טתتطٹټﬨטּתּﭦﭧﭨﭩﺕﺖﺗﺘﻁﻂﻃﻄ𞸈𞸕𞸵𞹨𞹵𞺈𞺕𞺨𞺵"), ("ta", "ﰏﱴﳵﴑ"), ("th", "ثﰌﰦﲢﲥﲸﳤﺙﺚﺛﺜ𞸖𞸶𞹶𞺖𞺶"),
  ("tha", "ﰓﱺ"), ("thh", "ﳦ"), ("thj", "ﰑﵑﵒ"), ("thm", "ﰒﱸﲦﳥﵓ"), ("thn", "ﱹ"), ("thr", "ﱶ"),
  ("thy", "ﰔﱻ"), ("thz", "ﱷ"), ("tj", "ﰋﲡ"), ("tja", "ﶠ"), ("tjm", "ﵐ"), ("tjy", "ﶟ"),
  ("tkh", "ﰍﲣ"), ("tkha", "ﶢ"), ("tkhm", "ﵔ"), ("tkhy", "ﶡ"), ("tm", "ﰎﰧﱲﲤﳣﴳﴺ"), ("tma", "ﶤ"),
  ("tmh", "ﵖﵱﵲ"), ("tmj", "ﵕ"), ("tmkh", "ﵗ"), ("tmm", "ﵳ"), ("tmy", "ﵴﶣ"), ("tn", "ﱳ"),
  ("tr", "ﱰ"), ("ts", "ץצڅצּ"), ("ty", "ﰐﱵﳶﴒ"), ("tz", "ﱱ"), ("u", "ۇۈﯗﯘﯛﯜ"),
  ("v", "בוڤۋבּוּוֹבֿﭪﭫﭬﭭﯞﯟ"), ("w", "ؤوﺅﺆﻭﻮ𞸅𞺅𞺥"), ("wslm", "ﷸ"), ("y", "יئيیۍיִיּﯼﯽﯾﯿﺉﺊﺋﺌﻱﻲﻳﻴ𞸉𞸩𞹉𞹩𞺉𞺩"),
  ("ya", "ﯪﯫﯹﯺﯻﰃﱙﱨﲕ"), ("ye", "ﯬﯭﯶﯷﯸ"), ("yh", "ﰁﱖﲘﲛﳛﳞﳠﳱ"), ("yhy", "ﶮ"), ("yj", "ﰀﱕﲗﳚ"),
  ("yjy", "ﶯ"), ("ykh", "ﱗﲙﳜ"), ("ym", "ﰂﱘﱦﲓﲚﳝﳟﳰ"), ("ymm", "ﶜﶝ"), ("ymy", "ﶰ"), ("yn", "ﱧﲔ"),
  ("yo", "ﯲﯳ"), ("yr", "ﱤﲑ"), ("yu", "ﯰﯱﯴﯵ"), ("yw", "ﯮﯯ"), ("yy", "ﰄﱚﱩﲖ"), ("yz", "ﱥﲒ"),
  ("z", "זزظځזּﺯﺰﻅﻆﻇﻈ𞸆𞸚𞹺𞺆𞺚𞺦𞺺"), ("zh", "ږژﮊﮋ"), ("zm", "ﰨﲹﴻ")]

end ScreenNavigation.Naming
