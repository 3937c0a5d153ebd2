/-!
Digits of all scripts, letters and digits in other styles, and signs that abbreviate words.
-/
namespace ScreenNavigation.Naming

/-- Each row has a spelling and the characters that are so spelled. -/
def styledSpellings : List (String × String) := [
  ("%0", "‰"), ("%00", "‱"), ("'a", "ﳷﴓ"), ("'j", "ﰩﲺ"), ("'jm", "ﵵﷄ"), ("'l", "ﭏ"),
  ("'lyh", "ﷷ"), ("'m", "ﰪﲻ"), ("'ma", "ﵸ"), ("'mm", "ﵶﵷ"), ("'my", "ﶶ"), ("'y", "ﳸﴔ"),
  ("(1)", "⑴"), ("(10)", "⑽"), ("(11)", "⑾"), ("(12)", "⑿"), ("(13)", "⒀"), ("(14)", "⒁"),
  ("(15)", "⒂"), ("(16)", "⒃"), ("(17)", "⒄"), ("(18)", "⒅"), ("(19)", "⒆"), ("(2)", "⑵"),
  ("(20)", "⒇"), ("(3)", "⑶"), ("(4)", "⑷"), ("(5)", "⑸"), ("(6)", "⑹"), ("(7)", "⑺"),
  ("(8)", "⑻"), ("(9)", "⑼"), ("(A)", "🄐"), ("(B)", "🄑"), ("(Ba)", "㈧"), ("(C)", "©🄒"),
  ("(Cai)", "㈶"), ("(D)", "🄓"), ("(Dai)", "㈹"), ("(E)", "🄔"), ("(Er)", "㈡"), ("(F)", "🄕"),
  ("(G)", "🄖"), ("(H)", "🄗"), ("(Hu)", "㈺"), ("(Huo)", "㈫"), ("(I)", "🄘"), ("(J)", "🄙"),
  ("(Ji)", "㉀"), ("(Jian)", "㈼"), ("(Jin)", "㈮"), ("(Jiu)", "㈨"), ("(K)", "🄚"), ("(L)", "🄛"),
  ("(Lao)", "㈸"), ("(Liu)", "㈥"), ("(M)", "🄜"), ("(Ming)", "㈴"), ("(Mu)", "㈭"), ("(N)", "🄝"),
  ("(O)", "🄞"), ("(P)", "℗🄟"), ("(Q)", "🄠"), ("(Qi)", "㈦㈽"), ("(R)", "®🄡"), ("(Ri)", "㈰"),
  ("(S)", "🄢"), ("(San)", "㈢"), ("(She)", "㈳"), ("(Shi)", "㈩"), ("(Shui)", "㈬"), ("(Si)", "㈣"),
  ("(T)", "🄣"), ("(Te)", "㈵"), ("(Tu)", "㈯"), ("(U)", "🄤"), ("(V)", "🄥"), ("(W)", "🄦"),
  ("(Wu)", "㈤"), ("(X)", "🄧"), ("(Xie)", "㈿"), ("(Xiu)", "㉁"), ("(Xue)", "㈻"), ("(Y)", "🄨"),
  ("(Yi)", "㈠"), ("(You)", "㈲"), ("(Yue)", "㈪"), ("(Z)", "🄩"), ("(Zhi)", "㉃"), ("(Zhu)", "㈱㈷"),
  ("(Zi)", "㈾㉂"), ("(a)", "⒜"), ("(b)", "⒝"), ("(c)", "⒞"), ("(d)", "⒟"), ("(e)", "⒠"),
  ("(f)", "⒡"), ("(g)", "⒢"), ("(h)", "⒣"), ("(i)", "⒤"), ("(j)", "⒥"), ("(k)", "⒦"),
  ("(l)", "⒧"), ("(m)", "⒨"), ("(n)", "⒩"), ("(o)", "⒪"), ("(p)", "⒫"), ("(q)", "⒬"),
  ("(r)", "⒭"), ("(s)", "⒮"), ("(t)", "⒯"), ("(u)", "⒰"), ("(v)", "⒱"), ("(w)", "⒲"),
  ("(x)", "⒳"), ("(y)", "⒴"), ("(z)", "⒵"),
  ("0", "٠۰߀०০੦૦୦௦౦೦൦෦๐໐༠၀႐០᠐᥆᧐᪀᪐᭐᮰᱀᱐⁰₀⓪꘠꣐꤀꧐꧰꩐꯰０𐒠𐴰𑁦𑃰𑄶𑇐𑋰𑑐𑓐𑙐𑛀𑜰𑣠𑥐𑱐𑵐𑶠𖩠𖫀𖭐𝟎"), ("0", "𝟘𝟢𝟬𝟶𞅀𞋰𞥐🯰"),
  ("0,", "🄁"), ("0.", "🄀"), ("0/3", "↉"), ("0Dian", "㍘"),
  ("1", "¹١۱߁१১੧૧୧௧౧೧൧෧๑໑༡၁႑១᠑᥇᧑᪁᪑᭑᮱᱁᱑₁①⚀꘡꣑꤁꧑꧱꩑꯱１𐒡𐴱𑁧𑃱𑄷𑇑𑋱𑑑𑓑𑙑𑛁𑜱𑣡𑥑𑱑𑵑𑶡𖩡𖫁𖭑"), ("1", "𝟏𝟙𝟣𝟭𝟷𞅁𞋱𞥑🯱"),
  ("1,", "🄂"), ("1.", "⒈"), ("1/", "⅟"), ("1/10", "⅒"), ("1/2", "½"), ("1/3", "⅓"), ("1/4", "¼"),
  ("1/5", "⅕"), ("1/6", "⅙"), ("1/7", "⅐"), ("1/8", "⅛"), ("1/9", "⅑"), ("10", "⑩"),
  ("10.", "⒑"), ("10Dian", "㍢"), ("10Ri", "㏩"), ("10Yue", "㋉"), ("11", "⑪"), ("11.", "⒒"),
  ("11Dian", "㍣"), ("11Ri", "㏪"), ("11Yue", "㋊"), ("12", "⑫"), ("12.", "⒓"), ("12Dian", "㍤"),
  ("12Ri", "㏫"), ("12Yue", "㋋"), ("13", "⑬"), ("13.", "⒔"), ("13Dian", "㍥"), ("13Ri", "㏬"),
  ("14", "⑭"), ("14.", "⒕"), ("14Dian", "㍦"), ("14Ri", "㏭"), ("15", "⑮"), ("15.", "⒖"),
  ("15Dian", "㍧"), ("15Ri", "㏮"), ("16", "⑯"), ("16.", "⒗"), ("16Dian", "㍨"), ("16Ri", "㏯"),
  ("17", "⑰"), ("17.", "⒘"), ("17Dian", "㍩"), ("17Ri", "㏰"), ("18", "⑱"), ("18.", "⒙"),
  ("18Dian", "㍪"), ("18Ri", "㏱"), ("19", "⑲"), ("19.", "⒚"), ("19Dian", "㍫"), ("19Ri", "㏲"),
  ("1Dian", "㍙"), ("1Ri", "㏠"), ("1Yue", "㋀"),
  ("2", "²٢۲߂२২੨૨୨௨౨೨൨෨๒໒༢၂႒២᠒᥈᧒᪂᪒᭒᮲᱂᱒₂②⚁꘢꣒꤂꧒꧲꩒꯲２𐒢𐴲𑁨𑃲𑄸𑇒𑋲𑑒𑓒𑙒𑛂𑜲𑣢𑥒𑱒𑵒𑶢𖩢𖫂𖭒"), ("2", "𝟐𝟚𝟤𝟮𝟸𞅂𞋲𞥒🯲"),
  ("2,", "🄃"), ("2.", "⒉"), ("2/3", "⅔"), ("2/5", "⅖"), ("20", "⑳"), ("20.", "⒛"),
  ("20Dian", "㍬"), ("20Ri", "㏳"), ("21", "㉑"), ("21Dian", "㍭"), ("21Ri", "㏴"), ("22", "㉒"),
  ("22Dian", "㍮"), ("22Ri", "㏵"), ("23", "㉓"), ("23Dian", "㍯"), ("23Ri", "㏶"), ("24", "㉔"),
  ("24Dian", "㍰"), ("24Ri", "㏷"), ("25", "㉕"), ("25Ri", "㏸"), ("26", "㉖"), ("26Ri", "㏹"),
  ("27", "㉗"), ("27Ri", "㏺"), ("28", "㉘"), ("28Ri", "㏻"), ("29", "㉙"), ("29Ri", "㏼"),
  ("2Dian", "㍚"), ("2Ri", "㏡"), ("2Yue", "㋁"),
  ("3", "³٣۳߃३৩੩૩୩௩౩೩൩෩๓໓༣၃႓៣᠓᥉᧓᪃᪓᭓᮳᱃᱓₃③⚂꘣꣓꤃꧓꧳꩓꯳３𐒣𐴳𑁩𑃳𑄹𑇓𑋳𑑓𑓓𑙓𑛃𑜳𑣣𑥓𑱓𑵓𑶣𖩣𖫃𖭓"), ("3", "𝟑𝟛𝟥𝟯𝟹𞅃𞋳𞥓🯳"),
  ("3,", "🄄"), ("3.", "⒊"), ("3/4", "¾"), ("3/5", "⅗"), ("3/8", "⅜"), ("30", "㉚"), ("30Ri", "㏽"),
  ("31", "㉛"), ("31Ri", "㏾"), ("32", "㉜"), ("33", "㉝"), ("34", "㉞"), ("35", "㉟"), ("36", "㊱"),
  ("37", "㊲"), ("38", "㊳"), ("39", "㊴"), ("3Dian", "㍛"), ("3Ri", "㏢"), ("3Yue", "㋂"),
  ("4", "٤۴߄४৪੪૪୪௪౪೪൪෪๔໔༤၄႔៤᠔᥊᧔᪄᪔᭔᮴᱄᱔⁴₄④⚃꘤꣔꤄꧔꧴꩔꯴４𐒤𐴴𑁪𑃴𑄺𑇔𑋴𑑔𑓔𑙔𑛄𑜴𑣤𑥔𑱔𑵔𑶤𖩤𖫄𖭔"), ("4", "𝟒𝟜𝟦𝟰𝟺𞅄𞋴𞥔🯴"),
  ("4,", "🄅"), ("4.", "⒋"), ("4/5", "⅘"), ("40", "㊵"), ("41", "㊶"), ("42", "㊷"), ("43", "㊸"),
  ("44", "㊹"), ("45", "㊺"), ("46", "㊻"), ("47", "㊼"), ("48", "㊽"), ("49", "㊾"), ("4Dian", "㍜"),
  ("4Ri", "㏣"), ("4Yue", "㋃"),
  ("5", "٥۵߅५৫੫૫୫௫౫೫൫෫๕໕༥၅႕៥᠕᥋᧕᪅᪕᭕᮵᱅᱕⁵₅⑤⚄꘥꣕꤅꧕꧵꩕꯵５𐒥𐴵𑁫𑃵𑄻𑇕𑋵𑑕𑓕𑙕𑛅𑜵𑣥𑥕𑱕𑵕𑶥𖩥𖫅𖭕"), ("5", "𝟓𝟝𝟧𝟱𝟻𞅅𞋵𞥕🯵"),
  ("5,", "🄆"), ("5.", "⒌"), ("5/6", "⅚"), ("5/8", "⅝"), ("50", "㊿"), ("5Dian", "㍝"),
  ("5Ri", "㏤"), ("5Yue", "㋄"),
  ("6", "٦۶߆६৬੬૬୬௬౬೬൬෬๖໖༦၆႖៦᠖᥌᧖᪆᪖᭖᮶᱆᱖⁶₆⑥⚅꘦꣖꤆꧖꧶꩖꯶６𐒦𐴶𑁬𑃶𑄼𑇖𑋶𑑖𑓖𑙖𑛆𑜶𑣦𑥖𑱖𑵖𑶦𖩦𖫆𖭖"), ("6", "𝟔𝟞𝟨𝟲𝟼𞅆𞋶𞥖🯶"),
  ("6,", "🄇"), ("6.", "⒍"), ("6Dian", "㍞"), ("6Ri", "㏥"), ("6Yue", "㋅"),
  ("7", "٧۷߇७৭੭૭୭௭౭೭൭෭๗໗༧၇႗៧᠗᥍᧗᪇᪗᭗᮷᱇᱗⁷₇⑦꘧꣗꤇꧗꧷꩗꯷７𐒧𐴷𑁭𑃷𑄽𑇗𑋷𑑗𑓗𑙗𑛇𑜷𑣧𑥗𑱗𑵗𑶧𖩧𖫇𖭗𝟕"), ("7", "𝟟𝟩𝟳𝟽𞅇𞋷𞥗🯷"),
  ("7,", "🄈"), ("7.", "⒎"), ("7/8", "⅞"), ("7Dian", "㍟"), ("7Ri", "㏦"), ("7Yue", "㋆"),
  ("8", "٨۸߈८৮੮૮୮௮౮೮൮෮๘໘༨၈႘៨᠘᥎᧘᪈᪘᭘᮸᱈᱘⁸₈⑧꘨꣘꤈꧘꧸꩘꯸８𐒨𐴸𑁮𑃸𑄾𑇘𑋸𑑘𑓘𑙘𑛈𑜸𑣨𑥘𑱘𑵘𑶨𖩨𖫈𖭘𝟖"), ("8", "𝟠𝟪𝟴𝟾𞅈𞋸𞥘🯸"),
  ("8,", "🄉"), ("8.", "⒏"), ("8Dian", "㍠"), ("8Ri", "㏧"), ("8Yue", "㋇"),
  ("9", "٩۹߉९৯੯૯୯௯౯೯൯෯๙໙༩၉႙៩᠙᥏᧙᪉᪙᭙᮹᱉᱙⁹₉⑨꘩꣙꤉꧙꧹꩙꯹９𐒩𐴹𑁯𑃹𑄿𑇙𑋹𑑙𑓙𑙙𑛉𑜹𑣩𑥙𑱙𑵙𑶩𖩩𖫉𖭙𝟗"), ("9", "𝟡𝟫𝟵𝟿𞅉𞋹𞥙🯹"),
  ("9,", "🄊"), ("9.", "⒐"), ("9Dian", "㍡"), ("9Ri", "㏨"), ("9Yue", "㋈"),
  ("A", "ÅⒶ𝐀𝐴𝑨𝒜𝓐𝔄𝔸𝕬𝖠𝗔𝘈𝘼𝙰𝚨𝛢𝜜𝝖𝞐🄰"), ("A/S", "⅍"), ("A/m", "㏟"), ("AU", "㍳"),
  ("B", "Ⓑ𝐁𝐵𝑩𝓑𝔅𝔹𝕭𝖡𝗕𝘉𝘽𝙱🄱"), ("BTC", "₿"), ("Ba", "⼋㊇"), ("Bai", "⽩"), ("Bao", "⼓"), ("Bei", "⾙"),
  ("Bi", "⼔⽐⿐"), ("Bian", "⾤"), ("Biao", "⾽"), ("Bing", "⼎㆛"), ("Bo", "⼘⽨"), ("Bq", "㏃"),
  ("Bu", "🈨"), ("C", "ⅭⒸ𝐂𝐶𝑪𝒞𝓒𝕮𝖢𝗖𝘊𝘾𝙲🄫🄲"), ("C/kg", "㏆"), ("CD", "🄭"), ("CE", "₠"), ("Cai", "㊖"),
  ("Cao", "⾋"), ("Ch", "𝚾𝛸𝜲𝝬𝞦"), ("Chang", "⼚⾿"), ("Che", "⼬⾞"), ("Chen", "⾂⾠"), ("Chi", "⼻⾚⿒"),
  ("Chong", "⾍"), ("Chu", "🈠"), ("Chuan", "⼮⾇"), ("Chui", "🈥"), ("Chuo", "⾡"), ("Co.", "㏇"),
  ("Cr", "₢"), ("Cun", "⼨"), ("D", "ⅮⒹ𝐃𝐷𝑫𝒟𝓓𝔇𝔻𝕯𝖣𝗗𝘋𝘿𝙳𝚫𝛥𝜟𝝙𝞓🄳"), ("DJ", "🆐"), ("Da", "⼤🈱"),
  ("DaZheng", "㍽"), ("Dai", "⽍"), ("Dao", "⼑"), ("De", "㆞"), ("Ding", "⿍㆜"), ("Dou", "⽃⾖⾾"),
  ("Duo", "🈕"), ("E", "ℇⒺ𝐄𝐸𝑬𝓔𝔈𝔼𝕰𝖤𝗘𝘌𝙀𝙴𝚬𝛦𝜠𝝚𝞔🄴"), ("EUR", "€"), ("Er", "⼆⼉⽽⽿㆓㊁🈔"),
  ("F", "Ⓕ𝐅𝐹𝑭𝓕𝔉𝔽𝕱𝖥𝗙𝘍𝙁𝙵𝚽𝛷𝜱𝝫𝞥🄵"), ("FAX", "℻"), ("Fan", "🈣"), ("Fang", "⼕⽅"), ("Fei", "⾮⾶"),
  ("Feng", "⾵"), ("Fou", "⽸"), ("Fr.", "₣"), ("Fu", "⽗⾩"), ("G", "ℾⒼ𝐆𝐺𝑮𝒢𝓖𝔊𝔾𝕲𝖦𝗚𝘎𝙂𝙶𝚪𝛤𝜞𝝘𝞒🄶"),
  ("GB", "㎇"), ("GBP", "£￡"), ("GHz", "㎓"), ("GPa", "㎬"), ("Gan", "⼲⽢"), ("Gao", "⾼"),
  ("Ge", "⼽⾰⿀"), ("Gen", "⾉"), ("Gong", "⼯⼶⼸"), ("Gu", "⾕⾻⿎"), ("Gua", "⽠"), ("Guang", "⼴"),
  ("Gui", "⻳⿁⿔"), ("Gun", "⼁"), ("Gy", "㏉"), ("H", "Ⓗ𝐇𝐻𝑯𝓗𝕳𝖧𝗛𝘏𝙃𝙷🄷"), ("HP", "㏋"), ("HV", "🅊"),
  ("He", "⽲"), ("Hei", "⿊"), ("Hg", "㋌"), ("Hou", "🈝"), ("Hu", "⼾⾌"), ("Huang", "⿈"),
  ("Huo", "⽕㊋"), ("Hz", "㎐"), ("I", "ⅠⒾ𝐈𝐼𝑰𝓘𝕀𝕴𝖨𝗜𝘐𝙄𝙸𝚮𝚰𝛨𝛪𝜢𝜤𝝜𝝞𝞖𝞘🄸"), ("II", "Ⅱ"), ("III", "Ⅲ"),
  ("ILS", "₪"), ("INR", "₹"), ("IU", "㍺"), ("IV", "Ⅳ"), ("IX", "Ⅸ"), ("J", "Ⓙ𝐉𝐽𝑱𝒥𝓙𝔍𝕁𝕵𝖩𝗝𝘑𝙅𝙹🄹"),
  ("JPY", "¥￥"), ("Ji", "⼏⼰⼹"), ("Jia", "㆙"), ("Jian", "⾒㊬"), ("Jiao", "⾓🈘"), ("Jie", "⼙🈖"),
  ("Jin", "⼱⽄⾦㊎"), ("Jiong", "⼌"), ("Jiu", "⾅⾲㊈"), ("Jue", "⼅"), ("K", "KⓀ𝐊𝐾𝑲𝒦𝓚𝔎𝕂𝕶𝖪𝗞𝘒𝙆𝙺𝚱𝛫𝜥𝝟𝞙🄺"),
  ("KB", "㎅"), ("KK", "㏍"), ("KM", "㏎"), ("KRW", "₩￦"), ("KZT", "₸"), ("Kou", "⼝"),
  ("L", "ⅬⓁ𝐋𝐿𝑳𝓛𝔏𝕃𝕷𝖫𝗟𝘓𝙇𝙻𝚲𝛬𝜦𝝠𝞚🄻"), ("L.", "₤"), ("LTD", "㋏"), ("Lao", "⽼㊘"), ("Lei", "⽾"),
  ("Li", "⼒⽴⾥⾪"), ("Liao", "🈛"), ("LingHe", "㋿"), ("Liu", "㊅"), ("Long", "⿓"), ("Lu", "⿄⿅"),
  ("M", "Ⅿ𝐌𝑀𝑴𝓜𝔐𝕄𝕸𝖬𝗠𝘔𝙈𝙼𝚳𝛭𝜧𝝡𝞛🄼"), ("MB", "㎆"), ("MC", "🅪"), ("MD", "🅫"), ("MHz", "㎒"), ("MO", "㏁"),
  ("MPa", "㎫"), ("MR", "🅬"), ("MV", "㎹🅋"), ("MW", "㎿"), ("Ma", "⾺⿇"), ("Mai", "⿆"),
  ("Mao", "⽑⽭"), ("Men", "⾨"), ("Mi", "⼍⽶⽷"), ("Mian", "⼧⾯⿌"), ("Min", "⽫"), ("Ming", "㊔"),
  ("MingZhi", "㍾"), ("Mu", "⺟⽊⽬㊍"), ("N", "Ⓝ𝐍𝑁𝑵𝒩𝓝𝔑𝕹𝖭𝗡𝘕𝙉𝙽𝚴𝛮𝜨𝝢𝞜🄽"), ("NGN", "₦"), ("Nan", "㊚"),
  ("Ne", "⽧"), ("Nian", "〹"), ("Niao", "⿃"), ("Niu", "⽜"), ("No", "№"), ("Nu", "⼥㊛"),
  ("O", "ΩΩⓄ𝐎𝑂𝑶𝒪𝓞𝔒𝕆𝕺𝖮𝗢𝘖𝙊𝙾𝚶𝛀𝛰𝛺𝜪𝜴𝝤𝝮𝞞𝞨🄾"), ("P", "¶℘ℿⓅ𝐏𝑃𝑷𝒫𝓟𝔓𝕻𝖯𝗣𝘗𝙋𝙿𝚷𝛱𝜫𝝥𝞟🄿"), ("PPM", "㏙"),
  ("PPV", "🅎"), ("PR", "㏚"), ("PTE", "㉐"), ("Pa", "㎩"), ("Pan", "⽙"), ("Pei", "🈻"), ("Pi", "⽦⽪"),
  ("Pian", "⽚"), ("Pie", "⼃"), ("PingCheng", "㍻"), ("Ps", "𝚿𝛹𝜳𝝭𝞧"), ("Pts", "₧"), ("Pu", "⽁"),
  ("Q", "Ⓠ𝐐𝑄𝑸𝒬𝓠𝔔𝕼𝖰𝗤𝘘𝙌𝚀🅀"), ("Qi", "⽓⿑㊆㊭"), ("Qian", "⼐⽋🈜"), ("Qing", "⾭"), ("Quan", "⽝"),
  ("R", "Ⓡ𝐑𝑅𝑹𝓡𝕽𝖱𝗥𝘙𝙍𝚁𝚸𝛲𝜬𝝦𝞠🄬🅁"), ("RUB", "₽"), ("Ren", "⼈㆟"), ("Ri", "⽇㊐"), ("Rou", "⽱⾁"),
  ("Rs", "₨"), ("Ru", "⼊"), ("Rx", "℞"), ("S", "Ⓢ𝐒𝑆𝑺𝒮𝓢𝔖𝕊𝕾𝖲𝗦𝘚𝙎𝚂𝚺𝛴𝜮𝝨𝞢🅂"), ("SD", "🅌"), ("SM", "℠"),
  ("SS", "§🅍"), ("Sa", "〺"), ("San", "㆔㊂🈪"), ("Se", "⾊"), ("Shan", "⼭⼺"), ("Shang", "㆖㊤"),
  ("She", "⾆㊓"), ("Shen", "⾝"), ("Sheng", "⽣🈢🈤"), ("Shi", "⼗⼠⼫⽒⽮⽯⽰⾗⾷〸㊉㊜"), ("Shou", "⼿⾸🈐"),
  ("Shu", "⽎⿉⿏"), ("Shuang", "🈒"), ("Shui", "⽔㊌"), ("Si", "⼛㆕㊃"), ("Sui", "⼢"), ("Sv", "㏜"),
  ("T", "Ⓣ𝐓𝑇𝑻𝒯𝓣𝔗𝕋𝕿𝖳𝗧𝘛𝙏𝚃𝚻𝛵𝜯𝝩𝞣🅃"), ("TEL", "℡"), ("THz", "㎔"), ("TM", "™"), ("TRY", "₺"),
  ("Te", "㊕"), ("Th", "𝚯𝚹𝛩𝛳𝜣𝜭𝝝𝝧𝞗𝞡"), ("Tian", "⽥㆝🈗"), ("Tou", "⼇🈧"), ("Tu", "⼟㊏"),
  ("U", "Ⓤ𝐔𝑈𝑼𝒰𝓤𝔘𝕌𝖀𝖴𝗨𝘜𝙐𝚄🅄"), ("UAH", "₴"), ("V", "ⅤⓋ𝐕𝑉𝑽𝒱𝓥𝔙𝕍𝖁𝖵𝗩𝘝𝙑𝚅𝚩𝛣𝜝𝝗𝞑🅅"), ("V/m", "㏞"),
  ("VI", "Ⅵ"), ("VII", "Ⅶ"), ("VIII", "Ⅷ"), ("VND", "₫"), ("W", "Ⓦ𝐖𝑊𝑾𝒲𝓦𝔚𝕎𝖂𝖶𝗪𝘞𝙒𝚆𝟊🅆"), ("WC", "🅏"),
  ("WZ", "🄮"), ("Wa", "⽡"), ("Wang", "⼪⽹"), ("Wb", "㏝"), ("Wei", "⼞⾱"), ("Wen", "⽂㉄㉆"),
  ("Wu", "⽆⽏㊄"), ("X", "ⅩⓍ⛌𝐗𝑋𝑿𝒳𝓧𝔛𝕏𝖃𝖷𝗫𝘟𝙓𝚇𝚵𝛯𝜩𝝣𝞝🅇"), ("XI", "Ⅺ"), ("XII", "Ⅻ"), ("Xi", "⼖⼣"),
  ("Xia", "㆘㊦"), ("Xiang", "⾹㊠"), ("Xiao", "⼩"), ("Xie", "㊢㊯"), ("Xin", "⼼⾟🈟"), ("Xing", "⾏"),
  ("Xiu", "㊡"), ("Xuan", "⽞"), ("Xue", "⽳⾎㊫"), ("Y", "Ⓨ𝐘𝑌𝒀𝒴𝓨𝔜𝕐𝖄𝖸𝗬𝘠𝙔𝚈𝚼𝛶𝜰𝝪𝞤🅈"), ("Ya", "⽛⾑"),
  ("Yan", "⾔🈦"), ("Yang", "⽺"), ("Yao", "⼳⽘"), ("Ye", "⾴㊰"), ("Yi", "⼀⼄⼷⾐⾢㆒㆚㊀㊩🈩"),
  ("Yin", "⼵⾳㊞"), ("Ying", "🈙"), ("Yong", "⽤"), ("You", "⼜⾣㉅㊒㊝㊨🈫🈮"), ("Yu", "⽟⽻⾀⾬⿂"),
  ("Yue", "⽈⽉⿕㊊"), ("Z", "Ⓩ𝐙𝑍𝒁𝒵𝓩𝖅𝖹𝗭𝘡𝙕𝚉𝚭𝛧𝜡𝝛𝞕🅉"), ("Zai", "🈞"), ("Zhang", "⾧"), ("Zhao", "⽖"),
  ("ZhaoHe", "㍼"), ("Zheng", "㉇㊣"), ("Zhi", "⼡⽀⽌⾄⾘⿋"), ("Zhong", "㆗㊥🈡🈭"), ("Zhou", "⾈"),
  ("Zhu", "⼂⽵㊑㊟"), ("ZhuShiHuiShe", "㍿"), ("Zhui", "⾫"), ("Zi", "⼦⾃㊮🈑"), ("Zong", "㊪"),
  ("Zou", "⾛🈰"), ("Zu", "⾜"), ("Zuo", "㊧🈬"), ("[An]", "🉃"), ("[Bai]", "🉈"), ("[Ben]", "🉀"),
  ("[Da]", "🉅"), ("[Dao]", "🉆"), ("[Dian]", "🉄"), ("[Er]", "🉂"), ("[S]", "🄪"), ("[San]", "🉁"),
  ("[Sheng]", "🉇"), ("a", "ªⓐ⠁㋐𝐚𝑎𝒂𝒶𝓪𝔞𝕒𝖆𝖺𝗮𝘢𝙖𝚊𝛂𝛼𝜶𝝰𝞪"), ("a-ru", "㌃"), ("a.m.", "㏂"), ("a/c", "℀"),
  ("a/s", "℁"), ("aha-to", "㌀"), ("anhea", "㌂"), ("arufua", "㌁"), ("b", "ⓑ⠃𝐛𝑏𝒃𝒷𝓫𝔟𝕓𝖇𝖻𝗯𝘣𝙗𝚋"),
  ("bar", "㍴"), ("c", "¢ⅽⓒ⠉￠𝐜𝑐𝒄𝒸𝓬𝔠𝕔𝖈𝖼𝗰𝘤𝙘𝚌"), ("c/o", "℅"), ("c/u", "℆"), ("cal", "㎈"),
  ("cc", "㏄"), ("cd", "㏅"), ("ch", "𝛘𝜒𝝌𝞆𝟀"), ("chi", "㋠"), ("cm", "㎝"), ("cm2", "㎠"),
  ("cm3", "㎤"), ("d", "ℸⅾⓓ⠙𝐝𝑑𝒅𝒹𝓭𝔡𝕕𝖉𝖽𝗱𝘥𝙙𝚍𝛅𝛿𝜹𝝳𝞭"), ("dB", "㏈"), ("da", "㍲"), ("deg", "°"),
  ("degC", "℃"), ("degF", "℉"), ("dl", "㎗"), ("dm", "㍷"), ("dm2", "㍸"), ("dm3", "㍹"),
  ("e", "ⓔ⠑㋓𝐞𝑒𝒆𝓮𝔢𝕖𝖊𝖾𝗲𝘦𝙚𝚎𝛆𝛜𝜀𝜖𝜺𝝐𝝴𝞊𝞮𝟄"), ("e-ka-", "㌈"), ("eV", "㋎"), ("erg", "㋍"),
  ("esuku-to", "㌇"), ("f", "ⓕ⠋𝐟𝑓𝒇𝒻𝓯𝔣𝕗𝖋𝖿𝗳𝘧𝙛𝚏𝛗𝛟𝜑𝜙𝝋𝝓𝞅𝞍𝞿𝟇"), ("fm", "㎙"), ("fu", "㋫"),
  ("fuaratsuto", "㌲"), ("fui-to", "㌳"), ("furan", "㌵"), ("futsushieru", "㌴"),
  ("g", "ℷℽⓖ⠛𝐠𝑔𝒈𝓰𝔤𝕘𝖌𝗀𝗴𝘨𝙜𝚐𝛄𝛾𝜸𝝲𝞬"), ("gal", "㏿"), ("h", "ℏⓗ⠓𝐡𝒉𝒽𝓱𝔥𝕙𝖍𝗁𝗵𝘩𝙝𝚑"), ("hPa", "㍱"),
  ("ha", "㋩㏊"), ("ha-reru", "㌭"), ("ha-sento", "㌫"), ("ha-tsu", "㌬"), ("haitsu", "㌪"),
  ("he", "㋬"), ("he-shi", "㌻"), ("he-ta", "㌼"), ("hekuta-ru", "㌶"), ("henihi", "㌸"),
  ("hensu", "㌺"), ("herutsu", "㌹"), ("heso", "㌷"), ("hi", "㋪"), ("hiasutoru", "㌮"),
  ("hiko", "㌰"), ("hikuru", "㌯"), ("hiru", "㌱"), ("ho", "㋭"), ("ho-n", "㍂"), ("ho-ru", "㍁"),
  ("hointo", "㌽"), ("hoka", "🈀"), ("hon", "㌿"), ("honto", "㍀"), ("horuto", "㌾"),
  ("i", "\u2071ⅰⓘ⠊㋑𝐢𝑖𝒊𝒾𝓲𝔦𝕚𝖎𝗂𝗶𝘪𝙞𝚒𝚤𝛈𝛊𝜂𝜄𝜼𝜾𝝶𝝸𝞰𝞲"), ("ii", "ⅱ"), ("iii", "ⅲ"), ("in", "㏌"),
  ("inchi", "㌅"), ("ininku", "㌄"), ("iv", "ⅳ"), ("ix", "ⅸ"), ("j", "ⓙ⠚𝐣𝑗𝒋𝒿𝓳𝔧𝕛𝖏𝗃𝗷𝘫𝙟𝚓𝚥"),
  ("jl jlalh", "ﷻ"), ("k", "ⓚ⠅𝐤𝑘𝒌𝓀𝓴𝔨𝕜𝖐𝗄𝗸𝘬𝙠𝚔𝛋𝛞𝜅𝜘𝜿𝝒𝝹𝞌𝞳𝟆"), ("kA", "㎄"), ("kHz", "㎑"), ("kO", "㏀"),
  ("kPa", "㎪"), ("kV", "㎸"), ("kW", "㎾"), ("ka", "㋕"), ("kairi", "㌋"), ("kanma", "㌏"),
  ("karatsuto", "㌌"), ("karon", "㌎"), ("karori-", "㌍"), ("kcal", "㎉"), ("ke", "㋘"),
  ("ke-su", "㌜"), ("kg", "㎏"), ("ki", "㋖"), ("kika", "㌐"), ("kini-", "㌑"), ("kiro", "㌔"),
  ("kirokuramu", "㌕"), ("kirome-toru", "㌖"), ("kirowatsuto", "㌗"), ("kiruta-", "㌓"),
  ("kiyuri-", "㌒"), ("kl", "㎘"), ("km", "㎞"), ("km2", "㎢"), ("km3", "㎦"), ("ko", "㋙"),
  ("ko-ho", "㌞"), ("koruna", "㌝"), ("kt", "㏏"), ("ku", "㋗"), ("kuramu", "㌘"), ("kuramuton", "㌙"),
  ("kuro-ne", "㌛"), ("kuruseiro", "㌚"), ("l", "ⅼⓛ⠇𝐥𝑙𝒍𝓁𝓵𝔩𝕝𝖑𝗅𝗹𝘭𝙡𝚕𝛌𝜆𝝀𝝺𝞴"), ("lm", "㏐"), ("ln", "㏑"),
  ("log", "㏒"), ("lx", "㏓"), ("m", "ⅿⓜ⠍𝐦𝑚𝒎𝓂𝓶𝔪𝕞𝖒𝗆𝗺𝘮𝙢𝚖𝛍𝜇𝝁𝝻𝞵"), ("m/s", "㎧"), ("m/s2", "㎨"),
  ("m2", "㎡"), ("m3", "㎥"), ("mA", "㎂㎃"), ("mF", "㎌"), ("mV", "㎶㎷"), ("mW", "㎼㎽"), ("ma", "㋮"),
  ("maikuro", "㍃"), ("mairu", "㍄"), ("manshiyon", "㍇"), ("maruku", "㍆"), ("matsuha", "㍅"),
  ("mb", "㏔"), ("me", "㋱ﬔ"), ("me-toru", "㍍"), ("meka", "㍋"), ("mekaton", "㍌"), ("mg", "㎍㎎"),
  ("mi", "㋯ﬕ"), ("mikuron", "㍈"), ("mil", "㏕"), ("miri", "㍉"), ("miriha-ru", "㍊"), ("mkh", "ﬗ"),
  ("ml", "㎕㎖"), ("mm", "㎛㎜"), ("mm2", "㎟"), ("mm3", "㎣"), ("mn", "ﬓ"), ("mo", "㋲"), ("mol", "㏖"),
  ("ms", "㎲㎳"), ("mu", "㋰"), ("n", "\u207fⓝ⠝𝐧𝑛𝒏𝓃𝓷𝔫𝕟𝖓𝗇𝗻𝘯𝙣𝚗𝛎𝜈𝝂𝝼𝞶"), ("nA", "㎁"), ("nF", "㎋"),
  ("nV", "㎵"), ("nW", "㎻"), ("na", "㋤"), ("nano", "㌨"), ("ne", "㋧"), ("ni", "㋥"), ("nm", "㎚"),
  ("no", "㋨"), ("notsuto", "㌩"), ("ns", "㎱"), ("nu", "㋦"), ("o", "ºⓞ⠕㋔𝐨𝑜𝒐𝓸𝔬𝕠𝖔𝗈𝗼𝘰𝙤𝚘𝛐𝛚𝜊𝜔𝝄𝝎𝝾𝞈𝞸𝟂"),
  ("o-mu", "㌊"), ("oV", "㍵"), ("onsu", "㌉"), ("oo", "∞"), ("p", "ℼⓟ⠏𝐩𝑝𝒑𝓅𝓹𝔭𝕡𝖕𝗉𝗽𝘱𝙥𝚙𝛑𝛡𝜋𝜛𝝅𝝕𝝿𝞏𝞹𝟉"),
  ("p.m.", "㏘"), ("pA", "㎀"), ("pF", "㎊"), ("pH", "㏗"), ("pV", "㎴"), ("pW", "㎺"), ("pc", "㍶"),
  ("ps", "㎰𝛙𝜓𝝍𝞇𝟁"), ("q", "ⓠ⠟𝐪𝑞𝒒𝓆𝓺𝔮𝕢𝖖𝗊𝗾𝘲𝙦𝚚"), ("r", "ⓡ⠗𝐫𝑟𝒓𝓇𝓻𝔯𝕣𝖗𝗋𝗿𝘳𝙧𝚛𝛒𝛠𝜌𝜚𝝆𝝔𝞀𝞎𝞺𝟈"), ("ra", "㋶"),
  ("rad", "㎭"), ("rad/s", "㎮"), ("rad/s2", "㎯"), ("re", "㋹"), ("remu", "㍕"), ("rentoken", "㍖"),
  ("ri", "㋷"), ("rira", "㍒"), ("ritsutoru", "㍑"), ("ro", "㋺"), ("ru", "㋸"), ("ru-furu", "㍔"),
  ("ruhi-", "㍓"), ("ryal", "﷼"), ("s", "ⓢ⠎𝐬𝑠𝒔𝓈𝓼𝔰𝕤𝖘𝗌𝘀𝘴𝙨𝚜𝛓𝛔𝜍𝜎𝝇𝝈𝞁𝞂𝞻𝞼"), ("sa", "㋚"),
  ("saikuru", "㌟"), ("sanchi-mu", "㌠"), ("se", "㋝"), ("senchi", "㌢"), ("sento", "㌣"),
  ("shi", "㋛"), ("shirinku", "㌡"), ("sl'm", "ﷵ"), ("sla allh 'lyh wslm", "ﷺ"), ("so", "㋞"),
  ("sr", "㏛"), ("su", "㋜"), ("t", "ⓣ⠞𝐭𝑡𝒕𝓉𝓽𝔱𝕥𝖙𝗍𝘁𝘵𝙩𝚝𝛕𝜏𝝉𝞃𝞽"), ("ta", "㋟"), ("ta-su", "㌤"),
  ("te", "㋢🈓"), ("teshi", "㌥"), ("th", "𝛉𝛝𝜃𝜗𝜽𝝑𝝷𝞋𝞱𝟅"), ("to", "㋣"), ("ton", "㌧"), ("toru", "㌦"),
  ("tsu", "㋡"), ("u", "µⓤ⠥㋒𝐮𝑢𝒖𝓊𝓾𝔲𝕦𝖚𝗎𝘂𝘶𝙪𝚞"), ("uon", "㌆"), ("v", "ℶⅴⓥ⠧𝐯𝑣𝒗𝓋𝓿𝔳𝕧𝖛𝗏𝘃𝘷𝙫𝚟𝛃𝛽𝜷𝝱𝞫"),
  ("vi", "ⅵ"), ("vii", "ⅶ"), ("viii", "ⅷ"), ("vn", "ﬖ"), ("w", "ⓦ⠺𝐰𝑤𝒘𝓌𝔀𝔴𝕨𝖜𝗐𝘄𝘸𝙬𝚠𝟋"), ("wa", "㋻"),
  ("watsuto", "㍗"), ("we", "㋽"), ("wi", "㋼"), ("wo", "㋾"), ("x", "ⅹⓧ⠭𝐱𝑥𝒙𝓍𝔁𝔵𝕩𝖝𝗑𝘅𝘹𝙭𝚡𝛏𝜉𝝃𝝽𝞷"),
  ("xi", "ⅺ"), ("xii", "ⅻ"), ("y", "ⓨ⠽𝐲𝑦𝒚𝓎𝔂𝔶𝕪𝖞𝗒𝘆𝘺𝙮𝚢𝛖𝜐𝝊𝞄𝞾"), ("ya", "㋳"), ("ya-ru", "㍏"),
  ("ya-to", "㍎"), ("yo", "㋵"), ("yu", "㋴"), ("yuan", "㍐"), ("z", "ⓩ⠵𝐳𝑧𝒛𝓏𝔃𝔷𝕫𝖟𝗓𝘇𝘻𝙯𝚣𝛇𝜁𝜻𝝵𝞯")]

end ScreenNavigation.Naming
