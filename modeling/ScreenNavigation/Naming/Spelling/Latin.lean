/-!
Latin letters with marks, ligatures and letters of phonetic alphabets.
-/
namespace ScreenNavigation.Naming

/-- Each row has a spelling and the characters that are so spelled. -/
def latinSpellings : List (String × String) := [
  ("A", "ÀÁÂÃÄÅĀĂĄǍǞǠǺȀȂȦȺᴀ\u1d2cḀẠẢẤẦẨẪẬẮẰẲẴẶℵⱯＡ"), ("AA", "Ꜳ"), ("AE", "ÆǢǼᴁ\u1d2d"),
  ("AO", "Ꜵ"), ("AU", "Ꜷ"), ("AV", "ꜸꜺ"), ("AY", "Ꜽ"), ("B", "ƁƂɃʙᴃ\u1d2e\u1d2fḂḄḆℬꞖＢ𐞄"),
  ("C", "ÇĆĈĊČƇȻᴄḈℂℭꜾꞒꟄ\ua7f2Ｃ"), ("D", "ÐĎĐƉƊƋᴅᴆ\u1d30ḊḌḎḐḒⅅꝹꟇＤ"), ("DZ", "ǄǱ"), ("Dz", "ǅǲ"),
  ("E", "ÈÉÊËĒĔĖĘĚƎƐȄȆȨɆᴇ\u1d31\u1d32ḔḖḘḚḜẸẺẼẾỀỂỄỆℰⱻＥ"), ("F", "ƑḞℱꜰꝻꞘ\ua7f3Ｆ"),
  ("G", "ĜĞĠĢƓǤǦǴɢʛ\u1d33ḠꞠＧ𐞒𐞔𝼂"), ("H", "ĤĦȞʜ\u1d34ḢḤḦḨḪℋℍⱧꞍꞪ\ua7f8Ｈ𐞖"),
  ("I", "ÌÍÎÏĨĪĬĮİƖƗǏȈȊɪ\u1d35ᵻ\u1da6\u1da7ḬḮỈỊℐℑꞮＩ"), ("IJ", "Ĳ"), ("J", "ĴɈᴊ\u1d36ꞲＪ"),
  ("K", "ĶƘǨᴋ\u1d37ḰḲḴⱩꝀꝂꝄꞢꞰＫ𝼐"), ("L", "ĹĻĽĿŁȽʟᴌ\u1d38\u1dabḶḸḺḼℒⱠⱢꝆꝈꞀꞭＬ𐞜𝼄"), ("LJ", "Ǉ"),
  ("LL", "Ỻ"), ("Lj", "ǈ"), ("M", "Ɯᴍ\u1d39ḾṀṂℳⱮꟺＭ"),
  ("N", "ÑŃŅŇŊƝǸȠɴᴎ\u1d3a\u1d3b\u1db0ṄṆṈṊℕꞐꞤＮ"), ("NJ", "Ǌ"), ("Nj", "ǋ"),
  ("O", "ÒÓÔÕÖØŌŎŐƆƟƠǑǪǬǾȌȎȪȬȮȰᴏᴐ\u1d3cṌṎṐṒỌỎỐỒỔỖỘỚỜỞỠỢꝊꝌＯ"), ("OE", "Œɶ𐞣"), ("OI", "Ƣ"),
  ("OO", "Ꝏ"), ("P", "Ƥᴘ\u1d3eṔṖℙⱣꝐꝒꝔＰ"), ("Q", "ɊℚꝖꝘꞯ\ua7f4Ｑ"),
  ("R", "ŔŖŘȐȒɌʀʁ\u02b6ᴙᴚ\u1d3fṘṚṜṞℛℜℝⱤꝚꝶꞦꭆＲ𐞪"), ("S", "ŚŜŞŠȘṠṢṤṦṨⱾꜱꞨꟅꟉＳ"), ("Ss", "ẞ"),
  ("T", "ŢŤŦƬƮȚȾᴛ\u1d40ṪṬṮṰꞆꞱＴ"), ("Th", "ÞꝤꝦ"),
  ("U", "ÙÚÛÜŨŪŬŮŰŲƯǓǕǗǙǛȔȖɄᴜ\u1d41ᵾ\u1db8ṲṴṶṸṺỤỦỨỪỬỮỰꞸＵ"), ("V", "ƲɅᴠṼṾỼ\u2c7dꝞＶ"), ("VY", "Ꝡ"),
  ("W", "Ŵᴡ\u1d42ẀẂẄẆẈⱲＷ"), ("X", "ẊẌＸ"), ("Y", "ÝŶŸƳȲɎʏẎỲỴỶỸỾＹ𐞲"), ("Z", "ŹŻŽƵȤᴢẐẒẔℤℨⱫⱿꟆＺ"),
  ("\\n", "ŉ"), ("a", "àáâãäåāăąǎǟǡǻȁȃȧɐ\u1d43\u1d44ᶏḁẚạảấầẩẫậắằẳẵặ\u2090ⱥꬱａ"), ("aa", "ꜳ"),
  ("ae", "æǣǽ𐞃"), ("ao", "ꜵ"), ("au", "ꜷ"), ("av", "ꜹꜻ"), ("ay", "ꜽ"),
  ("b", "ƀƃɓ\u1d47ᵬᶀḃḅḇꞗｂ𐞅"), ("c", "çćĉċčƈȼɕ\u1d9c\u1d9dḉↄꜿꞓꞔｃ𝼝"), ("ch", "\u1d61"),
  ("d", "ðďđƌȡɖɗ\u1d48\u1d5fᵭᶁᶑ\u1d9eḋḍḏḑḓⅆꝱꝺꟈｄ𐞋𐞌𐞍"), ("db", "ȸ"), ("dz", "ǆǳʣʥ𐞇𐞉"),
  ("e", "èéêëēĕėęěǝȅȇȩɇɘɛ\u1d49\u1d4bᶒᶓḕḗḙḛḝẹẻẽếềểễệ\u2091ℯⅇⱸꬳꬴｅ𐞎"),
  ("f", "ƒ\u1d60ᵮᶂ\u1da0ḟꝼꞙꟻｆ"), ("ff", "ﬀ"), ("ffi", "ﬃ"), ("ffl", "ﬄ"), ("fi", "ﬁ"),
  ("fl", "ﬂ"), ("g", "ĝğġģǥǧǵɠɡ\u1d4d\u1d5eᵷᶃ\u1da2ḡℊꞡｇ𐞓"),
  ("h", "ĥħȟɥɦɧʮʯ\u02b0\u02b1\u1da3ḣḥḧḩḫẖ\u2095ℎⱨꞕｈ𐞕𐞗"), ("hv", "ƕ"),
  ("i", "ìíîïĩīĭįıǐȉȋɨᴉ\u1d4e\u1d62ᶖ\u1da4ḭḯỉịℹⅈꟷꟾｉ𝼚"), ("ij", "ĳ"),
  ("j", "ĵǰȷɉɟʝ\u02b2\u1da1\u1da8ⅉ\u2c7cｊ"), ("k", "ķƙǩʞ\u1d4fᶄḱḳḵ\u2096ⱪꝁꝃꝅꞣｋ𝼃"),
  ("l", "ĺļľŀłƚȴɫɬɭ\u02e1ᶅ\u1da9\u1daaḷḹḻḽ\u2097ℓⱡꝇꝉꝲꞁꞎꬷꬸꬹ\uab5d\uab5eｌ𐞛𐞝𝼑𝼓"), ("lj", "ǉ"),
  ("ll", "ỻ"), ("ls", "ʪ𐞙"), ("lz", "ʫ𐞚"), ("m", "ɯɰɱ\u1d50\u1d5aᵯᶆ\u1dac\u1dadḿṁṃ\u2098ꝳꟽꬺｍ"),
  ("n", "ñńņňŋƞǹȵɲɳ\u10fc\u1d51ᵰ\u1d78ᶇ\u1dae\u1dafṅṇṉṋ\u2099ꝴꞑꞥꬻｎ"), ("nj", "ǌ"),
  ("o", "òóôõöøōŏőơǒǫǭǿȍȏȫȭȯȱɔɵᴑᴓᴖᴗ\u1d52\u1d53\u1d54\u1d55ᶗ\u1db1ṍṏṑṓọỏốồổỗộớờởỡợ\u2092ℴⱺꝋꝍꬿꭃꭄｏ𐞢𝼛"),
  ("oe", "œ\ua7f9"), ("oi", "ƣ"), ("oo", "ꝏ"), ("p", "ƥ\u1d56ᵱᵽᶈṕṗ\u209aꝑꝓꝕꟼｐ"),
  ("q", "ĸɋʠꝗꝙｑ𐞥"), ("qp", "ȹ"),
  ("r", "ŕŗřȑȓɍɹɺɻɼɽɾɿ\u02b3\u02b4\u02b5\u1d63ᵲᵳᶉṙṛṝṟⱹꝛꝵꞧꭇꭉꭨｒ𐞦𐞧𐞨𐞩𝼈𝼕𝼖"),
  ("s", "śŝşšſșȿʂ\u02e2ᵴᶊ\u1db3ṡṣṥṧṩẛẜẝ\u209bꞩꟊｓ𐞺𝼞"), ("ss", "ß"), ("st", "ﬅﬆ"),
  ("t", "ţťŧƫƭțȶʇʈ\u1d57ᵵ\u1db5ṫṭṯṱẗ\u209cⱦꝷꞇｔ𐞯𝼉𝼍"), ("th", "þᵺ\u1dbfꝥꝧ"), ("ts", "ʦ𐞬"),
  ("u", "ùúûüũūŭůűųưǔǖǘǚǜȕȗʉᴝ\u1d58\u1d59\u1d64ᶙ\u1db6ṳṵṷṹṻụủứừửữựꞹꭎꭏꭒ\uab5fｕ"), ("ue", "ᵫ"),
  ("v", "ʋʌ\u1d5b\u1d5d\u1d65ᶌ\u1db9\u1dbaṽṿỽⱱⱴꝟｖ𐞰"), ("vy", "ꝡ"),
  ("w", "ŵʍ\u02b7ẁẃẅẇẉẘⱳ\uab69ｗ"), ("x", "\u02e3ᶍẋẍ\u2093ℌꭖꭗꭘꭙｘ"),
  ("y", "ýÿŷƴȳɏʎ\u02b8ẏẙỳỵỷỹỿꭚｙ𐞠𐞡𝼆"), ("z", "źżžƶȥɀʐʑᵶᶎ\u1dbb\u1dbc\u1dbdẑẓẕⱬｚ")]

end ScreenNavigation.Naming
