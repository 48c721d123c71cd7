/-!
# ASCII forms

Many characters are ASCII text in another dress: letters with accents, wide, circled and script
letters, ligatures, small digits, fractions, units. Taking such a character apart down to its plain
pieces (its full compatibility decomposition) leaves that text, possibly among marks and other
characters outside ASCII.

* `asciiForms` is the table, one row for each ASCII text.
* `asciiForm` is the ASCII text in a character; `isWhollyAscii` tells that nothing else is in it.
-/

namespace Crosslink.Text

/-- An ASCII text and the characters that it is in. -/
structure AsciiForm where
  /-- the text -/
  text : String
  /-- the characters that are this text and nothing else -/
  whole : String
  /-- the characters that are this text among characters outside ASCII -/
  mixed : String

/-- The rows of the table, the short texts first. -/
def asciiForms : List AsciiForm := [
  ⟨" ",
    "\u00a0\u2000\u2001\u2002\u2003\u2004\u2005\u2006\u2007\u2008\u2009\u200a\u202f\u205f\u3000",
    "\u00a8\u00af\u00b4\u00b8\u02d8\u02d9\u02da\u02db\u02dc\u02dd\u037a\u0384\u0385\u1fbd\u1fbf\u1fc0\u1fc1\u1fcd\u1fce\u1fcf\u1fdd\u1fde\u1fdf\u1fed\u1fee\u1ffd\u1ffe\u2017\u203e\u309b\u309c\ufc5e\ufc5f\ufc60\ufc61\ufc62\ufc63\ufdfb\ufe49\ufe4a\ufe4b\ufe4c\ufe70\ufe72\ufe74\ufe76\ufe78\ufe7a\ufe7c\ufe7e\uffe3"⟩,
  ⟨"!", "\ufe15\ufe57\uff01", ""⟩,
  ⟨"\"", "\uff02", ""⟩,
  ⟨"#", "\ufe5f\uff03", ""⟩,
  ⟨"$", "\ufe69\uff04", ""⟩,
  ⟨"%", "\ufe6a\uff05", ""⟩,
  ⟨"&", "\ufe60\uff06", ""⟩,
  ⟨"'", "\uff07", ""⟩,
  ⟨"(", "\u207d\u208d\ufe35\ufe59\uff08", ""⟩,
  ⟨")", "\u207e\u208e\ufe36\ufe5a\uff09", ""⟩,
  ⟨"*", "\ufe61\uff0a", ""⟩,
  ⟨"+", "\u207a\u208a\ufb29\ufe62\uff0b", ""⟩,
  ⟨",", "\ufe10\ufe50\uff0c", ""⟩,
  ⟨"-", "\ufe63\uff0d", ""⟩,
  ⟨".", "\u2024\ufe52\uff0e", ""⟩,
  ⟨"/", "\uff0f", ""⟩,
  ⟨"0", "⁰₀⓪０𜳰𝟎𝟘𝟢𝟬𝟶🯰", "\u3358"⟩,
  ⟨"1", "¹₁①１𜳱𝟏𝟙𝟣𝟭𝟷🯱", "⅟\u32c0\u3359\u33e0"⟩,
  ⟨"2", "²₂②２𜳲𝟐𝟚𝟤𝟮𝟸🯲", "\u32c1\u335a\u33e1"⟩,
  ⟨"3", "³₃③３𜳳𝟑𝟛𝟥𝟯𝟹🯳", "\u32c2\u335b\u33e2"⟩,
  ⟨"4", "⁴₄④４𜳴𝟒𝟜𝟦𝟰𝟺🯴", "\u32c3\u335c\u33e3"⟩,
  ⟨"5", "⁵₅⑤５𜳵𝟓𝟝𝟧𝟱𝟻🯵", "\u32c4\u335d\u33e4"⟩,
  ⟨"6", "⁶₆⑥６𜳶𝟔𝟞𝟨𝟲𝟼🯶", "\u32c5\u335e\u33e5"⟩,
  ⟨"7", "⁷₇⑦７𜳷𝟕𝟟𝟩𝟳𝟽🯷", "\u32c6\u335f\u33e6"⟩,
  ⟨"8", "⁸₈⑧８𜳸𝟖𝟠𝟪𝟴𝟾🯸", "\u32c7\u3360\u33e7"⟩,
  ⟨"9", "⁹₉⑨９𜳹𝟗𝟡𝟫𝟵𝟿🯹", "\u32c8\u3361\u33e8"⟩,
  ⟨":", "\ufe13\ufe55\uff1a", ""⟩,
  ⟨";", "\u037e\ufe14\ufe54\uff1b", ""⟩,
  ⟨"<", "\ufe64\uff1c", "\u226e"⟩,
  ⟨"=", "\u207c\u208c\ufe66\uff1d", "\u2260"⟩,
  ⟨">", "\ufe65\uff1e", "\u226f"⟩,
  ⟨"?", "\ufe16\ufe56\uff1f", ""⟩,
  ⟨"@", "\ufe6b\uff20", ""⟩,
  ⟨"A", "ᴬ\u24b6Ａ𜳖𝐀𝐴𝑨𝒜𝓐𝔄𝔸𝕬𝖠𝗔𝘈𝘼𝙰🄰", "ÀÁÂÃÄÅĀĂĄǍǞǠǺȀȂȦḀẠẢẤẦẨẪẬẮẰẲẴẶÅ\u3382"⟩,
  ⟨"B", "ᴮℬ\u24b7Ｂ𜳗𝐁𝐵𝑩𝓑𝔅𝔹𝕭𝖡𝗕𝘉𝘽𝙱🄱", "ḂḄḆ"⟩,
  ⟨"C", "ℂℭⅭ\u24b8ꟲＣ𜳘𝐂𝐶𝑪𝒞𝓒𝕮𝖢𝗖𝘊𝘾𝙲🄫🄲", "ÇĆĈĊČḈ\u2103"⟩,
  ⟨"D", "ᴰⅅⅮ\u24b9Ｄ𜳙𝐃𝐷𝑫𝒟𝓓𝔇𝔻𝕯𝖣𝗗𝘋𝘿𝙳🄳", "ĎḊḌḎḐḒ"⟩,
  ⟨"E", "ᴱℰ\u24baＥ𜳚𝐄𝐸𝑬𝓔𝔈𝔼𝕰𝖤𝗘𝘌𝙀𝙴🄴", "ÈÉÊËĒĔĖĘĚȄȆȨḔḖḘḚḜẸẺẼẾỀỂỄỆ"⟩,
  ⟨"F", "ℱ\u24bbꟳＦ𜳛𝐅𝐹𝑭𝓕𝔉𝔽𝕱𝖥𝗙𝘍𝙁𝙵🄵", "Ḟ\u2109\u338c"⟩,
  ⟨"G", "ᴳ\u24bcＧ𜳜𝐆𝐺𝑮𝒢𝓖𝔊𝔾𝕲𝖦𝗚𝘎𝙂𝙶🄶", "ĜĞĠĢǦǴḠ"⟩,
  ⟨"H", "ᴴℋℌℍ\u24bdＨ𜳝𝐇𝐻𝑯𝓗𝕳𝖧𝗛𝘏𝙃𝙷🄷", "ĤȞḢḤḦḨḪ"⟩,
  ⟨"I", "ᴵℐℑⅠ\u24beＩ𜳞𝐈𝐼𝑰𝓘𝕀𝕴𝖨𝗜𝘐𝙄𝙸🄸", "ÌÍÎÏĨĪĬĮİǏȈȊḬḮỈỊ"⟩,
  ⟨"J", "ᴶ\u24bfＪ𜳟𝐉𝐽𝑱𝒥𝓙𝔍𝕁𝕵𝖩𝗝𝘑𝙅𝙹🄹", "Ĵ"⟩,
  ⟨"K", "ᴷK\u24c0Ｋ𜳠𝐊𝐾𝑲𝒦𝓚𝔎𝕂𝕶𝖪𝗞𝘒𝙆𝙺🄺", "ĶǨḰḲḴ"⟩,
  ⟨"L", "ᴸℒⅬ\u24c1Ｌ𜳡𝐋𝐿𝑳𝓛𝔏𝕃𝕷𝖫𝗟𝘓𝙇𝙻🄻", "ĹĻĽĿḶḸḺḼ"⟩,
  ⟨"M", "ᴹℳⅯ\u24c2Ｍ𜳢𝐌𝑀𝑴𝓜𝔐𝕄𝕸𝖬𝗠𝘔𝙈𝙼🄼", "ḾṀṂ\u33c1"⟩,
  ⟨"N", "ᴺℕ\u24c3Ｎ𜳣𝐍𝑁𝑵𝒩𝓝𝔑𝕹𝖭𝗡𝘕𝙉𝙽🄽", "ÑŃŅŇǸṄṆṈṊ"⟩,
  ⟨"O", "ᴼ\u24c4Ｏ𜳤𝐎𝑂𝑶𝒪𝓞𝔒𝕆𝕺𝖮𝗢𝘖𝙊𝙾🄾", "ÒÓÔÕÖŌŎŐƠǑǪǬȌȎȪȬȮȰṌṎṐṒỌỎỐỒỔỖỘỚỜỞỠỢ"⟩,
  ⟨"P", "ᴾℙ\u24c5Ｐ𜳥𝐏𝑃𝑷𝒫𝓟𝔓𝕻𝖯𝗣𝘗𝙋𝙿🄿", "ṔṖ"⟩,
  ⟨"Q", "ℚ\u24c6ꟴＱ𜳦𝐐𝑄𝑸𝒬𝓠𝔔𝕼𝖰𝗤𝘘𝙌𝚀🅀", ""⟩,
  ⟨"R", "ᴿℛℜℝ\u24c7Ｒ𜳧𝐑𝑅𝑹𝓡𝕽𝖱𝗥𝘙𝙍𝚁🄬🅁", "ŔŖŘȐȒṘṚṜṞ"⟩,
  ⟨"S", "\u24c8Ｓ𜳨𝐒𝑆𝑺𝒮𝓢𝔖𝕊𝕾𝖲𝗦𝘚𝙎𝚂🅂", "ŚŜŞŠȘṠṢṤṦṨ🄪"⟩,
  ⟨"T", "ᵀ\u24c9Ｔ𜳩𝐓𝑇𝑻𝒯𝓣𝔗𝕋𝕿𝖳𝗧𝘛𝙏𝚃🅃", "ŢŤȚṪṬṮṰ"⟩,
  ⟨"U", "ᵁ\u24caＵ𜳪𝐔𝑈𝑼𝒰𝓤𝔘𝕌𝖀𝖴𝗨𝘜𝙐𝚄🅄", "ÙÚÛÜŨŪŬŮŰŲƯǓǕǗǙǛȔȖṲṴṶṸṺỤỦỨỪỬỮỰ"⟩,
  ⟨"V", "Ⅴ\u24cbⱽＶ𜳫𝐕𝑉𝑽𝒱𝓥𝔙𝕍𝖁𝖵𝗩𝘝𝙑𝚅🅅", "ṼṾ\u33b6"⟩,
  ⟨"W", "ᵂ\u24ccＷ𜳬𝐖𝑊𝑾𝒲𝓦𝔚𝕎𝖂𝖶𝗪𝘞𝙒𝚆🅆", "ŴẀẂẄẆẈ\u33bc"⟩,
  ⟨"X", "Ⅹ\u24cdＸ𜳭𝐗𝑋𝑿𝒳𝓧𝔛𝕏𝖃𝖷𝗫𝘟𝙓𝚇🅇", "ẊẌ"⟩,
  ⟨"Y", "\u24ceＹ𜳮𝐘𝑌𝒀𝒴𝓨𝔜𝕐𝖄𝖸𝗬𝘠𝙔𝚈🅈", "ÝŶŸȲẎỲỴỶỸ"⟩,
  ⟨"Z", "ℤℨ\u24cfＺ𜳯𝐙𝑍𝒁𝒵𝓩𝖅𝖹𝗭𝘡𝙕𝚉🅉", "ŹŻŽẐẒẔ"⟩,
  ⟨"[", "\ufe47\uff3b", ""⟩,
  ⟨"\\", "\ufe68\uff3c", ""⟩,
  ⟨"]", "\ufe48\uff3d", ""⟩,
  ⟨"^", "\uff3e", ""⟩,
  ⟨"_", "\ufe33\ufe34\ufe4d\ufe4e\ufe4f\uff3f", ""⟩,
  ⟨"\x60", "\u1fef\uff40", ""⟩,
  ⟨"a", "ªᵃₐ\u24d0ａ𝐚𝑎𝒂𝒶𝓪𝔞𝕒𝖆𝖺𝗮𝘢𝙖𝚊", "àáâãäåāăąǎǟǡǻȁȃȧḁẚạảấầẩẫậắằẳẵặ"⟩,
  ⟨"b", "ᵇ\u24d1ｂ𝐛𝑏𝒃𝒷𝓫𝔟𝕓𝖇𝖻𝗯𝘣𝙗𝚋", "ḃḅḇ"⟩,
  ⟨"c", "ᶜⅽ\u24d2ｃ𝐜𝑐𝒄𝒸𝓬𝔠𝕔𝖈𝖼𝗰𝘤𝙘𝚌", "çćĉċčḉ"⟩,
  ⟨"d", "ᵈⅆⅾ\u24d3ｄ𝐝𝑑𝒅𝒹𝓭𝔡𝕕𝖉𝖽𝗱𝘥𝙙𝚍", "ďḋḍḏḑḓ"⟩,
  ⟨"e", "ᵉₑℯⅇ\u24d4ｅ𝐞𝑒𝒆𝓮𝔢𝕖𝖊𝖾𝗲𝘦𝙚𝚎", "èéêëēĕėęěȅȇȩḕḗḙḛḝẹẻẽếềểễệ"⟩,
  ⟨"f", "ᶠ\u24d5ｆ𝐟𝑓𝒇𝒻𝓯𝔣𝕗𝖋𝖿𝗳𝘧𝙛𝚏", "ḟ"⟩,
  ⟨"g", "ᵍℊ\u24d6ｇ𝐠𝑔𝒈𝓰𝔤𝕘𝖌𝗀𝗴𝘨𝙜𝚐", "ĝğġģǧǵḡ\u338d"⟩,
  ⟨"h", "ʰₕℎ\u24d7ｈ𝐡𝒉𝒽𝓱𝔥𝕙𝖍𝗁𝗵𝘩𝙝𝚑", "ĥȟḣḥḧḩḫẖ"⟩,
  ⟨"i", "ᵢⁱℹⅈⅰ\u24d8ｉ𝐢𝑖𝒊𝒾𝓲𝔦𝕚𝖎𝗂𝗶𝘪𝙞𝚒", "ìíîïĩīĭįǐȉȋḭḯỉị"⟩,
  ⟨"j", "ʲⅉ\u24d9ⱼｊ𝐣𝑗𝒋𝒿𝓳𝔧𝕛𝖏𝗃𝗷𝘫𝙟𝚓", "ĵǰ"⟩,
  ⟨"k", "ᵏₖ\u24daｋ𝐤𝑘𝒌𝓀𝓴𝔨𝕜𝖐𝗄𝗸𝘬𝙠𝚔", "ķǩḱḳḵ\u33c0"⟩,
  ⟨"l", "ˡₗℓⅼ\u24dbｌ𝐥𝑙𝒍𝓁𝓵𝔩𝕝𝖑𝗅𝗹𝘭𝙡𝚕", "ĺļľŀḷḹḻḽ\u3395"⟩,
  ⟨"m", "ᵐₘⅿ\u24dcｍ𝐦𝑚𝒎𝓂𝓶𝔪𝕞𝖒𝗆𝗺𝘮𝙢𝚖", "ḿṁṃ\u339b"⟩,
  ⟨"n", "ⁿₙ\u24ddｎ𝐧𝑛𝒏𝓃𝓷𝔫𝕟𝖓𝗇𝗻𝘯𝙣𝚗", "ñńņňŉǹṅṇṉṋ"⟩,
  ⟨"o", "ºᵒₒℴ\u24deｏ𝐨𝑜𝒐𝓸𝔬𝕠𝖔𝗈𝗼𝘰𝙤𝚘", "òóôõöōŏőơǒǫǭȍȏȫȭȯȱṍṏṑṓọỏốồổỗộớờởỡợ"⟩,
  ⟨"p", "ᵖₚ\u24dfｐ𝐩𝑝𝒑𝓅𝓹𝔭𝕡𝖕𝗉𝗽𝘱𝙥𝚙", "ṕṗ"⟩,
  ⟨"q", "\u24e0ｑ𐞥𝐪𝑞𝒒𝓆𝓺𝔮𝕢𝖖𝗊𝗾𝘲𝙦𝚚", ""⟩,
  ⟨"r", "ʳᵣ\u24e1ｒ𝐫𝑟𝒓𝓇𝓻𝔯𝕣𝖗𝗋𝗿𝘳𝙧𝚛", "ŕŗřȑȓṙṛṝṟ"⟩,
  ⟨"s", "ſˢₛ\u24e2ｓ𝐬𝑠𝒔𝓈𝓼𝔰𝕤𝖘𝗌𝘀𝘴𝙨𝚜", "śŝşšșṡṣṥṧṩẛ\u33b2"⟩,
  ⟨"t", "ᵗₜ\u24e3ｔ𝐭𝑡𝒕𝓉𝓽𝔱𝕥𝖙𝗍𝘁𝘵𝙩𝚝", "ţťțṫṭṯṱẗ"⟩,
  ⟨"u", "ᵘᵤ\u24e4ｕ𝐮𝑢𝒖𝓊𝓾𝔲𝕦𝖚𝗎𝘂𝘶𝙪𝚞", "ùúûüũūŭůűųưǔǖǘǚǜȕȗṳṵṷṹṻụủứừửữự"⟩,
  ⟨"v", "ᵛᵥⅴ\u24e5ｖ𝐯𝑣𝒗𝓋𝓿𝔳𝕧𝖛𝗏𝘃𝘷𝙫𝚟", "ṽṿ"⟩,
  ⟨"w", "ʷ\u24e6ｗ𝐰𝑤𝒘𝓌𝔀𝔴𝕨𝖜𝗐𝘄𝘸𝙬𝚠", "ŵẁẃẅẇẉẘ"⟩,
  ⟨"x", "ˣₓⅹ\u24e7ｘ𝐱𝑥𝒙𝓍𝔁𝔵𝕩𝖝𝗑𝘅𝘹𝙭𝚡", "ẋẍ"⟩,
  ⟨"y", "ʸ\u24e8ｙ𝐲𝑦𝒚𝓎𝔂𝔶𝕪𝖞𝗒𝘆𝘺𝙮𝚢", "ýÿŷȳẏẙỳỵỷỹ"⟩,
  ⟨"z", "ᶻ\u24e9ｚ𝐳𝑧𝒛𝓏𝔃𝔷𝕫𝖟𝗓𝘇𝘻𝙯𝚣", "źżžẑẓẕ"⟩,
  ⟨"\x7b", "\ufe37\ufe5b\uff5b", ""⟩,
  ⟨"|", "\uff5c", ""⟩,
  ⟨"\x7d", "\ufe38\ufe5c\uff5d", ""⟩,
  ⟨"~", "\uff5e", ""⟩,
  ⟨"!!", "\u203c", ""⟩,
  ⟨"!?", "\u2049", ""⟩,
  ⟨"()",
    "",
    "\u3200\u3201\u3202\u3203\u3204\u3205\u3206\u3207\u3208\u3209\u320a\u320b\u320c\u320d\u320e\u320f\u3210\u3211\u3212\u3213\u3214\u3215\u3216\u3217\u3218\u3219\u321a\u321b\u321c\u321d\u321e㈠㈡㈢㈣㈤㈥㈦㈧㈨㈩\u322a\u322b\u322c\u322d\u322e\u322f\u3230\u3231\u3232\u3233\u3234\u3235\u3236\u3237\u3238\u3239\u323a\u323b\u323c\u323d\u323e\u323f\u3240\u3241\u3242\u3243"⟩,
  ⟨"..", "\u2025\ufe30", ""⟩,
  ⟨"0,", "🄁", ""⟩,
  ⟨"0.", "🄀", ""⟩,
  ⟨"03", "", "↉"⟩,
  ⟨"1,", "🄂", ""⟩,
  ⟨"1.", "⒈", ""⟩,
  ⟨"10", "⑩", "\u32c9\u3362\u33e9"⟩,
  ⟨"11", "⑪", "\u32ca\u3363\u33ea"⟩,
  ⟨"12", "⑫", "½\u32cb\u3364\u33eb"⟩,
  ⟨"13", "⑬", "⅓\u3365\u33ec"⟩,
  ⟨"14", "⑭", "¼\u3366\u33ed"⟩,
  ⟨"15", "⑮", "⅕\u3367\u33ee"⟩,
  ⟨"16", "⑯", "⅙\u3368\u33ef"⟩,
  ⟨"17", "⑰", "⅐\u3369\u33f0"⟩,
  ⟨"18", "⑱", "⅛\u336a\u33f1"⟩,
  ⟨"19", "⑲", "⅑\u336b\u33f2"⟩,
  ⟨"2,", "🄃", ""⟩,
  ⟨"2.", "⒉", ""⟩,
  ⟨"20", "⑳", "\u336c\u33f3"⟩,
  ⟨"21", "㉑", "\u336d\u33f4"⟩,
  ⟨"22", "㉒", "\u336e\u33f5"⟩,
  ⟨"23", "㉓", "⅔\u336f\u33f6"⟩,
  ⟨"24", "㉔", "\u3370\u33f7"⟩,
  ⟨"25", "㉕", "⅖\u33f8"⟩,
  ⟨"26", "㉖", "\u33f9"⟩,
  ⟨"27", "㉗", "\u33fa"⟩,
  ⟨"28", "㉘", "\u33fb"⟩,
  ⟨"29", "㉙", "\u33fc"⟩,
  ⟨"3,", "🄄", ""⟩,
  ⟨"3.", "⒊", ""⟩,
  ⟨"30", "㉚", "\u33fd"⟩,
  ⟨"31", "㉛", "\u33fe"⟩,
  ⟨"32", "㉜", ""⟩,
  ⟨"33", "㉝", ""⟩,
  ⟨"34", "㉞", "¾"⟩,
  ⟨"35", "㉟", "⅗"⟩,
  ⟨"36", "㊱", ""⟩,
  ⟨"37", "㊲", ""⟩,
  ⟨"38", "㊳", "⅜"⟩,
  ⟨"39", "㊴", ""⟩,
  ⟨"4,", "🄅", ""⟩,
  ⟨"4.", "⒋", ""⟩,
  ⟨"40", "㊵", ""⟩,
  ⟨"41", "㊶", ""⟩,
  ⟨"42", "㊷", ""⟩,
  ⟨"43", "㊸", ""⟩,
  ⟨"44", "㊹", ""⟩,
  ⟨"45", "㊺", "⅘"⟩,
  ⟨"46", "㊻", ""⟩,
  ⟨"47", "㊼", ""⟩,
  ⟨"48", "㊽", ""⟩,
  ⟨"49", "㊾", ""⟩,
  ⟨"5,", "🄆", ""⟩,
  ⟨"5.", "⒌", ""⟩,
  ⟨"50", "㊿", ""⟩,
  ⟨"56", "", "⅚"⟩,
  ⟨"58", "", "⅝"⟩,
  ⟨"6,", "🄇", ""⟩,
  ⟨"6.", "⒍", ""⟩,
  ⟨"7,", "🄈", ""⟩,
  ⟨"7.", "⒎", ""⟩,
  ⟨"78", "", "⅞"⟩,
  ⟨"8,", "🄉", ""⟩,
  ⟨"8.", "⒏", ""⟩,
  ⟨"9,", "🄊", ""⟩,
  ⟨"9.", "⒐", ""⟩,
  ⟨"==", "\u2a75", ""⟩,
  ⟨"?!", "\u2048", ""⟩,
  ⟨"??", "\u2047", ""⟩,
  ⟨"AU", "\u3373", ""⟩,
  ⟨"Am", "", "\u33df"⟩,
  ⟨"Bq", "\u33c3", ""⟩,
  ⟨"CD", "🄭", ""⟩,
  ⟨"DJ", "🆐", ""⟩,
  ⟨"DZ", "Ǳ", "Ǆ"⟩,
  ⟨"Dz", "ǲ", "ǅ"⟩,
  ⟨"GB", "\u3387", ""⟩,
  ⟨"Gy", "\u33c9", ""⟩,
  ⟨"HP", "\u33cb", ""⟩,
  ⟨"HV", "🅊", ""⟩,
  ⟨"Hg", "\u32cc", ""⟩,
  ⟨"Hz", "\u3390", ""⟩,
  ⟨"II", "Ⅱ", ""⟩,
  ⟨"IJ", "Ĳ", ""⟩,
  ⟨"IU", "\u337a", ""⟩,
  ⟨"IV", "Ⅳ", ""⟩,
  ⟨"IX", "Ⅸ", ""⟩,
  ⟨"KB", "\u3385", ""⟩,
  ⟨"KK", "\u33cd", ""⟩,
  ⟨"KM", "\u33ce", ""⟩,
  ⟨"LJ", "Ǉ", ""⟩,
  ⟨"Lj", "ǈ", ""⟩,
  ⟨"MB", "\u3386", ""⟩,
  ⟨"MC", "🅪", ""⟩,
  ⟨"MD", "🅫", ""⟩,
  ⟨"MR", "🅬", ""⟩,
  ⟨"MV", "\u33b9🅋", ""⟩,
  ⟨"MW", "\u33bf", ""⟩,
  ⟨"NJ", "Ǌ", ""⟩,
  ⟨"Nj", "ǋ", ""⟩,
  ⟨"No", "\u2116", ""⟩,
  ⟨"PH", "\u33d7", ""⟩,
  ⟨"PR", "\u33da", ""⟩,
  ⟨"Pa", "\u33a9", ""⟩,
  ⟨"Rs", "\u20a8", ""⟩,
  ⟨"SD", "🅌", ""⟩,
  ⟨"SM", "\u2120", ""⟩,
  ⟨"SS", "🅍", ""⟩,
  ⟨"Sv", "\u33dc", ""⟩,
  ⟨"TM", "\u2122", ""⟩,
  ⟨"VI", "Ⅵ", ""⟩,
  ⟨"Vm", "", "\u33de"⟩,
  ⟨"WC", "🅏", ""⟩,
  ⟨"WZ", "🄮", ""⟩,
  ⟨"Wb", "\u33dd", ""⟩,
  ⟨"XI", "Ⅺ", ""⟩,
  ⟨"cc", "\u33c4", ""⟩,
  ⟨"cd", "\u33c5", ""⟩,
  ⟨"cm", "\u339d", ""⟩,
  ⟨"dB", "\u33c8", ""⟩,
  ⟨"da", "\u3372", ""⟩,
  ⟨"dl", "\u3397", ""⟩,
  ⟨"dm", "\u3377", ""⟩,
  ⟨"dz", "ǳ", "ǆ"⟩,
  ⟨"eV", "\u32ce", ""⟩,
  ⟨"ff", "ﬀ", ""⟩,
  ⟨"fi", "ﬁ", ""⟩,
  ⟨"fl", "ﬂ", ""⟩,
  ⟨"fm", "\u3399", ""⟩,
  ⟨"ha", "\u33ca", ""⟩,
  ⟨"ii", "ⅱ", ""⟩,
  ⟨"ij", "ĳ", ""⟩,
  ⟨"in", "\u33cc", ""⟩,
  ⟨"iv", "ⅳ", ""⟩,
  ⟨"ix", "ⅸ", ""⟩,
  ⟨"kA", "\u3384", ""⟩,
  ⟨"kV", "\u33b8", ""⟩,
  ⟨"kW", "\u33be", ""⟩,
  ⟨"kg", "\u338f", ""⟩,
  ⟨"kl", "\u3398", ""⟩,
  ⟨"km", "\u339e", ""⟩,
  ⟨"kt", "\u33cf", ""⟩,
  ⟨"lj", "ǉ", ""⟩,
  ⟨"lm", "\u33d0", ""⟩,
  ⟨"ln", "\u33d1", ""⟩,
  ⟨"lx", "\u33d3", ""⟩,
  ⟨"m2", "\u33a1", ""⟩,
  ⟨"m3", "\u33a5", ""⟩,
  ⟨"mA", "\u3383", ""⟩,
  ⟨"mV", "\u33b7", ""⟩,
  ⟨"mW", "\u33bd", ""⟩,
  ⟨"mb", "\u33d4", ""⟩,
  ⟨"mg", "\u338e", ""⟩,
  ⟨"ml", "\u3396", ""⟩,
  ⟨"mm", "\u339c", ""⟩,
  ⟨"ms", "\u33b3", "\u33a7"⟩,
  ⟨"nA", "\u3381", ""⟩,
  ⟨"nF", "\u338b", ""⟩,
  ⟨"nV", "\u33b5", ""⟩,
  ⟨"nW", "\u33bb", ""⟩,
  ⟨"nj", "ǌ", ""⟩,
  ⟨"nm", "\u339a", ""⟩,
  ⟨"ns", "\u33b1", ""⟩,
  ⟨"oV", "\u3375", ""⟩,
  ⟨"pA", "\u3380", ""⟩,
  ⟨"pF", "\u338a", ""⟩,
  ⟨"pV", "\u33b4", ""⟩,
  ⟨"pW", "\u33ba", ""⟩,
  ⟨"pc", "\u3376", ""⟩,
  ⟨"ps", "\u33b0", ""⟩,
  ⟨"sr", "\u33db", ""⟩,
  ⟨"st", "ﬅﬆ", ""⟩,
  ⟨"vi", "ⅵ", ""⟩,
  ⟨"xi", "ⅺ", ""⟩,
  ⟨"   ", "", "\ufdfa"⟩,
  ⟨"(1)", "⑴", ""⟩,
  ⟨"(2)", "⑵", ""⟩,
  ⟨"(3)", "⑶", ""⟩,
  ⟨"(4)", "⑷", ""⟩,
  ⟨"(5)", "⑸", ""⟩,
  ⟨"(6)", "⑹", ""⟩,
  ⟨"(7)", "⑺", ""⟩,
  ⟨"(8)", "⑻", ""⟩,
  ⟨"(9)", "⑼", ""⟩,
  ⟨"(A)", "🄐", ""⟩,
  ⟨"(B)", "🄑", ""⟩,
  ⟨"(C)", "🄒", ""⟩,
  ⟨"(D)", "🄓", ""⟩,
  ⟨"(E)", "🄔", ""⟩,
  ⟨"(F)", "🄕", ""⟩,
  ⟨"(G)", "🄖", ""⟩,
  ⟨"(H)", "🄗", ""⟩,
  ⟨"(I)", "🄘", ""⟩,
  ⟨"(J)", "🄙", ""⟩,
  ⟨"(K)", "🄚", ""⟩,
  ⟨"(L)", "🄛", ""⟩,
  ⟨"(M)", "🄜", ""⟩,
  ⟨"(N)", "🄝", ""⟩,
  ⟨"(O)", "🄞", ""⟩,
  ⟨"(P)", "🄟", ""⟩,
  ⟨"(Q)", "🄠", ""⟩,
  ⟨"(R)", "🄡", ""⟩,
  ⟨"(S)", "🄢", ""⟩,
  ⟨"(T)", "🄣", ""⟩,
  ⟨"(U)", "🄤", ""⟩,
  ⟨"(V)", "🄥", ""⟩,
  ⟨"(W)", "🄦", ""⟩,
  ⟨"(X)", "🄧", ""⟩,
  ⟨"(Y)", "🄨", ""⟩,
  ⟨"(Z)", "🄩", ""⟩,
  ⟨"(a)", "\u249c", ""⟩,
  ⟨"(b)", "\u249d", ""⟩,
  ⟨"(c)", "\u249e", ""⟩,
  ⟨"(d)", "\u249f", ""⟩,
  ⟨"(e)", "\u24a0", ""⟩,
  ⟨"(f)", "\u24a1", ""⟩,
  ⟨"(g)", "\u24a2", ""⟩,
  ⟨"(h)", "\u24a3", ""⟩,
  ⟨"(i)", "\u24a4", ""⟩,
  ⟨"(j)", "\u24a5", ""⟩,
  ⟨"(k)", "\u24a6", ""⟩,
  ⟨"(l)", "\u24a7", ""⟩,
  ⟨"(m)", "\u24a8", ""⟩,
  ⟨"(n)", "\u24a9", ""⟩,
  ⟨"(o)", "\u24aa", ""⟩,
  ⟨"(p)", "\u24ab", ""⟩,
  ⟨"(q)", "\u24ac", ""⟩,
  ⟨"(r)", "\u24ad", ""⟩,
  ⟨"(s)", "\u24ae", ""⟩,
  ⟨"(t)", "\u24af", ""⟩,
  ⟨"(u)", "\u24b0", ""⟩,
  ⟨"(v)", "\u24b1", ""⟩,
  ⟨"(w)", "\u24b2", ""⟩,
  ⟨"(x)", "\u24b3", ""⟩,
  ⟨"(y)", "\u24b4", ""⟩,
  ⟨"(z)", "\u24b5", ""⟩,
  ⟨"...", "\u2026\ufe19", ""⟩,
  ⟨"10.", "⒑", ""⟩,
  ⟨"11.", "⒒", ""⟩,
  ⟨"110", "", "⅒"⟩,
  ⟨"12.", "⒓", ""⟩,
  ⟨"13.", "⒔", ""⟩,
  ⟨"14.", "⒕", ""⟩,
  ⟨"15.", "⒖", ""⟩,
  ⟨"16.", "⒗", ""⟩,
  ⟨"17.", "⒘", ""⟩,
  ⟨"18.", "⒙", ""⟩,
  ⟨"19.", "⒚", ""⟩,
  ⟨"20.", "⒛", ""⟩,
  ⟨"::=", "\u2a74", ""⟩,
  ⟨"===", "\u2a76", ""⟩,
  ⟨"Ckg", "", "\u33c6"⟩,
  ⟨"Co.", "\u33c7", ""⟩,
  ⟨"FAX", "\u213b", ""⟩,
  ⟨"GHz", "\u3393", ""⟩,
  ⟨"GPa", "\u33ac", ""⟩,
  ⟨"III", "Ⅲ", ""⟩,
  ⟨"LTD", "\u32cf", ""⟩,
  ⟨"MHz", "\u3392", ""⟩,
  ⟨"MPa", "\u33ab", ""⟩,
  ⟨"PPM", "\u33d9", ""⟩,
  ⟨"PPV", "🅎", ""⟩,
  ⟨"PTE", "\u3250", ""⟩,
  ⟨"TEL", "\u2121", ""⟩,
  ⟨"THz", "\u3394", ""⟩,
  ⟨"VII", "Ⅶ", ""⟩,
  ⟨"XII", "Ⅻ", ""⟩,
  ⟨"a/c", "\u2100", ""⟩,
  ⟨"a/s", "\u2101", ""⟩,
  ⟨"bar", "\u3374", ""⟩,
  ⟨"c/o", "\u2105", ""⟩,
  ⟨"c/u", "\u2106", ""⟩,
  ⟨"cal", "\u3388", ""⟩,
  ⟨"cm2", "\u33a0", ""⟩,
  ⟨"cm3", "\u33a4", ""⟩,
  ⟨"dm2", "\u3378", ""⟩,
  ⟨"dm3", "\u3379", ""⟩,
  ⟨"erg", "\u32cd", ""⟩,
  ⟨"ffi", "ﬃ", ""⟩,
  ⟨"ffl", "ﬄ", ""⟩,
  ⟨"gal", "\u33ff", ""⟩,
  ⟨"hPa", "\u3371", ""⟩,
  ⟨"iii", "ⅲ", ""⟩,
  ⟨"kHz", "\u3391", ""⟩,
  ⟨"kPa", "\u33aa", ""⟩,
  ⟨"km2", "\u33a2", ""⟩,
  ⟨"km3", "\u33a6", ""⟩,
  ⟨"log", "\u33d2", ""⟩,
  ⟨"mil", "\u33d5", ""⟩,
  ⟨"mm2", "\u339f", ""⟩,
  ⟨"mm3", "\u33a3", ""⟩,
  ⟨"mol", "\u33d6", ""⟩,
  ⟨"ms2", "", "\u33a8"⟩,
  ⟨"rad", "\u33ad", ""⟩,
  ⟨"vii", "ⅶ", ""⟩,
  ⟨"xii", "ⅻ", ""⟩,
  ⟨"(10)", "⑽", ""⟩,
  ⟨"(11)", "⑾", ""⟩,
  ⟨"(12)", "⑿", ""⟩,
  ⟨"(13)", "⒀", ""⟩,
  ⟨"(14)", "⒁", ""⟩,
  ⟨"(15)", "⒂", ""⟩,
  ⟨"(16)", "⒃", ""⟩,
  ⟨"(17)", "⒄", ""⟩,
  ⟨"(18)", "⒅", ""⟩,
  ⟨"(19)", "⒆", ""⟩,
  ⟨"(20)", "⒇", ""⟩,
  ⟨"VIII", "Ⅷ", ""⟩,
  ⟨"a.m.", "\u33c2", ""⟩,
  ⟨"kcal", "\u3389", ""⟩,
  ⟨"p.m.", "\u33d8", ""⟩,
  ⟨"rads", "", "\u33ae"⟩,
  ⟨"viii", "ⅷ", ""⟩,
  ⟨"rads2", "", "\u33af"⟩]

/-- The row of a character outside ASCII, if there is ASCII in it. -/
def asciiForm? (c : Char) : Option AsciiForm :=
  asciiForms.find? fun row => row.whole.contains c || row.mixed.contains c

/-- The ASCII text in a character: ASCII is itself, and most characters have none. -/
def asciiForm (c : Char) : List Char :=
  if c.toNat < 0x80 then [c]
  else match asciiForm? c with
    | some row => row.text.toList
    | none => []

/-- Whether a character is ASCII text and nothing else. -/
def isWhollyAscii (c : Char) : Bool :=
  c.toNat < 0x80 || (asciiForm? c).any (·.whole.contains c)

end Crosslink.Text
