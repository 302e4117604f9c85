/-!
# Tables of composed characters

The data behind `Text.compose`: for each mark, the characters that it can follow, each with the
one character that the two together are. Marks are listed in increasing order of code point.
-/

namespace Switchboard.Text

/-- A mark, and pairs of a character without the mark and the same with it, separated by spaces. -/
structure MarkRow where
  mark : Nat
  pairs : String
  deriving DecidableEq, Repr

/-- The characters that a character and a mark make. -/
def markRows : List MarkRow := [
  ⟨0x0300, "AÀ EÈ IÌ OÒ UÙ aà eè iì oò uù ÜǛ üǜ NǸ nǹ ЕЀ ИЍ еѐ иѝ ĒḔ ēḕ ŌṐ ōṑ WẀ wẁ ÂẦ âầ ĂẰ ăằ"⟩,
  ⟨0x0300, "ÊỀ êề ÔỒ ôồ ƠỜ ơờ ƯỪ ưừ YỲ yỳ ἀἂ ἁἃ ἈἊ ἉἋ ἐἒ ἑἓ ἘἚ ἙἛ ἠἢ ἡἣ ἨἪ ἩἫ ἰἲ ἱἳ ἸἺ ἹἻ ὀὂ ὁὃ"⟩,
  ⟨0x0300, "ὈὊ ὉὋ ὐὒ ὑὓ ὙὛ ὠὢ ὡὣ ὨὪ ὩὫ αὰ εὲ ηὴ ιὶ οὸ υὺ ωὼ ΑᾺ ΕῈ ΗῊ ᾿῍ ϊῒ ΙῚ ῾῝ ϋῢ ΥῪ ¨῭ ΟῸ ΩῺ"⟩,
  ⟨0x0301, "AÁ EÉ IÍ OÓ UÚ YÝ aá eé ií oó uú yý CĆ cć LĹ lĺ NŃ nń RŔ rŕ SŚ sś ZŹ zź ÜǗ üǘ GǴ gǵ"⟩,
  ⟨0x0301, "ÅǺ åǻ ÆǼ æǽ ØǾ øǿ ¨΅ ΑΆ ΕΈ ΗΉ ΙΊ ΟΌ ΥΎ ΩΏ ϊΐ αά εέ ηή ιί ϋΰ οό υύ ωώ ϒϓ ГЃ КЌ гѓ кќ"⟩,
  ⟨0x0301, "ÇḈ çḉ ĒḖ ēḗ ÏḮ ïḯ KḰ kḱ MḾ mḿ ÕṌ õṍ ŌṒ ōṓ PṔ pṕ ŨṸ ũṹ WẂ wẃ ÂẤ âấ ĂẮ ăắ ÊẾ êế ÔỐ ôố"⟩,
  ⟨0x0301, "ƠỚ ơớ ƯỨ ưứ ἀἄ ἁἅ ἈἌ ἉἍ ἐἔ ἑἕ ἘἜ ἙἝ ἠἤ ἡἥ ἨἬ ἩἭ ἰἴ ἱἵ ἸἼ ἹἽ ὀὄ ὁὅ ὈὌ ὉὍ ὐὔ ὑὕ ὙὝ ὠὤ"⟩,
  ⟨0x0301, "ὡὥ ὨὬ ὩὭ ᾿῎ ῾῞"⟩,
  ⟨0x0302, "AÂ EÊ IÎ OÔ UÛ aâ eê iî oô uû CĈ cĉ GĜ gĝ HĤ hĥ JĴ jĵ SŜ sŝ WŴ wŵ YŶ yŷ ZẐ zẑ ẠẬ ạậ"⟩,
  ⟨0x0302, "ẸỆ ẹệ ỌỘ ọộ"⟩,
  ⟨0x0303, "AÃ NÑ OÕ aã nñ oõ IĨ iĩ UŨ uũ VṼ vṽ ÂẪ âẫ ĂẴ ăẵ EẼ eẽ ÊỄ êễ ÔỖ ôỗ ƠỠ ơỡ ƯỮ ưữ YỸ yỹ"⟩,
  ⟨0x0304, "AĀ aā EĒ eē IĪ iī OŌ oō UŪ uū ÜǕ üǖ ÄǞ äǟ ȦǠ ȧǡ ÆǢ æǣ ǪǬ ǫǭ ÖȪ öȫ ÕȬ õȭ ȮȰ ȯȱ YȲ yȳ"⟩,
  ⟨0x0304, "ИӢ иӣ УӮ уӯ GḠ gḡ ḶḸ ḷḹ ṚṜ ṛṝ αᾱ ΑᾹ ιῑ ΙῙ υῡ ΥῩ"⟩,
  ⟨0x0306, "AĂ aă EĔ eĕ GĞ gğ IĬ iĭ OŎ oŏ UŬ uŭ УЎ ИЙ ий уў ЖӁ жӂ АӐ аӑ ЕӖ еӗ ȨḜ ȩḝ ẠẶ ạặ αᾰ ΑᾸ"⟩,
  ⟨0x0306, "ιῐ ΙῘ υῠ ΥῨ"⟩,
  ⟨0x0307, "CĊ cċ EĖ eė GĠ gġ Iİ ZŻ zż AȦ aȧ OȮ oȯ BḂ bḃ DḊ dḋ FḞ fḟ HḢ hḣ MṀ mṁ NṄ nṅ PṖ pṗ RṘ"⟩,
  ⟨0x0307, "rṙ SṠ sṡ ŚṤ śṥ ŠṦ šṧ ṢṨ ṣṩ TṪ tṫ WẆ wẇ XẊ xẋ YẎ yẏ ſẛ 𐗒𐗉 𐗚𐗤"⟩,
  ⟨0x0308, "AÄ EË IÏ OÖ UÜ aä eë iï oö uü yÿ YŸ ΙΪ ΥΫ ιϊ υϋ ϒϔ ЕЁ ІЇ её ії АӒ аӓ ӘӚ әӛ ЖӜ жӝ ЗӞ"⟩,
  ⟨0x0308, "зӟ ИӤ иӥ ОӦ оӧ ӨӪ өӫ ЭӬ эӭ УӰ уӱ ЧӴ чӵ ЫӸ ыӹ HḦ hḧ ÕṎ õṏ ŪṺ ūṻ WẄ wẅ XẌ xẍ tẗ"⟩,
  ⟨0x0309, "AẢ aả ÂẨ âẩ ĂẲ ăẳ EẺ eẻ ÊỂ êể IỈ iỉ OỎ oỏ ÔỔ ôổ ƠỞ ơở UỦ uủ ƯỬ ưử YỶ yỷ"⟩,
  ⟨0x030A, "AÅ aå UŮ uů wẘ yẙ"⟩, ⟨0x030B, "OŐ oő UŰ uű УӲ уӳ"⟩,
  ⟨0x030C, "CČ cč DĎ dď EĚ eě LĽ lľ NŇ nň RŘ rř SŠ sš TŤ tť ZŽ zž AǍ aǎ IǏ iǐ OǑ oǒ UǓ uǔ ÜǙ üǚ"⟩,
  ⟨0x030C, "GǦ gǧ KǨ kǩ ƷǮ ʒǯ jǰ HȞ hȟ"⟩, ⟨0x030F, "AȀ aȁ EȄ eȅ IȈ iȉ OȌ oȍ RȐ rȑ UȔ uȕ ѴѶ ѵѷ"⟩,
  ⟨0x0311, "AȂ aȃ EȆ eȇ IȊ iȋ OȎ oȏ RȒ rȓ UȖ uȗ"⟩,
  ⟨0x0313, "αἀ ΑἈ εἐ ΕἘ ηἠ ΗἨ ιἰ ΙἸ οὀ ΟὈ υὐ ωὠ ΩὨ ρῤ"⟩,
  ⟨0x0314, "αἁ ΑἉ εἑ ΕἙ ηἡ ΗἩ ιἱ ΙἹ οὁ ΟὉ υὑ ΥὙ ωὡ ΩὩ ρῥ ΡῬ"⟩, ⟨0x031B, "OƠ oơ UƯ uư"⟩,
  ⟨0x0323, "BḄ bḅ DḌ dḍ HḤ hḥ KḲ kḳ LḶ lḷ MṂ mṃ NṆ nṇ RṚ rṛ SṢ sṣ TṬ tṭ VṾ vṿ WẈ wẉ ZẒ zẓ AẠ aạ"⟩,
  ⟨0x0323, "EẸ eẹ IỊ iị OỌ oọ ƠỢ ơợ UỤ uụ ƯỰ ưự YỴ yỵ"⟩, ⟨0x0324, "UṲ uṳ"⟩, ⟨0x0325, "AḀ aḁ"⟩,
  ⟨0x0326, "SȘ sș TȚ tț"⟩,
  ⟨0x0327, "CÇ cç GĢ gģ KĶ kķ LĻ lļ NŅ nņ RŖ rŗ SŞ sş TŢ tţ EȨ eȩ DḐ dḑ HḨ hḩ"⟩,
  ⟨0x0328, "AĄ aą EĘ eę IĮ iį UŲ uų OǪ oǫ"⟩, ⟨0x032D, "DḒ dḓ EḘ eḙ LḼ lḽ NṊ nṋ TṰ tṱ UṶ uṷ"⟩,
  ⟨0x032E, "HḪ hḫ"⟩, ⟨0x0330, "EḚ eḛ IḬ iḭ UṴ uṵ"⟩,
  ⟨0x0331, "BḆ bḇ DḎ dḏ KḴ kḵ LḺ lḻ NṈ nṉ RṞ rṟ TṮ tṯ ZẔ zẕ hẖ"⟩,
  ⟨0x0338, "←↚ →↛ ↔↮ ⇐⇍ ⇔⇎ ⇒⇏ ∃∄ ∈∉ ∋∌ ∣∤ ∥∦ ∼≁ ≃≄ ≅≇ ≈≉ =≠ ≡≢ ≍≭ <≮ >≯ ≤≰ ≥≱ ≲≴ ≳≵ ≶≸ ≷≹ ≺⊀ ≻⊁"⟩,
  ⟨0x0338, "⊂⊄ ⊃⊅ ⊆⊈ ⊇⊉ ⊢⊬ ⊨⊭ ⊩⊮ ⊫⊯ ≼⋠ ≽⋡ ⊑⋢ ⊒⋣ ⊲⋪ ⊳⋫ ⊴⋬ ⊵⋭"⟩,
  ⟨0x0342, "ἀἆ ἁἇ ἈἎ ἉἏ ἠἦ ἡἧ ἨἮ ἩἯ ἰἶ ἱἷ ἸἾ ἹἿ ὐὖ ὑὗ ὙὟ ὠὦ ὡὧ ὨὮ ὩὯ αᾶ ¨῁ ηῆ ᾿῏ ιῖ ϊῗ ῾῟ υῦ ϋῧ"⟩,
  ⟨0x0342, "ωῶ"⟩,
  ⟨0x0345, "ἀᾀ ἁᾁ ἂᾂ ἃᾃ ἄᾄ ἅᾅ ἆᾆ ἇᾇ Ἀᾈ Ἁᾉ Ἂᾊ Ἃᾋ Ἄᾌ Ἅᾍ Ἆᾎ Ἇᾏ ἠᾐ ἡᾑ ἢᾒ ἣᾓ ἤᾔ ἥᾕ ἦᾖ ἧᾗ Ἠᾘ Ἡᾙ Ἢᾚ Ἣᾛ"⟩,
  ⟨0x0345, "Ἤᾜ Ἥᾝ Ἦᾞ Ἧᾟ ὠᾠ ὡᾡ ὢᾢ ὣᾣ ὤᾤ ὥᾥ ὦᾦ ὧᾧ Ὠᾨ Ὡᾩ Ὢᾪ Ὣᾫ Ὤᾬ Ὥᾭ Ὦᾮ Ὧᾯ ὰᾲ αᾳ άᾴ ᾶᾷ Αᾼ ὴῂ ηῃ ήῄ"⟩,
  ⟨0x0345, "ῆῇ Ηῌ ὼῲ ωῳ ώῴ ῶῷ Ωῼ"⟩, ⟨0x0653, "اآ"⟩, ⟨0x0654, "اأ وؤ يئ ەۀ ہۂ ےۓ"⟩, ⟨0x0655, "اإ"⟩,
  ⟨0x093C, "नऩ रऱ ळऴ"⟩, ⟨0x09BE, "েো"⟩, ⟨0x09D7, "েৌ"⟩, ⟨0x0B3E, "େୋ"⟩, ⟨0x0B56, "େୈ"⟩,
  ⟨0x0B57, "େୌ"⟩, ⟨0x0BBE, "ெொ ேோ"⟩, ⟨0x0BD7, "ஒஔ ெௌ"⟩, ⟨0x0C56, "ెై"⟩, ⟨0x0CC2, "ೆೊ"⟩,
  ⟨0x0CD5, "ಿೀ ೆೇ ೊೋ"⟩, ⟨0x0CD6, "ೆೈ"⟩, ⟨0x0D3E, "െൊ േോ"⟩, ⟨0x0D57, "െൌ"⟩, ⟨0x0DCA, "ෙේ ොෝ"⟩,
  ⟨0x0DCF, "ෙො"⟩, ⟨0x0DDF, "ෙෞ"⟩, ⟨0x102E, "ဥဦ"⟩, ⟨0x1B35, "ᬅᬆ ᬇᬈ ᬉᬊ ᬋᬌ ᬍᬎ ᬑᬒ ᬺᬻ ᬼᬽ ᬾᭀ ᬿᭁ ᭂᭃ"⟩,
  ⟨0x3099, "かが きぎ くぐ けげ こご さざ しじ すず せぜ そぞ ただ ちぢ つづ てで とど はば ひび ふぶ へべ ほぼ うゔ ゝゞ カガ キギ クグ ケゲ コゴ サザ"⟩,
  ⟨0x3099, "シジ スズ セゼ ソゾ タダ チヂ ツヅ テデ トド ハバ ヒビ フブ ヘベ ホボ ウヴ ワヷ ヰヸ ヱヹ ヲヺ ヽヾ"⟩,
  ⟨0x309A, "はぱ ひぴ ふぷ へぺ ほぽ ハパ ヒピ フプ ヘペ ホポ"⟩, ⟨0x110BA, "𑂙𑂚 𑂛𑂜 𑂥𑂫"⟩, ⟨0x11127, "𑄱𑄮 𑄲𑄯"⟩,
  ⟨0x1133E, "𑍇𑍋"⟩, ⟨0x11357, "𑍇𑍌"⟩, ⟨0x113B8, "𑏅𑎸"⟩, ⟨0x113BB, "𑎄𑎅"⟩, ⟨0x113C2, "𑎋𑎎 𑏅𑏂"⟩,
  ⟨0x113C9, "𑎂𑎃 𑎐𑎑 𑏅𑏉"⟩, ⟨0x114B0, "𑒹𑒼"⟩, ⟨0x114BA, "𑒹𑒻"⟩, ⟨0x114BD, "𑒹𑒾"⟩, ⟨0x115AF, "𑖸𑖺 𑖹𑖻"⟩,
  ⟨0x11930, "𑤵𑤸"⟩, ⟨0x1611E, "𖄡𖄞"⟩, ⟨0x1611F, "𖄦 𖄩𖄤 𖄡𖄦 𖄢𖄧"⟩, ⟨0x16120, "𖄨 𖄡𖄨"⟩, ⟨0x16129, "𖄡𖄩"⟩,
  ⟨0x16D67, "𖵨𖵧 𖵣𖵩 𖵩𖵪"⟩]

end Switchboard.Text
