import Switchboard.Text.CodeRange

/-!
# Folding tables

The data behind `Domain.fold`: the characters that stand for others in a domain name, those that
count for nothing, and those that have no place there although they can be seen. Listed in
increasing order of code point.
-/

namespace Switchboard.Url.Domain

/-- Successive characters with the texts that they stand for, which are separated by spaces. -/
structure FoldRow where
  first : Nat
  last : Nat
  texts : String
  deriving DecidableEq, Repr

/-- Characters that stand for other text, as far as letter case alone does not tell for which. -/
def foldRows : List FoldRow := [
  ⟨0x00AA, 0x00AA, "a"⟩, ⟨0x00B2, 0x00B3, "2 3"⟩, ⟨0x00B5, 0x00B5, "μ"⟩,
  ⟨0x00B9, 0x00BE, "1 o » 1⁄4 1⁄2 3⁄4"⟩, ⟨0x0132, 0x0133, "ij ij"⟩, ⟨0x013F, 0x0140, "l· l·"⟩,
  ⟨0x0149, 0x0149, "ʼn"⟩, ⟨0x017F, 0x017F, "s"⟩, ⟨0x01C4, 0x01CC, "dž dž dž lj lj lj nj nj nj"⟩,
  ⟨0x01F1, 0x01F3, "dz dz dz"⟩, ⟨0x02B0, 0x02B8, "h ɦ j r ɹ ɻ ʁ w y"⟩,
  ⟨0x02E0, 0x02E4, "ɣ l s x ʕ"⟩, ⟨0x0340, 0x0345, "̀ ́ ͂ ̓ ̈́ ι"⟩, ⟨0x0374, 0x0374, "ʹ"⟩,
  ⟨0x037E, 0x037E, ";"⟩, ⟨0x0387, 0x0387, "·"⟩, ⟨0x03D0, 0x03D6, "β θ υ ύ ϋ φ π"⟩,
  ⟨0x03F0, 0x03F9, "κ ρ σ ϳ θ ε ϶ ϸ ϸ σ"⟩, ⟨0x0587, 0x0587, "եւ"⟩, ⟨0x0675, 0x0678, "اٴ وٴ ۇٴ يٴ"⟩,
  ⟨0x0958, 0x095F, "क़ ख़ ग़ ज़ ड़ ढ़ फ़ य़"⟩, ⟨0x09DC, 0x09DD, "ড় ঢ়"⟩, ⟨0x09DF, 0x09DF, "য়"⟩,
  ⟨0x0A33, 0x0A33, "ਲ਼"⟩, ⟨0x0A36, 0x0A36, "ਸ਼"⟩, ⟨0x0A59, 0x0A5B, "ਖ਼ ਗ਼ ਜ਼"⟩,
  ⟨0x0A5E, 0x0A5E, "ਫ਼"⟩, ⟨0x0B5C, 0x0B5D, "ଡ଼ ଢ଼"⟩, ⟨0x0E33, 0x0E33, "ํา"⟩,
  ⟨0x0EB3, 0x0EB3, "ໍາ"⟩, ⟨0x0EDC, 0x0EDD, "ຫນ ຫມ"⟩, ⟨0x0F0C, 0x0F0C, "་"⟩, ⟨0x0F43, 0x0F43, "གྷ"⟩,
  ⟨0x0F4D, 0x0F5C, "ཌྷ ཎ ཏ ཐ ད དྷ ན པ ཕ བ བྷ མ ཙ ཚ ཛ ཛྷ"⟩, ⟨0x0F69, 0x0F69, "ཀྵ"⟩,
  ⟨0x0F73, 0x0F79, "ཱི ུ ཱུ ྲྀ ྲཱྀ ླྀ ླཱྀ"⟩, ⟨0x0F81, 0x0F81, "ཱྀ"⟩, ⟨0x0F93, 0x0F93, "ྒྷ"⟩,
  ⟨0x0F9D, 0x0FAC, "ྜྷ ྞ ྟ ྠ ྡ ྡྷ ྣ ྤ ྥ ྦ ྦྷ ྨ ྩ ྪ ྫ ྫྷ"⟩, ⟨0x0FB9, 0x0FB9, "ྐྵ"⟩,
  ⟨0x10FC, 0x10FC, "ნ"⟩, ⟨0x13F8, 0x13FD, "Ᏸ Ᏹ Ᏺ Ᏻ Ᏼ Ᏽ"⟩, ⟨0x1C80, 0x1C88, "в д о с т т ъ ѣ ꙋ"⟩,
  ⟨0x1D2C, 0x1D52, "a æ b ᴯ d e ǝ g h i j k l m n ᴻ o ȣ p r t u w a ɐ ɑ ᴂ b d e ə ɛ ɜ g ᵎ k m ŋ o"⟩,
  ⟨0x1D53, 0x1D6A, "ɔ ᴖ ᴗ p t u ᴝ ɯ v ᴥ β γ δ φ χ i r u v β γ ρ φ χ"⟩, ⟨0x1D78, 0x1D78, "н"⟩,
  ⟨0x1D9B, 0x1DBF, "ɒ c ɕ ð ɜ f ɟ ɡ ɥ ɨ ɩ ɪ ᵻ ʝ ɭ ᶅ ʟ ɱ ɰ ɲ ɳ ɴ ɵ ɸ ʂ ʃ ƫ ʉ ʊ ᴜ ʋ ʌ z ʐ ʑ ʒ θ"⟩,
  ⟨0x1E9A, 0x1E9B, "aʾ ṡ"⟩, ⟨0x1F71, 0x1F7D, "ά ὲ έ ὴ ή ὶ ί ὸ ό ὺ ύ ὼ ώ"⟩,
  ⟨0x1F80, 0x1F99, "ἀι ἁι ἂι ἃι ἄι ἅι ἆι ἇι ἀι ἁι ἂι ἃι ἄι ἅι ἆι ἇι ἠι ἡι ἢι ἣι ἤι ἥι ἦι ἧι ἠι ἡι"⟩,
  ⟨0x1F9A, 0x1FB3, "ἢι ἣι ἤι ἥι ἦι ἧι ὠι ὡι ὢι ὣι ὤι ὥι ὦι ὧι ὠι ὡι ὢι ὣι ὤι ὥι ὦι ὧι ᾰ ᾱ ὰι αι"⟩,
  ⟨0x1FB4, 0x1FB4, "άι"⟩, ⟨0x1FB7, 0x1FBC, "ᾶι ᾰ ᾱ ὰ ά αι"⟩, ⟨0x1FBE, 0x1FBE, "ι"⟩,
  ⟨0x1FC2, 0x1FC4, "ὴι ηι ήι"⟩, ⟨0x1FC7, 0x1FCC, "ῆι ὲ έ ὴ ή ηι"⟩, ⟨0x1FD3, 0x1FD3, "ΐ"⟩,
  ⟨0x1FDB, 0x1FDB, "ί"⟩, ⟨0x1FE3, 0x1FE3, "ΰ"⟩, ⟨0x1FEB, 0x1FEB, "ύ"⟩, ⟨0x1FEF, 0x1FEF, "`"⟩,
  ⟨0x1FF2, 0x1FF4, "ὼι ωι ώι"⟩, ⟨0x1FF7, 0x1FFC, "ῶι ὸ ό ὼ ώ ωι"⟩, ⟨0x2011, 0x2011, "‐"⟩,
  ⟨0x2033, 0x203C, "′′ ′′′ ‵ ‵‵ ‵‵‵ ‸ ‹ › ※ !!"⟩, ⟨0x2047, 0x2049, "?? ?! !?"⟩,
  ⟨0x2057, 0x2057, "′′′′"⟩, ⟨0x2070, 0x2071, "0 i"⟩,
  ⟨0x2074, 0x208E, "4 5 6 7 8 9 + − = ( ) n 0 1 2 3 4 5 6 7 8 9 + − = ( )"⟩,
  ⟨0x2090, 0x209C, "a e o x ə h k l m n p s t"⟩, ⟨0x20A8, 0x20A8, "rs"⟩,
  ⟨0x2100, 0x2120, "a/c a/s c °c ℄ c/o c/u ɛ ℈ °f g h h h h ħ i i l l ℔ n no ℗ ℘ p q r r r ℞ ℟ sm"⟩,
  ⟨0x2121, 0x2144, "tel tm ℣ z ℥ ω ℧ z ℩ k å b c ℮ e e f ⅎ m o א ב ג ד i ℺ fax π γ γ π ∑ ⅁ ⅂ ⅃ ⅄"⟩,
  ⟨0x2145, 0x215C, "d d e i j ⅊ ⅋ ⅌ ⅍ ⅎ ⅏ 1⁄7 1⁄9 1⁄10 1⁄3 2⁄3 1⁄5 2⁄5 3⁄5 4⁄5 1⁄6 5⁄6 1⁄8 3⁄8"⟩,
  ⟨0x215D, 0x2176, "5⁄8 7⁄8 1⁄ i ii iii iv v vi vii viii ix x xi xii l c d m i ii iii iv v vi vii"⟩,
  ⟨0x2177, 0x217F, "viii ix x xi xii l c d m"⟩, ⟨0x2189, 0x2189, "0⁄3"⟩,
  ⟨0x222C, 0x2230, "∫∫ ∫∫∫ ∮ ∮∮ ∮∮∮"⟩, ⟨0x2329, 0x232A, "〈 〉"⟩,
  ⟨0x2460, 0x2479, "1 2 3 4 5 6 7 8 9 10 11 12 13 14 15 16 17 18 19 20 (1) (2) (3) (4) (5) (6)"⟩,
  ⟨0x247A, 0x2487, "(7) (8) (9) (10) (11) (12) (13) (14) (15) (16) (17) (18) (19) (20)"⟩,
  ⟨0x249C, 0x24AE, "(a) (b) (c) (d) (e) (f) (g) (h) (i) (j) (k) (l) (m) (n) (o) (p) (q) (r) (s)"⟩,
  ⟨0x24AF, 0x24CE, "(t) (u) (v) (w) (x) (y) (z) a b c d e f g h i j k l m n o p q r s t u v w x y"⟩,
  ⟨0x24CF, 0x24EA, "z a b c d e f g h i j k l m n o p q r s t u v w x y z 0"⟩,
  ⟨0x2A0C, 0x2A0C, "∫∫∫∫"⟩, ⟨0x2A74, 0x2A76, "::= == ==="⟩, ⟨0x2ADC, 0x2ADC, "⫝̸"⟩,
  ⟨0x2C7C, 0x2C7D, "j v"⟩, ⟨0x2D6F, 0x2D6F, "ⵡ"⟩, ⟨0x2E9F, 0x2E9F, "母"⟩, ⟨0x2EF3, 0x2EF3, "龟"⟩,
  ⟨0x2F00, 0x2F26, "一 丨 丶 丿 乙 亅 二 亠 人 儿 入 八 冂 冖 冫 几 凵 刀 力 勹 匕 匚 匸 十 卜 卩 厂 厶 又 口 囗 土 士 夂 夊 夕 大 女 子"⟩,
  ⟨0x2F27, 0x2F4D, "宀 寸 小 尢 尸 屮 山 巛 工 己 巾 干 幺 广 廴 廾 弋 弓 彐 彡 彳 心 戈 戶 手 支 攴 文 斗 斤 方 无 日 曰 月 木 欠 止 歹"⟩,
  ⟨0x2F4E, 0x2F74, "殳 毋 比 毛 氏 气 水 火 爪 父 爻 爿 片 牙 牛 犬 玄 玉 瓜 瓦 甘 生 用 田 疋 疒 癶 白 皮 皿 目 矛 矢 石 示 禸 禾 穴 立"⟩,
  ⟨0x2F75, 0x2F9B, "竹 米 糸 缶 网 羊 羽 老 而 耒 耳 聿 肉 臣 自 至 臼 舌 舛 舟 艮 色 艸 虍 虫 血 行 衣 襾 見 角 言 谷 豆 豕 豸 貝 赤 走"⟩,
  ⟨0x2F9C, 0x2FC2, "足 身 車 辛 辰 辵 邑 酉 釆 里 金 長 門 阜 隶 隹 雨 靑 非 面 革 韋 韭 音 頁 風 飛 食 首 香 馬 骨 高 髟 鬥 鬯 鬲 鬼 魚"⟩,
  ⟨0x2FC3, 0x2FD5, "鳥 鹵 鹿 麥 麻 黃 黍 黑 黹 黽 鼎 鼓 鼠 鼻 齊 齒 龍 龜 龠"⟩, ⟨0x3002, 0x3002, "."⟩,
  ⟨0x3036, 0x303A, "〒 〷 十 卄 卅"⟩, ⟨0x309F, 0x309F, "より"⟩, ⟨0x30FF, 0x30FF, "コト"⟩,
  ⟨0x3131, 0x3157, "ᄀ ᄁ ᆪ ᄂ ᆬ ᆭ ᄃ ᄄ ᄅ ᆰ ᆱ ᆲ ᆳ ᆴ ᆵ ᄚ ᄆ ᄇ ᄈ ᄡ ᄉ ᄊ ᄋ ᄌ ᄍ ᄎ ᄏ ᄐ ᄑ ᄒ ᅡ ᅢ ᅣ ᅤ ᅥ ᅦ ᅧ ᅨ ᅩ"⟩,
  ⟨0x3158, 0x3163, "ᅪ ᅫ ᅬ ᅭ ᅮ ᅯ ᅰ ᅱ ᅲ ᅳ ᅴ ᅵ"⟩,
  ⟨0x3165, 0x318B, "ᄔ ᄕ ᇇ ᇈ ᇌ ᇎ ᇓ ᇗ ᇙ ᄜ ᇝ ᇟ ᄝ ᄞ ᄠ ᄢ ᄣ ᄧ ᄩ ᄫ ᄬ ᄭ ᄮ ᄯ ᄲ ᄶ ᅀ ᅇ ᅌ ᇱ ᇲ ᅗ ᅘ ᅙ ᆄ ᆅ ᆈ ᆑ ᆒ"⟩,
  ⟨0x318C, 0x318E, "ᆔ ᆞ ᆡ"⟩, ⟨0x3192, 0x319F, "一 二 三 四 上 中 下 甲 乙 丙 丁 天 地 人"⟩,
  ⟨0x3200, 0x3212, "(ᄀ) (ᄂ) (ᄃ) (ᄅ) (ᄆ) (ᄇ) (ᄉ) (ᄋ) (ᄌ) (ᄎ) (ᄏ) (ᄐ) (ᄑ) (ᄒ) (가) (나) (다) (라) (마)"⟩,
  ⟨0x3213, 0x321E, "(바) (사) (아) (자) (차) (카) (타) (파) (하) (주) (오전) (오후)"⟩,
  ⟨0x3220, 0x3232, "(一) (二) (三) (四) (五) (六) (七) (八) (九) (十) (月) (火) (水) (木) (金) (土) (日) (株) (有)"⟩,
  ⟨0x3233, 0x3247, "(社) (名) (特) (財) (祝) (労) (代) (呼) (学) (監) (企) (資) (協) (祭) (休) (自) (至) 問 幼 文 箏"⟩,
  ⟨0x3250, 0x326D, "pte 21 22 23 24 25 26 27 28 29 30 31 32 33 34 35 ᄀ ᄂ ᄃ ᄅ ᄆ ᄇ ᄉ ᄋ ᄌ ᄎ ᄏ ᄐ ᄑ ᄒ"⟩,
  ⟨0x326E, 0x3293, "가 나 다 라 마 바 사 아 자 차 카 타 파 하 참고 주의 우 ㉿ 一 二 三 四 五 六 七 八 九 十 月 火 水 木 金 土 日 株 有 社"⟩,
  ⟨0x3294, 0x32B6, "名 特 財 祝 労 秘 男 女 適 優 印 注 項 休 写 正 上 中 下 左 右 医 宗 学 監 企 資 協 夜 36 37 38 39 40 41"⟩,
  ⟨0x32B7, 0x32CE, "42 43 44 45 46 47 48 49 50 1月 2月 3月 4月 5月 6月 7月 8月 9月 10月 11月 12月 hg erg ev"⟩,
  ⟨0x32CF, 0x32F4, "ltd ア イ ウ エ オ カ キ ク ケ コ サ シ ス セ ソ タ チ ツ テ ト ナ ニ ヌ ネ ノ ハ ヒ フ ヘ ホ マ ミ ム メ モ ヤ ユ"⟩,
  ⟨0x32F5, 0x330B, "ヨ ラ リ ル レ ロ ワ ヰ ヱ ヲ 令和 アパート アルファ アンペア アール イニング インチ ウォン エスクード エーカー オンス オーム カイリ"⟩,
  ⟨0x330C, 0x331B, "カラット カロリー ガロン ガンマ ギガ ギニー キュリー ギルダー キロ キログラム キロメートル キロワット グラム グラムトン クルゼイロ クローネ"⟩,
  ⟨0x331C, 0x332D, "ケース コルナ コーポ サイクル サンチーム シリング センチ セント ダース デシ ドル トン ナノ ノット ハイツ パーセント パーツ バーレル"⟩,
  ⟨0x332E, 0x333F, "ピアストル ピクル ピコ ビル ファラッド フィート ブッシェル フラン ヘクタール ペソ ペニヒ ヘルツ ペンス ページ ベータ ポイント ボルト ホン"⟩,
  ⟨0x3340, 0x3350, "ポンド ホール ホーン マイクロ マイル マッハ マルク マンション ミクロン ミリ ミリバール メガ メガトン メートル ヤード ヤール ユアン"⟩,
  ⟨0x3351, 0x3365, "リットル リラ ルピー ルーブル レム レントゲン ワット 0点 1点 2点 3点 4点 5点 6点 7点 8点 9点 10点 11点 12点 13点"⟩,
  ⟨0x3366, 0x337A, "14点 15点 16点 17点 18点 19点 20点 21点 22点 23点 24点 hpa da au bar ov pc dm dm2 dm3 iu"⟩,
  ⟨0x337B, 0x3391, "平成 昭和 大正 明治 株式会社 pa na μa ma ka kb mb gb cal kcal pf nf μf μg mg kg hz khz"⟩,
  ⟨0x3392, 0x33A7, "mhz ghz thz μl ml dl kl fm nm μm mm cm km mm2 cm2 m2 km2 mm3 cm3 m3 km3 m∕s"⟩,
  ⟨0x33A8, 0x33BC, "m∕s2 pa kpa mpa gpa rad rad∕s rad∕s2 ps ns μs ms pv nv μv mv kv mv pw nw μw"⟩,
  ⟨0x33BD, 0x33C1, "mw kw mw kω mω"⟩, ⟨0x33C3, 0x33C6, "bq cc cd c∕kg"⟩,
  ⟨0x33C8, 0x33D7, "db gy ha hp in kk km kt lm ln log lx mb mil mol ph"⟩,
  ⟨0x33D9, 0x33EE, "ppm pr sr sv wb v∕m a∕m 1日 2日 3日 4日 5日 6日 7日 8日 9日 10日 11日 12日 13日 14日 15日"⟩,
  ⟨0x33EF, 0x33FF, "16日 17日 18日 19日 20日 21日 22日 23日 24日 25日 26日 27日 28日 29日 30日 31日 gal"⟩,
  ⟨0xA69C, 0xA69D, "ъ ь"⟩, ⟨0xA770, 0xA770, "ꝯ"⟩, ⟨0xA7F1, 0xA7F9, "s c f q ꟶ ꟶ ꟷ ħ œ"⟩,
  ⟨0xAB5C, 0xAB5F, "ꜧ ꬷ ɫ ꭒ"⟩, ⟨0xAB69, 0xAB69, "ʍ"⟩,
  ⟨0xAB70, 0xAB96, "Ꭰ Ꭱ Ꭲ Ꭳ Ꭴ Ꭵ Ꭶ Ꭷ Ꭸ Ꭹ Ꭺ Ꭻ Ꭼ Ꭽ Ꭾ Ꭿ Ꮀ Ꮁ Ꮂ Ꮃ Ꮄ Ꮅ Ꮆ Ꮇ Ꮈ Ꮉ Ꮊ Ꮋ Ꮌ Ꮍ Ꮎ Ꮏ Ꮐ Ꮑ Ꮒ Ꮓ Ꮔ Ꮕ Ꮖ"⟩,
  ⟨0xAB97, 0xABBD, "Ꮗ Ꮘ Ꮙ Ꮚ Ꮛ Ꮜ Ꮝ Ꮞ Ꮟ Ꮠ Ꮡ Ꮢ Ꮣ Ꮤ Ꮥ Ꮦ Ꮧ Ꮨ Ꮩ Ꮪ Ꮫ Ꮬ Ꮭ Ꮮ Ꮯ Ꮰ Ꮱ Ꮲ Ꮳ Ꮴ Ꮵ Ꮶ Ꮷ Ꮸ Ꮹ Ꮺ Ꮻ Ꮼ Ꮽ"⟩,
  ⟨0xABBE, 0xABBF, "Ꮾ Ꮿ"⟩,
  ⟨0xF900, 0xF926, "豈 更 車 賈 滑 串 句 龜 龜 契 金 喇 奈 懶 癩 羅 蘿 螺 裸 邏 樂 洛 烙 珞 落 酪 駱 亂 卵 欄 爛 蘭 鸞 嵐 濫 藍 襤 拉 臘"⟩,
  ⟨0xF927, 0xF94D, "蠟 廊 朗 浪 狼 郎 來 冷 勞 擄 櫓 爐 盧 老 蘆 虜 路 露 魯 鷺 碌 祿 綠 菉 錄 鹿 論 壟 弄 籠 聾 牢 磊 賂 雷 壘 屢 樓 淚"⟩,
  ⟨0xF94E, 0xF974, "漏 累 縷 陋 勒 肋 凜 凌 稜 綾 菱 陵 讀 拏 樂 諾 丹 寧 怒 率 異 北 磻 便 復 不 泌 數 索 參 塞 省 葉 說 殺 辰 沈 拾 若"⟩,
  ⟨0xF975, 0xF99B, "掠 略 亮 兩 凉 梁 糧 良 諒 量 勵 呂 女 廬 旅 濾 礪 閭 驪 麗 黎 力 曆 歷 轢 年 憐 戀 撚 漣 煉 璉 秊 練 聯 輦 蓮 連 鍊"⟩,
  ⟨0xF99C, 0xF9C2, "列 劣 咽 烈 裂 說 廉 念 捻 殮 簾 獵 令 囹 寧 嶺 怜 玲 瑩 羚 聆 鈴 零 靈 領 例 禮 醴 隸 惡 了 僚 寮 尿 料 樂 燎 療 蓼"⟩,
  ⟨0xF9C3, 0xF9E9, "遼 龍 暈 阮 劉 杻 柳 流 溜 琉 留 硫 紐 類 六 戮 陸 倫 崙 淪 輪 律 慄 栗 率 隆 利 吏 履 易 李 梨 泥 理 痢 罹 裏 裡 里"⟩,
  ⟨0xF9EA, 0xFA10, "離 匿 溺 吝 燐 璘 藺 隣 鱗 麟 林 淋 臨 立 笠 粒 狀 炙 識 什 茶 刺 切 度 拓 糖 宅 洞 暴 輻 行 降 見 廓 兀 嗀 﨎 﨏 塚"⟩,
  ⟨0xFA11, 0xFA37, "﨑 晴 﨓 﨔 凞 猪 益 礼 神 祥 福 靖 精 羽 﨟 蘒 﨡 諸 﨣 﨤 逸 都 﨧 﨨 﨩 飯 飼 館 鶴 郞 隷 侮 僧 免 勉 勤 卑 喝 嘆"⟩,
  ⟨0xFA38, 0xFA5E, "器 塀 墨 層 屮 悔 慨 憎 懲 敏 既 暑 梅 海 渚 漢 煮 爫 琢 碑 社 祉 祈 祐 祖 祝 禍 禎 穀 突 節 練 縉 繁 署 者 臭 艹 艹"⟩,
  ⟨0xFA5F, 0xFA6D, "著 褐 視 謁 謹 賓 贈 辶 逸 難 響 頻 恵 𤋮 舘"⟩,
  ⟨0xFA70, 0xFA96, "並 况 全 侀 充 冀 勇 勺 喝 啕 喙 嗢 塚 墳 奄 奔 婢 嬨 廒 廙 彩 徭 惘 慎 愈 憎 慠 懲 戴 揄 搜 摒 敖 晴 朗 望 杖 歹 殺"⟩,
  ⟨0xFA97, 0xFABD, "流 滛 滋 漢 瀞 煮 瞧 爵 犯 猪 瑱 甆 画 瘝 瘟 益 盛 直 睊 着 磌 窱 節 类 絛 練 缾 者 荒 華 蝹 襁 覆 視 調 諸 請 謁 諾"⟩,
  ⟨0xFABE, 0xFAD9, "諭 謹 變 贈 輸 遲 醙 鉶 陼 難 靖 韛 響 頋 頻 鬒 龜 𢡊 𢡄 𣏕 㮝 䀘 䀹 𥉉 𥳐 𧻓 齃 龎"⟩,
  ⟨0xFB00, 0xFB06, "ff fi fl ffi ffl st st"⟩, ⟨0xFB13, 0xFB17, "մն մե մի վն մխ"⟩,
  ⟨0xFB1D, 0xFB36, "יִ ﬞ ײַ ע א ד ה כ ל ם ר ת + שׁ שׂ שּׁ שּׂ אַ אָ אּ בּ גּ דּ הּ וּ זּ"⟩,
  ⟨0xFB38, 0xFB3C, "טּ יּ ךּ כּ לּ"⟩, ⟨0xFB3E, 0xFB3E, "מּ"⟩, ⟨0xFB40, 0xFB41, "נּ סּ"⟩,
  ⟨0xFB43, 0xFB44, "ףּ פּ"⟩,
  ⟨0xFB46, 0xFB67, "צּ קּ רּ שּ תּ וֹ בֿ כֿ פֿ אל ٱ ٱ ٻ ٻ ٻ ٻ پ پ پ پ ڀ ڀ ڀ ڀ ٺ ٺ ٺ ٺ ٿ ٿ ٿ ٿ ٹ ٹ"⟩,
  ⟨0xFB68, 0xFB8E, "ٹ ٹ ڤ ڤ ڤ ڤ ڦ ڦ ڦ ڦ ڄ ڄ ڄ ڄ ڃ ڃ ڃ ڃ چ چ چ چ ڇ ڇ ڇ ڇ ڍ ڍ ڌ ڌ ڎ ڎ ڈ ڈ ژ ژ ڑ ڑ ک"⟩,
  ⟨0xFB8F, 0xFBB1, "ک ک ک گ گ گ گ ڳ ڳ ڳ ڳ ڱ ڱ ڱ ڱ ں ں ڻ ڻ ڻ ڻ ۀ ۀ ہ ہ ہ ہ ھ ھ ھ ھ ے ے ۓ ۓ"⟩,
  ⟨0xFBD3, 0xFBF3, "ڭ ڭ ڭ ڭ ۇ ۇ ۆ ۆ ۈ ۈ ۇٴ ۋ ۋ ۅ ۅ ۉ ۉ ې ې ې ې ى ى ئا ئا ئە ئە ئو ئو ئۇ ئۇ ئۆ ئۆ"⟩,
  ⟨0xFBF4, 0xFC0E, "ئۈ ئۈ ئې ئې ئې ئى ئى ئى ی ی ی ی ئج ئح ئم ئى ئي بج بح بخ بم بى بي تج تح تخ تم"⟩,
  ⟨0xFC0F, 0xFC28, "تى تي ثج ثم ثى ثي جح جم حج حم خج خح خم سج سح سخ سم صح صم ضج ضح ضخ ضم طح طم ظم"⟩,
  ⟨0xFC29, 0xFC42, "عج عم غج غم فج فح فخ فم فى في قح قم قى قي كا كج كح كخ كل كم كى كي لج لح لخ لم"⟩,
  ⟨0xFC43, 0xFC5C, "لى لي مج مح مخ مم مى مي نج نح نخ نم نى ني هج هم هى هي يج يح يخ يم يى يي ذٰ رٰ"⟩,
  ⟨0xFC5D, 0xFC5D, "ىٰ"⟩,
  ⟨0xFC64, 0xFC7D, "ئر ئز ئم ئن ئى ئي بر بز بم بن بى بي تر تز تم تن تى تي ثر ثز ثم ثن ثى ثي فى في"⟩,
  ⟨0xFC7E, 0xFC97, "قى قي كا كل كم كى كي لم لى لي ما مم نر نز نم نن نى ني ىٰ ير يز يم ين يى يي ئج"⟩,
  ⟨0xFC98, 0xFCB1, "ئح ئخ ئم ئه بج بح بخ بم به تج تح تخ تم ته ثم جح جم حج حم خج خم سج سح سخ سم صح"⟩,
  ⟨0xFCB2, 0xFCCB, "صخ صم ضج ضح ضخ ضم طح ظم عج عم غج غم فج فح فخ فم قح قم كج كح كخ كل كم لج لح لخ"⟩,
  ⟨0xFCCC, 0xFCE5, "لم له مج مح مخ مم نج نح نخ نم نه هج هم هٰ يج يح يخ يم يه ئم ئه بم به تم ته ثم"⟩,
  ⟨0xFCE6, 0xFCFE, "ثه سم سه شم شه كل كم لم نم نه يم يه ـَّ ـُّ ـِّ طى طي عى عي غى غي سى سي شى شي"⟩,
  ⟨0xFCFF, 0xFD18, "حى حي جى جي خى خي صى صي ضى ضي شج شح شخ شم شر سر صر ضر طى طي عى عي غى غي سى سي"⟩,
  ⟨0xFD19, 0xFD32, "شى شي حى حي جى جي خى خي صى صي ضى ضي شج شح شخ شم شر سر صر ضر شج شح شخ شم سه شه"⟩,
  ⟨0xFD33, 0xFD3D, "طم سج سح سخ شج شح شخ طم ظم اً اً"⟩,
  ⟨0xFD50, 0xFD62, "تجم تحج تحج تحم تخم تمج تمح تمخ جمح جمح حمي حمى سحج سجح سجى سمح سمح سمج سمم"⟩,
  ⟨0xFD63, 0xFD75, "سمم صحح صحح صمم شحم شحم شجي شمخ شمخ شمم شمم ضحى ضخم ضخم طمح طمح طمم طمي عجم"⟩,
  ⟨0xFD76, 0xFD88, "عمم عمم عمى غمم غمي غمى فخم فخم قمح قمم لحم لحي لحى لجج لجج لخم لخم لمح لمح"⟩,
  ⟨0xFD89, 0xFD9C, "محج محم محي مجح مجم مخج مخم ﶐ ﶑ مجخ همج همم نحم نحى نجم نجم نجى نمي نمى يمم"⟩,
  ⟨0xFD9D, 0xFDAF, "يمم بخي تجي تجى تخي تخى تمي تمى جمي جحى جمى سخى صحي شحي ضحي لجي لمي يحي يجي"⟩,
  ⟨0xFDB0, 0xFDC2, "يمي ممي قمي نحي قمح لحم عمي كمي نجح مخي لجم كمم لجم نجح جحي حجي مجي فمي بحي"⟩,
  ⟨0xFDC3, 0xFDC7, "كمم عجم صمم سخي نجي"⟩,
  ⟨0xFDF0, 0xFDF9, "صلے قلے الله اكبر محمد صلعم رسول عليه وسلم صلى"⟩, ⟨0xFDFC, 0xFDFC, "ریال"⟩,
  ⟨0xFE10, 0xFE11, ", 、"⟩, ⟨0xFE13, 0xFE18, ": ; ! ? 〖 〗"⟩,
  ⟨0xFE31, 0xFE48, "— – _ _ ( ) \x7b \x7d 〔 〕 【 】 《 》 〈 〉 「 」 『 』 ﹅ ﹆ [ ]"⟩,
  ⟨0xFE4D, 0xFE51, "_ _ _ , 、"⟩, ⟨0xFE54, 0xFE66, "; : ? ! — ( ) \x7b \x7d 〔 〕 # & * + - < > ="⟩,
  ⟨0xFE68, 0xFE6B, "\\ $ % @"⟩, ⟨0xFE71, 0xFE71, "ـً"⟩, ⟨0xFE77, 0xFE77, "ـَ"⟩,
  ⟨0xFE79, 0xFE79, "ـُ"⟩, ⟨0xFE7B, 0xFE7B, "ـِ"⟩, ⟨0xFE7D, 0xFE7D, "ـّ"⟩,
  ⟨0xFE7F, 0xFEA4, "ـْ ء آ آ أ أ ؤ ؤ إ إ ئ ئ ئ ئ ا ا ب ب ب ب ة ة ت ت ت ت ث ث ث ث ج ج ج ج ح ح ح ح"⟩,
  ⟨0xFEA5, 0xFECB, "خ خ خ خ د د ذ ذ ر ر ز ز س س س س ش ش ش ش ص ص ص ص ض ض ض ض ط ط ط ط ظ ظ ظ ظ ع ع ع"⟩,
  ⟨0xFECC, 0xFEF2, "ع غ غ غ غ ف ف ف ف ق ق ق ق ك ك ك ك ل ل ل ل م م م م ن ن ن ن ه ه ه ه و و ى ى ي ي"⟩,
  ⟨0xFEF3, 0xFEFC, "ي ي لآ لآ لأ لأ لإ لإ لا لا"⟩,
  ⟨0xFF01, 0xFF26, "! \" # $ % & ' ( ) * + , - . / 0 1 2 3 4 5 6 7 8 9 : ; < = > ? @ a b c d e f"⟩,
  ⟨0xFF27, 0xFF4C, "g h i j k l m n o p q r s t u v w x y z [ \\ ] ^ _ ` a b c d e f g h i j k l"⟩,
  ⟨0xFF4D, 0xFF70, "m n o p q r s t u v w x y z \x7b | \x7d ~ ⦅ ⦆ . 「 」 、 ・ ヲ ァ ィ ゥ ェ ォ ャ ュ ョ ッ ー"⟩,
  ⟨0xFF71, 0xFF97, "ア イ ウ エ オ カ キ ク ケ コ サ シ ス セ ソ タ チ ツ テ ト ナ ニ ヌ ネ ノ ハ ヒ フ ヘ ホ マ ミ ム メ モ ヤ ユ ヨ ラ"⟩,
  ⟨0xFF98, 0xFF9F, "リ ル レ ロ ワ ン ゙ ゚"⟩,
  ⟨0xFFA1, 0xFFBE, "ᄀ ᄁ ᆪ ᄂ ᆬ ᆭ ᄃ ᄄ ᄅ ᆰ ᆱ ᆲ ᆳ ᆴ ᆵ ᄚ ᄆ ᄇ ᄈ ᄡ ᄉ ᄊ ᄋ ᄌ ᄍ ᄎ ᄏ ᄐ ᄑ ᄒ"⟩,
  ⟨0xFFC2, 0xFFC7, "ᅡ ᅢ ᅣ ᅤ ᅥ ᅦ"⟩, ⟨0xFFCA, 0xFFCF, "ᅧ ᅨ ᅩ ᅪ ᅫ ᅬ"⟩,
  ⟨0xFFD2, 0xFFD7, "ᅭ ᅮ ᅯ ᅰ ᅱ ᅲ"⟩, ⟨0xFFDA, 0xFFDC, "ᅳ ᅴ ᅵ"⟩, ⟨0xFFE0, 0xFFE2, "¢ £ ¬"⟩,
  ⟨0xFFE4, 0xFFE6, "¦ ¥ ₩"⟩, ⟨0xFFE8, 0xFFEE, "│ ← ↑ → ↓ ■ ○"⟩, ⟨0x10781, 0x10785, "ː ˑ æ ʙ ɓ"⟩,
  ⟨0x10787, 0x107AC, "ʣ ꭦ ʥ ʤ ɖ ɗ ᶑ ɘ ɞ ʩ ɤ ɢ ɠ ʛ ħ ʜ ɧ ʄ ʪ ʫ ɬ 𝼄 ꞎ ɮ 𝼅 ʎ 𝼆 ø ɶ ɷ q ɺ 𝼈 ɽ ɾ ʀ ʨ ʦ"⟩,
  ⟨0x107AD, 0x107B0, "ꭧ ʧ ʈ ⱱ"⟩, ⟨0x107B2, 0x107BA, "ʏ ʡ ʢ ʘ ǀ ǁ ǂ 𝼊 𝼞"⟩,
  ⟨0x1CCD6, 0x1CCF9, "a b c d e f g h i j k l m n o p q r s t u v w x y z 0 1 2 3 4 5 6 7 8 9"⟩,
  ⟨0x1D15E, 0x1D164, "𝅗𝅥 𝅘𝅥 𝅘𝅥𝅮 𝅘𝅥𝅯 𝅘𝅥𝅰 𝅘𝅥𝅱 𝅘𝅥𝅲"⟩, ⟨0x1D1BB, 0x1D1C0, "𝆹𝅥 𝆺𝅥 𝆹𝅥𝅮 𝆺𝅥𝅮 𝆹𝅥𝅯 𝆺𝅥𝅯"⟩,
  ⟨0x1D400, 0x1D425, "a b c d e f g h i j k l m n o p q r s t u v w x y z a b c d e f g h i j k l"⟩,
  ⟨0x1D426, 0x1D44B, "m n o p q r s t u v w x y z a b c d e f g h i j k l m n o p q r s t u v w x"⟩,
  ⟨0x1D44C, 0x1D454, "y z a b c d e f g"⟩,
  ⟨0x1D456, 0x1D47B, "i j k l m n o p q r s t u v w x y z a b c d e f g h i j k l m n o p q r s t"⟩,
  ⟨0x1D47C, 0x1D49C, "u v w x y z a b c d e f g h i j k l m n o p q r s t u v w x y z a"⟩,
  ⟨0x1D49E, 0x1D49F, "c d"⟩, ⟨0x1D4A2, 0x1D4A2, "g"⟩, ⟨0x1D4A5, 0x1D4A6, "j k"⟩,
  ⟨0x1D4A9, 0x1D4AC, "n o p q"⟩, ⟨0x1D4AE, 0x1D4B9, "s t u v w x y z a b c d"⟩,
  ⟨0x1D4BB, 0x1D4BB, "f"⟩, ⟨0x1D4BD, 0x1D4C3, "h i j k l m n"⟩,
  ⟨0x1D4C5, 0x1D4EA, "p q r s t u v w x y z a b c d e f g h i j k l m n o p q r s t u v w x y z a"⟩,
  ⟨0x1D4EB, 0x1D505, "b c d e f g h i j k l m n o p q r s t u v w x y z a b"⟩,
  ⟨0x1D507, 0x1D50A, "d e f g"⟩, ⟨0x1D50D, 0x1D514, "j k l m n o p q"⟩,
  ⟨0x1D516, 0x1D51C, "s t u v w x y"⟩,
  ⟨0x1D51E, 0x1D539, "a b c d e f g h i j k l m n o p q r s t u v w x y z a b"⟩,
  ⟨0x1D53B, 0x1D53E, "d e f g"⟩, ⟨0x1D540, 0x1D544, "i j k l m"⟩, ⟨0x1D546, 0x1D546, "o"⟩,
  ⟨0x1D54A, 0x1D550, "s t u v w x y"⟩,
  ⟨0x1D552, 0x1D577, "a b c d e f g h i j k l m n o p q r s t u v w x y z a b c d e f g h i j k l"⟩,
  ⟨0x1D578, 0x1D59D, "m n o p q r s t u v w x y z a b c d e f g h i j k l m n o p q r s t u v w x"⟩,
  ⟨0x1D59E, 0x1D5C3, "y z a b c d e f g h i j k l m n o p q r s t u v w x y z a b c d e f g h i j"⟩,
  ⟨0x1D5C4, 0x1D5E9, "k l m n o p q r s t u v w x y z a b c d e f g h i j k l m n o p q r s t u v"⟩,
  ⟨0x1D5EA, 0x1D60F, "w x y z a b c d e f g h i j k l m n o p q r s t u v w x y z a b c d e f g h"⟩,
  ⟨0x1D610, 0x1D635, "i j k l m n o p q r s t u v w x y z a b c d e f g h i j k l m n o p q r s t"⟩,
  ⟨0x1D636, 0x1D65B, "u v w x y z a b c d e f g h i j k l m n o p q r s t u v w x y z a b c d e f"⟩,
  ⟨0x1D65C, 0x1D681, "g h i j k l m n o p q r s t u v w x y z a b c d e f g h i j k l m n o p q r"⟩,
  ⟨0x1D682, 0x1D6A5, "s t u v w x y z a b c d e f g h i j k l m n o p q r s t u v w x y z ı ȷ"⟩,
  ⟨0x1D6A8, 0x1D6CD, "α β γ δ ε ζ η θ ι κ λ μ ν ξ ο π ρ θ σ τ υ φ χ ψ ω ∇ α β γ δ ε ζ η θ ι κ λ μ"⟩,
  ⟨0x1D6CE, 0x1D6F3, "ν ξ ο π ρ σ σ τ υ φ χ ψ ω ∂ ε θ κ φ ρ π α β γ δ ε ζ η θ ι κ λ μ ν ξ ο π ρ θ"⟩,
  ⟨0x1D6F4, 0x1D719, "σ τ υ φ χ ψ ω ∇ α β γ δ ε ζ η θ ι κ λ μ ν ξ ο π ρ σ σ τ υ φ χ ψ ω ∂ ε θ κ φ"⟩,
  ⟨0x1D71A, 0x1D73F, "ρ π α β γ δ ε ζ η θ ι κ λ μ ν ξ ο π ρ θ σ τ υ φ χ ψ ω ∇ α β γ δ ε ζ η θ ι κ"⟩,
  ⟨0x1D740, 0x1D765, "λ μ ν ξ ο π ρ σ σ τ υ φ χ ψ ω ∂ ε θ κ φ ρ π α β γ δ ε ζ η θ ι κ λ μ ν ξ ο π"⟩,
  ⟨0x1D766, 0x1D78B, "ρ θ σ τ υ φ χ ψ ω ∇ α β γ δ ε ζ η θ ι κ λ μ ν ξ ο π ρ σ σ τ υ φ χ ψ ω ∂ ε θ"⟩,
  ⟨0x1D78C, 0x1D7B1, "κ φ ρ π α β γ δ ε ζ η θ ι κ λ μ ν ξ ο π ρ θ σ τ υ φ χ ψ ω ∇ α β γ δ ε ζ η θ"⟩,
  ⟨0x1D7B2, 0x1D7CB, "ι κ λ μ ν ξ ο π ρ σ σ τ υ φ χ ψ ω ∂ ε θ κ φ ρ π ϝ ϝ"⟩,
  ⟨0x1D7CE, 0x1D7F3, "0 1 2 3 4 5 6 7 8 9 0 1 2 3 4 5 6 7 8 9 0 1 2 3 4 5 6 7 8 9 0 1 2 3 4 5 6 7"⟩,
  ⟨0x1D7F4, 0x1D7FF, "8 9 0 1 2 3 4 5 6 7 8 9"⟩,
  ⟨0x1E030, 0x1E055, "а б в г д е ж з и к л м о п р с т у ф х ц ч ш ы э ю ꚉ ә і ј ө ү ӏ а б в г д"⟩,
  ⟨0x1E056, 0x1E06D, "е ж з и к л о п с у ф х ц ч ш ъ ы ґ і ѕ џ ҫ ꙑ ұ"⟩,
  ⟨0x1EE00, 0x1EE03, "ا ب ج د"⟩,
  ⟨0x1EE05, 0x1EE1F, "و ز ح ط ي ك ل م ن س ع ف ص ق ر ش ت ث خ ذ ض ظ غ ٮ ں ڡ ٯ"⟩,
  ⟨0x1EE21, 0x1EE22, "ب ج"⟩, ⟨0x1EE24, 0x1EE24, "ه"⟩, ⟨0x1EE27, 0x1EE27, "ح"⟩,
  ⟨0x1EE29, 0x1EE32, "ي ك ل م ن س ع ف ص ق"⟩, ⟨0x1EE34, 0x1EE37, "ش ت ث خ"⟩,
  ⟨0x1EE39, 0x1EE39, "ض"⟩, ⟨0x1EE3B, 0x1EE3B, "غ"⟩, ⟨0x1EE42, 0x1EE42, "ج"⟩,
  ⟨0x1EE47, 0x1EE47, "ح"⟩, ⟨0x1EE49, 0x1EE49, "ي"⟩, ⟨0x1EE4B, 0x1EE4B, "ل"⟩,
  ⟨0x1EE4D, 0x1EE4F, "ن س ع"⟩, ⟨0x1EE51, 0x1EE52, "ص ق"⟩, ⟨0x1EE54, 0x1EE54, "ش"⟩,
  ⟨0x1EE57, 0x1EE57, "خ"⟩, ⟨0x1EE59, 0x1EE59, "ض"⟩, ⟨0x1EE5B, 0x1EE5B, "غ"⟩,
  ⟨0x1EE5D, 0x1EE5D, "ں"⟩, ⟨0x1EE5F, 0x1EE5F, "ٯ"⟩, ⟨0x1EE61, 0x1EE62, "ب ج"⟩,
  ⟨0x1EE64, 0x1EE64, "ه"⟩, ⟨0x1EE67, 0x1EE6A, "ح ط ي ك"⟩, ⟨0x1EE6C, 0x1EE72, "م ن س ع ف ص ق"⟩,
  ⟨0x1EE74, 0x1EE77, "ش ت ث خ"⟩, ⟨0x1EE79, 0x1EE7C, "ض ظ غ ٮ"⟩, ⟨0x1EE7E, 0x1EE7E, "ڡ"⟩,
  ⟨0x1EE80, 0x1EE89, "ا ب ج د ه و ز ح ط ي"⟩,
  ⟨0x1EE8B, 0x1EE9B, "ل م ن س ع ف ص ق ر ش ت ث خ ذ ض ظ غ"⟩, ⟨0x1EEA1, 0x1EEA3, "ب ج د"⟩,
  ⟨0x1EEA5, 0x1EEA9, "و ز ح ط ي"⟩, ⟨0x1EEAB, 0x1EEBB, "ل م ن س ع ف ص ق ر ش ت ث خ ذ ض ظ غ"⟩,
  ⟨0x1F101, 0x1F118, "0, 1, 2, 3, 4, 5, 6, 7, 8, 9, 🄋 🄌 🄍 🄎 🄏 (a) (b) (c) (d) (e) (f) (g) (h) (i)"⟩,
  ⟨0x1F119, 0x1F12C, "(j) (k) (l) (m) (n) (o) (p) (q) (r) (s) (t) (u) (v) (w) (x) (y) (z) 〔s〕 c r"⟩,
  ⟨0x1F12D, 0x1F14E, "cd wz 🄯 a b c d e f g h i j k l m n o p q r s t u v w x y z hv mv sd ss ppv"⟩,
  ⟨0x1F14F, 0x1F14F, "wc"⟩, ⟨0x1F16A, 0x1F16C, "mc md mr"⟩, ⟨0x1F190, 0x1F190, "dj"⟩,
  ⟨0x1F200, 0x1F202, "ほか ココ サ"⟩,
  ⟨0x1F210, 0x1F235, "手 字 双 デ 二 多 解 天 交 映 無 料 前 後 再 新 初 終 生 販 声 吹 演 投 捕 一 三 遊 左 中 右 指 走 打 禁 空 合 満"⟩,
  ⟨0x1F236, 0x1F23B, "有 月 申 割 営 配"⟩, ⟨0x1F240, 0x1F248, "〔本〕 〔三〕 〔二〕 〔安〕 〔点〕 〔打〕 〔盗〕 〔勝〕 〔敗〕"⟩,
  ⟨0x1F250, 0x1F251, "得 可"⟩, ⟨0x1FBF0, 0x1FBF9, "0 1 2 3 4 5 6 7 8 9"⟩,
  ⟨0x2F800, 0x2F825, "丽 丸 乁 𠄢 你 侮 侻 倂 偺 備 僧 像 㒞 𠘺 免 兔 兤 具 𠔜 㒹 內 再 𠕋 冗 冤 仌 冬 况 𩇟 凵 刃 㓟 刻 剆 割 剷 㔕 勇"⟩,
  ⟨0x2F826, 0x2F84B, "勉 勤 勺 包 匆 北 卉 卑 博 即 卽 卿 卿 卿 𠨬 灰 及 叟 𠭣 叫 叱 吆 咞 吸 呈 周 咢 哶 唐 啓 啣 善 善 喙 喫 喳 嗂 圖"⟩,
  ⟨0x2F84C, 0x2F871, "嘆 圗 噑 噴 切 壮 城 埴 堍 型 堲 報 墬 𡓤 売 壷 夆 多 夢 奢 𡚨 𡛪 姬 娛 娧 姘 婦 㛮 㛼 嬈 嬾 嬾 𡧈 寃 寘 寧 寳 𡬘"⟩,
  ⟨0x2F872, 0x2F897, "寿 将 当 尢 㞁 屠 屮 峀 岍 𡷤 嵃 𡷦 嵮 嵫 嵼 巡 巢 㠯 巽 帨 帽 幩 㡢 𢆃 㡼 庰 庳 庶 廊 𪎒 廾 𢌱 𢌱 舁 弢 弢 㣇 𣊸"⟩,
  ⟨0x2F898, 0x2F8BD, "𦇚 形 彫 㣣 徚 忍 志 忹 悁 㤺 㤜 悔 𢛔 惇 慈 慌 慎 慌 慺 憎 憲 憤 憯 懞 懲 懶 成 戛 扝 抱 拔 捐 𢬌 挽 拼 捨 掃 揤"⟩,
  ⟨0x2F8BE, 0x2F8E3, "𢯱 搢 揅 掩 㨮 摩 摾 撝 摷 㩬 敏 敬 𣀊 旣 書 晉 㬙 暑 㬈 㫤 冒 冕 最 暜 肭 䏙 朗 望 朡 杞 杓 𣏃 㭉 柺 枅 桒 梅 𣑭"⟩,
  ⟨0x2F8E4, 0x2F909, "梎 栟 椔 㮝 楂 榣 槪 檨 𣚣 櫛 㰘 次 𣢧 歔 㱎 歲 殟 殺 殻 𣪍 𡴋 𣫺 汎 𣲼 沿 泍 汧 洖 派 海 流 浩 浸 涅 𣴞 洴 港 湮"⟩,
  ⟨0x2F90A, 0x2F92F, "㴳 滋 滇 𣻑 淹 潮 𣽞 𣾎 濆 瀹 瀞 瀛 㶖 灊 災 灷 炭 𠔥 煅 𤉣 熜 𤎫 爨 爵 牐 𤘈 犀 犕 𤜵 𤠔 獺 王 㺬 玥 㺸 㺸 瑇 瑜"⟩,
  ⟨0x2F930, 0x2F955, "瑱 璅 瓊 㼛 甤 𤰶 甾 𤲒 異 𢆟 瘐 𤾡 𤾸 𥁄 㿼 䀈 直 𥃳 𥃲 𥄙 𥄳 眞 真 真 睊 䀹 瞋 䁆 䂖 𥐝 硎 碌 磌 䃣 𥘦 祖 𥚚 𥛅"⟩,
  ⟨0x2F956, 0x2F97B, "福 秫 䄯 穀 穊 穏 𥥼 𥪧 𥪧 竮 䈂 𥮫 篆 築 䈧 𥲀 糒 䊠 糨 糣 紀 𥾆 絣 䌁 緇 縂 繅 䌴 𦈨 𦉇 䍙 𦋙 罺 𦌾 羕 翺 者 𦓚"⟩,
  ⟨0x2F97C, 0x2F9A1, "𦔣 聠 𦖨 聰 𣍟 䏕 育 脃 䐋 脾 媵 𦞧 𦞵 𣎓 𣎜 舁 舄 辞 䑫 芑 芋 芝 劳 花 芳 芽 苦 𦬼 若 茝 荣 莭 茣 莽 菧 著 荓 菊"⟩,
  ⟨0x2F9A2, 0x2F9C7, "菌 菜 𦰶 𦵫 𦳕 䔫 蓱 蓳 蔖 𧏊 蕤 𦼬 䕝 䕡 𦾱 𧃒 䕫 虐 虜 虧 虩 蚩 蚈 蜎 蛢 蝹 蜨 蝫 螆 䗗 蟡 蠁 䗹 衠 衣 𧙧 裗 裞"⟩,
  ⟨0x2F9C8, 0x2F9ED, "䘵 裺 㒻 𧢮 𧥦 䚾 䛇 誠 諭 變 豕 𧲨 貫 賁 贛 起 𧼯 𠠄 跋 趼 跰 𠣞 軔 輸 𨗒 𨗭 邔 郱 鄑 𨜮 鄛 鈸 鋗 鋘 鉼 鏹 鐕 𨯺"⟩,
  ⟨0x2F9EE, 0x2FA13, "開 䦕 閷 𨵷 䧦 雃 嶲 霣 𩅅 𩈚 䩮 䩶 韠 𩐊 䪲 𩒖 頋 頋 頩 𩖶 飢 䬳 餩 馧 駂 駾 䯎 𩬰 鬒 鱀 鳽 䳎 䳭 鵧 𪃎 䳸 𪄅 𪈎"⟩,
  ⟨0x2FA14, 0x2FA1D, "𪊑 麻 䵖 黹 黾 鼅 鼏 鼖 鼻 𪘀"⟩]

/-- Characters that count for nothing. -/
def ignoredRanges : List Text.CodeRange := [
  ⟨0x00AD, 0x00AD⟩, ⟨0x034F, 0x034F⟩, ⟨0x115F, 0x1160⟩, ⟨0x17B4, 0x17B5⟩, ⟨0x180B, 0x180F⟩,
  ⟨0x200B, 0x200B⟩, ⟨0x2060, 0x2064⟩, ⟨0x206A, 0x206F⟩, ⟨0x3164, 0x3164⟩, ⟨0xFE00, 0xFE0F⟩,
  ⟨0xFEFF, 0xFEFF⟩, ⟨0xFFA0, 0xFFA0⟩, ⟨0x1BCA0, 0x1BCA3⟩, ⟨0x1D173, 0x1D17A⟩, ⟨0xE0100, 0xE01EF⟩]

/-- Characters that can be seen and have no place in a domain name. Most of them stand for text with
a space in it. -/
def refusedRanges : List Text.CodeRange := [
  ⟨0x00A8, 0x00A8⟩, ⟨0x00AF, 0x00AF⟩, ⟨0x00B4, 0x00B4⟩, ⟨0x00B8, 0x00B8⟩, ⟨0x02D8, 0x02DD⟩,
  ⟨0x037A, 0x037A⟩, ⟨0x0384, 0x0385⟩, ⟨0x1FBD, 0x1FBD⟩, ⟨0x1FBF, 0x1FC1⟩, ⟨0x1FCD, 0x1FCF⟩,
  ⟨0x1FDD, 0x1FDF⟩, ⟨0x1FED, 0x1FEE⟩, ⟨0x1FFD, 0x1FFE⟩, ⟨0x2017, 0x2017⟩, ⟨0x2024, 0x2026⟩,
  ⟨0x203E, 0x203E⟩, ⟨0x2488, 0x249B⟩, ⟨0x2FF0, 0x2FFF⟩, ⟨0x309B, 0x309C⟩, ⟨0x31EF, 0x31EF⟩,
  ⟨0x33C2, 0x33C2⟩, ⟨0x33C7, 0x33C7⟩, ⟨0x33D8, 0x33D8⟩, ⟨0xFC5E, 0xFC63⟩, ⟨0xFDFA, 0xFDFB⟩,
  ⟨0xFE12, 0xFE12⟩, ⟨0xFE19, 0xFE19⟩, ⟨0xFE30, 0xFE30⟩, ⟨0xFE49, 0xFE4C⟩, ⟨0xFE52, 0xFE52⟩,
  ⟨0xFE70, 0xFE70⟩, ⟨0xFE72, 0xFE72⟩, ⟨0xFE74, 0xFE74⟩, ⟨0xFE76, 0xFE76⟩, ⟨0xFE78, 0xFE78⟩,
  ⟨0xFE7A, 0xFE7A⟩, ⟨0xFE7C, 0xFE7C⟩, ⟨0xFE7E, 0xFE7E⟩, ⟨0xFFE3, 0xFFE3⟩, ⟨0xFFFC, 0xFFFD⟩,
  ⟨0x1F100, 0x1F100⟩]

end Switchboard.Url.Domain
