import FacetBrowser.Text.CodeRun
import FacetBrowser.Text.CodeSet
import FacetBrowser.Text.Lowercase
import FacetBrowser.Text.Split

namespace FacetBrowser.Address.Folding

structure FormRow where
  first : Nat
  last : Nat
  forms : String

private def formRows1 : List FormRow := [
    ⟨0xAA, 0xAA, "a"⟩,
    ⟨0xB2, 0xB3, "2 3"⟩,
    ⟨0xB5, 0xB5, "μ"⟩,
    ⟨0xB9, 0xBE, "1 o » 1⁄4 1⁄2 3⁄4"⟩,
    ⟨0x132, 0x133, "ij ij"⟩,
    ⟨0x13F, 0x140, "l· l·"⟩,
    ⟨0x149, 0x149, "ʼn"⟩,
    ⟨0x17F, 0x17F, "s"⟩,
    ⟨0x1C4, 0x1CC, "dž dž dž lj lj lj nj nj nj"⟩,
    ⟨0x1F1, 0x1F3, "dz dz dz"⟩,
    ⟨0x2B0, 0x2B8, "h ɦ j r ɹ ɻ ʁ w y"⟩,
    ⟨0x2E0, 0x2E4, "ɣ l s x ʕ"⟩,
    ⟨0x340, 0x345, "\u0300 \u0301 \u0342 \u0313 \u0308\u0301 ι"⟩,
    ⟨0x374, 0x374, "ʹ"⟩,
    ⟨0x37E, 0x37E, ";"⟩,
    ⟨0x387, 0x387, "·"⟩,
    ⟨0x3D0, 0x3D6, "β θ υ ύ ϋ φ π"⟩,
    ⟨0x3F0, 0x3F5, "κ ρ σ ϳ θ ε"⟩,
    ⟨0x3F9, 0x3F9, "σ"⟩,
    ⟨0x587, 0x587, "եւ"⟩,
    ⟨0x675, 0x678, "\u0627\u0674 \u0648\u0674 \u06C7\u0674 \u064A\u0674"⟩,
    ⟨0x958, 0x95F, "क\u093C ख\u093C ग\u093C ज\u093C ड\u093C ढ\u093C फ\u093C य\u093C"⟩,
    ⟨0x9DC, 0x9DD, "ড\u09BC ঢ\u09BC"⟩,
    ⟨0x9DF, 0x9DF, "য\u09BC"⟩,
    ⟨0xA33, 0xA33, "ਲ\u0A3C"⟩,
    ⟨0xA36, 0xA36, "ਸ\u0A3C"⟩,
    ⟨0xA59, 0xA5B, "ਖ\u0A3C ਗ\u0A3C ਜ\u0A3C"⟩,
    ⟨0xA5E, 0xA5E, "ਫ\u0A3C"⟩,
    ⟨0xB5C, 0xB5D, "ଡ\u0B3C ଢ\u0B3C"⟩,
    ⟨0xE33, 0xE33, "\u0E4Dา"⟩,
    ⟨0xEB3, 0xEB3, "\u0ECDາ"⟩,
    ⟨0xEDC, 0xEDD, "ຫນ ຫມ"⟩,
    ⟨0xF0C, 0xF0C, "་"⟩,
    ⟨0xF43, 0xF43, "ག\u0FB7"⟩,
    ⟨0xF4D, 0xF4D, "ཌ\u0FB7"⟩,
    ⟨0xF52, 0xF52, "ད\u0FB7"⟩,
    ⟨0xF57, 0xF57, "བ\u0FB7"⟩,
    ⟨0xF5C, 0xF5C, "ཛ\u0FB7"⟩,
    ⟨0xF69, 0xF69, "ཀ\u0FB5"⟩,
    ⟨0xF73, 0xF77, "\u0F71\u0F72 \u0F74 \u0F71\u0F74 \u0FB2\u0F80 \u0FB2\u0F71\u0F80"⟩,
    ⟨0xF78, 0xF79, "\u0FB3\u0F80 \u0FB3\u0F71\u0F80"⟩,
    ⟨0xF81, 0xF81, "\u0F71\u0F80"⟩,
    ⟨0xF93, 0xF93, "\u0F92\u0FB7"⟩,
    ⟨0xF9D, 0xF9D, "\u0F9C\u0FB7"⟩,
    ⟨0xFA2, 0xFA2, "\u0FA1\u0FB7"⟩,
    ⟨0xFA7, 0xFA7, "\u0FA6\u0FB7"⟩,
    ⟨0xFAC, 0xFAC, "\u0FAB\u0FB7"⟩,
    ⟨0xFB9, 0xFB9, "\u0F90\u0FB5"⟩,
    ⟨0x10FC, 0x10FC, "ნ"⟩,
    ⟨0x1C80, 0x1C88, "в д о с т т ъ ѣ ꙋ"⟩,
    ⟨0x1D2C, 0x1D32, "a æ b ᴯ d e ǝ"⟩,
    ⟨0x1D3C, 0x1D5C, "o ȣ p r t u w a ɐ ɑ ᴂ b d e ə ɛ ɜ g ᵎ k m ŋ o ɔ ᴖ ᴗ p t u ᴝ ɯ v ᴥ"⟩,
    ⟨0x1D5D, 0x1D6A, "β γ δ φ χ i r u v β γ ρ φ χ"⟩,
    ⟨0x1D78, 0x1D78, "н"⟩,
    ⟨0x1D9B, 0x1DBB, "ɒ c ɕ ð ɜ f ɟ ɡ ɥ ɨ ɩ ɪ ᵻ ʝ ɭ ᶅ ʟ ɱ ɰ ɲ ɳ ɴ ɵ ɸ ʂ ʃ ƫ ʉ ʊ ᴜ ʋ ʌ z"⟩,
    ⟨0x1DBC, 0x1DBF, "ʐ ʑ ʒ θ"⟩,
    ⟨0x1E9A, 0x1E9B, "aʾ ṡ"⟩,
    ⟨0x1F71, 0x1F7D, "ά ὲ έ ὴ ή ὶ ί ὸ ό ὺ ύ ὼ ώ"⟩,
    ⟨0x1F80, 0x1F95, "ἀι ἁι ἂι ἃι ἄι ἅι ἆι ἇι ἀι ἁι ἂι ἃι ἄι ἅι ἆι ἇι ἠι ἡι ἢι ἣι ἤι ἥι"⟩,
    ⟨0x1F96, 0x1FAB, "ἦι ἧι ἠι ἡι ἢι ἣι ἤι ἥι ἦι ἧι ὠι ὡι ὢι ὣι ὤι ὥι ὦι ὧι ὠι ὡι ὢι ὣι"⟩,
    ⟨0x1FAC, 0x1FB4, "ὤι ὥι ὦι ὧι ᾰ ᾱ ὰι αι άι"⟩,
    ⟨0x1FB7, 0x1FB7, "ᾶι"⟩,
    ⟨0x1FBB, 0x1FBC, "ά αι"⟩,
    ⟨0x1FBE, 0x1FBE, "ι"⟩]

private def formRows2 : List FormRow := [
    ⟨0x1FC2, 0x1FC4, "ὴι ηι ήι"⟩,
    ⟨0x1FC7, 0x1FCC, "ῆι ὲ έ ὴ ή ηι"⟩,
    ⟨0x1FD3, 0x1FD3, "ΐ"⟩,
    ⟨0x1FDB, 0x1FDB, "ί"⟩,
    ⟨0x1FE3, 0x1FE3, "ΰ"⟩,
    ⟨0x1FEB, 0x1FEB, "ύ"⟩,
    ⟨0x1FEF, 0x1FEF, "\x60"⟩,
    ⟨0x1FF2, 0x1FF4, "ὼι ωι ώι"⟩,
    ⟨0x1FF7, 0x1FFC, "ῶι ὸ ό ὼ ώ ωι"⟩,
    ⟨0x2011, 0x2011, "‐"⟩,
    ⟨0x2033, 0x2037, "′′ ′′′ ‵ ‵‵ ‵‵‵"⟩,
    ⟨0x203C, 0x203C, "!!"⟩,
    ⟨0x2047, 0x2049, "?? ?! !?"⟩,
    ⟨0x2057, 0x2057, "′′′′"⟩,
    ⟨0x2070, 0x2071, "0 i"⟩,
    ⟨0x207A, 0x207F, "+ − = ( ) n"⟩,
    ⟨0x208A, 0x208E, "+ − = ( )"⟩,
    ⟨0x2090, 0x209C, "a e o x ə h k l m n p s t"⟩,
    ⟨0x20A8, 0x20A8, "rs"⟩,
    ⟨0x2100, 0x211A, "a/c a/s c °c ℄ c/o c/u ɛ ℈ °f g h h h h ħ i i l l ℔ n no ℗ ℘ p q"⟩,
    ⟨0x211B, 0x2124, "r r r ℞ ℟ sm tel tm ℣ z"⟩,
    ⟨0x2128, 0x2128, "z"⟩,
    ⟨0x212C, 0x2140, "b c ℮ e e f ⅎ m o \u05D0 \u05D1 \u05D2 \u05D3 i ℺ fax π γ γ π ∑"⟩,
    ⟨0x2145, 0x2149, "d d e i j"⟩,
    ⟨0x2150, 0x2160, "1⁄7 1⁄9 1⁄10 1⁄3 2⁄3 1⁄5 2⁄5 3⁄5 4⁄5 1⁄6 5⁄6 1⁄8 3⁄8 5⁄8 7⁄8 1⁄ i"⟩,
    ⟨0x2161, 0x2176, "ii iii iv v vi vii viii ix x xi xii l c d m i ii iii iv v vi vii"⟩,
    ⟨0x2177, 0x217F, "viii ix x xi xii l c d m"⟩,
    ⟨0x2189, 0x2189, "0⁄3"⟩,
    ⟨0x222C, 0x2230, "∫∫ ∫∫∫ ∮ ∮∮ ∮∮∮"⟩,
    ⟨0x2329, 0x232A, "〈 〉"⟩,
    ⟨0x2469, 0x247B, "10 11 12 13 14 15 16 17 18 19 20 (1) (2) (3) (4) (5) (6) (7) (8)"⟩,
    ⟨0x247C, 0x2487, "(9) (10) (11) (12) (13) (14) (15) (16) (17) (18) (19) (20)"⟩,
    ⟨0x249C, 0x24AB, "(a) (b) (c) (d) (e) (f) (g) (h) (i) (j) (k) (l) (m) (n) (o) (p)"⟩,
    ⟨0x24AC, 0x24B5, "(q) (r) (s) (t) (u) (v) (w) (x) (y) (z)"⟩,
    ⟨0x24EA, 0x24EA, "0"⟩,
    ⟨0x2A0C, 0x2A0C, "∫∫∫∫"⟩,
    ⟨0x2A74, 0x2A76, "::= == ==="⟩,
    ⟨0x2ADC, 0x2ADC, "⫝\u0338"⟩,
    ⟨0x2C7C, 0x2C7D, "j v"⟩,
    ⟨0x2D6F, 0x2D6F, "ⵡ"⟩,
    ⟨0x2E9F, 0x2E9F, "母"⟩,
    ⟨0x2EF3, 0x2EF3, "龟"⟩,
    ⟨0x2F00, 0x2F20, "一 丨 丶 丿 乙 亅 二 亠 人 儿 入 八 冂 冖 冫 几 凵 刀 力 勹 匕 匚 匸 十 卜 卩 厂 厶 又 口 囗 土 士"⟩,
    ⟨0x2F21, 0x2F41, "夂 夊 夕 大 女 子 宀 寸 小 尢 尸 屮 山 巛 工 己 巾 干 幺 广 廴 廾 弋 弓 彐 彡 彳 心 戈 戶 手 支 攴"⟩,
    ⟨0x2F42, 0x2F62, "文 斗 斤 方 无 日 曰 月 木 欠 止 歹 殳 毋 比 毛 氏 气 水 火 爪 父 爻 爿 片 牙 牛 犬 玄 玉 瓜 瓦 甘"⟩,
    ⟨0x2F63, 0x2F83, "生 用 田 疋 疒 癶 白 皮 皿 目 矛 矢 石 示 禸 禾 穴 立 竹 米 糸 缶 网 羊 羽 老 而 耒 耳 聿 肉 臣 自"⟩,
    ⟨0x2F84, 0x2FA4, "至 臼 舌 舛 舟 艮 色 艸 虍 虫 血 行 衣 襾 見 角 言 谷 豆 豕 豸 貝 赤 走 足 身 車 辛 辰 辵 邑 酉 釆"⟩,
    ⟨0x2FA5, 0x2FC5, "里 金 長 門 阜 隶 隹 雨 靑 非 面 革 韋 韭 音 頁 風 飛 食 首 香 馬 骨 高 髟 鬥 鬯 鬲 鬼 魚 鳥 鹵 鹿"⟩,
    ⟨0x2FC6, 0x2FD5, "麥 麻 黃 黍 黑 黹 黽 鼎 鼓 鼠 鼻 齊 齒 龍 龜 龠"⟩,
    ⟨0x3002, 0x3002, "."⟩,
    ⟨0x3036, 0x303A, "〒 〷 十 卄 卅"⟩,
    ⟨0x309F, 0x309F, "より"⟩,
    ⟨0x30FF, 0x30FF, "コト"⟩,
    ⟨0x3131, 0x3139, "ᄀ ᄁ ᆪ ᄂ ᆬ ᆭ ᄃ ᄄ ᄅ"⟩,
    ⟨0x3140, 0x3144, "ᄚ ᄆ ᄇ ᄈ ᄡ"⟩,
    ⟨0x3165, 0x3185, "ᄔ ᄕ ᇇ ᇈ ᇌ ᇎ ᇓ ᇗ ᇙ ᄜ ᇝ ᇟ ᄝ ᄞ ᄠ ᄢ ᄣ ᄧ ᄩ ᄫ ᄬ ᄭ ᄮ ᄯ ᄲ ᄶ ᅀ ᅇ ᅌ ᇱ ᇲ ᅗ ᅘ"⟩,
    ⟨0x3186, 0x318E, "ᅙ ᆄ ᆅ ᆈ ᆑ ᆒ ᆔ ᆞ ᆡ"⟩,
    ⟨0x3192, 0x319F, "一 二 三 四 上 中 下 甲 乙 丙 丁 天 地 人"⟩,
    ⟨0x3200, 0x320F, "(ᄀ) (ᄂ) (ᄃ) (ᄅ) (ᄆ) (ᄇ) (ᄉ) (ᄋ) (ᄌ) (ᄎ) (ᄏ) (ᄐ) (ᄑ) (ᄒ) (가) (나)"⟩,
    ⟨0x3210, 0x321E, "(다) (라) (마) (바) (사) (아) (자) (차) (카) (타) (파) (하) (주) (오전) (오후)"⟩,
    ⟨0x3220, 0x322F, "(一) (二) (三) (四) (五) (六) (七) (八) (九) (十) (月) (火) (水) (木) (金) (土)"⟩,
    ⟨0x3230, 0x323F, "(日) (株) (有) (社) (名) (特) (財) (祝) (労) (代) (呼) (学) (監) (企) (資) (協)"⟩,
    ⟨0x3240, 0x3247, "(祭) (休) (自) (至) 問 幼 文 箏"⟩,
    ⟨0x3250, 0x3267, "pte 21 22 23 24 25 26 27 28 29 30 31 32 33 34 35 ᄀ ᄂ ᄃ ᄅ ᄆ ᄇ ᄉ ᄋ"⟩]

private def formRows3 : List FormRow := [
    ⟨0x3268, 0x3287, "ᄌ ᄎ ᄏ ᄐ ᄑ ᄒ 가 나 다 라 마 바 사 아 자 차 카 타 파 하 참고 주의 우 ㉿ 一 二 三 四 五 六 七 八"⟩,
    ⟨0x3288, 0x32A8, "九 十 月 火 水 木 金 土 日 株 有 社 名 特 財 祝 労 秘 男 女 適 優 印 注 項 休 写 正 上 中 下 左 右"⟩,
    ⟨0x32A9, 0x32C0, "医 宗 学 監 企 資 協 夜 36 37 38 39 40 41 42 43 44 45 46 47 48 49 50 1月"⟩,
    ⟨0x32C1, 0x32D7, "2月 3月 4月 5月 6月 7月 8月 9月 10月 11月 12月 hg erg ev ltd ア イ ウ エ オ カ キ ク"⟩,
    ⟨0x32D8, 0x32E3, "ケ コ サ シ ス セ ソ タ チ ツ テ ト"⟩,
    ⟨0x32EA, 0x32F4, "ヒ フ ヘ ホ マ ミ ム メ モ ヤ ユ"⟩,
    ⟨0x32FB, 0x330B, "ワ ヰ ヱ ヲ 令和 アパート アルファ アンペア アール イニング インチ ウォン エスクード エーカー オンス オーム カイリ"⟩,
    ⟨0x330C, 0x3318, "カラット カロリー ガロン ガンマ ギガ ギニー キュリー ギルダー キロ キログラム キロメートル キロワット グラム"⟩,
    ⟨0x3319, 0x3327, "グラムトン クルゼイロ クローネ ケース コルナ コーポ サイクル サンチーム シリング センチ セント ダース デシ ドル トン"⟩,
    ⟨0x3328, 0x3335, "ナノ ノット ハイツ パーセント パーツ バーレル ピアストル ピクル ピコ ビル ファラッド フィート ブッシェル フラン"⟩,
    ⟨0x3336, 0x3345, "ヘクタール ペソ ペニヒ ヘルツ ペンス ページ ベータ ポイント ボルト ホン ポンド ホール ホーン マイクロ マイル マッハ"⟩,
    ⟨0x3346, 0x3354, "マルク マンション ミクロン ミリ ミリバール メガ メガトン メートル ヤード ヤール ユアン リットル リラ ルピー ルーブル"⟩,
    ⟨0x3355, 0x3366, "レム レントゲン ワット 0点 1点 2点 3点 4点 5点 6点 7点 8点 9点 10点 11点 12点 13点 14点"⟩,
    ⟨0x3367, 0x3377, "15点 16点 17点 18点 19点 20点 21点 22点 23点 24点 hpa da au bar ov pc dm"⟩,
    ⟨0x3378, 0x338A, "dm2 dm3 iu 平成 昭和 大正 明治 株式会社 pa na μa ma ka kb mb gb cal kcal pf"⟩,
    ⟨0x338B, 0x339E, "nf μf μg mg kg hz khz mhz ghz thz μl ml dl kl fm nm μm mm cm km"⟩,
    ⟨0x339F, 0x33AE, "mm2 cm2 m2 km2 mm3 cm3 m3 km3 m∕s m∕s2 pa kpa mpa gpa rad rad∕s"⟩,
    ⟨0x33AF, 0x33C1, "rad∕s2 ps ns μs ms pv nv μv mv kv mv pw nw μw mw kw mw kω mω"⟩,
    ⟨0x33C3, 0x33C6, "bq cc cd c∕kg"⟩,
    ⟨0x33C8, 0x33D7, "db gy ha hp in kk km kt lm ln log lx mb mil mol ph"⟩,
    ⟨0x33D9, 0x33EB, "ppm pr sr sv wb v∕m a∕m 1日 2日 3日 4日 5日 6日 7日 8日 9日 10日 11日 12日"⟩,
    ⟨0x33EC, 0x33FB, "13日 14日 15日 16日 17日 18日 19日 20日 21日 22日 23日 24日 25日 26日 27日 28日"⟩,
    ⟨0x33FC, 0x33FF, "29日 30日 31日 gal"⟩,
    ⟨0xA69C, 0xA69D, "ъ ь"⟩,
    ⟨0xA770, 0xA770, "ꝯ"⟩,
    ⟨0xA7F1, 0xA7F4, "s c f q"⟩,
    ⟨0xA7F8, 0xA7F9, "ħ œ"⟩,
    ⟨0xAB5C, 0xAB5F, "ꜧ ꬷ ɫ ꭒ"⟩,
    ⟨0xAB69, 0xAB69, "ʍ"⟩,
    ⟨0xF900, 0xF920, "豈 更 車 賈 滑 串 句 龜 龜 契 金 喇 奈 懶 癩 羅 蘿 螺 裸 邏 樂 洛 烙 珞 落 酪 駱 亂 卵 欄 爛 蘭 鸞"⟩,
    ⟨0xF921, 0xF941, "嵐 濫 藍 襤 拉 臘 蠟 廊 朗 浪 狼 郎 來 冷 勞 擄 櫓 爐 盧 老 蘆 虜 路 露 魯 鷺 碌 祿 綠 菉 錄 鹿 論"⟩,
    ⟨0xF942, 0xF962, "壟 弄 籠 聾 牢 磊 賂 雷 壘 屢 樓 淚 漏 累 縷 陋 勒 肋 凜 凌 稜 綾 菱 陵 讀 拏 樂 諾 丹 寧 怒 率 異"⟩,
    ⟨0xF963, 0xF983, "北 磻 便 復 不 泌 數 索 參 塞 省 葉 說 殺 辰 沈 拾 若 掠 略 亮 兩 凉 梁 糧 良 諒 量 勵 呂 女 廬 旅"⟩,
    ⟨0xF984, 0xF9A4, "濾 礪 閭 驪 麗 黎 力 曆 歷 轢 年 憐 戀 撚 漣 煉 璉 秊 練 聯 輦 蓮 連 鍊 列 劣 咽 烈 裂 說 廉 念 捻"⟩,
    ⟨0xF9A5, 0xF9C5, "殮 簾 獵 令 囹 寧 嶺 怜 玲 瑩 羚 聆 鈴 零 靈 領 例 禮 醴 隸 惡 了 僚 寮 尿 料 樂 燎 療 蓼 遼 龍 暈"⟩,
    ⟨0xF9C6, 0xF9E6, "阮 劉 杻 柳 流 溜 琉 留 硫 紐 類 六 戮 陸 倫 崙 淪 輪 律 慄 栗 率 隆 利 吏 履 易 李 梨 泥 理 痢 罹"⟩,
    ⟨0xF9E7, 0xFA07, "裏 裡 里 離 匿 溺 吝 燐 璘 藺 隣 鱗 麟 林 淋 臨 立 笠 粒 狀 炙 識 什 茶 刺 切 度 拓 糖 宅 洞 暴 輻"⟩,
    ⟨0xFA08, 0xFA26, "行 降 見 廓 兀 嗀 﨎 﨏 塚 﨑 晴 﨓 﨔 凞 猪 益 礼 神 祥 福 靖 精 羽 﨟 蘒 﨡 諸 﨣 﨤 逸 都"⟩,
    ⟨0xFA2A, 0xFA4A, "飯 飼 館 鶴 郞 隷 侮 僧 免 勉 勤 卑 喝 嘆 器 塀 墨 層 屮 悔 慨 憎 懲 敏 既 暑 梅 海 渚 漢 煮 爫 琢"⟩,
    ⟨0xFA4B, 0xFA6B, "碑 社 祉 祈 祐 祖 祝 禍 禎 穀 突 節 練 縉 繁 署 者 臭 艹 艹 著 褐 視 謁 謹 賓 贈 辶 逸 難 響 頻 恵"⟩,
    ⟨0xFA6C, 0xFA6D, "𤋮 舘"⟩,
    ⟨0xFA70, 0xFA90, "並 况 全 侀 充 冀 勇 勺 喝 啕 喙 嗢 塚 墳 奄 奔 婢 嬨 廒 廙 彩 徭 惘 慎 愈 憎 慠 懲 戴 揄 搜 摒 敖"⟩,
    ⟨0xFA91, 0xFAB1, "晴 朗 望 杖 歹 殺 流 滛 滋 漢 瀞 煮 瞧 爵 犯 猪 瑱 甆 画 瘝 瘟 益 盛 直 睊 着 磌 窱 節 类 絛 練 缾"⟩,
    ⟨0xFAB2, 0xFAD2, "者 荒 華 蝹 襁 覆 視 調 諸 請 謁 諾 諭 謹 變 贈 輸 遲 醙 鉶 陼 難 靖 韛 響 頋 頻 鬒 龜 𢡊 𢡄 𣏕 㮝"⟩,
    ⟨0xFAD3, 0xFAD9, "䀘 䀹 𥉉 𥳐 𧻓 齃 龎"⟩,
    ⟨0xFB00, 0xFB06, "ff fi fl ffi ffl st st"⟩,
    ⟨0xFB13, 0xFB17, "մն մե մի վն մխ"⟩,
    ⟨0xFB1D, 0xFB23, "\u05D9\u05B4 \uFB1E \u05F2\u05B7 \u05E2 \u05D0 \u05D3 \u05D4"⟩,
    ⟨0xFB24, 0xFB2B, "\u05DB \u05DC \u05DD \u05E8 \u05EA + \u05E9\u05C1 \u05E9\u05C2"⟩,
    ⟨0xFB2C, 0xFB2F, "\u05E9\u05BC\u05C1 \u05E9\u05BC\u05C2 \u05D0\u05B7 \u05D0\u05B8"⟩,
    ⟨0xFB30, 0xFB34, "\u05D0\u05BC \u05D1\u05BC \u05D2\u05BC \u05D3\u05BC \u05D4\u05BC"⟩,
    ⟨0xFB35, 0xFB36, "\u05D5\u05BC \u05D6\u05BC"⟩,
    ⟨0xFB38, 0xFB3C, "\u05D8\u05BC \u05D9\u05BC \u05DA\u05BC \u05DB\u05BC \u05DC\u05BC"⟩,
    ⟨0xFB3E, 0xFB3E, "\u05DE\u05BC"⟩,
    ⟨0xFB40, 0xFB41, "\u05E0\u05BC \u05E1\u05BC"⟩,
    ⟨0xFB43, 0xFB44, "\u05E3\u05BC \u05E4\u05BC"⟩,
    ⟨0xFB46, 0xFB4A, "\u05E6\u05BC \u05E7\u05BC \u05E8\u05BC \u05E9\u05BC \u05EA\u05BC"⟩,
    ⟨0xFB4B, 0xFB4F, "\u05D5\u05B9 \u05D1\u05BF \u05DB\u05BF \u05E4\u05BF \u05D0\u05DC"⟩,
    ⟨0xFB50, 0xFB58, "\u0671 \u0671 \u067B \u067B \u067B \u067B \u067E \u067E \u067E"⟩,
    ⟨0xFB59, 0xFB61, "\u067E \u0680 \u0680 \u0680 \u0680 \u067A \u067A \u067A \u067A"⟩,
    ⟨0xFB62, 0xFB6A, "\u067F \u067F \u067F \u067F \u0679 \u0679 \u0679 \u0679 \u06A4"⟩,
    ⟨0xFB6B, 0xFB73, "\u06A4 \u06A4 \u06A4 \u06A6 \u06A6 \u06A6 \u06A6 \u0684 \u0684"⟩,
    ⟨0xFB74, 0xFB7C, "\u0684 \u0684 \u0683 \u0683 \u0683 \u0683 \u0686 \u0686 \u0686"⟩,
    ⟨0xFB7D, 0xFB85, "\u0686 \u0687 \u0687 \u0687 \u0687 \u068D \u068D \u068C \u068C"⟩]

private def formRows4 : List FormRow := [
    ⟨0xFB86, 0xFB8E, "\u068E \u068E \u0688 \u0688 \u0698 \u0698 \u0691 \u0691 \u06A9"⟩,
    ⟨0xFB8F, 0xFB97, "\u06A9 \u06A9 \u06A9 \u06AF \u06AF \u06AF \u06AF \u06B3 \u06B3"⟩,
    ⟨0xFB98, 0xFBA0, "\u06B3 \u06B3 \u06B1 \u06B1 \u06B1 \u06B1 \u06BA \u06BA \u06BB"⟩,
    ⟨0xFBA1, 0xFBA9, "\u06BB \u06BB \u06BB \u06C0 \u06C0 \u06C1 \u06C1 \u06C1 \u06C1"⟩,
    ⟨0xFBAA, 0xFBB1, "\u06BE \u06BE \u06BE \u06BE \u06D2 \u06D2 \u06D3 \u06D3"⟩,
    ⟨0xFBD3, 0xFBDB, "\u06AD \u06AD \u06AD \u06AD \u06C7 \u06C7 \u06C6 \u06C6 \u06C8"⟩,
    ⟨0xFBDC, 0xFBE3, "\u06C8 \u06C7\u0674 \u06CB \u06CB \u06C5 \u06C5 \u06C9 \u06C9"⟩,
    ⟨0xFBE4, 0xFBEA, "\u06D0 \u06D0 \u06D0 \u06D0 \u0649 \u0649 \u0626\u0627"⟩,
    ⟨0xFBEB, 0xFBEF, "\u0626\u0627 \u0626\u06D5 \u0626\u06D5 \u0626\u0648 \u0626\u0648"⟩,
    ⟨0xFBF0, 0xFBF4, "\u0626\u06C7 \u0626\u06C7 \u0626\u06C6 \u0626\u06C6 \u0626\u06C8"⟩,
    ⟨0xFBF5, 0xFBF9, "\u0626\u06C8 \u0626\u06D0 \u0626\u06D0 \u0626\u06D0 \u0626\u0649"⟩,
    ⟨0xFBFA, 0xFBFF, "\u0626\u0649 \u0626\u0649 \u06CC \u06CC \u06CC \u06CC"⟩,
    ⟨0xFC00, 0xFC04, "\u0626\u062C \u0626\u062D \u0626\u0645 \u0626\u0649 \u0626\u064A"⟩,
    ⟨0xFC05, 0xFC09, "\u0628\u062C \u0628\u062D \u0628\u062E \u0628\u0645 \u0628\u0649"⟩,
    ⟨0xFC0A, 0xFC0E, "\u0628\u064A \u062A\u062C \u062A\u062D \u062A\u062E \u062A\u0645"⟩,
    ⟨0xFC0F, 0xFC13, "\u062A\u0649 \u062A\u064A \u062B\u062C \u062B\u0645 \u062B\u0649"⟩,
    ⟨0xFC14, 0xFC18, "\u062B\u064A \u062C\u062D \u062C\u0645 \u062D\u062C \u062D\u0645"⟩,
    ⟨0xFC19, 0xFC1D, "\u062E\u062C \u062E\u062D \u062E\u0645 \u0633\u062C \u0633\u062D"⟩,
    ⟨0xFC1E, 0xFC22, "\u0633\u062E \u0633\u0645 \u0635\u062D \u0635\u0645 \u0636\u062C"⟩,
    ⟨0xFC23, 0xFC27, "\u0636\u062D \u0636\u062E \u0636\u0645 \u0637\u062D \u0637\u0645"⟩,
    ⟨0xFC28, 0xFC2C, "\u0638\u0645 \u0639\u062C \u0639\u0645 \u063A\u062C \u063A\u0645"⟩,
    ⟨0xFC2D, 0xFC31, "\u0641\u062C \u0641\u062D \u0641\u062E \u0641\u0645 \u0641\u0649"⟩,
    ⟨0xFC32, 0xFC36, "\u0641\u064A \u0642\u062D \u0642\u0645 \u0642\u0649 \u0642\u064A"⟩,
    ⟨0xFC37, 0xFC3B, "\u0643\u0627 \u0643\u062C \u0643\u062D \u0643\u062E \u0643\u0644"⟩,
    ⟨0xFC3C, 0xFC40, "\u0643\u0645 \u0643\u0649 \u0643\u064A \u0644\u062C \u0644\u062D"⟩,
    ⟨0xFC41, 0xFC45, "\u0644\u062E \u0644\u0645 \u0644\u0649 \u0644\u064A \u0645\u062C"⟩,
    ⟨0xFC46, 0xFC4A, "\u0645\u062D \u0645\u062E \u0645\u0645 \u0645\u0649 \u0645\u064A"⟩,
    ⟨0xFC4B, 0xFC4F, "\u0646\u062C \u0646\u062D \u0646\u062E \u0646\u0645 \u0646\u0649"⟩,
    ⟨0xFC50, 0xFC54, "\u0646\u064A \u0647\u062C \u0647\u0645 \u0647\u0649 \u0647\u064A"⟩,
    ⟨0xFC55, 0xFC59, "\u064A\u062C \u064A\u062D \u064A\u062E \u064A\u0645 \u064A\u0649"⟩,
    ⟨0xFC5A, 0xFC5D, "\u064A\u064A \u0630\u0670 \u0631\u0670 \u0649\u0670"⟩,
    ⟨0xFC64, 0xFC68, "\u0626\u0631 \u0626\u0632 \u0626\u0645 \u0626\u0646 \u0626\u0649"⟩,
    ⟨0xFC69, 0xFC6D, "\u0626\u064A \u0628\u0631 \u0628\u0632 \u0628\u0645 \u0628\u0646"⟩,
    ⟨0xFC6E, 0xFC72, "\u0628\u0649 \u0628\u064A \u062A\u0631 \u062A\u0632 \u062A\u0645"⟩,
    ⟨0xFC73, 0xFC77, "\u062A\u0646 \u062A\u0649 \u062A\u064A \u062B\u0631 \u062B\u0632"⟩,
    ⟨0xFC78, 0xFC7C, "\u062B\u0645 \u062B\u0646 \u062B\u0649 \u062B\u064A \u0641\u0649"⟩,
    ⟨0xFC7D, 0xFC81, "\u0641\u064A \u0642\u0649 \u0642\u064A \u0643\u0627 \u0643\u0644"⟩,
    ⟨0xFC82, 0xFC86, "\u0643\u0645 \u0643\u0649 \u0643\u064A \u0644\u0645 \u0644\u0649"⟩,
    ⟨0xFC87, 0xFC8B, "\u0644\u064A \u0645\u0627 \u0645\u0645 \u0646\u0631 \u0646\u0632"⟩,
    ⟨0xFC8C, 0xFC90, "\u0646\u0645 \u0646\u0646 \u0646\u0649 \u0646\u064A \u0649\u0670"⟩,
    ⟨0xFC91, 0xFC95, "\u064A\u0631 \u064A\u0632 \u064A\u0645 \u064A\u0646 \u064A\u0649"⟩,
    ⟨0xFC96, 0xFC9A, "\u064A\u064A \u0626\u062C \u0626\u062D \u0626\u062E \u0626\u0645"⟩,
    ⟨0xFC9B, 0xFC9F, "\u0626\u0647 \u0628\u062C \u0628\u062D \u0628\u062E \u0628\u0645"⟩,
    ⟨0xFCA0, 0xFCA4, "\u0628\u0647 \u062A\u062C \u062A\u062D \u062A\u062E \u062A\u0645"⟩,
    ⟨0xFCA5, 0xFCA9, "\u062A\u0647 \u062B\u0645 \u062C\u062D \u062C\u0645 \u062D\u062C"⟩,
    ⟨0xFCAA, 0xFCAE, "\u062D\u0645 \u062E\u062C \u062E\u0645 \u0633\u062C \u0633\u062D"⟩,
    ⟨0xFCAF, 0xFCB3, "\u0633\u062E \u0633\u0645 \u0635\u062D \u0635\u062E \u0635\u0645"⟩,
    ⟨0xFCB4, 0xFCB8, "\u0636\u062C \u0636\u062D \u0636\u062E \u0636\u0645 \u0637\u062D"⟩,
    ⟨0xFCB9, 0xFCBD, "\u0638\u0645 \u0639\u062C \u0639\u0645 \u063A\u062C \u063A\u0645"⟩,
    ⟨0xFCBE, 0xFCC2, "\u0641\u062C \u0641\u062D \u0641\u062E \u0641\u0645 \u0642\u062D"⟩,
    ⟨0xFCC3, 0xFCC7, "\u0642\u0645 \u0643\u062C \u0643\u062D \u0643\u062E \u0643\u0644"⟩,
    ⟨0xFCC8, 0xFCCC, "\u0643\u0645 \u0644\u062C \u0644\u062D \u0644\u062E \u0644\u0645"⟩,
    ⟨0xFCCD, 0xFCD1, "\u0644\u0647 \u0645\u062C \u0645\u062D \u0645\u062E \u0645\u0645"⟩,
    ⟨0xFCD2, 0xFCD6, "\u0646\u062C \u0646\u062D \u0646\u062E \u0646\u0645 \u0646\u0647"⟩,
    ⟨0xFCD7, 0xFCDB, "\u0647\u062C \u0647\u0645 \u0647\u0670 \u064A\u062C \u064A\u062D"⟩,
    ⟨0xFCDC, 0xFCE0, "\u064A\u062E \u064A\u0645 \u064A\u0647 \u0626\u0645 \u0626\u0647"⟩,
    ⟨0xFCE1, 0xFCE5, "\u0628\u0645 \u0628\u0647 \u062A\u0645 \u062A\u0647 \u062B\u0645"⟩,
    ⟨0xFCE6, 0xFCEA, "\u062B\u0647 \u0633\u0645 \u0633\u0647 \u0634\u0645 \u0634\u0647"⟩,
    ⟨0xFCEB, 0xFCEF, "\u0643\u0644 \u0643\u0645 \u0644\u0645 \u0646\u0645 \u0646\u0647"⟩,
    ⟨0xFCF0, 0xFCF3, "\u064A\u0645 \u064A\u0647 \u0640\u064E\u0651 \u0640\u064F\u0651"⟩,
    ⟨0xFCF4, 0xFCF7, "\u0640\u0650\u0651 \u0637\u0649 \u0637\u064A \u0639\u0649"⟩,
    ⟨0xFCF8, 0xFCFC, "\u0639\u064A \u063A\u0649 \u063A\u064A \u0633\u0649 \u0633\u064A"⟩,
    ⟨0xFCFD, 0xFD01, "\u0634\u0649 \u0634\u064A \u062D\u0649 \u062D\u064A \u062C\u0649"⟩,
    ⟨0xFD02, 0xFD06, "\u062C\u064A \u062E\u0649 \u062E\u064A \u0635\u0649 \u0635\u064A"⟩]

private def formRows5 : List FormRow := [
    ⟨0xFD07, 0xFD0B, "\u0636\u0649 \u0636\u064A \u0634\u062C \u0634\u062D \u0634\u062E"⟩,
    ⟨0xFD0C, 0xFD10, "\u0634\u0645 \u0634\u0631 \u0633\u0631 \u0635\u0631 \u0636\u0631"⟩,
    ⟨0xFD11, 0xFD15, "\u0637\u0649 \u0637\u064A \u0639\u0649 \u0639\u064A \u063A\u0649"⟩,
    ⟨0xFD16, 0xFD1A, "\u063A\u064A \u0633\u0649 \u0633\u064A \u0634\u0649 \u0634\u064A"⟩,
    ⟨0xFD1B, 0xFD1F, "\u062D\u0649 \u062D\u064A \u062C\u0649 \u062C\u064A \u062E\u0649"⟩,
    ⟨0xFD20, 0xFD24, "\u062E\u064A \u0635\u0649 \u0635\u064A \u0636\u0649 \u0636\u064A"⟩,
    ⟨0xFD25, 0xFD29, "\u0634\u062C \u0634\u062D \u0634\u062E \u0634\u0645 \u0634\u0631"⟩,
    ⟨0xFD2A, 0xFD2E, "\u0633\u0631 \u0635\u0631 \u0636\u0631 \u0634\u062C \u0634\u062D"⟩,
    ⟨0xFD2F, 0xFD33, "\u0634\u062E \u0634\u0645 \u0633\u0647 \u0634\u0647 \u0637\u0645"⟩,
    ⟨0xFD34, 0xFD38, "\u0633\u062C \u0633\u062D \u0633\u062E \u0634\u062C \u0634\u062D"⟩,
    ⟨0xFD39, 0xFD3D, "\u0634\u062E \u0637\u0645 \u0638\u0645 \u0627\u064B \u0627\u064B"⟩,
    ⟨0xFD50, 0xFD52, "\u062A\u062C\u0645 \u062A\u062D\u062C \u062A\u062D\u062C"⟩,
    ⟨0xFD53, 0xFD55, "\u062A\u062D\u0645 \u062A\u062E\u0645 \u062A\u0645\u062C"⟩,
    ⟨0xFD56, 0xFD58, "\u062A\u0645\u062D \u062A\u0645\u062E \u062C\u0645\u062D"⟩,
    ⟨0xFD59, 0xFD5B, "\u062C\u0645\u062D \u062D\u0645\u064A \u062D\u0645\u0649"⟩,
    ⟨0xFD5C, 0xFD5E, "\u0633\u062D\u062C \u0633\u062C\u062D \u0633\u062C\u0649"⟩,
    ⟨0xFD5F, 0xFD61, "\u0633\u0645\u062D \u0633\u0645\u062D \u0633\u0645\u062C"⟩,
    ⟨0xFD62, 0xFD64, "\u0633\u0645\u0645 \u0633\u0645\u0645 \u0635\u062D\u062D"⟩,
    ⟨0xFD65, 0xFD67, "\u0635\u062D\u062D \u0635\u0645\u0645 \u0634\u062D\u0645"⟩,
    ⟨0xFD68, 0xFD6A, "\u0634\u062D\u0645 \u0634\u062C\u064A \u0634\u0645\u062E"⟩,
    ⟨0xFD6B, 0xFD6D, "\u0634\u0645\u062E \u0634\u0645\u0645 \u0634\u0645\u0645"⟩,
    ⟨0xFD6E, 0xFD70, "\u0636\u062D\u0649 \u0636\u062E\u0645 \u0636\u062E\u0645"⟩,
    ⟨0xFD71, 0xFD73, "\u0637\u0645\u062D \u0637\u0645\u062D \u0637\u0645\u0645"⟩,
    ⟨0xFD74, 0xFD76, "\u0637\u0645\u064A \u0639\u062C\u0645 \u0639\u0645\u0645"⟩,
    ⟨0xFD77, 0xFD79, "\u0639\u0645\u0645 \u0639\u0645\u0649 \u063A\u0645\u0645"⟩,
    ⟨0xFD7A, 0xFD7C, "\u063A\u0645\u064A \u063A\u0645\u0649 \u0641\u062E\u0645"⟩,
    ⟨0xFD7D, 0xFD7F, "\u0641\u062E\u0645 \u0642\u0645\u062D \u0642\u0645\u0645"⟩,
    ⟨0xFD80, 0xFD82, "\u0644\u062D\u0645 \u0644\u062D\u064A \u0644\u062D\u0649"⟩,
    ⟨0xFD83, 0xFD85, "\u0644\u062C\u062C \u0644\u062C\u062C \u0644\u062E\u0645"⟩,
    ⟨0xFD86, 0xFD88, "\u0644\u062E\u0645 \u0644\u0645\u062D \u0644\u0645\u062D"⟩,
    ⟨0xFD89, 0xFD8B, "\u0645\u062D\u062C \u0645\u062D\u0645 \u0645\u062D\u064A"⟩,
    ⟨0xFD8C, 0xFD8E, "\u0645\u062C\u062D \u0645\u062C\u0645 \u0645\u062E\u062C"⟩,
    ⟨0xFD8F, 0xFD92, "\u0645\u062E\u0645 \uFD90 \uFD91 \u0645\u062C\u062E"⟩,
    ⟨0xFD93, 0xFD95, "\u0647\u0645\u062C \u0647\u0645\u0645 \u0646\u062D\u0645"⟩,
    ⟨0xFD96, 0xFD98, "\u0646\u062D\u0649 \u0646\u062C\u0645 \u0646\u062C\u0645"⟩,
    ⟨0xFD99, 0xFD9B, "\u0646\u062C\u0649 \u0646\u0645\u064A \u0646\u0645\u0649"⟩,
    ⟨0xFD9C, 0xFD9E, "\u064A\u0645\u0645 \u064A\u0645\u0645 \u0628\u062E\u064A"⟩,
    ⟨0xFD9F, 0xFDA1, "\u062A\u062C\u064A \u062A\u062C\u0649 \u062A\u062E\u064A"⟩,
    ⟨0xFDA2, 0xFDA4, "\u062A\u062E\u0649 \u062A\u0645\u064A \u062A\u0645\u0649"⟩,
    ⟨0xFDA5, 0xFDA7, "\u062C\u0645\u064A \u062C\u062D\u0649 \u062C\u0645\u0649"⟩,
    ⟨0xFDA8, 0xFDAA, "\u0633\u062E\u0649 \u0635\u062D\u064A \u0634\u062D\u064A"⟩,
    ⟨0xFDAB, 0xFDAD, "\u0636\u062D\u064A \u0644\u062C\u064A \u0644\u0645\u064A"⟩,
    ⟨0xFDAE, 0xFDB0, "\u064A\u062D\u064A \u064A\u062C\u064A \u064A\u0645\u064A"⟩,
    ⟨0xFDB1, 0xFDB3, "\u0645\u0645\u064A \u0642\u0645\u064A \u0646\u062D\u064A"⟩,
    ⟨0xFDB4, 0xFDB6, "\u0642\u0645\u062D \u0644\u062D\u0645 \u0639\u0645\u064A"⟩,
    ⟨0xFDB7, 0xFDB9, "\u0643\u0645\u064A \u0646\u062C\u062D \u0645\u062E\u064A"⟩,
    ⟨0xFDBA, 0xFDBC, "\u0644\u062C\u0645 \u0643\u0645\u0645 \u0644\u062C\u0645"⟩,
    ⟨0xFDBD, 0xFDBF, "\u0646\u062C\u062D \u062C\u062D\u064A \u062D\u062C\u064A"⟩,
    ⟨0xFDC0, 0xFDC2, "\u0645\u062C\u064A \u0641\u0645\u064A \u0628\u062D\u064A"⟩,
    ⟨0xFDC3, 0xFDC5, "\u0643\u0645\u0645 \u0639\u062C\u0645 \u0635\u0645\u0645"⟩,
    ⟨0xFDC6, 0xFDC7, "\u0633\u062E\u064A \u0646\u062C\u064A"⟩,
    ⟨0xFDF0, 0xFDF2, "\u0635\u0644\u06D2 \u0642\u0644\u06D2 \u0627\u0644\u0644\u0647"⟩,
    ⟨0xFDF3, 0xFDF4, "\u0627\u0643\u0628\u0631 \u0645\u062D\u0645\u062F"⟩,
    ⟨0xFDF5, 0xFDF6, "\u0635\u0644\u0639\u0645 \u0631\u0633\u0648\u0644"⟩,
    ⟨0xFDF7, 0xFDF8, "\u0639\u0644\u064A\u0647 \u0648\u0633\u0644\u0645"⟩,
    ⟨0xFDF9, 0xFDF9, "\u0635\u0644\u0649"⟩,
    ⟨0xFDFC, 0xFDFC, "\u0631\u06CC\u0627\u0644"⟩,
    ⟨0xFE10, 0xFE11, ", 、"⟩,
    ⟨0xFE13, 0xFE18, ": ; ! ? 〖 〗"⟩,
    ⟨0xFE31, 0xFE48, "— – _ _ ( ) \x7b \x7d 〔 〕 【 】 《 》 〈 〉 「 」 『 』 ﹅ ﹆ [ ]"⟩,
    ⟨0xFE4D, 0xFE51, "_ _ _ , 、"⟩,
    ⟨0xFE54, 0xFE66, "; : ? ! — ( ) \x7b \x7d 〔 〕 # & * + - < > ="⟩,
    ⟨0xFE68, 0xFE6B, "\\ $ % @"⟩,
    ⟨0xFE71, 0xFE71, "\u0640\u064B"⟩]

private def formRows6 : List FormRow := [
    ⟨0xFE77, 0xFE77, "\u0640\u064E"⟩,
    ⟨0xFE79, 0xFE79, "\u0640\u064F"⟩,
    ⟨0xFE7B, 0xFE7B, "\u0640\u0650"⟩,
    ⟨0xFE7D, 0xFE7D, "\u0640\u0651"⟩,
    ⟨0xFE7F, 0xFE86, "\u0640\u0652 \u0621 \u0622 \u0622 \u0623 \u0623 \u0624 \u0624"⟩,
    ⟨0xFE87, 0xFE8F, "\u0625 \u0625 \u0626 \u0626 \u0626 \u0626 \u0627 \u0627 \u0628"⟩,
    ⟨0xFE90, 0xFE98, "\u0628 \u0628 \u0628 \u0629 \u0629 \u062A \u062A \u062A \u062A"⟩,
    ⟨0xFE99, 0xFEA1, "\u062B \u062B \u062B \u062B \u062C \u062C \u062C \u062C \u062D"⟩,
    ⟨0xFEA2, 0xFEAA, "\u062D \u062D \u062D \u062E \u062E \u062E \u062E \u062F \u062F"⟩,
    ⟨0xFEAB, 0xFEB3, "\u0630 \u0630 \u0631 \u0631 \u0632 \u0632 \u0633 \u0633 \u0633"⟩,
    ⟨0xFEB4, 0xFEBC, "\u0633 \u0634 \u0634 \u0634 \u0634 \u0635 \u0635 \u0635 \u0635"⟩,
    ⟨0xFEBD, 0xFEC5, "\u0636 \u0636 \u0636 \u0636 \u0637 \u0637 \u0637 \u0637 \u0638"⟩,
    ⟨0xFEC6, 0xFECE, "\u0638 \u0638 \u0638 \u0639 \u0639 \u0639 \u0639 \u063A \u063A"⟩,
    ⟨0xFECF, 0xFED7, "\u063A \u063A \u0641 \u0641 \u0641 \u0641 \u0642 \u0642 \u0642"⟩,
    ⟨0xFED8, 0xFEE0, "\u0642 \u0643 \u0643 \u0643 \u0643 \u0644 \u0644 \u0644 \u0644"⟩,
    ⟨0xFEE1, 0xFEE9, "\u0645 \u0645 \u0645 \u0645 \u0646 \u0646 \u0646 \u0646 \u0647"⟩,
    ⟨0xFEEA, 0xFEF2, "\u0647 \u0647 \u0647 \u0648 \u0648 \u0649 \u0649 \u064A \u064A"⟩,
    ⟨0xFEF3, 0xFEF8, "\u064A \u064A \u0644\u0622 \u0644\u0622 \u0644\u0623 \u0644\u0623"⟩,
    ⟨0xFEF9, 0xFEFC, "\u0644\u0625 \u0644\u0625 \u0644\u0627 \u0644\u0627"⟩,
    ⟨0xFF5F, 0xFF7F, "⦅ ⦆ . 「 」 、 ・ ヲ ァ ィ ゥ ェ ォ ャ ュ ョ ッ ー ア イ ウ エ オ カ キ ク ケ コ サ シ ス セ ソ"⟩,
    ⟨0xFF80, 0xFF84, "タ チ ツ テ ト"⟩,
    ⟨0xFF8B, 0xFF95, "ヒ フ ヘ ホ マ ミ ム メ モ ヤ ユ"⟩,
    ⟨0xFF9C, 0xFF9F, "ワ ン \u3099 \u309A"⟩,
    ⟨0xFFA1, 0xFFA9, "ᄀ ᄁ ᆪ ᄂ ᆬ ᆭ ᄃ ᄄ ᄅ"⟩,
    ⟨0xFFB0, 0xFFB4, "ᄚ ᄆ ᄇ ᄈ ᄡ"⟩,
    ⟨0xFFDA, 0xFFDC, "ᅳ ᅴ ᅵ"⟩,
    ⟨0xFFE0, 0xFFE2, "¢ £ ¬"⟩,
    ⟨0xFFE4, 0xFFE6, "¦ ¥ ₩"⟩,
    ⟨0xFFE8, 0xFFEE, "│ ← ↑ → ↓ ■ ○"⟩,
    ⟨0x10781, 0x10785, "ː ˑ æ ʙ ɓ"⟩,
    ⟨0x10787, 0x107A7, "ʣ ꭦ ʥ ʤ ɖ ɗ ᶑ ɘ ɞ ʩ ɤ ɢ ɠ ʛ ħ ʜ ɧ ʄ ʪ ʫ ɬ 𝼄 ꞎ ɮ 𝼅 ʎ 𝼆 ø ɶ ɷ q ɺ 𝼈"⟩,
    ⟨0x107A8, 0x107B0, "ɽ ɾ ʀ ʨ ʦ ꭧ ʧ ʈ ⱱ"⟩,
    ⟨0x107B2, 0x107BA, "ʏ ʡ ʢ ʘ ǀ ǁ ǂ 𝼊 𝼞"⟩,
    ⟨0x1D15E, 0x1D164, "𝅗𝅥 𝅘𝅥 𝅘𝅥𝅮 𝅘𝅥𝅯 𝅘𝅥𝅰 𝅘𝅥𝅱 𝅘𝅥𝅲"⟩,
    ⟨0x1D1BB, 0x1D1C0, "𝆹𝅥 𝆺𝅥 𝆹𝅥𝅮 𝆺𝅥𝅮 𝆹𝅥𝅯 𝆺𝅥𝅯"⟩,
    ⟨0x1D49C, 0x1D49C, "a"⟩,
    ⟨0x1D49E, 0x1D49F, "c d"⟩,
    ⟨0x1D4A2, 0x1D4A2, "g"⟩,
    ⟨0x1D4A5, 0x1D4A6, "j k"⟩,
    ⟨0x1D4A9, 0x1D4AC, "n o p q"⟩,
    ⟨0x1D4B6, 0x1D4B9, "a b c d"⟩,
    ⟨0x1D4BB, 0x1D4BB, "f"⟩,
    ⟨0x1D504, 0x1D505, "a b"⟩,
    ⟨0x1D507, 0x1D50A, "d e f g"⟩,
    ⟨0x1D538, 0x1D539, "a b"⟩,
    ⟨0x1D53B, 0x1D53E, "d e f g"⟩,
    ⟨0x1D540, 0x1D544, "i j k l m"⟩,
    ⟨0x1D546, 0x1D546, "o"⟩,
    ⟨0x1D6A4, 0x1D6A5, "ı ȷ"⟩,
    ⟨0x1D6B9, 0x1D6B9, "θ"⟩,
    ⟨0x1D6C1, 0x1D6C1, "∇"⟩,
    ⟨0x1D6D3, 0x1D6D3, "σ"⟩,
    ⟨0x1D6DB, 0x1D6E1, "∂ ε θ κ φ ρ π"⟩,
    ⟨0x1D6F3, 0x1D6F3, "θ"⟩,
    ⟨0x1D6FB, 0x1D6FB, "∇"⟩,
    ⟨0x1D70D, 0x1D70D, "σ"⟩,
    ⟨0x1D715, 0x1D71B, "∂ ε θ κ φ ρ π"⟩,
    ⟨0x1D72D, 0x1D72D, "θ"⟩,
    ⟨0x1D735, 0x1D735, "∇"⟩,
    ⟨0x1D747, 0x1D747, "σ"⟩,
    ⟨0x1D74F, 0x1D755, "∂ ε θ κ φ ρ π"⟩,
    ⟨0x1D767, 0x1D767, "θ"⟩,
    ⟨0x1D76F, 0x1D76F, "∇"⟩,
    ⟨0x1D781, 0x1D781, "σ"⟩]

private def formRows7 : List FormRow := [
    ⟨0x1D789, 0x1D78F, "∂ ε θ κ φ ρ π"⟩,
    ⟨0x1D7A1, 0x1D7A1, "θ"⟩,
    ⟨0x1D7A9, 0x1D7A9, "∇"⟩,
    ⟨0x1D7BB, 0x1D7BB, "σ"⟩,
    ⟨0x1D7C3, 0x1D7CB, "∂ ε θ κ φ ρ π ϝ ϝ"⟩,
    ⟨0x1E039, 0x1E03B, "к л м"⟩,
    ⟨0x1E047, 0x1E050, "ы э ю ꚉ ә і ј ө ү ӏ"⟩,
    ⟨0x1E05A, 0x1E05E, "к л о п с"⟩,
    ⟨0x1E065, 0x1E06D, "ъ ы ґ і ѕ џ ҫ ꙑ ұ"⟩,
    ⟨0x1EE00, 0x1EE03, "\u0627 \u0628 \u062C \u062F"⟩,
    ⟨0x1EE05, 0x1EE0D, "\u0648 \u0632 \u062D \u0637 \u064A \u0643 \u0644 \u0645 \u0646"⟩,
    ⟨0x1EE0E, 0x1EE16, "\u0633 \u0639 \u0641 \u0635 \u0642 \u0631 \u0634 \u062A \u062B"⟩,
    ⟨0x1EE17, 0x1EE1F, "\u062E \u0630 \u0636 \u0638 \u063A \u066E \u06BA \u06A1 \u066F"⟩,
    ⟨0x1EE21, 0x1EE22, "\u0628 \u062C"⟩,
    ⟨0x1EE24, 0x1EE24, "\u0647"⟩,
    ⟨0x1EE27, 0x1EE27, "\u062D"⟩,
    ⟨0x1EE29, 0x1EE31, "\u064A \u0643 \u0644 \u0645 \u0646 \u0633 \u0639 \u0641 \u0635"⟩,
    ⟨0x1EE32, 0x1EE32, "\u0642"⟩,
    ⟨0x1EE34, 0x1EE37, "\u0634 \u062A \u062B \u062E"⟩,
    ⟨0x1EE39, 0x1EE39, "\u0636"⟩,
    ⟨0x1EE3B, 0x1EE3B, "\u063A"⟩,
    ⟨0x1EE42, 0x1EE42, "\u062C"⟩,
    ⟨0x1EE47, 0x1EE47, "\u062D"⟩,
    ⟨0x1EE49, 0x1EE49, "\u064A"⟩,
    ⟨0x1EE4B, 0x1EE4B, "\u0644"⟩,
    ⟨0x1EE4D, 0x1EE4F, "\u0646 \u0633 \u0639"⟩,
    ⟨0x1EE51, 0x1EE52, "\u0635 \u0642"⟩,
    ⟨0x1EE54, 0x1EE54, "\u0634"⟩,
    ⟨0x1EE57, 0x1EE57, "\u062E"⟩,
    ⟨0x1EE59, 0x1EE59, "\u0636"⟩,
    ⟨0x1EE5B, 0x1EE5B, "\u063A"⟩,
    ⟨0x1EE5D, 0x1EE5D, "\u06BA"⟩,
    ⟨0x1EE5F, 0x1EE5F, "\u066F"⟩,
    ⟨0x1EE61, 0x1EE62, "\u0628 \u062C"⟩,
    ⟨0x1EE64, 0x1EE64, "\u0647"⟩,
    ⟨0x1EE67, 0x1EE6A, "\u062D \u0637 \u064A \u0643"⟩,
    ⟨0x1EE6C, 0x1EE72, "\u0645 \u0646 \u0633 \u0639 \u0641 \u0635 \u0642"⟩,
    ⟨0x1EE74, 0x1EE77, "\u0634 \u062A \u062B \u062E"⟩,
    ⟨0x1EE79, 0x1EE7C, "\u0636 \u0638 \u063A \u066E"⟩,
    ⟨0x1EE7E, 0x1EE7E, "\u06A1"⟩,
    ⟨0x1EE80, 0x1EE88, "\u0627 \u0628 \u062C \u062F \u0647 \u0648 \u0632 \u062D \u0637"⟩,
    ⟨0x1EE89, 0x1EE89, "\u064A"⟩,
    ⟨0x1EE8B, 0x1EE93, "\u0644 \u0645 \u0646 \u0633 \u0639 \u0641 \u0635 \u0642 \u0631"⟩,
    ⟨0x1EE94, 0x1EE9B, "\u0634 \u062A \u062B \u062E \u0630 \u0636 \u0638 \u063A"⟩,
    ⟨0x1EEA1, 0x1EEA3, "\u0628 \u062C \u062F"⟩,
    ⟨0x1EEA5, 0x1EEA9, "\u0648 \u0632 \u062D \u0637 \u064A"⟩,
    ⟨0x1EEAB, 0x1EEB3, "\u0644 \u0645 \u0646 \u0633 \u0639 \u0641 \u0635 \u0642 \u0631"⟩,
    ⟨0x1EEB4, 0x1EEBB, "\u0634 \u062A \u062B \u062E \u0630 \u0636 \u0638 \u063A"⟩,
    ⟨0x1F101, 0x1F10A, "0, 1, 2, 3, 4, 5, 6, 7, 8, 9,"⟩,
    ⟨0x1F110, 0x1F11F, "(a) (b) (c) (d) (e) (f) (g) (h) (i) (j) (k) (l) (m) (n) (o) (p)"⟩,
    ⟨0x1F120, 0x1F12E, "(q) (r) (s) (t) (u) (v) (w) (x) (y) (z) 〔s〕 c r cd wz"⟩,
    ⟨0x1F14A, 0x1F14F, "hv mv sd ss ppv wc"⟩,
    ⟨0x1F16A, 0x1F16C, "mc md mr"⟩,
    ⟨0x1F190, 0x1F190, "dj"⟩,
    ⟨0x1F200, 0x1F202, "ほか ココ サ"⟩,
    ⟨0x1F210, 0x1F230, "手 字 双 デ 二 多 解 天 交 映 無 料 前 後 再 新 初 終 生 販 声 吹 演 投 捕 一 三 遊 左 中 右 指 走"⟩,
    ⟨0x1F231, 0x1F23B, "打 禁 空 合 満 有 月 申 割 営 配"⟩,
    ⟨0x1F240, 0x1F248, "〔本〕 〔三〕 〔二〕 〔安〕 〔点〕 〔打〕 〔盗〕 〔勝〕 〔敗〕"⟩,
    ⟨0x1F250, 0x1F251, "得 可"⟩,
    ⟨0x2F800, 0x2F820, "丽 丸 乁 𠄢 你 侮 侻 倂 偺 備 僧 像 㒞 𠘺 免 兔 兤 具 𠔜 㒹 內 再 𠕋 冗 冤 仌 冬 况 𩇟 凵 刃 㓟 刻"⟩,
    ⟨0x2F821, 0x2F841, "剆 割 剷 㔕 勇 勉 勤 勺 包 匆 北 卉 卑 博 即 卽 卿 卿 卿 𠨬 灰 及 叟 𠭣 叫 叱 吆 咞 吸 呈 周 咢 哶"⟩,
    ⟨0x2F842, 0x2F862, "唐 啓 啣 善 善 喙 喫 喳 嗂 圖 嘆 圗 噑 噴 切 壮 城 埴 堍 型 堲 報 墬 𡓤 売 壷 夆 多 夢 奢 𡚨 𡛪 姬"⟩,
    ⟨0x2F863, 0x2F883, "娛 娧 姘 婦 㛮 㛼 嬈 嬾 嬾 𡧈 寃 寘 寧 寳 𡬘 寿 将 当 尢 㞁 屠 屮 峀 岍 𡷤 嵃 𡷦 嵮 嵫 嵼 巡 巢 㠯"⟩,
    ⟨0x2F884, 0x2F8A4, "巽 帨 帽 幩 㡢 𢆃 㡼 庰 庳 庶 廊 𪎒 廾 𢌱 𢌱 舁 弢 弢 㣇 𣊸 𦇚 形 彫 㣣 徚 忍 志 忹 悁 㤺 㤜 悔 𢛔"⟩]

private def formRows8 : List FormRow := [
    ⟨0x2F8A5, 0x2F8C5, "惇 慈 慌 慎 慌 慺 憎 憲 憤 憯 懞 懲 懶 成 戛 扝 抱 拔 捐 𢬌 挽 拼 捨 掃 揤 𢯱 搢 揅 掩 㨮 摩 摾 撝"⟩,
    ⟨0x2F8C6, 0x2F8E6, "摷 㩬 敏 敬 𣀊 旣 書 晉 㬙 暑 㬈 㫤 冒 冕 最 暜 肭 䏙 朗 望 朡 杞 杓 𣏃 㭉 柺 枅 桒 梅 𣑭 梎 栟 椔"⟩,
    ⟨0x2F8E7, 0x2F907, "㮝 楂 榣 槪 檨 𣚣 櫛 㰘 次 𣢧 歔 㱎 歲 殟 殺 殻 𣪍 𡴋 𣫺 汎 𣲼 沿 泍 汧 洖 派 海 流 浩 浸 涅 𣴞 洴"⟩,
    ⟨0x2F908, 0x2F928, "港 湮 㴳 滋 滇 𣻑 淹 潮 𣽞 𣾎 濆 瀹 瀞 瀛 㶖 灊 災 灷 炭 𠔥 煅 𤉣 熜 𤎫 爨 爵 牐 𤘈 犀 犕 𤜵 𤠔 獺"⟩,
    ⟨0x2F929, 0x2F949, "王 㺬 玥 㺸 㺸 瑇 瑜 瑱 璅 瓊 㼛 甤 𤰶 甾 𤲒 異 𢆟 瘐 𤾡 𤾸 𥁄 㿼 䀈 直 𥃳 𥃲 𥄙 𥄳 眞 真 真 睊 䀹"⟩,
    ⟨0x2F94A, 0x2F96A, "瞋 䁆 䂖 𥐝 硎 碌 磌 䃣 𥘦 祖 𥚚 𥛅 福 秫 䄯 穀 穊 穏 𥥼 𥪧 𥪧 竮 䈂 𥮫 篆 築 䈧 𥲀 糒 䊠 糨 糣 紀"⟩,
    ⟨0x2F96B, 0x2F98B, "𥾆 絣 䌁 緇 縂 繅 䌴 𦈨 𦉇 䍙 𦋙 罺 𦌾 羕 翺 者 𦓚 𦔣 聠 𦖨 聰 𣍟 䏕 育 脃 䐋 脾 媵 𦞧 𦞵 𣎓 𣎜 舁"⟩,
    ⟨0x2F98C, 0x2F9AC, "舄 辞 䑫 芑 芋 芝 劳 花 芳 芽 苦 𦬼 若 茝 荣 莭 茣 莽 菧 著 荓 菊 菌 菜 𦰶 𦵫 𦳕 䔫 蓱 蓳 蔖 𧏊 蕤"⟩,
    ⟨0x2F9AD, 0x2F9CD, "𦼬 䕝 䕡 𦾱 𧃒 䕫 虐 虜 虧 虩 蚩 蚈 蜎 蛢 蝹 蜨 蝫 螆 䗗 蟡 蠁 䗹 衠 衣 𧙧 裗 裞 䘵 裺 㒻 𧢮 𧥦 䚾"⟩,
    ⟨0x2F9CE, 0x2F9EE, "䛇 誠 諭 變 豕 𧲨 貫 賁 贛 起 𧼯 𠠄 跋 趼 跰 𠣞 軔 輸 𨗒 𨗭 邔 郱 鄑 𨜮 鄛 鈸 鋗 鋘 鉼 鏹 鐕 𨯺 開"⟩,
    ⟨0x2F9EF, 0x2FA0F, "䦕 閷 𨵷 䧦 雃 嶲 霣 𩅅 𩈚 䩮 䩶 韠 𩐊 䪲 𩒖 頋 頋 頩 𩖶 飢 䬳 餩 馧 駂 駾 䯎 𩬰 鬒 鱀 鳽 䳎 䳭 鵧"⟩,
    ⟨0x2FA10, 0x2FA1D, "𪃎 䳸 𪄅 𪈎 𪊑 麻 䵖 黹 黾 鼅 鼏 鼖 鼻 𪘀"⟩]

def formRows : List FormRow :=
  formRows1 ++ formRows2 ++ formRows3 ++ formRows4 ++ formRows5 ++ formRows6 ++ formRows7 ++
    formRows8

def formRuns : List Text.CodeRun := [
    ⟨0x13A0, 0x13F5, 1, 0⟩, ⟨0x13F8, 0x13FD, 1, -8⟩, ⟨0x1D33, 0x1D3A, 1, -7372⟩,
    ⟨0x2074, 0x2079, 1, -8256⟩, ⟨0x2080, 0x2089, 1, -8272⟩, ⟨0x2460, 0x2468, 1, -9263⟩,
    ⟨0x24B6, 0x24CF, 1, -9301⟩, ⟨0x24D0, 0x24E9, 1, -9327⟩, ⟨0x313A, 0x313F, 1, -8074⟩,
    ⟨0x3145, 0x314E, 1, -8252⟩, ⟨0x314F, 0x3163, 1, -8174⟩, ⟨0x32E4, 0x32E9, 1, -538⟩,
    ⟨0x32F5, 0x32FA, 1, -525⟩, ⟨0xAB70, 0xABBF, 1, -38864⟩, ⟨0xFF01, 0xFF20, 1, -65248⟩,
    ⟨0xFF21, 0xFF3A, 1, -65216⟩, ⟨0xFF3B, 0xFF5E, 1, -65248⟩, ⟨0xFF85, 0xFF8A, 1, -52923⟩,
    ⟨0xFF96, 0xFF9B, 1, -52910⟩, ⟨0xFFAA, 0xFFAF, 1, -60922⟩, ⟨0xFFB5, 0xFFBE, 1, -61100⟩,
    ⟨0xFFC2, 0xFFC7, 1, -61025⟩, ⟨0xFFCA, 0xFFCF, 1, -61027⟩, ⟨0xFFD2, 0xFFD7, 1, -61029⟩,
    ⟨0x1CCD6, 0x1CCEF, 1, -117877⟩, ⟨0x1CCF0, 0x1CCF9, 1, -117952⟩,
    ⟨0x1D400, 0x1D419, 1, -119711⟩, ⟨0x1D41A, 0x1D433, 1, -119737⟩,
    ⟨0x1D434, 0x1D44D, 1, -119763⟩, ⟨0x1D44E, 0x1D454, 1, -119789⟩,
    ⟨0x1D456, 0x1D467, 1, -119789⟩, ⟨0x1D468, 0x1D481, 1, -119815⟩,
    ⟨0x1D482, 0x1D49B, 1, -119841⟩, ⟨0x1D4AE, 0x1D4B5, 1, -119867⟩,
    ⟨0x1D4BD, 0x1D4C3, 1, -119893⟩, ⟨0x1D4C5, 0x1D4CF, 1, -119893⟩,
    ⟨0x1D4D0, 0x1D4E9, 1, -119919⟩, ⟨0x1D4EA, 0x1D503, 1, -119945⟩,
    ⟨0x1D50D, 0x1D514, 1, -119971⟩, ⟨0x1D516, 0x1D51C, 1, -119971⟩,
    ⟨0x1D51E, 0x1D537, 1, -119997⟩, ⟨0x1D54A, 0x1D550, 1, -120023⟩,
    ⟨0x1D552, 0x1D56B, 1, -120049⟩, ⟨0x1D56C, 0x1D585, 1, -120075⟩,
    ⟨0x1D586, 0x1D59F, 1, -120101⟩, ⟨0x1D5A0, 0x1D5B9, 1, -120127⟩,
    ⟨0x1D5BA, 0x1D5D3, 1, -120153⟩, ⟨0x1D5D4, 0x1D5ED, 1, -120179⟩,
    ⟨0x1D5EE, 0x1D607, 1, -120205⟩, ⟨0x1D608, 0x1D621, 1, -120231⟩,
    ⟨0x1D622, 0x1D63B, 1, -120257⟩, ⟨0x1D63C, 0x1D655, 1, -120283⟩,
    ⟨0x1D656, 0x1D66F, 1, -120309⟩, ⟨0x1D670, 0x1D689, 1, -120335⟩,
    ⟨0x1D68A, 0x1D6A3, 1, -120361⟩, ⟨0x1D6A8, 0x1D6B8, 1, -119543⟩,
    ⟨0x1D6BA, 0x1D6C0, 1, -119543⟩, ⟨0x1D6C2, 0x1D6D2, 1, -119569⟩,
    ⟨0x1D6D4, 0x1D6DA, 1, -119569⟩, ⟨0x1D6E2, 0x1D6F2, 1, -119601⟩,
    ⟨0x1D6F4, 0x1D6FA, 1, -119601⟩, ⟨0x1D6FC, 0x1D70C, 1, -119627⟩,
    ⟨0x1D70E, 0x1D714, 1, -119627⟩, ⟨0x1D71C, 0x1D72C, 1, -119659⟩,
    ⟨0x1D72E, 0x1D734, 1, -119659⟩, ⟨0x1D736, 0x1D746, 1, -119685⟩,
    ⟨0x1D748, 0x1D74E, 1, -119685⟩, ⟨0x1D756, 0x1D766, 1, -119717⟩,
    ⟨0x1D768, 0x1D76E, 1, -119717⟩, ⟨0x1D770, 0x1D780, 1, -119743⟩,
    ⟨0x1D782, 0x1D788, 1, -119743⟩, ⟨0x1D790, 0x1D7A0, 1, -119775⟩,
    ⟨0x1D7A2, 0x1D7A8, 1, -119775⟩, ⟨0x1D7AA, 0x1D7BA, 1, -119801⟩,
    ⟨0x1D7BC, 0x1D7C2, 1, -119801⟩, ⟨0x1D7CE, 0x1D7D7, 1, -120734⟩,
    ⟨0x1D7D8, 0x1D7E1, 1, -120744⟩, ⟨0x1D7E2, 0x1D7EB, 1, -120754⟩,
    ⟨0x1D7EC, 0x1D7F5, 1, -120764⟩, ⟨0x1D7F6, 0x1D7FF, 1, -120774⟩,
    ⟨0x1E030, 0x1E038, 1, -121856⟩, ⟨0x1E03C, 0x1E046, 1, -121854⟩,
    ⟨0x1E051, 0x1E059, 1, -121889⟩, ⟨0x1E05F, 0x1E064, 1, -121884⟩,
    ⟨0x1F130, 0x1F149, 1, -127183⟩, ⟨0x1FBF0, 0x1FBF9, 1, -129984⟩]

namespace FormRow

def covers (r : FormRow) (n : Nat) : Bool :=
  r.first ≤ n && n ≤ r.last

def form? (r : FormRow) (n : Nat) : Option (List Char) :=
  (Text.split (· = ' ') r.forms.toList)[n - r.first]?

end FormRow

def unshown : CodeSet :=
  ⟨#[0xAD, 0xAE, 0x34F, 0x350, 0x115F, 0x1161, 0x17B4, 0x17B6, 0x180B, 0x1810, 0x200B, 0x200C,
    0x2060, 0x2065, 0x206A, 0x2070, 0x3164, 0x3165, 0xFE00, 0xFE10, 0xFEFF, 0xFF00, 0xFFA0, 0xFFA1,
    0x1BCA0, 0x1BCA4, 0x1D173, 0x1D17B, 0xE0100, 0xE01F0]⟩

def form? (c : Char) : Option (List Char) :=
  match formRows.find? (·.covers c.toNat) with
  | some row => row.form? c.toNat
  | none => (Text.imageIn? formRuns c).map ([·])

def fold (c : Char) : List Char :=
  if c.toNat < 128 then [c.toLower]
  else if unshown.contains c then []
  else (form? c).getD (Text.lowerChar c)

end FacetBrowser.Address.Folding
