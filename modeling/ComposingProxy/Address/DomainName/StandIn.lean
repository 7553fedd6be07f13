import ComposingProxy.Text.Letter
import ComposingProxy.Text.Search

/-!
# What stands for a character in a domain name

Domain names are compared without case and without the differences between forms of one
letter, so each character that is not itself in their usual form is replaced: a capital by
its small letter, a ligature by its letters, a figure in a circle by the figure. Some
characters are left out and some are in no name at all. The tables are about characters
that are not composed of others; they give the mapping of UTS 46. What stands for a text with
a space is left out, because a space is in no name.
-/

namespace ComposingProxy.DomainName

open Text (inRanges)

/-- First and last code point of a run, the code point that stands for the first one, and the
distance between two members, which is also that between what stands for them. -/
def shifts : List (Nat × Nat × Nat × Nat) :=
  [(0x246, 0x24E, 0x247, 2), (0x391, 0x3A1, 0x3B1, 1), (0x3A3, 0x3A9, 0x3C3, 1),
   (0x3D8, 0x3EE, 0x3D9, 2), (0x402, 0x406, 0x452, 2), (0x408, 0x40B, 0x458, 1),
   (0x410, 0x418, 0x430, 1), (0x41A, 0x42F, 0x43A, 1), (0x460, 0x474, 0x461, 2),
   (0x478, 0x480, 0x479, 2), (0x48A, 0x4BE, 0x48B, 2), (0x4C3, 0x4CD, 0x4C4, 2),
   (0x4FA, 0x52E, 0x4FB, 2), (0x531, 0x556, 0x561, 1), (0x10A0, 0x10C5, 0x2D00, 1),
   (0x13F8, 0x13FD, 0x13F0, 1), (0x1C90, 0x1CBA, 0x10D0, 1), (0x1D33, 0x1D3A, 0x67, 1),
   (0x1DAE, 0x1DB1, 0x272, 1), (0x1EFA, 0x1EFE, 0x1EFB, 2), (0x2074, 0x2079, 0x34, 1),
   (0x2080, 0x2089, 0x30, 1), (0x2096, 0x2099, 0x6B, 1), (0x2135, 0x2138, 0x5D0, 1),
   (0x2460, 0x2468, 0x31, 1), (0x24B6, 0x24CF, 0x61, 1), (0x24D0, 0x24E9, 0x61, 1),
   (0x2C00, 0x2C2F, 0x2C30, 1), (0x2C67, 0x2C6B, 0x2C68, 2), (0x2C80, 0x2CE2, 0x2C81, 2),
   (0x313A, 0x313F, 0x11B0, 1), (0x3145, 0x314E, 0x1109, 1), (0x314F, 0x3163, 0x1161, 1),
   (0x3178, 0x317C, 0x112B, 1), (0x3269, 0x326D, 0x110E, 1), (0x32E4, 0x32E9, 0x30CA, 1),
   (0x32EE, 0x32F2, 0x30DE, 1), (0x32F5, 0x32FA, 0x30E8, 1), (0x32FB, 0x32FE, 0x30EF, 1),
   (0xA640, 0xA66C, 0xA641, 2), (0xA680, 0xA69A, 0xA681, 2), (0xA722, 0xA72E, 0xA723, 2),
   (0xA732, 0xA76E, 0xA733, 2), (0xA77E, 0xA786, 0xA77F, 2), (0xA796, 0xA7A8, 0xA797, 2),
   (0xA7B4, 0xA7C2, 0xA7B5, 2), (0xA7CC, 0xA7DA, 0xA7CD, 2), (0xAB70, 0xABBF, 0x13A0, 1),
   (0xFE41, 0xFE44, 0x300C, 1), (0xFF01, 0xFF20, 0x21, 1), (0xFF21, 0xFF3A, 0x61, 1),
   (0xFF3B, 0xFF5E, 0x5B, 1), (0xFF85, 0xFF8A, 0x30CA, 1), (0xFF8F, 0xFF93, 0x30DE, 1),
   (0xFF96, 0xFF9B, 0x30E8, 1), (0xFFAA, 0xFFAF, 0x11B0, 1), (0xFFB5, 0xFFBE, 0x1109, 1),
   (0xFFC2, 0xFFC7, 0x1161, 1), (0xFFCA, 0xFFCF, 0x1167, 1), (0xFFD2, 0xFFD7, 0x116D, 1),
   (0xFFE9, 0xFFEC, 0x2190, 1), (0x10400, 0x10427, 0x10428, 1), (0x104B0, 0x104D3, 0x104D8, 1),
   (0x10570, 0x1057A, 0x10597, 1), (0x1057C, 0x1058A, 0x105A3, 1), (0x1058C, 0x10592, 0x105B3, 1),
   (0x10C80, 0x10CB2, 0x10CC0, 1), (0x10D50, 0x10D65, 0x10D70, 1), (0x118A0, 0x118BF, 0x118C0, 1),
   (0x16E40, 0x16E5F, 0x16E60, 1), (0x16EA0, 0x16EB8, 0x16EBB, 1), (0x1CCD6, 0x1CCEF, 0x61, 1),
   (0x1CCF0, 0x1CCF9, 0x30, 1), (0x1D400, 0x1D419, 0x61, 1), (0x1D41A, 0x1D433, 0x61, 1),
   (0x1D434, 0x1D44D, 0x61, 1), (0x1D44E, 0x1D454, 0x61, 1), (0x1D456, 0x1D467, 0x69, 1),
   (0x1D468, 0x1D481, 0x61, 1), (0x1D482, 0x1D49B, 0x61, 1), (0x1D4A9, 0x1D4AC, 0x6E, 1),
   (0x1D4AE, 0x1D4B5, 0x73, 1), (0x1D4B6, 0x1D4B9, 0x61, 1), (0x1D4BD, 0x1D4C3, 0x68, 1),
   (0x1D4C5, 0x1D4CF, 0x70, 1), (0x1D4D0, 0x1D4E9, 0x61, 1), (0x1D4EA, 0x1D503, 0x61, 1),
   (0x1D507, 0x1D50A, 0x64, 1), (0x1D50D, 0x1D514, 0x6A, 1), (0x1D516, 0x1D51C, 0x73, 1),
   (0x1D51E, 0x1D537, 0x61, 1), (0x1D53B, 0x1D53E, 0x64, 1), (0x1D540, 0x1D544, 0x69, 1),
   (0x1D54A, 0x1D550, 0x73, 1), (0x1D552, 0x1D56B, 0x61, 1), (0x1D56C, 0x1D585, 0x61, 1),
   (0x1D586, 0x1D59F, 0x61, 1), (0x1D5A0, 0x1D5B9, 0x61, 1), (0x1D5BA, 0x1D5D3, 0x61, 1),
   (0x1D5D4, 0x1D5ED, 0x61, 1), (0x1D5EE, 0x1D607, 0x61, 1), (0x1D608, 0x1D621, 0x61, 1),
   (0x1D622, 0x1D63B, 0x61, 1), (0x1D63C, 0x1D655, 0x61, 1), (0x1D656, 0x1D66F, 0x61, 1),
   (0x1D670, 0x1D689, 0x61, 1), (0x1D68A, 0x1D6A3, 0x61, 1), (0x1D6A8, 0x1D6B8, 0x3B1, 1),
   (0x1D6BA, 0x1D6C0, 0x3C3, 1), (0x1D6C2, 0x1D6D2, 0x3B1, 1), (0x1D6D4, 0x1D6DA, 0x3C3, 1),
   (0x1D6E2, 0x1D6F2, 0x3B1, 1), (0x1D6F4, 0x1D6FA, 0x3C3, 1), (0x1D6FC, 0x1D70C, 0x3B1, 1),
   (0x1D70E, 0x1D714, 0x3C3, 1), (0x1D71C, 0x1D72C, 0x3B1, 1), (0x1D72E, 0x1D734, 0x3C3, 1),
   (0x1D736, 0x1D746, 0x3B1, 1), (0x1D748, 0x1D74E, 0x3C3, 1), (0x1D756, 0x1D766, 0x3B1, 1),
   (0x1D768, 0x1D76E, 0x3C3, 1), (0x1D770, 0x1D780, 0x3B1, 1), (0x1D782, 0x1D788, 0x3C3, 1),
   (0x1D790, 0x1D7A0, 0x3B1, 1), (0x1D7A2, 0x1D7A8, 0x3C3, 1), (0x1D7AA, 0x1D7BA, 0x3B1, 1),
   (0x1D7BC, 0x1D7C2, 0x3C3, 1), (0x1D7CE, 0x1D7D7, 0x30, 1), (0x1D7D8, 0x1D7E1, 0x30, 1),
   (0x1D7E2, 0x1D7EB, 0x30, 1), (0x1D7EC, 0x1D7F5, 0x30, 1), (0x1D7F6, 0x1D7FF, 0x30, 1),
   (0x1E030, 0x1E038, 0x430, 1), (0x1E03C, 0x1E046, 0x43E, 1), (0x1E051, 0x1E059, 0x430, 1),
   (0x1E05F, 0x1E064, 0x443, 1), (0x1E900, 0x1E921, 0x1E922, 1), (0x1EE0A, 0x1EE0D, 0x643, 1),
   (0x1EE2A, 0x1EE2D, 0x643, 1), (0x1F130, 0x1F149, 0x61, 1), (0x1FBF0, 0x1FBF9, 0x30, 1)]

/-- The first code point of a run, the distance between two members, and the character that
stands for each. -/
def letters : List (Nat × Nat × String) :=
  [(0xAA, 1, "a"), (0xB2, 1, "23"), (0xB5, 1, "μ"), (0xB9, 1, "1o"), (0xC6, 1, "æ"),
   (0xD0, 1, "ð"), (0xD8, 1, "ø"), (0xDE, 1, "þ"), (0x110, 1, "đ"), (0x126, 1, "ħ"),
   (0x141, 1, "ł"), (0x14A, 1, "ŋ"), (0x152, 1, "œ"), (0x166, 1, "ŧ"), (0x17F, 1, "s"),
   (0x181, 1, "ɓƃ"), (0x184, 1, "ƅ"), (0x186, 1, "ɔƈ"), (0x189, 1, "ɖɗƌ"), (0x18E, 1, "ǝəɛƒ"),
   (0x193, 1, "ɠɣ"), (0x196, 1, "ɩɨƙ"), (0x19C, 1, "ɯɲ"), (0x19F, 1, "ɵ"), (0x1A2, 2, "ƣƥ"),
   (0x1A6, 1, "ʀƨ"), (0x1A9, 1, "ʃ"), (0x1AC, 2, "ƭʈ"), (0x1B1, 1, "ʊʋƴ"), (0x1B5, 1, "ƶ"),
   (0x1B7, 1, "ʒƹ"), (0x1BC, 1, "ƽ"), (0x1E4, 1, "ǥ"), (0x1F6, 1, "ƕƿ"), (0x21C, 1, "ȝ"),
   (0x220, 2, "ƞȣȥ"), (0x23A, 1, "ⱥȼ"), (0x23D, 1, "ƚⱦ"), (0x241, 1, "ɂ"), (0x243, 1, "ƀʉʌ"),
   (0x2B0, 1, "hɦjrɹɻʁwy"), (0x2E0, 1, "ɣlsxʕ"), (0x345, 1, "ι"), (0x370, 2, "ͱͳ"),
   (0x376, 1, "ͷ"), (0x37F, 1, "ϳ"), (0x3CF, 1, "ϗβθυ"), (0x3D5, 1, "φπ"), (0x3F0, 1, "κρσ"),
   (0x3F4, 1, "θε"), (0x3F7, 1, "ϸ"), (0x3F9, 1, "σϻ"), (0x3FD, 1, "ͻͼͽ"), (0x405, 1, "ѕ"),
   (0x40F, 1, "џ"), (0x4C0, 1, "ӏ"), (0x4D4, 1, "ӕ"), (0x4D8, 1, "ә"), (0x4E0, 1, "ӡ"),
   (0x4E8, 1, "ө"), (0x4F6, 1, "ӷ"), (0xF0C, 1, "་"), (0x10C7, 1, "ⴧ"), (0x10CD, 1, "ⴭ"),
   (0x10FC, 1, "ნ"), (0x1C80, 1, "вдосттъѣꙋᲊ"), (0x1CBD, 1, "ჽჾჿ"), (0x1D2C, 1, "aæb"),
   (0x1D30, 1, "deǝ"), (0x1D3C, 1, "oȣprtuwaɐɑᴂbdeəɛɜg"),
   (0x1D4F, 1, "kmŋoɔᴖᴗptuᴝɯvᴥβγδφχiruvβγρφχ"), (0x1D78, 1, "н"),
   (0x1D9B, 1, "ɒcɕðɜfɟɡɥɨɩɪᵻʝɭᶅʟɱɰ"), (0x1DB2, 1, "ɸʂʃƫʉʊᴜʋʌzʐʑʒθ"), (0x1E9E, 1, "ß"),
   (0x2011, 1, "‐"), (0x2070, 1, "0i"), (0x207A, 1, "+−=()n"), (0x208A, 1, "+−=()"),
   (0x2090, 1, "aeoxəh"), (0x209A, 1, "pst"), (0x2102, 1, "c"), (0x2107, 1, "ɛ"),
   (0x210A, 1, "ghhhhħiill"), (0x2115, 1, "n"), (0x2119, 1, "pqrrr"), (0x2124, 1, "z"),
   (0x2128, 1, "z"), (0x212C, 1, "bc"), (0x212F, 1, "eefⅎmo"), (0x2139, 1, "i"),
   (0x213C, 1, "πγγπ∑"), (0x2145, 1, "ddeij"), (0x2160, 1, "i"), (0x2164, 1, "v"),
   (0x2169, 1, "x"), (0x216C, 1, "lcdmi"), (0x2174, 1, "v"), (0x2179, 1, "x"),
   (0x217C, 1, "lcdm"), (0x2183, 1, "ↄ"), (0x24EA, 1, "0"), (0x2C60, 1, "ⱡ"), (0x2C62, 1, "ɫᵽɽ"),
   (0x2C6D, 1, "ɑɱɐɒ"), (0x2C72, 1, "ⱳ"), (0x2C75, 1, "ⱶ"), (0x2C7C, 1, "jvȿɀ"),
   (0x2CEB, 2, "ⳬⳮ"), (0x2CF2, 1, "ⳳ"), (0x2D6F, 1, "ⵡ"), (0x2E9F, 1, "母"), (0x2EF3, 1, "龟"),
   (0x2F00, 1, "一丨丶丿乙亅二亠人儿入八冂冖冫几凵刀力勹匕匚匸十卜卩厂厶又口囗土士夂夊夕大女子宀寸小尢尸屮山巛工己巾干幺广廴廾弋弓彐彡彳心戈戶手支攴"),
   (0x2F42, 1, "文斗斤方无日曰月木欠止歹殳毋比毛氏气水火爪父爻爿片牙牛犬玄玉瓜瓦甘生用田疋疒癶白皮皿目矛矢石示禸禾穴立竹米糸缶网羊羽老而耒耳聿肉臣自"),
   (0x2F84, 1, "至臼舌舛舟艮色艸虍虫血行衣襾見角言谷豆豕豸貝赤走足身車辛辰辵邑酉釆里金長門阜隶隹雨靑非面革韋韭音頁風飛食首香馬骨高髟鬥鬯鬲鬼魚鳥鹵鹿"),
   (0x2FC6, 1, "麥麻黃黍黑黹黽鼎鼓鼠鼻齊齒龍龜龠"), (0x3002, 1, "."), (0x3036, 1, "〒"), (0x3038, 1, "十卄卅"),
   (0x3131, 1, "ᄀᄁᆪᄂᆬᆭᄃᄄᄅ"), (0x3140, 1, "ᄚᄆᄇᄈᄡ"), (0x3165, 1, "ᄔᄕᇇᇈᇌᇎᇓᇗᇙᄜᇝᇟᄝᄞᄠᄢᄣᄧᄩ"),
   (0x317D, 1, "ᄲᄶᅀᅇᅌᇱᇲᅗᅘᅙᆄᆅᆈᆑᆒᆔᆞᆡ"), (0x3192, 1, "一二三四上中下甲乙丙丁天地人"), (0x3244, 1, "問幼文箏"),
   (0x3260, 1, "ᄀᄂᄃᄅᄆᄇᄉᄋᄌ"), (0x326E, 1, "가나다라마바사아자차카타파하"), (0x327E, 1, "우"),
   (0x3280, 1, "一二三四五六七八九十月火水木金土日株有社名特財祝労秘男女適優印注項休写正上中下左右医宗学監企資協夜"),
   (0x32D0, 1, "アイウエオカキクケコサシスセソタチツテト"), (0x32EA, 1, "ヒフヘホ"), (0x32F3, 1, "ヤユ"), (0xA69C, 1, "ъь"),
   (0xA770, 1, "ꝯ"), (0xA779, 2, "ꝺꝼᵹ"), (0xA78B, 2, "ꞌɥ"), (0xA790, 2, "ꞑꞓ"),
   (0xA7AA, 1, "ɦɜɡɬɪ"), (0xA7B0, 1, "ʞʇʝꭓ"), (0xA7C4, 1, "ꞔʂᶎꟈ"), (0xA7C9, 2, "ꟊɤ"),
   (0xA7DC, 1, "ƛ"), (0xA7F1, 1, "scfqꟶ"), (0xA7F8, 1, "ħœ"), (0xAB5C, 1, "ꜧꬷɫꭒ"),
   (0xAB69, 1, "ʍ"), (0xFB20, 1, "\u05E2\u05D0\u05D3\u05D4\u05DB\u05DC\u05DD\u05E8\u05EA+"),
   (0xFB50, 1, "\u0671\u0671\u067B\u067B\u067B\u067B\u067E\u067E\u067E\u067E\u0680"),
   (0xFB5B, 1, "\u0680\u0680\u0680\u067A\u067A\u067A\u067A\u067F\u067F\u067F\u067F"),
   (0xFB66, 1, "\u0679\u0679\u0679\u0679\u06A4\u06A4\u06A4\u06A4\u06A6\u06A6\u06A6"),
   (0xFB71, 1, "\u06A6\u0684\u0684\u0684\u0684\u0683\u0683\u0683\u0683\u0686\u0686"),
   (0xFB7C, 1, "\u0686\u0686\u0687\u0687\u0687\u0687\u068D\u068D\u068C\u068C\u068E"),
   (0xFB87, 1, "\u068E\u0688\u0688\u0698\u0698\u0691\u0691\u06A9\u06A9\u06A9\u06A9"),
   (0xFB92, 1, "\u06AF\u06AF\u06AF\u06AF\u06B3\u06B3\u06B3\u06B3\u06B1\u06B1\u06B1"),
   (0xFB9D, 1, "\u06B1\u06BA\u06BA\u06BB\u06BB\u06BB\u06BB\u06C0\u06C0\u06C1\u06C1"),
   (0xFBA8, 1, "\u06C1\u06C1\u06BE\u06BE\u06BE\u06BE\u06D2\u06D2\u06D3\u06D3"),
   (0xFBD3, 1, "\u06AD\u06AD\u06AD\u06AD\u06C7\u06C7\u06C6\u06C6\u06C8\u06C8"),
   (0xFBDE, 1, "\u06CB\u06CB\u06C5\u06C5\u06C9\u06C9\u06D0\u06D0\u06D0\u06D0\u0649"),
   (0xFBE9, 1, "\u0649"), (0xFBFC, 1, "\u06CC\u06CC\u06CC\u06CC"), (0xFE10, 1, ",、"),
   (0xFE13, 1, ":;!?〖〗"), (0xFE31, 1, "—–__()\x7b\x7d〔〕【】《》〈〉"), (0xFE47, 1, "[]"),
   (0xFE4D, 1, "___,、"), (0xFE54, 1, ";:?!—()\x7b\x7d〔〕#&*+-<>="), (0xFE68, 1, "\\$%@"),
   (0xFE80, 1, "\u0621\u0622\u0622\u0623\u0623\u0624\u0624\u0625\u0625\u0626\u0626"),
   (0xFE8B, 1, "\u0626\u0626\u0627\u0627\u0628\u0628\u0628\u0628\u0629\u0629\u062A"),
   (0xFE96, 1, "\u062A\u062A\u062A\u062B\u062B\u062B\u062B\u062C\u062C\u062C\u062C"),
   (0xFEA1, 1, "\u062D\u062D\u062D\u062D\u062E\u062E\u062E\u062E\u062F\u062F\u0630"),
   (0xFEAC, 1, "\u0630\u0631\u0631\u0632\u0632\u0633\u0633\u0633\u0633\u0634\u0634"),
   (0xFEB7, 1, "\u0634\u0634\u0635\u0635\u0635\u0635\u0636\u0636\u0636\u0636\u0637"),
   (0xFEC2, 1, "\u0637\u0637\u0637\u0638\u0638\u0638\u0638\u0639\u0639\u0639\u0639"),
   (0xFECD, 1, "\u063A\u063A\u063A\u063A\u0641\u0641\u0641\u0641\u0642\u0642\u0642"),
   (0xFED8, 1, "\u0642\u0643\u0643\u0643\u0643\u0644\u0644\u0644\u0644\u0645\u0645"),
   (0xFEE3, 1, "\u0645\u0645\u0646\u0646\u0646\u0646\u0647\u0647\u0647\u0647\u0648"),
   (0xFEEE, 1, "\u0648\u0649\u0649\u064A\u064A\u064A\u064A"),
   (0xFF5F, 1, "⦅⦆.「」、・ヲァィゥェォャュョッーアイウエオカキクケコサシスセソタチツテト"), (0xFF8B, 1, "ヒフヘホ"), (0xFF94, 1, "ヤユ"),
   (0xFF9C, 1, "ワン\u3099\u309A"), (0xFFA1, 1, "ᄀᄁᆪᄂᆬᆭᄃᄄᄅ"), (0xFFB0, 1, "ᄚᄆᄇᄈᄡ"),
   (0xFFDA, 1, "ᅳᅴᅵ"), (0xFFE0, 1, "¢£¬"), (0xFFE4, 1, "¦¥₩"), (0xFFE8, 1, "│"),
   (0xFFED, 1, "■○"), (0x10594, 1, "𐖻𐖼"), (0x10781, 1, "ːˑæʙɓ"),
   (0x10787, 1, "ʣꭦʥʤɖɗᶑɘɞʩɤɢɠʛħʜɧʄʪʫɬ𝼄ꞎɮ𝼅ʎ𝼆øɶɷqɺ𝼈ɽɾʀʨʦꭧʧʈⱱ"), (0x107B2, 1, "ʏʡʢʘǀǁǂ𝼊𝼞"),
   (0x1D49C, 1, "a"), (0x1D49E, 1, "cd"), (0x1D4A2, 1, "g"), (0x1D4A5, 1, "jk"),
   (0x1D4BB, 1, "f"), (0x1D504, 1, "ab"), (0x1D538, 1, "ab"), (0x1D546, 1, "o"),
   (0x1D6A4, 1, "ıȷ"), (0x1D6B9, 1, "θ"), (0x1D6C1, 1, "∇"), (0x1D6D3, 1, "σ"),
   (0x1D6DB, 1, "∂εθκφρπ"), (0x1D6F3, 1, "θ"), (0x1D6FB, 1, "∇"), (0x1D70D, 1, "σ"),
   (0x1D715, 1, "∂εθκφρπ"), (0x1D72D, 1, "θ"), (0x1D735, 1, "∇"), (0x1D747, 1, "σ"),
   (0x1D74F, 1, "∂εθκφρπ"), (0x1D767, 1, "θ"), (0x1D76F, 1, "∇"), (0x1D781, 1, "σ"),
   (0x1D789, 1, "∂εθκφρπ"), (0x1D7A1, 1, "θ"), (0x1D7A9, 1, "∇"), (0x1D7BB, 1, "σ"),
   (0x1D7C3, 1, "∂εθκφρπϝϝ"), (0x1E039, 1, "клм"), (0x1E047, 1, "ыэюꚉәіјөүӏ"),
   (0x1E05A, 1, "клопс"), (0x1E065, 1, "ъыґіѕџҫꙑұ"), (0x1EE00, 1, "\u0627\u0628\u062C\u062F"),
   (0x1EE05, 1, "\u0648\u0632\u062D\u0637\u064A"),
   (0x1EE0E, 1, "\u0633\u0639\u0641\u0635\u0642\u0631\u0634\u062A\u062B\u062E\u0630"),
   (0x1EE19, 1, "\u0636\u0638\u063A\u066E\u06BA\u06A1\u066F"), (0x1EE21, 1, "\u0628\u062C"),
   (0x1EE24, 1, "\u0647"), (0x1EE27, 2, "\u062D\u064A"),
   (0x1EE2E, 1, "\u0633\u0639\u0641\u0635\u0642"), (0x1EE34, 1, "\u0634\u062A\u062B\u062E"),
   (0x1EE39, 2, "\u0636\u063A"), (0x1EE42, 1, "\u062C"), (0x1EE47, 2, "\u062D\u064A\u0644"),
   (0x1EE4D, 1, "\u0646\u0633\u0639"), (0x1EE51, 1, "\u0635\u0642"), (0x1EE54, 1, "\u0634"),
   (0x1EE57, 2, "\u062E\u0636\u063A\u06BA\u066F"), (0x1EE61, 1, "\u0628\u062C"),
   (0x1EE64, 1, "\u0647"), (0x1EE67, 1, "\u062D\u0637\u064A\u0643"),
   (0x1EE6C, 1, "\u0645\u0646\u0633\u0639\u0641\u0635\u0642"),
   (0x1EE74, 1, "\u0634\u062A\u062B\u062E"), (0x1EE79, 1, "\u0636\u0638\u063A\u066E"),
   (0x1EE7E, 1, "\u06A1"),
   (0x1EE80, 1, "\u0627\u0628\u062C\u062F\u0647\u0648\u0632\u062D\u0637\u064A"),
   (0x1EE8B, 1, "\u0644\u0645\u0646\u0633\u0639\u0641\u0635\u0642\u0631\u0634\u062A"),
   (0x1EE96, 1, "\u062B\u062E\u0630\u0636\u0638\u063A"), (0x1EEA1, 1, "\u0628\u062C\u062F"),
   (0x1EEA5, 1, "\u0648\u0632\u062D\u0637\u064A"),
   (0x1EEAB, 1, "\u0644\u0645\u0646\u0633\u0639\u0641\u0635\u0642\u0631\u0634\u062A"),
   (0x1EEB6, 1, "\u062B\u062E\u0630\u0636\u0638\u063A"), (0x1F12B, 1, "cr"), (0x1F202, 1, "サ"),
   (0x1F210, 1, "手字双デ二多解天交映無料前後再新初終生販声吹演投捕一三遊左中右指走打禁空合満有月申割営配"), (0x1F250, 1, "得可")]

/-- The first code point of a run, the distance between two members, and the text that stands for
each, with blanks between. -/
def phrases : List (Nat × Nat × String) :=
  [(0xBC, 1, "1⁄4 1⁄2 3⁄4"), (0x132, 1, "ij ij"), (0x13F, 1, "l· l·"), (0x149, 1, "ʼn"),
   (0x1C4, 1, "dž dž dž lj lj lj nj nj nj"), (0x1F1, 1, "dz dz dz"), (0x587, 1, "եւ"),
   (0x675, 1, "\u0627\u0674 \u0648\u0674 \u06C7\u0674 \u064A\u0674"), (0xE33, 1, "\u0E4Dา"),
   (0xEB3, 1, "\u0ECDາ"), (0xEDC, 1, "ຫນ ຫມ"),
   (0xF77, 2, "\u0FB2\u0F71\u0F80 \u0FB3\u0F71\u0F80"), (0x1E9A, 1, "aʾ"), (0x2033, 1, "′′ ′′′"),
   (0x2036, 1, "‵‵ ‵‵‵"), (0x203C, 1, "!!"), (0x2047, 1, "?? ?! !?"), (0x2057, 1, "′′′′"),
   (0x20A8, 1, "rs"), (0x2100, 1, "a/c a/s"), (0x2103, 1, "°c"), (0x2105, 1, "c/o c/u"),
   (0x2109, 1, "°f"), (0x2116, 1, "no"), (0x2120, 1, "sm tel tm"), (0x213B, 1, "fax"),
   (0x2150, 1, "1⁄7 1⁄9 1⁄10 1⁄3 2⁄3 1⁄5 2⁄5 3⁄5 4⁄5 1⁄6 5⁄6 1⁄8 3⁄8 5⁄8 7⁄8 1⁄"),
   (0x2161, 1, "ii iii iv"), (0x2165, 1, "vi vii viii ix"), (0x216A, 1, "xi xii"),
   (0x2171, 1, "ii iii iv"), (0x2175, 1, "vi vii viii ix"), (0x217A, 1, "xi xii"),
   (0x2189, 1, "0⁄3"), (0x222C, 1, "∫∫ ∫∫∫"), (0x222F, 1, "∮∮ ∮∮∮"),
   (0x2469, 1, "10 11 12 13 14 15 16 17 18 19 20 (1) (2) (3) (4) (5) (6) (7) (8)"),
   (0x247C, 1, "(9) (10) (11) (12) (13) (14) (15) (16) (17) (18) (19) (20)"),
   (0x249C, 1, "(a) (b) (c) (d) (e) (f) (g) (h) (i) (j) (k) (l) (m) (n) (o) (p)"),
   (0x24AC, 1, "(q) (r) (s) (t) (u) (v) (w) (x) (y) (z)"), (0x2A0C, 1, "∫∫∫∫"),
   (0x2A74, 1, "::= == ==="), (0x309F, 1, "より"), (0x30FF, 1, "コト"),
   (0x3200, 1, "(ᄀ) (ᄂ) (ᄃ) (ᄅ) (ᄆ) (ᄇ) (ᄉ) (ᄋ) (ᄌ) (ᄎ) (ᄏ) (ᄐ) (ᄑ) (ᄒ) (가) (나)"),
   (0x3210, 1, "(다) (라) (마) (바) (사) (아) (자) (차) (카) (타) (파) (하) (주) (오전) (오후)"),
   (0x3220, 1, "(一) (二) (三) (四) (五) (六) (七) (八) (九) (十) (月) (火) (水) (木) (金) (土)"),
   (0x3230, 1, "(日) (株) (有) (社) (名) (特) (財) (祝) (労) (代) (呼) (学) (監) (企) (資) (協)"),
   (0x3240, 1, "(祭) (休) (自) (至)"),
   (0x3250, 1, "pte 21 22 23 24 25 26 27 28 29 30 31 32 33 34 35"), (0x327C, 1, "참고 주의"),
   (0x32B1, 1, "36 37 38 39 40 41 42 43 44 45 46 47 48 49 50 1月 2月 3月 4月 5月 6月 7月"),
   (0x32C7, 1, "8月 9月 10月 11月 12月 hg erg ev ltd"),
   (0x32FF, 1, "令和 アパート アルファ アンペア アール イニング インチ ウォン エスクード エーカー オンス オーム カイリ カラット"),
   (0x330D, 1, "カロリー ガロン ガンマ ギガ ギニー キュリー ギルダー キロ キログラム キロメートル キロワット グラム グラムトン"),
   (0x331A, 1, "クルゼイロ クローネ ケース コルナ コーポ サイクル サンチーム シリング センチ セント ダース デシ ドル トン ナノ ノット"),
   (0x332A, 1, "ハイツ パーセント パーツ バーレル ピアストル ピクル ピコ ビル ファラッド フィート ブッシェル フラン ヘクタール ペソ"),
   (0x3338, 1, "ペニヒ ヘルツ ペンス ページ ベータ ポイント ボルト ホン ポンド ホール ホーン マイクロ マイル マッハ マルク マンション"),
   (0x3348, 1, "ミクロン ミリ ミリバール メガ メガトン メートル ヤード ヤール ユアン リットル リラ ルピー ルーブル レム レントゲン"),
   (0x3357, 1, "ワット 0点 1点 2点 3点 4点 5点 6点 7点 8点 9点 10点 11点 12点 13点 14点 15点 16点 17点"),
   (0x336A, 1, "18点 19点 20点 21点 22点 23点 24点 hpa da au bar ov pc dm dm2 dm3 iu 平成"),
   (0x337C, 1, "昭和 大正 明治 株式会社 pa na μa ma ka kb mb gb cal kcal pf nf μf μg mg kg"),
   (0x3390, 1, "hz khz mhz ghz thz μl ml dl kl fm nm μm mm cm km mm2 cm2 m2 km2"),
   (0x33A3, 1, "mm3 cm3 m3 km3 m∕s m∕s2 pa kpa mpa gpa rad rad∕s rad∕s2 ps ns μs"),
   (0x33B3, 1, "ms pv nv μv mv kv mv pw nw μw mw kw mw kω mω"), (0x33C3, 1, "bq cc cd c∕kg"),
   (0x33C8, 1, "db gy ha hp in kk km kt lm ln log lx mb mil mol ph"),
   (0x33D9, 1, "ppm pr sr sv wb v∕m a∕m 1日 2日 3日 4日 5日 6日 7日 8日 9日 10日 11日 12日 13日"),
   (0x33ED, 1, "14日 15日 16日 17日 18日 19日 20日 21日 22日 23日 24日 25日 26日 27日 28日 29日"),
   (0x33FD, 1, "30日 31日 gal"), (0xFB00, 1, "ff fi fl ffi ffl st st"),
   (0xFB13, 1, "մն մե մի վն մխ"), (0xFB4F, 1, "\u05D0\u05DC"), (0xFBDD, 1, "\u06C7\u0674"),
   (0xFBEA, 1, "\u0626\u0627 \u0626\u0627 \u0626\u06D5 \u0626\u06D5 \u0626\u0648"),
   (0xFBEF, 1, "\u0626\u0648 \u0626\u06C7 \u0626\u06C7 \u0626\u06C6 \u0626\u06C6"),
   (0xFBF4, 1, "\u0626\u06C8 \u0626\u06C8 \u0626\u06D0 \u0626\u06D0 \u0626\u06D0"),
   (0xFBF9, 1, "\u0626\u0649 \u0626\u0649 \u0626\u0649"),
   (0xFC00, 1, "\u0626\u062C \u0626\u062D \u0626\u0645 \u0626\u0649 \u0626\u064A"),
   (0xFC05, 1, "\u0628\u062C \u0628\u062D \u0628\u062E \u0628\u0645 \u0628\u0649"),
   (0xFC0A, 1, "\u0628\u064A \u062A\u062C \u062A\u062D \u062A\u062E \u062A\u0645"),
   (0xFC0F, 1, "\u062A\u0649 \u062A\u064A \u062B\u062C \u062B\u0645 \u062B\u0649"),
   (0xFC14, 1, "\u062B\u064A \u062C\u062D \u062C\u0645 \u062D\u062C \u062D\u0645"),
   (0xFC19, 1, "\u062E\u062C \u062E\u062D \u062E\u0645 \u0633\u062C \u0633\u062D"),
   (0xFC1E, 1, "\u0633\u062E \u0633\u0645 \u0635\u062D \u0635\u0645 \u0636\u062C"),
   (0xFC23, 1, "\u0636\u062D \u0636\u062E \u0636\u0645 \u0637\u062D \u0637\u0645"),
   (0xFC28, 1, "\u0638\u0645 \u0639\u062C \u0639\u0645 \u063A\u062C \u063A\u0645"),
   (0xFC2D, 1, "\u0641\u062C \u0641\u062D \u0641\u062E \u0641\u0645 \u0641\u0649"),
   (0xFC32, 1, "\u0641\u064A \u0642\u062D \u0642\u0645 \u0642\u0649 \u0642\u064A"),
   (0xFC37, 1, "\u0643\u0627 \u0643\u062C \u0643\u062D \u0643\u062E \u0643\u0644"),
   (0xFC3C, 1, "\u0643\u0645 \u0643\u0649 \u0643\u064A \u0644\u062C \u0644\u062D"),
   (0xFC41, 1, "\u0644\u062E \u0644\u0645 \u0644\u0649 \u0644\u064A \u0645\u062C"),
   (0xFC46, 1, "\u0645\u062D \u0645\u062E \u0645\u0645 \u0645\u0649 \u0645\u064A"),
   (0xFC4B, 1, "\u0646\u062C \u0646\u062D \u0646\u062E \u0646\u0645 \u0646\u0649"),
   (0xFC50, 1, "\u0646\u064A \u0647\u062C \u0647\u0645 \u0647\u0649 \u0647\u064A"),
   (0xFC55, 1, "\u064A\u062C \u064A\u062D \u064A\u062E \u064A\u0645 \u064A\u0649"),
   (0xFC5A, 1, "\u064A\u064A \u0630\u0670 \u0631\u0670 \u0649\u0670"),
   (0xFC64, 1, "\u0626\u0631 \u0626\u0632 \u0626\u0645 \u0626\u0646 \u0626\u0649"),
   (0xFC69, 1, "\u0626\u064A \u0628\u0631 \u0628\u0632 \u0628\u0645 \u0628\u0646"),
   (0xFC6E, 1, "\u0628\u0649 \u0628\u064A \u062A\u0631 \u062A\u0632 \u062A\u0645"),
   (0xFC73, 1, "\u062A\u0646 \u062A\u0649 \u062A\u064A \u062B\u0631 \u062B\u0632"),
   (0xFC78, 1, "\u062B\u0645 \u062B\u0646 \u062B\u0649 \u062B\u064A \u0641\u0649"),
   (0xFC7D, 1, "\u0641\u064A \u0642\u0649 \u0642\u064A \u0643\u0627 \u0643\u0644"),
   (0xFC82, 1, "\u0643\u0645 \u0643\u0649 \u0643\u064A \u0644\u0645 \u0644\u0649"),
   (0xFC87, 1, "\u0644\u064A \u0645\u0627 \u0645\u0645 \u0646\u0631 \u0646\u0632"),
   (0xFC8C, 1, "\u0646\u0645 \u0646\u0646 \u0646\u0649 \u0646\u064A \u0649\u0670"),
   (0xFC91, 1, "\u064A\u0631 \u064A\u0632 \u064A\u0645 \u064A\u0646 \u064A\u0649"),
   (0xFC96, 1, "\u064A\u064A \u0626\u062C \u0626\u062D \u0626\u062E \u0626\u0645"),
   (0xFC9B, 1, "\u0626\u0647 \u0628\u062C \u0628\u062D \u0628\u062E \u0628\u0645"),
   (0xFCA0, 1, "\u0628\u0647 \u062A\u062C \u062A\u062D \u062A\u062E \u062A\u0645"),
   (0xFCA5, 1, "\u062A\u0647 \u062B\u0645 \u062C\u062D \u062C\u0645 \u062D\u062C"),
   (0xFCAA, 1, "\u062D\u0645 \u062E\u062C \u062E\u0645 \u0633\u062C \u0633\u062D"),
   (0xFCAF, 1, "\u0633\u062E \u0633\u0645 \u0635\u062D \u0635\u062E \u0635\u0645"),
   (0xFCB4, 1, "\u0636\u062C \u0636\u062D \u0636\u062E \u0636\u0645 \u0637\u062D"),
   (0xFCB9, 1, "\u0638\u0645 \u0639\u062C \u0639\u0645 \u063A\u062C \u063A\u0645"),
   (0xFCBE, 1, "\u0641\u062C \u0641\u062D \u0641\u062E \u0641\u0645 \u0642\u062D"),
   (0xFCC3, 1, "\u0642\u0645 \u0643\u062C \u0643\u062D \u0643\u062E \u0643\u0644"),
   (0xFCC8, 1, "\u0643\u0645 \u0644\u062C \u0644\u062D \u0644\u062E \u0644\u0645"),
   (0xFCCD, 1, "\u0644\u0647 \u0645\u062C \u0645\u062D \u0645\u062E \u0645\u0645"),
   (0xFCD2, 1, "\u0646\u062C \u0646\u062D \u0646\u062E \u0646\u0645 \u0646\u0647"),
   (0xFCD7, 1, "\u0647\u062C \u0647\u0645 \u0647\u0670 \u064A\u062C \u064A\u062D"),
   (0xFCDC, 1, "\u064A\u062E \u064A\u0645 \u064A\u0647 \u0626\u0645 \u0626\u0647"),
   (0xFCE1, 1, "\u0628\u0645 \u0628\u0647 \u062A\u0645 \u062A\u0647 \u062B\u0645"),
   (0xFCE6, 1, "\u062B\u0647 \u0633\u0645 \u0633\u0647 \u0634\u0645 \u0634\u0647"),
   (0xFCEB, 1, "\u0643\u0644 \u0643\u0645 \u0644\u0645 \u0646\u0645 \u0646\u0647"),
   (0xFCF0, 1, "\u064A\u0645 \u064A\u0647 \u0640\u064E\u0651 \u0640\u064F\u0651"),
   (0xFCF4, 1, "\u0640\u0650\u0651 \u0637\u0649 \u0637\u064A \u0639\u0649"),
   (0xFCF8, 1, "\u0639\u064A \u063A\u0649 \u063A\u064A \u0633\u0649 \u0633\u064A"),
   (0xFCFD, 1, "\u0634\u0649 \u0634\u064A \u062D\u0649 \u062D\u064A \u062C\u0649"),
   (0xFD02, 1, "\u062C\u064A \u062E\u0649 \u062E\u064A \u0635\u0649 \u0635\u064A"),
   (0xFD07, 1, "\u0636\u0649 \u0636\u064A \u0634\u062C \u0634\u062D \u0634\u062E"),
   (0xFD0C, 1, "\u0634\u0645 \u0634\u0631 \u0633\u0631 \u0635\u0631 \u0636\u0631"),
   (0xFD11, 1, "\u0637\u0649 \u0637\u064A \u0639\u0649 \u0639\u064A \u063A\u0649"),
   (0xFD16, 1, "\u063A\u064A \u0633\u0649 \u0633\u064A \u0634\u0649 \u0634\u064A"),
   (0xFD1B, 1, "\u062D\u0649 \u062D\u064A \u062C\u0649 \u062C\u064A \u062E\u0649"),
   (0xFD20, 1, "\u062E\u064A \u0635\u0649 \u0635\u064A \u0636\u0649 \u0636\u064A"),
   (0xFD25, 1, "\u0634\u062C \u0634\u062D \u0634\u062E \u0634\u0645 \u0634\u0631"),
   (0xFD2A, 1, "\u0633\u0631 \u0635\u0631 \u0636\u0631 \u0634\u062C \u0634\u062D"),
   (0xFD2F, 1, "\u0634\u062E \u0634\u0645 \u0633\u0647 \u0634\u0647 \u0637\u0645"),
   (0xFD34, 1, "\u0633\u062C \u0633\u062D \u0633\u062E \u0634\u062C \u0634\u062D"),
   (0xFD39, 1, "\u0634\u062E \u0637\u0645 \u0638\u0645 \u0627\u064B \u0627\u064B"),
   (0xFD50, 1, "\u062A\u062C\u0645 \u062A\u062D\u062C \u062A\u062D\u062C"),
   (0xFD53, 1, "\u062A\u062D\u0645 \u062A\u062E\u0645 \u062A\u0645\u062C"),
   (0xFD56, 1, "\u062A\u0645\u062D \u062A\u0645\u062E \u062C\u0645\u062D"),
   (0xFD59, 1, "\u062C\u0645\u062D \u062D\u0645\u064A \u062D\u0645\u0649"),
   (0xFD5C, 1, "\u0633\u062D\u062C \u0633\u062C\u062D \u0633\u062C\u0649"),
   (0xFD5F, 1, "\u0633\u0645\u062D \u0633\u0645\u062D \u0633\u0645\u062C"),
   (0xFD62, 1, "\u0633\u0645\u0645 \u0633\u0645\u0645 \u0635\u062D\u062D"),
   (0xFD65, 1, "\u0635\u062D\u062D \u0635\u0645\u0645 \u0634\u062D\u0645"),
   (0xFD68, 1, "\u0634\u062D\u0645 \u0634\u062C\u064A \u0634\u0645\u062E"),
   (0xFD6B, 1, "\u0634\u0645\u062E \u0634\u0645\u0645 \u0634\u0645\u0645"),
   (0xFD6E, 1, "\u0636\u062D\u0649 \u0636\u062E\u0645 \u0636\u062E\u0645"),
   (0xFD71, 1, "\u0637\u0645\u062D \u0637\u0645\u062D \u0637\u0645\u0645"),
   (0xFD74, 1, "\u0637\u0645\u064A \u0639\u062C\u0645 \u0639\u0645\u0645"),
   (0xFD77, 1, "\u0639\u0645\u0645 \u0639\u0645\u0649 \u063A\u0645\u0645"),
   (0xFD7A, 1, "\u063A\u0645\u064A \u063A\u0645\u0649 \u0641\u062E\u0645"),
   (0xFD7D, 1, "\u0641\u062E\u0645 \u0642\u0645\u062D \u0642\u0645\u0645"),
   (0xFD80, 1, "\u0644\u062D\u0645 \u0644\u062D\u064A \u0644\u062D\u0649"),
   (0xFD83, 1, "\u0644\u062C\u062C \u0644\u062C\u062C \u0644\u062E\u0645"),
   (0xFD86, 1, "\u0644\u062E\u0645 \u0644\u0645\u062D \u0644\u0645\u062D"),
   (0xFD89, 1, "\u0645\u062D\u062C \u0645\u062D\u0645 \u0645\u062D\u064A"),
   (0xFD8C, 1, "\u0645\u062C\u062D \u0645\u062C\u0645 \u0645\u062E\u062C"),
   (0xFD8F, 1, "\u0645\u062E\u0645"),
   (0xFD92, 1, "\u0645\u062C\u062E \u0647\u0645\u062C \u0647\u0645\u0645"),
   (0xFD95, 1, "\u0646\u062D\u0645 \u0646\u062D\u0649 \u0646\u062C\u0645"),
   (0xFD98, 1, "\u0646\u062C\u0645 \u0646\u062C\u0649 \u0646\u0645\u064A"),
   (0xFD9B, 1, "\u0646\u0645\u0649 \u064A\u0645\u0645 \u064A\u0645\u0645"),
   (0xFD9E, 1, "\u0628\u062E\u064A \u062A\u062C\u064A \u062A\u062C\u0649"),
   (0xFDA1, 1, "\u062A\u062E\u064A \u062A\u062E\u0649 \u062A\u0645\u064A"),
   (0xFDA4, 1, "\u062A\u0645\u0649 \u062C\u0645\u064A \u062C\u062D\u0649"),
   (0xFDA7, 1, "\u062C\u0645\u0649 \u0633\u062E\u0649 \u0635\u062D\u064A"),
   (0xFDAA, 1, "\u0634\u062D\u064A \u0636\u062D\u064A \u0644\u062C\u064A"),
   (0xFDAD, 1, "\u0644\u0645\u064A \u064A\u062D\u064A \u064A\u062C\u064A"),
   (0xFDB0, 1, "\u064A\u0645\u064A \u0645\u0645\u064A \u0642\u0645\u064A"),
   (0xFDB3, 1, "\u0646\u062D\u064A \u0642\u0645\u062D \u0644\u062D\u0645"),
   (0xFDB6, 1, "\u0639\u0645\u064A \u0643\u0645\u064A \u0646\u062C\u062D"),
   (0xFDB9, 1, "\u0645\u062E\u064A \u0644\u062C\u0645 \u0643\u0645\u0645"),
   (0xFDBC, 1, "\u0644\u062C\u0645 \u0646\u062C\u062D \u062C\u062D\u064A"),
   (0xFDBF, 1, "\u062D\u062C\u064A \u0645\u062C\u064A \u0641\u0645\u064A"),
   (0xFDC2, 1, "\u0628\u062D\u064A \u0643\u0645\u0645 \u0639\u062C\u0645"),
   (0xFDC5, 1, "\u0635\u0645\u0645 \u0633\u062E\u064A \u0646\u062C\u064A"),
   (0xFDF0, 1, "\u0635\u0644\u06D2 \u0642\u0644\u06D2 \u0627\u0644\u0644\u0647"),
   (0xFDF3, 1, "\u0627\u0643\u0628\u0631 \u0645\u062D\u0645\u062F"),
   (0xFDF5, 1, "\u0635\u0644\u0639\u0645 \u0631\u0633\u0648\u0644"),
   (0xFDF7, 1, "\u0639\u0644\u064A\u0647 \u0648\u0633\u0644\u0645"),
   (0xFDF9, 1, "\u0635\u0644\u0649"), (0xFDFC, 1, "\u0631\u06CC\u0627\u0644"),
   (0xFE71, 1, "\u0640\u064B"),
   (0xFE77, 2, "\u0640\u064E \u0640\u064F \u0640\u0650 \u0640\u0651 \u0640\u0652"),
   (0xFEF5, 1, "\u0644\u0622 \u0644\u0622 \u0644\u0623 \u0644\u0623 \u0644\u0625"),
   (0xFEFA, 1, "\u0644\u0625 \u0644\u0627 \u0644\u0627"),
   (0x1F101, 1, "0, 1, 2, 3, 4, 5, 6, 7, 8, 9,"),
   (0x1F110, 1, "(a) (b) (c) (d) (e) (f) (g) (h) (i) (j) (k) (l) (m) (n) (o) (p)"),
   (0x1F120, 1, "(q) (r) (s) (t) (u) (v) (w) (x) (y) (z) 〔s〕"), (0x1F12D, 1, "cd wz"),
   (0x1F14A, 1, "hv mv sd ss ppv wc"), (0x1F16A, 1, "mc md mr"), (0x1F190, 1, "dj"),
   (0x1F200, 1, "ほか ココ"), (0x1F240, 1, "〔本〕 〔三〕 〔二〕 〔安〕 〔点〕 〔打〕 〔盗〕 〔勝〕 〔敗〕")]

/-- Characters that are left out. -/
def leftOut : List (Nat × Nat) :=
  [(0xAD, 0xAD), (0x34F, 0x34F), (0x115F, 0x1160), (0x17B4, 0x17B5), (0x180B, 0x180F),
   (0x200B, 0x200B), (0x2060, 0x2064), (0x206A, 0x206F), (0x3164, 0x3164), (0xFE00, 0xFE0F),
   (0xFEFF, 0xFEFF), (0xFFA0, 0xFFA0), (0x1BCA0, 0x1BCA3), (0x1D173, 0x1D17A), (0xE0100, 0xE01EF)]

/-- The character that the member of a run stands for. -/
def shifted? (c : Char) : Option Char :=
  (shifts.find? fun (first, last, _, step) =>
      first ≤ c.toNat && c.toNat ≤ last && (c.toNat - first) % step == 0).map
    fun (first, _, target, _) => Char.ofNat (c.toNat - first + target)

/-- The place of a character in a run, if it is one of its members or comes after them. -/
def placeIn? (first step : Nat) (c : Char) : Option Nat :=
  if first ≤ c.toNat && (c.toNat - first) % step == 0 then some ((c.toNat - first) / step) else none

/-- The letter that stands for a character. -/
def letter? (c : Char) : Option Char :=
  letters.findSome? fun (first, step, targets) =>
    (placeIn? first step c).bind fun place => targets.toList[place]?

/-- The text of several characters that stands for a character. -/
def phrase? (c : Char) : Option (List Char) :=
  phrases.findSome? fun (first, step, targets) =>
    (placeIn? first step c).bind fun place => (Text.splitAt ' ' targets.toList)[place]?

end ComposingProxy.DomainName
