/-
The scripts of Unicode, each with the code points that carry it.
-/
import Docket.Unicode.Property

namespace Docket.Unicode

/-- The property Script, value by value. -/
def scripts : List Property := [
  ⟨["adlm", "adlam"], [
    "2olc-23 4-9 4-1"]⟩,
  ⟨["aghb", "caucasianalbanian"], [
    "1flc-1f b"]⟩,
  ⟨["ahom"], [
    "1j40-q 2-e 4-m"]⟩,
  ⟨["arab", "arabic"], [
    "16o-4 1-5 1-d 1-2 1-v 1-9 b-p 1-2z 1-x 28-1b 6o-u 1-1 6-21 1-s 1bv4-36 g-a2 2-27 2-1h 7 w-f",
    "34-4 1-3q 31f-u 3i-2 181s-3 1-q 1-1 1 2 1-9 1-3 1 1 6 4 1 1 1-2 1-1 1 2 1 1 1 1 1-1 1 2-3",
    "1-6 1-3 1-3 1 1-9 1-g 5-2 1-4 1-g 1g-1"]⟩,
  ⟨["armi", "imperialaramaic"], [
    "1g74-l 1-8"]⟩,
  ⟨["armn", "armenian"], [
    "10x-11 2-1d 2-2 1chv-4"]⟩,
  ⟨["avst", "avestan"], [
    "1gqo-1h 3-6"]⟩,
  ⟨["bali", "balinese"], [
    "5c0-24 3-1a"]⟩,
  ⟨["bamu", "bamum"], [
    "www-2f 124o-fs"]⟩,
  ⟨["bass", "bassavah"], [
    "1zo0-t 2-5"]⟩,
  ⟨["batk", "batak"], [
    "5hc-1f 8-3"]⟩,
  ⟨["beng", "bengali"], [
    "1vk-3 1-7 2-1 2-l 1-6 1 3-3 2-8 2-1 2-3 8 4-1 1-4 2-o"]⟩,
  ⟨["bhks", "bhaiksuki"], [
    "1k3k-8 1-18 1-d a-s"]⟩,
  ⟨["bopo", "bopomofo"], [
    "kq-1 93t-16 34-v"]⟩,
  ⟨["brah", "brahmi"], [
    "1hq8-25 4-z 9"]⟩,
  ⟨["brai", "braille"], [
    "7wg-73"]⟩,
  ⟨["bugi", "buginese"], [
    "54w-r 2-1"]⟩,
  ⟨["buhd", "buhid"], [
    "4lc-j"]⟩,
  ⟨["cakm", "chakma"], [
    "1hxc-1g 1-h"]⟩,
  ⟨["cans", "canadianaboriginal"], [
    "3y8-hr fk-1x 1ewq-f"]⟩,
  ⟨["cari", "carian"], [
    "1f34-1c"]⟩,
  ⟨["cham"], [
    "xkw-1i 9-d 2-9 2-3"]⟩,
  ⟨["cher", "cherokee"], [
    "3vk-2d 2-5 twy-27"]⟩,
  ⟨["chrs", "chorasmian"], [
    "1ho0-r"]⟩,
  ⟨["copt", "coptic", "qaac"], [
    "rm-d 80g-37 5-6"]⟩,
  ⟨["cpmn", "cyprominoan"], [
    "1nyo-2q"]⟩,
  ⟨["cprt", "cypriot"], [
    "1g5c-5 2 1-17 1-1 3 2"]⟩,
  ⟨["cyrl", "cyrillic"], [
    "sg-3o 2-4o 4ls-8 4i 24 38n-v nr4-2n ham-1 18n4-1p x"]⟩,
  ⟨["deva", "devanagari"], [
    "1s0-28 4-e 2-p vhc-v mio-9"]⟩,
  ⟨["diak", "divesakuru"], [
    "1ji8-6 2 2-7 1-1 1-t 1-1 2-b 9-9"]⟩,
  ⟨["dogr", "dogra"], [
    "1jb4-1n"]⟩,
  ⟨["dsrt", "deseret"], [
    "1fcw-27"]⟩,
  ⟨["dupl", "duployan"], [
    "2fpc-2y 5-c 3-8 7-9 2-3"]⟩,
  ⟨["egyp", "egyptianhieroglyphs"], [
    "1o1s-ut"]⟩,
  ⟨["elba", "elbasan"], [
    "1fk0-13"]⟩,
  ⟨["elym", "elymaic"], [
    "1hpc-m"]⟩,
  ⟨["ethi", "ethiopic"], [
    "3k0-20 1-3 2-6 1 1-3 2-14 1-3 2-w 1-3 2-6 1 1-3 2-e 1-1k 1-3 2-1u 2-v 3-p 546-m 9-6 1-6 1-6",
    "1-6 1-6 1-6 1-6 1-6 opu-5 2-5 2-5 9-6 1-6 1qk1-6 1-3 1-1 1-e"]⟩,
  ⟨["geor", "georgian"], [
    "3a8-11 1 5 2-16 1-3 2a8-16 2-2 37k-11 1 5"]⟩,
  ⟨["glag", "glagolitic"], [
    "8ow-2n 2e1s-6 1-g 2-6 1-1 1-4"]⟩,
  ⟨["gong", "gunjalagondi"], [
    "1kdc-5 1-1 1-10 1-1 1-5 7-9"]⟩,
  ⟨["gonm", "masaramgondi"], [
    "1kao-6 1-1 1-17 3 1-1 1-8 8-9"]⟩,
  ⟨["goth", "gothic"], [
    "1f74-q"]⟩,
  ⟨["gran", "grantha"], [
    "1ibk-3 1-7 2-1 2-l 1-6 1-1 1-4 2-8 2-1 2-2 2 6 5-6 2-6 3-4"]⟩,
  ⟨["grek", "greek"], [
    "og-3 1-2 2-3 1 4 1 1-2 1 1-j 1-1q e-f 4yu-4 1e-4 4-4 2c 8w-l 2-5 2-11 2-5 2-7 1 1 1 1-u 2-1g",
    "1-e 1-d 2-5 1-i 2-2 1-8 87 rb2 gyi-26 h 155r-1x"]⟩,
  ⟨["gujr", "gujarati"], [
    "22p-2 1-8 1-2 1-l 1-6 1-1 1-4 2-9 1-2 1-2 2 f-3 2-b 7-6"]⟩,
  ⟨["guru", "gurmukhi"], [
    "1z5-2 1-5 4-1 2-l 1-6 1-1 1-1 1-1 2 1-4 4-1 2-2 3 7-3 1 7-g"]⟩,
  ⟨["hang", "hangul"], [
    "3cw-73 5ym-1 75-2l 35-u 1t-u nhd-s hv-8mb c-m 4-1c 7tw-u 3-5 2-5 2-5 2-2"]⟩,
  ⟨["hani", "han"], [
    "96o-p 1-2g c-5x 1b 1 p-8 e-3 qs-533 1s-g73 hkw-a5 2-2x n48-1 c-1 sge-wyn w-37d 6-65 2-4g1",
    "e-5rk 2e7-f1 15u-3t6 5-38f"]⟩,
  ⟨["hano", "hanunoo"], [
    "4kg-k"]⟩,
  ⟨["hatr", "hatran"], [
    "1gbk-i 1-1 5-4"]⟩,
  ⟨["hebr", "hebrew"], [
    "13l-1i 8-q 4-5 1cfc-p 1-4 1 1-1 1-1 1-9"]⟩,
  ⟨["hira", "hiragana"], [
    "9j5-2d 6-2 23q9-7y i t-2 crx"]⟩,
  ⟨["hluw", "anatolianhieroglyphs"], [
    "1s00-g6"]⟩,
  ⟨["hmng", "pahawhhmong"], [
    "1zpc-1x a-9 1-6 1-k 5-i"]⟩,
  ⟨["hmnp", "nyiakengpuachuehmong"], [
    "2n0g-18 3-d 2-9 4-1"]⟩,
  ⟨["hung", "oldhungarian"], [
    "1h1c-1e d-1e 7-5"]⟩,
  ⟨["ital", "olditalic"], [
    "1f5s-z 9-2"]⟩,
  ⟨["java", "javanese"], [
    "xhc-25 2-9 4-1"]⟩,
  ⟨["kali", "kayahli"], [
    "xds-19 1"]⟩,
  ⟨["kana", "katakana"], [
    "9lt-2h 2-2 6o-f 5s-1a 1-2f 14b2-9 1-18 ytu-3 1-6 1-1 1 7z-2 1e e-3"]⟩,
  ⟨["kawi"], [
    "1kow-g 1-14 3-r"]⟩,
  ⟨["khar", "kharoshthi"], [
    "1gjk-3 1-1 5-7 1-2 1-s 2-2 4-9 7-8"]⟩,
  ⟨["khmr", "khmer"], [
    "4n4-2l 2-9 6-9 di-v"]⟩,
  ⟨["khoj", "khojki"], [
    "1i4g-h 1-1a"]⟩,
  ⟨["kits", "khitansmallscript"], [
    "20o4 5cr-d1"]⟩,
  ⟨["knda", "kannada"], [
    "2gw-c 1-2 1-m 1-9 1-4 2-8 1-2 1-3 7-1 6-1 1-3 2-9 1-2"]⟩,
  ⟨["kthi", "kaithi"], [
    "1hts-1u a"]⟩,
  ⟨["lana", "taitham"], [
    "55s-1q 1-s 2-a 6-9 6-d"]⟩,
  ⟨["laoo", "lao"], [
    "2v5-1 1 1-4 1-n 1 1-m 2-4 1 1-6 1-9 2-3"]⟩,
  ⟨["latn", "latin"], [
    "1t-p 6-p 1b f 5-m 1-u 1-cg 13-4 55n-11 6-1c 5-3 5-c 1-1x 1t-73 a9 d g-c 3x-1 6 r h-14 253-v",
    "o82-2t 3-1r 5-1 1 1-4 o-d mo-16 1-8 1-3 fpy-6 t6-p 6-p 1lx-5 1-15 1-8 16it-u 6-5"]⟩,
  ⟨["lepc", "lepcha"], [
    "5j4-1j 3-e 3-2"]⟩,
  ⟨["limb", "limbu"], [
    "4xs-u 1-b 4-b 4 3-b"]⟩,
  ⟨["lina", "lineara"], [
    "1fr4-8m 9-l a-7"]⟩,
  ⟨["linb", "linearb"], [
    "1ekg-b 1-p 1-i 1-1 1-e 2-d y-3e"]⟩,
  ⟨["lisu"], [
    "wk0-1b o8g"]⟩,
  ⟨["lyci", "lycian"], [
    "1f28-s"]⟩,
  ⟨["lydi", "lydian"], [
    "1gdc-p 5"]⟩,
  ⟨["mahj", "mahajani"], [
    "1hzk-12"]⟩,
  ⟨["maka", "makasar"], [
    "1ko0-o"]⟩,
  ⟨["mand", "mandaic"], [
    "1mo-r 2"]⟩,
  ⟨["mani", "manichaean"], [
    "1gow-12 4-b"]⟩,
  ⟨["marc", "marchen"], [
    "1k6o-v 2-l 1-d"]⟩,
  ⟨["medf", "medefaidrin"], [
    "20cg-2i"]⟩,
  ⟨["mend", "mendekikakui"], [
    "2oe8-5g 2-f"]⟩,
  ⟨["merc", "meroiticcursive"], [
    "1ggw-n 4-j 2-19"]⟩,
  ⟨["mero", "meroitichieroglyphs"], [
    "1gg0-v"]⟩,
  ⟨["mlym", "malayalam"], [
    "2kg-c 1-2 1-1e 1-2 1-5 4-f 2-p"]⟩,
  ⟨["modi"], [
    "1iww-1w b-9"]⟩,
  ⟨["mong", "mongolian"], [
    "4qo-1 2 1-j 6-2g 7-16 1e45-c"]⟩,
  ⟨["mroo", "mro"], [
    "1zk0-u 1-9 4-1"]⟩,
  ⟨["mtei", "meeteimayek"], [
    "xr4-m 5l-19 2-9"]⟩,
  ⟨["mult", "multani"], [
    "1i80-6 1 1-3 1-e 1-a"]⟩,
  ⟨["mymr", "myanmar"], [
    "35s-4f u9s-u 2p-v"]⟩,
  ⟨["nagm", "nagmundari"], [
    "2nrk-15"]⟩,
  ⟨["nand", "nandinagari"], [
    "1jmo-7 2-19 2-a"]⟩,
  ⟨["narb", "oldnortharabian"], [
    "1gn4-v"]⟩,
  ⟨["nbat", "nabataean"], [
    "1g8w-u 8-8"]⟩,
  ⟨["newa"], [
    "1iio-2j 1-4"]⟩,
  ⟨["nkoo", "nko"], [
    "1j4-1m 2-2"]⟩,
  ⟨["nshu", "nushu"], [
    "20o1 cy6-az"]⟩,
  ⟨["ogam", "ogham"], [
    "4g0-s"]⟩,
  ⟨["olck", "olchiki"], [
    "5lc-1b"]⟩,
  ⟨["orkh", "oldturkic"], [
    "1gxs-20"]⟩,
  ⟨["orya", "oriya"], [
    "269-2 1-7 2-1 2-l 1-6 1-1 1-4 2-8 2-1 2-2 7-2 4-1 1-4 2-h"]⟩,
  ⟨["osge", "osage"], [
    "1fhs-z 4-z"]⟩,
  ⟨["osma", "osmanya"], [
    "1fgg-t 2-9"]⟩,
  ⟨["ougr", "olduyghur"], [
    "1hm8-p"]⟩,
  ⟨["palm", "palmyrene"], [
    "1g80-v"]⟩,
  ⟨["pauc", "paucinhau"], [
    "1juo-1k"]⟩,
  ⟨["perm", "oldpermic"], [
    "1f80-16"]⟩,
  ⟨["phag", "phagspa"], [
    "x8g-1j"]⟩,
  ⟨["phli", "inscriptionalpahlavi"], [
    "1gtc-i 5-7"]⟩,
  ⟨["phlp", "psalterpahlavi"], [
    "1gu8-h 7-3 c-6"]⟩,
  ⟨["phnx", "phoenician"], [
    "1gcg-r 3"]⟩,
  ⟨["plrd", "miao"], [
    "20hs-22 4-1k 7-g"]⟩,
  ⟨["prti", "inscriptionalparthian"], [
    "1gsg-l 2-7"]⟩,
  ⟨["rjng", "rejang"], [
    "xf4-z b"]⟩,
  ⟨["rohg", "hanifirohingya"], [
    "1h4w-13 8-9"]⟩,
  ⟨["runr", "runic"], [
    "4gw-22 3-a"]⟩,
  ⟨["samr", "samaritan"], [
    "1kw-19 2-e"]⟩,
  ⟨["sarb", "oldsoutharabian"], [
    "1gm8-v"]⟩,
  ⟨["saur", "saurashtra"], [
    "xa8-1x 8-b"]⟩,
  ⟨["sgnw", "signwriting"], [
    "2l8g-i3 f-4 1-e"]⟩,
  ⟨["shaw", "shavian"], [
    "1ff4-1b"]⟩,
  ⟨["shrd", "sharada"], [
    "1i0w-2n"]⟩,
  ⟨["sidd", "siddham"], [
    "1itc-1h 2-11"]⟩,
  ⟨["sind", "khudawadi"], [
    "1i9c-1m 5-9"]⟩,
  ⟨["sinh", "sinhala"], [
    "2o1-2 1-h 3-n 1-8 1 2-6 3 4-5 1 1-7 6-9 2-2 1fcc-j"]⟩,
  ⟨["sogd", "sogdian"], [
    "1hkg-15"]⟩,
  ⟨["sogo", "oldsogdian"], [
    "1hj4-13"]⟩,
  ⟨["sora", "sorasompeng"], [
    "1hw0-o 7-9"]⟩,
  ⟨["soyo", "soyombo"], [
    "1jrk-2a"]⟩,
  ⟨["sund", "sundanese"], [
    "5fk-1r 74-7"]⟩,
  ⟨["sylo", "sylotinagri"], [
    "x6o-18"]⟩,
  ⟨["syrc", "syriac"], [
    "1ds-d 1-1n 2-2 7k-a"]⟩,
  ⟨["tagb", "tagbanwa"], [
    "4m8-c 1-2 1-1"]⟩,
  ⟨["takr", "takri"], [
    "1j0g-1l 6-9"]⟩,
  ⟨["tale", "taile"], [
    "500-t 2-4"]⟩,
  ⟨["talu", "newtailue"], [
    "51c-17 4-p 6-a 3-1"]⟩,
  ⟨["taml", "tamil"], [
    "29u-1 1-5 3-2 1-3 3-1 1 1-1 3-1 3-2 3-b 4-4 3-2 1-3 2 6 e-k 1ih1-1d d"]⟩,
  ⟨["tang", "tangut"], [
    "20o0 v-4qf 8-lb e8-8"]⟩,
  ⟨["tavt", "taiviet"], [
    "xog-1u o-4"]⟩,
  ⟨["telu", "telugu"], [
    "2dc-c 1-2 1-m 1-f 2-8 1-2 1-3 7-1 1-2 2 2-3 2-9 7-8"]⟩,
  ⟨["tfng", "tifinagh"], [
    "8xc-1j 7-1 e"]⟩,
  ⟨["tglg", "tagalog"], [
    "4jk-l 9"]⟩,
  ⟨["thaa", "thaana"], [
    "1hc-1d"]⟩,
  ⟨["thai"], [
    "2rl-1l 5-r"]⟩,
  ⟨["tibt", "tibetan"], [
    "2yo-1z 1-z 4-12 1-z 1-e 1-6 4-1"]⟩,
  ⟨["tirh", "tirhuta"], [
    "1im8-1z 8-9"]⟩,
  ⟨["tnsa", "tangsa"], [
    "1zlc-26 1-9"]⟩,
  ⟨["toto"], [
    "2nbk-u"]⟩,
  ⟨["ugar", "ugaritic"], [
    "1f9c-t 1"]⟩,
  ⟨["vaii", "vai"], [
    "wlc-8b"]⟩,
  ⟨["vith", "vithkuqi"], [
    "1fn4-a 1-e 1-6 1-1 1-a 1-e 1-6 1-1"]⟩,
  ⟨["wara", "warangciti"], [
    "1jfk-2a c"]⟩,
  ⟨["wcho", "wancho"], [
    "2ncw-1l 5"]⟩,
  ⟨["xpeo", "oldpersian"], [
    "1fa8-z 4-d"]⟩,
  ⟨["xsux", "cuneiform"], [
    "1kw0-pl 2u-32 1-4 b-5f"]⟩,
  ⟨["yezi", "yezidi"], [
    "1hfk-15 1-2 2-1"]⟩,
  ⟨["yiii", "yi"], [
    "vls-wc 3-1i"]⟩,
  ⟨["zanb", "zanabazarsquare"], [
    "1jpc-1z"]⟩,
  ⟨["zinh", "inherited", "qaai"], [
    "lc-33 7p-1 ck-a q kg-3 3ff-u e9-2 1-c 1-6 4 6 3-1 5i-1r ek-1 5e-w 309-3 2z-1 14kl-f g-d r3",
    "6a 38a 1138-19 2-m f4-2 h-7 2-6 u-3 h45u-6n"]⟩,
  ⟨["zyyy", "common"], [
    "0-1s q-5 q-1a 1-e 1-4 n v ch-12 5-4 2-j 38 9 6 1 hp 6 e 3 w 4c ec 3l-1 yh b9-3 82 167-2 1z-1",
    "5n-1 1 y5 d 7-3 1-5 1-2 2 lh-b 2-2e 1-a 3-a 1-e h-w 1r-11 1-2 2-5 1-q 1-g 15-2 4-ie p-a l-pr",
    "74-hf 2-v 1-2w e8-2l b6-b 4-4 1 1-o f-7 4-3 2j-1 3 2i-1 43-f w-z 1o-1r v-28 1b 2g-4n 534-1r",
    "hkw-x 2u-2 4l-9 6s 4g az e-1 g5u-1 5s-9 m-y 1-i 1-3 43 1-v q-5 q-a a 19-1 1s-6 1-6 a-4 76-2",
    "4-18 3-8 28-c 1f-18 6c-q 10o4-3 3os-37 1o-6t a-12 2-1p 3-g 8-1 7-t 4-1o 5x-j c-j c-2e 9-o",
    "3r-2c 1-1y 1-1 2 2-1 2-3 1-b 1 1-6 1-1s 1-3 2-7 1-6 1-r 1-3 1-4 1 3-6 1-9f 2-83 2-1d 41d-1v",
    "24-1o jm-17 4-2r c-e 2-e 1-e 1-10 a-4t 1k-p 1-1 d-17 4-8 7-1 e-5 4a-rb 4-g 3-c 3-3a 4-2m 6-b",
    "4 f-b 4-1j 8-9 6-13 8-t 2-1 26-9f c-d 2-c 3-8 7-19 1-6 8-d 4-8 7-8 7-42 1-1i 11-9 gvlz u-2n"]⟩]

end Docket.Unicode
