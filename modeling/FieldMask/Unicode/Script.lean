import FieldMask.Unicode.Packed

/-!
# `FieldMask.Unicode.Script`: scripts

Every code point belongs to one script; some are also used with further ones. `script?` finds the
code points of a script by its long or short name.
-/

set_option autoImplicit false

namespace FieldMask.Unicode

/-- A script: its names, its own code points, and those that it shares with other scripts where
they differ from its own. -/
structure Script where
  names : List String
  own : List String
  extended : Option (List String)

/-- The scripts. -/
def scripts : List Script := [
  ⟨["Adlm", "Adlam"],
    ["1e900 4b 4 9 4 1"],
    some ["61f 0 20 0 1e2bf 4b 4 9 4 1"]⟩,
  ⟨["Aghb", "Caucasian_Albanian"],
    ["10530 33 b 0"],
    none⟩,
  ⟨["Ahom"],
    ["11700 1a 2 e 4 16"],
    none⟩,
  ⟨["Arab", "Arabic"],
    ["600 4 1 5 1 d 1 2 1 1f 1 9 b 19 1 6b 1 21 50 2f f0 1e 1 1 6 49 1 1c f250 72 10 16a 2 4f 2",
     "35 7 0 20 f 70 4 1 86 f63 1e 7e 2 df00 3 1 1a 1 1 1 0 2 0 1 9 1 3 1 0 1 0 6 0 4 0 1 0 1 0",
     "1 2 1 1 1 0 2 0 1 0 1 0 1 0 1 0 1 1 1 0 2 3 1 6 1 3 1 3 1 0 1 9 1 10 5 2 1 4 1 10 34 1"],
    some ["600 4 1 d6 1 21 50 2f f0 1e 1 1 6 49 1 1c f250 72 10 1bc 2 35 7 0 20 f 70 4 1 86 3e3",
          "1b b64 1e 7e 2 df00 3 1 1a 1 1 1 0 2 0 1 9 1 3 1 0 1 0 6 0 4 0 1 0 1 0 1 2 1 1 1 0 2",
          "0 1 0 1 0 1 0 1 0 1 1 1 0 2 3 1 6 1 3 1 3 1 0 1 9 1 10 5 2 1 4 1 10 34 1"]⟩,
  ⟨["Armi", "Imperial_Aramaic"],
    ["10840 15 1 8"],
    none⟩,
  ⟨["Armn", "Armenian"],
    ["531 25 2 31 2 2 f583 4"],
    none⟩,
  ⟨["Avst", "Avestan"],
    ["10b00 35 3 6"],
    none⟩,
  ⟨["Bali", "Balinese"],
    ["1b00 4c 3 2e"],
    none⟩,
  ⟨["Bamu", "Bamum"],
    ["a6a0 57 c108 238"],
    none⟩,
  ⟨["Bass", "Bassa_Vah"],
    ["16ad0 1d 2 5"],
    none⟩,
  ⟨["Batk", "Batak"],
    ["1bc0 33 8 3"],
    none⟩,
  ⟨["Beng", "Bengali"],
    ["980 3 1 7 2 1 2 15 1 6 1 0 3 3 2 8 2 1 2 3 8 0 4 1 1 4 2 18"],
    some ["951 1 11 1 1a 3 1 7 2 1 2 15 1 6 1 0 3 3 2 8 2 1 2 3 8 0 4 1 1 4 2 18 12d1 0 1 0 2 1",
          "1 0 8 0 8 0 2 0 4 0 2 2 8bf9 0"]⟩,
  ⟨["Bhks", "Bhaiksuki"],
    ["11c00 8 1 2c 1 d a 1c"],
    none⟩,
  ⟨["Bopo", "Bopomofo"],
    ["2ea 1 2e19 2a 70 1f"],
    some ["2ea 1 2d15 2 4 9 1 c a 3 2 0 6 0 c3 0 9 2a 70 1f cc85 1 11a 4"]⟩,
  ⟨["Brah", "Brahmi"],
    ["11000 4d 4 23 9 0"],
    none⟩,
  ⟨["Brai", "Braille"],
    ["2800 ff"],
    none⟩,
  ⟨["Bugi", "Buginese"],
    ["1a00 1b 2 1"],
    some ["1a00 1b 2 1 8faf 0"]⟩,
  ⟨["Buhd", "Buhid"],
    ["1740 13"],
    some ["1735 1 9 13"]⟩,
  ⟨["Cakm", "Chakma"],
    ["11100 34 1 11"],
    some ["9e6 9 650 9 100b6 34 1 11"]⟩,
  ⟨["Cans", "Canadian_Aboriginal"],
    ["1400 27f 230 45 101ba f"],
    none⟩,
  ⟨["Cari", "Carian"],
    ["102a0 30"],
    none⟩,
  ⟨["Cham"],
    ["aa00 36 9 d 2 9 2 3"],
    none⟩,
  ⟨["Cher", "Cherokee"],
    ["13a0 55 2 5 9772 4f"],
    none⟩,
  ⟨["Chrs", "Chorasmian"],
    ["10fb0 1b"],
    none⟩,
  ⟨["Copt", "Coptic", "Qaac"],
    ["3e2 d 2890 73 5 6"],
    some ["3e2 d 2890 73 5 6 d5e0 1b"]⟩,
  ⟨["Cpmn", "Cypro_Minoan"],
    ["12f90 62"],
    some ["10100 1 2e8e 62"]⟩,
  ⟨["Cprt", "Cypriot"],
    ["10800 5 2 0 1 2b 1 1 3 0 2 0"],
    some ["10100 2 4 2c 3 8 6c0 5 2 0 1 2b 1 1 3 0 2 0"]⟩,
  ⟨["Cyrl", "Cyrillic"],
    ["400 84 2 a8 1750 8 a2 0 4c 0 1067 1f 7840 5f 578e 1 e200 3d 21 0"],
    some ["400 12f 1750 8 a2 0 4c 0 7f 0 fe7 1f 43 0 77fc 5f 578e 1 e200 3d 21 0"]⟩,
  ⟨["Deva", "Devanagari"],
    ["900 50 4 e 2 19 9f60 1f 7200 9"],
    some ["900 52 2 2a 1350 26 1 1 3f6 0 873f 9 a6 1f 7200 9"]⟩,
  ⟨["Diak", "Dives_Akuru"],
    ["11900 6 2 0 2 7 1 1 1 1d 1 1 2 b 9 9"],
    none⟩,
  ⟨["Dogr", "Dogra"],
    ["11800 3b"],
    some ["964 b 9ec0 9 6fc6 3b"]⟩,
  ⟨["Dsrt", "Deseret"],
    ["10400 4f"],
    none⟩,
  ⟨["Dupl", "Duployan"],
    ["1bc00 6a 5 c 3 8 7 9 2 3"],
    some ["1bc00 6a 5 c 3 8 7 9 2 7"]⟩,
  ⟨["Egyp", "Egyptian_Hieroglyphs"],
    ["13000 455"],
    none⟩,
  ⟨["Elba", "Elbasan"],
    ["10500 27"],
    none⟩,
  ⟨["Elym", "Elymaic"],
    ["10fe0 16"],
    none⟩,
  ⟨["Ethi", "Ethiopic"],
    ["1200 48 1 3 2 6 1 0 1 3 2 28 1 3 2 20 1 3 2 6 1 0 1 3 2 e 1 38 1 3 2 42 2 1f 3 19 19e6 16",
     "9 6 1 6 1 6 1 6 1 6 1 6 1 6 1 6 7d22 5 2 5 2 5 9 6 1 6 13cb1 6 1 3 1 1 1 e"],
    none⟩,
  ⟨["Geor", "Georgian"],
    ["10a0 25 1 0 5 0 2 2a 1 3 b90 2a 2 2 1040 25 1 0 5 0"],
    some ["10a0 25 1 0 5 0 2 2f b90 2a 2 2 1040 25 1 0 5 0"]⟩,
  ⟨["Glag", "Glagolitic"],
    ["2c00 5f 1b3a0 6 1 10 2 6 1 1 1 4"],
    some ["484 0 2 0 2778 5f 1e3 0 782b 0 13990 6 1 10 2 6 1 1 1 4"]⟩,
  ⟨["Gong", "Gunjala_Gondi"],
    ["11d60 5 1 1 1 24 1 1 1 5 7 9"],
    some ["964 1 113fa 5 1 1 1 24 1 1 1 5 7 9"]⟩,
  ⟨["Gonm", "Masaram_Gondi"],
    ["11d00 6 1 1 1 2b 3 0 1 1 1 8 8 9"],
    some ["964 1 1139a 6 1 1 1 2b 3 0 1 1 1 8 8 9"]⟩,
  ⟨["Goth", "Gothic"],
    ["10330 1a"],
    none⟩,
  ⟨["Gran", "Grantha"],
    ["11300 3 1 7 2 1 2 15 1 6 1 1 1 4 2 8 2 1 2 2 2 0 6 0 5 6 2 6 3 4"],
    some ["951 1 11 1 280 d 10dc 0 1 1 1e 2 3 1 3f6 0 f20f 3 1 7 2 1 2 15 1 6 1 1 1 4 1 9 2 1 2",
          "2 2 0 6 0 5 6 2 6 3 4 c5b 1 1 0"]⟩,
  ⟨["Grek", "Greek"],
    ["370 3 1 2 2 3 1 0 4 0 1 0 1 2 1 0 1 13 1 3e e f 1926 4 32 4 4 4 54 0 140 15 2 5 2 25 2 5 2",
     "7 1 0 1 0 1 0 1 1e 2 34 1 e 1 d 2 5 1 12 2 2 1 8 127 0 8a3e 0 55da 4e 11 0 d05f 45"],
    some ["342 0 2 0 2a 3 1 2 2 3 1 0 4 0 1 0 1 2 1 0 1 13 1 3e e f 1926 4 32 4 4 4 54 2 13e 15",
          "2 5 2 25 2 5 2 7 1 0 1 0 1 0 1 1e 2 34 1 e 1 d 2 5 1 12 2 2 1 8 127 0 8a3e 0 55da 4e",
          "11 0 d05f 45"]⟩,
  ⟨["Gujr", "Gujarati"],
    ["a81 2 1 8 1 2 1 15 1 6 1 1 1 4 2 9 1 2 1 2 2 0 f 3 2 b 7 6"],
    some ["951 1 11 1 11b 2 1 8 1 2 1 15 1 6 1 1 1 4 2 9 1 2 1 2 2 0 f 3 2 b 7 6 9d30 9"]⟩,
  ⟨["Guru", "Gurmukhi"],
    ["a01 2 1 5 4 1 2 15 1 6 1 1 1 1 1 1 2 0 1 4 4 1 2 2 3 0 7 3 1 0 7 10"],
    some ["951 1 11 1 9b 2 1 5 4 1 2 15 1 6 1 1 1 1 1 1 2 0 1 4 4 1 2 2 3 0 7 3 1 0 7 10 9db9 9"]⟩,
  ⟨["Hang", "Hangul"],
    ["1100 ff 1e2e 1 101 5d 71 1e 41 1e 76e1 1c 283 2ba3 c 16 4 30 27a4 1e 3 5 2 5 2 5 2 2"],
    some ["1100 ff 1e01 2 4 9 1 c e 2 6 0 c3 0 35 5d 71 1e 41 1e 76e1 1c 283 2ba3 c 16 4 30 2649",
          "1 11a 4 3a 1e 3 5 2 5 2 5 2 2"]⟩,
  ⟨["Hani", "Han"],
    ["2e80 19 1 58 c d5 2f 0 1 0 19 8 e 3 3c4 19bf 40 51ff 5900 16d 2 69 7508 1 c 1 900e a6df 20",
     "1039 6 dd 2 1681 e 1d30 c1f 21d 5e2 134a 5 105f"],
    some ["2e80 19 1 58 c d5 2b 2 1 c 1 c 1 c 2 0 6 8 bb 0 94 f 20 23 3c 27 38 30 f b 33 0 58 18",
          "a 4 60 1e 1 19bf 40 51ff 700 7 51f8 16d 2 69 36b 1 11a 4 707c 1 c 1 636e 11 1ede 1",
          "dae a6df 20 1039 6 dd 2 1681 e 1d30 c1f 21d 5e2 134a 5 105f"]⟩,
  ⟨["Hano", "Hanunoo"],
    ["1720 14"],
    some ["1720 16"]⟩,
  ⟨["Hatr", "Hatran"],
    ["108e0 12 1 1 5 4"],
    none⟩,
  ⟨["Hebr", "Hebrew"],
    ["591 36 8 1a 4 5 f528 19 1 4 1 0 1 1 1 1 1 9"],
    none⟩,
  ⟨["Hira", "Hiragana"],
    ["3041 55 6 2 17f61 11e 12 0 1d 2 40ad 0"],
    some ["3001 2 4 9 1 c 10 5 1 0 4 1 3 55 2 7 5a 1 cd48 1 11a 4 a 0 2d 1 b061 11e 12 0 1d 2",
          "40ad 0"]⟩,
  ⟨["Hluw", "Anatolian_Hieroglyphs"],
    ["14400 246"],
    none⟩,
  ⟨["Hmng", "Pahawh_Hmong"],
    ["16b00 45 a 9 1 6 1 14 5 12"],
    none⟩,
  ⟨["Hmnp", "Nyiakeng_Puachue_Hmong"],
    ["1e100 2c 3 d 2 9 4 1"],
    none⟩,
  ⟨["Hung", "Old_Hungarian"],
    ["10c80 32 d 32 7 5"],
    none⟩,
  ⟨["Ital", "Old_Italic"],
    ["10300 23 9 2"],
    none⟩,
  ⟨["Java", "Javanese"],
    ["a980 4d 2 9 4 1"],
    some ["a980 4d 1 a 4 1"]⟩,
  ⟨["Kali", "Kayah_Li"],
    ["a900 2d 1 0"],
    some ["a900 2f"]⟩,
  ⟨["Kana", "Katakana"],
    ["30a1 59 2 2 f0 f d0 2e 1 57 cc0e 9 1 2c b052 3 1 6 1 1 1 0 11f 2 32 0 e 3"],
    some ["3001 2 4 9 1 c 10 5 1 0 4 1 5b 3 3 5f f0 f d0 2e 1 57 caed 1 11a 3e b050 3 1 6 1 1 1",
          "0 11f 2 32 0 e 3"]⟩,
  ⟨["Kawi"],
    ["11f00 10 1 28 3 1b"],
    none⟩,
  ⟨["Khar", "Kharoshthi"],
    ["10a00 3 1 1 5 7 1 2 1 1c 2 2 4 9 7 8"],
    none⟩,
  ⟨["Khmr", "Khmer"],
    ["1780 5d 2 9 6 9 1e6 1f"],
    none⟩,
  ⟨["Khoj", "Khojki"],
    ["11200 11 1 2e"],
    some ["ae6 9 9d40 9 69c6 11 1 2e"]⟩,
  ⟨["Kits", "Khitan_Small_Script"],
    ["16fe4 0 1b1b 1d5"],
    none⟩,
  ⟨["Knda", "Kannada"],
    ["c80 c 1 2 1 16 1 9 1 4 2 8 1 2 1 3 7 1 6 1 1 3 2 9 1 2"],
    some ["951 1 11 1 31a c 1 2 1 16 1 9 1 4 2 8 1 2 1 3 7 1 6 1 1 3 2 9 1 2 fdc 0 1 0 7 0 17 0",
          "1 0 8b3b 5"]⟩,
  ⟨["Kthi", "Kaithi"],
    ["11080 42 a 0"],
    some ["966 9 9ec0 9 6846 42 a 0"]⟩,
  ⟨["Lana", "Tai_Tham"],
    ["1a20 3e 1 1c 2 a 6 9 6 d"],
    none⟩,
  ⟨["Laoo", "Lao"],
    ["e81 1 1 0 1 4 1 17 1 0 1 16 2 4 1 0 1 6 1 9 2 3"],
    none⟩,
  ⟨["Latn", "Latin"],
    ["41 19 6 19 2f 0 f 0 5 16 1 1e 1 1c0 27 4 1a1b 25 6 30 5 3 5 c 1 45 41 ff 171 0 d 0 10 c 8d",
     "1 6 0 1b 0 11 28 ad7 1f 7aa2 65 3 3f 5 1 1 0 1 4 18 d 330 2a 1 8 1 3 4f96 6 41a 19 6 19",
     "825 5 1 29 1 8 d745 1e 6 5"],
    some ["41 19 6 19 2f 0 f 0 5 16 1 1e 1 1c0 27 4 7e c 115 1 4ca 1 7a8 0 c04 25 6 30 5 3 5 c 1",
          "45 41 ff 12f 0 41 0 d 0 10 c 53 0 39 1 6 0 1b 0 11 28 ad7 1f 7a80 7 1a 65 3 3f 5 1 1",
          "0 1 4 18 d 12e 0 201 2a 1 8 1 3 4f96 6 41a 19 6 19 825 5 1 29 1 8 d745 1e 6 5"]⟩,
  ⟨["Lepc", "Lepcha"],
    ["1c00 37 3 e 3 2"],
    none⟩,
  ⟨["Limb", "Limbu"],
    ["1900 1e 1 b 4 b 4 0 3 b"],
    some ["965 0 f9a 1e 1 b 4 b 4 0 3 b"]⟩,
  ⟨["Lina", "Linear_A"],
    ["10600 136 9 15 a 7"],
    some ["10107 2c 4cc 136 9 15 a 7"]⟩,
  ⟨["Linb", "Linear_B"],
    ["10000 b 1 19 1 12 1 1 1 e 2 d 22 7a"],
    some ["10000 b 1 19 1 12 1 1 1 e 2 d 22 7a 5 2 4 2c 3 8"]⟩,
  ⟨["Lisu"],
    ["a4d0 2f 7ab0 0"],
    none⟩,
  ⟨["Lyci", "Lycian"],
    ["10280 1c"],
    none⟩,
  ⟨["Lydi", "Lydian"],
    ["10920 19 5 0"],
    none⟩,
  ⟨["Mahj", "Mahajani"],
    ["11150 26"],
    some ["964 b 9ec0 9 6916 26"]⟩,
  ⟨["Maka", "Makasar"],
    ["11ee0 18"],
    none⟩,
  ⟨["Mand", "Mandaic"],
    ["840 1b 2 0"],
    some ["640 0 1ff 1b 2 0"]⟩,
  ⟨["Mani", "Manichaean"],
    ["10ac0 26 4 b"],
    some ["640 0 1047f 26 4 b"]⟩,
  ⟨["Marc", "Marchen"],
    ["11c70 1f 2 15 1 d"],
    none⟩,
  ⟨["Medf", "Medefaidrin"],
    ["16e40 5a"],
    none⟩,
  ⟨["Mend", "Mende_Kikakui"],
    ["1e800 c4 2 f"],
    none⟩,
  ⟨["Merc", "Meroitic_Cursive"],
    ["109a0 17 4 13 2 2d"],
    none⟩,
  ⟨["Mero", "Meroitic_Hieroglyphs"],
    ["10980 1f"],
    none⟩,
  ⟨["Mlym", "Malayalam"],
    ["d00 c 1 2 1 32 1 2 1 5 4 f 2 19"],
    some ["951 1 11 1 39a c 1 2 1 32 1 2 1 5 4 f 2 19 f5a 0 8b55 2"]⟩,
  ⟨["Modi"],
    ["11600 44 b 9"],
    some ["a830 9 6dc6 44 b 9"]⟩,
  ⟨["Mong", "Mongolian"],
    ["1800 1 2 0 1 13 6 58 7 2a fdb5 c"],
    some ["1800 19 6 58 7 2a 784 0 f630 c"]⟩,
  ⟨["Mroo", "Mro"],
    ["16a40 1e 1 9 4 1"],
    none⟩,
  ⟨["Mtei", "Meetei_Mayek"],
    ["aae0 16 c9 2d 2 9"],
    none⟩,
  ⟨["Mult", "Multani"],
    ["11280 6 1 0 1 3 1 e 1 a"],
    some ["a66 9 10810 6 1 0 1 3 1 e 1 a"]⟩,
  ⟨["Mymr", "Myanmar"],
    ["1000 9f 9940 1e 61 1f"],
    some ["1000 9f 988e 0 b1 1e 61 1f"]⟩,
  ⟨["Nagm", "Nag_Mundari"],
    ["1e4d0 29"],
    none⟩,
  ⟨["Nand", "Nandinagari"],
    ["119a0 7 2 2d 2 a"],
    some ["964 1 380 9 ff9 0 8 0 7 0 8b35 5 716a 7 2 2d 2 a"]⟩,
  ⟨["Narb", "Old_North_Arabian"],
    ["10a80 1f"],
    none⟩,
  ⟨["Nbat", "Nabataean"],
    ["10880 1e 8 8"],
    none⟩,
  ⟨["Newa"],
    ["11400 5b 1 4"],
    none⟩,
  ⟨["Nkoo", "Nko"],
    ["7c0 3a 2 2"],
    some ["60c 0 e 0 3 0 1a0 3a 2 2 f53e 1"]⟩,
  ⟨["Nshu", "Nushu"],
    ["16fe1 0 418e 18b"],
    none⟩,
  ⟨["Ogam", "Ogham"],
    ["1680 1c"],
    none⟩,
  ⟨["Olck", "Ol_Chiki"],
    ["1c50 2f"],
    none⟩,
  ⟨["Orkh", "Old_Turkic"],
    ["10c00 48"],
    none⟩,
  ⟨["Orya", "Oriya"],
    ["b01 2 1 7 2 1 2 15 1 6 1 1 1 4 2 8 2 1 2 2 7 2 4 1 1 4 2 11"],
    some ["951 1 11 1 19b 2 1 7 2 1 2 15 1 6 1 1 1 4 2 8 2 1 2 2 7 2 4 1 1 4 2 11 1162 0 17 0"]⟩,
  ⟨["Osge", "Osage"],
    ["104b0 23 4 23"],
    none⟩,
  ⟨["Osma", "Osmanya"],
    ["10480 1d 2 9"],
    none⟩,
  ⟨["Ougr", "Old_Uyghur"],
    ["10f70 19"],
    some ["640 0 104b1 0 47d 19"]⟩,
  ⟨["Palm", "Palmyrene"],
    ["10860 1f"],
    none⟩,
  ⟨["Pauc", "Pau_Cin_Hau"],
    ["11ac0 38"],
    none⟩,
  ⟨["Perm", "Old_Permic"],
    ["10350 2a"],
    some ["483 0 fecc 2a"]⟩,
  ⟨["Phag", "Phags_Pa"],
    ["a840 37"],
    some ["1802 1 1 0 903a 37"]⟩,
  ⟨["Phli", "Inscriptional_Pahlavi"],
    ["10b60 12 5 7"],
    none⟩,
  ⟨["Phlp", "Psalter_Pahlavi"],
    ["10b80 11 7 3 c 6"],
    some ["640 0 1053f 11 7 3 c 6"]⟩,
  ⟨["Phnx", "Phoenician"],
    ["10900 1b 3 0"],
    none⟩,
  ⟨["Plrd", "Miao"],
    ["16f00 4a 4 38 7 10"],
    none⟩,
  ⟨["Prti", "Inscriptional_Parthian"],
    ["10b40 15 2 7"],
    none⟩,
  ⟨["Rjng", "Rejang"],
    ["a930 23 b 0"],
    none⟩,
  ⟨["Rohg", "Hanifi_Rohingya"],
    ["10d00 27 8 9"],
    some ["60c 0 e 0 3 0 20 0 93 0 1062b 27 8 9"]⟩,
  ⟨["Runr", "Runic"],
    ["16a0 4a 3 a"],
    none⟩,
  ⟨["Samr", "Samaritan"],
    ["800 2d 2 e"],
    none⟩,
  ⟨["Sarb", "Old_South_Arabian"],
    ["10a60 1f"],
    none⟩,
  ⟨["Saur", "Saurashtra"],
    ["a880 45 8 b"],
    none⟩,
  ⟨["Sgnw", "SignWriting"],
    ["1d800 28b f 4 1 e"],
    none⟩,
  ⟨["Shaw", "Shavian"],
    ["10450 2f"],
    none⟩,
  ⟨["Shrd", "Sharada"],
    ["11180 5f"],
    some ["951 0 1385 0 1 0 2 1 2 0 f49f 5f"]⟩,
  ⟨["Sidd", "Siddham"],
    ["11580 35 2 25"],
    none⟩,
  ⟨["Sind", "Khudawadi"],
    ["112b0 3a 5 9"],
    some ["964 1 9eca 9 6a76 3a 5 9"]⟩,
  ⟨["Sinh", "Sinhala"],
    ["d81 2 1 11 3 17 1 8 1 0 2 6 3 0 4 5 1 0 1 7 6 9 2 2 103ec 13"],
    some ["964 1 41b 2 1 11 3 17 1 8 1 0 2 6 3 0 4 5 1 0 1 7 6 9 2 2 103ec 13"]⟩,
  ⟨["Sogd", "Sogdian"],
    ["10f30 29"],
    some ["640 0 108ef 29"]⟩,
  ⟨["Sogo", "Old_Sogdian"],
    ["10f00 27"],
    none⟩,
  ⟨["Sora", "Sora_Sompeng"],
    ["110d0 18 7 9"],
    none⟩,
  ⟨["Soyo", "Soyombo"],
    ["11a50 52"],
    none⟩,
  ⟨["Sund", "Sundanese"],
    ["1b80 3f 100 7"],
    none⟩,
  ⟨["Sylo", "Syloti_Nagri"],
    ["a800 2c"],
    some ["964 1 80 9 9e10 2c"]⟩,
  ⟨["Syrc", "Syriac"],
    ["700 d 1 3b 2 2 110 a"],
    some ["60c 0 e 1 2 0 20 0 a a 1a 0 8f d 1 3b 2 2 110 a 158d 0 1 0"]⟩,
  ⟨["Tagb", "Tagbanwa"],
    ["1760 c 1 2 1 1"],
    some ["1735 1 29 c 1 2 1 1"]⟩,
  ⟨["Takr", "Takri"],
    ["11680 39 6 9"],
    some ["964 1 9eca 9 6e46 39 6 9"]⟩,
  ⟨["Tale", "Tai_Le"],
    ["1950 1d 2 4"],
    some ["1040 9 906 1d 2 4"]⟩,
  ⟨["Talu", "New_Tai_Lue"],
    ["1980 2b 4 19 6 a 3 1"],
    none⟩,
  ⟨["Taml", "Tamil"],
    ["b82 1 1 5 3 2 1 3 3 1 1 0 1 1 3 1 3 2 3 b 4 4 3 2 1 3 2 0 6 0 e 14 113c5 31 d 0"],
    some ["951 1 11 1 21c 1 1 5 3 2 1 3 3 1 1 0 1 1 3 1 3 2 3 b 4 4 3 2 1 3 2 0 6 0 e 14 10df 0",
          "8c18 0 6a0d 0 1 0 37 1 c83 31 d 0"]⟩,
  ⟨["Tang", "Tangut"],
    ["16fe0 0 1f 17f7 8 2ff 200 8"],
    none⟩,
  ⟨["Tavt", "Tai_Viet"],
    ["aa80 42 18 4"],
    none⟩,
  ⟨["Telu", "Telugu"],
    ["c00 c 1 2 1 16 1 f 2 8 1 2 1 3 7 1 1 2 2 0 2 3 2 9 7 8"],
    some ["951 1 11 1 29a c 1 2 1 16 1 f 2 8 1 2 1 3 7 1 1 2 2 0 2 3 2 9 7 8 105a 0 17 0"]⟩,
  ⟨["Tfng", "Tifinagh"],
    ["2d30 37 7 1 e 0"],
    none⟩,
  ⟨["Tglg", "Tagalog"],
    ["1700 15 9 0"],
    some ["1700 15 9 0 15 1"]⟩,
  ⟨["Thaa", "Thaana"],
    ["780 31"],
    some ["60c 0 e 1 2 0 40 9 116 31 f640 0 a 0"]⟩,
  ⟨["Thai"],
    ["e01 39 5 1b"],
    none⟩,
  ⟨["Tibt", "Tibetan"],
    ["f00 47 1 23 4 26 1 23 1 e 1 6 4 1"],
    none⟩,
  ⟨["Tirh", "Tirhuta"],
    ["11480 47 8 9"],
    some ["951 1 11 1 138c 0 8b3d 9 6c46 47 8 9"]⟩,
  ⟨["Tnsa", "Tangsa"],
    ["16a70 4e 1 9"],
    none⟩,
  ⟨["Toto"],
    ["1e290 1e"],
    none⟩,
  ⟨["Ugar", "Ugaritic"],
    ["10380 1d 1 0"],
    none⟩,
  ⟨["Vaii", "Vai"],
    ["a500 12b"],
    none⟩,
  ⟨["Vith", "Vithkuqi"],
    ["10570 a 1 e 1 6 1 1 1 a 1 e 1 6 1 1"],
    none⟩,
  ⟨["Wara", "Warang_Citi"],
    ["118a0 52 c 0"],
    none⟩,
  ⟨["Wcho", "Wancho"],
    ["1e2c0 39 5 0"],
    none⟩,
  ⟨["Xpeo", "Old_Persian"],
    ["103a0 23 4 d"],
    none⟩,
  ⟨["Xsux", "Cuneiform"],
    ["12000 399 66 6e 1 4 b c3"],
    none⟩,
  ⟨["Yezi", "Yezidi"],
    ["10e80 29 1 2 2 1"],
    some ["60c 0 e 0 3 0 40 9 10816 29 1 2 2 1"]⟩,
  ⟨["Yiii", "Yi"],
    ["a000 48c 3 36"],
    some ["3001 1 5 9 2 7 df 0 6f04 48c 3 36 5a9a 4"]⟩,
  ⟨["Zanb", "Zanabazar_Square"],
    ["11a00 47"],
    none⟩,
  ⟨["Zinh", "Inherited", "Qaai"],
    ["300 6f 115 1 1c4 a 1a 0 2e0 3 115b 1e 201 2 1 c 1 6 4 0 6 0 3 1 c6 3f 20c 1 c2 20 f39 3 6b",
     "1 cd65 f 10 d 3cf 0 e2 0 105a 0 bbc4 2d 2 16 220 2 11 7 2 6 1e 3 c2f52 ef"],
    some ["300 41 1 1 1 1c 5f0 1 115b 1e 2f3 35 1 0 1 4 20c 1 c2 1f dd10 f 10 d 3cf 0 cd02 2d 2",
          "16 220 2 11 7 2 6 1e 3 c2f52 ef"]⟩,
  ⟨["Zyyy", "Common"],
    ["0 40 1a 5 1a 2e 1 e 1 4 17 0 1f 0 1c1 26 5 4 2 13 74 0 9 0 6 0 1 0 27d 0 6 0 e 0 3 0 20 0",
     "9c 0 204 0 81 1 4d9 0 195 3 122 0 5ef 2 47 1 cb 1 1 0 4cd 0 d 0 7 3 1 5 1 2 2 0 305 b 2 56",
     "1 a 3 a 1 e 11 20 3f 25 1 2 2 5 1 1a 1 10 29 2 4 296 19 a 15 39f 100 273 2 1f 1 68 200 5d",
     "192 b 4 4 1 0 1 18 f 7 4 3 5b 1 3 0 5a 1 93 f 20 23 3c 3f 1f 50 2f 0 58 a7 19c0 3f 5900 21",
     "66 2 a5 9 f4 0 a0 0 18b 0 e 1 51d2 1 d0 9 16 22 1 12 1 3 93 0 1 1f 1a 5 1a a a 0 2d 1 40 6",
     "1 6 a 4 102 2 4 2c 3 8 50 c 33 2c e4 1a b9a4 3 12ac 73 3c f5 a 26 2 3d 3 10 8 1 7 1d 4 3c",
     "d5 13 c 13 c 56 9 18 87 54 1 46 1 1 2 0 2 1 2 3 1 b 1 0 1 6 1 40 1 3 2 7 1 6 1 1b 1 3 1 4",
     "1 0 3 6 1 153 2 123 2 31 1471 43 4c 3c 2c2 2b 4 63 c e 2 e 1 e 1 24 a ad 38 19 1 1 d 2b 4",
     "8 7 1 e 5 9a 3d7 4 10 3 c 3 76 4 5e 6 b 4 0 f b 4 37 8 9 6 27 8 1d 2 1 4e 153 c d 2 c 3 8",
     "7 2d 1 6 8 d 4 8 7 8 7 92 1 36 25 9 c0407 0 1e 5f"],
    some ["0 40 1a 5 1a 2e 1 e 1 4 17 0 1f 0 1c1 26 5 4 2 13 74 0 9 0 6 0 1 0 27d 0 d7 0 204 0",
          "55c 0 195 3 712 2 912 b 2 20 1 34 1 a 3 a 1 e 11 20 3f 25 1 2 2 5 1 1a 1 10 29 2 4",
          "296 19 a 15 39f 100 273 2 1f 1 68 200 42 1 19 192 b 4 0 3 0 d 0 d 0 15 0 211 17 1f 0",
          "31 e c 3 a1 9 5 5f 1f 0 19c0 3f 5908 19 66 2 3d0 0 e 1 52a4 9 16 14 2 b 1 12 1 3 93 0",
          "1 1f 1a 5 1a 5 7f 6 1 6 a 4 192 c 33 2c cd53 73 3c f5 a 26 2 3d 3 10 8 1 7 1d 4 3c d5",
          "13 c 13 c 56 1b 6 87 54 1 46 1 1 2 0 2 1 2 3 1 b 1 0 1 6 1 40 1 3 2 7 1 6 1 1b 1 3 1",
          "4 1 0 3 6 1 153 2 123 2 31 1471 43 4c 3c 2c2 2b 4 63 c e 2 e 1 e 1 24 a ad 38 19 1 1",
          "d 2b 4 8 17 5 9a 3d7 4 10 3 c 3 76 4 5e 6 b 4 0 f b 4 37 8 9 6 27 8 1d 2 1 4e 153 c d",
          "2 c 3 8 7 2d 1 6 8 d 4 8 7 8 7 92 1 36 25 9 c0407 0 1e 5f"]⟩,
  ⟨["Zzzz", "Unknown"],
    ["378 1 6 3 7 0 1 0 14 0 18d 0 26 1 32 1 3 0 37 7 1b 3 6 a 10e 0 3c 1 65 d 3b 1 31 1 f 0 1c",
     "1 1 0 b 4 1f 0 2 5 ec 0 8 1 2 1 16 0 7 0 1 2 4 1 9 1 2 1 4 7 1 3 2 0 5 1 19 1 3 0 6 3 2 1",
     "16 0 7 0 2 0 2 0 2 1 1 0 5 3 2 1 3 2 1 6 4 0 1 6 11 9 3 0 9 0 3 0 16 0 7 0 2 0 5 1 a 0 3 0",
     "3 1 1 e 4 1 c 6 7 0 3 0 8 1 2 1 16 0 7 0 2 0 5 1 9 1 2 1 3 6 3 3 2 0 5 1 12 9 2 0 6 2 3 0",
     "4 2 2 0 1 0 2 2 2 2 3 2 c 3 5 2 3 0 4 1 1 5 1 d 15 4 d 0 3 0 17 0 10 1 9 0 3 0 4 6 2 0 3 1",
     "1 1 4 1 a 6 16 0 3 0 17 0 a 0 5 1 9 0 3 0 4 6 2 5 2 0 4 1 a 0 3 b d 0 3 0 33 0 3 0 6 3 10",
     "1 1a 0 3 0 12 2 18 0 9 0 1 1 7 2 1 3 6 0 1 0 8 5 a 1 3 b 3a 3 1d 24 2 0 1 0 5 0 18 0 1 0",
     "17 1 5 0 1 0 7 0 a 1 4 1f 48 0 24 3 27 0 24 0 f 0 d 24 c6 0 1 4 1 1 179 0 4 1 7 0 1 0 4 1",
     "29 0 4 1 21 0 4 1 7 0 1 0 4 1 f 0 39 0 4 1 43 1 20 2 1a 5 56 1 6 1 29d 2 59 6 16 8 18 8 14",
     "b d 0 3 0 2 b 5e 1 a 5 a 5 1a 5 59 6 2b 4 46 9 1f 0 c 3 c 3 1 2 2a 1 5 a 2c 3 1a 5 b 2 3e",
     "1 41 0 1d 1 b 5 a 5 e 1 1f 30 4d 2 2f 0 74 7 3c 2 f 2 3c 6 2b 1 b 7 2b 4 216 1 6 1 26 1 6",
     "1 8 0 1 0 1 0 1 0 1f 1 35 0 f 0 e 1 6 0 13 1 3 0 9 0 65 0 c 1 1b 0 d 2 21 e 21 e 8c 3 297",
     "18 b 14 714 1 20 0 15d 4 2d 0 1 4 1 1 38 6 2 d 18 8 7 0 7 0 7 0 7 0 7 0 7 0 7 0 7 0 7e 21",
     "1a 0 59 b d6 19 c 3 40 0 56 1 67 4 2b 0 5e 0 54 b 2f 0 726d 2 37 8 15c 13 b8 7 cb 4 2 0 1",
     "0 5 17 3b 2 a 5 38 7 46 7 c 5 74 a 1e 2 4e 0 b 3 21 0 37 8 e 1 a 1 67 17 1c 9 6 1 6 1 6 8",
     "7 0 7 0 3c 3 7e 1 a 5 2ba4 b 17 3 31 2103 16e 1 6a 25 7 b 5 4 1a 0 5 0 1 0 2 0 2 0 7d f",
     "1bd 1 36 6 1 1f 2a 5 33 0 13 0 4 3 5 0 87 1 1 0 be 2 6 1 6 1 6 1 3 2 7 0 7 9 5 1 c 0 1a 0",
     "13 0 2 0 f 1 e 21 7b 4 3 3 2d 2 58 0 d 2 1 2e 2e 81 1d 2 31 e 1c 3 24 8 1e 4 2b 4 1e 0 25",
     "3 e 29 9e 1 a 5 24 3 24 3 28 7 34 a c 0 f 0 7 0 2 0 b 0 f 0 7 0 2 42 137 8 16 9 8 17 6 0",
     "2a 0 9 44 6 1 1 0 2c 0 2 2 1 1 17 0 48 7 9 2f 13 0 2 4 21 2 1b 4 1 3f 38 3 14 1 32 0 2 4 8",
     "0 3 0 1d 1 3 3 a 6 9 6 40 1f 27 3 c 8 36 2 1d 1 1b 4 1a 6 4 b 7 4f 49 36 33 c 33 6 2e 7 a",
     "125 1f 0 2a 0 3 1 2 4a 2b 7 2a 15 1a 25 1c 13 17 8 4e 3 24 8 44 9 1 1 19 6 a 5 35 0 12 7",
     "27 8 60 0 14 a 12 0 2f 3d 7 0 1 0 4 0 f 0 b 5 3b 4 a 5 4 0 8 1 2 1 16 0 7 0 2 0 5 0 a 1 2",
     "1 3 1 1 5 1 4 7 1 7 2 5 8a 5c 0 5 1d 48 7 a a5 36 1 26 21 45 a a 5 d 12 3a 5 a 35 1b 1 f 3",
     "17 b8 3c 63 53 b 8 1 1 1 8 0 2 0 1e 0 2 1 c 8 a 45 8 1 2e 1 b 1a 48 7 53 c 49 6 a f5 9 0",
     "2d 0 e 9 1d 2 20 1 16 0 e 48 7 0 2 0 2c 2 1 0 2 0 9 7 a 5 6 0 2 0 25 0 2 0 6 6 a 135 19 6",
     "11 0 29 2 1c 55 1 e 32 c 39b 65 6f 0 5 a c4 a4b 63 c 456 fa9 247 21b8 239 6 1f 0 a 3 51 0",
     "a 5 1e 1 6 9 46 9 a 0 7 0 15 4 13 2af 5b 64 4b 3 39 6 11 3f 5 a 2 d 17f8 7 4d6 29 9 22e6 4",
     "0 7 0 2 0 123 e 1 1c 3 1 1 d 4 7 18c 903 6b 4 d 2 9 6 a 1 8 125b 2e 1 17 8 74 3b f6 9 27 1",
     "c2 14 46 79 14 b 14 b 57 8 19 86 55 0 47 0 2 1 1 1 2 1 4 0 c 0 1 0 7 0 41 0 4 1 8 0 7 0 1c",
     "0 4 0 5 0 1 2 7 0 154 1 124 1 2be e 5 0 f 44f 1f 5 6 d4 7 0 11 1 7 0 2 0 5 4 3e 20 1 6f 2d",
     "2 e 1 a 3 2 13f 1f 10 3a 4 1 1cf 2a 2e5 7 0 4 0 2 0 f 0 c5 1 10 28 4c 3 a 3 2 310 44 4b 3d",
     "c1 4 0 1b 0 2 0 1 1 1 0 a 0 4 0 1 0 1 5 1 3 1 0 1 0 1 0 3 0 2 0 1 1 1 0 1 0 1 0 1 0 1 0 2",
     "0 1 1 4 0 7 0 4 0 4 0 1 0 a 0 11 4 3 0 5 0 11 33 2 10d 2c 3 64 b f 1 f 0 f 0 25 9 ae 37 1d",
     "c 2c 3 9 6 2 d 6 99 3d8 3 11 2 d 2 77 3 5f 5 c 3 1 e c 3 38 7 a 5 28 7 1e 1 2 4d 154 b e 1",
     "d 2 9 6 2e 0 7 7 e 3 9 6 9 6 93 0 37 24 a 405 a6e0 1f 103a 5 de 1 1682 d 1d31 c1e 21e 5e1",
     "134b 4 1060 adc50 1 1d 60 7f f0 2fe0f"],
    none⟩]

/-- The code points of a script or, when `extended`, also those that it shares with others. -/
def script? (name : String) (extended : Bool) : Option Ranges :=
  (scripts.find? fun s => s.names.contains name).map fun s =>
    Ranges.unpack (if extended then s.extended.getD s.own else s.own)

end FieldMask.Unicode
