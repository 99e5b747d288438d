import CivicForum.Text.Runs

/-! # Scripts of characters

* `Text.script?`: the characters of a script, by any of its names, in lower case and without
  blanks, dashes and underscores.
* `Text.scriptExtension?`: the characters that are used with a script.
-/

set_option autoImplicit false

namespace CivicForum.Text

/-- The script of every code point, as runs. -/
def scriptRuns : String :=
  "65 Zyyy 26 Latn 6 Zyyy 26 Latn 47 Zyyy 1 Latn 15 Zyyy 1 Latn 5 Zyyy 23 Latn 1 Zyyy 31 Latn
    1 Zyyy 449 Latn 39 Zyyy 5 Latn 5 Zyyy 2 Bopo 20 Zyyy 112 Zinh 4 Grek 1 Zyyy 3 Grek 2 Zzzz
    4 Grek 1 Zyyy 1 Grek 4 Zzzz 1 Grek 1 Zyyy 1 Grek 1 Zyyy 3 Grek 1 Zzzz 1 Grek 1 Zzzz 20 Grek
    1 Zzzz 63 Grek 14 Copt 16 Grek 133 Cyrl 2 Zinh 169 Cyrl 1 Zzzz 38 Armn 2 Zzzz 50 Armn
    2 Zzzz 3 Armn 1 Zzzz 55 Hebr 8 Zzzz 27 Hebr 4 Zzzz 6 Hebr 11 Zzzz 5 Arab 1 Zyyy 6 Arab
    1 Zyyy 14 Arab 1 Zyyy 3 Arab 1 Zyyy 32 Arab 1 Zyyy 10 Arab 11 Zinh 26 Arab 1 Zinh 108 Arab
    1 Zyyy 34 Arab 14 Syrc 1 Zzzz 60 Syrc 2 Zzzz 3 Syrc 48 Arab 50 Thaa 14 Zzzz 59 Nkoo 2 Zzzz
    3 Nkoo 46 Samr 2 Zzzz 15 Samr 1 Zzzz 28 Mand 2 Zzzz 1 Mand 1 Zzzz 11 Syrc 5 Zzzz 31 Arab
    1 Zzzz 2 Arab 5 Zzzz 75 Arab 1 Zyyy 29 Arab 81 Deva 4 Zinh 15 Deva 2 Zyyy 26 Deva 4 Beng
    1 Zzzz 8 Beng 2 Zzzz 2 Beng 2 Zzzz 22 Beng 1 Zzzz 7 Beng 1 Zzzz 1 Beng 3 Zzzz 4 Beng 2 Zzzz
    9 Beng 2 Zzzz 2 Beng 2 Zzzz 4 Beng 8 Zzzz 1 Beng 4 Zzzz 2 Beng 1 Zzzz 5 Beng 2 Zzzz 25 Beng
    2 Zzzz 3 Guru 1 Zzzz 6 Guru 4 Zzzz 2 Guru 2 Zzzz 22 Guru 1 Zzzz 7 Guru 1 Zzzz 2 Guru 1 Zzzz
    2 Guru 1 Zzzz 2 Guru 2 Zzzz 1 Guru 1 Zzzz 5 Guru 4 Zzzz 2 Guru 2 Zzzz 3 Guru 3 Zzzz 1 Guru
    7 Zzzz 4 Guru 1 Zzzz 1 Guru 7 Zzzz 17 Guru 10 Zzzz 3 Gujr 1 Zzzz 9 Gujr 1 Zzzz 3 Gujr
    1 Zzzz 22 Gujr 1 Zzzz 7 Gujr 1 Zzzz 2 Gujr 1 Zzzz 5 Gujr 2 Zzzz 10 Gujr 1 Zzzz 3 Gujr
    1 Zzzz 3 Gujr 2 Zzzz 1 Gujr 15 Zzzz 4 Gujr 2 Zzzz 12 Gujr 7 Zzzz 7 Gujr 1 Zzzz 3 Orya
    1 Zzzz 8 Orya 2 Zzzz 2 Orya 2 Zzzz 22 Orya 1 Zzzz 7 Orya 1 Zzzz 2 Orya 1 Zzzz 5 Orya 2 Zzzz
    9 Orya 2 Zzzz 2 Orya 2 Zzzz 3 Orya 7 Zzzz 3 Orya 4 Zzzz 2 Orya 1 Zzzz 5 Orya 2 Zzzz 18 Orya
    10 Zzzz 2 Taml 1 Zzzz 6 Taml 3 Zzzz 3 Taml 1 Zzzz 4 Taml 3 Zzzz 2 Taml 1 Zzzz 1 Taml 1 Zzzz
    2 Taml 3 Zzzz 2 Taml 3 Zzzz 3 Taml 3 Zzzz 12 Taml 4 Zzzz 5 Taml 3 Zzzz 3 Taml 1 Zzzz 4 Taml
    2 Zzzz 1 Taml 6 Zzzz 1 Taml 14 Zzzz 21 Taml 5 Zzzz 13 Telu 1 Zzzz 3 Telu 1 Zzzz 23 Telu
    1 Zzzz 16 Telu 2 Zzzz 9 Telu 1 Zzzz 3 Telu 1 Zzzz 4 Telu 7 Zzzz 2 Telu 1 Zzzz 3 Telu 2 Zzzz
    1 Telu 2 Zzzz 4 Telu 2 Zzzz 10 Telu 7 Zzzz 9 Telu 13 Knda 1 Zzzz 3 Knda 1 Zzzz 23 Knda
    1 Zzzz 10 Knda 1 Zzzz 5 Knda 2 Zzzz 9 Knda 1 Zzzz 3 Knda 1 Zzzz 4 Knda 7 Zzzz 2 Knda 6 Zzzz
    2 Knda 1 Zzzz 4 Knda 2 Zzzz 10 Knda 1 Zzzz 3 Knda 12 Zzzz 13 Mlym 1 Zzzz 3 Mlym 1 Zzzz
    51 Mlym 1 Zzzz 3 Mlym 1 Zzzz 6 Mlym 4 Zzzz 16 Mlym 2 Zzzz 26 Mlym 1 Zzzz 3 Sinh 1 Zzzz
    18 Sinh 3 Zzzz 24 Sinh 1 Zzzz 9 Sinh 1 Zzzz 1 Sinh 2 Zzzz 7 Sinh 3 Zzzz 1 Sinh 4 Zzzz
    6 Sinh 1 Zzzz 1 Sinh 1 Zzzz 8 Sinh 6 Zzzz 10 Sinh 2 Zzzz 3 Sinh 12 Zzzz 58 Thai 4 Zzzz
    1 Zyyy 28 Thai 37 Zzzz 2 Laoo 1 Zzzz 1 Laoo 1 Zzzz 5 Laoo 1 Zzzz 24 Laoo 1 Zzzz 1 Laoo
    1 Zzzz 23 Laoo 2 Zzzz 5 Laoo 1 Zzzz 1 Laoo 1 Zzzz 7 Laoo 1 Zzzz 10 Laoo 2 Zzzz 4 Laoo
    32 Zzzz 72 Tibt 1 Zzzz 36 Tibt 4 Zzzz 39 Tibt 1 Zzzz 36 Tibt 1 Zzzz 15 Tibt 1 Zzzz 7 Tibt
    4 Zyyy 2 Tibt 37 Zzzz 160 Mymr 38 Geor 1 Zzzz 1 Geor 5 Zzzz 1 Geor 2 Zzzz 43 Geor 1 Zyyy
    4 Geor 256 Hang 73 Ethi 1 Zzzz 4 Ethi 2 Zzzz 7 Ethi 1 Zzzz 1 Ethi 1 Zzzz 4 Ethi 2 Zzzz
    41 Ethi 1 Zzzz 4 Ethi 2 Zzzz 33 Ethi 1 Zzzz 4 Ethi 2 Zzzz 7 Ethi 1 Zzzz 1 Ethi 1 Zzzz
    4 Ethi 2 Zzzz 15 Ethi 1 Zzzz 57 Ethi 1 Zzzz 4 Ethi 2 Zzzz 67 Ethi 2 Zzzz 32 Ethi 3 Zzzz
    26 Ethi 6 Zzzz 86 Cher 2 Zzzz 6 Cher 2 Zzzz 640 Cans 29 Ogam 3 Zzzz 75 Runr 3 Zyyy 11 Runr
    7 Zzzz 22 Tglg 9 Zzzz 1 Tglg 21 Hano 2 Zyyy 9 Zzzz 20 Buhd 12 Zzzz 13 Tagb 1 Zzzz 3 Tagb
    1 Zzzz 2 Tagb 12 Zzzz 94 Khmr 2 Zzzz 10 Khmr 6 Zzzz 10 Khmr 6 Zzzz 2 Mong 2 Zyyy 1 Mong
    1 Zyyy 20 Mong 6 Zzzz 89 Mong 7 Zzzz 43 Mong 5 Zzzz 70 Cans 10 Zzzz 31 Limb 1 Zzzz 12 Limb
    4 Zzzz 12 Limb 4 Zzzz 1 Limb 3 Zzzz 12 Limb 30 Tale 2 Zzzz 5 Tale 11 Zzzz 44 Talu 4 Zzzz
    26 Talu 6 Zzzz 11 Talu 3 Zzzz 2 Talu 32 Khmr 28 Bugi 2 Zzzz 2 Bugi 63 Lana 1 Zzzz 29 Lana
    2 Zzzz 11 Lana 6 Zzzz 10 Lana 6 Zzzz 14 Lana 2 Zzzz 31 Zinh 49 Zzzz 77 Bali 1 Zzzz 50 Bali
    64 Sund 52 Batk 8 Zzzz 4 Batk 56 Lepc 3 Zzzz 15 Lepc 3 Zzzz 3 Lepc 48 Olck 11 Cyrl 5 Zzzz
    43 Geor 2 Zzzz 3 Geor 8 Sund 8 Zzzz 3 Zinh 1 Zyyy 13 Zinh 1 Zyyy 7 Zinh 4 Zyyy 1 Zinh
    6 Zyyy 1 Zinh 3 Zyyy 2 Zinh 1 Zyyy 5 Zzzz 38 Latn 5 Grek 1 Cyrl 49 Latn 5 Grek 4 Latn
    5 Grek 13 Latn 1 Cyrl 70 Latn 1 Grek 64 Zinh 256 Latn 22 Grek 2 Zzzz 6 Grek 2 Zzzz 38 Grek
    2 Zzzz 6 Grek 2 Zzzz 8 Grek 1 Zzzz 1 Grek 1 Zzzz 1 Grek 1 Zzzz 1 Grek 1 Zzzz 31 Grek 2 Zzzz
    53 Grek 1 Zzzz 15 Grek 1 Zzzz 14 Grek 2 Zzzz 6 Grek 1 Zzzz 19 Grek 2 Zzzz 3 Grek 1 Zzzz
    9 Grek 1 Zzzz 12 Zyyy 2 Zinh 87 Zyyy 1 Zzzz 11 Zyyy 1 Latn 2 Zzzz 11 Zyyy 1 Latn 15 Zyyy
    1 Zzzz 13 Latn 3 Zzzz 33 Zyyy 15 Zzzz 33 Zinh 15 Zzzz 38 Zyyy 1 Grek 3 Zyyy 2 Latn 6 Zyyy
    1 Latn 27 Zyyy 1 Latn 17 Zyyy 41 Latn 3 Zyyy 4 Zzzz 666 Zyyy 22 Zzzz 11 Zyyy 21 Zzzz
    928 Zyyy 256 Brai 628 Zyyy 2 Zzzz 32 Zyyy 1 Zzzz 105 Zyyy 96 Glag 32 Latn 116 Copt 5 Zzzz
    7 Copt 38 Geor 1 Zzzz 1 Geor 5 Zzzz 1 Geor 2 Zzzz 56 Tfng 7 Zzzz 2 Tfng 14 Zzzz 1 Tfng
    23 Ethi 9 Zzzz 7 Ethi 1 Zzzz 7 Ethi 1 Zzzz 7 Ethi 1 Zzzz 7 Ethi 1 Zzzz 7 Ethi 1 Zzzz 7 Ethi
    1 Zzzz 7 Ethi 1 Zzzz 7 Ethi 1 Zzzz 32 Cyrl 94 Zyyy 34 Zzzz 26 Hani 1 Zzzz 89 Hani 12 Zzzz
    214 Hani 26 Zzzz 21 Zyyy 1 Hani 1 Zyyy 1 Hani 25 Zyyy 9 Hani 4 Zinh 2 Hang 8 Zyyy 4 Hani
    4 Zyyy 1 Zzzz 86 Hira 2 Zzzz 2 Zinh 2 Zyyy 3 Hira 1 Zyyy 90 Kana 2 Zyyy 3 Kana 5 Zzzz
    43 Bopo 1 Zzzz 94 Hang 1 Zzzz 16 Zyyy 32 Bopo 38 Zyyy 9 Zzzz 1 Zyyy 16 Kana 31 Hang 1 Zzzz
    64 Zyyy 31 Hang 81 Zyyy 47 Kana 1 Zyyy 88 Kana 168 Zyyy 6592 Hani 64 Zyyy 20992 Hani
    1165 Yiii 3 Zzzz 55 Yiii 9 Zzzz 48 Lisu 300 Vaii 20 Zzzz 96 Cyrl 88 Bamu 8 Zzzz 34 Zyyy
    102 Latn 3 Zyyy 67 Latn 2 Zzzz 2 Latn 1 Zzzz 1 Latn 1 Zzzz 8 Latn 21 Zzzz 14 Latn 45 Sylo
    3 Zzzz 10 Zyyy 6 Zzzz 56 Phag 8 Zzzz 70 Saur 8 Zzzz 12 Saur 6 Zzzz 32 Deva 46 Kali 1 Zyyy
    1 Kali 36 Rjng 11 Zzzz 1 Rjng 29 Hang 3 Zzzz 78 Java 1 Zzzz 1 Zyyy 10 Java 4 Zzzz 2 Java
    31 Mymr 1 Zzzz 55 Cham 9 Zzzz 14 Cham 2 Zzzz 10 Cham 2 Zzzz 4 Cham 32 Mymr 67 Tavt 24 Zzzz
    5 Tavt 23 Mtei 10 Zzzz 6 Ethi 2 Zzzz 6 Ethi 2 Zzzz 6 Ethi 9 Zzzz 7 Ethi 1 Zzzz 7 Ethi
    1 Zzzz 43 Latn 1 Zyyy 9 Latn 1 Grek 4 Latn 2 Zyyy 4 Zzzz 80 Cher 46 Mtei 2 Zzzz 10 Mtei
    6 Zzzz 11172 Hang 12 Zzzz 23 Hang 4 Zzzz 49 Hang 8452 Zzzz 366 Hani 2 Zzzz 106 Hani 38 Zzzz
    7 Latn 12 Zzzz 5 Armn 5 Zzzz 26 Hebr 1 Zzzz 5 Hebr 1 Zzzz 1 Hebr 1 Zzzz 2 Hebr 1 Zzzz
    2 Hebr 1 Zzzz 10 Hebr 115 Arab 16 Zzzz 363 Arab 2 Zyyy 80 Arab 2 Zzzz 54 Arab 7 Zzzz 1 Arab
    32 Zzzz 16 Arab 16 Zinh 10 Zyyy 6 Zzzz 14 Zinh 2 Cyrl 35 Zyyy 1 Zzzz 19 Zyyy 1 Zzzz 4 Zyyy
    4 Zzzz 5 Arab 1 Zzzz 135 Arab 2 Zzzz 1 Zyyy 1 Zzzz 32 Zyyy 26 Latn 6 Zyyy 26 Latn 11 Zyyy
    10 Kana 1 Zyyy 45 Kana 2 Zyyy 31 Hang 3 Zzzz 6 Hang 2 Zzzz 6 Hang 2 Zzzz 6 Hang 2 Zzzz
    3 Hang 3 Zzzz 7 Zyyy 1 Zzzz 7 Zyyy 10 Zzzz 5 Zyyy 2 Zzzz 12 Linb 1 Zzzz 26 Linb 1 Zzzz
    19 Linb 1 Zzzz 2 Linb 1 Zzzz 15 Linb 2 Zzzz 14 Linb 34 Zzzz 123 Linb 5 Zzzz 3 Zyyy 4 Zzzz
    45 Zyyy 3 Zzzz 9 Zyyy 79 Grek 1 Zzzz 13 Zyyy 3 Zzzz 1 Grek 47 Zzzz 45 Zyyy 1 Zinh 130 Zzzz
    29 Lyci 3 Zzzz 49 Cari 15 Zzzz 1 Zinh 27 Zyyy 4 Zzzz 36 Ital 9 Zzzz 3 Ital 27 Goth 5 Zzzz
    43 Perm 5 Zzzz 30 Ugar 1 Zzzz 1 Ugar 36 Xpeo 4 Zzzz 14 Xpeo 42 Zzzz 80 Dsrt 48 Shaw 30 Osma
    2 Zzzz 10 Osma 6 Zzzz 36 Osge 4 Zzzz 36 Osge 4 Zzzz 40 Elba 8 Zzzz 52 Aghb 11 Zzzz 1 Aghb
    11 Vith 1 Zzzz 15 Vith 1 Zzzz 7 Vith 1 Zzzz 2 Vith 1 Zzzz 11 Vith 1 Zzzz 15 Vith 1 Zzzz
    7 Vith 1 Zzzz 2 Vith 3 Zzzz 52 Todr 12 Zzzz 311 Lina 9 Zzzz 22 Lina 10 Zzzz 8 Lina 24 Zzzz
    6 Latn 1 Zzzz 42 Latn 1 Zzzz 9 Latn 69 Zzzz 6 Cprt 2 Zzzz 1 Cprt 1 Zzzz 44 Cprt 1 Zzzz
    2 Cprt 3 Zzzz 1 Cprt 2 Zzzz 1 Cprt 22 Armi 1 Zzzz 9 Armi 32 Palm 31 Nbat 8 Zzzz 9 Nbat
    48 Zzzz 19 Hatr 1 Zzzz 2 Hatr 5 Zzzz 5 Hatr 28 Phnx 3 Zzzz 1 Phnx 26 Lydi 5 Zzzz 1 Lydi
    64 Zzzz 32 Mero 24 Merc 4 Zzzz 20 Merc 2 Zzzz 46 Merc 4 Khar 1 Zzzz 2 Khar 5 Zzzz 8 Khar
    1 Zzzz 3 Khar 1 Zzzz 29 Khar 2 Zzzz 3 Khar 4 Zzzz 10 Khar 7 Zzzz 9 Khar 7 Zzzz 32 Sarb
    32 Narb 32 Zzzz 39 Mani 4 Zzzz 12 Mani 9 Zzzz 54 Avst 3 Zzzz 7 Avst 22 Prti 2 Zzzz 8 Prti
    19 Phli 5 Zzzz 8 Phli 18 Phlp 7 Zzzz 4 Phlp 12 Zzzz 7 Phlp 80 Zzzz 73 Orkh 55 Zzzz 51 Hung
    13 Zzzz 51 Hung 7 Zzzz 6 Hung 40 Rohg 8 Zzzz 10 Rohg 6 Zzzz 38 Gara 3 Zzzz 29 Gara 8 Zzzz
    2 Gara 208 Zzzz 31 Arab 1 Zzzz 42 Yezi 1 Zzzz 3 Yezi 2 Zzzz 2 Yezi 16 Zzzz 3 Arab 55 Zzzz
    4 Arab 40 Sogo 8 Zzzz 42 Sogd 22 Zzzz 26 Ougr 38 Zzzz 28 Chrs 20 Zzzz 23 Elym 9 Zzzz
    78 Brah 4 Zzzz 36 Brah 9 Zzzz 1 Brah 67 Kthi 10 Zzzz 1 Kthi 2 Zzzz 25 Sora 7 Zzzz 10 Sora
    6 Zzzz 53 Cakm 1 Zzzz 18 Cakm 8 Zzzz 39 Mahj 9 Zzzz 96 Shrd 1 Zzzz 20 Sinh 11 Zzzz 18 Khoj
    1 Zzzz 47 Khoj 62 Zzzz 7 Mult 1 Zzzz 1 Mult 1 Zzzz 4 Mult 1 Zzzz 15 Mult 1 Zzzz 11 Mult
    6 Zzzz 59 Sind 5 Zzzz 10 Sind 6 Zzzz 4 Gran 1 Zzzz 8 Gran 2 Zzzz 2 Gran 2 Zzzz 22 Gran
    1 Zzzz 7 Gran 1 Zzzz 2 Gran 1 Zzzz 5 Gran 1 Zzzz 1 Zinh 9 Gran 2 Zzzz 2 Gran 2 Zzzz 3 Gran
    2 Zzzz 1 Gran 6 Zzzz 1 Gran 5 Zzzz 7 Gran 2 Zzzz 7 Gran 3 Zzzz 5 Gran 11 Zzzz 10 Tutg
    1 Zzzz 1 Tutg 2 Zzzz 1 Tutg 1 Zzzz 38 Tutg 1 Zzzz 10 Tutg 1 Zzzz 1 Tutg 2 Zzzz 1 Tutg
    1 Zzzz 4 Tutg 1 Zzzz 10 Tutg 1 Zzzz 2 Tutg 8 Zzzz 2 Tutg 29 Zzzz 92 Newa 1 Zzzz 5 Newa
    30 Zzzz 72 Tirh 8 Zzzz 10 Tirh 166 Zzzz 54 Sidd 2 Zzzz 38 Sidd 34 Zzzz 69 Modi 11 Zzzz
    10 Modi 6 Zzzz 13 Mong 19 Zzzz 58 Takr 6 Zzzz 10 Takr 6 Zzzz 20 Mymr 28 Zzzz 27 Ahom 2 Zzzz
    15 Ahom 4 Zzzz 23 Ahom 185 Zzzz 60 Dogr 100 Zzzz 83 Wara 12 Zzzz 1 Wara 7 Diak 2 Zzzz
    1 Diak 2 Zzzz 8 Diak 1 Zzzz 2 Diak 1 Zzzz 30 Diak 1 Zzzz 2 Diak 2 Zzzz 12 Diak 9 Zzzz
    10 Diak 70 Zzzz 8 Nand 2 Zzzz 46 Nand 2 Zzzz 11 Nand 27 Zzzz 72 Zanb 8 Zzzz 83 Soyo 13 Zzzz
    16 Cans 57 Pauc 7 Zzzz 10 Deva 182 Zzzz 34 Sunu 14 Zzzz 10 Sunu 6 Zzzz 9 Bhks 1 Zzzz
    45 Bhks 1 Zzzz 14 Bhks 10 Zzzz 29 Bhks 3 Zzzz 32 Marc 2 Zzzz 22 Marc 1 Zzzz 14 Marc 73 Zzzz
    7 Gonm 1 Zzzz 2 Gonm 1 Zzzz 44 Gonm 3 Zzzz 1 Gonm 1 Zzzz 2 Gonm 1 Zzzz 9 Gonm 8 Zzzz
    10 Gonm 6 Zzzz 6 Gong 1 Zzzz 2 Gong 1 Zzzz 37 Gong 1 Zzzz 2 Gong 1 Zzzz 6 Gong 7 Zzzz
    10 Gong 310 Zzzz 25 Maka 7 Zzzz 17 Kawi 1 Zzzz 41 Kawi 3 Zzzz 29 Kawi 85 Zzzz 1 Lisu
    15 Zzzz 50 Taml 13 Zzzz 1 Taml 922 Xsux 102 Zzzz 111 Xsux 1 Zzzz 5 Xsux 11 Zzzz 196 Xsux
    2636 Zzzz 99 Cpmn 13 Zzzz 1110 Egyp 10 Zzzz 3995 Egyp 5 Zzzz 583 Hluw 6841 Zzzz 58 Gukh
    1734 Zzzz 569 Bamu 7 Zzzz 31 Mroo 1 Zzzz 10 Mroo 4 Zzzz 2 Mroo 79 Tnsa 1 Zzzz 10 Tnsa
    6 Zzzz 30 Bass 2 Zzzz 6 Bass 10 Zzzz 70 Hmng 10 Zzzz 10 Hmng 1 Zzzz 7 Hmng 1 Zzzz 21 Hmng
    5 Zzzz 19 Hmng 432 Zzzz 58 Krai 198 Zzzz 91 Medf 101 Zzzz 75 Plrd 4 Zzzz 57 Plrd 7 Zzzz
    17 Plrd 64 Zzzz 1 Tang 1 Nshu 2 Hani 1 Kits 11 Zzzz 2 Hani 14 Zzzz 6136 Tang 8 Zzzz
    768 Tang 470 Kits 41 Zzzz 1 Kits 9 Tang 8935 Zzzz 4 Kana 1 Zzzz 7 Kana 1 Zzzz 2 Kana 1 Zzzz
    1 Kana 287 Hira 3 Kana 15 Zzzz 1 Hira 29 Zzzz 3 Hira 2 Zzzz 1 Kana 14 Zzzz 4 Kana 8 Zzzz
    396 Nshu 2308 Zzzz 107 Dupl 5 Zzzz 13 Dupl 3 Zzzz 9 Dupl 7 Zzzz 10 Dupl 2 Zzzz 4 Dupl
    4 Zyyy 3932 Zzzz 250 Zyyy 6 Zzzz 436 Zyyy 76 Zzzz 46 Zinh 2 Zzzz 23 Zinh 9 Zzzz 116 Zyyy
    60 Zzzz 246 Zyyy 10 Zzzz 39 Zyyy 2 Zzzz 62 Zyyy 3 Zinh 17 Zyyy 8 Zinh 2 Zyyy 7 Zinh 30 Zyyy
    4 Zinh 61 Zyyy 21 Zzzz 70 Grek 122 Zzzz 20 Zyyy 12 Zzzz 20 Zyyy 12 Zzzz 87 Zyyy 9 Zzzz
    25 Zyyy 135 Zzzz 85 Zyyy 1 Zzzz 71 Zyyy 1 Zzzz 2 Zyyy 2 Zzzz 1 Zyyy 2 Zzzz 2 Zyyy 2 Zzzz
    4 Zyyy 1 Zzzz 12 Zyyy 1 Zzzz 1 Zyyy 1 Zzzz 7 Zyyy 1 Zzzz 65 Zyyy 1 Zzzz 4 Zyyy 2 Zzzz
    8 Zyyy 1 Zzzz 7 Zyyy 1 Zzzz 28 Zyyy 1 Zzzz 4 Zyyy 1 Zzzz 5 Zyyy 1 Zzzz 1 Zyyy 3 Zzzz 7 Zyyy
    1 Zzzz 340 Zyyy 2 Zzzz 292 Zyyy 2 Zzzz 50 Zyyy 652 Sgnw 15 Zzzz 5 Sgnw 1 Zzzz 15 Sgnw
    1104 Zzzz 31 Latn 6 Zzzz 6 Latn 213 Zzzz 7 Glag 1 Zzzz 17 Glag 2 Zzzz 7 Glag 1 Zzzz 2 Glag
    1 Zzzz 5 Glag 5 Zzzz 62 Cyrl 33 Zzzz 1 Cyrl 112 Zzzz 45 Hmnp 3 Zzzz 14 Hmnp 2 Zzzz 10 Hmnp
    4 Zzzz 2 Hmnp 320 Zzzz 31 Toto 17 Zzzz 58 Wcho 5 Zzzz 1 Wcho 464 Zzzz 42 Nagm 214 Zzzz
    43 Onao 4 Zzzz 1 Onao 480 Zzzz 7 Ethi 1 Zzzz 4 Ethi 1 Zzzz 2 Ethi 1 Zzzz 15 Ethi 1 Zzzz
    197 Mend 2 Zzzz 16 Mend 41 Zzzz 76 Adlm 4 Zzzz 10 Adlm 4 Zzzz 2 Adlm 785 Zzzz 68 Zyyy
    76 Zzzz 61 Zyyy 194 Zzzz 4 Arab 1 Zzzz 27 Arab 1 Zzzz 2 Arab 1 Zzzz 1 Arab 2 Zzzz 1 Arab
    1 Zzzz 10 Arab 1 Zzzz 4 Arab 1 Zzzz 1 Arab 1 Zzzz 1 Arab 6 Zzzz 1 Arab 4 Zzzz 1 Arab 1 Zzzz
    1 Arab 1 Zzzz 1 Arab 1 Zzzz 3 Arab 1 Zzzz 2 Arab 1 Zzzz 1 Arab 2 Zzzz 1 Arab 1 Zzzz 1 Arab
    1 Zzzz 1 Arab 1 Zzzz 1 Arab 1 Zzzz 1 Arab 1 Zzzz 2 Arab 1 Zzzz 1 Arab 2 Zzzz 4 Arab 1 Zzzz
    7 Arab 1 Zzzz 4 Arab 1 Zzzz 4 Arab 1 Zzzz 1 Arab 1 Zzzz 10 Arab 1 Zzzz 17 Arab 5 Zzzz
    3 Arab 1 Zzzz 5 Arab 1 Zzzz 17 Arab 52 Zzzz 2 Arab 270 Zzzz 44 Zyyy 4 Zzzz 100 Zyyy 12 Zzzz
    15 Zyyy 2 Zzzz 15 Zyyy 1 Zzzz 15 Zyyy 1 Zzzz 37 Zyyy 10 Zzzz 174 Zyyy 56 Zzzz 26 Zyyy
    1 Hira 2 Zyyy 13 Zzzz 44 Zyyy 4 Zzzz 9 Zyyy 7 Zzzz 2 Zyyy 14 Zzzz 6 Zyyy 154 Zzzz 984 Zyyy
    4 Zzzz 17 Zyyy 3 Zzzz 13 Zyyy 3 Zzzz 119 Zyyy 4 Zzzz 95 Zyyy 6 Zzzz 12 Zyyy 4 Zzzz 1 Zyyy
    15 Zzzz 12 Zyyy 4 Zzzz 56 Zyyy 8 Zzzz 10 Zyyy 6 Zzzz 40 Zyyy 8 Zzzz 30 Zyyy 2 Zzzz 12 Zyyy
    4 Zzzz 2 Zyyy 62 Zzzz 340 Zyyy 12 Zzzz 14 Zyyy 2 Zzzz 13 Zyyy 3 Zzzz 10 Zyyy 5 Zzzz 56 Zyyy
    7 Zzzz 15 Zyyy 2 Zzzz 11 Zyyy 6 Zzzz 9 Zyyy 7 Zzzz 147 Zyyy 1 Zzzz 102 Zyyy 1030 Zzzz
    42720 Hani 32 Zzzz 4154 Hani 6 Zzzz 222 Hani 2 Zzzz 5762 Hani 14 Zzzz 7473 Hani 15 Zzzz
    622 Hani 2466 Zzzz 542 Hani 1506 Zzzz 4939 Hani 5 Zzzz 4192 Hani 711761 Zzzz 1 Zyyy 30 Zzzz
    96 Zyyy 128 Zzzz 240 Zinh 196112 Zzzz"

/-- The scripts that every code point is used with, as runs. -/
def scriptExtensionRuns : String :=
  "65 Zyyy 26 Latn 6 Zyyy 26 Latn 47 Zyyy 1 Latn 15 Zyyy 1 Latn 5 Zyyy 23 Latn 1 Zyyy 31 Latn
    1 Zyyy 449 Latn 39 Zyyy 5 Latn 5 Zyyy 2 Bopo 20 Zyyy 66 Zinh 1 Grek 2 Zinh 1 Grek 29 Zinh
    13 Latn 4 Grek 1 Zyyy 3 Grek 2 Zzzz 4 Grek 1 Zyyy 1 Grek 4 Zzzz 1 Grek 1 Zyyy 1 Grek 1 Zyyy
    3 Grek 1 Zzzz 1 Grek 1 Zzzz 20 Grek 1 Zzzz 63 Grek 14 Copt 16 Grek 131 Cyrl 1 Cyrl+Perm
    1 Cyrl+Glag 2 Cyrl+Latn 1 Cyrl+Glag 168 Cyrl 1 Zzzz 38 Armn 2 Zzzz 50 Armn 2 Zzzz 3 Armn
    1 Zzzz 55 Hebr 8 Zzzz 27 Hebr 4 Zzzz 6 Hebr 11 Zzzz 5 Arab 1 Zyyy 6 Arab
    1 Arab+Nkoo+Rohg+Syrc+Thaa+Yezi 14 Arab 1 Arab+Nkoo+Rohg+Syrc+Thaa+Yezi 1 Arab+Syrc+Thaa
    2 Arab 1 Adlm+Arab+Nkoo+Rohg+Syrc+Thaa+Yezi 32 Arab
    1 Adlm+Arab+Mand+Mani+Ougr+Phlp+Rohg+Sogd+Syrc 10 Arab 11 Arab+Syrc 10 Arab
    10 Arab+Thaa+Yezi 6 Arab 1 Arab+Syrc 99 Arab 1 Arab+Rohg 8 Arab 1 Zyyy 34 Arab 14 Syrc
    1 Zzzz 60 Syrc 2 Zzzz 3 Syrc 48 Arab 50 Thaa 14 Zzzz 59 Nkoo 2 Zzzz 3 Nkoo 46 Samr 2 Zzzz
    15 Samr 1 Zzzz 28 Mand 2 Zzzz 1 Mand 1 Zzzz 11 Syrc 5 Zzzz 31 Arab 1 Zzzz 2 Arab 5 Zzzz
    75 Arab 1 Zyyy 29 Arab 81 Deva
    1 Beng+Deva+Gran+Gujr+Guru+Knda+Latn+Mlym+Orya+Shrd+Taml+Telu+Tirh
    1 Beng+Deva+Gran+Gujr+Guru+Knda+Latn+Mlym+Orya+Taml+Telu+Tirh 2 Zinh 15 Deva
    1 Beng+Deva+Dogr+Gong+Gonm+Gran+Gujr+Guru+Knda+Mahj+Mlym+Nand+Orya+Sind+Sinh+Sylo+Takr+Taml+Telu+Tirh
    1 Beng+Deva+Dogr+Gong+Gonm+Gran+Gujr+Guru+Knda+Limb+Mahj+Mlym+Nand+Orya+Sind+Sinh+Sylo+Takr+Taml+Telu+Tirh
    10 Deva+Dogr+Kthi+Mahj 16 Deva 4 Beng 1 Zzzz 8 Beng 2 Zzzz 2 Beng 2 Zzzz 22 Beng 1 Zzzz
    7 Beng 1 Zzzz 1 Beng 3 Zzzz 4 Beng 2 Zzzz 9 Beng 2 Zzzz 2 Beng 2 Zzzz 4 Beng 8 Zzzz 1 Beng
    4 Zzzz 2 Beng 1 Zzzz 5 Beng 2 Zzzz 10 Beng+Cakm+Sylo 15 Beng 2 Zzzz 3 Guru 1 Zzzz 6 Guru
    4 Zzzz 2 Guru 2 Zzzz 22 Guru 1 Zzzz 7 Guru 1 Zzzz 2 Guru 1 Zzzz 2 Guru 1 Zzzz 2 Guru 2 Zzzz
    1 Guru 1 Zzzz 5 Guru 4 Zzzz 2 Guru 2 Zzzz 3 Guru 3 Zzzz 1 Guru 7 Zzzz 4 Guru 1 Zzzz 1 Guru
    7 Zzzz 10 Guru+Mult 7 Guru 10 Zzzz 3 Gujr 1 Zzzz 9 Gujr 1 Zzzz 3 Gujr 1 Zzzz 22 Gujr 1 Zzzz
    7 Gujr 1 Zzzz 2 Gujr 1 Zzzz 5 Gujr 2 Zzzz 10 Gujr 1 Zzzz 3 Gujr 1 Zzzz 3 Gujr 2 Zzzz 1 Gujr
    15 Zzzz 4 Gujr 2 Zzzz 10 Gujr+Khoj 2 Gujr 7 Zzzz 7 Gujr 1 Zzzz 3 Orya 1 Zzzz 8 Orya 2 Zzzz
    2 Orya 2 Zzzz 22 Orya 1 Zzzz 7 Orya 1 Zzzz 2 Orya 1 Zzzz 5 Orya 2 Zzzz 9 Orya 2 Zzzz 2 Orya
    2 Zzzz 3 Orya 7 Zzzz 3 Orya 4 Zzzz 2 Orya 1 Zzzz 5 Orya 2 Zzzz 18 Orya 10 Zzzz 2 Taml
    1 Zzzz 6 Taml 3 Zzzz 3 Taml 1 Zzzz 4 Taml 3 Zzzz 2 Taml 1 Zzzz 1 Taml 1 Zzzz 2 Taml 3 Zzzz
    2 Taml 3 Zzzz 3 Taml 3 Zzzz 12 Taml 4 Zzzz 5 Taml 3 Zzzz 3 Taml 1 Zzzz 4 Taml 2 Zzzz 1 Taml
    6 Zzzz 1 Taml 14 Zzzz 14 Gran+Taml 7 Taml 5 Zzzz 13 Telu 1 Zzzz 3 Telu 1 Zzzz 23 Telu
    1 Zzzz 16 Telu 2 Zzzz 9 Telu 1 Zzzz 3 Telu 1 Zzzz 4 Telu 7 Zzzz 2 Telu 1 Zzzz 3 Telu 2 Zzzz
    1 Telu 2 Zzzz 4 Telu 2 Zzzz 10 Telu 7 Zzzz 9 Telu 13 Knda 1 Zzzz 3 Knda 1 Zzzz 23 Knda
    1 Zzzz 10 Knda 1 Zzzz 5 Knda 2 Zzzz 9 Knda 1 Zzzz 3 Knda 1 Zzzz 4 Knda 7 Zzzz 2 Knda 6 Zzzz
    2 Knda 1 Zzzz 4 Knda 2 Zzzz 10 Knda+Nand 1 Zzzz 3 Knda 12 Zzzz 13 Mlym 1 Zzzz 3 Mlym 1 Zzzz
    51 Mlym 1 Zzzz 3 Mlym 1 Zzzz 6 Mlym 4 Zzzz 16 Mlym 2 Zzzz 26 Mlym 1 Zzzz 3 Sinh 1 Zzzz
    18 Sinh 3 Zzzz 24 Sinh 1 Zzzz 9 Sinh 1 Zzzz 1 Sinh 2 Zzzz 7 Sinh 3 Zzzz 1 Sinh 4 Zzzz
    6 Sinh 1 Zzzz 1 Sinh 1 Zzzz 8 Sinh 6 Zzzz 10 Sinh 2 Zzzz 3 Sinh 12 Zzzz 58 Thai 4 Zzzz
    1 Zyyy 28 Thai 37 Zzzz 2 Laoo 1 Zzzz 1 Laoo 1 Zzzz 5 Laoo 1 Zzzz 24 Laoo 1 Zzzz 1 Laoo
    1 Zzzz 23 Laoo 2 Zzzz 5 Laoo 1 Zzzz 1 Laoo 1 Zzzz 7 Laoo 1 Zzzz 10 Laoo 2 Zzzz 4 Laoo
    32 Zzzz 72 Tibt 1 Zzzz 36 Tibt 4 Zzzz 39 Tibt 1 Zzzz 36 Tibt 1 Zzzz 15 Tibt 1 Zzzz 7 Tibt
    4 Zyyy 2 Tibt 37 Zzzz 64 Mymr 10 Cakm+Mymr+Tale 86 Mymr 38 Geor 1 Zzzz 1 Geor 5 Zzzz 1 Geor
    2 Zzzz 43 Geor 1 Geor+Latn 4 Geor 256 Hang 73 Ethi 1 Zzzz 4 Ethi 2 Zzzz 7 Ethi 1 Zzzz
    1 Ethi 1 Zzzz 4 Ethi 2 Zzzz 41 Ethi 1 Zzzz 4 Ethi 2 Zzzz 33 Ethi 1 Zzzz 4 Ethi 2 Zzzz
    7 Ethi 1 Zzzz 1 Ethi 1 Zzzz 4 Ethi 2 Zzzz 15 Ethi 1 Zzzz 57 Ethi 1 Zzzz 4 Ethi 2 Zzzz
    67 Ethi 2 Zzzz 32 Ethi 3 Zzzz 26 Ethi 6 Zzzz 86 Cher 2 Zzzz 6 Cher 2 Zzzz 640 Cans 29 Ogam
    3 Zzzz 75 Runr 3 Zyyy 11 Runr 7 Zzzz 22 Tglg 9 Zzzz 1 Tglg 21 Hano 2 Buhd+Hano+Tagb+Tglg
    9 Zzzz 20 Buhd 12 Zzzz 13 Tagb 1 Zzzz 3 Tagb 1 Zzzz 2 Tagb 12 Zzzz 94 Khmr 2 Zzzz 10 Khmr
    6 Zzzz 10 Khmr 6 Zzzz 2 Mong 2 Mong+Phag 1 Mong 1 Mong+Phag 20 Mong 6 Zzzz 89 Mong 7 Zzzz
    43 Mong 5 Zzzz 70 Cans 10 Zzzz 31 Limb 1 Zzzz 12 Limb 4 Zzzz 12 Limb 4 Zzzz 1 Limb 3 Zzzz
    12 Limb 30 Tale 2 Zzzz 5 Tale 11 Zzzz 44 Talu 4 Zzzz 26 Talu 6 Zzzz 11 Talu 3 Zzzz 2 Talu
    32 Khmr 28 Bugi 2 Zzzz 2 Bugi 63 Lana 1 Zzzz 29 Lana 2 Zzzz 11 Lana 6 Zzzz 10 Lana 6 Zzzz
    14 Lana 2 Zzzz 31 Zinh 49 Zzzz 77 Bali 1 Zzzz 50 Bali 64 Sund 52 Batk 8 Zzzz 4 Batk 56 Lepc
    3 Zzzz 15 Lepc 3 Zzzz 3 Lepc 48 Olck 11 Cyrl 5 Zzzz 43 Geor 2 Zzzz 3 Geor 8 Sund 8 Zzzz
    1 Beng+Deva+Gran+Knda 1 Deva 1 Beng+Deva+Gran+Knda 1 Deva+Gran 1 Deva 2 Beng+Deva
    1 Deva+Shrd 1 Beng+Deva 1 Deva+Shrd 1 Deva+Knda+Mlym+Orya+Taml+Telu 1 Deva 2 Deva+Shrd
    2 Deva 1 Deva+Shrd 1 Beng+Deva 7 Deva 1 Deva+Nand 1 Beng+Deva 2 Deva 1 Beng+Deva 4 Deva
    1 Beng+Deva+Gran+Knda+Nand+Orya+Telu+Tirh 1 Deva+Gran 1 Deva+Gran+Knda 2 Beng+Deva 1 Beng
    2 Deva+Gran 1 Nand 5 Zzzz 38 Latn 5 Grek 1 Cyrl 49 Latn 5 Grek 4 Latn 5 Grek 13 Latn 1 Cyrl
    70 Latn 3 Grek 54 Zinh 1 Cyrl+Syrc 1 Zinh 1 Syrc 5 Zinh 256 Latn 22 Grek 2 Zzzz 6 Grek
    2 Zzzz 38 Grek 2 Zzzz 6 Grek 2 Zzzz 8 Grek 1 Zzzz 1 Grek 1 Zzzz 1 Grek 1 Zzzz 1 Grek 1 Zzzz
    31 Grek 2 Zzzz 53 Grek 1 Zzzz 15 Grek 1 Zzzz 14 Grek 2 Zzzz 6 Grek 1 Zzzz 19 Grek 2 Zzzz
    3 Grek 1 Zzzz 9 Grek 1 Zzzz 12 Zyyy 2 Zinh 33 Zyyy 1 Latn+Mong 53 Zyyy 1 Zzzz 11 Zyyy
    1 Latn 2 Zzzz 11 Zyyy 1 Latn 15 Zyyy 1 Zzzz 13 Latn 3 Zzzz 33 Zyyy 15 Zzzz 32 Zinh
    1 Deva+Gran+Latn 15 Zzzz 38 Zyyy 1 Grek 3 Zyyy 2 Latn 6 Zyyy 1 Latn 27 Zyyy 1 Latn 17 Zyyy
    41 Latn 3 Zyyy 4 Zzzz 666 Zyyy 22 Zzzz 11 Zyyy 21 Zzzz 928 Zyyy 256 Brai 628 Zyyy 2 Zzzz
    32 Zyyy 1 Zzzz 105 Zyyy 96 Glag 32 Latn 116 Copt 5 Zzzz 7 Copt 38 Geor 1 Zzzz 1 Geor 5 Zzzz
    1 Geor 2 Zzzz 56 Tfng 7 Zzzz 2 Tfng 14 Zzzz 1 Tfng 23 Ethi 9 Zzzz 7 Ethi 1 Zzzz 7 Ethi
    1 Zzzz 7 Ethi 1 Zzzz 7 Ethi 1 Zzzz 7 Ethi 1 Zzzz 7 Ethi 1 Zzzz 7 Ethi 1 Zzzz 7 Ethi 1 Zzzz
    32 Cyrl 67 Zyyy 1 Cyrl+Glag 26 Zyyy 34 Zzzz 26 Hani 1 Zzzz 89 Hani 12 Zzzz 214 Hani 26 Zzzz
    17 Zyyy 2 Bopo+Hang+Hani+Hira+Kana+Yiii 1 Bopo+Hang+Hani+Hira+Kana 1 Zyyy 3 Hani
    10 Bopo+Hang+Hani+Hira+Kana+Yiii 1 Zyyy 1 Bopo+Hang+Hani+Hira+Kana
    8 Bopo+Hang+Hani+Hira+Kana+Yiii 4 Bopo+Hang+Hani+Hira+Kana 1 Zyyy 9 Hani 4 Bopo+Hani 2 Hang
    1 Bopo+Hang+Hani+Hira+Kana 5 Hira+Kana 1 Zyyy 1 Bopo+Hang+Hani+Hira+Kana 4 Hani
    2 Hani+Hira+Kana 2 Hani 1 Zzzz 86 Hira 2 Zzzz 4 Hira+Kana 3 Hira 1 Hira+Kana 90 Kana
    1 Bopo+Hang+Hani+Hira+Kana+Yiii 1 Hira+Kana 3 Kana 5 Zzzz 43 Bopo 1 Zzzz 94 Hang 1 Zzzz
    16 Hani 32 Bopo 36 Hani 2 Zyyy 9 Zzzz 1 Zyyy 16 Kana 31 Hang 1 Zzzz 40 Hani 24 Zyyy 31 Hang
    1 Zyyy 49 Hani 15 Zyyy 12 Hani 4 Zyyy 47 Kana 1 Hani 88 Kana 25 Hani 10 Zyyy 5 Hani 96 Zyyy
    31 Hani 1 Zyyy 6592 Hani 64 Zyyy 20992 Hani 1165 Yiii 3 Zzzz 55 Yiii 9 Zzzz 48 Lisu
    300 Vaii 20 Zzzz 47 Cyrl 1 Cyrl+Glag 48 Cyrl 88 Bamu 8 Zzzz 8 Hani+Latn 26 Zyyy 102 Latn
    3 Zyyy 67 Latn 2 Zzzz 2 Latn 1 Zzzz 1 Latn 1 Zzzz 8 Latn 21 Zzzz 14 Latn 45 Sylo 3 Zzzz
    3 Deva+Dogr+Gujr+Guru+Khoj+Knda+Kthi+Mahj+Mlym+Modi+Nand+Sind+Takr+Tirh
    3 Deva+Dogr+Gujr+Guru+Khoj+Knda+Kthi+Mahj+Modi+Nand+Sind+Takr+Tirh
    4 Deva+Dogr+Gujr+Guru+Khoj+Kthi+Mahj+Modi+Sind+Takr+Tirh 6 Zzzz 56 Phag 8 Zzzz 70 Saur
    8 Zzzz 12 Saur 6 Zzzz 17 Deva 1 Beng+Deva 1 Deva 1 Deva+Taml 12 Deva 46 Kali
    1 Kali+Latn+Mymr 1 Kali 36 Rjng 11 Zzzz 1 Rjng 29 Hang 3 Zzzz 78 Java 1 Zzzz 1 Bugi+Java
    10 Java 4 Zzzz 2 Java 31 Mymr 1 Zzzz 55 Cham 9 Zzzz 14 Cham 2 Zzzz 10 Cham 2 Zzzz 4 Cham
    32 Mymr 67 Tavt 24 Zzzz 5 Tavt 23 Mtei 10 Zzzz 6 Ethi 2 Zzzz 6 Ethi 2 Zzzz 6 Ethi 9 Zzzz
    7 Ethi 1 Zzzz 7 Ethi 1 Zzzz 43 Latn 1 Zyyy 9 Latn 1 Grek 4 Latn 2 Zyyy 4 Zzzz 80 Cher
    46 Mtei 2 Zzzz 10 Mtei 6 Zzzz 11172 Hang 12 Zzzz 23 Hang 4 Zzzz 49 Hang 8452 Zzzz 366 Hani
    2 Zzzz 106 Hani 38 Zzzz 7 Latn 12 Zzzz 5 Armn 5 Zzzz 26 Hebr 1 Zzzz 5 Hebr 1 Zzzz 1 Hebr
    1 Zzzz 2 Hebr 1 Zzzz 2 Hebr 1 Zzzz 10 Hebr 115 Arab 16 Zzzz 363 Arab 2 Arab+Nkoo 80 Arab
    2 Zzzz 54 Arab 7 Zzzz 1 Arab 32 Zzzz 2 Arab 1 Arab+Thaa 10 Arab 1 Arab+Thaa 2 Arab 16 Zinh
    10 Zyyy 6 Zzzz 14 Zinh 2 Cyrl 21 Zyyy 2 Bopo+Hang+Hani+Hira+Kana 12 Zyyy 1 Zzzz 19 Zyyy
    1 Zzzz 4 Zyyy 4 Zzzz 5 Arab 1 Zzzz 135 Arab 2 Zzzz 1 Zyyy 1 Zzzz 32 Zyyy 26 Latn 6 Zyyy
    26 Latn 6 Zyyy 5 Bopo+Hang+Hani+Hira+Kana+Yiii 10 Kana 1 Hira+Kana 45 Kana 2 Hira+Kana
    31 Hang 3 Zzzz 6 Hang 2 Zzzz 6 Hang 2 Zzzz 6 Hang 2 Zzzz 3 Hang 3 Zzzz 7 Zyyy 1 Zzzz 7 Zyyy
    10 Zzzz 5 Zyyy 2 Zzzz 12 Linb 1 Zzzz 26 Linb 1 Zzzz 19 Linb 1 Zzzz 2 Linb 1 Zzzz 15 Linb
    2 Zzzz 14 Linb 34 Zzzz 123 Linb 5 Zzzz 2 Cpmn+Cprt+Linb 1 Cprt+Linb 4 Zzzz
    45 Cprt+Lina+Linb 3 Zzzz 9 Cprt+Linb 79 Grek 1 Zzzz 13 Zyyy 3 Zzzz 1 Grek 47 Zzzz 45 Zyyy
    1 Zinh 130 Zzzz 29 Lyci 3 Zzzz 49 Cari 15 Zzzz 28 Arab+Copt 4 Zzzz 36 Ital 9 Zzzz 3 Ital
    27 Goth 5 Zzzz 43 Perm 5 Zzzz 30 Ugar 1 Zzzz 1 Ugar 36 Xpeo 4 Zzzz 14 Xpeo 42 Zzzz 80 Dsrt
    48 Shaw 30 Osma 2 Zzzz 10 Osma 6 Zzzz 36 Osge 4 Zzzz 36 Osge 4 Zzzz 40 Elba 8 Zzzz 52 Aghb
    11 Zzzz 1 Aghb 11 Vith 1 Zzzz 15 Vith 1 Zzzz 7 Vith 1 Zzzz 2 Vith 1 Zzzz 11 Vith 1 Zzzz
    15 Vith 1 Zzzz 7 Vith 1 Zzzz 2 Vith 3 Zzzz 52 Todr 12 Zzzz 311 Lina 9 Zzzz 22 Lina 10 Zzzz
    8 Lina 24 Zzzz 6 Latn 1 Zzzz 42 Latn 1 Zzzz 9 Latn 69 Zzzz 6 Cprt 2 Zzzz 1 Cprt 1 Zzzz
    44 Cprt 1 Zzzz 2 Cprt 3 Zzzz 1 Cprt 2 Zzzz 1 Cprt 22 Armi 1 Zzzz 9 Armi 32 Palm 31 Nbat
    8 Zzzz 9 Nbat 48 Zzzz 19 Hatr 1 Zzzz 2 Hatr 5 Zzzz 5 Hatr 28 Phnx 3 Zzzz 1 Phnx 26 Lydi
    5 Zzzz 1 Lydi 64 Zzzz 32 Mero 24 Merc 4 Zzzz 20 Merc 2 Zzzz 46 Merc 4 Khar 1 Zzzz 2 Khar
    5 Zzzz 8 Khar 1 Zzzz 3 Khar 1 Zzzz 29 Khar 2 Zzzz 3 Khar 4 Zzzz 10 Khar 7 Zzzz 9 Khar
    7 Zzzz 32 Sarb 32 Narb 32 Zzzz 39 Mani 4 Zzzz 7 Mani 1 Mani+Ougr 4 Mani 9 Zzzz 54 Avst
    3 Zzzz 7 Avst 22 Prti 2 Zzzz 8 Prti 19 Phli 5 Zzzz 8 Phli 18 Phlp 7 Zzzz 4 Phlp 12 Zzzz
    7 Phlp 80 Zzzz 73 Orkh 55 Zzzz 51 Hung 13 Zzzz 51 Hung 7 Zzzz 6 Hung 40 Rohg 8 Zzzz 10 Rohg
    6 Zzzz 38 Gara 3 Zzzz 29 Gara 8 Zzzz 2 Gara 208 Zzzz 31 Arab 1 Zzzz 42 Yezi 1 Zzzz 3 Yezi
    2 Zzzz 2 Yezi 16 Zzzz 3 Arab 55 Zzzz 4 Arab 40 Sogo 8 Zzzz 42 Sogd 22 Zzzz 26 Ougr 38 Zzzz
    28 Chrs 20 Zzzz 23 Elym 9 Zzzz 78 Brah 4 Zzzz 36 Brah 9 Zzzz 1 Brah 67 Kthi 10 Zzzz 1 Kthi
    2 Zzzz 25 Sora 7 Zzzz 10 Sora 6 Zzzz 53 Cakm 1 Zzzz 18 Cakm 8 Zzzz 39 Mahj 9 Zzzz 96 Shrd
    1 Zzzz 20 Sinh 11 Zzzz 18 Khoj 1 Zzzz 47 Khoj 62 Zzzz 7 Mult 1 Zzzz 1 Mult 1 Zzzz 4 Mult
    1 Zzzz 15 Mult 1 Zzzz 11 Mult 6 Zzzz 59 Sind 5 Zzzz 10 Sind 6 Zzzz 1 Gran 1 Gran+Taml
    1 Gran 1 Gran+Taml 1 Zzzz 8 Gran 2 Zzzz 2 Gran 2 Zzzz 22 Gran 1 Zzzz 7 Gran 1 Zzzz 2 Gran
    1 Zzzz 5 Gran 1 Zzzz 2 Gran+Taml 8 Gran 2 Zzzz 2 Gran 2 Zzzz 3 Gran 2 Zzzz 1 Gran 6 Zzzz
    1 Gran 5 Zzzz 7 Gran 2 Zzzz 7 Gran 3 Zzzz 5 Gran 11 Zzzz 10 Tutg 1 Zzzz 1 Tutg 2 Zzzz
    1 Tutg 1 Zzzz 38 Tutg 1 Zzzz 10 Tutg 1 Zzzz 1 Tutg 2 Zzzz 1 Tutg 1 Zzzz 4 Tutg 1 Zzzz
    10 Tutg 1 Zzzz 2 Tutg 8 Zzzz 2 Tutg 29 Zzzz 92 Newa 1 Zzzz 5 Newa 30 Zzzz 72 Tirh 8 Zzzz
    10 Tirh 166 Zzzz 54 Sidd 2 Zzzz 38 Sidd 34 Zzzz 69 Modi 11 Zzzz 10 Modi 6 Zzzz 13 Mong
    19 Zzzz 58 Takr 6 Zzzz 10 Takr 6 Zzzz 20 Mymr 28 Zzzz 27 Ahom 2 Zzzz 15 Ahom 4 Zzzz 23 Ahom
    185 Zzzz 60 Dogr 100 Zzzz 83 Wara 12 Zzzz 1 Wara 7 Diak 2 Zzzz 1 Diak 2 Zzzz 8 Diak 1 Zzzz
    2 Diak 1 Zzzz 30 Diak 1 Zzzz 2 Diak 2 Zzzz 12 Diak 9 Zzzz 10 Diak 70 Zzzz 8 Nand 2 Zzzz
    46 Nand 2 Zzzz 11 Nand 27 Zzzz 72 Zanb 8 Zzzz 83 Soyo 13 Zzzz 16 Cans 57 Pauc 7 Zzzz
    10 Deva 182 Zzzz 34 Sunu 14 Zzzz 10 Sunu 6 Zzzz 9 Bhks 1 Zzzz 45 Bhks 1 Zzzz 14 Bhks
    10 Zzzz 29 Bhks 3 Zzzz 32 Marc 2 Zzzz 22 Marc 1 Zzzz 14 Marc 73 Zzzz 7 Gonm 1 Zzzz 2 Gonm
    1 Zzzz 44 Gonm 3 Zzzz 1 Gonm 1 Zzzz 2 Gonm 1 Zzzz 9 Gonm 8 Zzzz 10 Gonm 6 Zzzz 6 Gong
    1 Zzzz 2 Gong 1 Zzzz 37 Gong 1 Zzzz 2 Gong 1 Zzzz 6 Gong 7 Zzzz 10 Gong 310 Zzzz 25 Maka
    7 Zzzz 17 Kawi 1 Zzzz 41 Kawi 3 Zzzz 29 Kawi 85 Zzzz 1 Lisu 15 Zzzz 16 Taml 2 Gran+Taml
    1 Taml 1 Gran+Taml 30 Taml 13 Zzzz 1 Taml 922 Xsux 102 Zzzz 111 Xsux 1 Zzzz 5 Xsux 11 Zzzz
    196 Xsux 2636 Zzzz 99 Cpmn 13 Zzzz 1110 Egyp 10 Zzzz 3995 Egyp 5 Zzzz 583 Hluw 6841 Zzzz
    58 Gukh 1734 Zzzz 569 Bamu 7 Zzzz 31 Mroo 1 Zzzz 10 Mroo 4 Zzzz 2 Mroo 79 Tnsa 1 Zzzz
    10 Tnsa 6 Zzzz 30 Bass 2 Zzzz 6 Bass 10 Zzzz 70 Hmng 10 Zzzz 10 Hmng 1 Zzzz 7 Hmng 1 Zzzz
    21 Hmng 5 Zzzz 19 Hmng 432 Zzzz 58 Krai 198 Zzzz 91 Medf 101 Zzzz 75 Plrd 4 Zzzz 57 Plrd
    7 Zzzz 17 Plrd 64 Zzzz 1 Tang 1 Nshu 2 Hani 1 Kits 11 Zzzz 2 Hani 14 Zzzz 6136 Tang 8 Zzzz
    768 Tang 470 Kits 41 Zzzz 1 Kits 9 Tang 8935 Zzzz 4 Kana 1 Zzzz 7 Kana 1 Zzzz 2 Kana 1 Zzzz
    1 Kana 287 Hira 3 Kana 15 Zzzz 1 Hira 29 Zzzz 3 Hira 2 Zzzz 1 Kana 14 Zzzz 4 Kana 8 Zzzz
    396 Nshu 2308 Zzzz 107 Dupl 5 Zzzz 13 Dupl 3 Zzzz 9 Dupl 7 Zzzz 10 Dupl 2 Zzzz 8 Dupl
    3932 Zzzz 250 Zyyy 6 Zzzz 436 Zyyy 76 Zzzz 46 Zinh 2 Zzzz 23 Zinh 9 Zzzz 116 Zyyy 60 Zzzz
    246 Zyyy 10 Zzzz 39 Zyyy 2 Zzzz 62 Zyyy 3 Zinh 17 Zyyy 8 Zinh 2 Zyyy 7 Zinh 30 Zyyy 4 Zinh
    61 Zyyy 21 Zzzz 70 Grek 122 Zzzz 20 Zyyy 12 Zzzz 20 Zyyy 12 Zzzz 87 Zyyy 9 Zzzz 18 Hani
    7 Zyyy 135 Zzzz 85 Zyyy 1 Zzzz 71 Zyyy 1 Zzzz 2 Zyyy 2 Zzzz 1 Zyyy 2 Zzzz 2 Zyyy 2 Zzzz
    4 Zyyy 1 Zzzz 12 Zyyy 1 Zzzz 1 Zyyy 1 Zzzz 7 Zyyy 1 Zzzz 65 Zyyy 1 Zzzz 4 Zyyy 2 Zzzz
    8 Zyyy 1 Zzzz 7 Zyyy 1 Zzzz 28 Zyyy 1 Zzzz 4 Zyyy 1 Zzzz 5 Zyyy 1 Zzzz 1 Zyyy 3 Zzzz 7 Zyyy
    1 Zzzz 340 Zyyy 2 Zzzz 292 Zyyy 2 Zzzz 50 Zyyy 652 Sgnw 15 Zzzz 5 Sgnw 1 Zzzz 15 Sgnw
    1104 Zzzz 31 Latn 6 Zzzz 6 Latn 213 Zzzz 7 Glag 1 Zzzz 17 Glag 2 Zzzz 7 Glag 1 Zzzz 2 Glag
    1 Zzzz 5 Glag 5 Zzzz 62 Cyrl 33 Zzzz 1 Cyrl 112 Zzzz 45 Hmnp 3 Zzzz 14 Hmnp 2 Zzzz 10 Hmnp
    4 Zzzz 2 Hmnp 320 Zzzz 31 Toto 17 Zzzz 58 Wcho 5 Zzzz 1 Wcho 464 Zzzz 42 Nagm 214 Zzzz
    43 Onao 4 Zzzz 1 Onao 480 Zzzz 7 Ethi 1 Zzzz 4 Ethi 1 Zzzz 2 Ethi 1 Zzzz 15 Ethi 1 Zzzz
    197 Mend 2 Zzzz 16 Mend 41 Zzzz 76 Adlm 4 Zzzz 10 Adlm 4 Zzzz 2 Adlm 785 Zzzz 68 Zyyy
    76 Zzzz 61 Zyyy 194 Zzzz 4 Arab 1 Zzzz 27 Arab 1 Zzzz 2 Arab 1 Zzzz 1 Arab 2 Zzzz 1 Arab
    1 Zzzz 10 Arab 1 Zzzz 4 Arab 1 Zzzz 1 Arab 1 Zzzz 1 Arab 6 Zzzz 1 Arab 4 Zzzz 1 Arab 1 Zzzz
    1 Arab 1 Zzzz 1 Arab 1 Zzzz 3 Arab 1 Zzzz 2 Arab 1 Zzzz 1 Arab 2 Zzzz 1 Arab 1 Zzzz 1 Arab
    1 Zzzz 1 Arab 1 Zzzz 1 Arab 1 Zzzz 1 Arab 1 Zzzz 2 Arab 1 Zzzz 1 Arab 2 Zzzz 4 Arab 1 Zzzz
    7 Arab 1 Zzzz 4 Arab 1 Zzzz 4 Arab 1 Zzzz 1 Arab 1 Zzzz 10 Arab 1 Zzzz 17 Arab 5 Zzzz
    3 Arab 1 Zzzz 5 Arab 1 Zzzz 17 Arab 52 Zzzz 2 Arab 270 Zzzz 44 Zyyy 4 Zzzz 100 Zyyy 12 Zzzz
    15 Zyyy 2 Zzzz 15 Zyyy 1 Zzzz 15 Zyyy 1 Zzzz 37 Zyyy 10 Zzzz 174 Zyyy 56 Zzzz 26 Zyyy
    1 Hira 2 Zyyy 13 Zzzz 44 Zyyy 4 Zzzz 9 Zyyy 7 Zzzz 2 Hani 14 Zzzz 6 Zyyy 154 Zzzz 984 Zyyy
    4 Zzzz 17 Zyyy 3 Zzzz 13 Zyyy 3 Zzzz 119 Zyyy 4 Zzzz 95 Zyyy 6 Zzzz 12 Zyyy 4 Zzzz 1 Zyyy
    15 Zzzz 12 Zyyy 4 Zzzz 56 Zyyy 8 Zzzz 10 Zyyy 6 Zzzz 40 Zyyy 8 Zzzz 30 Zyyy 2 Zzzz 12 Zyyy
    4 Zzzz 2 Zyyy 62 Zzzz 340 Zyyy 12 Zzzz 14 Zyyy 2 Zzzz 13 Zyyy 3 Zzzz 10 Zyyy 5 Zzzz 56 Zyyy
    7 Zzzz 15 Zyyy 2 Zzzz 11 Zyyy 6 Zzzz 9 Zyyy 7 Zzzz 147 Zyyy 1 Zzzz 102 Zyyy 1030 Zzzz
    42720 Hani 32 Zzzz 4154 Hani 6 Zzzz 222 Hani 2 Zzzz 5762 Hani 14 Zzzz 7473 Hani 15 Zzzz
    622 Hani 2466 Zzzz 542 Hani 1506 Zzzz 4939 Hani 5 Zzzz 4192 Hani 711761 Zzzz 1 Zyyy 30 Zzzz
    96 Zyyy 128 Zzzz 240 Zinh 196112 Zzzz"

/-- The scripts: code and names. -/
def scriptNames : List (String × List String) :=
  [("Adlm", ["adlam", "adlm"]),
   ("Aghb", ["aghb", "caucasianalbanian"]),
   ("Ahom", ["ahom"]),
   ("Arab", ["arab", "arabic"]),
   ("Armi", ["armi", "imperialaramaic"]),
   ("Armn", ["armenian", "armn"]),
   ("Avst", ["avestan", "avst"]),
   ("Bali", ["bali", "balinese"]),
   ("Bamu", ["bamu", "bamum"]),
   ("Bass", ["bass", "bassavah"]),
   ("Batk", ["batak", "batk"]),
   ("Beng", ["beng", "bengali"]),
   ("Bhks", ["bhaiksuki", "bhks"]),
   ("Bopo", ["bopo", "bopomofo"]),
   ("Brah", ["brah", "brahmi"]),
   ("Brai", ["brai", "braille"]),
   ("Bugi", ["bugi", "buginese"]),
   ("Buhd", ["buhd", "buhid"]),
   ("Cakm", ["cakm", "chakma"]),
   ("Cans", ["canadianaboriginal", "cans"]),
   ("Cari", ["cari", "carian"]),
   ("Cham", ["cham"]),
   ("Cher", ["cher", "cherokee"]),
   ("Chrs", ["chorasmian", "chrs"]),
   ("Copt", ["copt", "coptic", "qaac"]),
   ("Cpmn", ["cpmn", "cyprominoan"]),
   ("Cprt", ["cprt", "cypriot"]),
   ("Cyrl", ["cyrillic", "cyrl"]),
   ("Deva", ["deva", "devanagari"]),
   ("Diak", ["diak", "divesakuru"]),
   ("Dogr", ["dogr", "dogra"]),
   ("Dsrt", ["deseret", "dsrt"]),
   ("Dupl", ["dupl", "duployan"]),
   ("Egyp", ["egyp", "egyptianhieroglyphs"]),
   ("Elba", ["elba", "elbasan"]),
   ("Elym", ["elym", "elymaic"]),
   ("Ethi", ["ethi", "ethiopic"]),
   ("Gara", ["gara", "garay"]),
   ("Geor", ["geor", "georgian"]),
   ("Glag", ["glag", "glagolitic"]),
   ("Gong", ["gong", "gunjalagondi"]),
   ("Gonm", ["gonm", "masaramgondi"]),
   ("Goth", ["goth", "gothic"]),
   ("Gran", ["gran", "grantha"]),
   ("Grek", ["greek", "grek"]),
   ("Gujr", ["gujarati", "gujr"]),
   ("Gukh", ["gukh", "gurungkhema"]),
   ("Guru", ["gurmukhi", "guru"]),
   ("Hang", ["hang", "hangul"]),
   ("Hani", ["han", "hani"]),
   ("Hano", ["hano", "hanunoo"]),
   ("Hatr", ["hatr", "hatran"]),
   ("Hebr", ["hebr", "hebrew"]),
   ("Hira", ["hira", "hiragana"]),
   ("Hluw", ["anatolianhieroglyphs", "hluw"]),
   ("Hmng", ["hmng", "pahawhhmong"]),
   ("Hmnp", ["hmnp", "nyiakengpuachuehmong"]),
   ("Hrkt", []),
   ("Hung", ["hung", "oldhungarian"]),
   ("Ital", ["ital", "olditalic"]),
   ("Java", ["java", "javanese"]),
   ("Kali", ["kali", "kayahli"]),
   ("Kana", ["kana", "katakana"]),
   ("Kawi", ["kawi"]),
   ("Khar", ["khar", "kharoshthi"]),
   ("Khmr", ["khmer", "khmr"]),
   ("Khoj", ["khoj", "khojki"]),
   ("Kits", ["khitansmallscript", "kits"]),
   ("Knda", ["kannada", "knda"]),
   ("Krai", ["kiratrai", "krai"]),
   ("Kthi", ["kaithi", "kthi"]),
   ("Lana", ["lana", "taitham"]),
   ("Laoo", ["lao", "laoo"]),
   ("Latn", ["latin", "latn"]),
   ("Lepc", ["lepc", "lepcha"]),
   ("Limb", ["limb", "limbu"]),
   ("Lina", ["lina", "lineara"]),
   ("Linb", ["linb", "linearb"]),
   ("Lisu", ["lisu"]),
   ("Lyci", ["lyci", "lycian"]),
   ("Lydi", ["lydi", "lydian"]),
   ("Mahj", ["mahajani", "mahj"]),
   ("Maka", ["maka", "makasar"]),
   ("Mand", ["mand", "mandaic"]),
   ("Mani", ["mani", "manichaean"]),
   ("Marc", ["marc", "marchen"]),
   ("Medf", ["medefaidrin", "medf"]),
   ("Mend", ["mend", "mendekikakui"]),
   ("Merc", ["merc", "meroiticcursive"]),
   ("Mero", ["mero", "meroitichieroglyphs"]),
   ("Mlym", ["malayalam", "mlym"]),
   ("Modi", ["modi"]),
   ("Mong", ["mong", "mongolian"]),
   ("Mroo", ["mro", "mroo"]),
   ("Mtei", ["meeteimayek", "mtei"]),
   ("Mult", ["mult", "multani"]),
   ("Mymr", ["myanmar", "mymr"]),
   ("Nagm", ["nagm", "nagmundari"]),
   ("Nand", ["nand", "nandinagari"]),
   ("Narb", ["narb", "oldnortharabian"]),
   ("Nbat", ["nabataean", "nbat"]),
   ("Newa", ["newa"]),
   ("Nkoo", ["nko", "nkoo"]),
   ("Nshu", ["nshu", "nushu"]),
   ("Ogam", ["ogam", "ogham"]),
   ("Olck", ["olchiki", "olck"]),
   ("Onao", ["olonal", "onao"]),
   ("Orkh", ["oldturkic", "orkh"]),
   ("Orya", ["oriya", "orya"]),
   ("Osge", ["osage", "osge"]),
   ("Osma", ["osma", "osmanya"]),
   ("Ougr", ["olduyghur", "ougr"]),
   ("Palm", ["palm", "palmyrene"]),
   ("Pauc", ["pauc", "paucinhau"]),
   ("Perm", ["oldpermic", "perm"]),
   ("Phag", ["phag", "phagspa"]),
   ("Phli", ["inscriptionalpahlavi", "phli"]),
   ("Phlp", ["phlp", "psalterpahlavi"]),
   ("Phnx", ["phnx", "phoenician"]),
   ("Plrd", ["miao", "plrd"]),
   ("Prti", ["inscriptionalparthian", "prti"]),
   ("Rjng", ["rejang", "rjng"]),
   ("Rohg", ["hanifirohingya", "rohg"]),
   ("Runr", ["runic", "runr"]),
   ("Samr", ["samaritan", "samr"]),
   ("Sarb", ["oldsoutharabian", "sarb"]),
   ("Saur", ["saur", "saurashtra"]),
   ("Sgnw", ["sgnw", "signwriting"]),
   ("Shaw", ["shavian", "shaw"]),
   ("Shrd", ["sharada", "shrd"]),
   ("Sidd", ["sidd", "siddham"]),
   ("Sind", ["khudawadi", "sind"]),
   ("Sinh", ["sinh", "sinhala"]),
   ("Sogd", ["sogd", "sogdian"]),
   ("Sogo", ["oldsogdian", "sogo"]),
   ("Sora", ["sora", "sorasompeng"]),
   ("Soyo", ["soyo", "soyombo"]),
   ("Sund", ["sund", "sundanese"]),
   ("Sunu", ["sunu", "sunuwar"]),
   ("Sylo", ["sylo", "sylotinagri"]),
   ("Syrc", ["syrc", "syriac"]),
   ("Tagb", ["tagb", "tagbanwa"]),
   ("Takr", ["takr", "takri"]),
   ("Tale", ["taile", "tale"]),
   ("Talu", ["newtailue", "talu"]),
   ("Taml", ["tamil", "taml"]),
   ("Tang", ["tang", "tangut"]),
   ("Tavt", ["taiviet", "tavt"]),
   ("Telu", ["telu", "telugu"]),
   ("Tfng", ["tfng", "tifinagh"]),
   ("Tglg", ["tagalog", "tglg"]),
   ("Thaa", ["thaa", "thaana"]),
   ("Thai", ["thai"]),
   ("Tibt", ["tibetan", "tibt"]),
   ("Tirh", ["tirh", "tirhuta"]),
   ("Tnsa", ["tangsa", "tnsa"]),
   ("Todr", ["todhri", "todr"]),
   ("Toto", ["toto"]),
   ("Tutg", ["tulutigalari", "tutg"]),
   ("Ugar", ["ugar", "ugaritic"]),
   ("Vaii", ["vai", "vaii"]),
   ("Vith", ["vith", "vithkuqi"]),
   ("Wara", ["wara", "warangciti"]),
   ("Wcho", ["wancho", "wcho"]),
   ("Xpeo", ["oldpersian", "xpeo"]),
   ("Xsux", ["cuneiform", "xsux"]),
   ("Yezi", ["yezi", "yezidi"]),
   ("Yiii", ["yi", "yiii"]),
   ("Zanb", ["zanabazarsquare", "zanb"]),
   ("Zinh", ["inherited", "qaai", "zinh"]),
   ("Zyyy", ["common", "zyyy"]),
   ("Zzzz", ["unknown", "zzzz"])]

/-- The code of the script with this name. -/
def scriptCode? (name : String) : Option String :=
  (scriptNames.find? fun r => name ∈ r.2).map (·.1)

/-- The characters of the script with this name. -/
def script? (name : String) : Option CharSet :=
  (scriptCode? name).map fun code =>
    .normalize ((labelledRuns scriptRuns).filterMap fun r =>
      if r.2.2 = code then some (r.1, r.2.1) else none)

/-- The codes in a label, divided by plus signs. -/
def codesOf (label : String) : List String :=
  (wordsOf (label.toList.map fun c => if c = '+' then ' ' else c)).map String.ofList

/-- The characters that are used with the script of this name. -/
def scriptExtension? (name : String) : Option CharSet :=
  (scriptCode? name).map fun code =>
    .normalize ((labelledRuns scriptExtensionRuns).filterMap fun r =>
      if code ∈ codesOf r.2.2 then some (r.1, r.2.1) else none)

end CivicForum.Text
