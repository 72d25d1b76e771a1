/-!
# Signs in one form

Signs that stand for letters and digits in domains: raised and circled characters, fractions,
squares that hold a word, and letters as mathematics and Arabic mathematics draw them. A row
gives what a character and those that follow it stand for.
-/
namespace MailSync.Url.Folding

def signRows : List String := [
  "2011 2010",
  "2017 20+333",
  "202F 20",
  "2033 2032+2032 2032+2032+2032 - 2035+2035 2035+2035+2035",
  "203C 21+21 - 20+305",
  "2047 3F+3F 3F+21 21+3F",
  "2057 2032+2032+2032+2032",
  "205F 20",
  "2070 30 69",
  "207A 2B 2212 3D 28 29 6E",
  "208A 2B 2212 3D 28 29 - 61 65 6F 78 259 68",
  "209A 70 73 74 77 79 7A",
  "20A8 72+73",
  "2100 61+2F+63 61+2F+73 63 B0+63 - 63+2F+6F 63+2F+75 25B - B0+66 67 68 68 68 68 127 69 69 6C 6C",
  "2115 6E 6E+6F",
  "2119 70 71 72 72 72",
  "2120 73+6D 74+65+6C 74+6D - 7A - 3C9 - 7A - 6B E5 62 63 - 65 65 66 214E 6D 6F",
  "2139 69 - 66+61+78 3C0 3B3 3B3 3C0 2211",
  "2145 64 64 65 69 6A",
  "2150 31+2044+37 31+2044+39 31+2044+31+30 31+2044+33 32+2044+33 31+2044+35 32+2044+35",
  "2157 33+2044+35 34+2044+35 31+2044+36 35+2044+36 31+2044+38 33+2044+38 35+2044+38 37+2044+38",
  "215F 31+2044 69 69+69 69+69+69 69+76 76 76+69 76+69+69 76+69+69+69 69+78 78 78+69 78+69+69 6C",
  "216D 63 64 6D 69 69+69 69+69+69 69+76 76 76+69 76+69+69 76+69+69+69 69+78 78 78+69 78+69+69 6C",
  "217D 63 64 6D",
  "2183 2184",
  "2189 30+2044+33",
  "222C 222B+222B 222B+222B+222B - 222E+222E 222E+222E+222E",
  "2329 3008 3009",
  "2469 31+30 31+31 31+32 31+33 31+34 31+35 31+36 31+37 31+38 31+39 32+30 28+31+29 28+32+29",
  "2476 28+33+29 28+34+29 28+35+29 28+36+29 28+37+29 28+38+29 28+39+29 28+31+30+29 28+31+31+29",
  "247F 28+31+32+29 28+31+33+29 28+31+34+29 28+31+35+29 28+31+36+29 28+31+37+29 28+31+38+29",
  "2486 28+31+39+29 28+32+30+29",
  "249C 28+61+29 28+62+29 28+63+29 28+64+29 28+65+29 28+66+29 28+67+29 28+68+29 28+69+29 28+6A+29",
  "24A6 28+6B+29 28+6C+29 28+6D+29 28+6E+29 28+6F+29 28+70+29 28+71+29 28+72+29 28+73+29 28+74+29",
  "24B0 28+75+29 28+76+29 28+77+29 28+78+29 28+79+29 28+7A+29",
  "24EA 30",
  "2A0C 222B+222B+222B+222B",
  "2A74 3A+3A+3D 3D+3D 3D+3D+3D",
  "2ADC 2ADD+338",
  "3000 20 - 2E",
  "3036 3012 - 5341 5344 5345",
  "309B 20+3099 20+309A",
  "309F 3088+308A",
  "30FF 30B3+30C8",
  "3131 1100 1101 11AA 1102 11AC 11AD 1103 1104 1105",
  "3140 111A 1106 1107 1108 1121",
  "3165 1114 1115 11C7 11C8 11CC 11CE 11D3 11D7 11D9 111C 11DD 11DF 111D 111E 1120 1122 1123 1127",
  "3177 1129",
  "317D 1132 1136 1140 1147 114C 11F1 11F2 1157 1158 1159 1184 1185 1188 1191 1192 1194 119E 11A1",
  "3192 4E00 4E8C 4E09 56DB 4E0A 4E2D 4E0B 7532 4E59 4E19 4E01 5929 5730 4EBA",
  "3200 28+1100+29 28+1102+29 28+1103+29 28+1105+29 28+1106+29 28+1107+29 28+1109+29 28+110B+29",
  "3208 28+110C+29 28+110E+29 28+110F+29 28+1110+29 28+1111+29 28+1112+29 28+AC00+29 28+B098+29",
  "3210 28+B2E4+29 28+B77C+29 28+B9C8+29 28+BC14+29 28+C0AC+29 28+C544+29 28+C790+29 28+CC28+29",
  "3218 28+CE74+29 28+D0C0+29 28+D30C+29 28+D558+29 28+C8FC+29 28+C624+C804+29 28+C624+D6C4+29",
  "3220 28+4E00+29 28+4E8C+29 28+4E09+29 28+56DB+29 28+4E94+29 28+516D+29 28+4E03+29 28+516B+29",
  "3228 28+4E5D+29 28+5341+29 28+6708+29 28+706B+29 28+6C34+29 28+6728+29 28+91D1+29 28+571F+29",
  "3230 28+65E5+29 28+682A+29 28+6709+29 28+793E+29 28+540D+29 28+7279+29 28+8CA1+29 28+795D+29",
  "3238 28+52B4+29 28+4EE3+29 28+547C+29 28+5B66+29 28+76E3+29 28+4F01+29 28+8CC7+29 28+5354+29",
  "3240 28+796D+29 28+4F11+29 28+81EA+29 28+81F3+29 554F 5E7C 6587 7B8F",
  "3250 70+74+65 32+31 32+32 32+33 32+34 32+35 32+36 32+37 32+38 32+39 33+30 33+31 33+32 33+33",
  "325E 33+34 33+35 1100 1102 1103 1105 1106 1107 1109 110B 110C",
  "326E AC00 B098 B2E4 B77C B9C8 BC14 C0AC C544 C790 CC28 CE74 D0C0 D30C D558 CC38+ACE0 C8FC+C758",
  "327E C6B0 - 4E00 4E8C 4E09 56DB 4E94 516D 4E03 516B 4E5D 5341 6708 706B 6C34 6728 91D1 571F",
  "3290 65E5 682A 6709 793E 540D 7279 8CA1 795D 52B4 79D8 7537 5973 9069 512A 5370 6CE8 9805 4F11",
  "32A2 5199 6B63 4E0A 4E2D 4E0B 5DE6 53F3 533B 5B97 5B66 76E3 4F01 8CC7 5354 591C 33+36 33+37",
  "32B3 33+38 33+39 34+30 34+31 34+32 34+33 34+34 34+35 34+36 34+37 34+38 34+39 35+30 31+6708",
  "32C1 32+6708 33+6708 34+6708 35+6708 36+6708 37+6708 38+6708 39+6708 31+30+6708 31+31+6708",
  "32CB 31+32+6708 68+67 65+72+67 65+76 6C+74+64 30A2 30A4 30A6 30A8 30AA 30AB 30AD 30AF 30B1",
  "32D9 30B3 30B5 30B7 30B9 30BB 30BD 30BF 30C1 30C4 30C6 30C8",
  "32EA 30D2 30D5 30D8 30DB",
  "32F3 30E4 30E6",
  "32FF 4EE4+548C 30A2+30D1+30FC+30C8 30A2+30EB+30D5+30A1 30A2+30F3+30DA+30A2 30A2+30FC+30EB",
  "3304 30A4+30CB+30F3+30B0 30A4+30F3+30C1 30A6+30A9+30F3 30A8+30B9+30AF+30FC+30C9",
  "3308 30A8+30FC+30AB+30FC 30AA+30F3+30B9 30AA+30FC+30E0 30AB+30A4+30EA 30AB+30E9+30C3+30C8",
  "330D 30AB+30ED+30EA+30FC 30AC+30ED+30F3 30AC+30F3+30DE 30AE+30AC 30AE+30CB+30FC",
  "3312 30AD+30E5+30EA+30FC 30AE+30EB+30C0+30FC 30AD+30ED 30AD+30ED+30B0+30E9+30E0",
  "3316 30AD+30ED+30E1+30FC+30C8+30EB 30AD+30ED+30EF+30C3+30C8 30B0+30E9+30E0",
  "3319 30B0+30E9+30E0+30C8+30F3 30AF+30EB+30BC+30A4+30ED 30AF+30ED+30FC+30CD 30B1+30FC+30B9",
  "331D 30B3+30EB+30CA 30B3+30FC+30DD 30B5+30A4+30AF+30EB 30B5+30F3+30C1+30FC+30E0",
  "3321 30B7+30EA+30F3+30B0 30BB+30F3+30C1 30BB+30F3+30C8 30C0+30FC+30B9 30C7+30B7 30C9+30EB",
  "3327 30C8+30F3 30CA+30CE 30CE+30C3+30C8 30CF+30A4+30C4 30D1+30FC+30BB+30F3+30C8 30D1+30FC+30C4",
  "332D 30D0+30FC+30EC+30EB 30D4+30A2+30B9+30C8+30EB 30D4+30AF+30EB 30D4+30B3 30D3+30EB",
  "3332 30D5+30A1+30E9+30C3+30C9 30D5+30A3+30FC+30C8 30D6+30C3+30B7+30A7+30EB 30D5+30E9+30F3",
  "3336 30D8+30AF+30BF+30FC+30EB 30DA+30BD 30DA+30CB+30D2 30D8+30EB+30C4 30DA+30F3+30B9",
  "333B 30DA+30FC+30B8 30D9+30FC+30BF 30DD+30A4+30F3+30C8 30DC+30EB+30C8 30DB+30F3 30DD+30F3+30C9",
  "3341 30DB+30FC+30EB 30DB+30FC+30F3 30DE+30A4+30AF+30ED 30DE+30A4+30EB 30DE+30C3+30CF",
  "3346 30DE+30EB+30AF 30DE+30F3+30B7+30E7+30F3 30DF+30AF+30ED+30F3 30DF+30EA",
  "334A 30DF+30EA+30D0+30FC+30EB 30E1+30AC 30E1+30AC+30C8+30F3 30E1+30FC+30C8+30EB 30E4+30FC+30C9",
  "334F 30E4+30FC+30EB 30E6+30A2+30F3 30EA+30C3+30C8+30EB 30EA+30E9 30EB+30D4+30FC",
  "3354 30EB+30FC+30D6+30EB 30EC+30E0 30EC+30F3+30C8+30B2+30F3 30EF+30C3+30C8 30+70B9 31+70B9",
  "335A 32+70B9 33+70B9 34+70B9 35+70B9 36+70B9 37+70B9 38+70B9 39+70B9 31+30+70B9 31+31+70B9",
  "3364 31+32+70B9 31+33+70B9 31+34+70B9 31+35+70B9 31+36+70B9 31+37+70B9 31+38+70B9 31+39+70B9",
  "336C 32+30+70B9 32+31+70B9 32+32+70B9 32+33+70B9 32+34+70B9 68+70+61 64+61 61+75 62+61+72",
  "3375 6F+76 70+63 64+6D 64+6D+32 64+6D+33 69+75 5E73+6210 662D+548C 5927+6B63 660E+6CBB",
  "337F 682A+5F0F+4F1A+793E 70+61 6E+61 3BC+61 6D+61 6B+61 6B+62 6D+62 67+62 63+61+6C 6B+63+61+6C",
  "338A 70+66 6E+66 3BC+66 3BC+67 6D+67 6B+67 68+7A 6B+68+7A 6D+68+7A 67+68+7A 74+68+7A 3BC+6C",
  "3396 6D+6C 64+6C 6B+6C 66+6D 6E+6D 3BC+6D 6D+6D 63+6D 6B+6D 6D+6D+32 63+6D+32 6D+32 6B+6D+32",
  "33A3 6D+6D+33 63+6D+33 6D+33 6B+6D+33 6D+2215+73 6D+2215+73+32 70+61 6B+70+61 6D+70+61",
  "33AC 67+70+61 72+61+64 72+61+64+2215+73 72+61+64+2215+73+32 70+73 6E+73 3BC+73 6D+73 70+76",
  "33B5 6E+76 3BC+76 6D+76 6B+76 6D+76 70+77 6E+77 3BC+77 6D+77 6B+77 6D+77 6B+3C9 6D+3C9 - 62+71",
  "33C4 63+63 63+64 63+2215+6B+67 - 64+62 67+79 68+61 68+70 69+6E 6B+6B 6B+6D 6B+74 6C+6D 6C+6E",
  "33D2 6C+6F+67 6C+78 6D+62 6D+69+6C 6D+6F+6C 70+68 - 70+70+6D 70+72 73+72 73+76 77+62",
  "33DE 76+2215+6D 61+2215+6D 31+65E5 32+65E5 33+65E5 34+65E5 35+65E5 36+65E5 37+65E5 38+65E5",
  "33E8 39+65E5 31+30+65E5 31+31+65E5 31+32+65E5 31+33+65E5 31+34+65E5 31+35+65E5 31+36+65E5",
  "33F0 31+37+65E5 31+38+65E5 31+39+65E5 32+30+65E5 32+31+65E5 32+32+65E5 32+33+65E5 32+34+65E5",
  "33F8 32+35+65E5 32+36+65E5 32+37+65E5 32+38+65E5 32+39+65E5 33+30+65E5 33+31+65E5 67+61+6C",
  "1D15E 1D157+1D165 1D158+1D165 1D158+1D165+1D16E 1D158+1D165+1D16F 1D158+1D165+1D170",
  "1D163 1D158+1D165+1D171 1D158+1D165+1D172",
  "1D1BB 1D1B9+1D165 1D1BA+1D165 1D1B9+1D165+1D16E 1D1BA+1D165+1D16E 1D1B9+1D165+1D16F",
  "1D1C0 1D1BA+1D165+1D16F",
  "1D49C 61 - 63 64",
  "1D4A2 67",
  "1D4A5 6A 6B",
  "1D4BB 66",
  "1D504 61 62",
  "1D538 61 62",
  "1D546 6F",
  "1D6A4 131 237",
  "1D6B9 3B8",
  "1D6C1 2207",
  "1D6D3 3C3",
  "1D6DB 2202 3B5 3B8 3BA 3C6 3C1 3C0",
  "1D6F3 3B8",
  "1D6FB 2207",
  "1D70D 3C3",
  "1D715 2202 3B5 3B8 3BA 3C6 3C1 3C0",
  "1D72D 3B8",
  "1D735 2207",
  "1D747 3C3",
  "1D74F 2202 3B5 3B8 3BA 3C6 3C1 3C0",
  "1D767 3B8",
  "1D76F 2207",
  "1D781 3C3",
  "1D789 2202 3B5 3B8 3BA 3C6 3C1 3C0",
  "1D7A1 3B8",
  "1D7A9 2207",
  "1D7BB 3C3",
  "1D7C3 2202 3B5 3B8 3BA 3C6 3C1 3C0 3DD 3DD",
  "1EE00 627 628 62C 62F - 648 632 62D 637 64A",
  "1EE0E 633 639 641 635 642 631 634 62A 62B 62E 630 636 638 63A 66E 6BA 6A1 66F - 628 62C - 647",
  "1EE27 62D - 64A",
  "1EE2E 633 639 641 635 642 - 634 62A 62B 62E - 636 - 63A",
  "1EE42 62C",
  "1EE47 62D - 64A - 644 - 646 633 639 - 635 642 - 634",
  "1EE57 62E - 636 - 63A - 6BA - 66F - 628 62C - 647",
  "1EE67 62D 637 64A 643 - 645 646 633 639 641 635 642 - 634 62A 62B 62E - 636 638 63A 66E - 6A1",
  "1EE80 627 628 62C 62F 647 648 632 62D 637 64A - 644 645 646 633 639 641 635 642 631 634 62A",
  "1EE96 62B 62E 630 636 638 63A",
  "1EEA1 628 62C 62F - 648 632 62D 637 64A - 644 645 646 633 639 641 635 642 631 634 62A 62B 62E",
  "1EEB8 630 636 638 63A",
  "1F101 30+2C 31+2C 32+2C 33+2C 34+2C 35+2C 36+2C 37+2C 38+2C 39+2C",
  "1F110 28+61+29 28+62+29 28+63+29 28+64+29 28+65+29 28+66+29 28+67+29 28+68+29 28+69+29",
  "1F119 28+6A+29 28+6B+29 28+6C+29 28+6D+29 28+6E+29 28+6F+29 28+70+29 28+71+29 28+72+29",
  "1F122 28+73+29 28+74+29 28+75+29 28+76+29 28+77+29 28+78+29 28+79+29 28+7A+29 3014+73+3015 63",
  "1F12C 72 63+64 77+7A",
  "1F14A 68+76 6D+76 73+64 73+73 70+70+76 77+63",
  "1F16A 6D+63 6D+64 6D+72",
  "1F190 64+6A",
  "1F200 307B+304B 30B3+30B3 30B5",
  "1F210 624B 5B57 53CC 30C7 4E8C 591A 89E3 5929 4EA4 6620 7121 6599 524D 5F8C 518D 65B0 521D",
  "1F221 7D42 751F 8CA9 58F0 5439 6F14 6295 6355 4E00 4E09 904A 5DE6 4E2D 53F3 6307 8D70 6253",
  "1F232 7981 7A7A 5408 6E80 6709 6708 7533 5272 55B6 914D",
  "1F240 3014+672C+3015 3014+4E09+3015 3014+4E8C+3015 3014+5B89+3015 3014+70B9+3015",
  "1F245 3014+6253+3015 3014+76D7+3015 3014+52DD+3015 3014+6557+3015",
  "1F250 5F97 53EF"]

end MailSync.Url.Folding
