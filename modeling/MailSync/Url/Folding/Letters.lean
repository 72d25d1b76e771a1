/-!
# Letters in one form

Characters of alphabets that stand for others in domains: capitals whose small letters do not lie
at one distance, letters with their marks, ligatures, and variants. A row gives what a character
and those that follow it stand for.
-/
namespace MailSync.Url.Folding

def letterRows : List String := [
  "A0 20",
  "A8 20+308 - 61",
  "AF 20+304",
  "B2 32 33 20+301 3BC",
  "B8 20+327 31 6F - 31+2044+34 31+2044+32 33+2044+34",
  "130 69+307 - 69+6A 69+6A 135 - 137",
  "139 13A - 13C - 13E - 6C+B7 6C+B7",
  "149 2BC+6E",
  "178 FF 17A - 17C - 17E - 73 - 253 183 - 185 - 254 188 - 256 257 18C",
  "18E 1DD 259 25B 192 - 260 263 - 269 268 199",
  "19C 26F 272 - 275 1A1 - 1A3 - 1A5 - 280 1A8 - 283",
  "1AC 1AD - 288 1B0 - 28A 28B 1B4 - 1B6 - 292 1B9",
  "1BC 1BD",
  "1C4 64+17E 64+17E 64+17E 6C+6A 6C+6A 6C+6A 6E+6A 6E+6A 6E+6A",
  "1F1 64+7A 64+7A 64+7A 1F5 - 195 1BF",
  "220 19E",
  "23A 2C65 23C - 19A 2C66",
  "241 242 - 180 289 28C",
  "2B0 68 266 6A 72 279 27B 281 77 79",
  "2D8 20+306 20+307 20+30A 20+328 20+303 20+30B",
  "2E0 263 6C 73 78 295",
  "340 300 301 - 313 308+301 3B9",
  "370 371 - 373 - 2B9 - 377",
  "37A 20+3B9",
  "37E 3B 3F3",
  "384 20+301 20+308+301 3AC B7 3AD 3AE 3AF - 3CC - 3CD 3CE",
  "3CF 3D7 3B2 3B8 3C5 3CD 3CB 3C6 3C0",
  "3F0 3BA 3C1 3C3 - 3B8 3B5 - 3F8 - 3C3 3FB",
  "3FD 37B 37C 37D",
  "4C0 4CF",
  "558 567",
  "587 565+582",
  "675 627+674 648+674 6C7+674 64A+674",
  "958 915+93C 916+93C 917+93C 91C+93C 921+93C 922+93C 92B+93C 92F+93C",
  "9DC 9A1+9BC 9A2+9BC - 9AF+9BC",
  "A33 A32+A3C",
  "A36 A38+A3C",
  "A59 A16+A3C A17+A3C A1C+A3C",
  "A5E A2B+A3C",
  "B5C B21+B3C B22+B3C",
  "E33 E4D+E32",
  "EB3 ECD+EB2",
  "EDC EAB+E99 EAB+EA1",
  "F0C F0B",
  "F43 F42+FB7",
  "F4D F4C+FB7",
  "F52 F51+FB7",
  "F57 F56+FB7",
  "F5C F5B+FB7",
  "F69 F40+FB5",
  "F73 F71+F72 - F71+F74 FB2+F80 FB2+F71+F80 FB3+F80 FB3+F71+F80",
  "F81 F71+F80",
  "F93 F92+FB7",
  "F9D F9C+FB7",
  "FA2 FA1+FB7",
  "FA7 FA6+FB7",
  "FAC FAB+FB7",
  "FB9 F90+FB5",
  "10C7 2D27",
  "10CD 2D2D",
  "10FC 10DC",
  "1C80 432 434 43E 441 442 442 44A 463 A64B 1C8A",
  "1CBD 10FD 10FE 10FF",
  "1D2C 61 E6 62 - 64 65 1DD",
  "1D3C 6F 223 70 72 74 75 77 61 250 251 1D02 62 64 65 259 25B 25C 67 - 6B 6D 14B 6F 254 1D16",
  "1D55 1D17 70 74 75 1D1D 26F 76 1D25 3B2 3B3 3B4 3C6 3C7 69 72 75 76 3B2 3B3 3C1 3C6 3C7",
  "1D78 43D",
  "1D9B 252 63 255 F0 25C 66 25F 261 265 268 269 26A 1D7B 29D 26D 1D85 29F 271 270",
  "1DB2 278 282 283 1AB 289 28A 1D1C 28B 28C 7A 290 291 292 3B8",
  "1E9A 61+2BE 1E61",
  "1E9E DF",
  "1F71 3AC - 3AD - 3AE - 3AF - 3CC - 3CD - 3CE",
  "1F80 1F00+3B9 1F01+3B9 1F02+3B9 1F03+3B9 1F04+3B9 1F05+3B9 1F06+3B9 1F07+3B9 1F00+3B9 1F01+3B9",
  "1F8A 1F02+3B9 1F03+3B9 1F04+3B9 1F05+3B9 1F06+3B9 1F07+3B9 1F20+3B9 1F21+3B9 1F22+3B9 1F23+3B9",
  "1F94 1F24+3B9 1F25+3B9 1F26+3B9 1F27+3B9 1F20+3B9 1F21+3B9 1F22+3B9 1F23+3B9 1F24+3B9 1F25+3B9",
  "1F9E 1F26+3B9 1F27+3B9 1F60+3B9 1F61+3B9 1F62+3B9 1F63+3B9 1F64+3B9 1F65+3B9 1F66+3B9 1F67+3B9",
  "1FA8 1F60+3B9 1F61+3B9 1F62+3B9 1F63+3B9 1F64+3B9 1F65+3B9 1F66+3B9 1F67+3B9",
  "1FB2 1F70+3B9 3B1+3B9 3AC+3B9",
  "1FB7 1FB6+3B9 1FB0 1FB1 1F70 3AC 3B1+3B9 20+313 3B9 20+313 20+342 20+308+342 1F74+3B9 3B7+3B9",
  "1FC4 3AE+3B9",
  "1FC7 1FC6+3B9 1F72 3AD 1F74 3AE 3B7+3B9 20+313+300 20+313+301 20+313+342",
  "1FD3 390",
  "1FD8 1FD0 1FD1 1F76 3AF - 20+314+300 20+314+301 20+314+342",
  "1FE3 3B0",
  "1FE8 1FE0 1FE1 1F7A 3CD 1FE5 20+308+300 20+308+301 60",
  "1FF2 1F7C+3B9 3C9+3B9 3CE+3B9",
  "1FF7 1FF6+3B9 1F78 3CC 1F7C 3CE 3C9+3B9 20+301 20+314 - 20 20 20 20 20 20 20 20 20 20 20",
  "2C60 2C61 - 26B 1D7D 27D",
  "2C67 2C68 - 2C6A - 2C6C - 251 271 250 252 - 2C73",
  "2C75 2C76",
  "2C7C 6A 76 23F 240",
  "2CEB 2CEC - 2CEE",
  "2CF2 2CF3",
  "2D6F 2D61",
  "A69C 44A 44C",
  "A770 A76F",
  "A779 A77A - A77C - 1D79",
  "A78B A78C - 265",
  "A790 A791 - A793",
  "A7AA 266 25C 261 26C 26A - 29E 287 29D AB53",
  "A7C4 A794 282 1D8E A7C8 - A7CA - 264",
  "A7DC 19B 277 278 279 27A 27B 27C",
  "A7F1 73 63 66 71 A7F6",
  "A7F8 127 153",
  "AB5C A727 AB37 26B AB52",
  "AB69 28D - - AB4B",
  "10594 105BB 105BC",
  "10781 2D0 2D1 E6 299 253 - 2A3 AB66 2A5 2A4 256 257 1D91 258 25E 2A9 264 262 260 29B 127 29C",
  "10797 267 284 2AA 2AB 26C 1DF04 A78E 26E 1DF05 28E 1DF06 F8 276 277 71 27A 1DF08 27D 27E 280",
  "107AB 2A8 2A6 AB67 2A7 288 2C71 - 28F 2A1 2A2 298 1C0 1C1 1C2 1DF0A 1DF1E 287",
  "1B125 30C8+30C6",
  "1E039 43A 43B 43C",
  "1E047 44B 44D 44E A689 4D9 456 458 4E9 4AF 4CF",
  "1E05A 43A 43B 43E 43F 441",
  "1E065 44A 44B 491 456 455 45F 4AB A651 4B1"]

end MailSync.Url.Folding
