/-!
# Canonical decompositions

The data of Unicode 17 for canonical equivalence, as hexadecimal code points.
Syllables of Hangul are left out; they follow a rule.
-/

namespace ByteMachine.Composition

/-- Characters that are composed of two: a line gives the second part, then pairs of
a first part and the whole. -/
def compositeLines : List String :=
  ["300 41 C0 45 C8 49 CC 4E 1F8 4F D2 55 D9 57 1E80 59 1EF2 61 E0 65 E8 69 EC 6E 1F9",
    "300 6F F2 75 F9 77 1E81 79 1EF3 A8 1FED C2 1EA6 CA 1EC0 D4 1ED2 DC 1DB E2 1EA7 EA 1EC1",
    "300 F4 1ED3 FC 1DC 102 1EB0 103 1EB1 112 1E14 113 1E15 14C 1E50 14D 1E51 1A0 1EDC",
    "300 1A1 1EDD 1AF 1EEA 1B0 1EEB 391 1FBA 395 1FC8 397 1FCA 399 1FDA 39F 1FF8 3A5 1FEA",
    "300 3A9 1FFA 3B1 1F70 3B5 1F72 3B7 1F74 3B9 1F76 3BF 1F78 3C5 1F7A 3C9 1F7C 3CA 1FD2",
    "300 3CB 1FE2 415 400 418 40D 435 450 438 45D 1F00 1F02 1F01 1F03 1F08 1F0A 1F09 1F0B",
    "300 1F10 1F12 1F11 1F13 1F18 1F1A 1F19 1F1B 1F20 1F22 1F21 1F23 1F28 1F2A 1F29 1F2B",
    "300 1F30 1F32 1F31 1F33 1F38 1F3A 1F39 1F3B 1F40 1F42 1F41 1F43 1F48 1F4A 1F49 1F4B",
    "300 1F50 1F52 1F51 1F53 1F59 1F5B 1F60 1F62 1F61 1F63 1F68 1F6A 1F69 1F6B 1FBF 1FCD",
    "300 1FFE 1FDD",
    "301 41 C1 43 106 45 C9 47 1F4 49 CD 4B 1E30 4C 139 4D 1E3E 4E 143 4F D3 50 1E54 52 154",
    "301 53 15A 55 DA 57 1E82 59 DD 5A 179 61 E1 63 107 65 E9 67 1F5 69 ED 6B 1E31 6C 13A",
    "301 6D 1E3F 6E 144 6F F3 70 1E55 72 155 73 15B 75 FA 77 1E83 79 FD 7A 17A A8 385",
    "301 C2 1EA4 C5 1FA C6 1FC C7 1E08 CA 1EBE CF 1E2E D4 1ED0 D5 1E4C D8 1FE DC 1D7",
    "301 E2 1EA5 E5 1FB E6 1FD E7 1E09 EA 1EBF EF 1E2F F4 1ED1 F5 1E4D F8 1FF FC 1D8",
    "301 102 1EAE 103 1EAF 112 1E16 113 1E17 14C 1E52 14D 1E53 168 1E78 169 1E79 1A0 1EDA",
    "301 1A1 1EDB 1AF 1EE8 1B0 1EE9 391 386 395 388 397 389 399 38A 39F 38C 3A5 38E 3A9 38F",
    "301 3B1 3AC 3B5 3AD 3B7 3AE 3B9 3AF 3BF 3CC 3C5 3CD 3C9 3CE 3CA 390 3CB 3B0 3D2 3D3",
    "301 413 403 41A 40C 433 453 43A 45C 1F00 1F04 1F01 1F05 1F08 1F0C 1F09 1F0D 1F10 1F14",
    "301 1F11 1F15 1F18 1F1C 1F19 1F1D 1F20 1F24 1F21 1F25 1F28 1F2C 1F29 1F2D 1F30 1F34",
    "301 1F31 1F35 1F38 1F3C 1F39 1F3D 1F40 1F44 1F41 1F45 1F48 1F4C 1F49 1F4D 1F50 1F54",
    "301 1F51 1F55 1F59 1F5D 1F60 1F64 1F61 1F65 1F68 1F6C 1F69 1F6D 1FBF 1FCE 1FFE 1FDE",
    "302 41 C2 43 108 45 CA 47 11C 48 124 49 CE 4A 134 4F D4 53 15C 55 DB 57 174 59 176",
    "302 5A 1E90 61 E2 63 109 65 EA 67 11D 68 125 69 EE 6A 135 6F F4 73 15D 75 FB 77 175",
    "302 79 177 7A 1E91 1EA0 1EAC 1EA1 1EAD 1EB8 1EC6 1EB9 1EC7 1ECC 1ED8 1ECD 1ED9",
    "303 41 C3 45 1EBC 49 128 4E D1 4F D5 55 168 56 1E7C 59 1EF8 61 E3 65 1EBD 69 129 6E F1",
    "303 6F F5 75 169 76 1E7D 79 1EF9 C2 1EAA CA 1EC4 D4 1ED6 E2 1EAB EA 1EC5 F4 1ED7",
    "303 102 1EB4 103 1EB5 1A0 1EE0 1A1 1EE1 1AF 1EEE 1B0 1EEF",
    "304 41 100 45 112 47 1E20 49 12A 4F 14C 55 16A 59 232 61 101 65 113 67 1E21 69 12B",
    "304 6F 14D 75 16B 79 233 C4 1DE C6 1E2 D5 22C D6 22A DC 1D5 E4 1DF E6 1E3 F5 22D",
    "304 F6 22B FC 1D6 1EA 1EC 1EB 1ED 226 1E0 227 1E1 22E 230 22F 231 391 1FB9 399 1FD9",
    "304 3A5 1FE9 3B1 1FB1 3B9 1FD1 3C5 1FE1 418 4E2 423 4EE 438 4E3 443 4EF 1E36 1E38",
    "304 1E37 1E39 1E5A 1E5C 1E5B 1E5D",
    "306 41 102 45 114 47 11E 49 12C 4F 14E 55 16C 61 103 65 115 67 11F 69 12D 6F 14F",
    "306 75 16D 228 1E1C 229 1E1D 391 1FB8 399 1FD8 3A5 1FE8 3B1 1FB0 3B9 1FD0 3C5 1FE0",
    "306 410 4D0 415 4D6 416 4C1 418 419 423 40E 430 4D1 435 4D7 436 4C2 438 439 443 45E",
    "306 1EA0 1EB6 1EA1 1EB7",
    "307 41 226 42 1E02 43 10A 44 1E0A 45 116 46 1E1E 47 120 48 1E22 49 130 4D 1E40 4E 1E44",
    "307 4F 22E 50 1E56 52 1E58 53 1E60 54 1E6A 57 1E86 58 1E8A 59 1E8E 5A 17B 61 227",
    "307 62 1E03 63 10B 64 1E0B 65 117 66 1E1F 67 121 68 1E23 6D 1E41 6E 1E45 6F 22F",
    "307 70 1E57 72 1E59 73 1E61 74 1E6B 77 1E87 78 1E8B 79 1E8F 7A 17C 15A 1E64 15B 1E65",
    "307 160 1E66 161 1E67 17F 1E9B 1E62 1E68 1E63 1E69 105D2 105C9 105DA 105E4",
    "308 41 C4 45 CB 48 1E26 49 CF 4F D6 55 DC 57 1E84 58 1E8C 59 178 61 E4 65 EB 68 1E27",
    "308 69 EF 6F F6 74 1E97 75 FC 77 1E85 78 1E8D 79 FF D5 1E4E F5 1E4F 16A 1E7A 16B 1E7B",
    "308 399 3AA 3A5 3AB 3B9 3CA 3C5 3CB 3D2 3D4 406 407 410 4D2 415 401 416 4DC 417 4DE",
    "308 418 4E4 41E 4E6 423 4F0 427 4F4 42B 4F8 42D 4EC 430 4D3 435 451 436 4DD 437 4DF",
    "308 438 4E5 43E 4E7 443 4F1 447 4F5 44B 4F9 44D 4ED 456 457 4D8 4DA 4D9 4DB 4E8 4EA",
    "308 4E9 4EB",
    "309 41 1EA2 45 1EBA 49 1EC8 4F 1ECE 55 1EE6 59 1EF6 61 1EA3 65 1EBB 69 1EC9 6F 1ECF",
    "309 75 1EE7 79 1EF7 C2 1EA8 CA 1EC2 D4 1ED4 E2 1EA9 EA 1EC3 F4 1ED5 102 1EB2 103 1EB3",
    "309 1A0 1EDE 1A1 1EDF 1AF 1EEC 1B0 1EED",
    "30A 41 C5 55 16E 61 E5 75 16F 77 1E98 79 1E99",
    "30B 4F 150 55 170 6F 151 75 171 423 4F2 443 4F3",
    "30C 41 1CD 43 10C 44 10E 45 11A 47 1E6 48 21E 49 1CF 4B 1E8 4C 13D 4E 147 4F 1D1",
    "30C 52 158 53 160 54 164 55 1D3 5A 17D 61 1CE 63 10D 64 10F 65 11B 67 1E7 68 21F",
    "30C 69 1D0 6A 1F0 6B 1E9 6C 13E 6E 148 6F 1D2 72 159 73 161 74 165 75 1D4 7A 17E",
    "30C DC 1D9 FC 1DA 1B7 1EE 292 1EF",
    "30F 41 200 45 204 49 208 4F 20C 52 210 55 214 61 201 65 205 69 209 6F 20D 72 211",
    "30F 75 215 474 476 475 477",
    "311 41 202 45 206 49 20A 4F 20E 52 212 55 216 61 203 65 207 69 20B 6F 20F 72 213",
    "311 75 217",
    "313 391 1F08 395 1F18 397 1F28 399 1F38 39F 1F48 3A9 1F68 3B1 1F00 3B5 1F10 3B7 1F20",
    "313 3B9 1F30 3BF 1F40 3C1 1FE4 3C5 1F50 3C9 1F60",
    "314 391 1F09 395 1F19 397 1F29 399 1F39 39F 1F49 3A1 1FEC 3A5 1F59 3A9 1F69 3B1 1F01",
    "314 3B5 1F11 3B7 1F21 3B9 1F31 3BF 1F41 3C1 1FE5 3C5 1F51 3C9 1F61",
    "31B 4F 1A0 55 1AF 6F 1A1 75 1B0",
    "323 41 1EA0 42 1E04 44 1E0C 45 1EB8 48 1E24 49 1ECA 4B 1E32 4C 1E36 4D 1E42 4E 1E46",
    "323 4F 1ECC 52 1E5A 53 1E62 54 1E6C 55 1EE4 56 1E7E 57 1E88 59 1EF4 5A 1E92 61 1EA1",
    "323 62 1E05 64 1E0D 65 1EB9 68 1E25 69 1ECB 6B 1E33 6C 1E37 6D 1E43 6E 1E47 6F 1ECD",
    "323 72 1E5B 73 1E63 74 1E6D 75 1EE5 76 1E7F 77 1E89 79 1EF5 7A 1E93 1A0 1EE2 1A1 1EE3",
    "323 1AF 1EF0 1B0 1EF1",
    "324 55 1E72 75 1E73",
    "325 41 1E00 61 1E01",
    "326 53 218 54 21A 73 219 74 21B",
    "327 43 C7 44 1E10 45 228 47 122 48 1E28 4B 136 4C 13B 4E 145 52 156 53 15E 54 162",
    "327 63 E7 64 1E11 65 229 67 123 68 1E29 6B 137 6C 13C 6E 146 72 157 73 15F 74 163",
    "328 41 104 45 118 49 12E 4F 1EA 55 172 61 105 65 119 69 12F 6F 1EB 75 173",
    "32D 44 1E12 45 1E18 4C 1E3C 4E 1E4A 54 1E70 55 1E76 64 1E13 65 1E19 6C 1E3D 6E 1E4B",
    "32D 74 1E71 75 1E77",
    "32E 48 1E2A 68 1E2B",
    "330 45 1E1A 49 1E2C 55 1E74 65 1E1B 69 1E2D 75 1E75",
    "331 42 1E06 44 1E0E 4B 1E34 4C 1E3A 4E 1E48 52 1E5E 54 1E6E 5A 1E94 62 1E07 64 1E0F",
    "331 68 1E96 6B 1E35 6C 1E3B 6E 1E49 72 1E5F 74 1E6F 7A 1E95",
    "338 3C 226E 3D 2260 3E 226F 2190 219A 2192 219B 2194 21AE 21D0 21CD 21D2 21CF",
    "338 21D4 21CE 2203 2204 2208 2209 220B 220C 2223 2224 2225 2226 223C 2241 2243 2244",
    "338 2245 2247 2248 2249 224D 226D 2261 2262 2264 2270 2265 2271 2272 2274 2273 2275",
    "338 2276 2278 2277 2279 227A 2280 227B 2281 227C 22E0 227D 22E1 2282 2284 2283 2285",
    "338 2286 2288 2287 2289 2291 22E2 2292 22E3 22A2 22AC 22A8 22AD 22A9 22AE 22AB 22AF",
    "338 22B2 22EA 22B3 22EB 22B4 22EC 22B5 22ED",
    "342 A8 1FC1 3B1 1FB6 3B7 1FC6 3B9 1FD6 3C5 1FE6 3C9 1FF6 3CA 1FD7 3CB 1FE7 1F00 1F06",
    "342 1F01 1F07 1F08 1F0E 1F09 1F0F 1F20 1F26 1F21 1F27 1F28 1F2E 1F29 1F2F 1F30 1F36",
    "342 1F31 1F37 1F38 1F3E 1F39 1F3F 1F50 1F56 1F51 1F57 1F59 1F5F 1F60 1F66 1F61 1F67",
    "342 1F68 1F6E 1F69 1F6F 1FBF 1FCF 1FFE 1FDF",
    "345 391 1FBC 397 1FCC 3A9 1FFC 3AC 1FB4 3AE 1FC4 3B1 1FB3 3B7 1FC3 3C9 1FF3 3CE 1FF4",
    "345 1F00 1F80 1F01 1F81 1F02 1F82 1F03 1F83 1F04 1F84 1F05 1F85 1F06 1F86 1F07 1F87",
    "345 1F08 1F88 1F09 1F89 1F0A 1F8A 1F0B 1F8B 1F0C 1F8C 1F0D 1F8D 1F0E 1F8E 1F0F 1F8F",
    "345 1F20 1F90 1F21 1F91 1F22 1F92 1F23 1F93 1F24 1F94 1F25 1F95 1F26 1F96 1F27 1F97",
    "345 1F28 1F98 1F29 1F99 1F2A 1F9A 1F2B 1F9B 1F2C 1F9C 1F2D 1F9D 1F2E 1F9E 1F2F 1F9F",
    "345 1F60 1FA0 1F61 1FA1 1F62 1FA2 1F63 1FA3 1F64 1FA4 1F65 1FA5 1F66 1FA6 1F67 1FA7",
    "345 1F68 1FA8 1F69 1FA9 1F6A 1FAA 1F6B 1FAB 1F6C 1FAC 1F6D 1FAD 1F6E 1FAE 1F6F 1FAF",
    "345 1F70 1FB2 1F74 1FC2 1F7C 1FF2 1FB6 1FB7 1FC6 1FC7 1FF6 1FF7",
    "653 627 622",
    "654 627 623 648 624 64A 626 6C1 6C2 6D2 6D3 6D5 6C0",
    "655 627 625",
    "93C 928 929 930 931 933 934",
    "9BE 9C7 9CB",
    "9D7 9C7 9CC",
    "B3E B47 B4B",
    "B56 B47 B48",
    "B57 B47 B4C",
    "BBE BC6 BCA BC7 BCB",
    "BD7 B92 B94 BC6 BCC",
    "C56 C46 C48",
    "CC2 CC6 CCA",
    "CD5 CBF CC0 CC6 CC7 CCA CCB",
    "CD6 CC6 CC8",
    "D3E D46 D4A D47 D4B",
    "D57 D46 D4C",
    "DCA DD9 DDA DDC DDD",
    "DCF DD9 DDC",
    "DDF DD9 DDE",
    "102E 1025 1026",
    "1B35 1B05 1B06 1B07 1B08 1B09 1B0A 1B0B 1B0C 1B0D 1B0E 1B11 1B12 1B3A 1B3B 1B3C 1B3D",
    "1B35 1B3E 1B40 1B3F 1B41 1B42 1B43",
    "3099 3046 3094 304B 304C 304D 304E 304F 3050 3051 3052 3053 3054 3055 3056 3057 3058",
    "3099 3059 305A 305B 305C 305D 305E 305F 3060 3061 3062 3064 3065 3066 3067 3068 3069",
    "3099 306F 3070 3072 3073 3075 3076 3078 3079 307B 307C 309D 309E 30A6 30F4 30AB 30AC",
    "3099 30AD 30AE 30AF 30B0 30B1 30B2 30B3 30B4 30B5 30B6 30B7 30B8 30B9 30BA 30BB 30BC",
    "3099 30BD 30BE 30BF 30C0 30C1 30C2 30C4 30C5 30C6 30C7 30C8 30C9 30CF 30D0 30D2 30D3",
    "3099 30D5 30D6 30D8 30D9 30DB 30DC 30EF 30F7 30F0 30F8 30F1 30F9 30F2 30FA 30FD 30FE",
    "309A 306F 3071 3072 3074 3075 3077 3078 307A 307B 307D 30CF 30D1 30D2 30D4 30D5 30D7",
    "309A 30D8 30DA 30DB 30DD",
    "110BA 11099 1109A 1109B 1109C 110A5 110AB",
    "11127 11131 1112E 11132 1112F",
    "1133E 11347 1134B",
    "11357 11347 1134C",
    "113B8 113C2 113C7",
    "113BB 11384 11385",
    "113C2 1138B 1138E 113C2 113C5",
    "113C9 11382 11383 11390 11391 113C2 113C8",
    "114B0 114B9 114BC",
    "114BA 114B9 114BB",
    "114BD 114B9 114BE",
    "115AF 115B8 115BA 115B9 115BB",
    "11930 11935 11938",
    "1611E 1611E 16121",
    "1611F 1611E 16123 16121 16126 16122 16127 16129 16124",
    "16120 1611E 16125 16121 16128",
    "16129 1611E 16122",
    "16D67 16D63 16D69 16D67 16D68 16D69 16D6A"]

/-- Characters that stand for another one: a line gives the first of some characters
in a row, then what each of them stands for. -/
def singletonLines : List String :=
  ["340 300 301",
    "343 313",
    "374 2B9",
    "37E 3B",
    "387 B7",
    "1F71 3AC",
    "1F73 3AD",
    "1F75 3AE",
    "1F77 3AF",
    "1F79 3CC",
    "1F7B 3CD",
    "1F7D 3CE",
    "1FBB 386",
    "1FBE 3B9",
    "1FC9 388",
    "1FCB 389",
    "1FD3 390",
    "1FDB 38A",
    "1FE3 3B0",
    "1FEB 38E",
    "1FEE 385 60",
    "1FF9 38C",
    "1FFB 38F",
    "1FFD B4",
    "2000 2002 2003",
    "2126 3A9",
    "212A 4B C5",
    "2329 3008 3009",
    "F900 8C48 66F4 8ECA 8CC8 6ED1 4E32 53E5 9F9C 9F9C 5951 91D1 5587 5948 61F6 7669 7F85 863F",
    "F911 87BA 88F8 908F 6A02 6D1B 70D9 73DE 843D 916A 99F1 4E82 5375 6B04 721B 862D 9E1E 5D50",
    "F922 6FEB 85CD 8964 62C9 81D8 881F 5ECA 6717 6D6A 72FC 90CE 4F86 51B7 52DE 64C4 6AD3 7210",
    "F933 76E7 8001 8606 865C 8DEF 9732 9B6F 9DFA 788C 797F 7DA0 83C9 9304 9E7F 8AD6 58DF 5F04",
    "F944 7C60 807E 7262 78CA 8CC2 96F7 58D8 5C62 6A13 6DDA 6F0F 7D2F 7E37 964B 52D2 808B 51DC",
    "F955 51CC 7A1C 7DBE 83F1 9675 8B80 62CF 6A02 8AFE 4E39 5BE7 6012 7387 7570 5317 78FB 4FBF",
    "F966 5FA9 4E0D 6CCC 6578 7D22 53C3 585E 7701 8449 8AAA 6BBA 8FB0 6C88 62FE 82E5 63A0 7565",
    "F977 4EAE 5169 51C9 6881 7CE7 826F 8AD2 91CF 52F5 5442 5973 5EEC 65C5 6FFE 792A 95AD 9A6A",
    "F988 9E97 9ECE 529B 66C6 6B77 8F62 5E74 6190 6200 649A 6F23 7149 7489 79CA 7DF4 806F 8F26",
    "F999 84EE 9023 934A 5217 52A3 54BD 70C8 88C2 8AAA 5EC9 5FF5 637B 6BAE 7C3E 7375 4EE4 56F9",
    "F9AA 5BE7 5DBA 601C 73B2 7469 7F9A 8046 9234 96F6 9748 9818 4F8B 79AE 91B4 96B8 60E1 4E86",
    "F9BB 50DA 5BEE 5C3F 6599 6A02 71CE 7642 84FC 907C 9F8D 6688 962E 5289 677B 67F3 6D41 6E9C",
    "F9CC 7409 7559 786B 7D10 985E 516D 622E 9678 502B 5D19 6DEA 8F2A 5F8B 6144 6817 7387 9686",
    "F9DD 5229 540F 5C65 6613 674E 68A8 6CE5 7406 75E2 7F79 88CF 88E1 91CC 96E2 533F 6EBA 541D",
    "F9EE 71D0 7498 85FA 96A3 9C57 9E9F 6797 6DCB 81E8 7ACB 7B20 7C92 72C0 7099 8B58 4EC0 8336",
    "F9FF 523A 5207 5EA6 62D3 7CD6 5B85 6D1E 66B4 8F3B 884C 964D 898B 5ED3 5140 55C0",
    "FA10 585A",
    "FA12 6674",
    "FA15 51DE 732A 76CA 793C 795E 7965 798F 9756 7CBE 7FBD",
    "FA20 8612",
    "FA22 8AF8",
    "FA25 9038 90FD",
    "FA2A 98EF 98FC 9928 9DB4 90DE 96B7 4FAE 50E7 514D 52C9 52E4 5351 559D 5606 5668 5840 58A8",
    "FA3B 5C64 5C6E 6094 6168 618E 61F2 654F 65E2 6691 6885 6D77 6E1A 6F22 716E 722B 7422 7891",
    "FA4C 793E 7949 7948 7950 7956 795D 798D 798E 7A40 7A81 7BC0 7DF4 7E09 7E41 7F72 8005 81ED",
    "FA5D 8279 8279 8457 8910 8996 8B01 8B39 8CD3 8D08 8FB6 9038 96E3 97FF 983B 6075 242EE 8218",
    "FA70 4E26 51B5 5168 4F80 5145 5180 52C7 52FA 559D 5555 5599 55E2 585A 58B3 5944 5954 5A62",
    "FA81 5B28 5ED2 5ED9 5F69 5FAD 60D8 614E 6108 618E 6160 61F2 6234 63C4 641C 6452 6556 6674",
    "FA92 6717 671B 6756 6B79 6BBA 6D41 6EDB 6ECB 6F22 701E 716E 77A7 7235 72AF 732A 7471 7506",
    "FAA3 753B 761D 761F 76CA 76DB 76F4 774A 7740 78CC 7AB1 7BC0 7C7B 7D5B 7DF4 7F3E 8005 8352",
    "FAB4 83EF 8779 8941 8986 8996 8ABF 8AF8 8ACB 8B01 8AFE 8AED 8B39 8B8A 8D08 8F38 9072 9199",
    "FAC5 9276 967C 96E3 9756 97DB 97FF 980B 983B 9B12 9F9C 2284A 22844 233D5 3B9D 4018 4039",
    "FAD5 25249 25CD0 27ED3 9F43 9F8E",
    "2F800 4E3D 4E38 4E41 20122 4F60 4FAE 4FBB 5002 507A 5099 50E7 50CF 349E 2063A 514D 5154 5164",
    "2F811 5177 2051C 34B9 5167 518D 2054B 5197 51A4 4ECC 51AC 51B5 291DF 51F5 5203 34DF 523B",
    "2F821 5246 5272 5277 3515 52C7 52C9 52E4 52FA 5305 5306 5317 5349 5351 535A 5373 537D 537F",
    "2F832 537F 537F 20A2C 7070 53CA 53DF 20B63 53EB 53F1 5406 549E 5438 5448 5468 54A2 54F6 5510",
    "2F843 5553 5563 5584 5584 5599 55AB 55B3 55C2 5716 5606 5717 5651 5674 5207 58EE 57CE 57F4",
    "2F854 580D 578B 5832 5831 58AC 214E4 58F2 58F7 5906 591A 5922 5962 216A8 216EA 59EC 5A1B",
    "2F864 5A27 59D8 5A66 36EE 36FC 5B08 5B3E 5B3E 219C8 5BC3 5BD8 5BE7 5BF3 21B18 5BFF 5C06 5F53",
    "2F875 5C22 3781 5C60 5C6E 5CC0 5C8D 21DE4 5D43 21DE6 5D6E 5D6B 5D7C 5DE1 5DE2 382F 5DFD 5E28",
    "2F886 5E3D 5E69 3862 22183 387C 5EB0 5EB3 5EB6 5ECA 2A392 5EFE 22331 22331 8201 5F22 5F22",
    "2F896 38C7 232B8 261DA 5F62 5F6B 38E3 5F9A 5FCD 5FD7 5FF9 6081 393A 391C 6094 226D4 60C7",
    "2F8A6 6148 614C 614E 614C 617A 618E 61B2 61A4 61AF 61DE 61F2 61F6 6210 621B 625D 62B1 62D4",
    "2F8B7 6350 22B0C 633D 62FC 6368 6383 63E4 22BF1 6422 63C5 63A9 3A2E 6469 647E 649D 6477 3A6C",
    "2F8C8 654F 656C 2300A 65E3 66F8 6649 3B19 6691 3B08 3AE4 5192 5195 6700 669C 80AD 43D9 6717",
    "2F8D9 671B 6721 675E 6753 233C3 3B49 67FA 6785 6852 6885 2346D 688E 681F 6914 3B9D 6942 69A3",
    "2F8EA 69EA 6AA8 236A3 6ADB 3C18 6B21 238A7 6B54 3C4E 6B72 6B9F 6BBA 6BBB 23A8D 21D0B 23AFA",
    "2F8FA 6C4E 23CBC 6CBF 6CCD 6C67 6D16 6D3E 6D77 6D41 6D69 6D78 6D85 23D1E 6D34 6E2F 6E6E 3D33",
    "2F90B 6ECB 6EC7 23ED1 6DF9 6F6E 23F5E 23F8E 6FC6 7039 701E 701B 3D96 704A 707D 7077 70AD",
    "2F91B 20525 7145 24263 719C 243AB 7228 7235 7250 24608 7280 7295 24735 24814 737A 738B 3EAC",
    "2F92B 73A5 3EB8 3EB8 7447 745C 7471 7485 74CA 3F1B 7524 24C36 753E 24C92 7570 2219F 7610",
    "2F93B 24FA1 24FB8 25044 3FFC 4008 76F4 250F3 250F2 25119 25133 771E 771F 771F 774A 4039 778B",
    "2F94B 4046 4096 2541D 784E 788C 78CC 40E3 25626 7956 2569A 256C5 798F 79EB 412F 7A40 7A4A",
    "2F95B 7A4F 2597C 25AA7 25AA7 7AEE 4202 25BAB 7BC6 7BC9 4227 25C80 7CD2 42A0 7CE8 7CE3 7D00",
    "2F96B 25F86 7D63 4301 7DC7 7E02 7E45 4334 26228 26247 4359 262D9 7F7A 2633E 7F95 7FFA 8005",
    "2F97B 264DA 26523 8060 265A8 8070 2335F 43D5 80B2 8103 440B 813E 5AB5 267A7 267B5 23393",
    "2F98A 2339C 8201 8204 8F9E 446B 8291 828B 829D 52B3 82B1 82B3 82BD 82E6 26B3C 82E5 831D 8363",
    "2F99B 83AD 8323 83BD 83E7 8457 8353 83CA 83CC 83DC 26C36 26D6B 26CD5 452B 84F1 84F3 8516",
    "2F9AB 273CA 8564 26F2C 455D 4561 26FB1 270D2 456B 8650 865C 8667 8669 86A9 8688 870E 86E2",
    "2F9BB 8779 8728 876B 8786 45D7 87E1 8801 45F9 8860 8863 27667 88D7 88DE 4635 88FA 34BB 278AE",
    "2F9CC 27966 46BE 46C7 8AA0 8AED 8B8A 8C55 27CA8 8CAB 8CC1 8D1B 8D77 27F2F 20804 8DCB 8DBC",
    "2F9DC 8DF0 208DE 8ED4 8F38 285D2 285ED 9094 90F1 9111 2872E 911B 9238 92D7 92D8 927C 93F9",
    "2F9EC 9415 28BFA 958B 4995 95B7 28D77 49E6 96C3 5DB2 9723 29145 2921A 4A6E 4A76 97E0 2940A",
    "2F9FC 4AB2 29496 980B 980B 9829 295B6 98E2 4B33 9929 99A7 99C2 99FE 4BCE 29B30 9B12 9C40",
    "2FA0C 9CFD 4CCE 4CED 9D67 2A0CE 4CF8 2A105 2A20E 2A291 9EBB 4D56 9EF9 9EFE 9F05 9F0F 9F16",
    "2FA1C 9F3B 2A600"]

/-- Characters that fall into two but are not composed again: the whole and its parts. -/
def excludedLines : List String :=
  ["344 308 301 958 915 93C 959 916 93C 95A 917 93C 95B 91C 93C 95C 921 93C 95D 922 93C",
    "95E 92B 93C 95F 92F 93C 9DC 9A1 9BC 9DD 9A2 9BC 9DF 9AF 9BC A33 A32 A3C A36 A38 A3C",
    "A59 A16 A3C A5A A17 A3C A5B A1C A3C A5E A2B A3C B5C B21 B3C B5D B22 B3C F43 F42 FB7",
    "F4D F4C FB7 F52 F51 FB7 F57 F56 FB7 F5C F5B FB7 F69 F40 FB5 F73 F71 F72 F75 F71 F74",
    "F76 FB2 F80 F78 FB3 F80 F81 F71 F80 F93 F92 FB7 F9D F9C FB7 FA2 FA1 FB7 FA7 FA6 FB7",
    "FAC FAB FB7 FB9 F90 FB5 2ADC 2ADD 338 FB1D 5D9 5B4 FB1F 5F2 5B7 FB2A 5E9 5C1 FB2B 5E9 5C2",
    "FB2C FB49 5C1 FB2D FB49 5C2 FB2E 5D0 5B7 FB2F 5D0 5B8 FB30 5D0 5BC FB31 5D1 5BC FB32 5D2 5BC",
    "FB33 5D3 5BC FB34 5D4 5BC FB35 5D5 5BC FB36 5D6 5BC FB38 5D8 5BC FB39 5D9 5BC FB3A 5DA 5BC",
    "FB3B 5DB 5BC FB3C 5DC 5BC FB3E 5DE 5BC FB40 5E0 5BC FB41 5E1 5BC FB43 5E3 5BC FB44 5E4 5BC",
    "FB46 5E6 5BC FB47 5E7 5BC FB48 5E8 5BC FB49 5E9 5BC FB4A 5EA 5BC FB4B 5D5 5B9 FB4C 5D1 5BF",
    "FB4D 5DB 5BF FB4E 5E4 5BF 1D15E 1D157 1D165 1D15F 1D158 1D165 1D160 1D15F 1D16E",
    "1D161 1D15F 1D16F 1D162 1D15F 1D170 1D163 1D15F 1D171 1D164 1D15F 1D172 1D1BB 1D1B9 1D165",
    "1D1BC 1D1BA 1D165 1D1BD 1D1BB 1D16E 1D1BE 1D1BC 1D16E 1D1BF 1D1BB 1D16F 1D1C0 1D1BC 1D16F"]

/-- Marks by their combining class. Marks that are in no line have class zero. -/
def classLines : List (Nat × String) :=
  [(1, "334-338 1CD4 1CE2-1CE8 20D2-20D3 20D8-20DA 20E5-20E6 20EA-20EB 10A39"),
    (1, "16AF0-16AF4 1BC9E 1D167-1D169"),
    (6, "16FF0-16FF1"),
    (7, "93C 9BC A3C ABC B3C C3C CBC 1037 1B34 1BE6 1C37 A9B3 110BA 11173 111CA 11236"),
    (7, "112E9 1133B-1133C 11446 114C3 115C0 116B7 1183A 11943 11D42 1E94A"),
    (8, "3099-309A"),
    (9, "94D 9CD A4D ACD B4D BCD C4D CCD D3B-D3C D4D DCA E3A EBA F84 1039-103A"),
    (9, "1714-1715 1734 17D2 1A60 1B44 1BAA-1BAB 1BF2-1BF3 2D7F A806 A82C A8C4 A953"),
    (9, "A9C0 AAF6 ABED 10A3F 11046 11070 1107F 110B9 11133-11134 111C0 11235 112EA"),
    (9, "1134D 113CE-113D0 11442 114C2 115BF 1163F 116B6 1172B 11839 1193D-1193E"),
    (9, "119E0 11A34 11A47 11A99 11C3F 11D44-11D45 11D97 11F41-11F42 1612F"),
    (10, "5B0"),
    (11, "5B1"),
    (12, "5B2"),
    (13, "5B3"),
    (14, "5B4"),
    (15, "5B5"),
    (16, "5B6"),
    (17, "5B7"),
    (18, "5B8 5C7"),
    (19, "5B9-5BA"),
    (20, "5BB"),
    (21, "5BC"),
    (22, "5BD"),
    (23, "5BF"),
    (24, "5C1"),
    (25, "5C2"),
    (26, "FB1E"),
    (27, "64B 8F0"),
    (28, "64C 8F1"),
    (29, "64D 8F2"),
    (30, "618 64E"),
    (31, "619 64F"),
    (32, "61A 650"),
    (33, "651"),
    (34, "652"),
    (35, "670"),
    (36, "711"),
    (84, "C55"),
    (91, "C56"),
    (103, "E38-E39"),
    (107, "E48-E4B"),
    (118, "EB8-EB9"),
    (122, "EC8-ECB"),
    (129, "F71"),
    (130, "F72 F7A-F7D F80"),
    (132, "F74"),
    (202, "321-322 327-328 1DD0"),
    (214, "1DCE"),
    (216, "31B F39 1D165-1D166 1D16E-1D172"),
    (218, "1DFA 302A"),
    (220, "316-319 31C-320 323-326 329-333 339-33C 347-349 34D-34E 353-356 359-35A 591"),
    (220, "596 59B 5A2-5A7 5AA 5C5 655-656 65C 65F 6E3 6EA 6ED 731 734 737-739 73B-73C"),
    (220, "73E 742 744 746 748 7F2 7FD 859-85B 899-89B 8CF-8D3 8E3 8E6 8E9 8ED-8EF 8F6"),
    (220, "8F9-8FA 952 F18-F19 F35 F37 FC6 108D 193B 1A18 1A7F 1AB5-1ABA 1ABD 1ABF-1AC0"),
    (220, "1AC3-1AC4 1ACA 1ADD 1AE6 1B6C 1CD5-1CD9 1CDC-1CDF 1CED 1DC2 1DCA 1DCF 1DF9"),
    (220, "1DFD 1DFF 20E8 20EC-20EF A92B-A92D AAB4 FE27-FE2D 101FD 102E0 10A0D 10A3A"),
    (220, "10AE6 10EFA-10EFB 10EFD-10EFF 10F46-10F47 10F4B 10F4D-10F50 10F83 10F85"),
    (220, "1D17B-1D182 1D18A-1D18B 1E4EE 1E5EF 1E8D0-1E8D6"),
    (222, "59A 5AD 1939 302D"),
    (224, "302E-302F"),
    (226, "1D16D"),
    (228, "5AE 18A9 1DF7-1DF8 302B"),
    (230, "300-314 33D-344 346 34A-34C 350-352 357 35B 363-36F 483-487 592-595 597-599"),
    (230, "59C-5A1 5A8-5A9 5AB-5AC 5AF 5C4 610-617 653-654 657-65B 65D-65E 6D6-6DC"),
    (230, "6DF-6E2 6E4 6E7-6E8 6EB-6EC 730 732-733 735-736 73A 73D 73F-741 743 745 747"),
    (230, "749-74A 7EB-7F1 7F3 816-819 81B-823 825-827 829-82D 897-898 89C-89F 8CA-8CE"),
    (230, "8D4-8E1 8E4-8E5 8E7-8E8 8EA-8EC 8F3-8F5 8F7-8F8 8FB-8FF 951 953-954 9FE"),
    (230, "F82-F83 F86-F87 135D-135F 17DD 193A 1A17 1A75-1A7C 1AB0-1AB4 1ABB-1ABC"),
    (230, "1AC1-1AC2 1AC5-1AC9 1ACB-1ADC 1AE0-1AE5 1AE7-1AEA 1B6B 1B6D-1B73 1CD0-1CD2"),
    (230, "1CDA-1CDB 1CE0 1CF4 1CF8-1CF9 1DC0-1DC1 1DC3-1DC9 1DCB-1DCC 1DD1-1DF5 1DFB"),
    (230, "1DFE 20D0-20D1 20D4-20D7 20DB-20DC 20E1 20E7 20E9 20F0 2CEF-2CF1 2DE0-2DFF"),
    (230, "A66F A674-A67D A69E-A69F A6F0-A6F1 A8E0-A8F1 AAB0 AAB2-AAB3 AAB7-AAB8"),
    (230, "AABE-AABF AAC1 FE20-FE26 FE2E-FE2F 10376-1037A 10A0F 10A38 10AE5 10D24-10D27"),
    (230, "10D69-10D6D 10EAB-10EAC 10F48-10F4A 10F4C 10F82 10F84 11100-11102"),
    (230, "11366-1136C 11370-11374 1145E 16B30-16B36 1D185-1D189 1D1AA-1D1AD"),
    (230, "1D242-1D244 1E000-1E006 1E008-1E018 1E01B-1E021 1E023-1E024 1E026-1E02A"),
    (230, "1E08F 1E130-1E136 1E2AE 1E2EC-1E2EF 1E4EF 1E5EE 1E6E3 1E6E6 1E6EE-1E6EF"),
    (230, "1E6F5 1E944-1E949"),
    (232, "315 31A 358 1DF6 302C 1E4EC-1E4ED"),
    (233, "35C 35F 362 1DFC"),
    (234, "35D-35E 360-361 1AEB 1DCD"),
    (240, "345")]

end ByteMachine.Composition
