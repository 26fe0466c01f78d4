/-
# Composite characters

Which characters are made of two others, and in which order marks stand that
follow the same character. Only characters that may stand in a domain name are
listed. Numbers are hexadecimal; a row starts with the distance to the row before.

Key definitions: `CompositionTable.pairs`, `CompositionTable.ranks`.
-/

namespace BroadcastChat.Text.CompositionTable

/-- The composite characters with their two parts. -/
def pairs : String := "
  E0,61,300 1,61,301 1,61,302 1,61,303 1,61,308 1,61,30A 2,63,327 1,65,300 1,65,301 1,65,302
  1,65,308 1,69,300 1,69,301 1,69,302 1,69,308 2,6E,303 1,6F,300 1,6F,301 1,6F,302 1,6F,303
  1,6F,308 3,75,300 1,75,301 1,75,302 1,75,308 1,79,301 2,79,308 2,61,304 2,61,306 2,61,328
  2,63,301 2,63,302 2,63,307 2,63,30C 2,64,30C 4,65,304 2,65,306 2,65,307 2,65,328 2,65,30C
  2,67,302 2,67,306 2,67,307 2,67,327 2,68,302 4,69,303 2,69,304 2,69,306 2,69,328 6,6A,302
  2,6B,327 3,6C,301 2,6C,327 2,6C,30C 6,6E,301 2,6E,327 2,6E,30C 5,6F,304 2,6F,306 2,6F,30B
  4,72,301 2,72,327 2,72,30C 2,73,301 2,73,302 2,73,327 2,73,30C 2,74,327 2,74,30C 4,75,303
  2,75,304 2,75,306 2,75,30A 2,75,30B 2,75,328 2,77,302 2,79,302 3,7A,301 2,7A,307 2,7A,30C
  23,6F,31B F,75,31B 1E,61,30C 2,69,30C 2,6F,30C 2,75,30C 2,FC,304 2,FC,301 2,FC,30C 2,FC,300
  3,E4,304 2,227,304 2,E6,304 4,67,30C 2,6B,30C 2,6F,328 2,1EB,304 2,292,30C 1,6A,30C 5,67,301
  4,6E,300 2,E5,301 2,E6,301 2,F8,301 2,61,30F 2,61,311 2,65,30F 2,65,311 2,69,30F 2,69,311
  2,6F,30F 2,6F,311 2,72,30F 2,72,311 2,75,30F 2,75,311 2,73,326 2,74,326 4,68,30C 8,61,307
  2,65,327 2,F6,304 2,F5,304 2,6F,307 2,22F,304 2,79,304 15D,3CA,301 1C,3B1,301 1,3B5,301
  1,3B7,301 1,3B9,301 1,3CB,301 1A,3B9,308 1,3C5,308 1,3BF,301 1,3C5,301 1,3C9,301 6B,438,306
  17,435,300 1,435,308 2,433,301 4,456,308 5,43A,301 1,438,300 1,443,306 19,475,30F 4B,436,306
  F,430,306 2,430,308 4,435,306 4,4D9,308 2,436,308 2,437,308 4,438,304 2,438,308 2,43E,308
  4,4E9,308 2,44D,308 2,443,304 2,443,308 2,443,30B 2,447,308 4,44B,308 129,627,653 1,627,654
  1,648,654 1,627,655 1,64A,654 9A,6D5,654 2,6C1,654 11,6D2,654 256,928,93C 8,930,93C 3,933,93C
  97,9C7,9BE 1,9C7,9D7 17C,B47,B56 3,B47,B3E 1,B47,B57 48,B92,BD7 36,BC6,BBE 1,BC7,BBE 1,BC6,BD7
  7C,C46,C56 78,CBF,CD5 7,CC6,CD5 1,CC6,CD6 2,CC6,CC2 1,CCA,CD5 7F,D46,D3E 1,D47,D3E 1,D46,D57
  8E,DD9,DCA 2,DD9,DCF 1,DDC,DCA 1,DD9,DDF 248,1025,102E AE0,1B05,1B35 2,1B07,1B35 2,1B09,1B35
  2,1B0B,1B35 2,1B0D,1B35 4,1B11,1B35 29,1B3A,1B35 2,1B3C,1B35 3,1B3E,1B35 1,1B3F,1B35 2,1B42,1B35
  2BE,61,325 2,62,307 2,62,323 2,62,331 2,E7,301 2,64,307 2,64,323 2,64,331 2,64,327 2,64,32D
  2,113,300 2,113,301 2,65,32D 2,65,330 2,229,306 2,66,307 2,67,304 2,68,307 2,68,323 2,68,308
  2,68,327 2,68,32E 2,69,330 2,EF,301 2,6B,301 2,6B,323 2,6B,331 2,6C,323 2,1E37,304 2,6C,331
  2,6C,32D 2,6D,301 2,6D,307 2,6D,323 2,6E,307 2,6E,323 2,6E,331 2,6E,32D 2,F5,301 2,F5,308
  2,14D,300 2,14D,301 2,70,301 2,70,307 2,72,307 2,72,323 2,1E5B,304 2,72,331 2,73,307 2,73,323
  2,15B,307 2,161,307 2,1E63,307 2,74,307 2,74,323 2,74,331 2,74,32D 2,75,324 2,75,330 2,75,32D
  2,169,301 2,16B,308 2,76,303 2,76,323 2,77,300 2,77,301 2,77,308 2,77,307 2,77,323 2,78,307
  2,78,308 2,79,307 2,7A,302 2,7A,323 2,7A,331 1,68,331 1,74,308 1,77,30A 1,79,30A 8,61,323
  2,61,309 2,E2,301 2,E2,300 2,E2,309 2,E2,303 2,1EA1,302 2,103,301 2,103,300 2,103,309 2,103,303
  2,1EA1,306 2,65,323 2,65,309 2,65,303 2,EA,301 2,EA,300 2,EA,309 2,EA,303 2,1EB9,302 2,69,309
  2,69,323 2,6F,323 2,6F,309 2,F4,301 2,F4,300 2,F4,309 2,F4,303 2,1ECD,302 2,1A1,301 2,1A1,300
  2,1A1,309 2,1A1,303 2,1A1,323 2,75,323 2,75,309 2,1B0,301 2,1B0,300 2,1B0,309 2,1B0,303
  2,1B0,323 2,79,300 2,79,323 2,79,309 2,79,303 7,3B1,313 1,3B1,314 1,1F00,300 1,1F01,300
  1,1F00,301 1,1F01,301 1,1F00,342 1,1F01,342 9,3B5,313 1,3B5,314 1,1F10,300 1,1F11,300 1,1F10,301
  1,1F11,301 B,3B7,313 1,3B7,314 1,1F20,300 1,1F21,300 1,1F20,301 1,1F21,301 1,1F20,342 1,1F21,342
  9,3B9,313 1,3B9,314 1,1F30,300 1,1F31,300 1,1F30,301 1,1F31,301 1,1F30,342 1,1F31,342 9,3BF,313
  1,3BF,314 1,1F40,300 1,1F41,300 1,1F40,301 1,1F41,301 B,3C5,313 1,3C5,314 1,1F50,300 1,1F51,300
  1,1F50,301 1,1F51,301 1,1F50,342 1,1F51,342 9,3C9,313 1,3C9,314 1,1F60,300 1,1F61,300 1,1F60,301
  1,1F61,301 1,1F60,342 1,1F61,342 9,3B1,300 2,3B5,300 2,3B7,300 2,3B9,300 2,3BF,300 2,3C5,300
  2,3C9,300 34,3B1,306 1,3B1,304 5,3B1,342 10,3B7,342 A,3B9,306 1,3B9,304 1,3CA,300 4,3B9,342
  1,3CA,342 9,3C5,306 1,3C5,304 1,3CB,300 2,3C1,313 1,3C1,314 1,3C5,342 1,3CB,342 F,3C9,342
  1A4,2190,338 1,2192,338 13,2194,338 1F,21D0,338 1,21D4,338 1,21D2,338 35,2203,338 5,2208,338
  3,220B,338 18,2223,338 2,2225,338 1B,223C,338 3,2243,338 3,2245,338 2,2248,338 17,3D,338
  2,2261,338 B,224D,338 1,3C,338 1,3E,338 1,2264,338 1,2265,338 3,2272,338 1,2273,338 3,2276,338
  1,2277,338 7,227A,338 1,227B,338 3,2282,338 1,2283,338 3,2286,338 1,2287,338 23,22A2,338
  1,22A8,338 1,22A9,338 1,22AB,338 31,227C,338 1,227D,338 1,2291,338 1,2292,338 7,22B2,338
  1,22B3,338 1,22B4,338 1,22B5,338 D5F,304B,3099 2,304D,3099 2,304F,3099 2,3051,3099 2,3053,3099
  2,3055,3099 2,3057,3099 2,3059,3099 2,305B,3099 2,305D,3099 2,305F,3099 2,3061,3099 3,3064,3099
  2,3066,3099 2,3068,3099 7,306F,3099 1,306F,309A 2,3072,3099 1,3072,309A 2,3075,3099 1,3075,309A
  2,3078,3099 1,3078,309A 2,307B,3099 1,307B,309A 17,3046,3099 A,309D,3099 E,30AB,3099 2,30AD,3099
  2,30AF,3099 2,30B1,3099 2,30B3,3099 2,30B5,3099 2,30B7,3099 2,30B9,3099 2,30BB,3099 2,30BD,3099
  2,30BF,3099 2,30C1,3099 3,30C4,3099 2,30C6,3099 2,30C8,3099 7,30CF,3099 1,30CF,309A 2,30D2,3099
  1,30D2,309A 2,30D5,3099 1,30D5,309A 2,30D8,3099 1,30D8,309A 2,30DB,3099 1,30DB,309A 17,30A6,3099
  3,30EF,3099 1,30F0,3099 1,30F1,3099 1,30F2,3099 4,30FD,3099 D4CB,105D2,307 1B,105DA,307
  AB6,11099,110BA 2,1109B,110BA F,110A5,110BA 83,11131,11127 1,11132,11127 21C,11347,1133E
  1,11347,11357 37,11382,113C9 2,11384,113BB 9,1138B,113C2 3,11390,113C9 34,113C2,113C2
  2,113C2,113B8 1,113C2,113C9 F3,114B9,114BA 1,114B9,114B0 2,114B9,114BD FC,115B8,115AF
  1,115B9,115AF 37D,11935,11930 47E9,1611E,1611E 1,1611E,16129 1,1611E,1611F 1,16129,1611F
  1,1611E,16120 1,16121,1611F 1,16122,1611F 1,16121,16120 C40,16D67,16D67 1,16D63,16D67
  1,16D69,16D67"

/-- The ranges of marks with their rank (combining class): distance from the end of the range
before, length less one, and rank. -/
def ranks : String := "
  300,14,E6 1,0,E8 1,3,DC 1,0,E8 1,0,D8 1,4,DC 1,1,CA 1,3,DC 1,1,CA 1,A,DC 1,4,1 1,3,DC 1,9,E6
  1,2,DC 1,2,E6 1,1,DC 2,2,E6 1,3,DC 1,0,E6 1,0,E8 1,1,DC 1,0,E6 1,0,E9 1,1,EA 1,0,E9 1,1,EA
  1,0,E9 1,C,E6 114,4,E6 10A,0,DC 1,3,E6 1,0,DC 1,2,E6 1,0,DE 1,0,DC 1,5,E6 1,5,DC 1,1,E6 1,0,DC
  1,1,E6 1,0,DE 1,0,E4 1,0,E6 1,0,A 1,0,B 1,0,C 1,0,D 1,0,E 1,0,F 1,0,10 1,0,11 1,0,12 1,1,13
  1,0,14 1,0,15 1,0,16 2,0,17 2,0,18 1,0,19 2,0,E6 1,0,DC 2,0,12 1,0,E6 48,7,E6 1,0,1E 1,0,1F
  1,0,20 31,0,1B 1,0,1C 1,0,1D 1,0,1E 1,0,1F 1,0,20 1,0,21 1,0,22 1,1,E6 1,1,DC 1,4,E6 1,0,DC
  1,1,E6 1,0,DC 11,0,23 66,6,E6 3,3,E6 1,0,DC 1,0,E6 3,1,E6 2,0,DC 1,1,E6 1,0,DC 24,0,24 1F,0,E6
  1,0,DC 1,1,E6 1,0,DC 1,1,E6 1,2,DC 1,0,E6 1,1,DC 1,0,E6 1,0,DC 1,2,E6 1,0,DC 1,0,E6 1,0,DC
  1,0,E6 1,0,DC 1,0,E6 1,0,DC 1,1,E6 A1,6,E6 1,0,DC 1,0,E6 A,0,DC 19,3,E6 2,8,E6 2,2,E6 2,4,E6
  2C,2,DC 3C,1,E6 1,2,DC 1,3,E6 2B,4,E6 1,4,DC 1,D,E6 2,0,DC 1,1,E6 1,0,DC 1,1,E6 1,0,DC 1,2,E6
  1,2,DC 1,0,1B 1,0,1C 1,0,1D 1,2,E6 1,0,DC 1,1,E6 1,1,DC 1,4,E6 3D,0,7 11,0,9 4,0,E6 1,0,DC
  1,1,E6 68,0,7 11,0,9 31,0,E6 3E,0,7 11,0,9 6F,0,7 11,0,9 6F,0,7 11,0,9 80,0,9 6F,0,7 11,0,9
  8,0,54 1,0,5B 66,0,7 11,0,9 6E,1,9 11,0,9 7D,0,9 6E,1,67 1,0,9 E,3,6B 6D,1,76 1,0,9 E,3,7A
  4D,1,DC 1C,0,DC 2,0,DC 2,0,D8 38,0,81 1,0,82 2,0,84 6,3,82 3,0,82 2,1,E6 1,0,9 2,1,E6 3F,0,DC
  71,0,7 2,1,9 53,0,DC 2D0,2,E6 3B5,1,9 1F,0,9 9E,0,9 B,0,E6 CC,0,E4 90,0,DE 1,0,E6 1,0,DC DC,0,E6
  1,0,DC 48,0,9 15,7,E6 3,0,DC 31,4,E6 1,5,DC 1,1,E6 1,0,DC 2,1,DC 1,1,E6 1,1,DC 1,4,E6 1,0,DC
  1,11,E6 1,0,DC 1,7,E6 1,0,DC 1,3,E6 1,0,EA 49,0,7 10,0,9 27,0,E6 1,0,DC 1,6,E6 37,1,9 3B,0,7
  C,1,9 44,0,7 99,2,E6 2,0,1 1,4,DC 1,1,E6 1,3,DC 1,0,E6 2,6,1 5,0,DC 7,0,E6 4,1,E6 C7,1,E6 1,0,DC
  1,6,E6 1,0,DC 1,1,E6 1,0,EA 1,0,D6 1,0,DC 1,0,CA 1,24,E6 1,0,E8 1,1,E4 1,0,DC 1,0,DA 1,0,E6
  1,0,E9 1,0,DC 1,0,E6 1,0,DC 2D1,1,E6 1,1,1 1,3,E6 1,2,1 1,1,E6 5,0,E6 4,1,1 1,0,E6 1,0,DC 1,0,E6
  1,1,1 1,3,DC 1,0,E6 BFF,2,E6 8E,0,9 61,1F,E6 22B,0,DA 1,0,E4 1,0,E8 1,0,DE 1,1,E0 6A,1,8
  75D5,0,E6 5,9,E6 21,1,E6 51,1,E6 115,0,9 26,0,9 98,0,9 1C,11,E6 3A,2,DC 26,0,9 60,0,7 D,0,9
  F0,0,E6 2,1,E6 1,0,DC 3,1,E6 6,1,E6 2,0,E6 35,0,9 F7,0,9 4F31,0,1A 302,6,E6 1,6,DC 1,1,E6
  3CE,0,DC E3,0,DC 96,4,E6 693,0,DC 2,0,E6 29,0,E6 1,0,1 1,0,DC 5,0,9 A6,0,E6 1,0,DC 23E,3,E6
  42,4,E6 13E,1,E6 4E,1,DC 2,2,DC 47,1,DC 1,2,E6 1,0,DC 1,0,E6 1,3,DC 32,0,E6 1,0,DC 1,0,E6 1,0,DC
  C1,0,9 2A,0,9 F,0,9 3A,0,9 1,0,7 46,2,E6 31,1,9 3F,0,7 4D,0,9 A,0,7 6B,0,9 1,0,7 B3,0,7 1,0,9
  51,1,7 11,0,9 19,E,E6 5A,2,9 72,0,9 4,0,7 18,0,E6 64,0,9 1,0,7 FC,0,9 1,0,7 7F,0,9 77,0,9 1,0,7
  74,0,9 10E,0,9 1,0,7 103,1,9 5,0,7 9D,0,9 54,0,9 13,0,9 52,0,9 1A6,0,9 103,0,7 2,1,9 52,0,9
  1AA,1,9 41ED,0,9 9C1,4,1 3C,6,E6 4BA,1,6 4CAD,0,1 14C7,1,D8 1,2,1 4,0,E2 1,4,D8 9,7,DC 3,4,E6
  1,1,DC 1F,3,E6 95,2,E6 DBC,8F,E6 A1,6,E6 178,0,E6 3E,3,E6 1FD,1,E8 1,0,DC 1,0,E6 FF,0,E6 1,0,DC
  F4,0,E6 3,0,E6 8,1,E6 6,0,E6 1DB,6,DC 6E,5,E6 1,0,7"

end BroadcastChat.Text.CompositionTable
