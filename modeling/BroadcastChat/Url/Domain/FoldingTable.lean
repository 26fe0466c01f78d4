/-
# The characters of international domain names

Which characters a domain name may not hold, which are left out of it, and
which stand for others, as in a name's capital letters. Numbers are hexadecimal;
a row starts with the distance to the row before.

Key definitions: `FoldingTable.refused`, `FoldingTable.dropped`,
`FoldingTable.runs`, `FoldingTable.others`.
-/

namespace BroadcastChat.Url.Domain.FoldingTable

/-- The ranges of the characters that no name may hold: distance from the end of the range before,
and length less one. -/
def refused : String := "
  80,1F 2D9,1 7,3 8,0 2,0 15,0 18E,0 27,1 34,0 4,0 39,6 1C,3 7,10 17,0 C1,0 31,1 3C,1 66,D 3C,1
  32,1 10,0 1D,1 2,0 C,4 21,6 4C,0 A2,0 9,1 3,1 17,0 8,0 2,2 5,1 A,1 3,1 5,7 2,3 3,0 6,1 1A,1 4,0
  7,3 3,1 17,0 8,0 3,0 3,0 3,1 2,0 6,3 3,1 4,2 2,6 5,0 2,6 12,9 4,0 A,0 4,0 17,0 8,0 3,0 6,1 B,0
  4,0 4,1 2,E 5,1 D,6 8,0 4,0 9,1 3,1 17,0 8,0 3,0 6,1 A,1 3,1 4,4 6,3 3,0 6,1 13,9 3,0 7,2 4,0
  5,2 3,0 2,0 3,2 3,2 4,2 D,3 6,2 4,0 5,1 2,5 2,D 16,4 E,0 4,0 18,0 11,1 A,0 4,0 5,6 3,0 4,0 3,1
  5,1 B,6 17,0 4,0 18,0 B,0 6,1 A,0 4,0 5,6 3,4 4,0 5,1 B,0 4,B E,0 4,0 34,0 4,0 7,3 11,1 1B,0 4,0
  13,2 19,0 A,0 2,1 8,2 2,3 7,0 2,0 9,5 B,1 4,B 3B,3 1E,24 3,0 2,0 6,0 19,0 2,0 18,1 6,0 2,0 8,0
  B,1 5,1F 49,0 25,3 28,0 25,0 10,0 E,24 C7,0 2,4 2,1 17A,0 5,1 8,0 2,0 5,1 2A,0 5,1 22,0 5,1 8,0
  2,0 5,1 10,0 3A,0 5,1 44,1 21,2 1B,5 57,1 7,1 281,0 1D,2 5A,6 17,8 19,8 15,B E,0 4,0 3,B 5F,1
  B,5 B,5 1B,5 5A,6 2C,4 47,9 20,0 D,3 D,3 2,2 2B,1 6,A 2D,3 1B,5 C,2 3F,1 42,0 1E,1 C,5 B,5 F,1
  3D,13 4E,0 A7,7 3D,2 10,2 3F,4 2C,1 C,7 2C,4 217,1 7,1 27,1 7,1 9,0 2,0 2,0 2,0 20,1 36,0 10,0
  F,1 7,0 14,1 4,0 A,0 F,1 15,2 2,6 37,4 9,1 1C,0 35,B 22,E 8D,3 29B,15 C,14 29,13 6D9,1 17F,4
  2E,0 2,4 2,1 39,6 3,D 19,8 8,0 8,0 8,0 8,0 8,0 8,0 8,0 8,0 82,1E 1B,0 5A,B D7,29 41,0 57,1 68,4
  2C,0 5F,0 57,9 30,0 1A3,0 5,0 11,0 70B5,2 38,8 15D,13 B9,7 DF,12 3D,2 B,5 39,7 47,7 D,5 75,A
  1F,2 4F,0 C,3 22,0 38,8 F,1 B,1 68,17 1D,9 7,1 7,1 7,8 8,0 8,0 3D,3 7F,1 B,5 2BA5,B 18,3 32,2103
  16F,1 6B,25 8,B 6,4 1B,0 6,0 2,0 3,0 3,0 28B,1F 23,0 7,6 11,0 22,1 14,0 5,3 6,0 88,1 2,0 BF,2
  7,1 7,1 7,1 4,2 8,0 8,10 D,0 1B,0 14,0 3,0 10,1 F,21 7C,4 4,3 2E,2 59,0 E,2 2,2E 2F,81 1E,2 32,E
  1D,3 25,8 1F,4 2C,4 1F,0 26,3 F,29 9F,1 B,5 25,3 25,3 29,7 35,A D,0 10,0 8,0 3,0 C,0 10,0 8,0
  3,2 35,B 138,8 17,9 9,17 7,0 2B,0 B,43 7,1 2,0 2D,0 3,2 2,1 18,0 49,7 A,2F 14,0 3,4 22,2 1C,4
  1C,25 39,3 15,1 33,0 3,4 9,0 4,0 1E,1 4,3 B,6 A,6 41,1F 28,3 D,8 37,2 1E,1 1C,4 1B,6 5,B 8,4F
  4A,36 34,C 34,6 2F,7 B,5 27,2 1E,7 3,CF 20,0 2B,0 4,1 3,F 7,7 A,20 2F,7 2B,15 1B,25 1D,13 18,8
  4F,3 25,8 3F,0 6,C 1A,6 B,5 36,0 13,7 28,8 61,0 15,A 13,0 30,3D 8,0 2,0 5,0 10,0 C,5 3C,4 B,5
  5,0 9,1 3,1 17,0 8,0 3,0 6,0 B,1 3,1 4,1 2,5 2,4 8,1 8,2 6,A B,0 2,1 2,0 27,0 B,0 2,1 2,0 5,0
  B,0 3,7 3,1C 5D,0 6,1D 49,7 B,A5 37,1 27,21 46,A B,5 E,12 3B,5 B,5 15,1B 1C,1 10,3 18,B8 3D,63
  54,B 9,1 2,1 9,0 3,0 1F,0 3,1 D,8 B,45 9,1 2F,1 C,1A 49,7 54,C 4A,6 B,55 9,57 23,D B,5 A,0 2E,0
  F,9 1E,2 21,1 17,0 F,48 8,0 3,0 2D,2 2,0 3,0 A,7 B,5 7,0 3,0 26,0 3,0 7,6 B,5 2D,3 B,F5 1A,6
  12,0 2A,2 1E,54 2,E 33,C 39C,65 70,0 6,A C5,B 138,908 64,C 431,F 17,9 F9C,4 248,1AB8 3B,6C5
  23A,6 20,0 B,3 52,0 B,5 1F,1 7,9 47,9 B,0 8,0 16,4 14,1AF 3B,5 1F,1 B,95 5C,4 1A,1 1A,2B 4C,3
  3A,6 12,3F 6,A 8,8 1CD7,28 21,60 74,21FC 5,0 8,0 3,0 124,E 2,1C 4,1 2,D 5,7 18D,903 6C,4 E,2 A,6
  B,1 9,F5B FE,2 1B5,5 18,E 12,E 2F,1 18,8 75,3B F7,9 28,1 C3,14 47,79 15,B 15,B 58,8 1A,86 56,0
  48,0 3,1 2,1 3,1 5,0 D,0 2,0 8,0 42,0 5,1 9,0 8,0 1D,0 5,0 6,0 2,2 8,0 155,1 125,1 2BF,E 6,0
  10,44F 20,5 7,D4 8,0 12,1 8,0 3,0 6,4 3F,20 2,6F 2E,2 F,1 B,3 3,13F 20,10 3B,4 2,1CF 2B,D5 2C,3
  2,BF 20,0 17,7 3,DF 8,0 5,0 3,0 10,0 C6,1 11,28 4D,3 B,3 3,310 45,4B 3E,C1 5,0 1C,0 3,0 2,1 2,0
  B,0 5,0 2,0 2,5 2,3 2,0 2,0 2,0 4,0 3,0 2,1 2,0 2,0 2,0 2,0 2,0 3,0 2,1 5,0 8,0 5,0 5,0 2,0 B,0
  12,4 4,0 6,0 12,33 3,10D 2D,3 65,B 10,1 10,0 10,0 26,A AE,37 1E,C 2D,3 A,6 3,D 7,99 3DA,2 12,2
  E,2 DB,5 D,3 2,E D,3 39,7 B,5 29,7 1F,1 D,3 3,D A,26 159,7 F,1 E,2 C,2 3A,0 2,3 11,1 D,3 B,6
  94,0 68,404 A6E1,1F 111F,1 168F,1 1D32,E 26F,9A1 21F,5E1 134C,4 212B,9B85 2C41,A04BF F1,2FE0F"

/-- The ranges of the characters that are left out. -/
def dropped : String := "
  AD,0 2A2,0 E10,1 654,1 56,4 7FC,0 55,4 6,5 10F5,0 CC9C,F F0,0 A1,0 BD00,3 14D0,7 C2F86,EF"

/-- The runs of characters that stand for one other each: distance between the starts, how many
there are, how they run, and what the first one stands for. Of the ways to run, in the first both
sides go up by one, in the second by two, and in the third all stand for the same. -/
def runs : String := "
  41,1A,0,61 71,2,0,32 E,17,0,E0 18,7,0,F8 28,18,1,101 34,2,1,135 5,3,1,13A 8,4,1,142 9,17,1,14B
  2F,3,1,17A 9,2,1,183 7,2,0,256 17,3,1,1A1 11,2,0,28A 2,2,1,1B4 1A,8,1,1CE 11,9,1,1DF 1A,14,1,1F9
  2A,9,1,223 24,5,1,247 6A,2,1,68 90,2,0,300 30,2,1,371 18,3,0,3AD 6,2,0,3CD 3,11,0,3B1 12,9,0,3C3
  35,C,1,3D9 25,3,0,37B 3,10,0,450 10,20,0,430 50,11,1,461 2A,1B,1,48B 37,7,1,4C2 F,30,1,4D1
  61,26,0,561 B6F,26,0,2D00 358,6,0,13F0 88B,2,0,441 D,2B,0,10D0 2D,3,0,10FD 71,2,1,62 3,5,1,65
  3,4,1,68 C,2,0,74 4,2,0,250 4,2,0,64 3,2,0,25B 5,2,1,6D 4,2,0,1D16 3,2,0,74 6,3,0,3B2 3,2,0,3C6
  4,2,0,75 2,2,0,3B2 3,2,0,3C6 3B,3,0,268 A,4,0,272 5,2,0,282 3,2,0,289 3,2,0,28B 3,3,0,290
  44,4B,1,1E01 A0,30,1,1EA1 68,8,0,1F00 10,6,0,1F10 10,8,0,1F20 10,8,0,1F30 10,6,0,1F40
  11,4,1,1F51 F,8,0,1F60 50,2,0,1FB0 10,2,1,1F72 10,2,0,1FD0 10,2,0,1FE0 11,2,1,3CC 7,B,2,20
  74,6,0,34 9,2,0,28 3,A,0,30 D,2,0,28 9,4,0,6B 5,2,0,73 3,2,0,79 6C,2,0,67 2,3,2,68 4,2,2,69
  2,2,2,6C 7,3,0,70 3,2,2,72 10,2,0,62 3,2,2,65 6,4,0,5D0 8,2,2,3B3 8,2,2,64 3,2,0,69 25,2,0,63
  10,2,0,63 1AC,2,0,3008 137,9,0,31 56,1A,0,61 1A,1A,0,61 730,30,0,2C30 67,3,1,2C68 17,2,0,23F
  2,32,1,2C81 6B,2,1,2CEC 34E,2,0,5344 F8,2,0,1100 2,2,1,11AA 4,3,0,1103 3,6,0,11B0 7,3,0,1106
  4,A,0,1109 A,15,0,1161 16,2,0,1114 2,2,0,11C7 A,2,0,111D 3,2,0,1122 4,5,0,112B A,2,0,11F1
  2,3,0,1157 3,2,0,1184 3,2,0,1191 D7,2,0,1102 2,3,0,1105 4,2,0,110B 2,5,0,110E 6B,2,0,30AA
  10,6,0,30CA A,5,0,30DE 7,6,0,30E8 6,4,0,30EF 7345,17,1,A641 40,E,1,A681 A2,7,1,A723 10,1F,1,A733
  47,2,1,A77A 5,5,1,A77F 12,2,1,A791 6,A,1,A797 1E,8,1,A7B5 13,2,1,A7C8 5,8,1,A7CD 3A4,50,0,13A0
  4D97,2,2,9F9C 14B,2,0,798D B,2,2,8279 C5,2,0,5D3 2,3,0,5DB 2C,2,2,671 2,4,2,67B 4,4,2,67E
  4,4,2,680 4,4,2,67A 4,4,2,67F 4,4,2,679 4,4,2,6A4 4,4,2,6A6 4,4,2,684 4,4,2,683 4,4,2,686
  4,4,2,687 4,2,2,68D 2,2,1,68C 1,2,1,68C 3,2,2,688 2,2,2,698 2,2,2,691 2,4,2,6A9 4,4,2,6AF
  4,4,2,6B3 4,4,2,6B1 4,2,2,6BA 2,4,2,6BB 4,2,2,6C0 2,4,2,6C1 4,4,2,6BE 4,2,2,6D2 2,2,2,6D3
  23,4,2,6AD 4,2,2,6C7 2,2,1,6C6 1,2,1,6C6 4,2,2,6CB 2,2,2,6C5 2,2,2,6C9 2,4,2,6D0 4,2,2,649
  14,4,2,6CC 217,2,0,3A 4,2,0,3016 1C,2,2,5F 2,2,0,28 4,2,0,3014 2,2,0,3010 2,2,0,300A 2,2,0,3008
  2,4,0,300C C,3,2,5F C,2,0,28 4,2,0,3014 4,2,0,2A 8,2,0,24 17,2,0,621 2,2,0,622 2,2,0,623
  2,2,0,624 2,2,0,625 2,3,2,626 3,2,2,627 2,4,2,628 4,2,2,629 2,4,2,62A 4,4,2,62B 4,4,2,62C
  4,4,2,62D 4,4,2,62E 4,2,2,62F 2,2,2,630 2,2,2,631 2,2,2,632 2,4,2,633 4,4,2,634 4,4,2,635
  4,4,2,636 4,4,2,637 4,4,2,638 4,4,2,639 4,4,2,63A 4,4,2,641 4,4,2,642 4,4,2,643 4,4,2,644
  4,4,2,645 4,4,2,646 4,4,2,647 4,2,2,648 2,2,2,649 2,4,2,64A 10,20,0,21 20,1A,0,61 1A,24,0,5B
  24,2,0,2985 3,2,0,300C 13,2,0,30AA 10,6,0,30CA A,5,0,30DE 7,6,0,30E8 8,2,0,3099 3,2,0,1100
  2,2,1,11AA 4,3,0,1103 3,6,0,11B0 7,3,0,1106 4,A,0,1109 D,6,0,1161 8,6,0,1167 8,6,0,116D
  8,3,0,1173 6,2,0,A2 9,4,0,2190 417,28,0,10428 B0,24,0,104D8 C0,13,1,10597 1,5,1,10598
  C,7,1,105A4 10,3,1,105B4 1F4,2,0,2D0 6,2,1,2A3 4,2,0,256 E,2,0,2AA A,2,0,276 5,2,0,27D B,2,0,2A1
  3,3,0,1C0 4CA,33,0,10CC0 D0,16,0,10D70 B50,20,0,118C0 55A0,20,0,16E60 60,19,0,16EBB 5E36,1A,0,61
  1A,A,0,30 710,1A,0,61 1A,1A,0,61 1A,1A,0,61 1A,D,1,61 1,3,1,62 8,9,1,6A 11,1A,0,61 1A,1A,0,61
  1A,2,1,61 9,2,0,6A 4,4,0,6E 5,8,0,73 8,4,0,61 5,B,1,66 3,3,1,69 8,5,1,71 A,1A,0,61 1A,1A,0,61
  1A,2,0,61 3,4,0,64 6,8,0,6A 9,7,0,73 8,1A,0,61 1A,2,0,61 3,4,0,64 5,5,0,69 A,7,0,73 8,1A,0,61
  1A,1A,0,61 1A,1A,0,61 1A,1A,0,61 1A,1A,0,61 1A,1A,0,61 1A,1A,0,61 1A,1A,0,61 1A,1A,0,61
  1A,1A,0,61 1A,1A,0,61 1A,1A,0,61 1A,1A,0,61 1E,11,0,3B1 12,7,0,3C3 8,11,0,3B1 11,2,2,3C3
  2,6,0,3C4 D,11,0,3B1 12,7,0,3C3 8,11,0,3B1 11,2,2,3C3 2,6,0,3C4 D,11,0,3B1 12,7,0,3C3 8,11,0,3B1
  11,2,2,3C3 2,6,0,3C4 D,11,0,3B1 12,7,0,3C3 8,11,0,3B1 11,2,2,3C3 2,6,0,3C4 D,11,0,3B1 12,7,0,3C3
  8,11,0,3B1 11,2,2,3C3 2,6,0,3C4 D,2,2,3DD 4,A,0,30 A,A,0,30 A,A,0,30 A,A,0,30 A,A,0,30
  83A,9,0,430 9,3,0,43A 3,B,0,43E C,2,0,44D 9,9,0,430 9,2,0,43A 2,2,0,43E 3,6,0,443 6,2,0,44A
  89B,22,0,1E922 500,2,0,627 A,4,0,643 B,2,0,62A 15,4,0,643 B,2,0,62A 16,2,1,644 1F,2,1,643
  B,2,0,62A B,2,0,627 4,2,0,647 7,3,0,644 A,2,0,62A 16,3,0,644 A,2,0,62A 27B,1A,0,61 AC0,A,0,30
  FC39,2,0,5305 7,2,1,537D 15,2,2,5584 25,2,2,5B3E 11,2,1,21DE4 6,2,0,5DE1 10,2,2,22331 3,2,2,5F22
  61,2,0,6BBA 37,2,2,3EB8 19,2,0,771E 18,2,2,25AA7 8B,2,0,92D7 16,2,2,980B"

/-- The other characters, each with all that it stands for. -/
def others : String := "
  A0,20 8,20,308 2,61 5,20,304 5,20,301 1,3BC 3,20,327 1,31 1,6F 2,31,2044,34 1,31,2044,32
  1,33,2044,34 72,69,307 2,69,6A 1,69,6A C,6C,B7 1,6C,B7 9,2BC,6E 2F,FF 7,73 2,253 5,254 1,188
  4,18C 3,1DD 1,259 1,25B 1,192 2,260 1,263 2,269 1,268 1,199 4,26F 1,272 2,275 7,280 1,1A8 2,283
  3,1AD 2,288 1,1B0 8,292 1,1B9 4,1BD 8,64,17E 1,64,17E 1,64,17E 1,6C,6A 1,6C,6A 1,6C,6A 1,6E,6A
  1,6E,6A 1,6E,6A 25,64,7A 1,64,7A 1,64,7A 1,1F5 2,195 1,1BF 29,19E 1A,2C65 1,23C 2,19A 1,2C66
  3,242 2,180 1,289 1,28C 6C,266 2,72 1,279 1,27B 1,281 1,77 1,79 20,20,306 1,20,307 1,20,30A
  1,20,328 1,20,303 1,20,30B 3,263 1,6C 1,73 1,78 1,295 5F,313 1,308,301 1,3B9 2F,2B9 2,377
  4,20,3B9 4,3B 1,3F3 5,20,301 1,20,308,301 1,3AC 1,B7 5,3CC 43,3D7 1,3B2 1,3B8 1,3C5 1,3CD 1,3CB
  1,3C6 1,3C0 1A,3BA 1,3C1 1,3C3 2,3B8 1,3B5 2,3F8 2,3C3 1,3FB C6,4CF C7,565,582 4,56B EA,627,674
  1,648,674 1,6C7,674 1,64A,674 2E0,915,93C 1,916,93C 1,917,93C 1,91C,93C 1,921,93C 1,922,93C
  1,92B,93C 1,92F,93C 7D,9A1,9BC 1,9A2,9BC 2,9AF,9BC 54,A32,A3C 3,A38,A3C 23,A16,A3C 1,A17,A3C
  1,A1C,A3C 3,A2B,A3C FE,B21,B3C 1,B22,B3C 2D6,E4D,E32 80,ECD,EB2 29,EAB,E99 1,EAB,EA1 2F,F0B
  37,F42,FB7 A,F4C,FB7 5,F51,FB7 5,F56,FB7 5,F5B,FB7 D,F40,FB5 A,F71,F72 2,F71,F74 1,FB2,F80
  1,FB2,F71,F80 1,FB3,F80 1,FB3,F71,F80 8,F71,F80 12,F92,FB7 A,F9C,FB7 5,FA1,FB7 5,FA6,FB7
  5,FAB,FB7 D,F90,FB5 10E,2D27 6,2D2D 2F,10DC B84,432 1,434 1,43E 3,442 1,44A 1,463 1,A64B 1,1C8A
  A3,61 1,E6 5,1DD A,6F 1,223 1,70 1,72 3,77 1,61 3,1D02 1,62 3,259 3,67 2,6B 2,14B 2,254 3,70
  3,1D1D 1,26F 1,76 1,1D25 6,69 1,72 5,3C1 10,43D 23,252 1,63 1,255 1,F0 1,25C 1,66 1,25F 1,261
  1,265 4,1D7B 1,29D 1,26D 1,1D85 1,29F 1,271 1,270 5,278 3,1AB 3,1D1C 3,7A 4,3B8 DB,61,2BE 1,1E61
  3,DF D3,3AC 2,3AD 2,3AE 2,3AF 2,3CC 2,3CD 2,3CE 3,1F00,3B9 1,1F01,3B9 1,1F02,3B9 1,1F03,3B9
  1,1F04,3B9 1,1F05,3B9 1,1F06,3B9 1,1F07,3B9 1,1F00,3B9 1,1F01,3B9 1,1F02,3B9 1,1F03,3B9
  1,1F04,3B9 1,1F05,3B9 1,1F06,3B9 1,1F07,3B9 1,1F20,3B9 1,1F21,3B9 1,1F22,3B9 1,1F23,3B9
  1,1F24,3B9 1,1F25,3B9 1,1F26,3B9 1,1F27,3B9 1,1F20,3B9 1,1F21,3B9 1,1F22,3B9 1,1F23,3B9
  1,1F24,3B9 1,1F25,3B9 1,1F26,3B9 1,1F27,3B9 1,1F60,3B9 1,1F61,3B9 1,1F62,3B9 1,1F63,3B9
  1,1F64,3B9 1,1F65,3B9 1,1F66,3B9 1,1F67,3B9 1,1F60,3B9 1,1F61,3B9 1,1F62,3B9 1,1F63,3B9
  1,1F64,3B9 1,1F65,3B9 1,1F66,3B9 1,1F67,3B9 3,1F70,3B9 1,3B1,3B9 1,3AC,3B9 3,1FB6,3B9 3,1F70
  1,3AC 1,3B1,3B9 1,20,313 1,3B9 1,20,313 1,20,342 1,20,308,342 1,1F74,3B9 1,3B7,3B9 1,3AE,3B9
  3,1FC6,3B9 2,3AD 2,3AE 1,3B7,3B9 1,20,313,300 1,20,313,301 1,20,313,342 4,390 7,1F76 1,3AF
  2,20,314,300 1,20,314,301 1,20,314,342 4,3B0 7,1F7A 1,3CD 1,1FE5 1,20,308,300 1,20,308,301 1,60
  3,1F7C,3B9 1,3C9,3B9 1,3CE,3B9 3,1FF6,3B9 1,1F78 2,1F7C 2,3C9,3B9 1,20,301 1,20,314 13,2010
  6,20,333 18,20 4,2032,2032 1,2032,2032,2032 2,2035,2035 1,2035,2035,2035 5,21,21 2,20,305
  9,3F,3F 1,3F,21 1,21,3F E,2032,2032,2032,2032 8,20 11,30 1,69 9,2B 1,2212 1,3D 3,6E B,2B 1,2212
  1,3D 4,61 1,65 1,6F 1,78 1,259 1,68 5,70 3,77 B,72,73 58,61,2F,63 1,61,2F,73 1,63 1,B0,63
  2,63,2F,6F 1,63,2F,75 1,25B 2,B0,66 6,127 6,6E 1,6E,6F A,73,6D 1,74,65,6C 1,74,6D 2,7A 2,3C9
  2,7A 2,6B 1,E5 6,66 1,214E 1,6D 1,6F 5,69 2,66,61,78 1,3C0 3,3C0 1,2211 7,65 9,31,2044,37
  1,31,2044,39 1,31,2044,31,30 1,31,2044,33 1,32,2044,33 1,31,2044,35 1,32,2044,35 1,33,2044,35
  1,34,2044,35 1,31,2044,36 1,35,2044,36 1,31,2044,38 1,33,2044,38 1,35,2044,38 1,37,2044,38
  1,31,2044 1,69 1,69,69 1,69,69,69 1,69,76 1,76 1,76,69 1,76,69,69 1,76,69,69,69 1,69,78 1,78
  1,78,69 1,78,69,69 1,6C 3,6D 1,69 1,69,69 1,69,69,69 1,69,76 1,76 1,76,69 1,76,69,69
  1,76,69,69,69 1,69,78 1,78 1,78,69 1,78,69,69 1,6C 3,6D 4,2184 6,30,2044,33 A3,222B,222B
  1,222B,222B,222B 2,222E,222E 1,222E,222E,222E 239,31,30 1,31,31 1,31,32 1,31,33 1,31,34 1,31,35
  1,31,36 1,31,37 1,31,38 1,31,39 1,32,30 1,28,31,29 1,28,32,29 1,28,33,29 1,28,34,29 1,28,35,29
  1,28,36,29 1,28,37,29 1,28,38,29 1,28,39,29 1,28,31,30,29 1,28,31,31,29 1,28,31,32,29
  1,28,31,33,29 1,28,31,34,29 1,28,31,35,29 1,28,31,36,29 1,28,31,37,29 1,28,31,38,29
  1,28,31,39,29 1,28,32,30,29 15,28,61,29 1,28,62,29 1,28,63,29 1,28,64,29 1,28,65,29 1,28,66,29
  1,28,67,29 1,28,68,29 1,28,69,29 1,28,6A,29 1,28,6B,29 1,28,6C,29 1,28,6D,29 1,28,6E,29
  1,28,6F,29 1,28,70,29 1,28,71,29 1,28,72,29 1,28,73,29 1,28,74,29 1,28,75,29 1,28,76,29
  1,28,77,29 1,28,78,29 1,28,79,29 1,28,7A,29 35,30 522,222B,222B,222B,222B 68,3A,3A,3D 1,3D,3D
  1,3D,3D,3D 66,2ADD,338 184,2C61 2,26B 1,1D7D 1,27D 9,251 1,271 1,250 1,252 2,2C73 3,2C76 7,6A
  1,76 75,2CF3 7D,2D61 130,6BCD 54,9F9F D,4E00 1,4E28 1,4E36 1,4E3F 1,4E59 1,4E85 1,4E8C 1,4EA0
  1,4EBA 1,513F 1,5165 1,516B 1,5182 1,5196 1,51AB 1,51E0 1,51F5 1,5200 1,529B 1,52F9 1,5315
  1,531A 1,5338 1,5341 1,535C 1,5369 1,5382 1,53B6 1,53C8 1,53E3 1,56D7 1,571F 1,58EB 1,5902
  1,590A 1,5915 1,5927 1,5973 1,5B50 1,5B80 1,5BF8 1,5C0F 1,5C22 1,5C38 1,5C6E 1,5C71 1,5DDB
  1,5DE5 1,5DF1 1,5DFE 1,5E72 1,5E7A 1,5E7F 1,5EF4 1,5EFE 1,5F0B 1,5F13 1,5F50 1,5F61 1,5F73
  1,5FC3 1,6208 1,6236 1,624B 1,652F 1,6534 1,6587 1,6597 1,65A4 1,65B9 1,65E0 1,65E5 1,66F0
  1,6708 1,6728 1,6B20 1,6B62 1,6B79 1,6BB3 1,6BCB 1,6BD4 1,6BDB 1,6C0F 1,6C14 1,6C34 1,706B
  1,722A 1,7236 1,723B 1,723F 1,7247 1,7259 1,725B 1,72AC 1,7384 1,7389 1,74DC 1,74E6 1,7518
  1,751F 1,7528 1,7530 1,758B 1,7592 1,7676 1,767D 1,76AE 1,76BF 1,76EE 1,77DB 1,77E2 1,77F3
  1,793A 1,79B8 1,79BE 1,7A74 1,7ACB 1,7AF9 1,7C73 1,7CF8 1,7F36 1,7F51 1,7F8A 1,7FBD 1,8001
  1,800C 1,8012 1,8033 1,807F 1,8089 1,81E3 1,81EA 1,81F3 1,81FC 1,820C 1,821B 1,821F 1,826E
  1,8272 1,8278 1,864D 1,866B 1,8840 1,884C 1,8863 1,897E 1,898B 1,89D2 1,8A00 1,8C37 1,8C46
  1,8C55 1,8C78 1,8C9D 1,8D64 1,8D70 1,8DB3 1,8EAB 1,8ECA 1,8F9B 1,8FB0 1,8FB5 1,9091 1,9149
  1,91C6 1,91CC 1,91D1 1,9577 1,9580 1,961C 1,96B6 1,96B9 1,96E8 1,9751 1,975E 1,9762 1,9769
  1,97CB 1,97ED 1,97F3 1,9801 1,98A8 1,98DB 1,98DF 1,9996 1,9999 1,99AC 1,9AA8 1,9AD8 1,9ADF
  1,9B25 1,9B2F 1,9B32 1,9B3C 1,9B5A 1,9CE5 1,9E75 1,9E7F 1,9EA5 1,9EBB 1,9EC3 1,9ECD 1,9ED1
  1,9EF9 1,9EFD 1,9F0E 1,9F13 1,9F20 1,9F3B 1,9F4A 1,9F52 1,9F8D 1,9F9C 1,9FA0 2B,20 2,2E 34,3012
  2,5341 63,20,3099 1,20,309A 3,3088,308A 60,30B3,30C8 35,1102 2,11AD A,111A 4,1121 25,11CC 1,11CE
  1,11D3 1,11D7 1,11D9 1,111C 1,11DD 1,11DF 3,1120 3,1127 1,1129 6,1132 1,1136 1,1140 1,1147
  1,114C 8,1188 3,1194 1,119E 1,11A1 4,4E00 1,4E8C 1,4E09 1,56DB 1,4E0A 1,4E2D 1,4E0B 1,7532
  1,4E59 1,4E19 1,4E01 1,5929 1,5730 1,4EBA 61,28,1100,29 1,28,1102,29 1,28,1103,29 1,28,1105,29
  1,28,1106,29 1,28,1107,29 1,28,1109,29 1,28,110B,29 1,28,110C,29 1,28,110E,29 1,28,110F,29
  1,28,1110,29 1,28,1111,29 1,28,1112,29 1,28,AC00,29 1,28,B098,29 1,28,B2E4,29 1,28,B77C,29
  1,28,B9C8,29 1,28,BC14,29 1,28,C0AC,29 1,28,C544,29 1,28,C790,29 1,28,CC28,29 1,28,CE74,29
  1,28,D0C0,29 1,28,D30C,29 1,28,D558,29 1,28,C8FC,29 1,28,C624,C804,29 1,28,C624,D6C4,29
  2,28,4E00,29 1,28,4E8C,29 1,28,4E09,29 1,28,56DB,29 1,28,4E94,29 1,28,516D,29 1,28,4E03,29
  1,28,516B,29 1,28,4E5D,29 1,28,5341,29 1,28,6708,29 1,28,706B,29 1,28,6C34,29 1,28,6728,29
  1,28,91D1,29 1,28,571F,29 1,28,65E5,29 1,28,682A,29 1,28,6709,29 1,28,793E,29 1,28,540D,29
  1,28,7279,29 1,28,8CA1,29 1,28,795D,29 1,28,52B4,29 1,28,4EE3,29 1,28,547C,29 1,28,5B66,29
  1,28,76E3,29 1,28,4F01,29 1,28,8CC7,29 1,28,5354,29 1,28,796D,29 1,28,4F11,29 1,28,81EA,29
  1,28,81F3,29 1,554F 1,5E7C 1,6587 1,7B8F 9,70,74,65 1,32,31 1,32,32 1,32,33 1,32,34 1,32,35
  1,32,36 1,32,37 1,32,38 1,32,39 1,33,30 1,33,31 1,33,32 1,33,33 1,33,34 1,33,35 1,1100 6,1109
  8,AC00 1,B098 1,B2E4 1,B77C 1,B9C8 1,BC14 1,C0AC 1,C544 1,C790 1,CC28 1,CE74 1,D0C0 1,D30C
  1,D558 1,CC38,ACE0 1,C8FC,C758 1,C6B0 2,4E00 1,4E8C 1,4E09 1,56DB 1,4E94 1,516D 1,4E03 1,516B
  1,4E5D 1,5341 1,6708 1,706B 1,6C34 1,6728 1,91D1 1,571F 1,65E5 1,682A 1,6709 1,793E 1,540D
  1,7279 1,8CA1 1,795D 1,52B4 1,79D8 1,7537 1,5973 1,9069 1,512A 1,5370 1,6CE8 1,9805 1,4F11
  1,5199 1,6B63 1,4E0A 1,4E2D 1,4E0B 1,5DE6 1,53F3 1,533B 1,5B97 1,5B66 1,76E3 1,4F01 1,8CC7
  1,5354 1,591C 1,33,36 1,33,37 1,33,38 1,33,39 1,34,30 1,34,31 1,34,32 1,34,33 1,34,34 1,34,35
  1,34,36 1,34,37 1,34,38 1,34,39 1,35,30 1,31,6708 1,32,6708 1,33,6708 1,34,6708 1,35,6708
  1,36,6708 1,37,6708 1,38,6708 1,39,6708 1,31,30,6708 1,31,31,6708 1,31,32,6708 1,68,67
  1,65,72,67 1,65,76 1,6C,74,64 1,30A2 1,30A4 1,30A6 1,30A8 3,30AD 1,30AF 1,30B1 1,30B3 1,30B5
  1,30B7 1,30B9 1,30BB 1,30BD 1,30BF 1,30C1 1,30C4 1,30C6 1,30C8 7,30D2 1,30D5 1,30D8 1,30DB
  6,30E4 1,30E6 B,4EE4,548C 1,30A2,30D1,30FC,30C8 1,30A2,30EB,30D5,30A1 1,30A2,30F3,30DA,30A2
  1,30A2,30FC,30EB 1,30A4,30CB,30F3,30B0 1,30A4,30F3,30C1 1,30A6,30A9,30F3
  1,30A8,30B9,30AF,30FC,30C9 1,30A8,30FC,30AB,30FC 1,30AA,30F3,30B9 1,30AA,30FC,30E0
  1,30AB,30A4,30EA 1,30AB,30E9,30C3,30C8 1,30AB,30ED,30EA,30FC 1,30AC,30ED,30F3 1,30AC,30F3,30DE
  1,30AE,30AC 1,30AE,30CB,30FC 1,30AD,30E5,30EA,30FC 1,30AE,30EB,30C0,30FC 1,30AD,30ED
  1,30AD,30ED,30B0,30E9,30E0 1,30AD,30ED,30E1,30FC,30C8,30EB 1,30AD,30ED,30EF,30C3,30C8
  1,30B0,30E9,30E0 1,30B0,30E9,30E0,30C8,30F3 1,30AF,30EB,30BC,30A4,30ED 1,30AF,30ED,30FC,30CD
  1,30B1,30FC,30B9 1,30B3,30EB,30CA 1,30B3,30FC,30DD 1,30B5,30A4,30AF,30EB
  1,30B5,30F3,30C1,30FC,30E0 1,30B7,30EA,30F3,30B0 1,30BB,30F3,30C1 1,30BB,30F3,30C8
  1,30C0,30FC,30B9 1,30C7,30B7 1,30C9,30EB 1,30C8,30F3 1,30CA,30CE 1,30CE,30C3,30C8
  1,30CF,30A4,30C4 1,30D1,30FC,30BB,30F3,30C8 1,30D1,30FC,30C4 1,30D0,30FC,30EC,30EB
  1,30D4,30A2,30B9,30C8,30EB 1,30D4,30AF,30EB 1,30D4,30B3 1,30D3,30EB 1,30D5,30A1,30E9,30C3,30C9
  1,30D5,30A3,30FC,30C8 1,30D6,30C3,30B7,30A7,30EB 1,30D5,30E9,30F3 1,30D8,30AF,30BF,30FC,30EB
  1,30DA,30BD 1,30DA,30CB,30D2 1,30D8,30EB,30C4 1,30DA,30F3,30B9 1,30DA,30FC,30B8 1,30D9,30FC,30BF
  1,30DD,30A4,30F3,30C8 1,30DC,30EB,30C8 1,30DB,30F3 1,30DD,30F3,30C9 1,30DB,30FC,30EB
  1,30DB,30FC,30F3 1,30DE,30A4,30AF,30ED 1,30DE,30A4,30EB 1,30DE,30C3,30CF 1,30DE,30EB,30AF
  1,30DE,30F3,30B7,30E7,30F3 1,30DF,30AF,30ED,30F3 1,30DF,30EA 1,30DF,30EA,30D0,30FC,30EB
  1,30E1,30AC 1,30E1,30AC,30C8,30F3 1,30E1,30FC,30C8,30EB 1,30E4,30FC,30C9 1,30E4,30FC,30EB
  1,30E6,30A2,30F3 1,30EA,30C3,30C8,30EB 1,30EA,30E9 1,30EB,30D4,30FC 1,30EB,30FC,30D6,30EB
  1,30EC,30E0 1,30EC,30F3,30C8,30B2,30F3 1,30EF,30C3,30C8 1,30,70B9 1,31,70B9 1,32,70B9 1,33,70B9
  1,34,70B9 1,35,70B9 1,36,70B9 1,37,70B9 1,38,70B9 1,39,70B9 1,31,30,70B9 1,31,31,70B9
  1,31,32,70B9 1,31,33,70B9 1,31,34,70B9 1,31,35,70B9 1,31,36,70B9 1,31,37,70B9 1,31,38,70B9
  1,31,39,70B9 1,32,30,70B9 1,32,31,70B9 1,32,32,70B9 1,32,33,70B9 1,32,34,70B9 1,68,70,61 1,64,61
  1,61,75 1,62,61,72 1,6F,76 1,70,63 1,64,6D 1,64,6D,32 1,64,6D,33 1,69,75 1,5E73,6210 1,662D,548C
  1,5927,6B63 1,660E,6CBB 1,682A,5F0F,4F1A,793E 1,70,61 1,6E,61 1,3BC,61 1,6D,61 1,6B,61 1,6B,62
  1,6D,62 1,67,62 1,63,61,6C 1,6B,63,61,6C 1,70,66 1,6E,66 1,3BC,66 1,3BC,67 1,6D,67 1,6B,67
  1,68,7A 1,6B,68,7A 1,6D,68,7A 1,67,68,7A 1,74,68,7A 1,3BC,6C 1,6D,6C 1,64,6C 1,6B,6C 1,66,6D
  1,6E,6D 1,3BC,6D 1,6D,6D 1,63,6D 1,6B,6D 1,6D,6D,32 1,63,6D,32 1,6D,32 1,6B,6D,32 1,6D,6D,33
  1,63,6D,33 1,6D,33 1,6B,6D,33 1,6D,2215,73 1,6D,2215,73,32 1,70,61 1,6B,70,61 1,6D,70,61
  1,67,70,61 1,72,61,64 1,72,61,64,2215,73 1,72,61,64,2215,73,32 1,70,73 1,6E,73 1,3BC,73 1,6D,73
  1,70,76 1,6E,76 1,3BC,76 1,6D,76 1,6B,76 1,6D,76 1,70,77 1,6E,77 1,3BC,77 1,6D,77 1,6B,77
  1,6D,77 1,6B,3C9 1,6D,3C9 2,62,71 1,63,63 1,63,64 1,63,2215,6B,67 2,64,62 1,67,79 1,68,61
  1,68,70 1,69,6E 1,6B,6B 1,6B,6D 1,6B,74 1,6C,6D 1,6C,6E 1,6C,6F,67 1,6C,78 1,6D,62 1,6D,69,6C
  1,6D,6F,6C 1,70,68 2,70,70,6D 1,70,72 1,73,72 1,73,76 1,77,62 1,76,2215,6D 1,61,2215,6D
  1,31,65E5 1,32,65E5 1,33,65E5 1,34,65E5 1,35,65E5 1,36,65E5 1,37,65E5 1,38,65E5 1,39,65E5
  1,31,30,65E5 1,31,31,65E5 1,31,32,65E5 1,31,33,65E5 1,31,34,65E5 1,31,35,65E5 1,31,36,65E5
  1,31,37,65E5 1,31,38,65E5 1,31,39,65E5 1,32,30,65E5 1,32,31,65E5 1,32,32,65E5 1,32,33,65E5
  1,32,34,65E5 1,32,35,65E5 1,32,36,65E5 1,32,37,65E5 1,32,38,65E5 1,32,39,65E5 1,33,30,65E5
  1,33,31,65E5 1,67,61,6C 729D,44A 1,44C D3,A76F D,1D79 E,A78C 2,265 1D,266 1,25C 1,261 1,26C
  1,26A 2,29E 1,287 1,29D 1,AB53 11,A794 1,282 1,1D8E 5,264 11,19B 1,277 14,73 1,63 1,66 1,71
  1,A7F6 3,127 1,153 363,A727 1,AB37 1,26B 1,AB52 A,28D 4D97,8C48 1,66F4 1,8ECA 1,8CC8 1,6ED1
  1,4E32 1,53E5 3,5951 1,91D1 1,5587 1,5948 1,61F6 1,7669 1,7F85 1,863F 1,87BA 1,88F8 1,908F
  1,6A02 1,6D1B 1,70D9 1,73DE 1,843D 1,916A 1,99F1 1,4E82 1,5375 1,6B04 1,721B 1,862D 1,9E1E
  1,5D50 1,6FEB 1,85CD 1,8964 1,62C9 1,81D8 1,881F 1,5ECA 1,6717 1,6D6A 1,72FC 1,90CE 1,4F86
  1,51B7 1,52DE 1,64C4 1,6AD3 1,7210 1,76E7 1,8001 1,8606 1,865C 1,8DEF 1,9732 1,9B6F 1,9DFA
  1,788C 1,797F 1,7DA0 1,83C9 1,9304 1,9E7F 1,8AD6 1,58DF 1,5F04 1,7C60 1,807E 1,7262 1,78CA
  1,8CC2 1,96F7 1,58D8 1,5C62 1,6A13 1,6DDA 1,6F0F 1,7D2F 1,7E37 1,964B 1,52D2 1,808B 1,51DC
  1,51CC 1,7A1C 1,7DBE 1,83F1 1,9675 1,8B80 1,62CF 1,6A02 1,8AFE 1,4E39 1,5BE7 1,6012 1,7387
  1,7570 1,5317 1,78FB 1,4FBF 1,5FA9 1,4E0D 1,6CCC 1,6578 1,7D22 1,53C3 1,585E 1,7701 1,8449
  1,8AAA 1,6BBA 1,8FB0 1,6C88 1,62FE 1,82E5 1,63A0 1,7565 1,4EAE 1,5169 1,51C9 1,6881 1,7CE7
  1,826F 1,8AD2 1,91CF 1,52F5 1,5442 1,5973 1,5EEC 1,65C5 1,6FFE 1,792A 1,95AD 1,9A6A 1,9E97
  1,9ECE 1,529B 1,66C6 1,6B77 1,8F62 1,5E74 1,6190 1,6200 1,649A 1,6F23 1,7149 1,7489 1,79CA
  1,7DF4 1,806F 1,8F26 1,84EE 1,9023 1,934A 1,5217 1,52A3 1,54BD 1,70C8 1,88C2 1,8AAA 1,5EC9
  1,5FF5 1,637B 1,6BAE 1,7C3E 1,7375 1,4EE4 1,56F9 1,5BE7 1,5DBA 1,601C 1,73B2 1,7469 1,7F9A
  1,8046 1,9234 1,96F6 1,9748 1,9818 1,4F8B 1,79AE 1,91B4 1,96B8 1,60E1 1,4E86 1,50DA 1,5BEE
  1,5C3F 1,6599 1,6A02 1,71CE 1,7642 1,84FC 1,907C 1,9F8D 1,6688 1,962E 1,5289 1,677B 1,67F3
  1,6D41 1,6E9C 1,7409 1,7559 1,786B 1,7D10 1,985E 1,516D 1,622E 1,9678 1,502B 1,5D19 1,6DEA
  1,8F2A 1,5F8B 1,6144 1,6817 1,7387 1,9686 1,5229 1,540F 1,5C65 1,6613 1,674E 1,68A8 1,6CE5
  1,7406 1,75E2 1,7F79 1,88CF 1,88E1 1,91CC 1,96E2 1,533F 1,6EBA 1,541D 1,71D0 1,7498 1,85FA
  1,96A3 1,9C57 1,9E9F 1,6797 1,6DCB 1,81E8 1,7ACB 1,7B20 1,7C92 1,72C0 1,7099 1,8B58 1,4EC0
  1,8336 1,523A 1,5207 1,5EA6 1,62D3 1,7CD6 1,5B85 1,6D1E 1,66B4 1,8F3B 1,884C 1,964D 1,898B
  1,5ED3 1,5140 1,55C0 3,585A 2,6674 3,51DE 1,732A 1,76CA 1,793C 1,795E 1,7965 1,798F 1,9756
  1,7CBE 1,7FBD 2,8612 2,8AF8 3,9038 1,90FD 4,98EF 1,98FC 1,9928 1,9DB4 1,90DE 1,96B7 1,4FAE
  1,50E7 1,514D 1,52C9 1,52E4 1,5351 1,559D 1,5606 1,5668 1,5840 1,58A8 1,5C64 1,5C6E 1,6094
  1,6168 1,618E 1,61F2 1,654F 1,65E2 1,6691 1,6885 1,6D77 1,6E1A 1,6F22 1,716E 1,722B 1,7422
  1,7891 1,793E 1,7949 1,7948 1,7950 1,7956 1,795D 3,7A40 1,7A81 1,7BC0 1,7DF4 1,7E09 1,7E41
  1,7F72 1,8005 1,81ED 3,8457 1,8910 1,8996 1,8B01 1,8B39 1,8CD3 1,8D08 1,8FB6 1,9038 1,96E3
  1,97FF 1,983B 1,6075 1,242EE 1,8218 3,4E26 1,51B5 1,5168 1,4F80 1,5145 1,5180 1,52C7 1,52FA
  1,559D 1,5555 1,5599 1,55E2 1,585A 1,58B3 1,5944 1,5954 1,5A62 1,5B28 1,5ED2 1,5ED9 1,5F69
  1,5FAD 1,60D8 1,614E 1,6108 1,618E 1,6160 1,61F2 1,6234 1,63C4 1,641C 1,6452 1,6556 1,6674
  1,6717 1,671B 1,6756 1,6B79 1,6BBA 1,6D41 1,6EDB 1,6ECB 1,6F22 1,701E 1,716E 1,77A7 1,7235
  1,72AF 1,732A 1,7471 1,7506 1,753B 1,761D 1,761F 1,76CA 1,76DB 1,76F4 1,774A 1,7740 1,78CC
  1,7AB1 1,7BC0 1,7C7B 1,7D5B 1,7DF4 1,7F3E 1,8005 1,8352 1,83EF 1,8779 1,8941 1,8986 1,8996
  1,8ABF 1,8AF8 1,8ACB 1,8B01 1,8AFE 1,8AED 1,8B39 1,8B8A 1,8D08 1,8F38 1,9072 1,9199 1,9276
  1,967C 1,96E3 1,9756 1,97DB 1,97FF 1,980B 1,983B 1,9B12 1,9F9C 1,2284A 1,22844 1,233D5 1,3B9D
  1,4018 1,4039 1,25249 1,25CD0 1,27ED3 1,9F43 1,9F8E 27,66,66 1,66,69 1,66,6C 1,66,66,69
  1,66,66,6C 1,73,74 1,73,74 D,574,576 1,574,565 1,574,56B 1,57E,576 1,574,56D 6,5D9,5B4 2,5F2,5B7
  1,5E2 1,5D0 6,5E8 1,5EA 1,2B 1,5E9,5C1 1,5E9,5C2 1,5E9,5BC,5C1 1,5E9,5BC,5C2 1,5D0,5B7 1,5D0,5B8
  1,5D0,5BC 1,5D1,5BC 1,5D2,5BC 1,5D3,5BC 1,5D4,5BC 1,5D5,5BC 1,5D6,5BC 2,5D8,5BC 1,5D9,5BC
  1,5DA,5BC 1,5DB,5BC 1,5DC,5BC 2,5DE,5BC 2,5E0,5BC 1,5E1,5BC 2,5E3,5BC 1,5E4,5BC 2,5E6,5BC
  1,5E7,5BC 1,5E8,5BC 1,5E9,5BC 1,5EA,5BC 1,5D5,5B9 1,5D1,5BF 1,5DB,5BF 1,5E4,5BF 1,5D0,5DC
  8E,6C7,674 D,626,627 1,626,627 1,626,6D5 1,626,6D5 1,626,648 1,626,648 1,626,6C7 1,626,6C7
  1,626,6C6 1,626,6C6 1,626,6C8 1,626,6C8 1,626,6D0 1,626,6D0 1,626,6D0 1,626,649 1,626,649
  1,626,649 5,626,62C 1,626,62D 1,626,645 1,626,649 1,626,64A 1,628,62C 1,628,62D 1,628,62E
  1,628,645 1,628,649 1,628,64A 1,62A,62C 1,62A,62D 1,62A,62E 1,62A,645 1,62A,649 1,62A,64A
  1,62B,62C 1,62B,645 1,62B,649 1,62B,64A 1,62C,62D 1,62C,645 1,62D,62C 1,62D,645 1,62E,62C
  1,62E,62D 1,62E,645 1,633,62C 1,633,62D 1,633,62E 1,633,645 1,635,62D 1,635,645 1,636,62C
  1,636,62D 1,636,62E 1,636,645 1,637,62D 1,637,645 1,638,645 1,639,62C 1,639,645 1,63A,62C
  1,63A,645 1,641,62C 1,641,62D 1,641,62E 1,641,645 1,641,649 1,641,64A 1,642,62D 1,642,645
  1,642,649 1,642,64A 1,643,627 1,643,62C 1,643,62D 1,643,62E 1,643,644 1,643,645 1,643,649
  1,643,64A 1,644,62C 1,644,62D 1,644,62E 1,644,645 1,644,649 1,644,64A 1,645,62C 1,645,62D
  1,645,62E 1,645,645 1,645,649 1,645,64A 1,646,62C 1,646,62D 1,646,62E 1,646,645 1,646,649
  1,646,64A 1,647,62C 1,647,645 1,647,649 1,647,64A 1,64A,62C 1,64A,62D 1,64A,62E 1,64A,645
  1,64A,649 1,64A,64A 1,630,670 1,631,670 1,649,670 1,20,64C,651 1,20,64D,651 1,20,64E,651
  1,20,64F,651 1,20,650,651 1,20,651,670 1,626,631 1,626,632 1,626,645 1,626,646 1,626,649
  1,626,64A 1,628,631 1,628,632 1,628,645 1,628,646 1,628,649 1,628,64A 1,62A,631 1,62A,632
  1,62A,645 1,62A,646 1,62A,649 1,62A,64A 1,62B,631 1,62B,632 1,62B,645 1,62B,646 1,62B,649
  1,62B,64A 1,641,649 1,641,64A 1,642,649 1,642,64A 1,643,627 1,643,644 1,643,645 1,643,649
  1,643,64A 1,644,645 1,644,649 1,644,64A 1,645,627 1,645,645 1,646,631 1,646,632 1,646,645
  1,646,646 1,646,649 1,646,64A 1,649,670 1,64A,631 1,64A,632 1,64A,645 1,64A,646 1,64A,649
  1,64A,64A 1,626,62C 1,626,62D 1,626,62E 1,626,645 1,626,647 1,628,62C 1,628,62D 1,628,62E
  1,628,645 1,628,647 1,62A,62C 1,62A,62D 1,62A,62E 1,62A,645 1,62A,647 1,62B,645 1,62C,62D
  1,62C,645 1,62D,62C 1,62D,645 1,62E,62C 1,62E,645 1,633,62C 1,633,62D 1,633,62E 1,633,645
  1,635,62D 1,635,62E 1,635,645 1,636,62C 1,636,62D 1,636,62E 1,636,645 1,637,62D 1,638,645
  1,639,62C 1,639,645 1,63A,62C 1,63A,645 1,641,62C 1,641,62D 1,641,62E 1,641,645 1,642,62D
  1,642,645 1,643,62C 1,643,62D 1,643,62E 1,643,644 1,643,645 1,644,62C 1,644,62D 1,644,62E
  1,644,645 1,644,647 1,645,62C 1,645,62D 1,645,62E 1,645,645 1,646,62C 1,646,62D 1,646,62E
  1,646,645 1,646,647 1,647,62C 1,647,645 1,647,670 1,64A,62C 1,64A,62D 1,64A,62E 1,64A,645
  1,64A,647 1,626,645 1,626,647 1,628,645 1,628,647 1,62A,645 1,62A,647 1,62B,645 1,62B,647
  1,633,645 1,633,647 1,634,645 1,634,647 1,643,644 1,643,645 1,644,645 1,646,645 1,646,647
  1,64A,645 1,64A,647 1,640,64E,651 1,640,64F,651 1,640,650,651 1,637,649 1,637,64A 1,639,649
  1,639,64A 1,63A,649 1,63A,64A 1,633,649 1,633,64A 1,634,649 1,634,64A 1,62D,649 1,62D,64A
  1,62C,649 1,62C,64A 1,62E,649 1,62E,64A 1,635,649 1,635,64A 1,636,649 1,636,64A 1,634,62C
  1,634,62D 1,634,62E 1,634,645 1,634,631 1,633,631 1,635,631 1,636,631 1,637,649 1,637,64A
  1,639,649 1,639,64A 1,63A,649 1,63A,64A 1,633,649 1,633,64A 1,634,649 1,634,64A 1,62D,649
  1,62D,64A 1,62C,649 1,62C,64A 1,62E,649 1,62E,64A 1,635,649 1,635,64A 1,636,649 1,636,64A
  1,634,62C 1,634,62D 1,634,62E 1,634,645 1,634,631 1,633,631 1,635,631 1,636,631 1,634,62C
  1,634,62D 1,634,62E 1,634,645 1,633,647 1,634,647 1,637,645 1,633,62C 1,633,62D 1,633,62E
  1,634,62C 1,634,62D 1,634,62E 1,637,645 1,638,645 1,627,64B 1,627,64B 13,62A,62C,645
  1,62A,62D,62C 1,62A,62D,62C 1,62A,62D,645 1,62A,62E,645 1,62A,645,62C 1,62A,645,62D
  1,62A,645,62E 1,62C,645,62D 1,62C,645,62D 1,62D,645,64A 1,62D,645,649 1,633,62D,62C
  1,633,62C,62D 1,633,62C,649 1,633,645,62D 1,633,645,62D 1,633,645,62C 1,633,645,645
  1,633,645,645 1,635,62D,62D 1,635,62D,62D 1,635,645,645 1,634,62D,645 1,634,62D,645
  1,634,62C,64A 1,634,645,62E 1,634,645,62E 1,634,645,645 1,634,645,645 1,636,62D,649
  1,636,62E,645 1,636,62E,645 1,637,645,62D 1,637,645,62D 1,637,645,645 1,637,645,64A
  1,639,62C,645 1,639,645,645 1,639,645,645 1,639,645,649 1,63A,645,645 1,63A,645,64A
  1,63A,645,649 1,641,62E,645 1,641,62E,645 1,642,645,62D 1,642,645,645 1,644,62D,645
  1,644,62D,64A 1,644,62D,649 1,644,62C,62C 1,644,62C,62C 1,644,62E,645 1,644,62E,645
  1,644,645,62D 1,644,645,62D 1,645,62D,62C 1,645,62D,645 1,645,62D,64A 1,645,62C,62D
  1,645,62C,645 1,645,62E,62C 1,645,62E,645 3,645,62C,62E 1,647,645,62C 1,647,645,645
  1,646,62D,645 1,646,62D,649 1,646,62C,645 1,646,62C,645 1,646,62C,649 1,646,645,64A
  1,646,645,649 1,64A,645,645 1,64A,645,645 1,628,62E,64A 1,62A,62C,64A 1,62A,62C,649
  1,62A,62E,64A 1,62A,62E,649 1,62A,645,64A 1,62A,645,649 1,62C,645,64A 1,62C,62D,649
  1,62C,645,649 1,633,62E,649 1,635,62D,64A 1,634,62D,64A 1,636,62D,64A 1,644,62C,64A
  1,644,645,64A 1,64A,62D,64A 1,64A,62C,64A 1,64A,645,64A 1,645,645,64A 1,642,645,64A
  1,646,62D,64A 1,642,645,62D 1,644,62D,645 1,639,645,64A 1,643,645,64A 1,646,62C,62D
  1,645,62E,64A 1,644,62C,645 1,643,645,645 1,644,62C,645 1,646,62C,62D 1,62C,62D,64A
  1,62D,62C,64A 1,645,62C,64A 1,641,645,64A 1,628,62D,64A 1,643,645,645 1,639,62C,645
  1,635,645,645 1,633,62E,64A 1,646,62C,64A 29,635,644,6D2 1,642,644,6D2 1,627,644,644,647
  1,627,643,628,631 1,645,62D,645,62F 1,635,644,639,645 1,631,633,648,644 1,639,644,64A,647
  1,648,633,644,645 1,635,644,649
  1,635,644,649,20,627,644,644,647,20,639,644,64A,647,20,648,633,644,645
  1,62C,644,20,62C,644,627,644,647 1,631,6CC,627,644 14,2C 1,3001 4,21 1,3F 1B,2014 1,2013 5,7B
  1,7D F,5B 1,5D 1,20,305 1,20,305 1,20,305 1,20,305 4,2C 1,3001 3,3B 1,3A 1,3F 1,21 1,2014 3,7B
  1,7D 3,23 1,26 3,2D 1,3C 1,3E 1,3D 2,5C 3,40 5,20,64B 1,640,64B 1,20,64C 2,20,64D 2,20,64E
  1,640,64E 1,20,64F 1,640,64F 1,20,650 1,640,650 1,20,651 1,640,651 1,20,652 1,640,652 76,644,622
  1,644,622 1,644,623 1,644,623 1,644,625 1,644,625 1,644,627 1,644,627 65,2E 3,3001 1,30FB 1,30F2
  1,30A1 1,30A3 1,30A5 1,30A7 1,30A9 1,30E3 1,30E5 1,30E7 1,30C3 1,30FC 1,30A2 1,30A4 1,30A6
  1,30A8 3,30AD 1,30AF 1,30B1 1,30B3 1,30B5 1,30B7 1,30B9 1,30BB 1,30BD 1,30BF 1,30C1 1,30C4
  1,30C6 1,30C8 7,30D2 1,30D5 1,30D8 1,30DB 6,30E4 1,30E6 7,30EF 1,30F3 7,1102 2,11AD A,111A
  4,1121 2E,AC 1,20,304 1,A6 1,A5 1,20A9 2,2502 5,25A0 1,25CB 5A7,105BC 1EE,E6 1,299 1,253 3,AB66
  2,2A4 3,1D91 1,258 1,25E 1,2A9 1,264 1,262 1,260 1,29B 1,127 1,29C 1,267 1,284 3,26C 1,1DF04
  1,A78E 1,26E 1,1DF05 1,28E 1,1DF06 1,F8 3,71 1,27A 1,1DF08 3,280 1,2A8 1,2A6 1,AB67 1,2A7 1,288
  1,2C71 2,28F 3,298 4,1DF0A 1,1DF1E 1,287 C9A3,1D157,1D165 1,1D158,1D165 1,1D158,1D165,1D16E
  1,1D158,1D165,1D16F 1,1D158,1D165,1D170 1,1D158,1D165,1D171 1,1D158,1D165,1D172 57,1D1B9,1D165
  1,1D1BA,1D165 1,1D1B9,1D165,1D16E 1,1D1BA,1D165,1D16E 1,1D1B9,1D165,1D16F 1,1D1BA,1D165,1D16F
  2DF,64 3,67 A4,6F 15E,131 1,237 14,3B8 8,2207 1A,2202 1,3B5 1,3B8 1,3BA 1,3C6 1,3C1 1,3C0 12,3B8
  8,2207 1A,2202 1,3B5 1,3B8 1,3BA 1,3C6 1,3C1 1,3C0 12,3B8 8,2207 1A,2202 1,3B5 1,3B8 1,3BA 1,3C6
  1,3C1 1,3C0 12,3B8 8,2207 1A,2202 1,3B5 1,3B8 1,3BA 1,3C6 1,3C1 1,3C0 12,3B8 8,2207 1A,2202
  1,3B5 1,3B8 1,3BA 1,3C6 1,3C1 1,3C0 87E,44B 3,A689 1,4D9 1,456 1,458 1,4E9 1,4AF 1,4CF E,441
  9,491 1,456 1,455 1,45F 1,4AB 1,A651 1,4B1 D95,62C 1,62F 2,648 1,632 1,62D 1,637 1,64A 5,633
  1,639 1,641 1,635 1,642 1,631 1,634 3,62E 1,630 1,636 1,638 1,63A 1,66E 1,6BA 1,6A1 1,66F 2,628
  1,62C 2,647 3,62D 2,64A 5,633 1,639 1,641 1,635 1,642 2,634 3,62E 2,636 2,63A 7,62C 5,62D 2,64A
  5,633 1,639 2,635 1,642 2,634 3,62E 2,636 2,63A 2,6BA 2,66F 2,628 1,62C 2,647 3,62D 1,637 1,64A
  4,646 1,633 1,639 1,641 1,635 1,642 2,634 3,62E 2,636 1,638 1,63A 1,66E 2,6A1 4,62C 1,62F 3,632
  1,62D 1,637 1,64A 5,633 1,639 1,641 1,635 1,642 1,631 1,634 3,62E 1,630 1,636 1,638 1,63A 6,628
  1,62C 1,62F 2,648 1,632 1,62D 1,637 1,64A 5,633 1,639 1,641 1,635 1,642 1,631 1,634 3,62E 1,630
  1,636 1,638 1,63A 246,30,2C 1,31,2C 1,32,2C 1,33,2C 1,34,2C 1,35,2C 1,36,2C 1,37,2C 1,38,2C
  1,39,2C 6,28,61,29 1,28,62,29 1,28,63,29 1,28,64,29 1,28,65,29 1,28,66,29 1,28,67,29 1,28,68,29
  1,28,69,29 1,28,6A,29 1,28,6B,29 1,28,6C,29 1,28,6D,29 1,28,6E,29 1,28,6F,29 1,28,70,29
  1,28,71,29 1,28,72,29 1,28,73,29 1,28,74,29 1,28,75,29 1,28,76,29 1,28,77,29 1,28,78,29
  1,28,79,29 1,28,7A,29 1,3014,73,3015 1,63 1,72 1,63,64 1,77,7A 1C,68,76 1,6D,76 1,73,64 1,73,73
  1,70,70,76 1,77,63 1B,6D,63 1,6D,64 1,6D,72 24,64,6A 70,307B,304B 1,30B3,30B3 1,30B5 E,624B
  1,5B57 1,53CC 1,30C7 1,4E8C 1,591A 1,89E3 1,5929 1,4EA4 1,6620 1,7121 1,6599 1,524D 1,5F8C
  1,518D 1,65B0 1,521D 1,7D42 1,751F 1,8CA9 1,58F0 1,5439 1,6F14 1,6295 1,6355 1,4E00 1,4E09
  1,904A 1,5DE6 1,4E2D 1,53F3 1,6307 1,8D70 1,6253 1,7981 1,7A7A 1,5408 1,6E80 1,6709 1,6708
  1,7533 1,5272 1,55B6 1,914D 5,3014,672C,3015 1,3014,4E09,3015 1,3014,4E8C,3015 1,3014,5B89,3015
  1,3014,70B9,3015 1,3014,6253,3015 1,3014,76D7,3015 1,3014,52DD,3015 1,3014,6557,3015 8,5F97
  1,53EF 105AF,4E3D 1,4E38 1,4E41 1,20122 1,4F60 1,4FAE 1,4FBB 1,5002 1,507A 1,5099 1,50E7 1,50CF
  1,349E 1,2063A 1,514D 1,5154 1,5164 1,5177 1,2051C 1,34B9 1,5167 1,518D 1,2054B 1,5197 1,51A4
  1,4ECC 1,51AC 1,51B5 1,291DF 1,51F5 1,5203 1,34DF 1,523B 1,5246 1,5272 1,5277 1,3515 1,52C7
  1,52C9 1,52E4 1,52FA 3,5317 1,5349 1,5351 1,535A 1,5373 2,537F 2,537F 1,20A2C 1,7070 1,53CA
  1,53DF 1,20B63 1,53EB 1,53F1 1,5406 1,549E 1,5438 1,5448 1,5468 1,54A2 1,54F6 1,5510 1,5553
  1,5563 3,5599 1,55AB 1,55B3 1,55C2 1,5716 1,5606 1,5717 1,5651 1,5674 1,5207 1,58EE 1,57CE
  1,57F4 1,580D 1,578B 1,5832 1,5831 1,58AC 1,214E4 1,58F2 1,58F7 1,5906 1,591A 1,5922 1,5962
  1,216A8 1,216EA 1,59EC 1,5A1B 1,5A27 1,59D8 1,5A66 1,36EE 1,36FC 1,5B08 3,219C8 1,5BC3 1,5BD8
  1,5BE7 1,5BF3 1,21B18 1,5BFF 1,5C06 1,5F53 1,5C22 1,3781 1,5C60 1,5C6E 1,5CC0 1,5C8D 2,5D43
  2,5D6E 1,5D6B 1,5D7C 3,382F 1,5DFD 1,5E28 1,5E3D 1,5E69 1,3862 1,22183 1,387C 1,5EB0 1,5EB3
  1,5EB6 1,5ECA 1,2A392 1,5EFE 3,8201 3,38C7 1,232B8 1,261DA 1,5F62 1,5F6B 1,38E3 1,5F9A 1,5FCD
  1,5FD7 1,5FF9 1,6081 1,393A 1,391C 1,6094 1,226D4 1,60C7 1,6148 1,614C 1,614E 1,614C 1,617A
  1,618E 1,61B2 1,61A4 1,61AF 1,61DE 1,61F2 1,61F6 1,6210 1,621B 1,625D 1,62B1 1,62D4 1,6350
  1,22B0C 1,633D 1,62FC 1,6368 1,6383 1,63E4 1,22BF1 1,6422 1,63C5 1,63A9 1,3A2E 1,6469 1,647E
  1,649D 1,6477 1,3A6C 1,654F 1,656C 1,2300A 1,65E3 1,66F8 1,6649 1,3B19 1,6691 1,3B08 1,3AE4
  1,5192 1,5195 1,6700 1,669C 1,80AD 1,43D9 1,6717 1,671B 1,6721 1,675E 1,6753 1,233C3 1,3B49
  1,67FA 1,6785 1,6852 1,6885 1,2346D 1,688E 1,681F 1,6914 1,3B9D 1,6942 1,69A3 1,69EA 1,6AA8
  1,236A3 1,6ADB 1,3C18 1,6B21 1,238A7 1,6B54 1,3C4E 1,6B72 1,6B9F 3,23A8D 1,21D0B 1,23AFA 1,6C4E
  1,23CBC 1,6CBF 1,6CCD 1,6C67 1,6D16 1,6D3E 1,6D77 1,6D41 1,6D69 1,6D78 1,6D85 1,23D1E 1,6D34
  1,6E2F 1,6E6E 1,3D33 1,6ECB 1,6EC7 1,23ED1 1,6DF9 1,6F6E 1,23F5E 1,23F8E 1,6FC6 1,7039 1,701E
  1,701B 1,3D96 1,704A 1,707D 1,7077 1,70AD 1,20525 1,7145 1,24263 1,719C 1,243AB 1,7228 1,7235
  1,7250 1,24608 1,7280 1,7295 1,24735 1,24814 1,737A 1,738B 1,3EAC 1,73A5 3,7447 1,745C 1,7471
  1,7485 1,74CA 1,3F1B 1,7524 1,24C36 1,753E 1,24C92 1,7570 1,2219F 1,7610 1,24FA1 1,24FB8 1,25044
  1,3FFC 1,4008 1,76F4 1,250F3 1,250F2 1,25119 1,25133 3,771F 1,774A 1,4039 1,778B 1,4046 1,4096
  1,2541D 1,784E 1,788C 1,78CC 1,40E3 1,25626 1,7956 1,2569A 1,256C5 1,798F 1,79EB 1,412F 1,7A40
  1,7A4A 1,7A4F 1,2597C 3,7AEE 1,4202 1,25BAB 1,7BC6 1,7BC9 1,4227 1,25C80 1,7CD2 1,42A0 1,7CE8
  1,7CE3 1,7D00 1,25F86 1,7D63 1,4301 1,7DC7 1,7E02 1,7E45 1,4334 1,26228 1,26247 1,4359 1,262D9
  1,7F7A 1,2633E 1,7F95 1,7FFA 1,8005 1,264DA 1,26523 1,8060 1,265A8 1,8070 1,2335F 1,43D5 1,80B2
  1,8103 1,440B 1,813E 1,5AB5 1,267A7 1,267B5 1,23393 1,2339C 1,8201 1,8204 1,8F9E 1,446B 1,8291
  1,828B 1,829D 1,52B3 1,82B1 1,82B3 1,82BD 1,82E6 1,26B3C 1,82E5 1,831D 1,8363 1,83AD 1,8323
  1,83BD 1,83E7 1,8457 1,8353 1,83CA 1,83CC 1,83DC 1,26C36 1,26D6B 1,26CD5 1,452B 1,84F1 1,84F3
  1,8516 1,273CA 1,8564 1,26F2C 1,455D 1,4561 1,26FB1 1,270D2 1,456B 1,8650 1,865C 1,8667 1,8669
  1,86A9 1,8688 1,870E 1,86E2 1,8779 1,8728 1,876B 1,8786 1,45D7 1,87E1 1,8801 1,45F9 1,8860
  1,8863 1,27667 1,88D7 1,88DE 1,4635 1,88FA 1,34BB 1,278AE 1,27966 1,46BE 1,46C7 1,8AA0 1,8AED
  1,8B8A 1,8C55 1,27CA8 1,8CAB 1,8CC1 1,8D1B 1,8D77 1,27F2F 1,20804 1,8DCB 1,8DBC 1,8DF0 1,208DE
  1,8ED4 1,8F38 1,285D2 1,285ED 1,9094 1,90F1 1,9111 1,2872E 1,911B 1,9238 3,927C 1,93F9 1,9415
  1,28BFA 1,958B 1,4995 1,95B7 1,28D77 1,49E6 1,96C3 1,5DB2 1,9723 1,29145 1,2921A 1,4A6E 1,4A76
  1,97E0 1,2940A 1,4AB2 1,29496 3,9829 1,295B6 1,98E2 1,4B33 1,9929 1,99A7 1,99C2 1,99FE 1,4BCE
  1,29B30 1,9B12 1,9C40 1,9CFD 1,4CCE 1,4CED 1,9D67 1,2A0CE 1,4CF8 1,2A105 1,2A20E 1,2A291 1,9EBB
  1,4D56 1,9EF9 1,9EFE 1,9F05 1,9F0F 1,9F16 1,9F3B 1,2A600"

end BroadcastChat.Url.Domain.FoldingTable
