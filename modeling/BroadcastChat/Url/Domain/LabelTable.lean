/-
# How the characters of a label behave

Which characters are marks on the one before, how characters run (to the left,
to the right, or with their neighbours), and how they join. Numbers are
hexadecimal; a row starts with the distance from the end of the range before,
then comes the range's length less one, and then the kind of its characters.

Key definitions: `LabelTable.marks`, `LabelTable.directions`, `LabelTable.joins`.
-/

namespace BroadcastChat.Url.Domain.LabelTable

/-- The ranges of marks. -/
def marks : String := "
  300,6F 114,6 108,2C 2,0 2,1 2,1 2,1 48,A 31,14 11,0 66,6 3,5 3,1 2,3 24,0 1F,1A 5C,A 3B,8 A,0
  19,3 2,8 2,2 2,4 2C,2 3C,8 2B,39 37,2 2,11 2,6 B,1 1E,2 39,0 2,F A,0 B,1 1B,5 39,15 1F,1 4,0 C,2
  39,0 2,F 15,1 17,9 39,0 2,19 B,1 1F,0 3C,F A,0 29,4 38,0 2,18 C,1 1E,2 39,0 2,18 C,1 10,10 38,1
  2,F A,0 B,1 1E,2 47,15 13,1 3E,0 3,6 D,7 63,0 3,8 C,6 4A,1 1C,0 2,0 2,0 5,1 32,13 2,1 6,2F A,0
  65,13 18,3 5,2 2,2 3,6 4,3 E,B 2,0 B,3 2C0,2 3B3,3 1D,2 1E,1 1F,1 43,1D A,0 A8,1 23,0 77,1B DC,4
  3A,2A 31,54 30,10 27,8 D,2 1F,C 39,D 31,13 99,2 2,14 5,0 7,0 3,2 C7,3F 2D1,20 BFF,2 8E,0 61,1F
  22B,5 6A,1 75D5,3 2,9 21,1 51,1 111,0 4,0 5,0 18,4 5,0 54,1 33,11 1B,11 E,0 27,7 1A,C 2D,3 30,D
  25,0 44,D D,0 9,1 2E,2 33,0 2,2 3,1 6,1 2,0 2A,4 6,1 ED,7 2,1 4F31,0 302,F 3CE,0 E3,0 96,4 687,E
  29,7 A6,1 23E,3 42,4 13E,1 4E,5 47,A 32,3 7B,2 36,E 2A,0 3,1 B,3 2E,A 8,0 3E,2 25,D 11,1 2D,0
  D,2 31,D 9,3 2,1 5D,B 7,0 3,0 9E,B 16,3 38,1 2,F A,0 B,12 44,18 2,0 F,1 53,11 18,0 52,13 EC,11
  1C,1 53,10 6B,C 66,E 101,E F6,E 2,0 2,1 8E,F 4,0 1D,9 29,6 2,3 9,0 A,A 2F,F C7,7 C8,10 53,24
  7B,14 2,0 43,D 15C,3 A,1 2,0 31,E 18,0 14E6,0 7,E 2CC9,11 9C1,4 3C,6 419,0 2,41 52,D 4CAC,1
  1262,46 21F,4 4,15 3,6 1F,3 95,2 7BC,36 5,31 9,0 F,0 17,14 551,8F A1,6 178,0 3E,3 1FD,3 FF,1
  F4,0 3,0 8,1 6,0 1DB,6 6E,6"

/-- The ranges of characters that do not simply run to the right: 1 and 2 run to the left (2 in
Arabic script), 3 are Arabic digits, 4 European ones, 5 to 8 separators and neutral characters, 9
have no direction, 10 are marks, and the rest may not stand beside what runs to the left. -/
def directions : String := "
  0,8,9 1,4,B 1,D,9 1,4,B 1,1,8 1,2,7 1,4,8 1,0,5 1,0,6 1,0,5 1,1,6 1,9,4 1,0,6 1,25,8 1B,3,8
  1,0,9 22,0,8 1,3,7 1,8,8 2,1,7 5,21,8 20,0,8 1C2,1,8 8,D,8 3,1B,8 2,10,8 1,6F,A 6,0,8 81,0,8
  8D,6,A 101,4,8 1,0,7 2,2C,A 1,0,1 1,0,A 1,0,1 1,1,A 1,0,1 1,1,A 1,0,1 1,1,A 8,24,1 12,1,8 1,0,2
  1,1,7 1,0,2 1,0,6 1,0,2 1,1,8 1,A,A 1,2F,2 1,14,A 1,9,3 1,0,7 1,1,3 1,2,2 1,0,A 1,64,2 1,6,A
  2,0,8 1,5,A 1,1,2 1,1,A 1,0,8 1,3,A 1,1,2 1,9,4 1,16,2 1,0,A 1,1D,2 1,1A,A 3,58,2 1,A,A 1,0,2
  F,2A,1 1,8,A 1,1,1 1,3,8 1,0,1 3,0,A 1,17,1 1,3,A 1,0,1 1,8,A 1,0,1 1,2,A 1,0,1 1,4,A 3,28,1
  1,2,A 3,0,1 2,2F,2 8,8,A 1,29,2 1,38,A 38,0,A 2,0,A 5,7,A 5,0,A 4,6,A B,1,A 1E,0,A 3B,0,A 5,3,A
  9,0,A 15,1,A F,1,7 8,0,7 3,4,A 3A,0,A 5,10,A 1F,1,A 4,0,A C,1,A 3A,0,A 5,7,A 5,0,A 15,1,A E,0,7
  9,7,A 3B,0,A 3,0,A 2,3,A 9,9,A C,1,A 1F,0,A 3E,0,A D,0,A 26,5,8 1,0,7 1,0,8 6,0,A 4,0,A 38,0,A
  2,2,A 6,10,A C,1,A 15,6,8 3,0,A 3B,0,A 10,1,A 15,1,A 1D,1,A 3A,1,A 5,3,A 9,0,A 15,1,A 1E,0,A
  49,0,A 8,4,A 5B,0,A 3,6,A 5,0,7 8,7,A 63,0,A 3,8,A C,6,A 4A,1,A 1C,0,A 2,0,A 2,0,A 1,3,8 34,D,A
  2,4,A 2,1,A 6,2F,A A,0,A 67,3,A 2,5,A 2,1,A 3,1,A 1A,1,A 5,2,A 11,3,A E,0,A 3,1,A 7,0,A 10,0,A
  2C0,2,A 31,9,8 67,0,8 29B,1,8 76,2,A 1E,1,A 1F,1,A 1F,1,A 44,6,A 9,0,A 3,A,A 8,0,7 2,0,A 13,1A,8
  7B,1,A 23,0,A 77,2,A 5,1,A A,0,A 7,2,A 5,5,8 99,21,8 18,1,A 3,0,A 3B,0,A 2,8,A 2,0,A 3,7,A 7,C,A
  31,53,A 31,0,A 2,3,A 32,8,A D,1,A 21,3,A 3,1,A 2,2,A 39,0,A 2,1,A 4,0,A 2,2,A 3B,7,A 3,1,A
  99,2,A 2,C,A 2,6,A 5,0,A 7,0,A 4,1,A C7,3F,A 20D,1,9 3,17,8 9,2,7 3,E,8 1,0,6 1,19,8 42,23,7
  D,20,A 14,25,8 5,0,7 C,13,8 3D,87,8 1,0,5 1,0,7 1,121,8 46,19,8 2,315,8 2,152,8 101,2FF,8 E6,5,8
  5,2,A 8,6,8 80,0,A 61,1F,A 1,204,8 4,18,8 A,3,A 3,0,8 7,0,8 6,2,8 5A,1,A 6,0,8 5B,0,8 C5,25,8
  1BDB,3F,8 5691,36,8 147,2,8 60,3,A 1,0,8 1,9,A 1,1,8 1F,1,A 51,1,A F,21,8 67,0,8 7A,0,A 4,0,A
  5,0,A 1A,1,A 2,3,8 1,0,A C,1,7 3B,3,8 4D,1,A 1B,11,A E,0,A 27,7,A 1A,A,A 2F,2,A 31,0,A 3,3,A
  3,1,A 28,0,A 44,5,A 3,1,A 3,1,A D,0,A 9,0,A 30,0,A 34,0,A 2,2,A 3,1,A 6,1,A 2,0,A 2B,1,A 9,0,A
  74,1,8 7A,0,A 3,0,A 5,0,A 4F31,0,A 94,10,2 1,23C,8 21,F,A 16,1,8 2D,0,2 28E,0,8 3F,4C,8 4,10,8
  5D,0,A E3,0,A 1,1A,4 7B,4,A 486,11B,1 4,0,8 1,E0,1 1,E,A 1,25,1 3,7,A 1,A4,1 1,1,A 5,4A,1 4,6,8
  1,1BF,1 1,23,2 1,3,A 9,19,3 1,5,1 1A,4,A 1,0,8 1,20,1 D1,1E,3 2,29,1 2,1,A 1,4,1 11,E,2 1,7,8
  22,5,A 1,27,1 9,15,2 1,A,A 1,8,2 17,11,1 1,3,A 1,70,1 B,0,A 37,E,A C,13,8 B,0,A 3,1,A B,2,A
  32,3,A 3,1,A 8,0,A 3E,2,A 25,4,A 2,7,A 3F,0,A D,1,A 35,8,A B,3,A 3,0,A 60,2,A 3,0,A 2,1,A 7,0,A
  3,0,A 9E,0,A 4,7,A 16,1,A 3A,1,A 4,0,A 26,E,A 47,5,A E,0,A 2,0,A 2,0,A F,1,A 56,7,A 3,2,A 2,0,A
  18,0,A 55,5,A 2,0,A 5,1,A 2,1,A EF,3,A 7,1,A 2,1,A 1C,1,A 56,7,A 3,0,A 2,1,A 20,C,8 3F,0,A 2,0,A
  3,5,A 2,0,A 66,0,A 2,0,A 3,3,A 2,4,A 104,8,A 2,1,A 101,1,A 2,0,A 5,0,A 91,7,A 5,0,A 21,5,A 3,1,A
  29,5,A 3,3,A 9,0,A A,5,A 3,2,A 2F,C,A 2,1,A C7,0,A 2,2,A 2,0,A CA,D,A 55,15,A 3,6,A 2,1,A 2,1,A
  7B,14,A 2,0,A 49,1,A 4,0,A 2,0,A 15C,1,A C,1,A 35,4,A 6,0,A 2,0,A 18,0,A 7B,7,8 1,3,7 1,10,8
  144F,0,A 7,E,A 2CC9,B,A 4,2,A 9C1,4,A 3C,6,A 419,0,A 40,3,A 50,0,8 2,0,A 4CB9,1,A F62,2F0,8
  10,46,A 221,2,A 12,7,A 3,6,A 1F,3,A 3C,58,8 1,2,A 1,0,8 BB,56,8 6AA,36,A 5,31,A 9,0,A F,0,A
  17,14,A 551,8F,A A1,6,A 178,0,A 3E,3,A 10,0,7 1ED,3,A FF,1,A F4,0,A 3,0,A 8,1,A 6,0,A 10B,CF,1
  1,6,A 4C,21,1 1,6,A 1,14,1 312,CC,2 1B3,23F,8 3E,2,8 3E,0,8 B3,99A,8"

/-- The ranges of characters that join: 1 with the one behind, 2 with the one before, 3 with both,
and 4 let others join through them. -/
def joins : String := "
  300,6F,4 114,6,4 108,2C,4 2,0,4 2,1,4 2,1,4 2,0,4 49,A,4 6,0,3 2,3,2 1,0,3 1,0,2 1,0,3 1,0,2
  1,4,3 1,3,2 1,C,3 2,6,3 1,0,2 1,1,3 1,14,4 F,1,3 1,0,4 1,2,2 6,E,3 1,11,2 1,25,3 1,0,2 1,1,3
  1,8,2 1,0,3 1,0,2 1,0,3 1,0,2 1,1,3 1,1,2 2,0,2 1,6,4 3,5,4 3,1,4 2,3,4 1,1,2 B,2,3 3,0,3 11,0,2
  1,0,4 1,2,3 1,4,2 1,3,3 1,0,2 1,8,3 1,0,2 1,0,3 1,0,2 1,0,3 1,0,2 1,1,3 1,0,2 1,1A,4 3,0,2 1,A,3
  1,2,2 1,E,3 1,1,2 1,3,3 1,0,2 1,0,3 1,1,2 1,2,3 1,1,2 1,5,3 27,A,4 1A,20,3 1,8,4 A,0,4 19,3,4
  2,8,4 2,2,4 2,4,4 13,0,2 1,4,3 1,1,2 1,0,3 1,0,2 1,9,3 1,0,2 1,0,3 1,2,2 1,2,4 5,0,3 2,3,3 2,0,2
  1,0,3 1,19,2 4,0,3 3,4,3 1,0,2 1,0,3 8,8,4 1,9,3 1,2,2 2,0,2 1,1,3 1,1,2 1,5,3 1,0,2 1,E,3
  2,38,4 38,0,4 2,0,4 5,7,4 5,0,4 4,6,4 B,1,4 1E,0,4 3B,0,4 5,3,4 9,0,4 15,1,4 1B,4,4 3A,0,4
  5,10,4 1F,1,4 4,0,4 C,1,4 3A,0,4 5,7,4 5,0,4 15,1,4 17,7,4 3B,0,4 3,0,4 2,3,4 9,0,4 8,1,4 C,1,4
  1F,0,4 3E,0,4 D,0,4 33,0,4 4,0,4 38,0,4 2,2,4 6,10,4 C,1,4 1E,0,4 3B,0,4 3,0,4 7,0,4 6,1,4
  15,1,4 1D,1,4 3A,1,4 5,3,4 9,0,4 15,1,4 1E,0,4 49,0,4 8,4,4 5B,0,4 3,6,4 D,7,4 63,0,4 3,8,4
  C,6,4 4A,1,4 1C,0,4 2,0,4 2,0,4 38,D,4 2,4,4 2,1,4 6,2F,4 A,0,4 67,3,4 2,5,4 2,1,4 3,1,4 1A,1,4
  5,2,4 11,3,4 E,0,4 3,1,4 7,0,4 10,0,4 2C0,2,4 3B3,2,4 1E,1,4 1F,1,4 1F,1,4 44,6,4 9,0,4 3,A,4
  A,0,4 2A,0,3 19,58,3 D,1,4 1,21,3 1,0,4 1,0,3 76,2,4 5,1,4 A,0,4 7,2,4 DC,1,4 3,0,4 3B,0,4 2,8,4
  2,0,4 3,7,4 7,C,4 31,2D,4 3,23,4 31,0,4 2,4,4 2,0,4 6,0,4 29,8,4 D,1,4 21,3,4 3,1,4 2,2,4 39,0,4
  2,1,4 4,0,4 2,2,4 3B,7,4 3,1,4 99,2,4 2,C,4 2,6,4 5,0,4 7,0,4 4,1,4 C7,3F,4 2D1,20,4 BFF,2,4
  8E,0,4 61,1F,4 22B,3,4 6C,1,4 75D5,3,4 2,9,4 21,1,4 51,1,4 111,0,4 4,0,4 5,0,4 1A,1,4 6,0,4
  14,31,3 1,0,1 52,1,4 1B,11,4 E,0,4 27,7,4 1A,A,4 2F,2,4 31,0,4 3,3,4 3,1,4 28,0,4 44,5,4 3,1,4
  3,1,4 D,0,4 9,0,4 30,0,4 34,0,4 2,2,4 3,1,4 6,1,4 2,0,4 2B,1,4 9,0,4 EF,0,4 3,0,4 5,0,4 4F31,0,4
  302,F,4 3CE,0,4 E3,0,4 96,4,4 687,E,4 29,7,4 81,4,3 1,0,2 2,0,2 2,1,2 3,0,1 1,4,2 1,3,3 1,0,1
  1,4,3 1,0,2 1,2,3 1,0,2 3,0,2 1,1,4 5,3,3 1,0,2 91,0,3 1,0,2 1,0,3 1,2,2 1,2,3 1,0,2 1,1,3 1,0,2
  1,0,3 1,1,2 1,0,3 1,0,2 18,3,2 1,1,3 152,0,1 1,20,3 1,0,2 1,0,3 1,3,4 42,4,4 13E,1,4 16,0,2
  1,1,3 2,1,3 33,5,4 31,2,3 1,0,2 1,10,3 2,A,4 1,2,3 1,0,2 1C,3,3 1,1,2 1,B,3 1,3,4 2B,0,3 2,1,3
  1,2,2 2,0,3 1,1,2 1,1,3 1,0,2 1,1,3 2,0,3 1,1,2 1,0,3 5,0,2 1,0,3 1,0,1 36,0,4 37,E,4 2A,0,4
  3,1,4 B,2,4 32,3,4 3,1,4 8,0,4 3E,2,4 25,4,4 2,7,4 3F,0,4 D,1,4 35,8,4 B,3,4 3,0,4 60,2,4 3,0,4
  2,1,4 7,0,4 3,0,4 9E,0,4 4,7,4 16,1,4 3A,1,4 4,0,4 26,E,4 47,5,4 E,0,4 2,0,4 2,0,4 F,1,4 56,7,4
  3,2,4 2,0,4 18,0,4 55,5,4 2,0,4 5,1,4 2,1,4 EF,3,4 7,1,4 2,1,4 1C,1,4 56,7,4 3,0,4 2,1,4 6B,0,4
  2,0,4 3,5,4 2,0,4 66,0,4 2,0,4 3,3,4 2,4,4 104,8,4 2,1,4 101,1,4 2,0,4 5,0,4 91,7,4 5,0,4 21,9,4
  29,5,4 3,3,4 9,0,4 A,5,4 3,2,4 2F,C,4 2,1,4 C7,0,4 2,2,4 2,0,4 CA,D,4 2,0,4 53,15,4 3,6,4 2,1,4
  2,1,4 7B,14,4 2,0,4 49,1,4 4,0,4 2,0,4 15C,1,4 C,1,4 35,4,4 6,0,4 2,0,4 18,0,4 14E6,0,4 7,E,4
  2CC9,B,4 4,2,4 9C1,4,4 3C,6,4 419,0,4 40,3,4 52,0,4 4CB9,1,4 1262,46,4 221,2,4 12,7,4 3,6,4
  1F,3,4 95,2,4 7BC,36,4 5,31,4 9,0,4 F,0,4 17,14,4 551,8F,4 A1,6,4 178,0,4 3E,3,4 1FD,3,4 FF,1,4
  F4,0,4 3,0,4 8,1,4 6,0,4 1DB,6,4 4C,21,3 1,7,4"

end BroadcastChat.Url.Domain.LabelTable
