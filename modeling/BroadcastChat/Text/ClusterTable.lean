/-
# How characters cluster

Which characters go together with their neighbours in what a user sees as one
character. Numbers are hexadecimal; a row starts with the distance from the end
of the range before, then comes the range's length less one, and then the kind
of its characters. The syllables of the Korean script are not listed.

Key definition: `ClusterTable.kinds`.
-/

namespace BroadcastChat.Text.ClusterTable

/-- The ranges of characters that do not simply stand alone: 1 control characters, 2 marks, 3 marks
that link consonants, 4 the non-joiner, 5 the joiner, 6 spacing marks, 7 marks on the character
behind, 8 pictographs, 9 consonants that can be linked, A letters of regions, B to D the leading
consonants, vowels and trailing consonants of the Korean script. -/
def kinds : String := "
  0,1F,1 60,20,1 A,0,8 4,0,1 1,0,8 252,6F,2 114,6,2 108,2C,2 2,0,2 2,1,2 2,1,2 2,1,2 38,5,7 B,A,2
  2,0,1 2F,14,2 11,0,2 66,6,2 1,0,7 2,5,2 3,1,2 2,3,2 22,0,7 2,0,2 1F,1A,2 5C,A,2 3B,8,2 A,0,2
  19,3,2 2,8,2 2,2,2 2,4,2 2C,2,2 35,1,7 6,8,2 2B,17,2 1,0,7 1,1F,2 1,0,6 12,24,9 1,0,2 1,0,6
  1,0,2 2,2,6 1,7,2 1,3,6 1,0,3 1,1,6 2,6,2 1,7,9 3,1,2 15,7,9 2,0,2 1,1,6 12,13,9 2,6,9 2,0,9
  4,3,9 3,0,2 2,0,2 1,1,6 1,3,2 3,1,6 3,1,6 1,0,3 A,0,2 5,1,9 2,0,9 3,1,2 D,1,9 D,0,2 3,1,2 1,0,6
  39,0,2 2,2,6 1,1,2 5,1,2 3,2,2 4,0,2 1F,1,2 4,0,2 C,1,2 1,0,6 12,13,9 2,6,9 2,1,9 2,4,9 3,0,2
  2,2,6 1,4,2 2,1,2 1,0,6 2,1,6 1,0,3 15,1,2 16,0,9 1,5,2 2,0,2 1,1,6 12,13,9 2,6,9 2,1,9 2,4,9
  3,0,2 2,1,2 1,0,6 1,3,2 3,1,6 3,1,6 1,0,3 6,4,2 5,1,9 2,0,9 3,1,2 E,0,9 11,0,2 3C,0,2 1,0,6
  1,0,2 1,1,6 4,2,6 2,2,6 1,0,2 A,0,2 29,0,2 1,2,6 1,0,2 11,13,9 2,F,9 3,0,2 2,2,2 1,3,6 2,2,2
  2,2,2 1,0,3 8,1,2 2,2,9 8,1,2 1E,0,2 1,1,6 39,0,2 2,0,6 1,1,2 1,0,6 1,0,2 1,1,6 2,2,2 2,3,2
  8,1,2 C,1,2 10,0,6 D,1,2 1,1,6 12,25,9 1,1,2 2,0,2 1,1,6 1,3,2 2,2,6 2,2,6 1,0,3 1,0,7 9,0,2
  B,1,2 1E,0,2 1,1,6 47,0,2 5,0,2 1,1,6 1,2,2 2,0,2 2,6,6 1,0,2 13,1,6 3E,0,2 2,0,6 1,6,2 D,7,2
  63,0,2 2,0,6 1,8,2 C,6,2 4A,1,2 1C,0,2 2,0,2 2,0,2 5,1,6 32,D,2 1,0,6 1,4,2 2,1,2 6,A,2 2,23,2
  A,0,2 3A,2A,9 3,3,2 1,0,6 1,5,2 2,0,3 1,0,2 1,1,6 1,1,2 1,0,9 11,5,9 1,1,6 1,1,2 1,3,9 1,2,2
  1,0,9 4,1,9 8,2,9 1,3,2 1,C,9 1,0,2 2,0,6 1,1,2 7,0,2 1,0,9 F,0,2 63,5F,B 1,47,C 1,57,D 15E,2,2
  3B3,3,2 1D,2,2 1E,1,2 1F,1,2 D,33,9 1,1,2 1,0,6 1,6,2 1,7,6 1,0,2 1,1,6 1,8,2 1,0,3 1,0,2 A,0,2
  2E,2,2 1,0,1 1,0,2 76,1,2 23,0,2 77,2,2 1,3,6 1,1,2 1,2,6 5,1,6 1,0,2 1,5,6 1,2,2 DC,1,2 1,1,6
  1,0,2 5,34,9 1,0,6 1,0,2 1,0,6 1,6,2 2,0,3 2,0,2 3,7,2 1,5,6 1,9,2 3,0,2 31,3B,2 15,3,2 1,0,6
  7,1,9 7,20,9 1,9,2 1,3,6 1,1,2 1,0,3 1,7,9 1F,8,2 D,1,2 1,0,6 1,1D,9 1,0,6 1,3,2 1,1,6 1,2,2
  1,0,3 1,1,2 1,1,9 C,2,9 29,0,2 1,0,6 1,1,2 1,2,6 1,0,2 1,0,6 1,4,2 31,7,6 1,7,2 1,1,6 1,1,2
  99,2,2 2,C,2 1,0,6 1,6,2 5,0,2 7,0,2 3,0,6 1,1,2 C7,3F,2 20C,0,1 1,0,4 1,0,5 1,1,1 19,6,1 E,0,8
  D,0,8 17,F,1 61,20,2 32,0,8 17,0,8 5B,5,8 10,1,8 170,1,8 D,0,8 A7,0,8 1A,A,8 5,2,8 C8,0,8 E8,1,8
  B,0,8 A,0,8 3B,3,8 2,4,8 A,0,8 3,0,8 3,1,8 3,0,8 5,0,8 3,0,8 2,1,8 3,0,8 4,0,8 4,1,8 9,2,8 6,0,8
  2,0,8 6,B,8 C,1,8 3,0,8 2,1,8 2,0,8 13,0,8 3,1,8 13,5,8 2,0,8 2,1,8 4,1,8 6,0,8 3,1,8 5,1,8
  C,1,8 6,1,8 3,0,8 6,1,8 2,0,8 2,1,8 15,1,8 6,5,8 2,3,8 3,0,8 5,0,8 3,0,8 3,5,8 2,0,8 3,0,8 2,0,8
  2,0,8 7,0,8 4,0,8 7,0,8 B,1,8 10,0,8 3,0,8 5,0,8 2,0,8 5,2,8 2,0,8 C,1,8 31,2,8 A,0,8 F,0,8
  F,0,8 175,1,8 1D0,2,8 14,1,8 34,0,8 5,0,8 19A,2,2 8E,0,2 61,1F,2 22B,5,2 1,0,8 D,0,8 5C,1,2
  1FD,0,8 2,0,8 73D6,3,2 2,9,2 21,1,2 51,1,2 111,0,2 4,0,2 5,0,2 18,1,6 1,1,2 1,0,6 5,0,2 54,1,6
  33,F,6 1,1,2 1B,11,2 E,0,2 27,7,2 1A,A,2 1,0,6 1,0,2 D,1C,B 4,2,2 1,0,6 6,2,9 4,23,9 1,0,2 1,1,6
  1,3,2 1,1,6 1,1,2 1,1,6 1,0,3 20,4,9 1,0,2 2,8,9 B,4,9 2B,5,2 1,1,6 1,1,2 1,1,6 1,1,2 D,0,2
  9,0,2 1,0,6 13,F,9 2,2,9 7,0,9 2,0,2 2,1,9 31,0,2 2,2,2 3,1,2 6,1,2 2,0,2 1F,A,9 1,0,6 1,1,2
  1,1,6 6,0,6 1,0,3 CA,1A,9 9,1,6 1,0,2 1,1,6 1,0,2 1,1,6 2,0,6 1,0,2 2BC3,16,C 5,30,D 2323,0,2
  2E2,F,2 11,F,2 D0,0,1 9F,1,2 51,B,1 202,0,2 E3,0,2 96,4,2 686,0,9 1,2,2 2,1,2 6,3,2 1,3,9 2,2,9
  2,1C,9 3,2,2 5,0,3 A6,1,2 23E,3,2 42,4,2 13E,1,2 4E,5,2 47,A,2 32,3,2 7B,0,6 1,0,2 1,0,6 36,E,2
  2A,0,2 3,1,2 B,2,2 1,0,6 2E,2,6 1,3,2 1,1,6 1,1,2 3,0,7 5,0,2 B,0,7 33,2,2 1,23,9 1,4,2 1,0,6
  1,5,2 1,0,3 1,0,2 10,0,9 1,1,6 1,0,9 2C,0,2 D,1,2 1,0,6 31,2,6 1,8,2 1,0,6 1,0,2 2,1,7 6,3,2
  2,0,6 1,0,2 5D,2,6 1,2,2 1,1,6 1,3,2 7,0,2 3,0,2 9E,0,2 1,2,6 1,7,2 16,1,2 1,1,6 38,1,2 2,0,2
  1,0,6 1,0,2 1,3,6 3,1,6 3,1,6 1,0,2 A,0,2 B,1,6 3,6,2 4,4,2 C,9,9 2,0,9 3,0,9 2,25,9 3,0,2 1,1,6
  1,5,2 2,0,2 3,0,2 2,2,2 1,0,6 2,1,6 1,1,2 1,0,3 1,0,7 1,0,2 F,1,2 53,2,6 1,7,2 1,1,6 1,2,2 1,0,6
  1,0,2 18,0,2 52,0,2 1,1,6 1,5,2 1,0,6 1,0,2 1,1,6 1,0,2 1,0,6 1,1,2 1,0,6 1,1,2 EC,0,2 1,1,6
  1,3,2 3,3,6 1,1,2 1,0,6 1,1,2 1C,1,2 53,2,6 1,7,2 1,1,6 1,0,2 1,0,6 1,1,2 6B,0,2 1,0,6 1,0,2
  1,1,6 1,7,2 66,0,2 1,0,6 1,0,2 3,3,2 1,0,6 1,4,2 101,2,6 1,8,2 1,0,6 1,1,2 C6,6,9 3,0,9 3,7,9
  2,1,9 2,17,9 1,0,2 1,4,6 2,1,6 3,2,2 1,0,3 1,0,7 1,0,6 1,0,7 1,0,6 1,0,2 8E,2,6 1,3,2 3,1,2
  1,3,6 1,0,2 4,0,6 1C,0,9 1,9,2 1,27,9 1,5,2 1,0,6 2,3,2 9,0,3 9,0,9 1,5,2 1,1,6 1,2,2 1,27,9
  1,5,7 1,C,2 1,0,6 1,0,2 1,0,3 C7,0,2 1,0,6 1,2,2 1,0,6 1,0,2 1,0,6 C8,0,6 1,6,2 2,5,2 1,0,6
  1,0,2 53,15,2 2,0,6 1,6,2 1,0,6 1,1,2 1,0,6 1,1,2 7B,5,2 4,0,2 2,1,2 2,6,2 1,0,7 1,0,2 43,4,6
  2,1,2 2,1,6 1,0,2 1,0,6 1,0,2 15C,1,2 1,1,6 A,1,2 1,0,7 1,0,6 1,C,9 2,21,9 1,1,6 1,4,2 4,1,6
  1,1,2 1,0,3 18,0,2 14D6,F,1 1,0,2 7,E,2 2CC9,B,2 1,2,6 1,2,2 9C1,4,2 3C,6,2 22D,0,C 4,3,C
  1E5,0,2 2,36,6 8,3,2 52,0,2 C,1,2 4CAC,1,2 2,3,1 125D,2D,2 3,16,2 21F,4,2 4,5,2 1,7,1 1,7,2
  3,6,2 1F,3,2 95,2,2 7BC,36,2 5,31,2 9,0,2 F,0,2 17,4,2 2,E,2 551,6,2 2,10,2 3,6,2 2,1,2 2,4,2
  65,0,2 A1,6,2 178,0,2 3E,3,2 1FD,3,2 FF,1,2 F4,0,2 3,0,2 8,1,2 6,0,2 1DB,6,2 6E,6,2 6BA,0,8
  28,3,8 65,B,8 10,1,8 10,0,8 F,1,8 26,9,8 71,1,8 D,1,8 F,0,8 3,9,8 14,37,8 1,19,A 2,E,8 B,0,8
  15,0,8 3,8,8 2,3,8 A,16,8 7,BB,8 3,6F,8 3,1,8 2,2,8 3,52,8 3,2,8 2,3,8 1,4,2 1,FD,8 2,3E,8 C,5,8
  2,17,8 8,1,8 3,7,8 D,0,8 3,3,8 3,0,8 5,1,8 E,1,8 3,0,8 9,1,8 A,0,8 6,2,8 D,2,8 9,2,8 3,0,8 2,0,8
  5,0,8 7,0,8 4,0,8 7,55,8 31,45,8 6,7,8 3,10,8 4,0,8 2,5,8 3,C,8 DB,25,8 D,3,8 39,7,8 B,5,8
  29,7,8 1F,1,8 D,3,8 3,D,8 A,26,8 D,2E,8 2,9,8 2,B8,8 59,7,8 F,91,8 101,3FD,8 C0003,1F,1 1,5F,2
  1,7F,1 1,EF,2 1,E0F,1"

end BroadcastChat.Text.ClusterTable
