import LintDaemon.Text.Word

/-!
# Characters of names

Which characters a name may hold, by the Unicode standard, version 14 (the properties XID_Start
and XID_Continue): letters of every script and the underscore, and behind the first character also
digits and combining marks.

* `beginsName`: the characters that may begin a name.
* `continuesName`: the characters that may stand in a name.
-/

namespace LintDaemon.Text

/-- Word characters that may not stand in a name, as alternating runs of code points outside and
inside. -/
def wordsOutsideNames : List Nat :=
  [178, 2, 5, 1, 2, 3, 699, 1, 1657, 6, 376, 6, 120, 3, 133, 7, 217, 7, 17, 9, 433, 10, 1086, 11,
   1139, 10, 2166, 1, 3, 6, 6, 10, 198, 16, 41, 1, 726, 60, 78, 22, 630, 30, 1385, 1, 305, 1, 866,
   4, 138, 10, 30, 8, 1, 15, 32, 10, 39, 15, 30064, 6, 21544, 6, 406, 2, 116, 1, 1, 1, 1, 1, 1, 1,
   1, 1, 1, 1, 1, 1, 1, 1, 648, 45, 65, 4, 17, 2, 341, 27, 36, 4, 1332, 8, 25, 7, 39, 9, 75, 5, 22,
   6, 160, 2, 2, 16, 2, 46, 64, 9, 52, 2, 30, 3, 75, 5, 104, 8, 24, 8, 41, 7, 330, 6, 352, 31, 158,
   10, 42, 4, 112, 7, 134, 20, 379, 20, 1349, 2, 430, 9, 871, 19, 851, 21, 19334, 7, 798, 23,
   25673, 20, 108, 25, 5454, 9, 929, 59, 1, 3, 1, 4, 76, 45, 1, 15, 962, 13]

/-- Characters other than word characters that may stand in a name, as alternating runs of code
points outside and inside. -/
def namesOutsideWords : List Nat :=
  [183, 1, 584, 112, 23, 1, 251, 5, 265, 45, 1, 1, 1, 2, 1, 2, 1, 1, 72, 11, 48, 21, 16, 1, 101, 7,
   2, 6, 2, 2, 1, 4, 35, 1, 30, 27, 91, 11, 58, 9, 9, 1, 24, 4, 1, 9, 1, 3, 1, 5, 43, 3, 60, 8, 42,
   24, 1, 33, 54, 3, 1, 18, 1, 7, 10, 2, 29, 3, 56, 1, 1, 7, 2, 2, 2, 3, 9, 1, 10, 2, 26, 1, 2, 3,
   56, 1, 1, 5, 4, 2, 2, 3, 3, 1, 30, 2, 3, 1, 11, 3, 56, 1, 1, 8, 1, 3, 1, 3, 20, 2, 22, 6, 1, 3,
   56, 1, 1, 7, 2, 2, 2, 3, 7, 3, 10, 2, 30, 1, 59, 5, 3, 3, 1, 4, 9, 1, 40, 5, 55, 1, 1, 7, 1, 3,
   1, 4, 7, 2, 11, 2, 29, 3, 56, 1, 1, 7, 1, 3, 1, 4, 7, 2, 11, 2, 28, 4, 55, 2, 1, 7, 1, 3, 1, 4,
   9, 1, 10, 2, 29, 3, 70, 1, 4, 6, 1, 1, 1, 8, 18, 2, 61, 1, 2, 7, 12, 8, 98, 1, 2, 9, 11, 6, 74,
   2, 27, 1, 1, 1, 1, 1, 4, 2, 49, 20, 1, 2, 5, 11, 1, 36, 9, 1, 100, 20, 23, 4, 4, 3, 1, 3, 2, 7,
   3, 4, 13, 12, 1, 1, 10, 4, 703, 3, 946, 4, 28, 3, 29, 2, 30, 2, 64, 32, 9, 1, 45, 3, 1, 1, 117,
   2, 34, 1, 118, 12, 4, 12, 219, 5, 57, 10, 1, 29, 2, 1, 48, 14, 1, 16, 49, 5, 47, 17, 38, 9, 12,
   3, 30, 13, 56, 14, 48, 20, 152, 3, 1, 21, 4, 1, 6, 1, 2, 3, 198, 64, 575, 2, 19, 1, 123, 13, 4,
   1, 3, 12, 39, 1, 21, 1, 3008, 3, 141, 1, 96, 32, 554, 6, 105, 2, 30164, 1, 4, 10, 32, 2, 80, 2,
   272, 1, 3, 1, 4, 1, 23, 5, 4, 1, 83, 2, 50, 18, 26, 18, 13, 1, 38, 8, 25, 13, 44, 4, 47, 14, 36,
   1, 67, 14, 12, 1, 8, 2, 45, 3, 50, 1, 1, 3, 2, 2, 5, 2, 1, 1, 41, 5, 5, 2, 236, 8, 1, 2, 20272,
   1, 737, 16, 16, 16, 3, 2, 24, 3, 239, 1, 701, 1, 226, 1, 149, 5, 1670, 3, 1, 2, 5, 4, 40, 3, 4,
   1, 165, 2, 573, 4, 387, 2, 153, 11, 49, 4, 122, 3, 53, 15, 41, 1, 2, 2, 10, 4, 45, 11, 7, 1, 61,
   3, 36, 14, 16, 2, 44, 1, 12, 3, 48, 14, 8, 4, 1, 2, 92, 12, 6, 1, 160, 12, 21, 4, 55, 2, 1, 7,
   2, 2, 2, 3, 9, 1, 10, 2, 2, 7, 3, 5, 192, 18, 23, 1, 81, 20, 235, 7, 2, 9, 27, 2, 82, 17, 106,
   13, 101, 15, 256, 15, 245, 6, 1, 2, 2, 4, 1, 1, 1, 2, 141, 7, 2, 7, 3, 1, 28, 10, 40, 7, 1, 4,
   8, 1, 9, 11, 46, 16, 405, 8, 1, 8, 82, 22, 1, 14, 122, 6, 3, 1, 1, 2, 1, 7, 1, 1, 66, 5, 1, 2,
   1, 5, 347, 4, 19449, 5, 59, 7, 1048, 1, 1, 55, 7, 4, 81, 1, 11, 2, 19627, 2, 4705, 46, 2, 23,
   542, 5, 3, 6, 8, 8, 2, 7, 30, 4, 148, 3, 1979, 55, 4, 50, 8, 1, 14, 1, 22, 5, 1, 15, 1360, 7, 1,
   17, 2, 7, 1, 2, 1, 5, 261, 7, 375, 1, 61, 4, 1504, 7, 109, 7, 792501, 240]

/-- Characters that may stand in a name. -/
def continuesName (c : Char) : Bool :=
  (isWordChar c && !Runs.contains wordsOutsideNames c.toNat) ||
    Runs.contains namesOutsideWords c.toNat

/-- Word characters that may not begin a name, as alternating runs of code points outside and
inside. -/
def wordsOutsideStarts : List Nat :=
  [48, 10, 120, 2, 5, 1, 2, 3, 699, 1, 741, 10, 134, 10, 198, 10, 412, 10, 118, 10, 4, 6, 108, 10,
   118, 10, 118, 10, 2, 6, 110, 13, 115, 10, 8, 7, 103, 10, 104, 7, 7, 19, 109, 10, 67, 1, 28, 10,
   89, 1, 28, 10, 70, 20, 268, 10, 70, 10, 719, 20, 1123, 10, 6, 10, 22, 10, 300, 10, 128, 11, 165,
   10, 6, 10, 182, 10, 86, 10, 134, 10, 6, 10, 1046, 1, 3, 6, 6, 10, 198, 16, 41, 1, 726, 60, 78,
   22, 630, 30, 1385, 1, 305, 1, 866, 4, 138, 10, 30, 8, 1, 15, 32, 10, 39, 15, 29536, 10, 518, 6,
   154, 10, 38, 10, 198, 10, 22, 10, 86, 10, 406, 10, 20580, 6, 406, 2, 116, 1, 1, 1, 1, 1, 1, 1,
   1, 1, 1, 1, 1, 1, 1, 1, 145, 10, 132, 2, 359, 45, 65, 4, 17, 2, 341, 27, 36, 4, 380, 10, 942, 8,
   25, 7, 39, 9, 75, 5, 22, 6, 160, 2, 2, 16, 2, 46, 64, 9, 52, 2, 30, 3, 75, 5, 104, 8, 24, 8, 41,
   7, 330, 6, 48, 10, 294, 31, 158, 10, 42, 4, 112, 7, 134, 30, 128, 10, 60, 10, 144, 10, 7, 20,
   251, 10, 342, 10, 118, 10, 374, 10, 102, 10, 102, 12, 420, 19, 93, 10, 758, 29, 227, 10, 70, 10,
   534, 21, 19083, 10, 86, 10, 134, 10, 1, 7, 798, 23, 25673, 20, 108, 25, 1109, 50, 2368, 10, 422,
   10, 1485, 9, 128, 10, 791, 59, 1, 3, 1, 4, 76, 45, 1, 15, 962, 13, 2787, 10]

/-- Characters other than word characters that may begin a name, as alternating runs of code
points outside and inside. -/
def startsOutsideWords : List Nat :=
  [6277, 2, 2193, 1, 21, 1]

/-- Characters that may begin a name. -/
def beginsName (c : Char) : Bool :=
  (isWordChar c && !Runs.contains wordsOutsideStarts c.toNat) ||
    Runs.contains startsOutsideWords c.toNat

end LintDaemon.Text
