import EventFeed.Unicode.Table

/-!
# Combining classes

Marks of different classes do not touch each other, so that their order carries no meaning. The classes are
those of Unicode 17.0.
-/

namespace EventFeed.Unicode

/-- The classes other than zero, each before the range of its marks. -/
def combiningClasses : List (Nat × Nat × Nat) := (entries "
  E6 300 314, E8 315, DC 316 319, E8 31A, D8 31B, DC 31C 320, CA 321 322, DC 323 326, CA 327 328,
  DC 329 333, 1 334 338, DC 339 33C, E6 33D 33F, E6 342, F0 345, E6 346, DC 347 349, E6 34A 34C,
  DC 34D 34E, E6 350 352, DC 353 356, E6 357, E8 358, DC 359 35A, E6 35B, E9 35C, EA 35D 35E, E9 35F,
  EA 360 361, E9 362, E6 363 36F, E6 483 487, DC 591, E6 592 595, DC 596, E6 597 599, DE 59A, DC 59B,
  E6 59C 5A1, DC 5A2 5A7, E6 5A8 5A9, DC 5AA, E6 5AB 5AC, DE 5AD, E4 5AE, E6 5AF, A 5B0, B 5B1, C 5B2,
  D 5B3, E 5B4, F 5B5, 10 5B6, 11 5B7, 12 5B8, 13 5B9 5BA, 14 5BB, 15 5BC, 16 5BD, 17 5BF, 18 5C1, 19 5C2,
  E6 5C4, DC 5C5, 12 5C7, E6 610 617, 1E 618, 1F 619, 20 61A, 1B 64B, 1C 64C, 1D 64D, 1E 64E, 1F 64F,
  20 650, 21 651, 22 652, E6 653 654, DC 655 656, E6 657 65B, DC 65C, E6 65D 65E, DC 65F, 23 670,
  E6 6D6 6DC, E6 6DF 6E2, DC 6E3, E6 6E4, E6 6E7 6E8, DC 6EA, E6 6EB 6EC, DC 6ED, 24 711, E6 730, DC 731,
  E6 732 733, DC 734, E6 735 736, DC 737 739, E6 73A, DC 73B 73C, E6 73D, DC 73E, E6 73F 741, DC 742,
  E6 743, DC 744, E6 745, DC 746, E6 747, DC 748, E6 749 74A, E6 7EB 7F1, DC 7F2, E6 7F3, DC 7FD,
  E6 816 819, E6 81B 823, E6 825 827, E6 829 82D, DC 859 85B, E6 897 898, DC 899 89B, E6 89C 89F,
  E6 8CA 8CE, DC 8CF 8D3, E6 8D4 8E1, DC 8E3, E6 8E4 8E5, DC 8E6, E6 8E7 8E8, DC 8E9, E6 8EA 8EC,
  DC 8ED 8EF, 1B 8F0, 1C 8F1, 1D 8F2, E6 8F3 8F5, DC 8F6, E6 8F7 8F8, DC 8F9 8FA, E6 8FB 8FF, 7 93C,
  9 94D, E6 951, DC 952, E6 953 954, 7 9BC, 9 9CD, E6 9FE, 7 A3C, 9 A4D, 7 ABC, 9 ACD, 7 B3C, 9 B4D,
  9 BCD, 7 C3C, 9 C4D, 54 C55, 5B C56, 7 CBC, 9 CCD, 9 D3B D3C, 9 D4D, 9 DCA, 67 E38 E39, 9 E3A,
  6B E48 E4B, 76 EB8 EB9, 9 EBA, 7A EC8 ECB, DC F18 F19, DC F35, DC F37, D8 F39, 81 F71, 82 F72, 84 F74,
  82 F7A F7D, 82 F80, E6 F82 F83, 9 F84, E6 F86 F87, DC FC6, 7 1037, 9 1039 103A, DC 108D, E6 135D 135F,
  9 1714 1715, 9 1734, 9 17D2, E6 17DD, E4 18A9, DE 1939, E6 193A, DC 193B, E6 1A17, DC 1A18, 9 1A60,
  E6 1A75 1A7C, DC 1A7F, E6 1AB0 1AB4, DC 1AB5 1ABA, E6 1ABB 1ABC, DC 1ABD, DC 1ABF 1AC0, E6 1AC1 1AC2,
  DC 1AC3 1AC4, E6 1AC5 1AC9, DC 1ACA, E6 1ACB 1ADC, DC 1ADD, E6 1AE0 1AE5, DC 1AE6, E6 1AE7 1AEA,
  EA 1AEB, 7 1B34, 9 1B44, E6 1B6B, DC 1B6C, E6 1B6D 1B73, 9 1BAA 1BAB, 7 1BE6, 9 1BF2 1BF3, 7 1C37,
  E6 1CD0 1CD2, 1 1CD4, DC 1CD5 1CD9, E6 1CDA 1CDB, DC 1CDC 1CDF, E6 1CE0, 1 1CE2 1CE8, DC 1CED, E6 1CF4,
  E6 1CF8 1CF9, E6 1DC0 1DC1, DC 1DC2, E6 1DC3 1DC9, DC 1DCA, E6 1DCB 1DCC, EA 1DCD, D6 1DCE, DC 1DCF,
  CA 1DD0, E6 1DD1 1DF5, E8 1DF6, E4 1DF7 1DF8, DC 1DF9, DA 1DFA, E6 1DFB, E9 1DFC, DC 1DFD, E6 1DFE,
  DC 1DFF, E6 20D0 20D1, 1 20D2 20D3, E6 20D4 20D7, 1 20D8 20DA, E6 20DB 20DC, E6 20E1, 1 20E5 20E6,
  E6 20E7, DC 20E8, E6 20E9, 1 20EA 20EB, DC 20EC 20EF, E6 20F0, E6 2CEF 2CF1, 9 2D7F, E6 2DE0 2DFF,
  DA 302A, E4 302B, E8 302C, DE 302D, E0 302E 302F, 8 3099 309A, E6 A66F, E6 A674 A67D, E6 A69E A69F,
  E6 A6F0 A6F1, 9 A806, 9 A82C, 9 A8C4, E6 A8E0 A8F1, DC A92B A92D, 9 A953, 7 A9B3, 9 A9C0, E6 AAB0,
  E6 AAB2 AAB3, DC AAB4, E6 AAB7 AAB8, E6 AABE AABF, E6 AAC1, 9 AAF6, 9 ABED, 1A FB1E, E6 FE20 FE26,
  DC FE27 FE2D, E6 FE2E FE2F, DC 101FD, DC 102E0, E6 10376 1037A, DC 10A0D, E6 10A0F, E6 10A38, 1 10A39,
  DC 10A3A, 9 10A3F, E6 10AE5, DC 10AE6, E6 10D24 10D27, E6 10D69 10D6D, E6 10EAB 10EAC, DC 10EFA 10EFB,
  DC 10EFD 10EFF, DC 10F46 10F47, E6 10F48 10F4A, DC 10F4B, E6 10F4C, DC 10F4D 10F50, E6 10F82, DC 10F83,
  E6 10F84, DC 10F85, 9 11046, 9 11070, 9 1107F, 9 110B9, 7 110BA, E6 11100 11102, 9 11133 11134, 7 11173,
  9 111C0, 7 111CA, 9 11235, 7 11236, 7 112E9, 9 112EA, 7 1133B 1133C, 9 1134D, E6 11366 1136C,
  E6 11370 11374, 9 113CE 113D0, 9 11442, 7 11446, E6 1145E, 9 114C2, 7 114C3, 9 115BF, 7 115C0, 9 1163F,
  9 116B6, 7 116B7, 9 1172B, 9 11839, 7 1183A, 9 1193D 1193E, 7 11943, 9 119E0, 9 11A34, 9 11A47, 9 11A99,
  9 11C3F, 7 11D42, 9 11D44 11D45, 9 11D97, 9 11F41 11F42, 9 1612F, 1 16AF0 16AF4, E6 16B30 16B36,
  6 16FF0 16FF1, 1 1BC9E, D8 1D165 1D166, 1 1D167 1D169, E2 1D16D, D8 1D16E 1D172, DC 1D17B 1D182,
  E6 1D185 1D189, DC 1D18A 1D18B, E6 1D1AA 1D1AD, E6 1D242 1D244, E6 1E000 1E006, E6 1E008 1E018,
  E6 1E01B 1E021, E6 1E023 1E024, E6 1E026 1E02A, E6 1E08F, E6 1E130 1E136, E6 1E2AE, E6 1E2EC 1E2EF,
  E8 1E4EC 1E4ED, DC 1E4EE, E6 1E4EF, E6 1E5EE, DC 1E5EF, E6 1E6E3, E6 1E6E6, E6 1E6EE 1E6EF, E6 1E6F5,
  DC 1E8D0 1E8D6, E6 1E944 1E949, 7 1E94A").filterMap fun entry =>
  match entry with
  | [which, mark] => some (which, mark, mark)
  | [which, first, last] => some (which, first, last)
  | _ => none

/-- The combining class of a code point; zero where nothing is combined. -/
def combiningClass (v : Nat) : Nat :=
  if v < 0x300 then 0
  else
    match combiningClasses.find? fun (_, first, last) => first ≤ v && v ≤ last with
    | some (which, _, _) => which
    | none => 0

/-- The class of the signs that join a consonant to the next one. -/
def joinerClass : Nat := 9

end EventFeed.Unicode
