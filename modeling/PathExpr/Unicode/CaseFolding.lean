import PathExpr.Unicode.CharSet

/-!
# PathExpr/Unicode/CaseFolding — characters that differ only in case

Two characters are the same up to case when their simple case foldings are equal.  An *orbit* is a
class of such characters with two members or more.  `pairs` writes the orbits of two members, by
the distance between the two: under each distance stand the smaller members.  `orbits` lists the
rest in full.  `CharSet.closeUnderCase` adds to a set every character that agrees with a member up
to case.
-/

namespace PathExpr

namespace CaseFolding

/-- The orbits of two members: a distance, and the smaller members of the orbits that have it, in
the notation of `CharSet.ofText`. -/
def pairs : List (Nat × String) :=
  [(0x1, "100-12e/2 132-136/2 139-147/2 14a-176/2 179-17d/2 182 184 187 18b 191 198 1a0-1a4/2
     1a7 1ac 1af 1b3 1b5 1b8 1bc 1cd-1db/2 1de-1ee/2 1f4 1f8-21e/2 222-232/2 23b 241 246-24e/2
     370 372 376 3d8-3ee/2 3f7 3fa 460 464-480/2 48a-4be/2 4c1-4cd/2 4d0-52e/2 1c89 1e00-1e5e/2
     1e62-1e94/2 1ea0-1efe/2 2183 2c60 2c67-2c6b/2 2c72 2c75 2c80-2ce2/2 2ceb 2ced 2cf2
     a640-a648/2 a64c-a66c/2 a680-a69a/2 a722-a72e/2 a732-a76e/2 a779 a77b a77e-a786/2 a78b
     a790 a792 a796-a7a8/2 a7b4-a7c2/2 a7c7 a7c9 a7cc-a7da/2 a7f5 fb05"),
   (0x7, "3f2 1fe5"),
   (0x8, "3cf 13f0-13f5 1f00-1f07 1f10-1f15 1f20-1f27 1f30-1f37 1f40-1f45 1f51-1f57/2 1f60-1f67
     1f80-1f87 1f90-1f97 1fa0-1fa7 1fb0-1fb1 1fd0-1fd1 1fe0-1fe1"),
   (0x9, "1fb3 1fc3 1ff3"),
   (0xf, "4c0"),
   (0x10, "2160-216f"),
   (0x1a, "24b6-24cf"),
   (0x1b, "16ea0-16eb8"),
   (0x1c, "2132"),
   (0x20, "41-4a 4c-52 54-5a c0-c4 c6-d6 d8-de 391 393-394 396-397 39b 39d-39f 3a4-3a5 3a7-3a8
     3aa-3ab 410-411 413 415-41d 41f-420 423-429 42b-42f ff21-ff3a 10d50-10d65 118a0-118bf
     16e40-16e5f"),
   (0x22, "1e900-1e921"),
   (0x25, "388-38a"),
   (0x26, "386"),
   (0x27, "10570-1057a 1057c-1058a 1058c-10592 10594-10595"),
   (0x28, "10400-10427 104b0-104d3"),
   (0x30, "531-556 2c00-2c2f a794"),
   (0x38, "1bf"),
   (0x3f, "38e-38f"),
   (0x40, "38c 10c80-10cb2"),
   (0x45, "244"),
   (0x47, "245"),
   (0x4a, "1f70-1f71"),
   (0x4f, "18e"),
   (0x50, "400-40f"),
   (0x56, "1f72-1f75"),
   (0x61, "195"),
   (0x64, "1f76-1f77"),
   (0x70, "1f7a-1f7b"),
   (0x74, "37f"),
   (0x79, "ff"),
   (0x7e, "1f7c-1f7d"),
   (0x80, "1f78-1f79"),
   (0x82, "19e 37b-37d"),
   (0xa3, "19a"),
   (0xc3, "180"),
   (0xca, "18f"),
   (0xcb, "190"),
   (0xcd, "189-18a 193"),
   (0xce, "186"),
   (0xcf, "194"),
   (0xd1, "197"),
   (0xd2, "181"),
   (0xd3, "196 19c"),
   (0xd5, "19d"),
   (0xd6, "19f"),
   (0xd9, "1b1-1b2"),
   (0xda, "1a6 1a9 1ae"),
   (0xdb, "1b7"),
   (0x3a0, "a7b3"),
   (0xbc0, "10d0-10fa 10fd-10ff"),
   (0xee6, "1d7d"),
   (0x1c33, "3b0"),
   (0x1c43, "390"),
   (0x1c60, "10a0-10c5 10c7 10cd"),
   (0x1dbf, "df"),
   (0x29e7, "27d"),
   (0x29f7, "26b"),
   (0x29fd, "271"),
   (0x2a1c, "251"),
   (0x2a1e, "252"),
   (0x2a1f, "250"),
   (0x2a28, "23e"),
   (0x2a2b, "23a"),
   (0x2a3f, "23f-240"),
   (0x8a04, "1d79"),
   (0x8a38, "1d8e"),
   (0x97d0, "13a0-13ef"),
   (0xa512, "29e"),
   (0xa515, "29d"),
   (0xa528, "265"),
   (0xa52a, "287"),
   (0xa541, "26c"),
   (0xa543, "282"),
   (0xa544, "266 26a"),
   (0xa54b, "261"),
   (0xa54f, "25c"),
   (0xa567, "264"),
   (0xa641, "19b")]

/-- The orbits of three members or more. -/
def orbits : List (List Nat) :=
  [[0x4b, 0x6b, 0x212a], [0x53, 0x73, 0x17f], [0xb5, 0x39c, 0x3bc], [0xc5, 0xe5, 0x212b],
   [0x1c4, 0x1c5, 0x1c6], [0x1c7, 0x1c8, 0x1c9], [0x1ca, 0x1cb, 0x1cc], [0x1f1, 0x1f2, 0x1f3],
   [0x345, 0x399, 0x3b9, 0x1fbe], [0x392, 0x3b2, 0x3d0], [0x395, 0x3b5, 0x3f5],
   [0x398, 0x3b8, 0x3d1, 0x3f4], [0x39a, 0x3ba, 0x3f0], [0x3a0, 0x3c0, 0x3d6],
   [0x3a1, 0x3c1, 0x3f1], [0x3a3, 0x3c2, 0x3c3], [0x3a6, 0x3c6, 0x3d5], [0x3a9, 0x3c9, 0x2126],
   [0x412, 0x432, 0x1c80], [0x414, 0x434, 0x1c81], [0x41e, 0x43e, 0x1c82],
   [0x421, 0x441, 0x1c83], [0x422, 0x442, 0x1c84, 0x1c85], [0x42a, 0x44a, 0x1c86],
   [0x462, 0x463, 0x1c87], [0x1c88, 0xa64a, 0xa64b], [0x1e60, 0x1e61, 0x1e9b]]

/-- Every orbit. -/
def classes : List (List Nat) :=
  orbits ++ pairs.flatMap fun p =>
    (CharSet.ofText p.2).ranges.flatMap fun r =>
      (List.range (r.2 + 1 - r.1)).map fun i => [r.1 + i, r.1 + i + p.1]

end CaseFolding

/-- The set with every character that agrees with a member up to case. -/
def CharSet.closeUnderCase (s : CharSet) : CharSet :=
  s ++ ⟨CaseFolding.classes.flatMap fun orbit =>
    if orbit.any s.hasCode then orbit.map fun n => (n, n) else []⟩

end PathExpr
