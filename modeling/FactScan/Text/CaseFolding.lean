/-
# FactScan.Text.CaseFolding — characters that differ in case alone

Simple case folding puts characters into classes.  Most classes are pairs, and pairs come
in runs: every `stride`-th character from `low` to `high` is paired with the one `distance`
further on.  The classes of three and four characters are listed.
-/
import FactScan.Text.Ranges

namespace FactScan.Text

set_option autoImplicit false

/-- A run of pairs. -/
structure CaseRun where
  low : Nat
  high : Nat
  stride : Nat
  distance : Nat

/-- Runs written as four hexadecimal numbers. -/
def caseRunText : List String :=
  ["41,4a,1,20 4c,5a,2,20 4d,51,2,20 55,59,2,20 c0,de,2,20 c1,c3,2,20 c7,d5,2,20 d9,dd,2,20",
     "df,df,1,1dbf ff,ff,1,79 100,12e,2,1 132,136,2,1 139,147,2,1 14a,176,2,1 179,17d,2,1",
     "180,180,1,c3 181,181,1,d2 182,184,2,1 186,186,1,ce 187,187,1,1 189,18a,1,cd 18b,18b,1,1",
     "18e,18e,1,4f 18f,18f,1,ca 190,190,1,cb 191,191,1,1 193,193,1,cd 194,194,1,cf",
     "195,195,1,61 196,196,1,d3 197,197,1,d1 198,198,1,1 19a,19a,1,a3 19b,19b,1,a641",
     "19c,19c,1,d3 19d,19d,1,d5 19e,19e,1,82 19f,19f,1,d6 1a0,1a4,2,1 1a6,1a6,1,da 1a7,1a7,1,1",
     "1a9,1a9,1,da 1ac,1ac,1,1 1ae,1ae,1,da 1af,1af,1,1 1b1,1b2,1,d9 1b3,1b5,2,1 1b7,1b7,1,db",
     "1b8,1b8,1,1 1bc,1bc,1,1 1bf,1bf,1,38 1cd,1db,2,1 1de,1ee,2,1 1f4,1f4,1,1 1f8,21e,2,1",
     "222,232,2,1 23a,23a,1,2a2b 23b,23b,1,1 23e,23e,1,2a28 23f,240,1,2a3f 241,241,1,1",
     "244,244,1,45 245,245,1,47 246,24e,2,1 250,250,1,2a1f 251,251,1,2a1c 252,252,1,2a1e",
     "25c,25c,1,a54f 261,261,1,a54b 264,264,1,a567 265,265,1,a528 266,266,1,a544",
     "26a,26a,1,a544 26b,26b,1,29f7 26c,26c,1,a541 271,271,1,29fd 27d,27d,1,29e7",
     "282,282,1,a543 287,287,1,a52a 29d,29d,1,a515 29e,29e,1,a512 370,372,2,1 376,376,1,1",
     "37b,37d,1,82 37f,37f,1,74 386,386,1,26 388,38a,1,25 38c,38c,1,40 38e,38f,1,3f",
     "390,390,1,1c43 391,393,2,20 394,396,2,20 397,397,1,20 39b,39f,2,20 39e,39e,1,20",
     "3a4,3a5,1,20 3a7,3a8,1,20 3aa,3ab,1,20 3b0,3b0,1,1c33 3cf,3cf,1,8 3d8,3ee,2,1",
     "3f2,3f2,1,7 3f7,3f7,1,1 3fa,3fa,1,1 400,40f,1,50 410,411,1,20 413,41f,2,20 416,41c,2,20",
     "420,420,1,20 423,429,1,20 42b,42f,1,20 460,460,1,1 464,480,2,1 48a,4be,2,1 4c0,4c0,1,f",
     "4c1,4cd,2,1 4d0,52e,2,1 531,556,1,30 10a0,10c5,1,1c60 10c7,10c7,1,1c60 10cd,10cd,1,1c60",
     "10d0,10fa,1,bc0 10fd,10ff,1,bc0 13a0,13ef,1,97d0 13f0,13f5,1,8 1c89,1c89,1,1",
     "1d79,1d79,1,8a04 1d7d,1d7d,1,ee6 1d8e,1d8e,1,8a38 1e00,1e5e,2,1 1e62,1e94,2,1",
     "1ea0,1efe,2,1 1f00,1f07,1,8 1f10,1f15,1,8 1f20,1f27,1,8 1f30,1f37,1,8 1f40,1f45,1,8",
     "1f51,1f57,2,8 1f60,1f67,1,8 1f70,1f71,1,4a 1f72,1f75,1,56 1f76,1f77,1,64 1f78,1f79,1,80",
     "1f7a,1f7b,1,70 1f7c,1f7d,1,7e 1f80,1f87,1,8 1f90,1f97,1,8 1fa0,1fa7,1,8 1fb0,1fb1,1,8",
     "1fb3,1fb3,1,9 1fc3,1fc3,1,9 1fd0,1fd1,1,8 1fe0,1fe1,1,8 1fe5,1fe5,1,7 1ff3,1ff3,1,9",
     "2132,2132,1,1c 2160,216f,1,10 2183,2183,1,1 24b6,24cf,1,1a 2c00,2c2f,1,30 2c60,2c60,1,1",
     "2c67,2c6b,2,1 2c72,2c72,1,1 2c75,2c75,1,1 2c80,2ce2,2,1 2ceb,2ced,2,1 2cf2,2cf2,1,1",
     "a640,a648,2,1 a64c,a66c,2,1 a680,a69a,2,1 a722,a72e,2,1 a732,a76e,2,1 a779,a77b,2,1",
     "a77e,a786,2,1 a78b,a78b,1,1 a790,a792,2,1 a794,a794,1,30 a796,a7a8,2,1 a7b3,a7b3,1,3a0",
     "a7b4,a7c2,2,1 a7c7,a7c9,2,1 a7cc,a7cc,1,1 a7d0,a7da,2,1 a7f5,a7f5,1,1 fb05,fb05,1,1",
     "ff21,ff3a,1,20 10400,10427,1,28 104b0,104d3,1,28 10570,10594,2,27 10571,10579,2,27",
     "1057d,10589,2,27 1058d,10591,2,27 10595,10595,1,27 10c80,10cb2,1,40 10d50,10d65,1,20",
     "118a0,118bf,1,20 16e40,16e5f,1,20 1e900,1e921,1,22"]

/-- Classes of more than two characters. -/
def caseClassText : List String :=
  ["4b,6b,212a 53,73,17f b5,39c,3bc c5,e5,212b 1c4,1c5,1c6 1c7,1c8,1c9 1ca,1cb,1cc",
     "1f1,1f2,1f3 345,399,3b9,1fbe 392,3b2,3d0 395,3b5,3f5 398,3b8,3d1,3f4 39a,3ba,3f0",
     "3a0,3c0,3d6 3a1,3c1,3f1 3a3,3c2,3c3 3a6,3c6,3d5 3a9,3c9,2126 412,432,1c80 414,434,1c81",
     "41e,43e,1c82 421,441,1c83 422,442,1c84,1c85 42a,44a,1c86 462,463,1c87 1c88,a64a,a64b",
     "1e60,1e61,1e9b"]

def caseRuns : List CaseRun :=
  (hexLists caseRunText).filterMap fun
    | [low, high, stride, distance] => some ⟨low, high, stride, distance⟩
    | _ => none

def caseClasses : List (List Nat) := hexLists caseClassText

/-- The partner of a code point in one run. -/
def CaseRun.partner? (r : CaseRun) (n : Nat) : Option Nat :=
  let member (m : Nat) : Bool := r.low ≤ m && m ≤ r.high && (m - r.low) % r.stride = 0
  if member n then some (n + r.distance)
  else if r.distance ≤ n && member (n - r.distance) then some (n - r.distance)
  else none

/-- The characters that differ from `c` in case alone, `c` itself first. -/
def caseVariants (c : Char) : List Char :=
  let n := c.toNat
  let others :=
    match caseClasses.find? (·.contains n) with
    | some members => members.filter (· != n)
    | none => (caseRuns.findSome? fun (r : CaseRun) => r.partner? n).toList
  c :: others.map Char.ofNat

end FactScan.Text
