import InfraPolicy.Unicode.Recent

/-!
# Case

Two maps on single characters: the lower-case form, and the folding that makes characters equal
which differ only in case. Both are tables of runs that move by a constant distance. Lower-casing
a text maps each character, with two exceptions that are no map of single characters: the capital
I with a dot above becomes two characters, and a capital sigma at the end of a word becomes the
final sigma.
-/

namespace InfraPolicy.Unicode

/-- The code points `first`, `first + step`, … up to `last` move by `distance`. -/
structure CaseRun where
  first : Nat
  last : Nat
  step : Nat
  distance : Int
deriving Repr, Inhabited

namespace CaseRun

/-- An entry is `first-last>distance`, with `~` for every second code point, `<` for a distance
downwards, and `last` left out when it is `first`. -/
def ofEntry (entry : List Char) : CaseRun :=
  let hex := Number.isDigitOf 16
  let first := entry.takeWhile hex
  let afterFirst := entry.dropWhile hex
  let (step, last, moved) :=
    match afterFirst with
    | '-' :: r => (1, r.takeWhile hex, r.dropWhile hex)
    | '~' :: r => (2, r.takeWhile hex, r.dropWhile hex)
    | r => (1, first, r)
  let distance : Int := Number.ofDigits 16 (moved.drop 1)
  ⟨Number.ofDigits 16 first, Number.ofDigits 16 last, step,
    if moved.head? = some '<' then -distance else distance⟩

/-- Is the code point moved by the run? -/
def covers (run : CaseRun) (n : Nat) : Bool :=
  run.first ≤ n && n ≤ run.last && (n - run.first) % run.step == 0

/-- All code points of the run with their images. -/
def pairs (run : CaseRun) : List (Nat × Nat) :=
  (List.range ((run.last - run.first) / run.step + 1)).map fun i =>
    let n := run.first + i * run.step
    (n, (n + run.distance).toNat)

end CaseRun

/-- The image of a code point under runs; it is its own outside of them. -/
def moveBy : List CaseRun → Nat → Nat
  | [], n => n
  | run :: runs, n => if run.covers n then (n + run.distance).toNat else moveBy runs n

/-- The simple mappings to lower case. -/
def lowercaseTable : String :=
  "41-5a>20,c0-d6>20,d8-de>20,100~12e>1,132~136>1,139~147>1,14a~176>1,178<79,179~17d>1,181>d2,
  182~184>1,186>ce,187>1,189-18a>cd,18b>1,18e>4f,18f>ca,190>cb,191>1,193>cd,194>cf,196>d3,197>d1,
  198>1,19c>d3,19d>d5,19f>d6,1a0~1a4>1,1a6>da,1a7>1,1a9>da,1ac>1,1ae>da,1af>1,1b1-1b2>d9,1b3~1b5>1,
  1b7>db,1b8>1,1bc>1,1c4>2,1c5>1,1c7>2,1c8>1,1ca>2,1cb~1db>1,1de~1ee>1,1f1>2,1f2~1f4>1,1f6<61,
  1f7<38,1f8~21e>1,220<82,222~232>1,23a>2a2b,23b>1,23d<a3,23e>2a28,241>1,243<c3,244>45,245>47,
  246~24e>1,370~372>1,376>1,37f>74,386>26,388-38a>25,38c>40,38e-38f>3f,391-3a1>20,3a3-3ab>20,3cf>8,
  3d8~3ee>1,3f4<3c,3f7>1,3f9<7,3fa>1,3fd-3ff<82,400-40f>50,410-42f>20,460~480>1,48a~4be>1,4c0>f,
  4c1~4cd>1,4d0~52e>1,531-556>30,10a0-10c5>1c60,10c7>1c60,10cd>1c60,13a0-13ef>97d0,13f0-13f5>8,
  1c89>1,1c90-1cba<bc0,1cbd-1cbf<bc0,1e00~1e94>1,1e9e<1dbf,1ea0~1efe>1,1f08-1f0f<8,1f18-1f1d<8,
  1f28-1f2f<8,1f38-1f3f<8,1f48-1f4d<8,1f59~1f5f<8,1f68-1f6f<8,1f88-1f8f<8,1f98-1f9f<8,1fa8-1faf<8,
  1fb8-1fb9<8,1fba-1fbb<4a,1fbc<9,1fc8-1fcb<56,1fcc<9,1fd8-1fd9<8,1fda-1fdb<64,1fe8-1fe9<8,
  1fea-1feb<70,1fec<7,1ff8-1ff9<80,1ffa-1ffb<7e,1ffc<9,2126<1d5d,212a<20bf,212b<2046,2132>1c,
  2160-216f>10,2183>1,24b6-24cf>1a,2c00-2c2f>30,2c60>1,2c62<29f7,2c63<ee6,2c64<29e7,2c67~2c6b>1,
  2c6d<2a1c,2c6e<29fd,2c6f<2a1f,2c70<2a1e,2c72>1,2c75>1,2c7e-2c7f<2a3f,2c80~2ce2>1,2ceb~2ced>1,
  2cf2>1,a640~a66c>1,a680~a69a>1,a722~a72e>1,a732~a76e>1,a779~a77b>1,a77d<8a04,a77e~a786>1,a78b>1,
  a78d<a528,a790~a792>1,a796~a7a8>1,a7aa<a544,a7ab<a54f,a7ac<a54b,a7ad<a541,a7ae<a544,a7b0<a512,
  a7b1<a52a,a7b2<a515,a7b3>3a0,a7b4~a7c2>1,a7c4<30,a7c5<a543,a7c6<8a38,a7c7~a7c9>1,a7cb<a567,
  a7cc~a7da>1,a7dc<a641,a7f5>1,ff21-ff3a>20,10400-10427>28,104b0-104d3>28,10570-1057a>27,
  1057c-1058a>27,1058c-10592>27,10594-10595>27,10c80-10cb2>40,10d50-10d65>20,118a0-118bf>20,
  16e40-16e5f>20,16ea0-16eb8>1b,1e900-1e921>22"

/-- The runs of the table of lower case. -/
def lowercaseRuns : List CaseRun :=
  (CodeSet.entries lowercaseTable).map .ofEntry

/-- The simple case foldings. -/
def foldTable : String :=
  "41-5a>20,b5>307,c0-d6>20,d8-de>20,100~12e>1,132~136>1,139~147>1,14a~176>1,178<79,179~17d>1,
  17f<10c,181>d2,182~184>1,186>ce,187>1,189-18a>cd,18b>1,18e>4f,18f>ca,190>cb,191>1,193>cd,194>cf,
  196>d3,197>d1,198>1,19c>d3,19d>d5,19f>d6,1a0~1a4>1,1a6>da,1a7>1,1a9>da,1ac>1,1ae>da,1af>1,
  1b1-1b2>d9,1b3~1b5>1,1b7>db,1b8>1,1bc>1,1c4>2,1c5>1,1c7>2,1c8>1,1ca>2,1cb~1db>1,1de~1ee>1,1f1>2,
  1f2~1f4>1,1f6<61,1f7<38,1f8~21e>1,220<82,222~232>1,23a>2a2b,23b>1,23d<a3,23e>2a28,241>1,243<c3,
  244>45,245>47,246~24e>1,345>74,370~372>1,376>1,37f>74,386>26,388-38a>25,38c>40,38e-38f>3f,
  391-3a1>20,3a3-3ab>20,3c2>1,3cf>8,3d0<1e,3d1<19,3d5<f,3d6<16,3d8~3ee>1,3f0<36,3f1<30,3f4<3c,
  3f5<40,3f7>1,3f9<7,3fa>1,3fd-3ff<82,400-40f>50,410-42f>20,460~480>1,48a~4be>1,4c0>f,4c1~4cd>1,
  4d0~52e>1,531-556>30,10a0-10c5>1c60,10c7>1c60,10cd>1c60,13f8-13fd<8,1c80<184e,1c81<184d,1c82<1844,
  1c83-1c84<1842,1c85<1843,1c86<183c,1c87<1824,1c88>89c3,1c89>1,1c90-1cba<bc0,1cbd-1cbf<bc0,
  1e00~1e94>1,1e9b<3a,1e9e<1dbf,1ea0~1efe>1,1f08-1f0f<8,1f18-1f1d<8,1f28-1f2f<8,1f38-1f3f<8,
  1f48-1f4d<8,1f59~1f5f<8,1f68-1f6f<8,1f88-1f8f<8,1f98-1f9f<8,1fa8-1faf<8,1fb8-1fb9<8,1fba-1fbb<4a,
  1fbc<9,1fbe<1c05,1fc8-1fcb<56,1fcc<9,1fd3<1c43,1fd8-1fd9<8,1fda-1fdb<64,1fe3<1c33,1fe8-1fe9<8,
  1fea-1feb<70,1fec<7,1ff8-1ff9<80,1ffa-1ffb<7e,1ffc<9,2126<1d5d,212a<20bf,212b<2046,2132>1c,
  2160-216f>10,2183>1,24b6-24cf>1a,2c00-2c2f>30,2c60>1,2c62<29f7,2c63<ee6,2c64<29e7,2c67~2c6b>1,
  2c6d<2a1c,2c6e<29fd,2c6f<2a1f,2c70<2a1e,2c72>1,2c75>1,2c7e-2c7f<2a3f,2c80~2ce2>1,2ceb~2ced>1,
  2cf2>1,a640~a66c>1,a680~a69a>1,a722~a72e>1,a732~a76e>1,a779~a77b>1,a77d<8a04,a77e~a786>1,a78b>1,
  a78d<a528,a790~a792>1,a796~a7a8>1,a7aa<a544,a7ab<a54f,a7ac<a54b,a7ad<a541,a7ae<a544,a7b0<a512,
  a7b1<a52a,a7b2<a515,a7b3>3a0,a7b4~a7c2>1,a7c4<30,a7c5<a543,a7c6<8a38,a7c7~a7c9>1,a7cb<a567,a7cc>1,
  a7d0>1,a7d6~a7da>1,a7dc<a641,a7f5>1,ab70-abbf<97d0,fb05>1,ff21-ff3a>20,10400-10427>28,
  104b0-104d3>28,10570-1057a>27,1057c-1058a>27,1058c-10592>27,10594-10595>27,10c80-10cb2>40,
  10d50-10d65>20,118a0-118bf>20,16e40-16e5f>20,1e900-1e921>22"

/-- The runs of the table of case foldings. -/
def foldRuns : List CaseRun :=
  (CodeSet.entries foldTable).map .ofEntry

/-! ### Folding -/

/-- Add to a set every character that equals one of its members up to case. Folding leads each
character to the one representative of its class, so one step down and one step up suffice. -/
def closeUnderCase (s : CodeSet) : CodeSet :=
  let pairs := foldRuns.flatMap CaseRun.pairs
  let folded := pairs.filterMap fun (n, f) =>
    if CodeSet.inRanges n s.ranges then some (f, f) else none
  let down := s.union (.ofRanges folded)
  let up := pairs.filterMap fun (n, f) =>
    if CodeSet.inRanges f down.ranges then some (n, n) else none
  down.union (.ofRanges up)

/-! ### Lower-casing a text -/

/-- The lower-case form of one character, which needs no context. -/
def lowerChar (c : Char) : List Char :=
  if c.toNat < 128 then [Number.lowerAscii c]
  else if c.toNat == 0x130 then ['i', Char.ofNat 0x307]
  else [Char.ofNat (moveBy lowercaseRuns c.toNat)]

/-- Does a cased character come next, past those that do not count for case? -/
def meetsCased (cs : List Char) : Bool :=
  match cs.dropWhile (caseIgnorable.union recentCaseIgnorable).contains with
  | [] => false
  | c :: _ => (cased.union recentCased).contains c

/-- Lower-case the characters, given those before them, the nearest first. -/
def lowerAfter (before : List Char) : List Char → List Char
  | [] => []
  | c :: rest =>
    let image :=
      if c.toNat == 0x3A3 then
        [Char.ofNat (if meetsCased before && !meetsCased rest then 0x3C2 else 0x3C3)]
      else lowerChar c
    image ++ lowerAfter (c :: before) rest

/-- The lower-case form of a text. -/
def lower (s : String) : String :=
  String.ofList (lowerAfter [] s.toList)

end InfraPolicy.Unicode
