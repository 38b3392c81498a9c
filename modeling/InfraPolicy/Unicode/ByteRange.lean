import InfraPolicy.Unicode.CodeSet

/-!
# Code points as bytes

A range of code points is written in UTF-8 as a few sequences of byte ranges: any choice of a byte
from each range of a sequence is one of the code points, and each code point is such a choice once.
The sequences come in increasing order. Surrogates have no bytes and are left out.
-/

namespace InfraPolicy.Unicode

/-- The bytes of a code point. -/
def utf8Bytes (n : Nat) : List Nat :=
  if n < 0x80 then [n]
  else if n < 0x800 then [0xC0 + n / 64, 0x80 + n % 64]
  else if n < 0x10000 then [0xE0 + n / 4096, 0x80 + n / 64 % 64, 0x80 + n % 64]
  else [0xF0 + n / 262144, 0x80 + n / 4096 % 64, 0x80 + n / 64 % 64, 0x80 + n % 64]

/-- Code points that are no characters. -/
def surrogates : CodeSet := .ofTable "d800-dfff"

/-- Where a range has to be cut so that its parts are closer to one sequence: the end of the first
part. The code points of a sequence have equally many bytes, and if two bytes at one place differ,
the bytes after them take all values. -/
def cut? (lo hi : Nat) : Option Nat :=
  match [0x7F, 0x7FF, 0xFFFF].find? fun last => lo ≤ last && last < hi with
  | some last => some last
  | none =>
    if hi < 0x80 then none
    else
      [64, 4096, 262144].findSome? fun block =>
        if lo / block == hi / block then none
        else if lo % block != 0 then some (lo / block * block + block - 1)
        else if hi % block != block - 1 then some (hi / block * block - 1)
        else none

/-- The sequences of a range without surrogates, given a bound on the number of nested cuts. -/
def sequencesOfRange : Nat → Nat → Nat → List (List (Nat × Nat))
  | 0, _, _ => []
  | fuel + 1, lo, hi =>
    match cut? lo hi with
    | some last => sequencesOfRange fuel lo last ++ sequencesOfRange fuel (last + 1) hi
    | none => [(utf8Bytes lo).zip (utf8Bytes hi)]

/-- The sequences of a set. -/
def byteSequences (s : CodeSet) : List (List (Nat × Nat)) :=
  (s.diff surrogates).ranges.flatMap fun (lo, hi) => sequencesOfRange 64 lo hi

end InfraPolicy.Unicode
