import InfraPolicy.Number.Binary64

/-!
# Reading numbers

The one grammar of decimal numbers that several formats share: digits with an optional fraction,
at least one digit in all, and an optional exponent. `readDecimal?` also takes a sign and the
names of infinity and NaN; what a format allows beyond or below this it decides itself.
-/

namespace InfraPolicy

namespace Number

def isDigit (c : Char) : Bool :=
  '0' ≤ c && c ≤ '9'

/-- The value of a digit in any base up to sixteen. -/
def digitValue (c : Char) : Nat :=
  if isDigit c then c.toNat - '0'.toNat
  else if 'a' ≤ c && c ≤ 'f' then c.toNat - 'a'.toNat + 10
  else c.toNat - 'A'.toNat + 10

/-- Is the character a digit of the base, which is at most sixteen? -/
def isDigitOf (base : Nat) (c : Char) : Bool :=
  (isDigit c || ('a' ≤ c && c ≤ 'f') || ('A' ≤ c && c ≤ 'F')) && digitValue c < base

/-- The natural that digits of a base denote. -/
def ofDigits (base : Nat) (ds : List Char) : Nat :=
  ds.foldl (fun n c => n * base + digitValue c) 0

/-- A natural in decimal, at least one digit and nothing else. -/
def readNat? (ds : List Char) : Option Nat :=
  if ds.isEmpty || !ds.all isDigit then none else some (ofDigits 10 ds)

/-- Split off an optional sign; `true` is minus. -/
def takeSign : List Char → Bool × List Char
  | '-' :: cs => (true, cs)
  | '+' :: cs => (false, cs)
  | cs => (false, cs)

/-- An integer in decimal with an optional sign. -/
def readInt? (cs : List Char) : Option Int :=
  let (negative, ds) := takeSign cs
  (readNat? ds).map fun n => if negative then -(n : Int) else n

/-- The exponent after the digits: nothing, or `e` and a signed integer. -/
def readExponent? : List Char → Option Int
  | [] => some 0
  | c :: cs => if c == 'e' || c == 'E' then readInt? cs else none

/-- Digits, an optional fraction and an optional exponent, up to the end of the text. -/
def readUnsigned? (negative : Bool) (cs : List Char) : Option Binary64 := do
  let whole := cs.takeWhile isDigit
  let afterWhole := cs.dropWhile isDigit
  let (fraction, rest) :=
    match afterWhole with
    | '.' :: r => (r.takeWhile isDigit, r.dropWhile isDigit)
    | r => ([], r)
  if whole.isEmpty && fraction.isEmpty then none
  else
    let exponent ← readExponent? rest
    some (.ofDecimal negative (ofDigits 10 (whole ++ fraction)) (exponent - fraction.length))

/-- Lower-case an ASCII letter. -/
def lowerAscii (c : Char) : Char :=
  if 'A' ≤ c && c ≤ 'Z' then Char.ofNat (c.toNat + 32) else c

/-- A number with an optional sign: a decimal, or `inf`, `infinity`, `nan` in any case. -/
def readDecimal? (cs : List Char) : Option Binary64 :=
  let (negative, rest) := takeSign cs
  let word := String.ofList (rest.map lowerAscii)
  if word == "inf" || word == "infinity" then some (.infinity negative)
  else if word == "nan" then some .nan
  else readUnsigned? negative rest

/-! ### Digits that are read back -/

theorem isDigit_of_mem_toDigits {n : Nat} {c : Char} (h : c ∈ Nat.toDigits 10 n) :
    isDigit c = true :=
  Nat.isDigit_of_mem_toDigits (by decide) (by decide) h

/-- The digits of a natural denote it. -/
theorem ofDigits_toDigits (n : Nat) : ofDigits 10 (Nat.toDigits 10 n) = n := by
  have hfold : ∀ (ds : List Char) (m : Nat), (∀ c ∈ ds, isDigit c = true) →
      ds.foldl (fun n c => n * 10 + digitValue c) m = Nat.ofDigitChars 10 ds m := by
    intro ds
    induction ds with
    | nil => intro m _; rfl
    | cons c ds ih =>
      intro m h
      obtain ⟨hc, hds⟩ := List.forall_mem_cons.mp h
      rw [List.foldl_cons, ih _ hds, Nat.ofDigitChars_cons, digitValue, if_pos hc, Nat.mul_comm]
  rw [ofDigits, hfold _ 0 fun c hc => isDigit_of_mem_toDigits hc]
  exact Nat.ofDigitChars_ten_toDigits

/-- A natural is read from its digits. -/
theorem readNat?_toDigits (n : Nat) : readNat? (Nat.toDigits 10 n) = some n := by
  have hdigits : (Nat.toDigits 10 n).all isDigit = true :=
    List.all_eq_true.mpr fun c hc => isDigit_of_mem_toDigits hc
  rw [readNat?, hdigits, ofDigits_toDigits]
  simp [Nat.toDigits_ne_nil]

end Number

end InfraPolicy
