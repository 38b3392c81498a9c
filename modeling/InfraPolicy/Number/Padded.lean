/-!
# Numbers of a fixed width

Naturals in decimal with zeros in front.
-/

namespace InfraPolicy

namespace Number

/-- A natural in decimal with at least `width` digits. -/
def padded (width n : Nat) : String :=
  let digits := Nat.toDigits 10 n
  String.ofList (List.replicate (width - digits.length) '0' ++ digits)

end Number

end InfraPolicy
