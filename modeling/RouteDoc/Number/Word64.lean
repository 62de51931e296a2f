/-!
Numbers that fit into 64 bits, with or without a sign, and decimal digits as they are written.
-/

namespace RouteDoc

/-- The largest number that fits into 64 bits. -/
def largestWord64 : Nat := 18446744073709551615

/-- Whether a number fits into 64 bits with a sign. -/
def isSigned64 (number : Int) : Bool :=
  -9223372036854775808 ≤ number && number ≤ 9223372036854775807

/-- The value of decimal digits, if there is at least one and nothing else. -/
def decimal? (digits : List Char) : Option Nat :=
  if digits ≠ [] ∧ digits.all Char.isDigit then
    some (digits.foldl (fun value c => 10 * value + (c.toNat - 48)) 0)
  else none

/-- The number that a text stands for: decimal digits, perhaps after a plus sign. -/
def word64? (text : String) : Option Nat :=
  let number := match text.toList with
    | '+' :: digits => decimal? digits
    | digits => decimal? digits
  number.filter (· ≤ largestWord64)

end RouteDoc
