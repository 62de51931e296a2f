/-!
Numbers with a point and an exponent as they are written in decimals. Either may be left out, and
so may the digits on one side of the point.
-/

namespace RouteDoc

/-- Whether an exponent is written after its letter: digits, perhaps after a sign. -/
def isExponent (cs : List Char) : Bool :=
  let digits := match cs with
    | '+' :: rest | '-' :: rest => rest
    | _ => cs
  digits != [] && digits.all Char.isDigit

/-- Whether a number without a sign is written in decimals. -/
def isDecimal (cs : List Char) : Bool :=
  let units := cs.takeWhile Char.isDigit
  let afterUnits := cs.dropWhile Char.isDigit
  let (places, tail) := match afterUnits with
    | '.' :: rest => (rest.takeWhile Char.isDigit, rest.dropWhile Char.isDigit)
    | _ => ([], afterUnits)
  units ++ places != [] && match tail with
    | [] => true
    | c :: exponent => (c == 'e' || c == 'E') && isExponent exponent

end RouteDoc
