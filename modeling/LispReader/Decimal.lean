/-!
# Doubles as decimals

A finite double stands for every real number that rounds to it. Of the decimals
among these reals, `Double.shortest` selects one with the fewest digits, and of
two such the one nearer to the value. All of it is exact arithmetic on natural
numbers.

A format that writes doubles has a few decisions to make once the digits are
known. They are gathered in one record, and `Layout.write` follows it.
-/

namespace LispReader.Decimal

/-- The absolute value of a finite double, `mantissa * 2 ^ exponent`. Just
above a power of two the next smaller double is only half as far away as the
next larger one: then `narrowBelow` holds. -/
structure Double where
  mantissa : Nat
  exponent : Int
  narrowBelow : Bool
deriving DecidableEq, Repr

/-- A decimal in `[0, 1)` with the given digits after the point, times `10 ^
scale`. -/
structure Digits where
  digits : List Char
  scale : Int
deriving DecidableEq, Repr

inductive Tie where
  | toEven
  | awayFromZero
deriving DecidableEq, Repr

def compareScaled (number : Nat) (power : Int) (other : Nat) (exponent : Int) :
    Ordering :=
  compare (number * Nat.pow 10 power.toNat * Nat.pow 2 (-exponent).toNat)
    (other * Nat.pow 2 exponent.toNat * Nat.pow 10 (-power).toNat)

namespace Double

/-- The absolute value of the finite double with these bits: eleven bits of
exponent and fifty-two of fraction below the sign. -/
def ofBits (bits : UInt64) : Double :=
  let exponent := ((bits >>> 52) &&& 0x7FF).toNat
  let fraction := (bits &&& 0xFFFFFFFFFFFFF).toNat
  if exponent = 0 then
    ⟨fraction, -1074, false⟩
  else
    ⟨Nat.pow 2 52 + fraction, (exponent : Int) - 1075, fraction = 0 && 1 <
        exponent⟩

/-- Whether `number * 10 ^ power` rounds to the value: it lies between the
points halfway to the two neighbours, which themselves count when the mantissa
is even. -/
def readsBack (value : Double) (number : Nat) (power : Int) : Bool :=
  let lower := 4 * value.mantissa - (if value.narrowBelow then 1 else 2)
  let upper := 4 * value.mantissa + 2
  let toLower := compareScaled number power lower (value.exponent - 2)
  let toUpper := compareScaled number power upper (value.exponent - 2)
  if value.mantissa % 2 = 0 then
    toLower != .lt && toUpper != .gt
  else
    toLower == .gt && toUpper == .lt

/-- The largest natural number whose product with `10 ^ power` does not exceed
the value. -/
def quotient (value : Double) (power : Int) : Nat :=
  (value.mantissa * Nat.pow 2 value.exponent.toNat * Nat.pow 10 (-power).toNat)
    /
    (Nat.pow 2 (-value.exponent).toNat * Nat.pow 10 power.toNat)

/-- The least power of ten above a value that is not zero. Its logarithm is
known from the length of the mantissa up to a small error, which exact
comparisons mend. -/
def scale (value : Double) : Int :=
  let estimate :=
    ((value.mantissa.log2 : Int) + value.exponent) * 30103 / 100000
  let above := [estimate, estimate + 1].find? fun power =>
    compareScaled 1 power value.mantissa value.exponent == .gt
  above.getD (estimate + 2)

/-- The multiple of `10 ^ power` that is next to the value and rounds to it,
the nearer one if the multiples on both sides do. -/
def neighbour? (value : Double) (tie : Tie) (power : Int) : Option Nat :=
  let below := value.quotient power
  match value.readsBack below power, value.readsBack (below + 1) power with
  | false, false => none
  | true, false => some below
  | false, true => some (below + 1)
  | true, true =>
      match compareScaled (2 * below + 1) power (2 * value.mantissa)
        value.exponent with
      | .gt => some below
      | .lt => some (below + 1)
      | .eq =>
          match tie with
          | .awayFromZero => some (below + 1)
          | .toEven => some (if below % 2 = 0 then below else below + 1)

def exact (value : Double) : Nat × Int :=
  if value.exponent < 0 then
    (value.mantissa * Nat.pow 5 (-value.exponent).toNat, value.exponent)
  else
    (value.mantissa * Nat.pow 2 value.exponent.toNat, 0)

end Double

def Digits.ofScaled (number : Nat) (power : Int) : Digits :=
  let digits := Nat.toDigits 10 number
  ⟨(digits.reverse.dropWhile (· = '0')).reverse, power + digits.length⟩

/-- The decimal with the fewest digits that rounds to a value other than zero.
Decimals of one digit are tried first, then of two, and so on to seventeen,
which always suffice. -/
def Double.shortest (value : Double) (tie : Tie) : Digits :=
  let scale := value.scale
  let found := (List.range 17).findSome? fun (count : Nat) =>
    let power := scale - 1 - (count : Int)
    (value.neighbour? tie power).map fun number => (number, power)
  let selected := found.getD value.exact
  Digits.ofScaled selected.1 selected.2

/-- The decisions of a format that writes doubles. Positional notation is used
for zero and when the leading digit counts a power of ten from `plainFrom` up
to but not including `plainBelow`. -/
structure Layout where
  plainFrom : Int
  plainBelow : Int
  /-- What stands between `e` and an exponent that is not negative. -/
  exponentPlus : String
  /-- Which of two equally near shortest decimals is written. -/
  tie : Tie
  infinity : String
  negativeInfinity : String
  notANumber : String

/-- Digits in positional notation, with at least one digit on each side of the
point. -/
def Digits.positional (decimal : Digits) : String :=
  let count : Int := decimal.digits.length
  if decimal.scale ≤ 0 then
    "0." ++ String.ofList (List.replicate (-decimal.scale).toNat '0' ++
        decimal.digits)
  else if decimal.scale < count then
    String.ofList (decimal.digits.take decimal.scale.toNat) ++ "." ++
      String.ofList (decimal.digits.drop decimal.scale.toNat)
  else
    String.ofList (decimal.digits ++
        List.replicate (decimal.scale - count).toNat '0') ++ ".0"

/-- Digits with a point after the first of them, if there are more, and a power
of ten. -/
def Digits.scientific (exponentPlus : String) (decimal : Digits) : String :=
  let exponent := decimal.scale - 1
  let leading := String.ofList (decimal.digits.take 1)
  let following := decimal.digits.drop 1
  let point := if following.isEmpty then "" else "." ++ String.ofList following
  let sign := if exponent < 0 then "-" else exponentPlus
  leading ++ point ++ "e" ++ sign ++ toString exponent.natAbs

def Layout.magnitude (layout : Layout) (value : Double) : String :=
  if value.mantissa = 0 then
    "0.0"
  else
    let decimal := value.shortest layout.tie
    if layout.plainFrom ≤ decimal.scale - 1 ∧
      decimal.scale - 1 < layout.plainBelow then
      decimal.positional
    else
      decimal.scientific layout.exponentPlus

def Layout.write (layout : Layout) (value : Float) : String :=
  let bits := value.toBits
  let negative := bits >>> 63 != 0
  if (bits >>> 52) &&& 0x7FF = 0x7FF then
    if bits &&& 0xFFFFFFFFFFFFF != 0 then layout.notANumber
    else if negative then layout.negativeInfinity
    else layout.infinity
  else
    (if negative then "-" else "") ++ layout.magnitude (Double.ofBits bits)

end LispReader.Decimal
