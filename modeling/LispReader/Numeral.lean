/-!
# Numerals

A word is a numeral when it is an optional sign followed by ASCII digits, with
at most one point somewhere after the first digit. With a point it denotes a
double, without one an integer.
-/

namespace LispReader

/-- The value of an integer literal: exact where sixty-four bits suffice,
otherwise the nearest double. -/
inductive IntegerValue where
  | exact (value : Int64)
  | approximate (value : Float)

/-- A numeral taken apart. The digits after the point are absent when there is
no point. -/
structure Numeral where
  negative : Bool
  whole : List Char
  fraction? : Option (List Char)
deriving DecidableEq, Repr

def isDecimalDigit (character : Char) : Bool :=
  '0' ≤ character && character ≤ '9'

/-- The number that a string of ASCII digits denotes in base ten. -/
def decimalValue (digits : List Char) : Nat :=
  digits.foldl (fun value digit => 10 * value + (digit.toNat - '0'.toNat)) 0

namespace Numeral

/-- Splits the sign off: whether it is a minus, and what follows it. -/
def splitSign : List Char → Bool × List Char
  | '-' :: rest => (true, rest)
  | '+' :: rest => (false, rest)
  | unsigned => (false, unsigned)

def ofChars? (word : List Char) : Option Numeral :=
  let (negative, unsigned) := splitSign word
  let whole := unsigned.takeWhile isDecimalDigit
  if whole.isEmpty then
    none
  else
    match unsigned.dropWhile isDecimalDigit with
    | [] => some ⟨negative, whole, none⟩
    | '.' :: fraction =>
        if fraction.all isDecimalDigit then
          some ⟨negative, whole, some fraction⟩ else none
    | _ :: _ => none

/-- The integer that the digits before the point denote, with its sign. -/
def integer (numeral : Numeral) : Int :=
  if numeral.negative then
    -(decimalValue numeral.whole : Int)
  else
    (decimalValue numeral.whole : Int)

/-- The double nearest to what the numeral denotes. A negative zero keeps its
sign. -/
def nearest (numeral : Numeral) : Float :=
  let fraction := numeral.fraction?.getD []
  let magnitude :=
    Float.ofScientific (decimalValue (numeral.whole ++ fraction)) true
      fraction.length
  if numeral.negative then -magnitude else magnitude

def integerValue (numeral : Numeral) : IntegerValue :=
  if Int64.minValue.toInt ≤ numeral.integer ∧
    numeral.integer ≤ Int64.maxValue.toInt then
    .exact (Int64.ofInt numeral.integer)
  else
    .approximate numeral.nearest

end Numeral

end LispReader
