/-!
# Signal levels

Signal levels are reported in tenths of a decibel below zero and kept as binary
floating-point numbers of single precision. A `Signal` is such a number, exactly : a sign,
a significand below `2 ^ 24` and a power of two. Products are rounded to the nearest
number with 24 significant bits, and a tie goes to the even one.
-/

namespace CellStation

/-- The number `n / 2 ^ places` rounded to the nearest integer; a tie goes to the even one. -/
def roundShift (n places : Nat) : Nat :=
  let unit := Nat.pow 2 places
  let quotient := n / unit
  let rest := n % unit
  if 2 * rest < unit then quotient
  else if unit < 2 * rest then quotient + 1
  else quotient + quotient % 2

/-- The number `± significand * 2 ^ exponent`; zero has a sign. -/
structure Signal where
  negative : Bool
  significand : Nat
  exponent : Int
  deriving DecidableEq, Repr

namespace Signal

/-- Positive zero, the level before any report. -/
def zero : Signal := ⟨false, 0, 0⟩

/-- Bits of a number. -/
def bitLength (n : Nat) : Nat := if n = 0 then 0 else n.log2 + 1

/-- A number with its significand rounded to 24 bits. -/
def round (negative : Bool) (n : Nat) (exponent : Int) : Signal :=
  let places := bitLength n - 24
  ⟨negative, roundShift n places, exponent + places⟩

/-- The number of single precision nearest to one tenth, negated. -/
def minusTenth : Signal := ⟨true, 13421773, -27⟩

/-- The level of a report in tenths of a decibel below zero. -/
def ofTenthsBelow (report : UInt16) : Signal :=
  round minusTenth.negative (report.toNat * minusTenth.significand) minusTenth.exponent

/-- The pattern of 32 bits of a level : sign, exponent plus 127, and the bits of the
significand behind its leading one. Levels are far from the ends of the exponent's range. -/
def bits (level : Signal) : UInt32 :=
  let sign := if level.negative then Nat.pow 2 31 else 0
  if level.significand = 0 then UInt32.ofNat sign
  else
    let length := bitLength level.significand
    let leading := level.significand * Nat.pow 2 (24 - length) / Nat.pow 2 (length - 24)
    let biased := level.exponent + length - 1 + 127
    UInt32.ofNat (sign + biased.toNat * Nat.pow 2 23 + (leading - Nat.pow 2 23))

/-- The level without decimals : its exact value rounded to the nearest integer, a tie to
the even one, with the sign kept for zero. -/
def text (level : Signal) : String :=
  let whole :=
    match level.exponent with
    | .ofNat places => level.significand * Nat.pow 2 places
    | .negSucc places => roundShift level.significand (places + 1)
  if level.negative then s!"-{whole}" else s!"{whole}"

end Signal

end CellStation
