/-!
The fewest decimal digits that tell a binary floating-point number from its neighbours.

A finite number is `mantissa * 2 ^ exponent`. It stands for the interval of numbers that round to
it, whose ends belong to it if the mantissa is even. For one digit, two digits and so on, the two
decimals next to the number are tried. The first that lies in the interval is the answer, and of
two the nearer one.
-/

namespace Roster.Decimal

/-- A positive number that 64 bits hold, as `mantissa * 2 ^ exponent`. -/
structure Binary where
  mantissa : Nat
  exponent : Int
  /-- The number below is only half as far away as the number above. -/
  atPower : Bool

/-- Takes the magnitude of a finite number apart. -/
def Binary.ofBits (bits : UInt64) : Binary :=
  let fraction := (bits &&& 0xFFFFFFFFFFFFF).toNat
  let biased := (bits >>> 52 &&& 0x7FF).toNat
  if biased = 0 then ⟨fraction, -1074, false⟩
  else ⟨0x10000000000000 + fraction, (biased : Int) - 1075, fraction = 0 && biased ≠ 1⟩

/-- Decimal digits without zeros at the end, the first of them before the point and the others
behind it, and a power of ten as a factor. -/
structure Digits where
  digits : List Char
  exponent : Int
  deriving DecidableEq

/-- The number and the ends of its interval, as numerators over one denominator. -/
structure Interval where
  low : Nat
  value : Nat
  high : Nat
  denominator : Nat
  closed : Bool

def Binary.interval (b : Binary) : Interval :=
  let up := (b.exponent - 2).toNat
  let down := (2 - b.exponent).toNat
  let scale (n : Nat) := n <<< up
  { low := scale (4 * b.mantissa - (if b.atPower then 1 else 2))
    value := scale (4 * b.mantissa)
    high := scale (4 * b.mantissa + 2)
    denominator := 1 <<< down
    closed := b.mantissa % 2 = 0 }

def powerOfTen (n : Nat) : Nat := Nat.pow 10 n

/-- The power of ten at or below the number. -/
def Interval.magnitude (i : Interval) : Int :=
  if i.denominator ≤ i.value then (Nat.toDigits 10 (i.value / i.denominator)).length - 1
  else
    let places := (Nat.toDigits 10 (i.denominator / i.value)).length
    if i.denominator ≤ i.value * powerOfTen (places - 1) then 1 - (places : Int) else -places

/-- Whether `n / m` lies in the interval. -/
def Interval.holds (i : Interval) (n m : Nat) : Bool :=
  let here := n * i.denominator
  if i.closed then i.low * m ≤ here && here ≤ i.high * m else i.low * m < here && here < i.high * m

/-- The better one of the two decimals with `count` digits next to the number, as a multiple of
`10 ^ (magnitude - count + 1)`. At equal distance the even multiple is better. -/
def Interval.candidate? (i : Interval) (magnitude : Int) (count : Nat) : Option Nat :=
  let step := magnitude - count + 1
  let top := i.value * powerOfTen (-step).toNat
  let bottom := i.denominator * powerOfTen step.toNat
  let below := top / bottom
  let holds (n : Nat) := i.holds (n * powerOfTen step.toNat) (powerOfTen (-step).toNat)
  let remainder := top % bottom
  let nearBelow := 2 * remainder < bottom || (2 * remainder = bottom && below % 2 = 0)
  match holds below, holds (below + 1) with
  | true, true => some (if nearBelow then below else below + 1)
  | true, false => some below
  | false, true => some (below + 1)
  | false, false => none

/-- Seventeen digits always suffice. -/
def Binary.digits (b : Binary) : Digits :=
  let i := b.interval
  let magnitude := i.magnitude
  let found := (List.range 17).findSome? fun n =>
    (i.candidate? magnitude (n + 1)).map fun multiple => (n + 1, multiple)
  match found with
  | none => ⟨['0'], 0⟩
  | some (count, multiple) =>
    let all := Nat.toDigits 10 multiple
    ⟨(all.reverse.dropWhile (· = '0')).reverse, magnitude + (all.length - count : Int)⟩

end Roster.Decimal
