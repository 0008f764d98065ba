import Manuscript.Number.Binary64

/-!
# Shortest decimal text of a number

A finite value is written with the fewest decimal digits that read back as the value, and among
those with the digits nearest to it. A number reads back as the value when it lies in the interval
of numbers that round to it; the ends belong to the interval when the significand is even.

## Main definitions

* `Binary64.shortestDigits` — the digits and the position of the decimal point
* `Binary64.toText` — the text in positional notation, never with an exponent
-/

namespace Manuscript.Binary64

/-- The numbers that round to a finite value, in quarters of its last place: the value is
`4 * significand`, its neighbours are two (one, below a power of two) quarters away. -/
structure Interval where
  /-- The lower end, in quarters. -/
  low : Nat
  /-- The value, in quarters. -/
  mid : Nat
  /-- The upper end, in quarters. -/
  high : Nat
  /-- Whether the ends belong to the interval. -/
  closed : Bool

/-- The interval of the value `significand * 2 ^ exponent`. -/
def interval (significand : Nat) (exponent : Int) : Interval where
  low := 4 * significand - (if significand = Nat.pow 2 52 ∧ exponent > minExponent then 1 else 2)
  mid := 4 * significand
  high := 4 * significand + 2
  closed := significand % 2 == 0

/-- Whether the number `a / b` lies in the interval whose quarters are worth `c / d` each. -/
def Interval.contains (i : Interval) (a b c d : Nat) : Bool :=
  let x := a * d
  let lo := i.low * c * b
  let hi := i.high * c * b
  if i.closed then lo ≤ x && x ≤ hi else lo < x && x < hi

/-- How many digits `num / den` has before the decimal point, negatively the zeros that follow it
when there are none: `p` with `10 ^ (p - 1) ≤ num / den < 10 ^ p`. -/
def decimalPosition (num den : Nat) : Int :=
  let n : Int := (Nat.toDigits 10 num).length
  let d : Int := (Nat.toDigits 10 den).length
  let p := n - d
  -- `num / den` lies between `10 ^ (p - 1)` and `10 ^ (p + 1)`.
  let reached :=
    if p ≥ 0 then num ≥ den * Nat.pow 10 p.toNat else num * Nat.pow 10 (-p).toNat ≥ den
  if reached then p + 1 else p

/-- The shortest digits from a grid of `count` digits on, as an integer and the power of ten of its
last digit. -/
def shortestFrom (i : Interval) (num den c d : Nat) (position : Int) :
    (count fuel : Nat) → Nat × Int
  | count, 0 => (0, position - count)
  | count, fuel + 1 =>
    let power := position - count
    -- the grid is `a / b` for whole numbers of `10 ^ power`
    let (up, down) : Nat × Nat :=
      if power ≥ 0 then (Nat.pow 10 power.toNat, 1) else (1, Nat.pow 10 (-power).toNat)
    let below := num * down / (den * up)
    let above := below + 1
    let belowFits := i.contains (below * up) down c d
    let aboveFits := i.contains (above * up) down c d
    if belowFits || aboveFits then
      -- twice the distance to the lower neighbour against the width of the grid
      let twice := 2 * (num * down % (den * up))
      if belowFits && (!aboveFits || twice < den * up) then (below, power) else (above, power)
    else shortestFrom i num den c d position (count + 1) fuel

/-- The shortest digits of a positive finite value, as an integer and the power of ten of its last
digit. -/
def shortestDigits (significand : Nat) (exponent : Int) : Nat × Int :=
  let (num, den) := toRatio significand exponent
  let (c, d) := toRatio 1 (exponent - 2)
  shortestFrom (interval significand exponent) num den c d (decimalPosition num den) 1 18

/-- The digits of a number, followed or preceded by as many zeros as its decimal point needs. -/
def positional (digits : Nat) (power : Int) : String :=
  let cs := Nat.toDigits 10 digits
  match power with
  | .ofNat k => String.ofList (cs ++ List.replicate k '0')
  | .negSucc k =>
    let places := k + 1
    let cs := List.replicate (places + 1 - cs.length) '0' ++ cs
    -- zeros at the end stand for no digit
    let fraction := ((cs.drop (cs.length - places)).reverse.dropWhile (· == '0')).reverse
    let whole := cs.take (cs.length - places)
    String.ofList (if fraction.isEmpty then whole else whole ++ '.' :: fraction)

/-- The shortest text that reads back as the value, in positional notation. -/
def toText : Binary64 → String
  | .nan => "NaN"
  | .infinite negative => if negative then "-inf" else "inf"
  | .finite negative m e =>
    let digits :=
      if m = 0 then "0"
      else
        let (n, power) := shortestDigits m e
        positional n power
    if negative then "-" ++ digits else digits

/-- The shortest text of a finite value that shows it is not written as an integer: positional between
`1e-5` and `1e16`, with `.0` when there is no fraction, else with an exponent. -/
def generalText (negative : Bool) (significand : Nat) (exponent : Int) : String :=
  let sign := if negative then "-" else ""
  if significand = 0 then sign ++ "0.0"
  else
    let (n, power) := shortestDigits significand exponent
    let cs := Nat.toDigits 10 n
    let position : Int := cs.length + power
    if -5 < position && position ≤ 16 then
      let text := positional n power
      sign ++ text ++ (if text.toList.contains '.' then "" else ".0")
    else
      let mantissa := match (cs.reverse.dropWhile (· == '0')).reverse with
        | [] => []
        | [c] => [c]
        | c :: rest => c :: '.' :: rest
      sign ++ String.ofList mantissa ++ "e" ++ toString (position - 1)

end Manuscript.Binary64
