/-!
# Double-precision numbers

The values of the binary64 format as data: a finite value is a sign, a significand and a power of
two, and every operation is exact arithmetic followed by one rounding to nearest, ties to even.

## Main definitions

* `Binary64` — the values
* `Binary64.ofRatio` — the value nearest to a quotient of natural numbers
* `Binary64.ofScientific` — the value nearest to a decimal numeral
* `Binary64.mul`, `Binary64.div` — products and quotients
* `Binary64.isIntegral`, `Binary64.toInt64` — integral values and their conversion, which saturates
-/

namespace Manuscript

/-- A value of the binary64 format. A finite value is `± significand * 2 ^ exponent`, in the one form
whose significand is below `2 ^ 53` and whose exponent is the least possible. -/
inductive Binary64 where
  /-- Not a number. -/
  | nan
  /-- An infinity. -/
  | infinite (negative : Bool)
  /-- A finite value. -/
  | finite (negative : Bool) (significand : Nat) (exponent : Int)
  deriving DecidableEq, Repr, Inhabited

namespace Binary64

/-- The least exponent of a finite value. -/
def minExponent : Int := -1074

/-- The greatest exponent of a finite value. -/
def maxExponent : Int := 971

/-- Zero with a sign. -/
def zero (negative : Bool) : Binary64 := .finite negative 0 minExponent

/-- Divides `num / den` by `2 ^ e`: the quotient, the remainder, and what it is a remainder of. -/
def scaleDown (num den : Nat) (e : Int) : Nat × Nat × Nat :=
  match e with
  | .ofNat k =>
    let divisor := den * Nat.pow 2 k
    (num / divisor, num % divisor, divisor)
  | .negSucc k =>
    let dividend := num * Nat.pow 2 (k + 1)
    (dividend / den, dividend % den, den)

/-- The exponent at which `num / den` has a significand of 53 bits, or the least one. -/
def exponentFor (num den : Nat) : Int :=
  let e : Int := (num.log2 : Int) - den.log2 - 52
  let e := if (scaleDown num den e).1 < Nat.pow 2 52 then e - 1 else e
  max e minExponent

/-- Rounds a quotient up or down by its remainder; a tie goes to the even neighbour. -/
def roundHalfEven (quotient remainder divisor : Nat) : Nat :=
  if 2 * remainder > divisor || (2 * remainder == divisor && quotient % 2 == 1) then quotient + 1
  else quotient

/-- The value nearest to `num / den`, for a denominator that is not zero. -/
def ofRatio (negative : Bool) (num den : Nat) : Binary64 :=
  if num = 0 then zero negative
  else
    let e := exponentFor num den
    let (q, r, d) := scaleDown num den e
    let m := roundHalfEven q r d
    let (m, e) := if m = Nat.pow 2 53 then (Nat.pow 2 52, e + 1) else (m, e)
    if e > maxExponent then .infinite negative else .finite negative m e

/-- The value nearest to an integer. -/
def ofInt (n : Int) : Binary64 := ofRatio (n < 0) n.natAbs 1

/-- The value nearest to `digits * 10 ^ exponent`. Numerals beyond the range of the format are
recognised by their length first, so that no power is larger than the answer needs. -/
def ofScientific (negative : Bool) (digits : Nat) (exponent : Int) : Binary64 :=
  if digits = 0 then zero negative
  else
    let magnitude := exponent + (Nat.toDigits 10 digits).length
    if magnitude > 310 then .infinite negative
    else if magnitude < -330 then zero negative
    else match exponent with
      | .ofNat k => ofRatio negative (digits * Nat.pow 10 k) 1
      | .negSucc k => ofRatio negative digits (Nat.pow 10 (k + 1))

/-- The absolute value of `significand * 2 ^ exponent` as a quotient. -/
def toRatio (significand : Nat) (exponent : Int) : Nat × Nat :=
  match exponent with
  | .ofNat k => (significand * Nat.pow 2 k, 1)
  | .negSucc k => (significand, Nat.pow 2 (k + 1))

/-- The product, rounded. -/
def mul : Binary64 → Binary64 → Binary64
  | .finite s m e, .finite t n f =>
    let (a, b) := toRatio m e
    let (c, d) := toRatio n f
    ofRatio (s != t) (a * c) (b * d)
  | .nan, _ | _, .nan => .nan
  | .infinite s, .infinite t => .infinite (s != t)
  | .infinite s, .finite t n _ | .finite s n _, .infinite t =>
    if n = 0 then .nan else .infinite (s != t)

/-- The quotient, rounded. -/
def div : Binary64 → Binary64 → Binary64
  | .finite s m e, .finite t n f =>
    if n = 0 then (if m = 0 then .nan else .infinite (s != t))
    else
      let (a, b) := toRatio m e
      let (c, d) := toRatio n f
      ofRatio (s != t) (a * d) (b * c)
  | .nan, _ | _, .nan => .nan
  | .infinite _, .infinite _ => .nan
  | .infinite s, .finite t _ _ => .infinite (s != t)
  | .finite s _ _, .infinite t => zero (s != t)

/-- Whether the value is greater than zero. -/
def isPositive : Binary64 → Bool
  | .nan => false
  | .infinite negative => !negative
  | .finite negative m _ => !negative && m != 0

/-- Whether the value is an integer; neither an infinity nor not-a-number is one. -/
def isIntegral : Binary64 → Bool
  | .finite _ m e =>
    match e with
    | .ofNat _ => true
    | .negSucc k => m % Nat.pow 2 (k + 1) == 0
  | _ => false

/-- The integer part, toward zero, moved into the range of 64-bit integers. -/
def toInt64 : Binary64 → Int
  | .nan => 0
  | .infinite negative => if negative then -Int.pow 2 63 else Int.pow 2 63 - 1
  | .finite negative m e =>
    let (a, b) := toRatio m e
    let n : Int := a / b
    let n := if negative then -n else n
    min (max n (-Int.pow 2 63)) (Int.pow 2 63 - 1)

end Binary64

end Manuscript
