import Manuscript.Number.Binary64
import Manuscript.Text.Hex

/-!
# Decimal numerals

A numeral is an optional sign, digits with an optional fraction, of which one side may be missing,
and an optional exponent. It denotes the double-precision number nearest to it. The words `inf`,
`infinity` and `nan` are numerals too, in any case.

## Main definitions

* `Numeral.takeDigits` — the digits at the start of a text
* `Numeral.exponent?` — the exponent that ends a numeral
* `Binary64.ofText?` — the number that a text denotes
-/

namespace Manuscript

namespace Numeral

open Manuscript.Text (digitValue? ofDigitValues)

/-- The values of the digits at the start of a text, and what follows them. -/
def takeDigits : List Char → List Nat × List Char
  | [] => ([], [])
  | c :: rest =>
    match digitValue? c with
    | some d => let (ds, after) := takeDigits rest; (d :: ds, after)
    | none => ([], c :: rest)

/-- The sign at the start of a text (whether it is a minus), and what follows it. -/
def takeSign : List Char → Bool × List Char
  | '-' :: rest => (true, rest)
  | '+' :: rest => (false, rest)
  | cs => (false, cs)

/-- The value of the exponent that makes up a text: nothing, or `e` with an optional sign and at
least one digit. -/
def exponent? : List Char → Option Int
  | [] => some 0
  | c :: rest =>
    if c = 'e' || c = 'E' then
      let (negative, rest) := takeSign rest
      match takeDigits rest with
      | ([], _) => none
      | (ds, []) =>
        let n : Int := ofDigitValues 10 ds
        some (if negative then -n else n)
      | _ => none
    else none

/-- Digits with an optional fraction and exponent: all digits as one integer, and the power of ten of
the last one. -/
def decimal? (cs : List Char) : Option (Nat × Int) :=
  let (whole, rest) := takeDigits cs
  let (fraction, rest) := match rest with
    | '.' :: after => takeDigits after
    | _ => ([], rest)
  if whole.isEmpty && fraction.isEmpty then none
  else (exponent? rest).map fun e => (ofDigitValues 10 (whole ++ fraction), e - fraction.length)

end Numeral

/-- The number that a text denotes; `none` if it is no numeral. -/
def Binary64.ofText? (text : String) : Option Binary64 :=
  let (negative, body) := Numeral.takeSign text.toList
  let word := String.ofList (body.map Char.toLower)
  if word = "inf" || word = "infinity" then some (.infinite negative)
  else if word = "nan" then some .nan
  else (Numeral.decimal? body).map fun (digits, e) => Binary64.ofScientific negative digits e

end Manuscript
