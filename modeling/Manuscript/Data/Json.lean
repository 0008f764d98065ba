import Manuscript.Data.Value
import Manuscript.Number.Numeral
import Manuscript.Number.Shortest
import Manuscript.Text.Quoted
import Manuscript.Text.Split

/-!
# JSON texts

Reading a data value from a JSON text and writing it without spaces.

Integers of 64 bits are kept as they are. Every other number is a double-precision value: the first
digits, as many as make a 64-bit integer, are converted and then multiplied or divided by a power of
ten, with one rounding for each of these steps.

## Main definitions

* `Json.read?` — the value of a text
* `Json.write` — the compact text of a value
-/

namespace Manuscript.Json

open Manuscript.Text (digitValue? hexValue? ofDigitValues quote joinWith)

/-! ### Numbers -/

/-- The greatest unsigned 64-bit integer. -/
def maxUnsigned : Nat := Nat.pow 2 64 - 1

/-- Adds digits to a number until it would leave 64 bits: the number, and the digits left over. -/
def accumulate (n : Nat) : List Nat → Nat × List Nat
  | [] => (n, [])
  | d :: ds => if n * 10 + d > maxUnsigned then (n, d :: ds) else accumulate (n * 10 + d) ds

/-- Scales a value by a power of ten, at most 308 places at a time. -/
def scale (x : Binary64) (exponent : Int) : Binary64 :=
  let power (k : Nat) := Binary64.ofRatio false (Nat.pow 10 k) 1
  if exponent ≥ 0 then x.mul (power (min exponent.toNat 309))
  else if exponent ≥ -308 then x.div (power exponent.natAbs)
  else if exponent ≥ -700 then (x.div (power 308)).div (power (min (exponent.natAbs - 308) 308))
  else Binary64.zero (match x with | .finite s _ _ => s | _ => false)

/-- The value of a numeral with a fraction or an exponent, or with too many digits. -/
def float (negative : Bool) (whole fraction : List Nat) (exponent : Int) : Binary64 :=
  let (n, wholeLeft) := accumulate 0 whole
  let (n, fractionLeft) := accumulate n fraction
  let places : Int := fraction.length - fractionLeft.length
  scale (Binary64.ofRatio negative n 1) (exponent + wholeLeft.length - places)

/-- The number at the start of a text. -/
def readNumber (cs : List Char) : Option (Value × List Char) :=
  let (negative, cs) := match cs with
    | '-' :: rest => (true, rest)
    | _ => (false, cs)
  let (whole, rest) := Numeral.takeDigits cs
  match whole with
  | [] => none
  | 0 :: _ :: _ => none
  | _ =>
    let (hasFraction, fraction, rest) := match rest with
      | '.' :: after => let (ds, after) := Numeral.takeDigits after; (true, ds, after)
      | _ => (false, [], rest)
    let (hasExponent, exponent, rest) := match rest with
      | c :: after =>
        if c = 'e' || c = 'E' then
          let (minus, after) := Numeral.takeSign after
          let (ds, after) := Numeral.takeDigits after
          let n : Int := ofDigitValues 10 ds
          (true, if ds.isEmpty then none else some (if minus then -n else n), after)
        else (false, some 0, rest)
      | [] => (false, some 0, rest)
    match exponent with
    | none => none
    | some exponent =>
      if hasFraction && fraction.isEmpty then none
      else if hasFraction || hasExponent then
        some (.float (float negative whole fraction exponent), rest)
      else
        let n := ofDigitValues 10 whole
        let inRange := if negative then 0 < n && n ≤ Nat.pow 2 63 else n ≤ maxUnsigned
        let value := if inRange then .int (if negative then -n else n)
          else .float (float negative whole [] 0)
        some (value, rest)

/-! ### Texts -/

/-- The number that four hexadecimal digits denote. -/
def readHex4 : List Char → Option (Nat × List Char)
  | a :: b :: c :: d :: rest => do
    let ds ← [a, b, c, d].mapM hexValue?
    pure (ofDigitValues 16 ds, rest)
  | _ => none

/-- The character that an escape stands for, after its backslash. A surrogate must be the first of a
pair. -/
def readEscape : List Char → Option (Char × List Char)
  | '"' :: rest => some ('"', rest)
  | '\\' :: rest => some ('\\', rest)
  | '/' :: rest => some ('/', rest)
  | 'b' :: rest => some (Char.ofNat 8, rest)
  | 'f' :: rest => some (Char.ofNat 12, rest)
  | 'n' :: rest => some ('\n', rest)
  | 'r' :: rest => some ('\r', rest)
  | 't' :: rest => some ('\t', rest)
  | 'u' :: rest => do
    let (n, rest) ← readHex4 rest
    if 0xD800 ≤ n && n < 0xDC00 then
      match rest with
      | '\\' :: 'u' :: rest =>
        let (m, rest) ← readHex4 rest
        if 0xDC00 ≤ m && m < 0xE000 then
          pure (Char.ofNat (0x10000 + (n - 0xD800) * 0x400 + (m - 0xDC00)), rest)
        else none
      | _ => none
    else if 0xDC00 ≤ n && n < 0xE000 then none
    else pure (Char.ofNat n, rest)
  | _ => none

/-- The text up to the closing quote, in reverse after `acc`. -/
def readString (acc : List Char) : (fuel : Nat) → List Char → Option (String × List Char)
  | 0, _ => none
  | _, [] => none
  | fuel + 1, c :: rest =>
    if c = '"' then some (String.ofList acc.reverse, rest)
    else if c = '\\' then do
      let (d, rest) ← readEscape rest
      readString (d :: acc) fuel rest
    else if c.toNat < 0x20 then none
    else readString (c :: acc) fuel rest

/-- Skips the blanks that JSON allows between its tokens. -/
def skipBlanks (cs : List Char) : List Char :=
  cs.dropWhile fun c => c = ' ' || c = '\t' || c = '\n' || c = '\r'

/-! ### Values -/

mutual

/-- The value at the start of a text. -/
def readValue : (fuel : Nat) → List Char → Option (Value × List Char)
  | 0, _ => none
  | fuel + 1, cs =>
    match skipBlanks cs with
    | '"' :: rest => (readString [] (rest.length + 1) rest).map fun (s, rest) => (.string s, rest)
    | '[' :: rest =>
      match skipBlanks rest with
      | ']' :: rest => some (.list [], rest)
      | rest => (readItems fuel rest).map fun (items, rest) => (.list items, rest)
    | '\x7b' :: rest =>
      match skipBlanks rest with
      | '\x7d' :: rest => some (.object [], rest)
      | rest => (readFields fuel rest).map fun (fields, rest) => (Value.ofFields fields, rest)
    | 't' :: 'r' :: 'u' :: 'e' :: rest => some (.bool true, rest)
    | 'f' :: 'a' :: 'l' :: 's' :: 'e' :: rest => some (.bool false, rest)
    | 'n' :: 'u' :: 'l' :: 'l' :: rest => some (.null, rest)
    | rest => readNumber rest

/-- The items of a list up to its closing bracket. -/
def readItems : (fuel : Nat) → List Char → Option (List Value × List Char)
  | 0, _ => none
  | fuel + 1, cs => do
    let (item, rest) ← readValue fuel cs
    match skipBlanks rest with
    | ',' :: rest =>
      let (items, rest) ← readItems fuel rest
      pure (item :: items, rest)
    | ']' :: rest => pure ([item], rest)
    | _ => none

/-- The fields of an object up to its closing brace. -/
def readFields : (fuel : Nat) → List Char → Option (List (String × Value) × List Char)
  | 0, _ => none
  | fuel + 1, cs =>
    match skipBlanks cs with
    | '"' :: rest => do
      let (name, rest) ← readString [] (rest.length + 1) rest
      match skipBlanks rest with
      | ':' :: rest =>
        let (v, rest) ← readValue fuel rest
        match skipBlanks rest with
        | ',' :: rest =>
          let (fields, rest) ← readFields fuel rest
          pure ((name, v) :: fields, rest)
        | '\x7d' :: rest => pure ([(name, v)], rest)
        | _ => none
      | _ => none
    | _ => none

end

/-- The value of a JSON text; `none` if the text is malformed. -/
def read? (text : String) : Option Value :=
  let cs := text.toList
  match readValue (2 * cs.length + 2) cs with
  | some (v, rest) => if (skipBlanks rest).isEmpty then some v else none
  | none => none

/-- The text of a number that is not an integer; JSON has none for a value that is not finite. -/
def floatText : Binary64 → String
  | .finite negative m e => Binary64.generalText negative m e
  | _ => "null"

mutual

/-- The compact text of a value, its objects' fields in the order they are stored. -/
def write : Value → String
  | .null => "null"
  | .bool b => if b then "true" else "false"
  | .int n => toString n
  | .float x => floatText x
  | .string s => quote s
  | .list items => "[" ++ joinWith "," (writeItems items) ++ "]"
  | .object fields => "\x7b" ++ joinWith "," (writeFields fields) ++ "\x7d"

/-- The texts of the items of a list. -/
def writeItems : List Value → List String
  | [] => []
  | item :: rest => write item :: writeItems rest

/-- The texts of the fields of an object. -/
def writeFields : List (String × Value) → List String
  | [] => []
  | (name, v) :: rest => (quote name ++ ":" ++ write v) :: writeFields rest

end

end Manuscript.Json
