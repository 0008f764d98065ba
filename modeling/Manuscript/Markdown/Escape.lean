import Manuscript.Markup.Reference
import Manuscript.Text.Unicode.Punctuation

/-!
# Escapes and references in Markdown

A backslash before ASCII punctuation gives the character itself. A reference gives a character by its
name or its number; a name needs its semicolon and must be known. In the attributes of components only
the names of HTML 4 are known.

## Main definitions

* `Markdown.reference?` — the reference at the start of a text
* `Markdown.unescape` — a text with its escapes and references resolved
* `Markdown.dereference` — the value of an attribute with its references resolved
-/

namespace Manuscript.Markdown

open Manuscript.Text.Unicode (isAsciiPunctuation)

/-- The character that a number in a reference stands for. Control characters other than those for
spaces and line endings, and what is no character, give the replacement character. -/
def characterOfNumber (n : Nat) : Char :=
  let isControl := n ≤ 8 || n = 0x0b || (0x0e ≤ n && n ≤ 0x1f) || (0x7f ≤ n && n ≤ 0x9f)
  if isControl || !(n.isValidChar) then Markup.replacementChar else Char.ofNat n

/-- The numeric reference in a base whose digits begin a text, and how many characters it takes with
its semicolon. -/
def numericReference? (base maxDigits : Nat) (digit? : Char → Option Nat) (cs : List Char) :
    Option (List Char × Nat) :=
  let digits := (cs.takeWhile fun c => (digit? c).isSome).filterMap digit?
  if digits.isEmpty || digits.length > maxDigits || cs[digits.length]? ≠ some ';' then none
  else some ([characterOfNumber (Text.ofDigitValues base digits)], digits.length + 1)

/-- The names of HTML 4 that still stand for the same text. -/
def basicNames : List String := [
  "nbsp", "iexcl", "cent", "pound", "curren", "yen", "brvbar", "sect", "uml", "copy", "ordf",
  "laquo", "not", "shy", "reg", "macr", "deg", "plusmn", "sup2", "sup3", "acute", "micro", "para",
  "middot", "cedil", "sup1", "ordm", "raquo", "frac14", "frac12", "frac34", "iquest", "Agrave",
  "Aacute", "Acirc", "Atilde", "Auml", "Aring", "AElig", "Ccedil", "Egrave", "Eacute", "Ecirc",
  "Euml", "Igrave", "Iacute", "Icirc", "Iuml", "ETH", "Ntilde", "Ograve", "Oacute", "Ocirc",
  "Otilde", "Ouml", "times", "Oslash", "Ugrave", "Uacute", "Ucirc", "Uuml", "Yacute", "THORN",
  "szlig", "agrave", "aacute", "acirc", "atilde", "auml", "aring", "aelig", "ccedil", "egrave",
  "eacute", "ecirc", "euml", "igrave", "iacute", "icirc", "iuml", "eth", "ntilde", "ograve",
  "oacute", "ocirc", "otilde", "ouml", "divide", "oslash", "ugrave", "uacute", "ucirc", "uuml",
  "yacute", "thorn", "yuml", "fnof", "Alpha", "Beta", "Gamma", "Delta", "Epsilon", "Zeta", "Eta",
  "Theta", "Iota", "Kappa", "Lambda", "Mu", "Nu", "Xi", "Omicron", "Pi", "Rho", "Sigma", "Tau",
  "Upsilon", "Phi", "Chi", "Psi", "Omega", "alpha", "beta", "gamma", "delta", "epsilon", "zeta",
  "eta", "theta", "iota", "kappa", "lambda", "mu", "nu", "xi", "omicron", "pi", "rho", "sigmaf",
  "sigma", "tau", "upsilon", "phi", "chi", "psi", "omega", "thetasym", "upsih", "piv", "bull",
  "hellip", "prime", "Prime", "oline", "frasl", "weierp", "image", "real", "trade", "alefsym",
  "larr", "uarr", "rarr", "darr", "harr", "crarr", "lArr", "uArr", "rArr", "dArr", "hArr", "forall",
  "part", "exist", "empty", "nabla", "isin", "notin", "ni", "prod", "sum", "minus", "lowast",
  "radic", "prop", "infin", "ang", "and", "or", "cap", "cup", "int", "there4", "sim", "cong",
  "asymp", "ne", "equiv", "le", "ge", "sub", "sup", "nsub", "sube", "supe", "oplus", "otimes",
  "perp", "sdot", "lceil", "rceil", "lfloor", "rfloor", "loz", "spades", "clubs", "hearts", "diams",
  "quot", "amp", "lt", "gt", "OElig", "oelig", "Scaron", "scaron", "Yuml", "circ", "tilde", "ensp",
  "emsp", "thinsp", "zwnj", "zwj", "lrm", "rlm", "ndash", "mdash", "lsquo", "rsquo", "sbquo",
  "ldquo", "rdquo", "bdquo", "dagger", "Dagger", "permil", "lsaquo", "rsaquo", "euro"]

/-- The text that a name stands for. -/
def textOfName? (name : String) : Option String := Markup.namedReference? (name ++ ";")

/-- The text that a name of HTML 4 stands for; the angle brackets are those of that time. -/
def textOfBasicName? (name : String) : Option String :=
  if name = "lang" then some "\u3008"
  else if name = "rang" then some "\u3009"
  else if basicNames.contains name then textOfName? name
  else none

/-- The text of the reference behind an ampersand, and how many characters it takes there. `named` gives
the text that a name stands for. -/
def reference? (named : String → Option String) : List Char → Option (List Char × Nat)
  | '#' :: 'x' :: cs | '#' :: 'X' :: cs =>
    (numericReference? 16 6 Text.hexValue? cs).map fun (text, n) => (text, n + 2)
  | '#' :: cs => (numericReference? 10 7 Text.digitValue? cs).map fun (text, n) => (text, n + 1)
  | cs =>
    let name := (cs.take 32).takeWhile Char.isAlphanum
    if name.isEmpty || name.length > 31 || cs[name.length]? ≠ some ';' then none
    else (named (String.ofList name)).map fun text => (text.toList, name.length + 1)

/-- A text with its references resolved, and also its escapes if `escapes`. The first `skip` characters
have been used already. -/
def resolveFrom (named : String → Option String) (escapes : Bool) (skip : Nat) :
    List Char → List Char
  | [] => []
  | c :: rest =>
    match skip with
    | k + 1 => resolveFrom named escapes k rest
    | 0 =>
      if c = '&' then
        match reference? named rest with
        | some (text, n) => text ++ resolveFrom named escapes n rest
        | none => c :: resolveFrom named escapes 0 rest
      else if escapes && c = '\\' then
        match rest.head? with
        | some d =>
          if isAsciiPunctuation d then d :: resolveFrom named escapes 1 rest
          else c :: resolveFrom named escapes 0 rest
        | none => [c]
      else c :: resolveFrom named escapes 0 rest

/-- The value of an attribute of a component with its references resolved. -/
def dereference (text : String) : String :=
  String.ofList (resolveFrom textOfBasicName? false 0 text.toList)

/-- A text with its escapes and references resolved. -/
def unescape (text : String) : String :=
  String.ofList (resolveFrom textOfName? true 0 text.toList)

end Manuscript.Markdown
