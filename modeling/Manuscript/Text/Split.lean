/-!
# Splitting texts at a character

Lists such as `a; b; c` are cut at every separator, entries such as `key: value` at the first one.

## Main definitions

* `splitOn` — the pieces between the separators; there is one more of them than there are separators
* `splitFirst` — what stands before and after the first separator
* `stripPrefix` — what follows a given beginning
* `linesInclusive` — the lines of a text, each with the line feed that ends it
* `containsInfix` — whether one text occurs within another
-/

namespace Manuscript.Text

/-- The pieces of a text between the occurrences of a separator. -/
def splitOn (sep : Char) : List Char → List (List Char)
  | [] => [[]]
  | c :: rest =>
    match splitOn sep rest with
    | [] => [[c]]
    | piece :: pieces => if c = sep then [] :: piece :: pieces else (c :: piece) :: pieces

/-- What stands before and after the first separator; `none` without one. -/
def splitFirst (sep : Char) : List Char → Option (List Char × List Char)
  | [] => none
  | c :: rest =>
    if c = sep then some ([], rest)
    else (splitFirst sep rest).map fun (before, after) => (c :: before, after)

/-- What follows `start` in a text that begins with it. -/
def stripPrefix : List Char → List Char → Option (List Char)
  | [], cs => some cs
  | _ :: _, [] => none
  | p :: ps, c :: cs => if p = c then stripPrefix ps cs else none

/-- The lines of a text, each with the line feed that ends it; the last one may have none. -/
def linesInclusive : List Char → List (List Char)
  | [] => []
  | c :: rest =>
    if c = '\n' then ['\n'] :: linesInclusive rest
    else match linesInclusive rest with
      | [] => [[c]]
      | line :: lines => (c :: line) :: lines

/-- Whether `needle` occurs in a text. -/
def containsInfix (needle : List Char) : List Char → Bool
  | [] => needle.isEmpty
  | c :: rest => (stripPrefix needle (c :: rest)).isSome || containsInfix needle rest

/-- How often `needle` occurs in a text, counted from left to right without overlaps, when the next
`skip` characters belong to an occurrence already counted. -/
def countInfixFrom (needle : List Char) (skip : Nat) : List Char → Nat
  | [] => 0
  | c :: rest =>
    match skip with
    | k + 1 => countInfixFrom needle k rest
    | 0 =>
      if (stripPrefix needle (c :: rest)).isSome then
        1 + countInfixFrom needle (needle.length - 1) rest
      else countInfixFrom needle 0 rest

/-- How often a text that is not empty occurs in another, without overlaps. -/
def countInfix (needle : List Char) (cs : List Char) : Nat := countInfixFrom needle 0 cs

/-- Texts joined with a separator between neighbours. -/
def joinWith (sep : String) : List String → String
  | [] => ""
  | [last] => last
  | first :: rest => first ++ sep ++ joinWith sep rest

end Manuscript.Text
