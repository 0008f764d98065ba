import Manuscript.Markdown.Glyph
import Manuscript.Text.Blank
import Manuscript.Text.Unicode.Punctuation

/-!
# Bare addresses

Addresses of the web that begin with a scheme or with `www.`, and mail addresses, are links without any
marks. Punctuation at the end belongs to the text around an address rather than to the address.

## Main definitions

* `Markdown.webAddress?`, `Markdown.wwwAddress?` — the address at the start of a text
* `Markdown.splitMail` — a text cut at the first mail address in it
-/

namespace Manuscript.Markdown

open Manuscript.Text.Unicode (isPunctuation)

/-! ### Trailing punctuation -/

/-- Whether nothing but punctuation comes before the next space, so that an address ends here. A
reference by name counts as punctuation; `bracket` says that a closing bracket stands before, after
which a link could go on. The first `skip` characters have been looked at. The end of the text counts as
a space unless the text is `bounded` by something else. -/
def isTrailFrom (bounded : Bool) (skip : Nat) (bracket : Bool) : List Glyph → Bool
  | [] => bracket || !bounded
  | g :: rest =>
    match skip with
    | k + 1 => isTrailFrom bounded k false rest
    | 0 =>
      if bracket && (g.char = '(' || g.char = '[') then true
      else if g.char = '<' || Text.isBlank g.char then true
      else if g.char = ']' then isTrailFrom bounded 0 true rest
      else if ['!', '"', '\'', ')', '*', ',', '.', ':', ';', '?', '_', '~'].contains g.char then
        isTrailFrom bounded 0 false rest
      else if g.char = '&' then
        let letters := (rest.takeWhile (·.char.isAlpha)).length
        if letters = 0 || !(rest[letters]?.any (·.char = ';')) then false
        else isTrailFrom bounded (letters + 1) false rest
      else false

/-- Whether an address ends before given text, which begins with punctuation. -/
def isTrail (bounded : Bool) (gs : List Glyph) : Bool := isTrailFrom bounded 0 false gs

/-! ### Domains and paths -/

/-- The characters of a domain at the start of a text, and what follows them. -/
def takeDomain (bounded : Bool) : List Glyph → List Glyph × List Glyph
  | [] => ([], [])
  | g :: rest =>
    let isPart :=
      if g.char = '.' || g.char = '_' then !isTrail bounded (g :: rest)
      else g.char = '-' || !(Text.isBlank g.char || isPunctuation g.char)
    if isPart then
      let (domain, after) := takeDomain bounded rest
      (g :: domain, after)
    else ([], g :: rest)

/-- Whether characters make a domain: there is a letter, a number or the like, and no underscore in the
last two parts. -/
def isDomain (domain : List Glyph) : Bool :=
  let cs := domain.map Glyph.char
  let last := cs.reverse.takeWhile (· ≠ '.')
  let beforeLast := (cs.reverse.drop (last.length + 1)).takeWhile (· ≠ '.')
  cs.any (fun c => c ≠ '.' && c ≠ '_' && c ≠ '-') && !last.contains '_' && !beforeLast.contains '_'

/-- The characters of a path at the start of a text, and what follows them; `opened` and `closed` count
the parentheses in it. -/
def takePath (bounded : Bool) (opened closed : Nat) : List Glyph → List Glyph × List Glyph
  | [] => ([], [])
  | g :: rest =>
    let isMark := ['!', '"', '&', '\'', ')', '*', ',', '.', ':', ';', '<', '?', ']', '_', '~'].contains
      g.char
    let stops :=
      if isMark then !(g.char = ')' && closed < opened) && isTrail bounded (g :: rest)
      else Text.isBlank g.char
    if stops then ([], g :: rest)
    else
      let opened := if g.char = '(' then opened + 1 else opened
      let closed := if g.char = ')' then closed + 1 else closed
      let (path, after) := takePath bounded opened closed rest
      (g :: path, after)

/-- The domain with its path at the start of a text. -/
def takeSite (bounded : Bool) (gs : List Glyph) : Option (List Glyph × List Glyph) :=
  let (domain, after) := takeDomain bounded gs
  if isDomain domain then
    let (path, after) := takePath bounded 0 0 after
    some (domain ++ path, after)
  else none

/-- The address with a scheme at the start of a text. No letter may stand before it. -/
def webAddress? (bounded : Bool) (previous : Option Char) (gs : List Glyph) :
    Option (String × List Glyph) := do
  let scheme := gs.takeWhile (·.char.isAlpha)
  let name := String.ofList (scheme.map (·.char.toLower))
  let after := gs.drop scheme.length
  if previous.any Char.isAlpha || (name ≠ "http" && name ≠ "https") ||
      (after.take 3).map Glyph.char ≠ [':', '/', '/'] then none
  else
    let (site, rest) ← takeSite bounded (after.drop 3)
    pure (textOf (scheme ++ after.take 3 ++ site), rest)

/-- The address that begins with `www.` at the start of a text. Only a space or one of a few marks may
stand before it. -/
def wwwAddress? (bounded : Bool) (previous : Option Char) (gs : List Glyph) :
    Option (String × List Glyph) := do
  let allowed := [' ', '\t', '\n', '\r', '(', '*', '_', '[', ']', '~']
  if !(previous.all allowed.contains) || (gs.take 4).map (·.char.toLower) ≠ ['w', 'w', 'w', '.'] ||
      (gs.drop 4).isEmpty then none
  else
    let (site, rest) ← takeSite bounded gs
    pure (textOf site, rest)

/-! ### Mail addresses -/

/-- Whether a character may stand in the local part of a bare mail address. -/
def isBareMailPart (c : Char) : Bool := c.isAlphanum || c = '+' || c = '-' || c = '.' || c = '_'

/-- The characters of a domain of a mail address; with `slashes`, of a path as well. -/
def takeMailDomain (slashes : Bool) : List Char → List Char
  | [] => []
  | c :: rest =>
    if c.isAlphanum || c = '-' || c = '_' || (c = '/' && slashes) ||
        (c = '.' && rest.head?.any Char.isAlphanum) then
      c :: takeMailDomain slashes rest
    else []

/-- The local part of a mail address before a sign `@`, given the characters before the sign, the last
one first: the part with a scheme before it, if there is one, the address up to the sign, and whether
the scheme allows slashes. -/
def mailStart (before : List Char) : Option (List Char × Bool × Bool) :=
  let part := before.takeWhile isBareMailPart
  let rest := before.drop part.length
  if part.isEmpty || rest.head? = some '/' then none
  else
    match rest with
    | ':' :: more =>
      let scheme := more.takeWhile Char.isAlphanum
      let name := String.ofList (scheme.reverse.map Char.toLower)
      if name = "mailto" || name = "xmpp" then some (part ++ ':' :: scheme, true, name = "xmpp")
      else some (part, false, false)
    | _ => some (part, false, false)

/-- A text cut at the first mail address in it: what stands before it, its text, where it leads, and
what follows it. The given characters, the last one first, stand before the rest. -/
def splitMailFrom (before : List Char) : List Char → Option (List Char × String × String × List Char)
  | [] => none
  | c :: rest =>
    let found :=
      if c = '@' then
        match mailStart before with
        | none => none
        | some (start, hasScheme, slashes) =>
          let domain := takeMailDomain slashes rest
          if domain.contains '.' && domain.getLast?.any Char.isAlpha then
            let text := String.ofList (start.reverse ++ '@' :: domain)
            some ((before.drop start.length).reverse, text,
              if hasScheme then text else "mailto:" ++ text, rest.drop domain.length)
          else none
      else none
    found.or (splitMailFrom (c :: before) rest)

/-- A text cut at the first mail address in it. -/
def splitMail (cs : List Char) : Option (List Char × String × String × List Char) :=
  splitMailFrom [] cs

end Manuscript.Markdown
