/-!
# Faults in YAML

A fault names the problem, the place where it was found and, for most problems, what was being read
and where that began.

## Main definitions

* `Yaml.Mark` — a place in the text
* `Yaml.Problem`, `Yaml.Activity` — what is wrong, and what was being read
* `Yaml.Fault.message` — the wording
-/

namespace Manuscript.Yaml

/-- A place in a text, all numbers counted from zero. -/
structure Mark where
  /-- The number of characters before it. -/
  index : Nat := 0
  /-- The number of lines before it. -/
  line : Nat := 0
  /-- The number of characters before it on its line. -/
  column : Nat := 0
  deriving DecidableEq, Repr, Inhabited

namespace Mark

/-- The place some characters further on the same line. -/
def forward (m : Mark) (count : Nat) : Mark := ⟨m.index + count, m.line, m.column + count⟩

/-- The beginning of the next line, which is `count` characters further on. -/
def nextLine (m : Mark) (count : Nat) : Mark := ⟨m.index + count, m.line + 1, 0⟩

/-- Whether a place is the beginning of the text. -/
def isOrigin (m : Mark) : Bool := m.line = 0 && m.column = 0

/-- The wording of a place, counted from one. -/
def message (m : Mark) : String :=
  "line " ++ toString (m.line + 1) ++ " column " ++ toString (m.column + 1)

/-- The place as the end of a sentence; the beginning of the text is not worth a mention. -/
def suffix (m : Mark) : String := if m.isOrigin then "" else " at " ++ m.message

end Mark

/-- What is wrong. -/
inductive Problem where
  /-- A character that begins nothing. -/
  | strayCharacter
  /-- A key that no colon follows on its line. -/
  | keyWithoutColon
  /-- A `-` where no block may begin. -/
  | entryNotAllowed
  /-- A `?` where no block may begin. -/
  | keyNotAllowed
  /-- A `:` where no block may begin. -/
  | valueNotAllowed
  /-- A directive of unknown name. -/
  | unknownDirective
  /-- Text after a directive or the head of a block scalar. -/
  | textAfterHead
  /-- A directive without a name. -/
  | noDirectiveName
  /-- A directive whose name holds a strange character. -/
  | badDirectiveName
  /-- A version without a number. -/
  | noVersionNumber
  /-- A version number of ten digits or more. -/
  | longVersionNumber
  /-- A version without a point. -/
  | noVersionPoint
  /-- Two parts of a directive that are not apart. -/
  | noBlank
  /-- A tag or prefix of a tag that goes on too long. -/
  | noBlankOrBreak
  /-- An anchor or alias of a bad name. -/
  | badAnchorName
  /-- A tag in angle brackets that is not closed. -/
  | noClosingAngle
  /-- A tag handle without an exclamation mark. -/
  | noExclamationMark
  /-- A tag without a name. -/
  | noTagName
  /-- A percent sign without two hexadecimal digits. -/
  | badOctet
  /-- An escaped octet that begins no character. -/
  | badLeadingOctet
  /-- An escaped octet that continues no character. -/
  | badTrailingOctet
  /-- An indentation of zero. -/
  | zeroIndentation
  /-- A tab in the indentation of a block scalar. -/
  | tabInBlock
  /-- A tab in the indentation of a plain scalar. -/
  | tabInPlain
  /-- A line that bounds a document, in a quoted scalar. -/
  | documentBoundary
  /-- The end of the text in a quoted scalar. -/
  | endOfStream
  /-- An unknown escape. -/
  | unknownEscape
  /-- An escape without its hexadecimal digits. -/
  | noHexDigits
  /-- An escape that stands for no character. -/
  | badCodePoint
  /-- A colon before a bracket or comma. -/
  | strayColon
  /-- A second version directive. -/
  | secondVersion
  /-- A version that is not supported. -/
  | badVersion
  /-- A second tag directive for a handle. -/
  | secondTagHandle
  /-- Directives that no document follows. -/
  | noDocumentStart
  /-- No node where one is needed. -/
  | noNode
  /-- A tag handle that no directive declares. -/
  | unknownHandle
  /-- Something else than an entry of a block sequence. -/
  | noBlockEntry
  /-- Something else than a key of a block mapping. -/
  | noBlockKey
  /-- Neither a comma nor the end of a flow sequence. -/
  | noSequenceComma
  /-- Neither a comma nor the end of a flow mapping. -/
  | noMappingComma
  deriving DecidableEq, Repr

/-- The wording of a problem. -/
def Problem.message : Problem → String
  | strayCharacter => "found character that cannot start any token"
  | keyWithoutColon => "could not find expected ':'"
  | entryNotAllowed => "block sequence entries are not allowed in this context"
  | keyNotAllowed => "mapping keys are not allowed in this context"
  | valueNotAllowed => "mapping values are not allowed in this context"
  | unknownDirective => "found unknown directive name"
  | textAfterHead => "did not find expected comment or line break"
  | noDirectiveName => "could not find expected directive name"
  | badDirectiveName => "found unexpected non-alphabetical character"
  | noVersionNumber => "did not find expected version number"
  | longVersionNumber => "found extremely long version number"
  | noVersionPoint => "did not find expected digit or '.' character"
  | noBlank => "did not find expected whitespace"
  | noBlankOrBreak => "did not find expected whitespace or line break"
  | badAnchorName => "did not find expected alphabetic or numeric character"
  | noClosingAngle => "did not find the expected '>'"
  | noExclamationMark => "did not find expected '!'"
  | noTagName => "did not find expected tag URI"
  | badOctet => "did not find URI escaped octet"
  | badLeadingOctet => "found an incorrect leading UTF-8 octet"
  | badTrailingOctet => "found an incorrect trailing UTF-8 octet"
  | zeroIndentation => "found an indentation indicator equal to 0"
  | tabInBlock => "found a tab character where an indentation space is expected"
  | tabInPlain => "found a tab character that violates indentation"
  | documentBoundary => "found unexpected document indicator"
  | endOfStream => "found unexpected end of stream"
  | unknownEscape => "found unknown escape character"
  | noHexDigits => "did not find expected hexdecimal number"
  | badCodePoint => "found invalid Unicode character escape code"
  | strayColon => "found unexpected ':'"
  | secondVersion => "found duplicate %YAML directive"
  | badVersion => "found incompatible YAML document"
  | secondTagHandle => "found duplicate %TAG directive"
  | noDocumentStart => "did not find expected <document start>"
  | noNode => "did not find expected node content"
  | unknownHandle => "found undefined tag handle"
  | noBlockEntry => "did not find expected '-' indicator"
  | noBlockKey => "did not find expected key"
  | noSequenceComma => "did not find expected ',' or ']'"
  | noMappingComma => "did not find expected ',' or '\x7d'"

/-- What was being read. -/
inductive Activity where
  /-- The search for the next token. -/
  | nextToken
  /-- A key that stands on one line. -/
  | simpleKey
  /-- A directive. -/
  | directive
  /-- A version directive. -/
  | versionDirective
  /-- A tag directive. -/
  | tagDirective
  /-- The handle of a tag directive, before its exclamation mark. -/
  | tagDirectiveHandle
  /-- The handle of a tag directive, after its exclamation mark. -/
  | tagDirectiveHandleEnd
  /-- The prefix of a tag directive. -/
  | tagDirectivePrefix
  /-- An anchor. -/
  | anchor
  /-- An alias. -/
  | aliasName
  /-- A tag. -/
  | tag
  /-- The name in a tag. -/
  | tagName
  /-- A block scalar. -/
  | blockScalar
  /-- A quoted scalar. -/
  | quotedScalar
  /-- An escape in a quoted scalar. -/
  | escape
  /-- A plain scalar. -/
  | plainScalar
  /-- A node with its properties. -/
  | node
  /-- A node in a block. -/
  | blockNode
  /-- A node within brackets. -/
  | flowNode
  /-- A block sequence. -/
  | blockSequence
  /-- A block mapping. -/
  | blockMapping
  /-- A sequence in brackets. -/
  | flowSequence
  /-- A mapping in braces. -/
  | flowMapping
  deriving DecidableEq, Repr

/-- The wording of an activity. -/
def Activity.message : Activity → String
  | nextToken => "while scanning for the next token"
  | simpleKey => "while scanning a simple key"
  | directive => "while scanning a directive"
  | versionDirective => "while scanning a %YAML directive"
  | tagDirective => "while scanning a %TAG directive"
  | tagDirectiveHandle => "while scanning a tag directive"
  | tagDirectiveHandleEnd => "while parsing a tag directive"
  | tagDirectivePrefix => "while parsing a %TAG directive"
  | anchor => "while scanning an anchor"
  | aliasName => "while scanning an alias"
  | tag => "while scanning a tag"
  | tagName => "while parsing a tag"
  | blockScalar => "while scanning a block scalar"
  | quotedScalar => "while scanning a quoted scalar"
  | escape => "while parsing a quoted scalar"
  | plainScalar => "while scanning a plain scalar"
  | node => "while parsing a node"
  | blockNode => "while parsing a block node"
  | flowNode => "while parsing a flow node"
  | blockSequence => "while parsing a block collection"
  | blockMapping => "while parsing a block mapping"
  | flowSequence => "while parsing a flow sequence"
  | flowMapping => "while parsing a flow mapping"

/-- Why a text is not YAML. -/
inductive Fault where
  /-- A character that may not stand in YAML, after so many bytes. -/
  | unreadable (bytes : Nat)
  /-- A problem at a place, and what was being read from where. -/
  | malformed (problem : Problem) (place : Mark) (context : Option (Activity × Mark))
  deriving DecidableEq, Repr

/-- The wording of a fault. The beginning of what was being read is told only if it is another place
than that of the problem. -/
def Fault.message : Fault → String
  | unreadable bytes =>
    "control characters are not allowed" ++
      (if bytes = 0 then "" else " at position " ++ toString bytes)
  | malformed problem place context =>
    problem.message ++ place.suffix ++
      match context with
      | none => ""
      | some (activity, start) =>
        ", " ++ activity.message ++
          (if start.line = place.line && start.column = place.column then "" else start.suffix)

end Manuscript.Yaml
