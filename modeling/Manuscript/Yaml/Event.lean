import Manuscript.Yaml.Token

/-!
# The structure of YAML

The tokens of a text are read as a sequence of events: scalars, aliases, and the beginnings and ends of
collections and documents. Reading keeps a stack of goals, which say what has to come next; every step
takes the uppermost goal, may use some tokens, gives at most one event and leaves goals in its place.

## Main definitions

* `Yaml.Event` — the events
* `Yaml.Goal` — what has to come next
* `Yaml.Events.ofTokens` — the events of a text up to its first fault
-/

namespace Manuscript.Yaml

/-- The anchor and the tag of a node. -/
structure Properties where
  /-- The anchor. -/
  anchor : Option String := none
  /-- The tag, with its handle replaced. -/
  tag : Option String := none
  deriving DecidableEq, Repr, Inhabited

/-- An event. -/
inductive Event where
  /-- A document ends. -/
  | documentEnd
  /-- The text ends. -/
  | streamEnd
  /-- A reference to an anchor. -/
  | aliasOf (name : String)
  /-- A scalar, and whether it is plain. -/
  | scalar (properties : Properties) (text : String) (plain : Bool)
  /-- A sequence begins. -/
  | sequenceStart (properties : Properties)
  /-- A sequence ends. -/
  | sequenceEnd
  /-- A mapping begins. -/
  | mappingStart (properties : Properties)
  /-- A mapping ends. -/
  | mappingEnd
  deriving DecidableEq, Repr, Inhabited

/-- An event and where it begins. -/
abbrev PlacedEvent := Event × Mark

/-- What has to come next. The items of collections know where their collection began. -/
inductive Goal where
  /-- A document, which may begin without a line that says so, or the end of the text. -/
  | firstDocument
  /-- A document that begins with a line that says so, or the end of the text. -/
  | document
  /-- What a document consists of. -/
  | documentContent
  /-- The end of a document. -/
  | documentEnd
  /-- A node. -/
  | node
  /-- An item of an indented sequence. -/
  | blockItem (start : Mark)
  /-- An item of a sequence that is not indented deeper than the key it belongs to. -/
  | flatItem
  /-- A key of an indented mapping. -/
  | blockKey (start : Mark)
  /-- The value of a key of an indented mapping. -/
  | blockValue (start : Mark)
  /-- An item of a sequence in brackets. -/
  | flowItem (first : Bool) (start : Mark)
  /-- The key of a mapping that is one item of a sequence in brackets. -/
  | pairKey (start : Mark)
  /-- The value of such a key. -/
  | pairValue (start : Mark)
  /-- The end of such a mapping. -/
  | pairEnd (start : Mark)
  /-- A key of a mapping in braces. -/
  | flowKey (first : Bool) (start : Mark)
  /-- The value of a key of a mapping in braces. -/
  | flowValue (start : Mark)
  /-- The value of a key that no colon follows. -/
  | noValue (start : Mark)
  deriving DecidableEq, Repr, Inhabited

/-- A structure in the middle of being read. -/
structure Reading where
  /-- The tokens that are left. -/
  tokens : List PlacedToken
  /-- What follows them. -/
  fault : Option Fault
  /-- The prefixes for tags with a handle that the current document declares. -/
  handles : List (String × String) := []
  /-- What has to come next. -/
  goals : List Goal := [.firstDocument]
  deriving Repr

/-- One step: the event it gives and the reading after it. -/
abbrev Step := Except Fault (Option PlacedEvent × Reading)

namespace Reading

/-- The next token; a fault if it could not be read. -/
def peek (r : Reading) : Except Fault PlacedToken :=
  match r.tokens with
  | t :: _ => .ok t
  | [] => .error (r.fault.getD (.malformed .noNode {} none))

/-- The reading after the next token. -/
def skip (r : Reading) : Reading := { r with tokens := r.tokens.drop 1 }

/-- The reading with more goals before the others. -/
def expect (r : Reading) (goals : List Goal) : Reading := { r with goals := goals ++ r.goals }

/-- A step that gives an event. -/
def emit (r : Reading) (e : Event) (mark : Mark) : Step := .ok (some (e, mark), r)

/-- A step that gives an empty scalar. -/
def emitEmpty (r : Reading) (mark : Mark) : Step := r.emit (.scalar {} "" true) mark

/-! ### Documents -/

/-- The handles that are always declared. -/
def standardHandles : List (String × String) := [("!", "!"), ("!!", "tag:yaml.org,2002:")]

/-- Reads directives; `version` says whether one has given the version. -/
def directives (version : Bool) (declared : List (String × String)) :
    List PlacedToken → Except Fault (List (String × String) × List PlacedToken)
  | (.version major minor, mark) :: rest =>
    if version then .error (.malformed .secondVersion mark none)
    else if major ≠ 1 || (minor ≠ 1 && minor ≠ 2) then .error (.malformed .badVersion mark none)
    else directives true declared rest
  | (.tagHandle handle expansion, mark) :: rest =>
    if (declared.lookup handle).isSome then .error (.malformed .secondTagHandle mark none)
    else directives version (declared ++ [(handle, expansion)]) rest
  | rest => .ok (declared, rest)

/-- Begins a document whose first line says so. -/
def beginDocument (r : Reading) : Step := do
  let (handles, tokens) ← directives false [] r.tokens
  let r := { r with tokens, handles := handles ++ standardHandles }
  let (token, mark) ← r.peek
  if token = .documentStart then
    pure (none, r.skip.expect [.documentContent, .documentEnd, .document])
  else .error (.malformed .noDocumentStart mark none)

/-- Begins the first document or ends the text. -/
def beginFirst (r : Reading) : Step := do
  let (token, mark) ← r.peek
  match token with
  | .version _ _ | .tagHandle _ _ | .documentStart => r.beginDocument
  | .streamEnd => r.emit .streamEnd mark
  | _ =>
    pure (none, { r with handles := standardHandles }.expect [.node, .documentEnd, .document])

/-- Begins another document or ends the text. -/
def beginNext (r : Reading) : Step := do
  let r := { r with tokens := r.tokens.dropWhile fun (t, _) => t = Token.documentEnd }
  let (token, mark) ← r.peek
  if token = .streamEnd then r.emit .streamEnd mark else r.beginDocument

/-- What a document consists of: a node, or nothing. -/
def content (r : Reading) : Step := do
  let (token, mark) ← r.peek
  match token with
  | .version _ _ | .tagHandle _ _ | .documentStart | .documentEnd | .streamEnd => r.emitEmpty mark
  | _ => pure (none, r.expect [.node])

/-- The end of a document, with a line that says so or without. -/
def endDocument (r : Reading) : Step := do
  let (token, mark) ← r.peek
  (if token = .documentEnd then r.skip else r).emit .documentEnd mark

/-! ### Nodes -/

/-- The properties of a node as they are written: an anchor and a tag in any order. -/
structure WrittenProperties where
  /-- The anchor. -/
  anchor : Option String := none
  /-- The tag and its place. -/
  tag : Option (String × String × Mark) := none
  /-- Where they begin. -/
  start : Mark

/-- Reads the properties of a node. -/
def properties (r : Reading) : Except Fault (WrittenProperties × Reading) := do
  match ← r.peek with
  | (.anchor name, start) =>
    let r := r.skip
    match ← r.peek with
    | (.tag handle suffix, mark) =>
      pure (⟨some name, some (handle, suffix, mark), start⟩, r.skip)
    | _ => pure (⟨some name, none, start⟩, r)
  | (.tag handle suffix, start) =>
    let r := r.skip
    match ← r.peek with
    | (.anchor name, _) => pure (⟨some name, some (handle, suffix, start), start⟩, r.skip)
    | _ => pure (⟨none, some (handle, suffix, start), start⟩, r)
  | (_, start) => pure (⟨none, none, start⟩, r)

/-- Replaces the handle of a tag. -/
def resolveTag (r : Reading) (p : WrittenProperties) : Except Fault Properties :=
  match p.tag with
  | none => .ok ⟨p.anchor, none⟩
  | some ("", name, _) => .ok ⟨p.anchor, some name⟩
  | some (handle, name, mark) =>
    match r.handles.lookup handle with
    | some expansion => .ok ⟨p.anchor, some (expansion ++ name)⟩
    | none => failAt .node p.start .unknownHandle mark

/-- A scalar whose tag is nothing but an exclamation mark has none. -/
def scalarProperties (p : Properties) : Properties :=
  if p.tag = some "!" then { p with tag := none } else p

/-- Reads a node. Block collections count only where `block` says so, and a sequence that is not
indented only where `flat` does. -/
def node (r : Reading) (block flat : Bool) : Step := do
  match ← r.peek with
  | (.aliasOf name, mark) => r.skip.emit (.aliasOf name) mark
  | _ =>
    let (written, r) ← r.properties
    let p ← r.resolveTag written
    let start := written.start
    let (token, mark) ← r.peek
    match token with
    | .scalar text plain => r.skip.emit (.scalar (scalarProperties p) text plain) start
    | .flowSequenceStart =>
      (r.skip.expect [.flowItem true mark]).emit (.sequenceStart p) start
    | .flowMappingStart => (r.skip.expect [.flowKey true mark]).emit (.mappingStart p) start
    | _ =>
      if flat && token = .blockEntry then (r.expect [.flatItem]).emit (.sequenceStart p) start
      else if block && token = .blockSequenceStart then
        (r.skip.expect [.blockItem mark]).emit (.sequenceStart p) start
      else if block && token = .blockMappingStart then
        (r.skip.expect [.blockKey mark]).emit (.mappingStart p) start
      else if p.anchor.isSome || p.tag.isSome then r.emit (.scalar p "" true) start
      else failAt (if block then .blockNode else .flowNode) start .noNode mark

/-! ### Blocks -/

/-- Reads an item of an indented sequence, or its end. -/
def blockItem (r : Reading) (start : Mark) : Step := do
  match ← r.peek with
  | (.blockEntry, mark) =>
    let r := r.skip.expect [.blockItem start]
    match ← r.peek with
    | (.blockEntry, _) | (.blockEnd, _) => r.emitEmpty mark
    | _ => r.node true false
  | (.blockEnd, mark) => r.skip.emit .sequenceEnd mark
  | (_, mark) => failAt .blockSequence start .noBlockEntry mark

/-- Reads an item of a sequence that is not indented, or its end. -/
def flatItem (r : Reading) : Step := do
  match ← r.peek with
  | (.blockEntry, mark) =>
    let r := r.skip.expect [.flatItem]
    match ← r.peek with
    | (.blockEntry, _) | (.key, _) | (.value, _) | (.blockEnd, _) => r.emitEmpty mark
    | _ => r.node true false
  | (_, mark) => r.emit .sequenceEnd mark

/-- Reads what follows the indicator of a key or value in an indented mapping. -/
def blockPart (r : Reading) (mark : Mark) : Step := do
  match ← r.peek with
  | (.key, _) | (.value, _) | (.blockEnd, _) => r.emitEmpty mark
  | _ => r.node true true

/-- Reads a key of an indented mapping, or the end of the mapping. -/
def blockKey (r : Reading) (start : Mark) : Step := do
  match ← r.peek with
  | (.key, mark) => (r.skip.expect [.blockValue start]).blockPart mark
  | (.blockEnd, mark) => r.skip.emit .mappingEnd mark
  | (_, mark) => failAt .blockMapping start .noBlockKey mark

/-- Reads the value of a key of an indented mapping. -/
def blockValue (r : Reading) (start : Mark) : Step := do
  let r := r.expect [.blockKey start]
  match ← r.peek with
  | (.value, mark) => r.skip.blockPart mark
  | (_, mark) => r.emitEmpty mark

/-! ### Flows -/

/-- Uses the comma that has to stand before an item that is not the first, unless the collection ends. -/
def comma (r : Reading) (first : Bool) (closing : Token) (activity : Activity) (start : Mark)
    (problem : Problem) : Except Fault Reading := do
  match ← r.peek with
  | (token, mark) =>
    if first || token = closing then pure r
    else if token = .flowEntry then pure r.skip
    else failAt activity start problem mark

/-- Reads an item of a sequence in brackets, or its end. -/
def flowItem (r : Reading) (first : Bool) (start : Mark) : Step := do
  let r ← r.comma first .flowSequenceEnd .flowSequence start .noSequenceComma
  match ← r.peek with
  | (.flowSequenceEnd, mark) => r.skip.emit .sequenceEnd mark
  | (.key, mark) => (r.skip.expect [.pairKey start]).emit (.mappingStart {}) mark
  | _ => (r.expect [.flowItem false start]).node false false

/-- Reads the key of a mapping that is one item of a sequence. Where the key is missing, the token that
shows this is not read again. -/
def pairKey (r : Reading) (start : Mark) : Step := do
  let r := r.expect [.pairValue start]
  match ← r.peek with
  | (.value, mark) | (.flowEntry, mark) | (.flowSequenceEnd, mark) => r.skip.emitEmpty mark
  | _ => r.node false false

/-- Reads the value of such a key. -/
def pairValue (r : Reading) (start : Mark) : Step := do
  let r := r.expect [.pairEnd start]
  match ← r.peek with
  | (.value, _) =>
    let r := r.skip
    match ← r.peek with
    | (.flowEntry, mark) | (.flowSequenceEnd, mark) => r.emitEmpty mark
    | _ => r.node false false
  | (_, mark) => r.emitEmpty mark

/-- Ends such a mapping. -/
def pairEnd (r : Reading) (start : Mark) : Step := do
  let (_, mark) ← r.peek
  (r.expect [.flowItem false start]).emit .mappingEnd mark

/-- Reads a key of a mapping in braces, or the end of the mapping. -/
def flowKey (r : Reading) (first : Bool) (start : Mark) : Step := do
  let r ← r.comma first .flowMappingEnd .flowMapping start .noMappingComma
  match ← r.peek with
  | (.flowMappingEnd, mark) => r.skip.emit .mappingEnd mark
  | (.key, _) =>
    let r := r.skip.expect [.flowValue start]
    match ← r.peek with
    | (.value, mark) | (.flowEntry, mark) | (.flowMappingEnd, mark) => r.emitEmpty mark
    | _ => r.node false false
  | _ => (r.expect [.noValue start]).node false false

/-- Reads the value of a key of a mapping in braces. -/
def flowValue (r : Reading) (start : Mark) : Step := do
  let r := r.expect [.flowKey false start]
  match ← r.peek with
  | (.value, _) =>
    let r := r.skip
    match ← r.peek with
    | (.flowEntry, mark) | (.flowMappingEnd, mark) => r.emitEmpty mark
    | _ => r.node false false
  | (_, mark) => r.emitEmpty mark

/-- Gives the empty value of a key that no colon follows. -/
def noValue (r : Reading) (start : Mark) : Step := do
  let (_, mark) ← r.peek
  (r.expect [.flowKey false start]).emitEmpty mark

/-- Reads what the uppermost goal asks for; `r` has the goals below it. -/
def reach (r : Reading) : Goal → Step
  | .firstDocument => r.beginFirst
  | .document => r.beginNext
  | .documentContent => r.content
  | .documentEnd => r.endDocument
  | .node => r.node true false
  | .blockItem start => r.blockItem start
  | .flatItem => r.flatItem
  | .blockKey start => r.blockKey start
  | .blockValue start => r.blockValue start
  | .flowItem first start => r.flowItem first start
  | .pairKey start => r.pairKey start
  | .pairValue start => r.pairValue start
  | .pairEnd start => r.pairEnd start
  | .flowKey first start => r.flowKey first start
  | .flowValue start => r.flowValue start
  | .noValue start => r.noValue start

end Reading

/-- The events of a text, up to its end or to a fault. -/
structure Events where
  /-- The events. -/
  events : List PlacedEvent
  /-- The fault that follows them. -/
  fault : Option Fault := none
  deriving Repr

namespace Events

/-- Reads the events that follow, `found` being those before them in reverse. -/
def ofReading : (fuel : Nat) → (found : List PlacedEvent) → Reading → Events
  | 0, found, _ => ⟨found.reverse, none⟩
  | fuel + 1, found, r =>
    match r.goals with
    | [] => ⟨found.reverse, none⟩
    | goal :: goals =>
      match { r with goals }.reach goal with
      | .error e => ⟨found.reverse, some e⟩
      | .ok (e, r) => ofReading fuel (e.toList ++ found) r

/-- The events of a text. Each token is used by one step, and after it there are at most eight more
that use none. -/
def ofTokens (t : Tokens) : Events :=
  ofReading (9 * (t.tokens.length + 2)) [] { tokens := t.tokens, fault := t.fault }

end Events

end Manuscript.Yaml
