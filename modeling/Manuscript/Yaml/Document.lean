import Manuscript.Number.Shortest
import Manuscript.Text.Quoted
import Manuscript.Yaml.Event
import Manuscript.Yaml.Node

/-!
# YAML documents

The events of a document are put together to a node. Aliases stand for the node of their anchor; a tag
of the standard schema says how a scalar is to be read, any tag that begins with an exclamation mark
stays with the node. Keys may not be repeated, and there has to be just one document.

## Main definitions

* `Yaml.Error` — why there is no node
* `Yaml.Document.compose` — the node of a document
* `Yaml.read` — the node that a text stands for
-/

namespace Manuscript.Yaml

/-- A step from a node to a node in it. -/
inductive PathStep where
  /-- To an item of a sequence. -/
  | item (index : Nat)
  /-- To the value of a key. -/
  | value (key : String)
  /-- To the value of a key that is no scalar. -/
  | unnamedValue
  deriving DecidableEq, Repr

/-- The way from the document to a node, the last step first. -/
abbrev Path := List PathStep

/-- The wording of a path. -/
def Path.message : Path → String
  | [] => ""
  | .item n :: outer =>
    (if outer.isEmpty then "." else Path.message outer) ++ "[" ++ toString n ++ "]"
  | .value key :: outer => (if outer.isEmpty then "" else Path.message outer ++ ".") ++ key
  | .unnamedValue :: outer => (if outer.isEmpty then "" else Path.message outer ++ ".") ++ "?"

/-- What is wrong with a node. -/
inductive NodeProblem where
  /-- A mapping has a key twice. -/
  | repeatedKey (key : Node)
  /-- An integer is too large. -/
  | largeInteger (n : Plain.LargeInteger)
  /-- A scalar is not what its tag says. -/
  | notOfTag (text expected : String)
  deriving Repr

/-- How a repeated key is told. -/
def repeatedKeyText : Node → String
  | .null => "with null key"
  | .bool b => "with key `" ++ (if b then "true" else "false") ++ "`"
  | .int n => "with key " ++ toString n
  | .float .nan => "with key .nan"
  | .float (.infinite negative) => if negative then "with key -.inf" else "with key .inf"
  | .float (.finite negative m e) => "with key " ++ Binary64.generalText negative m e
  | .string s => "with key " ++ Text.inspect s
  | .sequence _ | .mapping _ | .tagged _ _ => "in YAML map"

/-- The wording of a problem. -/
def NodeProblem.message : NodeProblem → String
  | repeatedKey key => "duplicate entry " ++ repeatedKeyText key
  | largeInteger n => "invalid type: " ++ n.message ++ ", expected any YAML value"
  | notOfTag text expected =>
    "invalid value: string " ++ Text.inspect text ++ ", expected " ++ expected

/-- Why a text stands for no node. -/
inductive Error where
  /-- It is malformed. -/
  | malformed (fault : Fault)
  /-- An alias has no anchor. -/
  | unknownAnchor (mark : Mark)
  /-- A node is wrong. -/
  | badNode (problem : NodeProblem) (path : Path) (mark : Mark)
  /-- Collections are nested too deep. -/
  | tooDeep (mark : Mark)
  /-- Aliases stand for too much. -/
  | tooMuch
  /-- The events end early. -/
  | incomplete
  /-- There is more than one document. -/
  | manyDocuments
  deriving Repr

/-- The wording of an error. -/
def Error.message : Error → String
  | malformed fault => fault.message
  | unknownAnchor mark => "unknown anchor" ++ mark.suffix
  | badNode problem path mark =>
    (if path.isEmpty then "" else path.message ++ ": ") ++ problem.message ++ mark.suffix
  | tooDeep mark => "recursion limit exceeded" ++ mark.suffix
  | tooMuch => "repetition limit exceeded"
  | incomplete => "EOF while parsing a value"
  | manyDocuments =>
    "deserializing from YAML containing more than one document is not supported"

/-! ### The first document -/

/-- A document: its events, with the places that aliases stand for, and what is wrong after them. -/
structure Document where
  /-- The events. -/
  events : Array PlacedEvent := #[]
  /-- The number of an anchor by its name. -/
  anchors : List (String × Nat) := []
  /-- The position of the event of an anchor by its number. -/
  targets : List (Nat × Nat) := []
  /-- The number of the anchor of an alias by the position of its event. -/
  aliases : List (Nat × Nat) := []
  /-- What is wrong after the events. -/
  error : Option Error := none
  deriving Repr

namespace Document

/-- Adds an event. An anchor gets the number of the names known before it. -/
def add (d : Document) (e : PlacedEvent) (properties : Properties) : Document :=
  match properties.anchor with
  | none => { d with events := d.events.push e }
  | some name =>
    let number := d.anchors.length
    { d with
      events := d.events.push e
      anchors := (name, number) :: d.anchors.filter (·.1 ≠ name)
      targets := (number, d.events.size) :: d.targets }

/-- The first document, and whether another one follows. -/
def first (fault : Option Fault) (d : Document) : List PlacedEvent → Document × Bool
  | [] => ({ d with error := fault.map .malformed }, false)
  | (e, mark) :: rest =>
    match e with
    | .documentEnd =>
      (d, !(rest.head?.any fun e => e.1 = Event.streamEnd))
    | .streamEnd => (d, false)
    | .aliasOf name =>
      match d.anchors.lookup name with
      | some number =>
        first fault { d with
          events := d.events.push (e, mark)
          aliases := (d.events.size, number) :: d.aliases } rest
      | none => ({ d with error := some (.unknownAnchor mark) }, false)
    | .scalar p _ _ | .sequenceStart p | .mappingStart p => first fault (d.add (e, mark) p) rest
    | .sequenceEnd | .mappingEnd =>
      first fault { d with events := d.events.push (e, mark) } rest

/-! ### Composition -/

/-- How many collections may be nested. -/
def maxDepth : Nat := 128

/-- How far the composition is: the position of the next event, and how many aliases have been
followed. -/
structure Progress where
  /-- The position. -/
  position : Nat := 0
  /-- The aliases. -/
  jumps : Nat := 0
  deriving DecidableEq, Repr

/-- A tag that stays with its node: what follows the exclamation mark. -/
def customTag? (tag : Option String) : Option String :=
  match tag.map String.toList with
  | some ['!'] => some "!"
  | some ('!' :: name) => some (String.ofList name)
  | _ => none

/-- How a tag that stays is written: with one exclamation mark. -/
def tagName (tag : String) : String :=
  match tag.toList with
  | '!' :: c :: rest => "!" ++ String.ofList (c :: rest)
  | _ => "!" ++ tag

/-- What a scalar means that has a tag of the standard schema, or any other tag that does not stay. -/
def taggedScalar (tag text : String) : Except NodeProblem Node :=
  if tag = "tag:yaml.org,2002:bool" then
    match Plain.bool? text with
    | some b => .ok (.bool b)
    | none => .error (.notOfTag text "a boolean")
  else if tag = "tag:yaml.org,2002:int" then
    match Plain.integer? text with
    | some (.ok n) => .ok n
    | some (.error n) => .error (.largeInteger n)
    | none => .error (.notOfTag text "an integer")
  else if tag = "tag:yaml.org,2002:float" then
    match Plain.float? text with
    | some x => .ok (.float x)
    | none => .error (.notOfTag text "a float")
  else if tag = "tag:yaml.org,2002:null" then
    if Plain.isNull text then .ok .null else .error (.notOfTag text "null")
  else .ok (.string text)

/-- What a scalar means; a tag that stays has been dealt with. -/
def scalar (tag : Option String) (stays : Bool) (text : String) (plain : Bool) :
    Except NodeProblem Node :=
  match tag, stays with
  | some tag, false => taggedScalar tag text
  | _, _ =>
    if plain then (Plain.resolve text).mapError .largeInteger else .ok (.string text)

/-- The step to the value of the key that an event begins. -/
def keyStep : Event → PathStep
  | .scalar _ text _ => .value text
  | _ => .unnamedValue

variable (d : Document)

/-- The event at a position, or what is wrong there. -/
def event (position : Nat) : Except Error PlacedEvent :=
  match d.events[position]? with
  | some e => .ok e
  | none => .error (d.error.getD .incomplete)

mutual

/-- The node whose first event is next. `stays` says that its tag has been dealt with; `depth` is how
many more collections may be nested. -/
def node (depth : Nat) (path : Path) (stays : Bool) (fuel : Nat) (p : Progress) :
    Except Error (Node × Progress) :=
  match fuel with
  | 0 => .error .incomplete
  | fuel + 1 => do
    let (e, mark) ← d.event p.position
    let next := { p with position := p.position + 1 }
    let custom (properties : Properties) := if stays then none else customTag? properties.tag
    match e with
    | .aliasOf _ =>
      let jumps := p.jumps + 1
      if jumps > d.events.size * 100 then .error .tooMuch
      else
        match (d.aliases.lookup p.position).bind fun number => d.targets.lookup number with
        | none => .error (.unknownAnchor mark)
        | some target =>
          let (n, after) ← node depth path false fuel ⟨target, jumps⟩
          pure (n, { next with jumps := after.jumps })
    | .scalar properties text plain =>
      match custom properties with
      | some tag =>
        let (n, p) ← node depth path true fuel p
        pure (.tagged tag n, p)
      | none =>
        match scalar properties.tag stays text plain with
        | .ok n => pure (n, next)
        | .error problem => .error (.badNode problem path mark)
    | .sequenceStart properties =>
      match custom properties, depth with
      | some tag, _ =>
        let (n, p) ← node depth path true fuel p
        pure (.tagged tag n, p)
      | none, 0 => .error (.tooDeep mark)
      | none, depth + 1 =>
        let (ns, p) ← items depth path 0 fuel next
        pure (.sequence ns, p)
    | .mappingStart properties =>
      match custom properties, depth with
      | some tag, _ =>
        let (n, p) ← node depth path true fuel p
        pure (.tagged tag n, p)
      | none, 0 => .error (.tooDeep mark)
      | none, depth + 1 =>
        let (es, p) ← entries depth path mark [] fuel next
        pure (.mapping es, p)
    | .sequenceEnd | .mappingEnd | .documentEnd | .streamEnd => .error .incomplete
termination_by structural fuel

/-- The items of a sequence from a number on. -/
def items (depth : Nat) (path : Path) (number : Nat) (fuel : Nat) (p : Progress) :
    Except Error (List Node × Progress) :=
  match fuel with
  | 0 => .error .incomplete
  | fuel + 1 => do
    match ← d.event p.position with
    | (.sequenceEnd, _) => pure ([], { p with position := p.position + 1 })
    | _ =>
      let (n, p) ← node depth (.item number :: path) false fuel p
      let (ns, p) ← items depth path (number + 1) fuel p
      pure (n :: ns, p)
termination_by structural fuel

/-- The entries of a mapping that follow those that are known. -/
def entries (depth : Nat) (path : Path) (mark : Mark) (known : List (Node × Node)) (fuel : Nat)
    (p : Progress) : Except Error (List (Node × Node) × Progress) :=
  match fuel with
  | 0 => .error .incomplete
  | fuel + 1 => do
    match ← d.event p.position with
    | (.mappingEnd, _) => pure (known, { p with position := p.position + 1 })
    | (e, _) =>
      let (key, p) ← node depth path false fuel p
      if known.any fun entry => entry.1.same key then
        .error (.badNode (.repeatedKey key) path mark)
      else
        let (value, p) ← node depth (keyStep e :: path) false fuel p
        entries depth path mark (known ++ [(key, value)]) fuel p
termination_by structural fuel

end

/-- The node of a document; a document without events is null. Each collection that is nested may go
through all events. -/
def compose : Except Error Node :=
  if d.events.isEmpty && d.error.isNone then .ok .null
  else
    match d.node maxDepth [] false ((maxDepth + 2) * (2 * d.events.size + 4)) {} with
    | .error e => .error e
    | .ok (n, _) =>
      match d.error with
      | some e => .error e
      | none => .ok n

end Document

/-- The node that a text stands for. -/
def read (text : String) : Except Error Node :=
  let found := Events.ofTokens (Tokens.ofText text)
  let (d, more) := Document.first found.fault {} found.events
  match d.compose with
  | .error e => .error e
  | .ok n => if more then .error .manyDocuments else .ok n

end Manuscript.Yaml
