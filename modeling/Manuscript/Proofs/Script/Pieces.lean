import Manuscript.Proofs.Script.Layout

/-!
# The pieces of a function body

A function body is text of the generator with the sources of the author's expressions in between,
each of them in parentheses. The pieces keep apart what the one and what the other wrote. Of the
sources that a tree has, those that are blank stand nowhere in its body, and neither do comments
among children.

## Main definitions

* `Piece`, `code` — the pieces of a script, and the script that they make
* `bodyPieces` — the pieces of the body of a tree
* `Authored`, `authored` — the expressions of a tree, in the order in which they are written

## Main results

* `code_bodyPieces` — the pieces make the body
* `embeddedSources_bodyPieces` — the sources among the pieces are those of the tree, trimmed
-/

namespace Manuscript.Script

open Manuscript.Text (joinWith trimmed)

/-- A piece of a script. -/
inductive Piece where
  /-- Text of the generator. -/
  | generated (text : String)
  /-- The source of an expression, which stands between parentheses. -/
  | embedded (source : String)
  deriving DecidableEq, Repr

/-- The text of a piece. -/
def Piece.code : Piece → String
  | .generated text => text
  | .embedded source => "(" ++ source ++ ")"

/-- The source of an expression that a piece holds. -/
def Piece.source? : Piece → Option String
  | .generated _ => none
  | .embedded source => some source

/-- The script that pieces make. -/
def code (pieces : List Piece) : String := String.join (pieces.map Piece.code)

/-- The sources of expressions among pieces. -/
def embeddedSources (pieces : List Piece) : List String := pieces.filterMap Piece.source?

/-- An expression of a document. -/
inductive Authored where
  /-- An expression among children. -/
  | child (source : String)
  /-- An expression as the value of an attribute. -/
  | value (source : String)
  deriving DecidableEq, Repr

/-- The source of an expression. -/
def Authored.source : Authored → String
  | .child source | .value source => source

/-- What stands between the parentheses for an expression: nothing if it is blank, and nothing for
a comment among children. -/
def Authored.emitted? : Authored → Option String
  | .child source =>
    if (trimmed source).isEmpty || isCommentOnly (trimmed source).toList then none
    else some (trimmed source)
  | .value source => if (trimmed source).isEmpty then none else some (trimmed source)

/-- Sources are emitted as they are, but for the blanks at their ends. -/
theorem trimmed_of_emitted? {e : Authored} {source : String} (h : e.emitted? = some source) :
    trimmed e.source = source := by
  cases e with
  | child text => exact Option.some.inj (Option.ite_none_left_eq_some.mp h).2
  | value text => exact Option.some.inj (Option.ite_none_left_eq_some.mp h).2

/-- The expression that an attribute holds. -/
def attributeExpression? (entry : String × AttributeValue) : Option Authored :=
  match entry.2 with
  | .expression source => some (.value source)
  | .text _ | .list _ => none

mutual

/-- The expressions of a tree, those of an element before those of its children. -/
def authored : Node → List Authored
  | .root children => authoredAll children
  | .element _ attributes children =>
    attributes.entries.filterMap attributeExpression? ++ authoredAll children
  | .leaf .expression source => [.child source]
  | .leaf .text _ | .leaf .comment _ | .leaf .raw _ => []

/-- The expressions of trees that stand side by side. -/
def authoredAll : List Node → List Authored
  | [] => []
  | n :: rest => authored n ++ authoredAll rest

end

/-! ### Pieces of a body -/

/-- Puts commas between lists of pieces. -/
def separated : List (List Piece) → List Piece
  | [] => []
  | [last] => last
  | first :: rest => first ++ .generated ", " :: separated rest

/-- The pieces of the field of the children; none without children. -/
def childFieldPieces : List (List Piece) → List (List Piece)
  | [] => []
  | [only] => [.generated "children: " :: only]
  | many => [.generated "children: [" :: separated many ++ [.generated "]"]]

/-- The pieces of a call. -/
def callPieces (reference : String) (properties children : List (List Piece)) : List Piece :=
  .generated ((if children.length ≤ 1 then "_jsx(" else "_jsxs(") ++ reference ++ ", \x7b") ::
    separated (properties ++ childFieldPieces children) ++ [.generated "\x7d)"]

/-- The pieces of a property. -/
def propertyPieces? (intrinsic : Bool) (entry : String × AttributeValue) : Option (List Piece) :=
  match attributeExpression? entry with
  | some e =>
    e.emitted?.map fun source =>
      [.generated (propertyKey (propertyName intrinsic entry.1) ++ ": "), .embedded source]
  | none => (property? intrinsic entry).map fun text => [.generated text]

mutual

/-- The pieces of the expression of a tree, if it has one. -/
def expressionPieces? : Node → Option (List Piece)
  | .root children => some (callPieces "_Fragment" [] (expressionsPieces children))
  | .element tag attributes children =>
    some (callPieces (reference tag)
      (attributes.entries.filterMap (propertyPieces? (!isComponent tag)))
      (expressionsPieces children))
  | .leaf .expression source => (Authored.child source).emitted?.map fun source => [.embedded source]
  | .leaf .text value => some [.generated (Text.quote value)]
  | .leaf .comment _ => none
  | .leaf .raw _ => none

/-- The pieces of the expressions of trees that stand side by side. -/
def expressionsPieces : List Node → List (List Piece)
  | [] => []
  | n :: rest =>
    match expressionPieces? n with
    | some pieces => pieces :: expressionsPieces rest
    | none => expressionsPieces rest

end

/-- The pieces of the body of a tree. -/
def bodyPieces (n : Node) : List Piece :=
  .generated (bodyOpening (referencedNames n)) ::
    (expressionPieces? n).getD [.generated "null"] ++ [.generated (";\n" ++ bodyEnd)]

/-! ### The text of the pieces -/

@[simp] theorem code_nil : code [] = "" := rfl

@[simp] theorem code_cons (p : Piece) (ps : List Piece) : code (p :: ps) = p.code ++ code ps := by
  simp [code]

@[simp] theorem code_append (ps qs : List Piece) : code (ps ++ qs) = code ps ++ code qs := by
  induction ps with
  | nil => simp
  | cons p rest ih => rw [List.cons_append, code_cons, code_cons, ih, String.append_assoc]

theorem code_separated (parts : List (List Piece)) :
    code (separated parts) = joinWith ", " (parts.map code) := by
  induction parts with
  | nil => rfl
  | cons first rest ih =>
    cases rest with
    | nil => rfl
    | cons second rest => simp [separated, joinWith, Piece.code, ih, String.append_assoc]

theorem code_childFieldPieces (children : List (List Piece)) :
    (childFieldPieces children).map code = childField (children.map code) := by
  match children with
  | [] => rfl
  | [only] => simp [childFieldPieces, childField, Piece.code]
  | first :: second :: rest =>
    simp [childFieldPieces, childField, code_separated, Piece.code, String.append_assoc]

theorem code_callPieces (reference : String) (properties children : List (List Piece)) :
    code (callPieces reference properties children) =
      call reference (properties.map code) (children.map code) := by
  rw [call_eq, callPieces, List.cons_append, code_cons, code_append, code_separated, List.map_append,
    code_childFieldPieces]
  simp [Piece.code, String.append_assoc]

theorem code_propertyPieces? (intrinsic : Bool) (entry : String × AttributeValue) :
    (propertyPieces? intrinsic entry).map code = property? intrinsic entry := by
  obtain ⟨name, value⟩ := entry
  have hgenerated (text : String) : code [.generated text] = text := by simp [Piece.code]
  cases value with
  | expression source =>
    cases hempty : (trimmed source).isEmpty <;>
      simp [propertyPieces?, attributeExpression?, Authored.emitted?, property?, propertyValue?,
        propertySource?, propertyName, hempty, Piece.code, String.append_assoc]
  | text _ => simp only [propertyPieces?, attributeExpression?, Option.map_map, Function.comp_def,
      hgenerated, Option.map_id']
  | list _ => simp only [propertyPieces?, attributeExpression?, Option.map_map, Function.comp_def,
      hgenerated, Option.map_id']

theorem code_emitted? (source : String) :
    ((Authored.child source).emitted?.map fun s => code [.embedded s]) = childSource? source := by
  cases h : (trimmed source).isEmpty || isCommentOnly (trimmed source).toList with
  | true => simp only [Authored.emitted?, childSource?, h, if_true, Option.map_none]
  | false =>
    simp only [Authored.emitted?, childSource?, h, if_false, Bool.false_eq_true, Option.map_some]
    simp [Piece.code]

mutual

/-- The pieces of an expression make the expression. -/
theorem code_expressionPieces? : ∀ n : Node, (expressionPieces? n).map code = expression? n
  | .root children => by
    rw [expressionPieces?, expression?, Option.map_some, code_callPieces,
      code_expressionsPieces children, List.map_nil]
  | .element tag attributes children => by
    have hproperty (entry : String × AttributeValue) :=
      code_propertyPieces? (!isComponent tag) entry
    rw [expressionPieces?, expression?, Option.map_some, code_callPieces,
      code_expressionsPieces children, properties, List.map_filterMap]
    simp only [hproperty]
  | .leaf .expression source => by
    rw [expressionPieces?, expression?, Option.map_map]
    exact code_emitted? source
  | .leaf .text value => by simp [expressionPieces?, expression?, Piece.code]
  | .leaf .comment _ => rfl
  | .leaf .raw _ => rfl

theorem code_expressionsPieces : ∀ ns : List Node,
    (expressionsPieces ns).map code = expressions ns
  | [] => rfl
  | n :: rest => by
    rw [expressions, expressionsPieces, ← code_expressionPieces? n, ← code_expressionsPieces rest]
    cases expressionPieces? n <;> rfl

end

/-- The pieces of a body make the body. -/
theorem code_bodyPieces (n : Node) : code (bodyPieces n) = functionBody n := by
  have hcontent : code ((expressionPieces? n).getD [.generated "null"]) =
      (expression? n).getD "null" := by
    rw [← code_expressionPieces? n]
    cases expressionPieces? n <;> simp [Piece.code]
  rw [bodyPieces, List.cons_append, code_cons, code_append, hcontent, functionBody_eq, bodyOf]
  simp only [code_cons, code_nil, Piece.code, String.append_assoc, String.append_empty]

/-! ### The sources among the pieces -/

@[simp] theorem embeddedSources_nil : embeddedSources [] = [] := rfl

@[simp] theorem embeddedSources_generated (text : String) (ps : List Piece) :
    embeddedSources (.generated text :: ps) = embeddedSources ps := rfl

@[simp] theorem embeddedSources_embedded (source : String) (ps : List Piece) :
    embeddedSources (.embedded source :: ps) = source :: embeddedSources ps := rfl

@[simp] theorem embeddedSources_append (ps qs : List Piece) :
    embeddedSources (ps ++ qs) = embeddedSources ps ++ embeddedSources qs :=
  List.filterMap_append

theorem embeddedSources_separated (parts : List (List Piece)) :
    embeddedSources (separated parts) = parts.flatMap embeddedSources := by
  induction parts with
  | nil => rfl
  | cons first rest ih =>
    cases rest with
    | nil => simp [separated]
    | cons second rest => simp [separated, ih]

theorem embeddedSources_callPieces (reference : String) (properties children : List (List Piece)) :
    embeddedSources (callPieces reference properties children) =
      properties.flatMap embeddedSources ++ children.flatMap embeddedSources := by
  have hchildren : (childFieldPieces children).flatMap embeddedSources =
      children.flatMap embeddedSources := by
    match children with
    | [] => rfl
    | [only] => simp [childFieldPieces]
    | first :: second :: rest => simp [childFieldPieces, embeddedSources_separated]
  simp [callPieces, embeddedSources_separated, hchildren]

theorem embeddedSources_propertyPieces? (intrinsic : Bool) (entry : String × AttributeValue) :
    embeddedSources ((propertyPieces? intrinsic entry).getD []) =
      ((attributeExpression? entry).bind Authored.emitted?).toList := by
  cases hexpression : attributeExpression? entry with
  | some e => cases hemitted : e.emitted? <;> simp [propertyPieces?, hexpression, hemitted]
  | none =>
    simp only [propertyPieces?, hexpression, Option.bind_none, Option.toList_none]
    cases property? intrinsic entry <;> rfl

theorem embeddedSources_properties (intrinsic : Bool) (entries : List (String × AttributeValue)) :
    (entries.filterMap (propertyPieces? intrinsic)).flatMap embeddedSources =
      (entries.filterMap attributeExpression?).filterMap Authored.emitted? := by
  induction entries with
  | nil => rfl
  | cons entry rest ih =>
    have hentry := embeddedSources_propertyPieces? intrinsic entry
    rw [List.filterMap_filterMap] at ih ⊢
    rw [List.filterMap_cons, List.filterMap_cons]
    cases hpieces : propertyPieces? intrinsic entry <;>
      cases hsource : (attributeExpression? entry).bind Authored.emitted? <;>
      simp_all

mutual

/-- The sources in an expression are those of the tree, as far as they are emitted. -/
theorem embeddedSources_expressionPieces? : ∀ n : Node,
    embeddedSources ((expressionPieces? n).getD []) = (authored n).filterMap Authored.emitted?
  | .root children => by
    rw [expressionPieces?, authored, ← embeddedSources_expressionsPieces children, Option.getD_some,
      embeddedSources_callPieces, List.flatMap_nil, List.nil_append]
  | .element tag attributes children => by
    rw [expressionPieces?, authored, List.filterMap_append,
      ← embeddedSources_expressionsPieces children, Option.getD_some, embeddedSources_callPieces,
      embeddedSources_properties]
  | .leaf .expression source => by
    rw [expressionPieces?, authored, List.filterMap_cons]
    cases (Authored.child source).emitted? <;> rfl
  | .leaf .text value => rfl
  | .leaf .comment _ => rfl
  | .leaf .raw _ => rfl

theorem embeddedSources_expressionsPieces : ∀ ns : List Node,
    (expressionsPieces ns).flatMap embeddedSources = (authoredAll ns).filterMap Authored.emitted?
  | [] => rfl
  | n :: rest => by
    rw [expressionsPieces, authoredAll, List.filterMap_append,
      ← embeddedSources_expressionPieces? n, ← embeddedSources_expressionsPieces rest]
    cases expressionPieces? n <;> rfl

end

/-- The sources in a body are those of the tree, as far as they are emitted. -/
theorem embeddedSources_bodyPieces (n : Node) :
    embeddedSources (bodyPieces n) = (authored n).filterMap Authored.emitted? := by
  rw [← embeddedSources_expressionPieces? n, bodyPieces]
  rw [List.cons_append, embeddedSources_generated, embeddedSources_append]
  cases expressionPieces? n with
  | none => rfl
  | some pieces => exact List.append_nil _

end Manuscript.Script
