import Manuscript.Proofs.Document.Elements
import Manuscript.Script.FunctionBody

/-!
# The layout of a function body

A body is made of the names that the tree refers to and of the expression of the tree, and these
do not depend on each other. In a call the properties and the children are the fields of one object,
the children being the last of them. The value of a property that is neither an expression nor a
style is a string literal or `true`.

## Main definitions

* `bodyOf` — the body with given names and a given content
* `childField` — the field of the children in the object of a call
* `IsTame` — elements whose reference and whose style are written in the usual way
* `PlainValue`, `plainValue` — values that are neither expressions nor styles

## Main results

* `functionBody_eq` — the body of a tree
* `call_eq` — a call has one object with all fields
* `property?_plain` — the properties that are neither expressions nor styles
* `collectNames_eq` — the names are collected from the tags of all elements
-/

namespace Manuscript.Script

open Manuscript.Text (joinWith quote)
open Node (elementsAll)

/-- What stands before the content in a body that provides for given names. -/
def bodyOpening (names : ReferencedNames) : String :=
  bodyStart ++ String.join (names.intrinsic.map defaultLine) ++
  "    ...props.components\n" ++ "  \x7d;\n" ++
  String.join (names.components.map guardLine) ++ "  return "

/-- The body that provides for given names and returns a given content. -/
def bodyOf (names : ReferencedNames) (content : String) : String :=
  bodyOpening names ++ content ++ ";\n" ++ bodyEnd

theorem functionBody_eq (n : Node) :
    functionBody n = bodyOf (referencedNames n) ((expression? n).getD "null") := rfl

/-! ### Calls -/

/-- The field of the children in the object of a call; none without children. -/
def childField : List String → List String
  | [] => []
  | [only] => ["children: " ++ only]
  | many => ["children: [" ++ joinWith ", " many ++ "]"]

theorem joinWith_concat (sep : String) (xs : List String) (y : String) :
    joinWith sep (xs ++ [y]) = (if xs.isEmpty then "" else joinWith sep xs ++ sep) ++ y := by
  induction xs with
  | nil => simp [joinWith]
  | cons x rest ih =>
    cases rest with
    | nil => simp [joinWith]
    | cons x' rest =>
      rw [List.cons_append, List.cons_append, joinWith, ← List.cons_append, ih]
      · simp [joinWith, String.append_assoc]
      · simp

/-- The object of a call has all properties and then the children as its fields. -/
theorem call_eq (reference : String) (properties children : List String) :
    call reference properties children =
      (if children.length ≤ 1 then "_jsx(" else "_jsxs(") ++ reference ++ ", \x7b" ++
        joinWith ", " (properties ++ childField children) ++ "\x7d)" := by
  apply String.toList_inj.mp
  match children with
  | [] => simp [call, childField]
  | [only] =>
    rw [childField, joinWith_concat]
    cases properties <;> simp [call]
  | first :: second :: rest =>
    have hfield : childField (first :: second :: rest) =
        ["children: [" ++ joinWith ", " (first :: second :: rest) ++ "]"] := rfl
    rw [hfield, joinWith_concat]
    cases properties <;> simp [call]

/-! ### Elements -/

/-- An element that is a component, or whose tag has no dot in it and which has no style attribute
that is a plain text. -/
def IsTame (e : Element) : Prop :=
  isComponent e.tag = false →
    isDotted e.tag = false ∧ ∀ text, ("style", .text text) ∉ e.attributes.entries

theorem reference_eq_member {tag : String} (h : isComponent tag = true ∨ isDotted tag = false) :
    reference tag = member "_components" tag := by
  unfold reference
  rcases h with h | h <;> simp [h]

theorem IsTame.reference_eq {e : Element} (h : IsTame e) :
    reference e.tag = member "_components" e.tag := by
  refine reference_eq_member ?_
  cases hcomponent : isComponent e.tag with
  | true => exact .inl rfl
  | false => exact .inr (h hcomponent).1

theorem IsTame.ne_style {e : Element} (h : IsTame e) {entry : String × AttributeValue}
    (hentry : entry ∈ e.attributes.entries) (hintrinsic : (!isComponent e.tag) = true)
    (text : String) : entry ≠ ("style", .text text) := by
  have hcomponent : isComponent e.tag = false := by simpa using hintrinsic
  exact fun heq => (h hcomponent).2 text (heq ▸ hentry)

/-! ### Properties -/

/-- The name of a property, of an HTML element if `intrinsic`. -/
def propertyName (intrinsic : Bool) (name : String) : String :=
  if intrinsic then reactProperty name else name

theorem reactProperty_cases (name : String) :
    reactProperty name = name ∨ (name, reactProperty name) ∈ reactProperties := by
  unfold reactProperty
  cases h : reactProperties.lookup name with
  | none => exact .inl rfl
  | some property =>
    obtain ⟨before, after, hsplit, -⟩ := List.lookup_eq_some_iff.mp h
    exact .inr (by simp [hsplit])

/-- A name that no attribute is renamed to is the property of its own attribute only. -/
theorem eq_of_propertyName_eq {intrinsic : Bool} {name property : String}
    (hnone : ∀ entry ∈ reactProperties, entry.2 ≠ property)
    (h : propertyName intrinsic name = property) : name = property := by
  cases intrinsic with
  | false => exact h
  | true =>
    rcases reactProperty_cases name with heq | hmem
    · exact heq.symm.trans h
    · exact absurd h (hnone _ hmem)

/-- A value of a property that is neither an expression nor a style. -/
inductive PlainValue where
  /-- A text. -/
  | text (value : String)
  /-- The value `true`. -/
  | yes
  deriving DecidableEq, Repr

/-- How a plain value is written. -/
def PlainValue.code : PlainValue → String
  | .text value => quote value
  | .yes => "true"

/-- The plain value of a property: an empty text means `true` for some properties of HTML elements,
and other values are taken as markup shows them. -/
def plainValue (intrinsic : Bool) (property : String) : AttributeValue → PlainValue
  | .text value =>
    if intrinsic && value.isEmpty && isBooleanProperty property then .yes else .text value
  | value => .text value.toMarkup

/-- A property has a plain value, unless it is an expression or the style of an HTML element. -/
theorem property?_plain {intrinsic : Bool} {entry : String × AttributeValue}
    (hstyle : intrinsic = true → ∀ text, entry ≠ ("style", .text text))
    (hvalue : ∀ source, entry.2 ≠ .expression source) :
    property? intrinsic entry =
      some (propertyKey (propertyName intrinsic entry.1) ++ ": " ++
        (plainValue intrinsic (propertyName intrinsic entry.1) entry.2).code) := by
  obtain ⟨name, value⟩ := entry
  cases value with
  | expression source => exact absurd rfl (hvalue source)
  | list tokens => rfl
  | text value =>
    -- the property `style` comes from the attribute `style` only
    have hplain : ¬ (intrinsic = true ∧ propertyName intrinsic name = "style") := by
      rintro ⟨hintrinsic, hproperty⟩
      have hname : name = "style" := eq_of_propertyName_eq (by decide) hproperty
      exact hstyle hintrinsic value (by rw [hname])
    have hvalue : propertyValue? (propertyName intrinsic name) (.text value) intrinsic =
        some (plainValue intrinsic (propertyName intrinsic name) (.text value)).code := by
      simp only [propertyValue?, plainValue, Bool.and_eq_true, decide_eq_true_eq, if_neg hplain]
      split <;> rfl
    have hproperty : property? intrinsic (name, .text value) =
        (propertyValue? (propertyName intrinsic name) (.text value) intrinsic).map fun value =>
          propertyKey (propertyName intrinsic name) ++ ": " ++ value := rfl
    rw [hproperty, hvalue, Option.map_some]

/-! ### Collected names -/

mutual

/-- Collecting the names of a tree adds those of its elements, in pre-order. -/
theorem collectNames_eq (names : ReferencedNames) : ∀ n : Node,
    collectNames names n = (n.elements.map (·.tag)).foldl ReferencedNames.add names
  | .root children => collectNamesAll_eq names children
  | .element tag _ children => collectNamesAll_eq (names.add tag) children
  | .leaf _ _ => rfl

theorem collectNamesAll_eq (names : ReferencedNames) : ∀ ns : List Node,
    collectNamesAll names ns = ((elementsAll ns).map (·.tag)).foldl ReferencedNames.add names
  | [] => rfl
  | n :: rest => by
    rw [collectNamesAll, collectNamesAll_eq, collectNames_eq, elementsAll, List.map_append,
      List.foldl_append]

end

end Manuscript.Script
