import Manuscript.Proofs.Script.References

/-!
# What a script creates

Running the expression of a tree creates texts, fragments and elements, the latter with properties
and children. For a tree of roots, elements and texts whose attributes are plain, this is all that
the tree says: its attributes have the names of properties, and their values are texts or `true`.
The expression of the tree is what its creation is written as.

## Main definitions

* `Creation`, `creation` — what a script creates, and what that of a tree does
* `Creation.code` — how the calls that create something are written
* `IsPlain` — the trees that are written in this way

## Main results

* `expression?_eq_code_creation` — the expression of a plain tree
* `functionBody_eq_of_isPlain` — the body of a plain tree, all of which comes from its creation
* `newline_notMem_code` — what creates something stands on one line
-/

namespace Manuscript.Script

open Manuscript.Text (quote joinWith)
open Node (elementsAll)

/-- What a call creates. -/
inductive Target where
  /-- A fragment, which has no tag. -/
  | fragment
  /-- An element or a component. -/
  | element (tag : String)
  deriving DecidableEq, Repr

/-- The reference of a call. -/
def Target.code : Target → String
  | .fragment => "_Fragment"
  | .element tag => member "_components" tag

/-- How a property with a plain value is written. -/
def propertyCode (property : String × PlainValue) : String :=
  propertyKey property.1 ++ ": " ++ property.2.code

/-- What a script creates. -/
inductive Creation where
  /-- A text. -/
  | text (value : String)
  /-- What a call with properties and children creates. -/
  | call (target : Target) (properties : List (String × PlainValue)) (children : List Creation)

mutual

/-- How a creation is written. -/
def Creation.code : Creation → String
  | .text value => quote value
  | .call target properties children =>
    Script.call target.code (properties.map propertyCode) (Creation.codes children)

/-- How creations that stand side by side are written. -/
def Creation.codes : List Creation → List String
  | [] => []
  | c :: rest => c.code :: Creation.codes rest

end

mutual

/-- The tags of a creation, in pre-order. -/
def Creation.tags : Creation → List String
  | .text _ => []
  | .call .fragment _ children => Creation.tagsAll children
  | .call (.element tag) _ children => tag :: Creation.tagsAll children

/-- The tags of creations that stand side by side. -/
def Creation.tagsAll : List Creation → List String
  | [] => []
  | c :: rest => c.tags ++ Creation.tagsAll rest

end

/-- An attribute with a plain value as a property, of an HTML element if `intrinsic`. -/
def plainProperty (intrinsic : Bool) (entry : String × AttributeValue) : String × PlainValue :=
  (propertyName intrinsic entry.1, plainValue intrinsic (propertyName intrinsic entry.1) entry.2)

mutual

/-- What a tree of roots, elements and texts creates. -/
def creation : Node → Creation
  | .root children => .call .fragment [] (creationAll children)
  | .element tag attributes children =>
    .call (.element tag) (attributes.entries.map (plainProperty (!isComponent tag)))
      (creationAll children)
  | .leaf _ value => .text value

/-- What trees that stand side by side create. -/
def creationAll : List Node → List Creation
  | [] => []
  | n :: rest => creation n :: creationAll rest

end

mutual

/-- Whether all leaves of a tree are texts. -/
def hasOnlyTexts : Node → Bool
  | .root children | .element _ _ children => hasOnlyTextsAll children
  | .leaf kind _ => kind = .text

/-- Whether all leaves of trees that stand side by side are texts. -/
def hasOnlyTextsAll : List Node → Bool
  | [] => true
  | n :: rest => hasOnlyTexts n && hasOnlyTextsAll rest

end

/-- An element whose attributes are texts and lists, none of them a style of an HTML element and none
called `children`, and whose tag is not that of a dotted HTML element. -/
structure IsPlainElement (e : Element) : Prop where
  /-- The tag and the style. -/
  tame : IsTame e
  /-- No attribute is an expression. -/
  noExpression : ∀ entry ∈ e.attributes.entries, ∀ source, entry.2 ≠ .expression source
  /-- No attribute has the name of the children. -/
  noChildren : ∀ entry ∈ e.attributes.entries, entry.1 ≠ "children"

/-- A tree of roots, plain elements and texts. -/
structure IsPlain (n : Node) : Prop where
  /-- The leaves are texts. -/
  texts : hasOnlyTexts n = true
  /-- The elements are plain. -/
  elements : ∀ e ∈ n.elements, IsPlainElement e

/-! ### Expressions of plain trees -/

theorem properties_of_isPlainElement {e : Element} (h : IsPlainElement e) :
    properties e.tag e.attributes =
      (e.attributes.entries.map (plainProperty (!isComponent e.tag))).map propertyCode := by
  have hentry : ∀ entry ∈ e.attributes.entries, property? (!isComponent e.tag) entry =
      some (propertyCode (plainProperty (!isComponent e.tag) entry)) := by
    intro entry hentry
    exact property?_plain (h.tame.ne_style hentry) (h.noExpression entry hentry)
  rw [properties, List.map_map, List.filterMap_congr hentry, List.filterMap_eq_map']
  rfl

mutual

/-- The expression of a plain tree is what its creation is written as. -/
theorem expression?_eq_code_creation : ∀ {n : Node}, hasOnlyTexts n = true →
    (∀ e ∈ n.elements, IsPlainElement e) → expression? n = some (creation n).code
  | .root children, htexts, helements => by
    rw [expression?, expressions_eq_codes htexts helements]
    rfl
  | .element tag attributes children, htexts, helements => by
    obtain ⟨hplain, helements⟩ := List.forall_mem_cons.mp helements
    rw [expression?, expressions_eq_codes htexts helements, properties_of_isPlainElement hplain,
      hplain.tame.reference_eq]
    rfl
  | .leaf kind value, htexts, _ => by
    -- the only leaves of a plain tree are texts
    obtain rfl : kind = .text := by simpa [hasOnlyTexts] using htexts
    rfl

theorem expressions_eq_codes : ∀ {ns : List Node}, hasOnlyTextsAll ns = true →
    (∀ e ∈ elementsAll ns, IsPlainElement e) → expressions ns = Creation.codes (creationAll ns)
  | [], _, _ => rfl
  | n :: rest, htexts, helements => by
    obtain ⟨hfirst, hrest⟩ := Bool.and_eq_true_iff.mp htexts
    obtain ⟨helement, helements⟩ := List.forall_mem_append.mp helements
    rw [expressions, expression?_eq_code_creation hfirst helement, creationAll, Creation.codes,
      expressions_eq_codes hrest helements]

end

mutual

/-- The tags of a tree are those of its creation. -/
theorem tags_creation : ∀ n : Node, n.elements.map (·.tag) = (creation n).tags
  | .root children => tagsAll_creationAll children
  | .element tag _ children => congrArg (tag :: ·) (tagsAll_creationAll children)
  | .leaf _ _ => rfl

theorem tagsAll_creationAll : ∀ ns : List Node,
    (elementsAll ns).map (·.tag) = Creation.tagsAll (creationAll ns)
  | [] => rfl
  | n :: rest => by
    rw [elementsAll, List.map_append, tags_creation n, tagsAll_creationAll rest]
    rfl

end

/-- The body of a plain tree comes from its creation. -/
theorem functionBody_eq_of_isPlain {n : Node} (h : IsPlain n) :
    functionBody n =
      bodyOf ((creation n).tags.foldl ReferencedNames.add {}) (creation n).code := by
  rw [functionBody_eq, expression?_eq_code_creation h.texts h.elements, Option.getD_some,
    referencedNames, collectNames_eq, tags_creation]

/-! ### Lines -/

theorem newline_notMem_quote (text : String) : '\n' ∉ (quote text).toList := by
  rw [quote, String.toList_ofList]
  exact Text.newline_notMem_quoteChars _

theorem newline_notMem_propertyKey (name : String) : '\n' ∉ (propertyKey name).toList := by
  unfold propertyKey
  split
  · rename_i h
    exact fun hmem => absurd (isIdentifierPart_of_mem h hmem) (by decide)
  · exact newline_notMem_quote name

theorem newline_notMem_target (target : Target) : '\n' ∉ target.code.toList := by
  cases target with
  | fragment => decide
  | element tag =>
    cases hpath : isPath tag with
    | true =>
      have htag : '\n' ∉ tag.toList := fun hmem =>
        (eq_dot_or_isIdentifierPart_of_mem hpath hmem).elim (by decide) (by decide)
      simp [Target.code, toList_member_of_isPath hpath, htag]
    | false =>
      simp [Target.code, toList_member_of_not_isPath hpath, Text.newline_notMem_quoteChars]

theorem newline_notMem_propertyCode (property : String × PlainValue) :
    '\n' ∉ (propertyCode property).toList := by
  have hvalue : '\n' ∉ property.2.code.toList := by
    cases property.2 with
    | text value => exact newline_notMem_quote value
    | yes => decide
  simp [propertyCode, newline_notMem_propertyKey, hvalue]

theorem notMem_joinWith {sep : String} {xs : List String} {c : Char} (hsep : c ∉ sep.toList)
    (h : ∀ x ∈ xs, c ∉ x.toList) : c ∉ (joinWith sep xs).toList := by
  induction xs with
  | nil => simp [joinWith]
  | cons x rest ih =>
    obtain ⟨hx, hrest⟩ := List.forall_mem_cons.mp h
    cases rest with
    | nil => exact hx
    | cons second rest =>
      have hlist : joinWith sep (x :: second :: rest) = x ++ sep ++ joinWith sep (second :: rest) :=
        rfl
      rw [hlist]
      simp [hx, hsep, ih hrest]

theorem newline_notMem_call {reference : String} {properties children : List String}
    (hreference : '\n' ∉ reference.toList) (hproperties : ∀ p ∈ properties, '\n' ∉ p.toList)
    (hchildren : ∀ e ∈ children, '\n' ∉ e.toList) :
    '\n' ∉ (call reference properties children).toList := by
  have hfield : ∀ field ∈ childField children, '\n' ∉ field.toList := by
    match children with
    | [] => simp [childField]
    | [only] => simpa [childField] using hchildren
    | first :: second :: rest =>
      simpa [childField] using notMem_joinWith (by decide) hchildren
  have hfields : '\n' ∉ (joinWith ", " (properties ++ childField children)).toList :=
    notMem_joinWith (by decide) (List.forall_mem_append.mpr ⟨hproperties, hfield⟩)
  rw [call_eq]
  split <;> simp [hreference, hfields]

mutual

/-- A creation is written on one line. -/
theorem newline_notMem_code : ∀ c : Creation, '\n' ∉ c.code.toList
  | .text value => newline_notMem_quote value
  | .call target _ children =>
    newline_notMem_call (newline_notMem_target target)
      (List.forall_mem_map.mpr fun p _ => newline_notMem_propertyCode p)
      (newline_notMem_codes children)

theorem newline_notMem_codes : ∀ cs : List Creation, ∀ e ∈ Creation.codes cs, '\n' ∉ e.toList
  | [], _, he => by cases he
  | c :: rest, e, he => by
    rcases List.mem_cons.mp he with rfl | he
    · exact newline_notMem_code c
    · exact newline_notMem_codes rest e he

end

end Manuscript.Script
