import Manuscript.Proofs.Document.Attributes

/-!
# Adding a class to an element

The classes that an element has stay where they are, and a class that is added stands behind them
unless it is one of them. Everything else about the element stays as well, and adding the class again
makes no difference.

The class attribute becomes a list whatever it was before. A text goes into it word by word, but an
expression has no words: what comes out is what would come out without the attribute. So a class
attribute counts for the result, with one exception, an expression.

## Main definitions

* `Element.GainsClass` — what an element is that has gained a class and lost nothing
* `Element.CountsExpression` — an expression as the class attribute is not thrown away

## Main results

* `gainsClass_addClass` — adding a class loses no class, no other attribute and no child
* `addClass_of_expression` — an expression gives way to the class that is added
* `addClass_loses_nothing_iff` — which elements lose nothing at all
-/

namespace Manuscript

namespace Attributes

variable {attrs : Attributes} {name token : String} {value : AttributeValue}

/-- An attribute that is set again need not be removed first. -/
theorem insert_erase : (attrs.erase name).insert name value = attrs.insert name value := by
  apply eq_of_get?_eq
  intro other
  simp only [get?_insert, get?_erase]
  split <;> rfl

theorem classes_eq_nil_of_expression {source : String}
    (h : attrs.get? "class" = some (.expression source)) : attrs.classes = [] := by
  rw [classes, h]
  rfl

/-- Where there are no classes, a list of one class comes out. -/
theorem addClass_of_classes_eq_nil (h : attrs.classes = []) :
    attrs.addClass token = attrs.insert "class" (.list [token]) := by
  rw [addClass_of_notMem (by simp [h]), h]
  rfl

theorem classes_erase : (attrs.erase "class").classes = [] := by
  rw [classes, get?_erase, if_pos rfl]
  rfl

end Attributes

namespace Element

variable {e : Element} {token other name source : String}

theorem attr?_addClass (h : name ≠ "class") : (e.addClass token).attr? name = e.attr? name := by
  change (e.attributes.addClass token).get? name = e.attributes.get? name
  rw [Attributes.addClass, Attributes.get?_insert, if_neg h]

theorem classes_addClass :
    (e.addClass token).classes =
      if token ∈ e.classes then e.classes else e.classes ++ [token] :=
  Attributes.classes_addClass

/-- What an element is that has gained a class: what it was before, with the class behind its classes
if it was not one of them. -/
structure GainsClass (e : Element) (token : String) (result : Element) : Prop where
  /-- The classes from before are there in their order. -/
  kept : e.classes <+: result.classes
  /-- The class is there. -/
  present : result.hasClass token = true
  /-- The class is not added to classes that have it. -/
  once : result.classes.count token = max 1 (e.classes.count token)
  /-- No other class is added. -/
  alone : ∀ other, other ≠ token → result.classes.count other = e.classes.count other
  /-- Adding the class again changes nothing. -/
  settled : result.addClass token = result
  /-- The other attributes are as before. -/
  attributes : ∀ name, name ≠ "class" → result.attr? name = e.attr? name
  /-- The tag is as before. -/
  tag : result.tag = e.tag
  /-- The children are as before. -/
  children : result.children = e.children

theorem prefix_classes_addClass : e.classes <+: (e.addClass token).classes := by
  rw [classes_addClass]
  split
  · exact List.prefix_rfl
  · exact List.prefix_append _ _

theorem hasClass_addClass : (e.addClass token).hasClass token = true := by
  rw [hasClass, List.contains_iff_mem, classes_addClass]
  split
  · assumption
  · exact List.mem_append_right _ (List.mem_singleton_self _)

theorem count_classes_addClass :
    (e.addClass token).classes.count token = max 1 (e.classes.count token) := by
  rw [classes_addClass]
  split
  · rename_i hmem
    exact (Nat.max_eq_right (List.count_pos_iff.mpr hmem)).symm
  · rename_i hnot
    rw [List.count_append, List.count_eq_zero.mpr hnot, List.count_singleton_self]
    rfl

theorem count_classes_addClass_of_ne (h : other ≠ token) :
    (e.addClass token).classes.count other = e.classes.count other := by
  rw [classes_addClass]
  split
  · rfl
  · have hsingle : [token].count other = 0 := List.count_eq_zero.mpr (by simpa using h)
    rw [List.count_append, hsingle, Nat.add_zero]

theorem addClass_addClass : (e.addClass token).addClass token = e.addClass token :=
  congrArg (Element.mk e.tag · e.children) Attributes.addClass_addClass

/-- Adding a class loses no class, no other attribute, not the tag and no child. -/
theorem gainsClass_addClass (e : Element) (token : String) :
    e.GainsClass token (e.addClass token) where
  kept := prefix_classes_addClass
  present := hasClass_addClass
  once := count_classes_addClass
  alone _ := count_classes_addClass_of_ne
  settled := addClass_addClass
  attributes _ := attr?_addClass
  tag := rfl
  children := rfl

/-! ### Expressions -/

/-- Adding a class does not throw away an expression that is the class attribute: without the
attribute something else would come out. -/
def CountsExpression (e : Element) (token : String) : Prop :=
  ∀ source, e.attr? "class" = some (.expression source) →
    e.addClass token ≠ (e.removeAttr "class").addClass token

/-- An element without a class attribute gets a list of one class. -/
theorem addClass_removeAttr :
    (e.removeAttr "class").addClass token = e.setAttr "class" (.list [token]) := by
  have hattributes : (e.attributes.erase "class").addClass token =
      e.attributes.insert "class" (.list [token]) :=
    (Attributes.addClass_of_classes_eq_nil Attributes.classes_erase).trans Attributes.insert_erase
  exact congrArg (Element.mk e.tag · e.children) hattributes

/-- An expression gives way to a list of the one class that is added. -/
theorem addClass_of_expression (h : e.attr? "class" = some (.expression source)) :
    e.addClass token = e.setAttr "class" (.list [token]) := by
  have hclasses : e.attributes.classes = [] := Attributes.classes_eq_nil_of_expression h
  exact congrArg (Element.mk e.tag · e.children) (Attributes.addClass_of_classes_eq_nil hclasses)

theorem countsExpression_iff :
    e.CountsExpression token ↔ ∀ source, e.attr? "class" ≠ some (.expression source) := by
  constructor
  · intro h source hsource
    exact h source hsource ((addClass_of_expression hsource).trans addClass_removeAttr.symm)
  · intro h source hsource
    exact absurd hsource (h source)

/-- Adding a class to an element keeps its classes in their order, adds the class once, adds no other
one, changes nothing when it is done again, and leaves the other attributes, the tag and the children
alone. It throws nothing away if and only if the class attribute is not an expression: an expression
is replaced by a list of the one class, as if there had been no attribute. -/
theorem addClass_loses_nothing_iff (e : Element) (token : String) :
    e.GainsClass token (e.addClass token) ∧
      (∀ source, e.attr? "class" = some (.expression source) →
        e.addClass token = e.setAttr "class" (.list [token])) ∧
      (e.CountsExpression token ↔ ∀ source, e.attr? "class" ≠ some (.expression source)) :=
  ⟨gainsClass_addClass e token, fun _ => addClass_of_expression, countsExpression_iff⟩

/-- A paragraph whose class is computed. -/
def computedParagraph : Element where
  tag := "p"
  attributes := Attributes.ofList [("class", .expression "props.kind")]

/-- The expression is thrown away when a class is added. -/
theorem not_countsExpression_computedParagraph : ¬ computedParagraph.CountsExpression "lead" := by
  intro h
  have hclass : computedParagraph.attr? "class" = some (.expression "props.kind") := by decide
  exact countsExpression_iff.mp h _ hclass

end Element

end Manuscript
