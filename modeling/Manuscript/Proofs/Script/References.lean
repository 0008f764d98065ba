import Mathlib.Data.List.TakeWhile
import Manuscript.Proofs.Script.Layout
import Manuscript.Proofs.Text.Quoted
import Manuscript.Proofs.Text.Split

/-!
# References to elements and components

The object `_components` has a default for every HTML element of a tree, and the body checks it
for every component. What a call reads from it first is the name before the first dot of its tag.
The exception is a dotted tag of which some part is no identifier: it is read as a whole, while the
check is still for the name before the first dot.

## Main definitions

* `isPath` — dotted names whose parts can be read one from the other
* `firstProperty?` — what a reference reads from `_components` first
* `ReferencedNames.providedFor` — the names that a body provides for the tag of an element

## Main results

* `firstProperty?_member` — what a member reads first
* `mem_intrinsic_referencedNames`, `mem_components_referencedNames` — which names are provided
* `reference_provided_iff` — which references read a name that is provided
-/

namespace Manuscript.Script

open Manuscript.Text (quote quoteChars quoteChar splitOn)

/-- Whether a name is a path of identifiers with dots between them. -/
def isPath (name : String) : Bool := (splitOn '.' name.toList).all isIdentifierChars

/-- The name of the property that a reference reads from `_components` first. -/
def firstProperty? (reference : String) : Option String :=
  match Text.stripPrefix "_components".toList reference.toList with
  | some ('.' :: rest) => some (String.ofList (rest.takeWhile isIdentifierPart))
  | some ('[' :: '"' :: rest) => (Json.readString [] (rest.length + 1) rest).map Prod.fst
  | _ => none

/-- The names that a body provides for a tag: those it checks for a component, else its defaults. -/
def ReferencedNames.providedFor (names : ReferencedNames) (tag : String) : List String :=
  if isComponent tag then names.components else names.intrinsic

variable {names : ReferencedNames} {name other tag : String} {tags : List String} {n : Node}

/-! ### Identifiers -/

theorem isIdentifierPart_of_isIdentifierStart {c : Char} (h : isIdentifierStart c = true) :
    isIdentifierPart c = true := by
  simp only [isIdentifierStart, isIdentifierPart, Char.isAlphanum, Bool.or_eq_true] at h ⊢
  tauto

/-- The characters of an identifier. -/
theorem isIdentifierPart_of_mem {cs : List Char} {c : Char} (h : isIdentifierChars cs = true)
    (hc : c ∈ cs) : isIdentifierPart c = true := by
  cases cs with
  | nil => cases hc
  | cons first rest =>
    obtain ⟨hfirst, hrest⟩ := Bool.and_eq_true_iff.mp h
    rcases List.mem_cons.mp hc with rfl | hc
    · exact isIdentifierPart_of_isIdentifierStart hfirst
    · exact List.all_eq_true.mp hrest c hc

/-- The characters of a path. -/
theorem eq_dot_or_isIdentifierPart_of_mem {c : Char} (h : isPath name = true)
    (hc : c ∈ name.toList) : c = '.' ∨ isIdentifierPart c = true := by
  refine (Text.eq_or_mem_of_mem_splitOn hc).imp_right fun ⟨piece, hpiece, hmem⟩ => ?_
  exact isIdentifierPart_of_mem (List.all_eq_true.mp h piece hpiece) hmem

theorem isDotted_eq_false_iff : isDotted name = false ↔ '.' ∉ name.toList := by
  simp [isDotted]

theorem headName_of_not_isDotted (h : isDotted name = false) : headName name = name := by
  have htake : name.toList.takeWhile (· ≠ '.') = name.toList :=
    List.takeWhile_eq_self_iff.mpr fun c hc => by
      simpa using fun heq : c = '.' => isDotted_eq_false_iff.mp h (heq ▸ hc)
  rw [headName, htake, String.ofList_toList]

/-- The first identifier of a path ends before its first dot. -/
theorem takeWhile_isIdentifierPart_of_isPath (h : isPath name = true) :
    name.toList.takeWhile isIdentifierPart = name.toList.takeWhile (· ≠ '.') := by
  obtain ⟨pieces, hpieces⟩ := Text.splitOn_eq_cons '.' name.toList
  rw [isPath, hpieces, List.all_cons, Bool.and_eq_true] at h
  have hhead := h.1
  have hall : ∀ c ∈ name.toList.takeWhile (· ≠ '.'), isIdentifierPart c = true := fun c hc =>
    isIdentifierPart_of_mem hhead hc
  -- behind the part before the first dot there is nothing or the dot, which is no identifier
  have hrest : (name.toList.dropWhile (· ≠ '.')).takeWhile isIdentifierPart = [] := by
    cases hdrop : name.toList.dropWhile (· ≠ '.') with
    | nil => rfl
    | cons c rest =>
      have hdot := List.head?_dropWhile_not (fun c : Char => decide (c ≠ '.')) name.toList
      rw [hdrop] at hdot
      have hc : c = '.' := by simpa using hdot
      rw [hc, List.takeWhile_cons_of_neg (by decide)]
  conv_lhs => rw [← List.takeWhile_append_dropWhile (p := (· ≠ '.')) (l := name.toList)]
  rw [List.takeWhile_append_of_pos hall, hrest, List.append_nil]

/-! ### Members -/

theorem toList_member_of_isPath (h : isPath name = true) :
    (member "_components" name).toList = "_components".toList ++ '.' :: name.toList := by
  have hmember : member "_components" name = "_components" ++ "." ++ name := if_pos h
  rw [hmember]
  simp

theorem toList_member_of_not_isPath (h : isPath name = false) :
    (member "_components" name).toList =
      "_components".toList ++ '[' :: (quoteChars name.toList ++ [']']) := by
  have hmember : member "_components" name = "_components" ++ "[" ++ quote name ++ "]" :=
    if_neg (by simpa [isPath] using h)
  rw [hmember]
  simp [quote]

/-- A member is read in one step after the other if its name is a path, and else as a whole. -/
theorem firstProperty?_member (name : String) :
    firstProperty? (member "_components" name) =
      some (if isPath name then headName name else name) := by
  cases hpath : isPath name with
  | true =>
    simp only [firstProperty?, toList_member_of_isPath hpath, Text.stripPrefix_append, if_true]
    rw [takeWhile_isIdentifierPart_of_isPath hpath, headName]
  | false =>
    have hchars : quoteChars name.toList ++ [']'] =
        '"' :: (name.toList.flatMap quoteChar ++ '"' :: [']']) := by
      simp [quoteChars]
    rw [if_neg Bool.false_ne_true]
    simp only [firstProperty?, toList_member_of_not_isPath hpath, Text.stripPrefix_append, hchars]
    rw [Text.readString_quoted_length, Option.map_some, String.ofList_toList]

/-! ### Collected names -/

theorem mem_insertName {names : List String} :
    other ∈ insertName name names ↔ other = name ∨ other ∈ names := by
  induction names with
  | nil => simp [insertName]
  | cons first rest ih =>
    unfold insertName
    split
    · simp
    · split
      · simp_all
      · rw [List.mem_cons, ih, List.mem_cons]
        tauto

/-- Adding the tag of an HTML element adds its default. -/
theorem mem_intrinsic_add : name ∈ (names.add tag).intrinsic ↔
    name ∈ names.intrinsic ∨ isComponent tag = false ∧ isDotted tag = false ∧ tag = name := by
  cases hcomponent : isComponent tag with
  | true => simp [ReferencedNames.add, hcomponent]
  | false =>
    cases hdotted : isDotted tag with
    | true => simp [ReferencedNames.add, hcomponent, hdotted]
    | false => simp [ReferencedNames.add, hcomponent, hdotted, mem_insertName]; tauto

/-- Adding the tag of a component adds the name before its first dot. -/
theorem mem_components_add : name ∈ (names.add tag).components ↔
    name ∈ names.components ∨ isComponent tag = true ∧ headName tag = name := by
  cases hcomponent : isComponent tag with
  | true => simp [ReferencedNames.add, hcomponent, mem_insertName]; tauto
  | false => cases hdotted : isDotted tag <;> simp [ReferencedNames.add, hcomponent, hdotted]

/-- If each tag adds to a list the names that it is for, the list has the names that the tags of
all elements are for. -/
theorem mem_referencedNames {names : ReferencedNames → List String} {isFor : String → Prop}
    (hempty : names {} = [])
    (hadd : ∀ collected tag, name ∈ names (ReferencedNames.add collected tag) ↔
      name ∈ names collected ∨ isFor tag) :
    name ∈ names (referencedNames n) ↔ ∃ e ∈ n.elements, isFor e.tag := by
  have hfold (elements : List Element) (collected : ReferencedNames) :
      name ∈ names ((elements.map (·.tag)).foldl ReferencedNames.add collected) ↔
        name ∈ names collected ∨ ∃ e ∈ elements, isFor e.tag := by
    induction elements generalizing collected with
    | nil => simp
    | cons e rest ih =>
      rw [List.map_cons, List.foldl_cons, ih, hadd, List.exists_mem_cons_iff, or_assoc]
  rw [referencedNames, collectNames_eq, hfold, hempty]
  simp

/-- The defaults are the tags of HTML elements, dotted ones left out. -/
theorem mem_intrinsic_referencedNames : name ∈ (referencedNames n).intrinsic ↔
    ∃ e ∈ n.elements, isComponent e.tag = false ∧ isDotted e.tag = false ∧ e.tag = name :=
  mem_referencedNames rfl fun _ _ => mem_intrinsic_add

/-- The components that are checked are those whose name some tag begins with. -/
theorem mem_components_referencedNames : name ∈ (referencedNames n).components ↔
    ∃ e ∈ n.elements, isComponent e.tag = true ∧ headName e.tag = name :=
  mem_referencedNames rfl fun _ _ => mem_components_add

/-! ### References -/

theorem isDotted_headName (name : String) : isDotted (headName name) = false := by
  rw [isDotted_eq_false_iff, headName, String.toList_ofList]
  intro hmem
  simpa using List.mem_takeWhile_imp hmem

/-- A reference to an HTML element without a dot in its tag reads the tag, and so does one to a
component, unless its tag is a path. -/
theorem firstProperty?_reference (h : isComponent tag = true ∨ isDotted tag = false) :
    firstProperty? (reference tag) = some (if isPath tag then headName tag else tag) := by
  rw [reference_eq_member h, firstProperty?_member]

/-- What the body provides for a tag is read first by the reference to it, unless the tag is dotted
and no path. -/
theorem mem_providedFor_iff {e : Element} (he : e ∈ n.elements)
    (htag : isComponent e.tag = true ∨ isDotted e.tag = false) :
    (if isPath e.tag then headName e.tag else e.tag) ∈ (referencedNames n).providedFor e.tag ↔
      (isDotted e.tag = true → isPath e.tag = true) := by
  unfold ReferencedNames.providedFor
  cases hdotted : isDotted e.tag with
  | false =>
    -- without a dot the whole tag is read in either form
    rw [headName_of_not_isDotted hdotted, ite_self]
    cases hcomponent : isComponent e.tag with
    | true =>
      have hmem : e.tag ∈ (referencedNames n).components :=
        mem_components_referencedNames.mpr ⟨e, he, hcomponent, headName_of_not_isDotted hdotted⟩
      simpa using hmem
    | false =>
      have hmem : e.tag ∈ (referencedNames n).intrinsic :=
        mem_intrinsic_referencedNames.mpr ⟨e, he, hcomponent, hdotted, rfl⟩
      simpa using hmem
  | true =>
    have hcomponent : isComponent e.tag = true := by
      rcases htag with h | h
      · exact h
      · rw [hdotted] at h
        cases h
    rw [if_pos hcomponent]
    cases hpath : isPath e.tag with
    | true => simpa using mem_components_referencedNames.mpr ⟨e, he, hcomponent, rfl⟩
    | false =>
      -- no name that is checked has a dot in it
      have hnot : e.tag ∉ (referencedNames n).components := fun hmem => by
        obtain ⟨other, -, -, hname⟩ := mem_components_referencedNames.mp hmem
        rw [← hname, isDotted_headName] at hdotted
        cases hdotted
      simpa using hnot

/-- In a function body every reference other than to a dotted HTML element reads a name from
`_components` first. This name is provided, as a default for HTML elements and checked for
components, if and only if the tag has no dot or is a path. The body provides nothing else: every
default is the tag of an HTML element of the tree and every check is for the name, before the first
dot, of a component of the tree. -/
theorem reference_provided_iff (n : Node) :
    functionBody n = bodyOf (referencedNames n) ((expression? n).getD "null") ∧
      (∀ e ∈ n.elements, isComponent e.tag = true ∨ isDotted e.tag = false →
        ∃ name, firstProperty? (reference e.tag) = some name ∧
          (name ∈ (referencedNames n).providedFor e.tag ↔
            (isDotted e.tag = true → isPath e.tag = true))) ∧
      (∀ name ∈ (referencedNames n).intrinsic, ∃ e ∈ n.elements,
        isComponent e.tag = false ∧ e.tag = name) ∧
      ∀ name ∈ (referencedNames n).components,
        firstProperty? (member "_components" name) = some name ∧
          ∃ e ∈ n.elements, isComponent e.tag = true ∧ headName e.tag = name := by
  refine ⟨functionBody_eq n, fun e he htag => ?_, fun name hname => ?_, fun name hname => ?_⟩
  · exact ⟨_, firstProperty?_reference htag, mem_providedFor_iff he htag⟩
  · obtain ⟨e, he, hcomponent, -, htag⟩ := mem_intrinsic_referencedNames.mp hname
    exact ⟨e, he, hcomponent, htag⟩
  · obtain ⟨e, he, hcomponent, htag⟩ := mem_components_referencedNames.mp hname
    have hdotted : isDotted name = false := htag ▸ isDotted_headName e.tag
    refine ⟨?_, e, he, hcomponent, htag⟩
    rw [firstProperty?_member, headName_of_not_isDotted hdotted, ite_self]

/-- A component whose tag has a part that is no identifier. -/
def hyphenatedMember : Node := .element "Charts.bar-chart" ∅ []

/-- The reference to a hyphenated member reads a name that the body neither has a default for nor
checks. -/
theorem exists_unprovided_hyphenatedMember :
    ∃ e ∈ hyphenatedMember.elements, isComponent e.tag = true ∧
      ∃ name, firstProperty? (reference e.tag) = some name ∧
        name ∉ (referencedNames hyphenatedMember).intrinsic ∧
        name ∉ (referencedNames hyphenatedMember).components := by
  refine ⟨⟨"Charts.bar-chart", ∅, []⟩, List.mem_singleton.mpr rfl, rfl, "Charts.bar-chart", ?_, ?_⟩
  · exact firstProperty?_member "Charts.bar-chart"
  · decide +kernel

end Manuscript.Script
