import Mathlib.Data.List.Basic
import Manuscript.Markdown.Document
import Manuscript.Proofs.Document.Attributes
import Manuscript.Proofs.Markdown.Parts

/-!
# References to footnotes

The walk that makes a document counts the references to footnotes it meets. What it counts is a
summary of the list of all labels met so far, in order: which labels there are, in the order of
their first reference, and how often each occurs. The number that a reference shows and the number
behind its id are read off that list.

## Main definitions

* `Markdown.references` — the labels of the references that the walk meets in a tree, in order
* `Progress.Records` — a progress sums up a list of labels
* `anchorsFrom` — the links that the walk makes of references, given those met before

## Main results

* `Progress.Records.reference` — counting a reference adds its label to the list
* `getElem?_anchorsFrom` — the link made of the reference at a place of the list
* `references_subset` — the references that are met are references of the tree
-/

namespace Manuscript

open Manuscript.Text.Unicode (toLower)

namespace Markdown

mutual

/-- The labels, in lower case, of the references to footnotes that the walk meets in a tree. It
passes over the texts of footnotes, over rows and cells outside of tables, and over parts of
tables that are no rows or cells. -/
def references : Markdown → List String
  | .leaf (.footnoteReference identifier _) => [toLower identifier]
  | .leaf _ => []
  | .branch (.table _) children => referencesRows children
  | .branch .tableRow _ | .branch .tableCell _ | .branch (.footnoteDefinition _ _) _ => []
  | .branch _ children => referencesAll children

/-- The labels of references in trees that stand side by side. -/
def referencesAll : List Markdown → List String
  | [] => []
  | m :: rest => references m ++ referencesAll rest

/-- The labels of references in the rows among the parts of a table. -/
def referencesRows : List Markdown → List String
  | [] => []
  | .branch .tableRow cells :: rest => referencesCells cells ++ referencesRows rest
  | _ :: rest => referencesRows rest

/-- The labels of references in the cells among the parts of a row. -/
def referencesCells : List Markdown → List String
  | [] => []
  | .branch .tableCell children :: rest => referencesAll children ++ referencesCells rest
  | _ :: rest => referencesCells rest

end

/-- The label of the footnote, in lower case, that a part refers to. -/
def referenceLabel? : Markdown → Option String
  | .leaf (.footnoteReference identifier _) => some (toLower identifier)
  | _ => none

/-- The labels of all references in a tree, those that the walk does not meet included. -/
def referenceLabels (m : Markdown) : List String := m.parts.filterMap referenceLabel?

/-- The labels of all references in trees that stand side by side. -/
def referenceLabelsAll (ms : List Markdown) : List String := (partsAll ms).filterMap referenceLabel?

/-- Every reference has a footnote. -/
def ReferencesDefined (m : Markdown) : Prop :=
  ∀ id ∈ m.referenceLabels, id ∈ m.footnoteDefinitions.map Prod.fst

instance (m : Markdown) : Decidable m.ReferencesDefined :=
  inferInstanceAs (Decidable (∀ id ∈ m.referenceLabels, id ∈ m.footnoteDefinitions.map Prod.fst))

/-- No footnote contains a reference. -/
def FootnotesFlat (m : Markdown) : Prop :=
  ∀ footnote ∈ m.footnoteDefinitions, referenceLabelsAll footnote.2 = []

instance (m : Markdown) : Decidable m.FootnotesFlat :=
  inferInstanceAs
    (Decidable (∀ footnote ∈ m.footnoteDefinitions, referenceLabelsAll footnote.2 = []))

theorem referenceLabels_branch (kind : Branch) (children : List Markdown) :
    (Markdown.branch kind children).referenceLabels = referenceLabelsAll children := by
  rw [referenceLabels, parts, List.filterMap_cons]
  rfl

theorem referenceLabelsAll_cons (m : Markdown) (rest : List Markdown) :
    referenceLabelsAll (m :: rest) = m.referenceLabels ++ referenceLabelsAll rest :=
  List.filterMap_append

private theorem append_mono {xs ys xs' ys' : List String} (h : xs ⊆ ys) (h' : xs' ⊆ ys') :
    xs ++ xs' ⊆ ys ++ ys' :=
  List.append_subset.mpr
    ⟨List.subset_append_of_subset_left _ h, List.subset_append_of_subset_right _ h'⟩

mutual

/-- The references that the walk meets are references of the tree. -/
theorem references_subset : ∀ m : Markdown, m.references ⊆ m.referenceLabels
  | .leaf kind => by
    cases kind with
    | footnoteReference identifier label => exact fun _ h => h
    | _ => exact List.nil_subset _
  | .branch kind children => by
    rw [referenceLabels_branch]
    have hall := referencesAll_subset children
    cases kind with
    | table alignment => exact referencesRows_subset children
    | tableRow => exact List.nil_subset _
    | tableCell => exact List.nil_subset _
    | footnoteDefinition identifier label => exact List.nil_subset _
    | _ => exact hall

theorem referencesAll_subset : ∀ ms : List Markdown, referencesAll ms ⊆ referenceLabelsAll ms
  | [] => List.nil_subset _
  | m :: rest => by
    rw [referenceLabelsAll_cons, referencesAll]
    exact append_mono (references_subset m) (referencesAll_subset rest)

theorem referencesRows_subset : ∀ ms : List Markdown, referencesRows ms ⊆ referenceLabelsAll ms
  | [] => List.nil_subset _
  | .leaf kind :: rest => by
    rw [referenceLabelsAll_cons]
    exact List.subset_append_of_subset_right _ (referencesRows_subset rest)
  | .branch kind children :: rest => by
    rw [referenceLabelsAll_cons, referenceLabels_branch]
    have hrest := referencesRows_subset rest
    have hcells := referencesCells_subset children
    cases kind with
    | tableRow => exact append_mono hcells hrest
    | _ => exact List.subset_append_of_subset_right _ hrest

theorem referencesCells_subset : ∀ ms : List Markdown, referencesCells ms ⊆ referenceLabelsAll ms
  | [] => List.nil_subset _
  | .leaf kind :: rest => by
    rw [referenceLabelsAll_cons]
    exact List.subset_append_of_subset_right _ (referencesCells_subset rest)
  | .branch kind children :: rest => by
    rw [referenceLabelsAll_cons, referenceLabels_branch]
    have hrest := referencesCells_subset rest
    have hchildren := referencesAll_subset children
    cases kind with
    | tableCell => exact append_mono hchildren hrest
    | _ => exact List.subset_append_of_subset_right _ hrest

end

end Markdown

/-! ### Labels in the order of their first reference -/

section Labels

variable {seen more : List String} {id : String}

theorem nodup_eraseDups : ∀ ids : List String, ids.eraseDups.Nodup
  | [] => List.nodup_nil
  | id :: rest => by
    have hshorter : (rest.filter fun other => !other == id).length < rest.length + 1 :=
      Nat.lt_succ_of_le (List.length_filter_le _ _)
    rw [List.eraseDups_cons, List.nodup_cons]
    refine ⟨fun hmem => ?_, nodup_eraseDups _⟩
    simp [List.mem_eraseDups] at hmem
termination_by ids => ids.length

theorem eraseDups_concat (seen : List String) (id : String) :
    (seen ++ [id]).eraseDups = if id ∈ seen then seen.eraseDups else seen.eraseDups ++ [id] := by
  rw [List.eraseDups_append]
  split <;> simp_all [List.removeAll, List.eraseDups_cons]

/-- Labels that come later do not change the place of a label among the different ones. -/
theorem idxOf_eraseDups_append (h : id ∈ seen) (more : List String) :
    (seen ++ more).eraseDups.idxOf id = seen.eraseDups.idxOf id := by
  rw [List.eraseDups_append]
  exact List.idxOf_append_of_mem (List.mem_eraseDups.mpr h)

end Labels

namespace Progress

variable {p : Progress} {seen : List String} {id : String}

/-- A progress sums up the labels of the references met so far: it has the labels in the order of
their first reference, and how often each of them occurs. -/
structure Records (p : Progress) (seen : List String) : Prop where
  /-- The labels, each at its first reference. -/
  order_eq : p.order = seen.eraseDups
  /-- The number of references to each footnote. -/
  count_eq : ∀ id, p.count id = seen.count id

theorem records_empty : ({} : Progress).Records [] := ⟨rfl, fun _ => rfl⟩

/-- Counting a reference changes the count of its label only. -/
theorem count_reference (p : Progress) (id other : String) :
    (p.reference id).1.count other = if other = id then p.count id + 1 else p.count other := by
  unfold reference count
  dsimp only
  rw [List.lookup_cons]
  split
  · simp_all
  · rw [if_neg (by simp_all), Attributes.lookup_filter_ne, if_neg (by simp_all)]

/-- Counting a reference adds its label to the list. The reference gets the place of its label among
the different ones, and the number of its occurrence. -/
theorem Records.reference (hp : p.Records seen) (id : String) :
    (p.reference id).1.Records (seen ++ [id]) ∧
      (p.reference id).2 =
        ((seen ++ [id]).eraseDups.idxOf id + 1, (seen ++ [id]).count id) := by
  have horder : (p.reference id).1.order = (seen ++ [id]).eraseDups := by
    change (if p.order.contains id then p.order else p.order ++ [id]) = _
    rw [eraseDups_concat, hp.order_eq]
    simp [List.mem_eraseDups]
  -- the number behind the reference's id counts this reference too
  have hcount : (seen ++ [id]).count id = p.count id + 1 := by
    rw [List.count_append, ← hp.count_eq, List.count_singleton_self]
  refine ⟨⟨horder, fun other => ?_⟩, ?_⟩
  · rw [count_reference]
    split
    · rename_i heq
      rw [heq, hcount]
    · rename_i hne
      have hbeq : (id == other) = false := beq_eq_false_iff_ne.mpr (Ne.symm hne)
      rw [List.count_append, List.count_singleton, hp.count_eq, hbeq]
      rfl
  · rw [hcount, ← horder]
    rfl

end Progress

/-! ### The links made of references -/

namespace Lowering

/-- The link made of a reference to a footnote behind others. -/
def anchorAfter (seen : List String) (id : String) : Element :=
  footnoteAnchor id ((seen ++ [id]).eraseDups.idxOf id + 1) ((seen ++ [id]).count id)

/-- The links made of references to footnotes behind others, each with the label of its footnote. -/
def anchorsFrom (seen : List String) : List String → List (String × Element)
  | [] => []
  | id :: rest => (id, anchorAfter seen id) :: anchorsFrom (seen ++ [id]) rest

variable {seen refs : List String} {id : String}

theorem anchorsFrom_append (seen refs more : List String) :
    anchorsFrom seen (refs ++ more) = anchorsFrom seen refs ++ anchorsFrom (seen ++ refs) more := by
  induction refs generalizing seen with
  | nil => simp [anchorsFrom]
  | cons id rest ih => simp [anchorsFrom, ih]

theorem map_fst_anchorsFrom (seen refs : List String) :
    (anchorsFrom seen refs).map Prod.fst = refs := by
  induction refs generalizing seen with
  | nil => rfl
  | cons id rest ih => rw [anchorsFrom, List.map_cons, ih]

theorem mem_anchorsFrom {e : Element} (h : e ∈ (anchorsFrom seen refs).map Prod.snd) :
    ∃ id number n, e = footnoteAnchor id number n := by
  induction refs generalizing seen with
  | nil => cases h
  | cons id rest ih =>
    rcases List.mem_cons.mp h with rfl | h
    · exact ⟨id, _, _, rfl⟩
    · exact ih h

/-- The link made of the reference at a place of the list. -/
theorem getElem?_anchorsFrom (seen refs : List String) (k : Nat) :
    (anchorsFrom seen refs)[k]? =
      refs[k]?.map fun id => (id, anchorAfter (seen ++ refs.take k) id) := by
  induction refs generalizing seen k with
  | nil => rfl
  | cons first rest ih =>
    cases k with
    | zero => simp [anchorsFrom]
    | succ k => simp [anchorsFrom, ih]

end Lowering

end Manuscript
