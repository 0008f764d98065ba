import Mathlib.Data.List.Basic
import Manuscript.Markdown.Document
import Manuscript.Proofs.Markdown.Parts

/-!
# Links in place of references

A link or an image can be written out, or it can refer to a definition. The definitions are looked
for in the whole tree before anything is walked through, so it does not matter where they stand, and
a reference whose label leads somewhere becomes what the link or the image becomes that is written
out with this target.

## Main definitions

* `Markdown.resolved` — a document with links and images in place of its references

## Main results

* `target?_resolved`, `footnoteDefinitions_resolveIn` — what such a document defines
* `target?_eq_none_of_mem_parts_resolved` — no reference is left whose label leads somewhere
* `lowerNode_resolveIn` — the walk through such a tree
* `toDocument_resolved` — the document stays the same
-/

namespace Manuscript

namespace Markdown

/-- A leaf with an image in place of a reference to one, if the label leads somewhere in `doc`. -/
def resolveLeaf (doc : Markdown) : Leaf → Leaf
  | .imageReference alt reference =>
    match doc.target? reference.identifier with
    | some target => .image alt target
    | none => .imageReference alt reference
  | kind => kind

/-- A branch with a link in place of a reference, if the label leads somewhere in `doc`. -/
def resolveBranch (doc : Markdown) : Branch → Branch
  | .linkReference reference =>
    match doc.target? reference.identifier with
    | some target => .link target
    | none => .linkReference reference
  | kind => kind

mutual

/-- A tree with links and images in place of references whose labels lead somewhere in `doc`. -/
def resolveIn (doc : Markdown) : Markdown → Markdown
  | .branch kind children => .branch (resolveBranch doc kind) (resolveAllIn doc children)
  | .leaf kind => .leaf (resolveLeaf doc kind)

/-- Trees side by side with links and images in place of references. -/
def resolveAllIn (doc : Markdown) : List Markdown → List Markdown
  | [] => []
  | m :: rest => resolveIn doc m :: resolveAllIn doc rest

end

/-- A document with links and images in place of references, at every depth, if their labels are
defined in it. -/
def resolved (m : Markdown) : Markdown := m.resolveIn m

variable {doc m part : Markdown} {identifier : String}

/-- A reference to a link stays one, or it becomes a link. -/
theorem resolveBranch_linkReference (doc : Markdown) (reference : Reference) :
    resolveBranch doc (.linkReference reference) = .linkReference reference ∨
      ∃ target, resolveBranch doc (.linkReference reference) = .link target := by
  rw [resolveBranch]
  cases doc.target? reference.identifier with
  | none => exact .inl rfl
  | some target => exact .inr ⟨target, rfl⟩

/-! ### Parts -/

mutual

/-- The parts of a tree with links and images in place of references are those of the tree, with
links and images in place of theirs. -/
theorem parts_resolveIn (doc : Markdown) : ∀ m : Markdown,
    (resolveIn doc m).parts = m.parts.map (resolveIn doc)
  | .branch _ children => congrArg (_ :: ·) (partsAll_resolveAllIn doc children)
  | .leaf _ => rfl

theorem partsAll_resolveAllIn (doc : Markdown) : ∀ ms : List Markdown,
    partsAll (resolveAllIn doc ms) = (partsAll ms).map (resolveIn doc)
  | [] => rfl
  | m :: rest => by
    rw [resolveAllIn, partsAll, parts_resolveIn doc m, partsAll_resolveAllIn doc rest, partsAll,
      List.map_append]

end

/-- References are no definitions. -/
theorem linkDefinition?_resolveIn (doc m : Markdown) :
    (resolveIn doc m).linkDefinition? = m.linkDefinition? := by
  cases m with
  | branch kind children => rfl
  | leaf kind =>
    cases kind with
    | imageReference alt reference =>
      rw [resolveIn, resolveLeaf]
      split <;> rfl
    | _ => rfl

/-- References are no footnotes, but the texts of footnotes have references. -/
theorem footnote?_resolveIn (doc m : Markdown) : (resolveIn doc m).footnote? =
    m.footnote?.map fun footnote => (footnote.1, resolveAllIn doc footnote.2) := by
  cases m with
  | branch kind children =>
    cases kind with
    | linkReference reference =>
      rw [resolveIn]
      rcases resolveBranch_linkReference doc reference with h | ⟨target, h⟩ <;> rw [h] <;> rfl
    | _ => rfl
  | leaf kind => rfl

/-- Labels lead where they led. -/
theorem target?_resolved (m : Markdown) (identifier : String) :
    m.resolved.target? identifier = m.target? identifier := by
  rw [target?, target?, resolved, parts_resolveIn, List.findSome?_map]
  simp only [Function.comp_def, linkDefinition?_resolveIn]

/-- The footnotes are those of the document, with links and images in place of references. -/
theorem footnoteDefinitions_resolveIn (doc m : Markdown) : (resolveIn doc m).footnoteDefinitions =
    m.footnoteDefinitions.map fun footnote => (footnote.1, resolveAllIn doc footnote.2) := by
  rw [footnoteDefinitions_eq, footnoteDefinitions_eq, parts_resolveIn, List.filterMap_map,
    List.map_filterMap]
  exact List.filterMap_congr fun part _ => footnote?_resolveIn doc part

/-- A footnote is looked up as before and found with links and images in place of references. -/
theorem footnote?_resolved (m : Markdown) (id : String) :
    (Definitions.ofMarkdown m.resolved).footnote? id =
      ((Definitions.ofMarkdown m).footnote? id).map (resolveAllIn m) := by
  change (m.resolveIn m).footnoteDefinitions.lookup id = (m.footnoteDefinitions.lookup id).map _
  rw [footnoteDefinitions_resolveIn]
  induction m.footnoteDefinitions with
  | nil => rfl
  | cons footnote rest ih =>
    rw [List.map_cons, List.lookup_cons, List.lookup_cons]
    cases id == footnote.1 with
    | true => rfl
    | false => exact ih

/-- The label by which a part refers to a link or an image. -/
def linkLabel? : Markdown → Option String
  | .branch (.linkReference reference) _ | .leaf (.imageReference _ reference) =>
    some reference.identifier
  | _ => none

/-- The references that are left lead nowhere. -/
theorem target?_eq_none_of_mem_parts_resolved (hpart : part ∈ m.resolved.parts)
    (hlabel : part.linkLabel? = some identifier) : m.resolved.target? identifier = none := by
  rw [resolved, parts_resolveIn] at hpart
  obtain ⟨original, -, rfl⟩ := List.mem_map.mp hpart
  rw [target?_resolved]
  cases original with
  | branch kind children =>
    cases kind with
    | linkReference reference =>
      cases htarget : m.target? reference.identifier with
      | some target => simp [resolveIn, resolveBranch, htarget, linkLabel?] at hlabel
      | none =>
        obtain rfl : reference.identifier = identifier := by
          simpa [resolveIn, resolveBranch, htarget, linkLabel?] using hlabel
        exact htarget
    | _ => cases hlabel
  | leaf kind =>
    cases kind with
    | imageReference alt reference =>
      cases htarget : m.target? reference.identifier with
      | some target => simp [resolveIn, resolveLeaf, htarget, linkLabel?] at hlabel
      | none =>
        obtain rfl : reference.identifier = identifier := by
          simpa [resolveIn, resolveLeaf, htarget, linkLabel?] using hlabel
        exact htarget
    | _ => cases hlabel

end Markdown

namespace Lowering

open Markdown hiding children

/-- Definitions by which labels of links lead where they lead in a document. -/
def LeadsAs (doc : Markdown) (d : Definitions) : Prop :=
  ∀ identifier, d.target? identifier = doc.target? identifier

variable {doc : Markdown} {d d' : Definitions}

theorem leadsAs_resolved (m : Markdown) : LeadsAs m (.ofMarkdown m.resolved) := by
  intro identifier
  rw [target?_ofMarkdown, target?_resolved]

/-! ### One part -/

/-- An image by reference is made as one that is written out. -/
theorem lowerLeaf_resolveLeaf (hd : LeadsAs doc d) (hd' : LeadsAs doc d') (p : Progress)
    (kind : Leaf) : lowerLeaf d' p (resolveLeaf doc kind) = lowerLeaf d p kind := by
  cases kind with
  | imageReference alt reference =>
    cases htarget : doc.target? reference.identifier with
    | none => simp [resolveLeaf, lowerLeaf, htarget, hd _, hd' _]
    | some target => simp [resolveLeaf, lowerLeaf, htarget, hd _]
  | _ => rfl

/-- A link by reference is made as one that is written out. -/
theorem lowerBranch_resolveBranch (hd : LeadsAs doc d) (hd' : LeadsAs doc d') (kind : Branch)
    (nodes : List Node) :
    lowerBranch d' (resolveBranch doc kind) nodes = lowerBranch d kind nodes := by
  cases kind with
  | linkReference reference =>
    cases htarget : doc.target? reference.identifier with
    | none => simp [resolveBranch, lowerBranch, htarget, hd _, hd' _]
    | some target => simp [resolveBranch, lowerBranch, htarget, hd _]
  | jsxFlow name attributes => cases name <;> rfl
  | jsxText name attributes => cases name <;> rfl
  | _ => rfl

/-- Items stay items with the same check boxes. -/
theorem isTask_resolveIn (doc m : Markdown) : isTask (resolveIn doc m) = isTask m := by
  rcases m with ⟨kind, children⟩ | kind
  · cases kind with
    | linkReference reference =>
      rw [resolveIn]
      rcases resolveBranch_linkReference doc reference with h | ⟨target, h⟩ <;> rw [h] <;> rfl
    | listItem spread checked => cases checked <;> rfl
    | _ => rfl
  · rfl

theorem isSpreadItem_resolveIn (doc m : Markdown) :
    isSpreadItem (resolveIn doc m) = isSpreadItem m := by
  rcases m with ⟨kind, children⟩ | kind
  · cases kind with
    | linkReference reference =>
      rw [resolveIn]
      rcases resolveBranch_linkReference doc reference with h | ⟨target, h⟩ <;> rw [h] <;> rfl
    | _ => rfl
  · rfl

/-- What holds of some part holds of one with links and images in place of references, if these
make no difference. -/
theorem any_resolveAllIn {q : Markdown → Bool} (h : ∀ m, q (resolveIn doc m) = q m)
    (ms : List Markdown) : (resolveAllIn doc ms).any q = ms.any q := by
  induction ms with
  | nil => rfl
  | cons m rest ih => rw [resolveAllIn, List.any_cons, List.any_cons, h, ih]

/-! ### The walk -/

/-- One walk after another. -/
def andThen (first : Progress × List Node) (next : Progress → Progress × List Node) :
    Progress × List Node :=
  ((next first.1).1, first.2 ++ (next first.1).2)

theorem andThen_congr {first first' : Progress × List Node}
    {next next' : Progress → Progress × List Node} (h : first = first')
    (hnext : ∀ p, next p = next' p) : andThen first next = andThen first' next' := by
  have hsame : next = next' := by
    funext p
    exact hnext p
  rw [h, hsame]

/-- A walk through the parts of a branch, and what the branch puts around their nodes. -/
def around (d : Definitions) (kind : Branch) (result : Progress × List Node) :
    Progress × List Node :=
  (result.1, lowerBranch d kind result.2)

section Walk

variable (hd : LeadsAs doc d) (hd' : LeadsAs doc d')

include hd hd'

-- some members of the block use the assumptions through others only
set_option linter.unusedSectionVars false

mutual

/-- The walk through a tree makes the same of it with links and images in place of references. -/
theorem lowerNode_resolveIn (p : Progress) : ∀ m : Markdown,
    lowerNode d' p (resolveIn doc m) = lowerNode d p m
  | .leaf kind => lowerLeaf_resolveLeaf hd hd' p kind
  | .branch kind children => by
    have hbranch : around d' (resolveBranch doc kind)
          (lowerAll d' (noteBranch p kind) (resolveAllIn doc children)) =
        around d kind (lowerAll d (noteBranch p kind) children) := by
      rw [lowerAll_resolveAllIn _ children, around, lowerBranch_resolveBranch hd hd']
      rfl
    cases kind with
    | list ordered spread start =>
      -- whether the list has tasks and whether it is loose is read off its parts
      have htask := any_resolveAllIn (isTask_resolveIn doc) children
      have hspread := any_resolveAllIn (isSpreadItem_resolveIn doc) children
      have hitems (loose : Bool) := lowerItems_resolveAllIn loose p children
      simp only [resolveIn, resolveBranch, lowerNode, htask, hspread, hitems]
    | listItem spread checked =>
      have hcontent := lowerContent_resolveAllIn spread p children
      simp only [resolveIn, resolveBranch, lowerNode, hcontent]
    | table alignment =>
      have hrows := lowerRows_resolveAllIn alignment "th" p children
      simp only [resolveIn, resolveBranch, lowerNode, hrows]
    -- what is passed over is passed over with links and images as well
    | tableRow => rfl
    | tableCell => rfl
    | footnoteDefinition identifier label => rfl
    | linkReference reference =>
      rw [resolveIn]
      rcases resolveBranch_linkReference doc reference with h | ⟨target, h⟩ <;>
        rw [h] at hbranch ⊢ <;> exact hbranch
    | _ => exact hbranch

/-- The walk through trees that stand side by side. -/
theorem lowerAll_resolveAllIn (p : Progress) : ∀ ms : List Markdown,
    lowerAll d' p (resolveAllIn doc ms) = lowerAll d p ms
  | [] => rfl
  | m :: rest => by
    have hnode := lowerNode_resolveIn p m
    have hrest (p : Progress) := lowerAll_resolveAllIn p rest
    exact andThen_congr hnode hrest

/-- The walk through the parts of a list. -/
theorem lowerItems_resolveAllIn (loose : Bool) (p : Progress) : ∀ ms : List Markdown,
    lowerItems d' loose p (resolveAllIn doc ms) = lowerItems d loose p ms
  | [] => rfl
  | .leaf kind :: rest => by
    have hleaf := lowerLeaf_resolveLeaf hd hd' p kind
    have hrest (p : Progress) := lowerItems_resolveAllIn loose p rest
    exact andThen_congr hleaf hrest
  | .branch kind children :: rest => by
    have hnode := lowerNode_resolveIn p (.branch kind children)
    have hrest (p : Progress) := lowerItems_resolveAllIn loose p rest
    cases kind with
    | listItem spread checked =>
      have hcontent := lowerContent_resolveAllIn loose p children
      simp only [resolveAllIn, resolveIn, resolveBranch, lowerItems, hcontent, hrest]
    -- a link is no item, and neither is a reference to one
    | linkReference reference =>
      rw [resolveIn] at hnode
      rw [resolveAllIn, resolveIn]
      rcases resolveBranch_linkReference doc reference with h | ⟨target, h⟩ <;>
        rw [h] at hnode ⊢ <;> exact andThen_congr hnode hrest
    | _ => exact andThen_congr hnode hrest

/-- The walk through the parts of an item. -/
theorem lowerContent_resolveAllIn (loose : Bool) (p : Progress) : ∀ ms : List Markdown,
    lowerContent d' loose p (resolveAllIn doc ms) = lowerContent d loose p ms
  | [] => rfl
  | .leaf kind :: rest => by
    have hleaf := lowerLeaf_resolveLeaf hd hd' p kind
    have hrest (p : Progress) := lowerContent_resolveAllIn loose p rest
    exact andThen_congr hleaf hrest
  | .branch kind children :: rest => by
    have hnode := lowerNode_resolveIn p (.branch kind children)
    have hrest (p : Progress) := lowerContent_resolveAllIn loose p rest
    cases kind with
    | paragraph =>
      have hall := lowerAll_resolveAllIn p children
      simp only [resolveAllIn, resolveIn, resolveBranch, lowerContent, hall, hrest]
    -- a link is no paragraph, and neither is a reference to one
    | linkReference reference =>
      rw [resolveIn] at hnode
      rw [resolveAllIn, resolveIn]
      rcases resolveBranch_linkReference doc reference with h | ⟨target, h⟩ <;>
        rw [h] at hnode ⊢ <;> exact andThen_congr hnode hrest
    | _ => exact andThen_congr hnode hrest

/-- The walk through the rows of a table. -/
theorem lowerRows_resolveAllIn (alignment : List Markdown.Alignment) (first : String)
    (p : Progress) : ∀ ms : List Markdown,
    lowerRows d' alignment first p (resolveAllIn doc ms) = lowerRows d alignment first p ms
  | [] => rfl
  | .leaf kind :: rest => lowerRows_resolveAllIn alignment first p rest
  | .branch kind children :: rest => by
    have hskipped := lowerRows_resolveAllIn alignment first p rest
    cases kind with
    | tableRow =>
      have hcells := lowerCells_resolveAllIn first alignment p children
      have hrest (p : Progress) := lowerRows_resolveAllIn alignment "td" p rest
      simp only [resolveAllIn, resolveIn, resolveBranch, lowerRows, hcells, hrest]
    | linkReference reference =>
      rw [resolveAllIn, resolveIn]
      rcases resolveBranch_linkReference doc reference with h | ⟨target, h⟩ <;>
        rw [h] <;> exact hskipped
    | _ => exact hskipped

/-- The walk through the cells of a row. -/
theorem lowerCells_resolveAllIn (tag : String) (alignment : List Markdown.Alignment)
    (p : Progress) : ∀ ms : List Markdown,
    lowerCells d' tag alignment p (resolveAllIn doc ms) = lowerCells d tag alignment p ms
  | [] => rfl
  | .leaf kind :: rest => lowerCells_resolveAllIn tag alignment.tail p rest
  | .branch kind children :: rest => by
    have hskipped := lowerCells_resolveAllIn tag alignment.tail p rest
    cases kind with
    | tableCell =>
      have hall := lowerAll_resolveAllIn p children
      have hrest (p : Progress) := lowerCells_resolveAllIn tag alignment.tail p rest
      simp only [resolveAllIn, resolveIn, resolveBranch, lowerCells, hall, hrest]
    | linkReference reference =>
      rw [resolveAllIn, resolveIn]
      rcases resolveBranch_linkReference doc reference with h | ⟨target, h⟩ <;>
        rw [h] <;> exact hskipped
    | _ => exact hskipped

end

end Walk

/-! ### Footnotes -/

/-- The items of footnotes whose texts have links and images in place of references. -/
theorem footnoteItems_resolved (m : Markdown) (p : Progress) (number : Nat) (ids : List String) :
    footnoteItems (.ofMarkdown m.resolved) p number ids =
      footnoteItems (.ofMarkdown m) p number ids := by
  induction ids generalizing p number with
  | nil => rfl
  | cons id rest ih =>
    rw [footnoteItems, footnoteItems, footnote?_resolved]
    cases (Definitions.ofMarkdown m).footnote? id with
    | none => exact ih _ _
    | some text =>
      have hitem : footnoteItem (.ofMarkdown m.resolved) p number id (resolveAllIn m text) =
          footnoteItem (.ofMarkdown m) p number id text := by
        rw [footnoteItem, footnoteItem,
          lowerAll_resolveAllIn (target?_ofMarkdown m) (leadsAs_resolved m)]
      simp only [Option.map_some, hitem, ih]

end Lowering

namespace Markdown

/-- A document is the same with links and images in place of the references whose labels are defined
in it. -/
theorem toDocument_resolved (m : Markdown) : m.resolved.toDocument = m.toDocument := by
  have hnode : Lowering.lowerNode (.ofMarkdown m.resolved) {} m.resolved =
      Lowering.lowerNode (.ofMarkdown m) {} m :=
    Lowering.lowerNode_resolveIn (target?_ofMarkdown m) (Lowering.leadsAs_resolved m) {} m
  have hsection (p : Progress) : Lowering.footnoteSection? (.ofMarkdown m.resolved) p =
      Lowering.footnoteSection? (.ofMarkdown m) p := by
    rw [Lowering.footnoteSection?, Lowering.footnoteSection?, Lowering.footnoteItems_resolved]
  simp only [toDocument, hnode, hsection]

/-- A definition counts behind its references, too, and within a footnote. -/
example :
    (branch .root [
      branch .paragraph [branch (.linkReference ⟨"Guide", none, .shortcut⟩) []],
      branch (.footnoteDefinition "1" none) [leaf (.definition "guide" none ⟨"/g", none⟩)]]
        ).resolved =
    branch .root [
      branch .paragraph [branch (.link ⟨"/g", none⟩) []],
      branch (.footnoteDefinition "1" none) [leaf (.definition "guide" none ⟨"/g", none⟩)]] := by
  rfl

end Markdown

end Manuscript
