import Manuscript.Markdown.Definitions

/-!
# The parts of a Markdown tree

Everything in a Markdown tree, at any depth, is a part of it. Definitions are looked for among all
parts, so what a definition holds is made of parts too.

## Main definitions

* `Markdown.parts` — the parts of a tree, in pre-order
* `Markdown.footnote?`, `Markdown.linkDefinition?` — what a part defines
* `Markdown.target?` — where a label leads in a document

## Main results

* `mem_parts_of_mem_children` — what a part holds are parts
* `footnoteDefinitions_eq`, `mem_parts_of_footnote?` — footnotes are parts
* `target?_ofMarkdown` — labels of links lead to the first part that defines them
-/

namespace Manuscript.Markdown

open Manuscript.Text.Unicode (toLower)

mutual

/-- The parts of a tree, the tree itself included, in pre-order. -/
def parts : Markdown → List Markdown
  | .branch kind children => .branch kind children :: partsAll children
  | .leaf kind => [.leaf kind]

/-- The parts of trees that stand side by side, in pre-order. -/
def partsAll : List Markdown → List Markdown
  | [] => []
  | m :: rest => parts m ++ partsAll rest

end

variable {m part : Markdown} {ms children : List Markdown} {kind : Branch} {id : String}

theorem mem_partsAll : part ∈ partsAll ms ↔ ∃ m ∈ ms, part ∈ m.parts := by
  induction ms with
  | nil => simp [partsAll]
  | cons m rest ih => simp [partsAll, ih]

theorem self_mem_parts (m : Markdown) : m ∈ m.parts := by
  cases m <;> simp [parts]

mutual

/-- Parts of parts are parts. -/
theorem mem_parts_trans {a b : Markdown} (hab : a ∈ b.parts) :
    ∀ m : Markdown, b ∈ m.parts → a ∈ m.parts
  | .branch kind children, hb => by
    rcases List.mem_cons.mp hb with rfl | hb
    · exact hab
    · exact List.mem_cons_of_mem _ (mem_partsAll_trans hab children hb)
  | .leaf kind, hb => by
    obtain rfl := List.mem_singleton.mp hb
    exact hab

theorem mem_partsAll_trans {a b : Markdown} (hab : a ∈ b.parts) :
    ∀ ms : List Markdown, b ∈ partsAll ms → a ∈ partsAll ms
  | [], hb => by cases hb
  | m :: rest, hb => by
    rw [partsAll] at hb ⊢
    rcases List.mem_append.mp hb with hb | hb
    · exact List.mem_append_left _ (mem_parts_trans hab m hb)
    · exact List.mem_append_right _ (mem_partsAll_trans hab rest hb)

end

/-- What a part of a tree holds are parts of the tree. -/
theorem mem_parts_of_mem_children (h : .branch kind children ∈ m.parts) (hpart : part ∈ children) :
    part ∈ m.parts := by
  refine mem_parts_trans ?_ m h
  rw [parts]
  exact List.mem_cons_of_mem _ (mem_partsAll.mpr ⟨part, hpart, self_mem_parts part⟩)

/-- What a part holds are parts of whatever the part is in. -/
theorem partsAll_children_subset (h : (branch kind children).parts ⊆ m.parts) :
    partsAll children ⊆ m.parts := by
  intro part hpart
  apply h
  exact List.mem_cons_of_mem _ hpart

/-! ### Footnotes -/

/-- The footnote that a part defines: its label in lower case, and its text. -/
def footnote? : Markdown → Option (String × List Markdown)
  | .branch (.footnoteDefinition identifier _) text => some (toLower identifier, text)
  | _ => none

mutual

/-- The footnotes of a tree are those that its parts define, in pre-order. -/
theorem footnoteDefinitions_eq : ∀ m : Markdown, m.footnoteDefinitions = m.parts.filterMap footnote?
  | .branch kind children => by
    rw [footnoteDefinitions, parts, List.filterMap_cons, footnoteDefinitionsAll_eq]
    cases kind <;> rfl
  | .leaf kind => rfl

theorem footnoteDefinitionsAll_eq : ∀ ms : List Markdown,
    footnoteDefinitionsAll ms = (partsAll ms).filterMap footnote?
  | [] => rfl
  | m :: rest => by
    rw [footnoteDefinitionsAll, partsAll, List.filterMap_append, footnoteDefinitions_eq,
      footnoteDefinitionsAll_eq]

end

/-- What a label refers to is one of the footnotes. -/
theorem mem_of_footnote?_ofMarkdown {text : List Markdown}
    (h : (Definitions.ofMarkdown m).footnote? id = some text) :
    (id, text) ∈ m.footnoteDefinitions := by
  obtain ⟨before, after, hsplit, -⟩ := List.lookup_eq_some_iff.mp h
  change m.footnoteDefinitions = _ at hsplit
  rw [hsplit]
  exact List.mem_append_right before List.mem_cons_self

/-- The text of a footnote is made of parts. -/
theorem mem_parts_of_footnote? {text : List Markdown}
    (h : (Definitions.ofMarkdown m).footnote? id = some text) (hpart : part ∈ text) :
    part ∈ m.parts := by
  have hmem : (id, text) ∈ m.parts.filterMap footnote? := by
    rw [← footnoteDefinitions_eq]
    exact mem_of_footnote?_ofMarkdown h
  obtain ⟨definition, hdefinition, hfootnote⟩ := List.mem_filterMap.mp hmem
  cases definition with
  | leaf kind => cases hfootnote
  | branch kind children =>
    cases kind <;> try cases hfootnote
    exact mem_parts_of_mem_children hdefinition hpart

/-! ### Links -/

/-- What a part defines for links: its label in lower case, and where it leads. -/
def linkDefinition? : Markdown → Option (String × Target)
  | .leaf (.definition identifier _ target) => some (toLower identifier, target)
  | _ => none

/-- Where a label leads in a document: to the target of its first definition in pre-order, whatever
the case of letters. -/
def target? (m : Markdown) (identifier : String) : Option Target :=
  m.parts.findSome? fun part => do
    let (label, target) ← part.linkDefinition?
    if toLower identifier = label then some target else none

mutual

/-- The definitions of a tree are those of its parts, in pre-order. -/
theorem linkDefinitions_eq : ∀ m : Markdown, m.linkDefinitions = m.parts.filterMap linkDefinition?
  | .branch kind children => by
    rw [linkDefinitions, parts, List.filterMap_cons, linkDefinitionsAll_eq]
    rfl
  | .leaf kind => by cases kind <;> rfl

theorem linkDefinitionsAll_eq : ∀ ms : List Markdown,
    linkDefinitionsAll ms = (partsAll ms).filterMap linkDefinition?
  | [] => rfl
  | m :: rest => by
    rw [linkDefinitionsAll, partsAll, List.filterMap_append, linkDefinitions_eq,
      linkDefinitionsAll_eq]

end

/-- Labels of links lead to the first part that defines them. -/
theorem target?_ofMarkdown (m : Markdown) (identifier : String) :
    (Definitions.ofMarkdown m).target? identifier = m.target? identifier := by
  -- both search the parts in pre-order, one of them through the list of all definitions
  change List.lookup (toLower identifier) m.linkDefinitions = _
  rw [linkDefinitions_eq, List.lookup_eq_findSome?, ← List.head?_filterMap,
    List.filterMap_filterMap, List.head?_filterMap, target?]
  simp [bind]

end Manuscript.Markdown
