import Manuscript.Proofs.Document.Attributes
import Manuscript.Proofs.Document.Paragraphs
import Manuscript.Proofs.Document.Places
import Manuscript.Proofs.Document.Walks

/-!
# The lead

The lead of a document is its first paragraph. One walk looks for it and stops there; another one
marks it, and leaves alone whatever comes after a paragraph was found. Both find the same paragraph,
so it makes no difference whether the lead is marked before it is taken out as the excerpt or
afterwards.

## Main results

* `isWalk_markLeadFrom`, `rewrite_leadStep` — marking as a rewriting walk
* `markLeadFrom_of_found`, `markLeadFrom_of_forall` — trees in which nothing is marked
* `markLeadFrom_eq_replaceAt` — the tree in which the lead is marked
* `markLead_spec` — the lead, the excerpt, and marking twice
-/

namespace Manuscript.Node

variable {n child marked : Node} {ns before after : List Node} {place : List Nat} {p : Element}

/-! ### The walk -/

/-- What marking the lead does with a node, where the state says whether a paragraph was found: it
stops at the first one, and passes whatever comes behind it. -/
def leadStep (found : Bool) (n : Node) : Bool × Rewrite :=
  if found then (true, .skip n)
  else
    match n.element? with
    | some e =>
      if e.isParagraph then (true, .skip (e.addClass "lead").toNode) else (false, .descend n)
    | none => (false, .descend n)

theorem markLeadAll_eq (found : Bool) (ns : List Node) :
    markLeadAll found ns = mapWithState markLeadFrom found ns := by
  induction ns generalizing found with
  | nil => rfl
  | cons n rest ih => simp only [markLeadAll, mapWithState, ih]

/-- Marking the lead is a walk that stops at the first paragraph. -/
theorem isWalk_markLeadFrom : IsWalk leadStep markLeadFrom := by
  intro found n
  cases found with
  | true => cases n <;> rfl
  | false =>
    cases n with
    | root children =>
      simp only [markLeadFrom, leadStep, element?, Bool.false_eq_true, if_false, markLeadAll_eq]
      rfl
    | element tag attributes children =>
      by_cases htag : tag = "p"
      · subst htag
        rfl
      · simp only [markLeadFrom, leadStep, element?, Element.isParagraph, htag, decide_false,
          Bool.false_eq_true, if_false, markLeadAll_eq]
        rfl
    | leaf kind value => rfl

/-- Marking the lead is rewriting with a callback that remembers whether it found a paragraph. -/
theorem rewrite_leadStep {depth : Nat} (h : n.markLead.depth ≤ depth) :
    (rewrite leadStep depth false n).2 = n.markLead :=
  congrArg Prod.snd (isWalk_markLeadFrom.rewrite_eq false n h)

/-! ### Nothing to mark -/

/-- Once a paragraph was found, nothing is marked any more. -/
theorem markLeadFrom_of_found (n : Node) : markLeadFrom true n = (true, n) := by
  cases n <;> rfl

theorem markLeadAll_of_found (ns : List Node) : markLeadAll true ns = (true, ns) := by
  induction ns with
  | nil => rfl
  | cons n rest ih => simp only [markLeadAll, markLeadFrom_of_found, ih]

private theorem markLeadAll_of_forall (h : ∀ n ∈ ns, markLeadFrom false n = (false, n)) :
    markLeadAll false ns = (false, ns) := by
  induction ns with
  | nil => rfl
  | cons n rest ih =>
    obtain ⟨hfirst, hrest⟩ := List.forall_mem_cons.mp h
    simp only [markLeadAll, hfirst, ih hrest]

/-- Without a paragraph nothing is marked, and none is found. -/
theorem markLeadFrom_of_forall (h : ∀ e ∈ n.elements, e.isParagraph = false) :
    markLeadFrom false n = (false, n) := by
  induction n using inductionOn with
  | root children ih =>
    have hchildren := markLeadAll_of_forall fun child hchild =>
      ih child hchild (forall_mem_elementsAll.mp h child hchild)
    simp only [markLeadFrom, hchildren, Bool.false_eq_true, if_false]
  | element tag attributes children ih =>
    obtain ⟨hself, hbelow⟩ := List.forall_mem_cons.mp h
    have htag : tag ≠ "p" := of_decide_eq_false hself
    have hchildren := markLeadAll_of_forall fun child hchild =>
      ih child hchild (forall_mem_elementsAll.mp hbelow child hchild)
    simp only [markLeadFrom, hchildren, htag, Bool.false_eq_true, if_false]
  | leaf kind value => rfl

/-! ### The lead is marked -/

/-- Of trees that stand side by side, those before the one with the first paragraph are passed, and
those behind it are left alone. -/
private theorem markLeadAll_append_cons
    (hbefore : ∀ e ∈ elementsAll before, e.isParagraph = false)
    (hchild : markLeadFrom false child = (true, marked)) :
    markLeadAll false (before ++ child :: after) = (true, before ++ marked :: after) := by
  induction before with
  | nil => simp only [List.nil_append, markLeadAll, hchild, markLeadAll_of_found]
  | cons m before ih =>
    rw [elementsAll, List.forall_mem_append] at hbefore
    simp only [List.cons_append, markLeadAll, markLeadFrom_of_forall hbefore.1, ih hbefore.2]

/-- The first paragraph of a tree is found and marked where it stands. -/
theorem markLeadFrom_eq_replaceAt (h : n.IsFirstAt Element.isParagraph place p) :
    markLeadFrom false n = (true, n.replaceAt place (p.addClass "lead").toNode) := by
  induction place generalizing n with
  | nil =>
    -- the tree itself is the paragraph, and what stands in it is not looked at
    obtain ⟨rfl, hp⟩ := isFirstAt_nil_iff.mp h
    have htag : p.tag = "p" := of_decide_eq_true hp
    rw [replaceAt_nil]
    simp [Element.toNode, markLeadFrom, htag, Element.addClass]
  | cons i place ih =>
    obtain ⟨hown, before, child, after, hchildren, rfl, hbefore, hfirst⟩ := isFirstAt_cons_iff.mp h
    have hmarked : markLeadAll false (before ++ child :: after) =
        (true, before ++ child.replaceAt place (p.addClass "lead").toNode :: after) :=
      markLeadAll_append_cons hbefore (ih hfirst)
    cases n with
    | root children =>
      obtain rfl : children = before ++ child :: after := hchildren
      simp only [markLeadFrom, replaceAt, hmarked, modify_append_cons, Bool.false_eq_true, if_false]
    | element tag attributes children =>
      obtain rfl : children = before ++ child :: after := hchildren
      have htag : tag ≠ "p" := of_decide_eq_false (hown _ rfl)
      simp only [markLeadFrom, replaceAt, hmarked, modify_append_cons, htag, Bool.false_eq_true,
        if_false]
    | leaf kind value =>
      -- a leaf has no children
      exact absurd hchildren.symm (List.append_ne_nil_of_right_ne_nil _ (List.cons_ne_nil _ _))

/-- The lead of a tree with a paragraph: the first paragraph gets the class, where it stands, and is
the first paragraph still. -/
theorem IsFirstAt.markLead_eq (h : n.IsFirstAt Element.isParagraph place p) :
    n.markLead = n.replaceAt place (p.addClass "lead").toNode ∧
      n.markLead.IsFirstAt Element.isParagraph place (p.addClass "lead") := by
  have hmarked : n.markLead = n.replaceAt place (p.addClass "lead").toNode :=
    congrArg Prod.snd (markLeadFrom_eq_replaceAt h)
  refine ⟨hmarked, ?_⟩
  rw [hmarked]
  exact h.replaceAt (fun _ _ => rfl) h.selected

theorem IsFirstAt.firstParagraph?_eq (h : n.IsFirstAt Element.isParagraph place p) :
    n.firstParagraph? = some p := by
  rw [Node.firstParagraph?_eq, h.find?_eq]

/-- Marking the lead a second time changes nothing. -/
theorem IsFirstAt.markLead_markLead (h : n.IsFirstAt Element.isParagraph place p) :
    n.markLead.markLead = n.markLead := by
  obtain ⟨hmarked, hlead⟩ := h.markLead_eq
  have hclass : (p.addClass "lead").addClass "lead" = p.addClass "lead" :=
    congrArg (Element.mk p.tag · p.children) Attributes.addClass_addClass
  rw [hlead.markLead_eq.1, hclass, hmarked, replaceAt_replaceAt]

/-- The lead is marked in the excerpt as it is in the document. -/
theorem IsFirstAt.excerptTree_markLead (h : n.IsFirstAt Element.isParagraph place p) :
    n.markLead.excerptTree = n.excerptTree.markLead := by
  rw [markLead_excerptTree_of_some h.find?_eq, excerptTree, h.markLead_eq.2.firstParagraph?_eq]
  rfl

theorem markLead_of_forall (h : ∀ e ∈ n.elements, e.isParagraph = false) : n.markLead = n :=
  congrArg Prod.snd (markLeadFrom_of_forall h)

theorem excerptTree_of_forall (h : ∀ e ∈ n.elements, e.isParagraph = false) :
    n.excerptTree = .root [] := by
  have hnone : n.elements.find? Element.isParagraph = none := by
    simpa [List.find?_eq_none] using h
  rw [excerptTree, firstParagraph?_eq, hnone]
  rfl

/-- Marking the lead and taking it out find the same paragraph. A tree without paragraphs stays and
has an empty excerpt. In any other tree the first paragraph in pre-order is the one that is found,
marking the lead gives it the class `lead` and changes neither another attribute nor another node,
and it is the first paragraph then. So the lead may be marked before the excerpt is made or
afterwards, and marking it twice is the same as marking it once. -/
theorem markLead_spec (n : Node) :
    ((∀ e ∈ n.elements, e.isParagraph = false) ∧ n.markLead = n ∧ n.excerptTree = .root [] ∨
      ∃ place p, n.IsFirstAt Element.isParagraph place p ∧ n.firstParagraph? = some p ∧
        n.markLead = n.replaceAt place (p.addClass "lead").toNode ∧
        (p.addClass "lead").removeAttr "class" = p.removeAttr "class" ∧
        (p.addClass "lead").classes =
          (if "lead" ∈ p.classes then p.classes else p.classes ++ ["lead"]) ∧
        n.markLead.firstParagraph? = some (p.addClass "lead")) ∧
      n.markLead.excerptTree = n.excerptTree.markLead ∧
      n.markLead.markLead = n.markLead := by
  by_cases hexists : ∃ e ∈ n.elements, e.isParagraph = true
  · obtain ⟨place, p, hfirst⟩ := exists_isFirstAt hexists
    obtain ⟨hmarked, hlead⟩ := hfirst.markLead_eq
    have hothers : (p.addClass "lead").removeAttr "class" = p.removeAttr "class" :=
      congrArg (Element.mk p.tag · p.children) Attributes.erase_addClass
    exact ⟨.inr ⟨place, p, hfirst, hfirst.firstParagraph?_eq, hmarked, hothers,
      Attributes.classes_addClass, hlead.firstParagraph?_eq⟩, hfirst.excerptTree_markLead,
      hfirst.markLead_markLead⟩
  · have hnone : ∀ e ∈ n.elements, e.isParagraph = false := by
      intro e he
      exact Bool.eq_false_iff.mpr fun hp => hexists ⟨e, he, hp⟩
    have hstays := markLead_of_forall hnone
    have hempty := excerptTree_of_forall hnone
    refine ⟨.inl ⟨hnone, hstays, hempty⟩, ?_, by rw [hstays, hstays]⟩
    rw [hstays, hempty]
    rfl

end Manuscript.Node
