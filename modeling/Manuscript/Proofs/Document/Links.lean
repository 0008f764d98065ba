import Manuscript.Document.Links
import Manuscript.Proofs.Document.Attributes
import Manuscript.Proofs.Document.Elements
import Manuscript.Proofs.Document.Walks

/-!
# Links and the elements around them

Wrapping the links of a tree puts every link into an element of its own, once. A link that is alone
in such an element stays there, and taking all of these elements away again gives what it gives for
the old tree.

A node is one of five: a root, a link, an element around a link together with that link, any other
element, or a leaf. Wrapping and unwrapping have one equation for each, and `linkInduction` has one
case for each.

## Main definitions

* `Node.unwrapLinks` — a tree with its links taken out of the elements around them
* `Node.LinksWrapped` — every link of a tree is alone in an element around links

## Main results

* `isWalk_wrapLinks`, `rewrite_linkStep` — wrapping as a rewriting walk
* `linksWrapped_wrapLinks` — every link is wrapped
* `wrapLinks_wrapLinks` — no link is wrapped twice
* `unwrapLinks_wrapLinks` — nothing but wrappers is added
* `wrapper_mem_subtrees_wrapLinks` — wrappers are kept
* `wrapLinks_spec` — all of this for a whole tree
-/

namespace Manuscript.Node

mutual

/-- A tree with its links taken out of the elements around them. -/
def unwrapLinks : Node → Node
  | .root children => .root (unwrapLinksAll children)
  | .element tag attributes children =>
    match isLinkWrapper tag attributes children, unwrapLinksAll children with
    | true, [link] => link
    | _, children => .element tag attributes children
  | .leaf kind value => .leaf kind value

/-- Trees that stand side by side, with their links taken out of the elements around them. -/
def unwrapLinksAll : List Node → List Node
  | [] => []
  | n :: rest => unwrapLinks n :: unwrapLinksAll rest

end

/-- A link among the children of a node is its only child, and the node is a `span` of the class for
links. -/
def ChildLinksWrapped (parent : Node) : Prop :=
  ∀ link ∈ parent.children, link.hasTag "a" = true →
    ∃ attributes, parent = .element "span" attributes [link] ∧
      linkWrapperClass ∈ attributes.classes

/-- Every link of a tree is alone in a `span` of the class for links, so the tree is no link
itself. -/
def LinksWrapped (n : Node) : Prop :=
  n.hasTag "a" = false ∧ ∀ parent ∈ n.subtrees, parent.ChildLinksWrapped

variable {tag : String} {attributes linkAttributes : Attributes} {children below : List Node}

/-! ### Elements around links -/

theorem isLinkWrapper_iff :
    isLinkWrapper tag attributes children = true ↔
      tag = "span" ∧ linkWrapperClass ∈ attributes.classes ∧
        ∃ linkAttributes below, children = [.element "a" linkAttributes below] := by
  unfold isLinkWrapper
  rw [Bool.and_eq_true, Bool.and_eq_true, decide_eq_true_eq, List.contains_iff_mem, and_assoc]
  refine and_congr_right' (and_congr_right' ?_)
  rcases children with _ | ⟨only, _ | ⟨second, others⟩⟩
  · simp
  · simp [hasTag_eq_true_iff]
  · simp

theorem isLinkWrapper_of_mem (h : linkWrapperClass ∈ attributes.classes) :
    isLinkWrapper "span" attributes [.element "a" linkAttributes below] = true :=
  isLinkWrapper_iff.mpr ⟨rfl, h, linkAttributes, below, rfl⟩

/-- A link is no element around a link. -/
theorem isLinkWrapper_link : isLinkWrapper "a" attributes children = false :=
  rfl

theorem mem_classes_linkWrapperAttributes : linkWrapperClass ∈ linkWrapperAttributes.classes := by
  decide

/-- Induction on trees that tells links and the elements around them from other elements. -/
@[elab_as_elim]
theorem linkInduction {motive : Node → Prop}
    (root : ∀ children, (∀ child ∈ children, motive child) → motive (.root children))
    (link : ∀ attributes children, (∀ child ∈ children, motive child) →
      motive (.element "a" attributes children))
    (wrapper : ∀ attributes linkAttributes below, linkWrapperClass ∈ attributes.classes →
      (∀ child ∈ below, motive child) →
      motive (.element "span" attributes [.element "a" linkAttributes below]))
    (other : ∀ tag attributes children, tag ≠ "a" → isLinkWrapper tag attributes children = false →
      (∀ child ∈ children, motive child) → motive (.element tag attributes children))
    (leaf : ∀ kind value, motive (.leaf kind value)) (n : Node) : motive n := by
  -- in an element around a link, the induction goes on below the link
  suffices h : motive n ∧ ∀ child ∈ n.children, motive child from h.1
  induction n using inductionOn with
  | root children ih =>
    have hchildren := fun child hchild => (ih child hchild).1
    exact ⟨root children hchildren, hchildren⟩
  | element tag attributes children ih =>
    have hchildren := fun child hchild => (ih child hchild).1
    refine ⟨?_, hchildren⟩
    by_cases htag : tag = "a"
    · rw [htag]
      exact link attributes children hchildren
    · cases hwrapper : isLinkWrapper tag attributes children with
      | false => exact other tag attributes children htag hwrapper hchildren
      | true =>
        obtain ⟨rfl, hclass, linkAttributes, below, rfl⟩ := isLinkWrapper_iff.mp hwrapper
        exact wrapper attributes linkAttributes below hclass (ih _ List.mem_cons_self).2
  | leaf kind value => exact ⟨leaf kind value, fun _ h => absurd h List.not_mem_nil⟩

/-! ### One node -/

theorem wrapLinksAll_eq_map (ns : List Node) : wrapLinksAll ns = ns.map wrapLinks := by
  induction ns with
  | nil => rfl
  | cons n rest ih => rw [wrapLinksAll, ih, List.map_cons]

theorem unwrapLinksAll_eq_map (ns : List Node) : unwrapLinksAll ns = ns.map unwrapLinks := by
  induction ns with
  | nil => rfl
  | cons n rest ih => rw [unwrapLinksAll, ih, List.map_cons]

theorem wrapLinks_root : (root children).wrapLinks = .root (children.map wrapLinks) := by
  rw [wrapLinks, wrapLinksAll_eq_map]

theorem wrapLinks_link :
    (element "a" attributes children).wrapLinks =
      .element "span" linkWrapperAttributes
        [.element "a" attributes (children.map wrapLinks)] := by
  rw [wrapLinks, if_pos rfl, wrapLinksAll_eq_map]

theorem wrapLinks_wrapper (h : linkWrapperClass ∈ attributes.classes) :
    (element "span" attributes [.element "a" linkAttributes below]).wrapLinks =
      .element "span" attributes [.element "a" linkAttributes (below.map wrapLinks)] := by
  rw [wrapLinks, if_neg (by decide), if_pos (isLinkWrapper_of_mem h), wrapLinksBelow,
    wrapLinksAll_eq_map, wrapLinksBelow]

theorem wrapLinks_other (htag : tag ≠ "a") (h : isLinkWrapper tag attributes children = false) :
    (element tag attributes children).wrapLinks =
      .element tag attributes (children.map wrapLinks) := by
  rw [wrapLinks, if_neg htag, if_neg (Bool.eq_false_iff.mp h), wrapLinksAll_eq_map]

/-! ### The walk -/

/-- What wrapping does with a node: a link is put into an element of its own, an element around a link
stays while the walk goes on below the link, and any other node is gone into. -/
def linkStep {σ : Type} (s : σ) (n : Node) : σ × Rewrite :=
  match n with
  | .element tag attributes children =>
    if tag = "a" then (s, .wrap n ⟨"span", linkWrapperAttributes, []⟩)
    else if isLinkWrapper tag attributes children then
      (s, .skip (.element tag attributes (wrapLinksBelow children)))
    else (s, .descend n)
  | n => (s, .descend n)

section Walk

variable {σ : Type} {depth : Nat} {n : Node}

/-- Wrapping links is a walk. -/
theorem isWalk_wrapLinks : IsWalk linkStep fun (s : σ) n => (s, n.wrapLinks) := by
  intro s n
  cases n with
  | root children =>
    simp only [linkStep, Rewrite.follow, withChildren, mapWithState_stateless, wrapLinks_root]
  | element tag attributes children =>
    by_cases htag : tag = "a"
    · subst htag
      simp only [linkStep, if_true, Rewrite.follow, withChildren, mapWithState_stateless,
        wrapLinks_link]
      rfl
    · cases hwrapper : isLinkWrapper tag attributes children with
      | true =>
        simp only [linkStep, if_neg htag, hwrapper, if_true, Rewrite.follow, wrapLinks]
      | false =>
        simp only [linkStep, if_neg htag, hwrapper, Bool.false_eq_true, if_false, Rewrite.follow,
          withChildren, mapWithState_stateless, wrapLinks_other htag hwrapper]
  | leaf kind value => rfl

theorem rewrite_linkStep (s : σ) (h : n.wrapLinks.depth ≤ depth) :
    rewrite linkStep depth s n = (s, n.wrapLinks) :=
  isWalk_wrapLinks.rewrite_eq s n h

/-- Below a link that stays in its element, the walk leaves the link alone and goes on in its
children. -/
theorem wrapLinksBelow_singleton (s : σ) (h : depthAll (wrapLinksBelow [n]) ≤ depth + 1) :
    wrapLinksBelow [n] = [(rewriteChildren linkStep depth s n).2] := by
  have hbelow : wrapLinksBelow [n] =
      [(withChildren (mapWithState fun (s : σ) n => (s, n.wrapLinks)) s n).2] := by
    cases n <;>
      simp only [wrapLinksBelow, wrapLinksAll_eq_map, withChildren, mapWithState_stateless]
  rw [hbelow, depthAll, depthAll, Nat.max_zero] at h
  rw [hbelow, isWalk_wrapLinks.rewriteChildren_eq s n h]

end Walk

/-! ### Unwrapping -/

theorem unwrapLinks_root : (root children).unwrapLinks = .root (children.map unwrapLinks) := by
  rw [unwrapLinks, unwrapLinksAll_eq_map]

/-- An element that is not one around a link stays. -/
theorem unwrapLinks_other (h : isLinkWrapper tag attributes children = false) :
    (element tag attributes children).unwrapLinks =
      .element tag attributes (children.map unwrapLinks) := by
  rw [unwrapLinks, h, unwrapLinksAll_eq_map]

theorem unwrapLinks_link :
    (element "a" attributes children).unwrapLinks =
      .element "a" attributes (children.map unwrapLinks) :=
  unwrapLinks_other isLinkWrapper_link

theorem unwrapLinks_wrapper (h : linkWrapperClass ∈ attributes.classes) :
    (element "span" attributes [.element "a" linkAttributes below]).unwrapLinks =
      .element "a" linkAttributes (below.map unwrapLinks) := by
  rw [unwrapLinks, isLinkWrapper_of_mem h, unwrapLinksAll_eq_map, List.map_singleton,
    unwrapLinks_link]

/-- What comes out of wrapping is no link. -/
theorem hasTag_wrapLinks (n : Node) : n.wrapLinks.hasTag "a" = false := by
  induction n using linkInduction with
  | root children => rw [wrapLinks_root]; rfl
  | link attributes children => rw [wrapLinks_link]; rfl
  | wrapper attributes linkAttributes below hclass => rw [wrapLinks_wrapper hclass]; rfl
  | other tag attributes children htag hother =>
    rw [wrapLinks_other htag hother]
    exact decide_eq_false htag
  | leaf kind value => rfl

/-- Wrapping the children of an element does not make it one around a link. -/
theorem isLinkWrapper_map_wrapLinks :
    isLinkWrapper tag attributes (children.map wrapLinks) = false := by
  rw [Bool.eq_false_iff, ne_eq, isLinkWrapper_iff]
  rintro ⟨-, -, linkAttributes, below, hlink⟩
  have hmem : .element "a" linkAttributes below ∈ children.map wrapLinks := by
    rw [hlink]
    exact List.mem_cons_self
  -- the only child would have come out of wrapping, and nothing that does is a link
  obtain ⟨child, -, hchild⟩ := List.mem_map.mp hmem
  have hnot := hasTag_wrapLinks child
  rw [hchild] at hnot
  cases hnot

/-! ### Wrapping twice, and unwrapping -/

private theorem map_map_eq {f g k : Node → Node} {ns : List Node}
    (h : ∀ n ∈ ns, f (g n) = k n) : (ns.map g).map f = ns.map k := by
  rw [List.map_map]
  exact List.map_congr_left h

/-- No link is wrapped twice. -/
theorem wrapLinks_wrapLinks (n : Node) : n.wrapLinks.wrapLinks = n.wrapLinks := by
  induction n using linkInduction with
  | root children ih => rw [wrapLinks_root, wrapLinks_root, map_map_eq ih]
  | link attributes children ih =>
    rw [wrapLinks_link, wrapLinks_wrapper mem_classes_linkWrapperAttributes, map_map_eq ih]
  | wrapper attributes linkAttributes below hclass ih =>
    rw [wrapLinks_wrapper hclass, wrapLinks_wrapper hclass, map_map_eq ih]
  | other tag attributes children htag hother ih =>
    rw [wrapLinks_other htag hother, wrapLinks_other htag isLinkWrapper_map_wrapLinks,
      map_map_eq ih]
  | leaf kind value => rfl

/-- Wrapping adds nothing but elements around links. -/
theorem unwrapLinks_wrapLinks (n : Node) : n.wrapLinks.unwrapLinks = n.unwrapLinks := by
  induction n using linkInduction with
  | root children ih => rw [wrapLinks_root, unwrapLinks_root, unwrapLinks_root, map_map_eq ih]
  | link attributes children ih =>
    rw [wrapLinks_link, unwrapLinks_wrapper mem_classes_linkWrapperAttributes, unwrapLinks_link,
      map_map_eq ih]
  | wrapper attributes linkAttributes below hclass ih =>
    rw [wrapLinks_wrapper hclass, unwrapLinks_wrapper hclass, unwrapLinks_wrapper hclass,
      map_map_eq ih]
  | other tag attributes children htag hother ih =>
    rw [wrapLinks_other htag hother, unwrapLinks_other isLinkWrapper_map_wrapLinks,
      unwrapLinks_other hother, map_map_eq ih]
  | leaf kind value => rfl

/-! ### Every link in an element around it -/

/-- A node without links among its children. -/
theorem childLinksWrapped_of_not_hasTag {parent : Node}
    (h : ∀ child ∈ parent.children, child.hasTag "a" = false) : parent.ChildLinksWrapped := by
  intro link hlink htag
  rw [h link hlink] at htag
  cases htag

/-- A tree that is no link, above trees whose links are wrapped. -/
theorem linksWrapped_of_children {n : Node} (hn : n.hasTag "a" = false)
    (h : ∀ child ∈ n.children, child.LinksWrapped) : n.LinksWrapped := by
  refine ⟨hn, fun parent hparent => ?_⟩
  rcases mem_subtrees_iff.mp hparent with rfl | ⟨child, hchild, hparent⟩
  · exact childLinksWrapped_of_not_hasTag fun child hchild => (h child hchild).1
  · exact (h child hchild).2 parent hparent

/-- An element around a link, above trees whose links are wrapped. -/
theorem linksWrapped_wrapper (hclass : linkWrapperClass ∈ attributes.classes)
    (h : ∀ n ∈ below, n.LinksWrapped) :
    (element "span" attributes [.element "a" linkAttributes below]).LinksWrapped := by
  refine ⟨rfl, fun parent hparent => ?_⟩
  rcases mem_subtrees_iff.mp hparent with rfl | ⟨link, hlink, hparent⟩
  · intro child hchild _
    obtain rfl := List.mem_singleton.mp hchild
    exact ⟨attributes, rfl, hclass⟩
  · obtain rfl := List.mem_singleton.mp hlink
    rcases mem_subtrees_iff.mp hparent with rfl | ⟨n, hn, hparent⟩
    · exact childLinksWrapped_of_not_hasTag fun n hn => (h n hn).1
    · exact (h n hn).2 parent hparent

/-- Every link is alone in an element around links once links are wrapped. -/
theorem linksWrapped_wrapLinks (n : Node) : n.wrapLinks.LinksWrapped := by
  induction n using linkInduction with
  | root children ih =>
    rw [wrapLinks_root]
    exact linksWrapped_of_children rfl (List.forall_mem_map.mpr ih)
  | link attributes children ih =>
    rw [wrapLinks_link]
    exact linksWrapped_wrapper mem_classes_linkWrapperAttributes (List.forall_mem_map.mpr ih)
  | wrapper attributes linkAttributes below hclass ih =>
    rw [wrapLinks_wrapper hclass]
    exact linksWrapped_wrapper hclass (List.forall_mem_map.mpr ih)
  | other tag attributes children htag hother ih =>
    rw [wrapLinks_other htag hother]
    exact linksWrapped_of_children (decide_eq_false htag) (List.forall_mem_map.mpr ih)
  | leaf kind value =>
    exact linksWrapped_of_children rfl fun _ h => absurd h List.not_mem_nil

/-! ### Elements around links are kept -/

/-- What stands in the children of a node stands there after wrapping if it does in each child. -/
private theorem wrapLinks_mem_subtrees_of_children {s n : Node} {ns : List Node}
    (hchildren : n.children = ns.map wrapLinks)
    (ih : ∀ child ∈ ns, s ∈ child.subtrees → s.wrapLinks ∈ child.wrapLinks.subtrees)
    (h : ∃ child ∈ ns, s ∈ child.subtrees) : s.wrapLinks ∈ n.subtrees := by
  obtain ⟨child, hchild, hs⟩ := h
  refine mem_subtrees_iff.mpr (.inr ⟨child.wrapLinks, ?_, ih child hchild hs⟩)
  rw [hchildren]
  exact List.mem_map_of_mem hchild

/-- An element around a link is kept, with what becomes of the nodes below the link. -/
theorem wrapper_mem_subtrees_wrapLinks (n : Node) (hclass : linkWrapperClass ∈ attributes.classes)
    (h : .element "span" attributes [.element "a" linkAttributes below] ∈ n.subtrees) :
    .element "span" attributes [.element "a" linkAttributes (below.map wrapLinks)] ∈
      n.wrapLinks.subtrees := by
  rw [← wrapLinks_wrapper hclass]
  generalize hwrapper : element "span" attributes [.element "a" linkAttributes below] = wrapper
    at h ⊢
  -- a link is no element around a link, so this one stands below it
  have hlink {attributes : Attributes} {ns : List Node}
      (h : wrapper ∈ (element "a" attributes ns).subtrees) : ∃ n ∈ ns, wrapper ∈ n.subtrees := by
    refine (mem_subtrees_iff.mp h).resolve_left fun heq => ?_
    rw [← hwrapper] at heq
    exact absurd (element.inj heq).1 (by decide)
  induction n using linkInduction with
  | root children ih =>
    rw [wrapLinks_root]
    refine wrapLinks_mem_subtrees_of_children rfl ih ((mem_subtrees_iff.mp h).resolve_left ?_)
    rintro rfl
    cases hwrapper
  | link attributes children ih =>
    rw [wrapLinks_link]
    refine mem_subtrees_iff.mpr (.inr ⟨_, List.mem_cons_self, ?_⟩)
    exact wrapLinks_mem_subtrees_of_children rfl ih (hlink h)
  | wrapper attributes linkAttributes below hclass ih =>
    rcases mem_subtrees_iff.mp h with rfl | ⟨link, hmem, h⟩
    · exact self_mem_subtrees _
    · obtain rfl := List.mem_singleton.mp hmem
      rw [wrapLinks_wrapper hclass]
      refine mem_subtrees_iff.mpr (.inr ⟨_, List.mem_cons_self, ?_⟩)
      exact wrapLinks_mem_subtrees_of_children rfl ih (hlink h)
  | other tag attributes children htag hother ih =>
    rw [wrapLinks_other htag hother]
    refine wrapLinks_mem_subtrees_of_children rfl ih ((mem_subtrees_iff.mp h).resolve_left ?_)
    rintro rfl
    obtain ⟨rfl, rfl, rfl⟩ := element.inj hwrapper
    rw [isLinkWrapper_of_mem hclass] at hother
    cases hother
  | leaf kind value =>
    rw [List.mem_singleton.mp h] at hwrapper
    cases hwrapper

/-! ### The whole pass -/

/-- Wrapping the links of a tree: every link is alone in an element around links then; wrapping
again changes nothing; without the elements around links the tree is what it was; and those that it
had are kept as they are. -/
theorem wrapLinks_spec (n : Node) :
    n.wrapLinks.LinksWrapped ∧ n.wrapLinks.wrapLinks = n.wrapLinks ∧
      n.wrapLinks.unwrapLinks = n.unwrapLinks ∧
      ∀ attributes linkAttributes below, linkWrapperClass ∈ attributes.classes →
        .element "span" attributes [.element "a" linkAttributes below] ∈ n.subtrees →
        .element "span" attributes [.element "a" linkAttributes (below.map wrapLinks)] ∈
          n.wrapLinks.subtrees :=
  ⟨linksWrapped_wrapLinks n, wrapLinks_wrapLinks n, unwrapLinks_wrapLinks n,
    fun _ _ _ hclass h => wrapper_mem_subtrees_wrapLinks n hclass h⟩

/-- A link that is not alone in an element around links gets one of its own. -/
example : wrapLinks (.element "span" linkWrapperAttributes [.text "see ", .element "a" ∅ []]) =
    .element "span" linkWrapperAttributes
      [.text "see ", .element "span" linkWrapperAttributes [.element "a" ∅ []]] := by
  rfl

end Manuscript.Node
