import Manuscript.Document.Paragraphs
import Manuscript.Proofs.Document.Leaves
import Manuscript.Proofs.Document.Walks

/-!
# Paragraphs in paragraphs

A paragraph whose only child is a paragraph, blank texts apart, is a shell of that paragraph. It
comes down to the innermost one, which is no shell. Collapsing the paragraphs of a tree puts for
every node what it comes down to and goes on in the children of that. It leaves no shell, as no
child turns into a paragraph or a blank text on the way.

## Main definitions

* `Node.IsShellOf` — a paragraph whose only child is a given paragraph, blank texts apart
* `Node.HasNoShells` — a tree without shells, at any depth
* `Node.core` — what a node comes down to

## Main results

* `soleParagraph?_eq_some_iff` — when a paragraph is the only child
* `shellInduction`, `coreInduction` — induction that takes shells away from the outside
* `soleParagraph?_map_collapseParagraphs` — collapsing children makes no shell
* `isWalk_collapseParagraphs`, `rewrite_core` — shells are taken away before a walk goes on in the
  children
* `collapseParagraphs_normalForm` — no shells are left, and without shells a tree stays
-/

namespace Manuscript.Node

/-- A paragraph whose only child is a given paragraph, blank texts apart. -/
def IsShellOf (n p : Node) : Prop :=
  n.hasTag "p" = true ∧ p.hasTag "p" = true ∧
    ∃ before after, n.children = before ++ p :: after ∧
      ∀ m ∈ before ++ after, m.isBlankText = true

/-- A paragraph whose only child is a paragraph, blank texts apart. -/
def IsShell (n : Node) : Prop := ∃ p, n.IsShellOf p

/-- No node of a tree, at any depth, is a shell. -/
def HasNoShells (n : Node) : Prop := ∀ m ∈ n.subtrees, ¬ m.IsShell

variable {tag : String} {attributes : Attributes} {children ns : List Node} {n p : Node}

/-! ### Shells -/

private theorem soleParagraph?_eq_some_iff_filter :
    soleParagraph? ns = some p ↔
      p.hasTag "p" = true ∧ ns.filter (fun m => !m.isBlankText) = [p] := by
  unfold soleParagraph?
  generalize ns.filter (fun m => !m.isBlankText) = kept
  rcases kept with _ | ⟨only, _ | ⟨second, rest⟩⟩
  · simp
  · by_cases htag : only.hasTag "p" = true
    · simp only [htag, if_true, Option.some.injEq, List.cons.injEq, and_true]
      exact ⟨fun h => ⟨h ▸ htag, h⟩, fun h => h.2⟩
    · simp only [htag, List.cons.injEq, and_true]
      exact ⟨fun h => (nomatch h), fun h => absurd (h.2 ▸ h.1) htag⟩
  · simp

/-- A paragraph is the only one among nodes if all nodes before and behind it are blank texts. -/
theorem soleParagraph?_eq_some_iff :
    soleParagraph? ns = some p ↔
      p.hasTag "p" = true ∧ ∃ before after, ns = before ++ p :: after ∧
        ∀ m ∈ before ++ after, m.isBlankText = true := by
  rw [soleParagraph?_eq_some_iff_filter, List.filter_eq_cons_iff]
  refine and_congr_right fun htag => ⟨?_, ?_⟩
  · rintro ⟨before, after, hns, hbefore, -, hafter⟩
    refine ⟨before, after, hns, fun m hm => ?_⟩
    rcases List.mem_append.mp hm with hm | hm
    · simpa using hbefore m hm
    · simpa using List.filter_eq_nil_iff.mp hafter m hm
  · rintro ⟨before, after, hns, hblank⟩
    have hp : p.isBlankText = false := by
      obtain ⟨attributes, children, rfl⟩ := hasTag_eq_true_iff.mp htag
      rfl
    refine ⟨before, after, hns, fun m hm => ?_, by simp [hp], ?_⟩
    · simp [hblank m (List.mem_append_left _ hm)]
    · exact List.filter_eq_nil_iff.mpr fun m hm => by simp [hblank m (List.mem_append_right _ hm)]

theorem isShellOf_element_iff :
    (element tag attributes children).IsShellOf p ↔
      tag = "p" ∧ soleParagraph? children = some p := by
  rw [IsShellOf, soleParagraph?_eq_some_iff, hasTag, decide_eq_true_eq]
  rfl

/-- Only an element is a shell. -/
theorem IsShellOf.exists_eq (h : n.IsShellOf p) :
    ∃ attributes children, n = .element "p" attributes children ∧
      soleParagraph? children = some p := by
  obtain ⟨attributes, children, rfl⟩ := hasTag_eq_true_iff.mp h.1
  exact ⟨attributes, children, rfl, (isShellOf_element_iff.mp h).2⟩

theorem not_isShell_root : ¬ (root children).IsShell :=
  fun ⟨_, h⟩ => Bool.false_ne_true h.1

theorem not_isShell_leaf {kind : LeafKind} {value : String} : ¬ (leaf kind value).IsShell :=
  fun ⟨_, h⟩ => Bool.false_ne_true h.1

theorem IsShellOf.mem_children (h : n.IsShellOf p) : p ∈ n.children := by
  obtain ⟨-, -, before, after, hchildren, -⟩ := h
  rw [hchildren]
  exact List.mem_append_right _ List.mem_cons_self

/-- Induction on trees that takes shells away from the outside before it goes on in the children. -/
@[elab_as_elim]
theorem shellInduction {motive : Node → Prop}
    (shell : ∀ n p, n.IsShellOf p → motive p → motive n)
    (root : ∀ children, (∀ child ∈ children, motive child) → motive (.root children))
    (element : ∀ tag attributes children,
      ¬ (Node.element tag attributes children).IsShell →
      (∀ child ∈ children, motive child) → motive (.element tag attributes children))
    (leaf : ∀ kind value, motive (.leaf kind value)) (n : Node) : motive n := by
  induction n using inductionOn with
  | root children ih => exact root children ih
  | element tag attributes children ih =>
    by_cases h : (Node.element tag attributes children).IsShell
    · -- the paragraph in a shell is one of its children
      obtain ⟨p, hp⟩ := h
      exact shell _ p hp (ih p hp.mem_children)
    · exact element tag attributes children h ih
  | leaf kind value => exact leaf kind value

/-- Induction that takes shells away and stays out of the children of what is left. -/
@[elab_as_elim]
theorem coreInduction {motive : Node → Prop}
    (shell : ∀ n p, n.IsShellOf p → motive p → motive n)
    (core : ∀ n, ¬ n.IsShell → motive n) (n : Node) : motive n := by
  induction n using shellInduction with
  | shell n p hshell ih => exact shell n p hshell ih
  | root children => exact core _ not_isShell_root
  | element tag attributes children hnot => exact core _ hnot
  | leaf kind value => exact core _ not_isShell_leaf

/-! ### One node -/

theorem collapseParagraphsAll_eq_map (ns : List Node) :
    collapseParagraphsAll ns = ns.map collapseParagraphs := by
  induction ns with
  | nil => rfl
  | cons n rest ih => rw [collapseParagraphsAll, ih, List.map_cons]

theorem collapseParagraphs_root :
    (root children).collapseParagraphs = .root (children.map collapseParagraphs) := by
  rw [collapseParagraphs, collapseParagraphsAll_eq_map]

theorem collapseParagraphs_element :
    (element tag attributes children).collapseParagraphs =
      if tag = "p" then
        (soleParagraph? (children.map collapseParagraphs)).getD
          (.element tag attributes (children.map collapseParagraphs))
      else .element tag attributes (children.map collapseParagraphs) := by
  rw [collapseParagraphs, collapseParagraphsAll_eq_map]

/-- What comes out of collapsing an element is an element of the same tag. -/
theorem exists_collapseParagraphs_element (tag : String) (attributes : Attributes)
    (children : List Node) :
    ∃ a below, (element tag attributes children).collapseParagraphs = .element tag a below := by
  rw [collapseParagraphs_element]
  split
  · rename_i htag
    cases h : soleParagraph? (children.map collapseParagraphs) with
    | some p =>
      obtain ⟨a, below, rfl⟩ := hasTag_eq_true_iff.mp (soleParagraph?_eq_some_iff.mp h).1
      exact ⟨a, below, htag ▸ rfl⟩
    | none => exact ⟨_, _, rfl⟩
  · exact ⟨_, _, rfl⟩

/-- What is the same for all roots and for all elements of a tag is not changed by collapsing. -/
theorem apply_collapseParagraphs {α : Type} {q : Node → α}
    (hroot : ∀ children below, q (.root below) = q (.root children))
    (helement : ∀ tag attributes children a below,
      q (.element tag a below) = q (.element tag attributes children))
    (n : Node) : q n.collapseParagraphs = q n := by
  cases n with
  | root children =>
    rw [collapseParagraphs_root]
    exact hroot ..
  | element tag attributes children =>
    obtain ⟨a, below, h⟩ := exists_collapseParagraphs_element tag attributes children
    rw [h]
    exact helement ..
  | leaf kind value => rfl

@[simp] theorem hasTag_collapseParagraphs (n : Node) :
    n.collapseParagraphs.hasTag tag = n.hasTag tag :=
  apply_collapseParagraphs (q := hasTag tag) (fun _ _ => rfl) (fun _ _ _ _ _ => rfl) n

@[simp] theorem isBlankText_collapseParagraphs (n : Node) :
    n.collapseParagraphs.isBlankText = n.isBlankText :=
  apply_collapseParagraphs (fun _ _ => rfl) (fun _ _ _ _ _ => rfl) n

/-- Collapsing the children of a node makes none of them its only paragraph that was not. -/
theorem soleParagraph?_map_collapseParagraphs (ns : List Node) :
    soleParagraph? (ns.map collapseParagraphs) = (soleParagraph? ns).map collapseParagraphs := by
  -- the same children are left out as before
  have hblank : (fun m => !isBlankText m) ∘ collapseParagraphs = fun m => !m.isBlankText := by
    funext m
    simp
  unfold soleParagraph?
  rw [List.filter_map, hblank]
  generalize ns.filter (fun m => !m.isBlankText) = kept
  rcases kept with _ | ⟨only, _ | ⟨second, rest⟩⟩
  · rfl
  · by_cases htag : only.hasTag "p" = true <;> simp [htag]
  · rfl

/-- A shell collapses to what the paragraph in it collapses to. -/
theorem IsShellOf.collapseParagraphs_eq (h : n.IsShellOf p) :
    n.collapseParagraphs = p.collapseParagraphs := by
  obtain ⟨attributes, children, rfl, hsole⟩ := h.exists_eq
  -- after its children were collapsed it is a shell of what that paragraph collapses to
  rw [collapseParagraphs_element, if_pos rfl, soleParagraph?_map_collapseParagraphs, hsole]
  rfl

/-- An element that is no shell stays, and its children are collapsed. -/
theorem collapseParagraphs_of_not_isShell (h : ¬ (element tag attributes children).IsShell) :
    (element tag attributes children).collapseParagraphs =
      .element tag attributes (children.map collapseParagraphs) := by
  rw [collapseParagraphs_element]
  split
  · rename_i htag
    have hsole : soleParagraph? children = none :=
      Option.eq_none_iff_forall_ne_some.mpr fun p hp => h ⟨p, isShellOf_element_iff.mpr ⟨htag, hp⟩⟩
    rw [soleParagraph?_map_collapseParagraphs, hsole]
    rfl
  · rfl

/-! ### Shells first -/

/-- The paragraph in a shell. -/
def innerParagraph? : Node → Option Node
  | .element tag _ children => if tag = "p" then soleParagraph? children else none
  | _ => none

theorem innerParagraph?_eq_some_iff : n.innerParagraph? = some p ↔ n.IsShellOf p := by
  cases n with
  | root children => exact ⟨fun h => (nomatch h), fun h => absurd ⟨p, h⟩ not_isShell_root⟩
  | element tag attributes children =>
    rw [isShellOf_element_iff, innerParagraph?]
    split <;> simp_all
  | leaf kind value => exact ⟨fun h => (nomatch h), fun h => absurd ⟨p, h⟩ not_isShell_leaf⟩

theorem depth_le_depthAll (h : n ∈ ns) : n.depth ≤ depthAll ns := by
  induction ns with
  | nil => cases h
  | cons m rest ih =>
    rw [depthAll]
    rcases List.mem_cons.mp h with rfl | h
    · exact Nat.le_max_left _ _
    · exact Nat.le_trans (ih h) (Nat.le_max_right _ _)

theorem depth_lt_of_mem_children {child : Node} (h : child ∈ n.children) : child.depth < n.depth := by
  cases n with
  | root children => exact Nat.lt_succ_of_le (depth_le_depthAll h)
  | element tag attributes children => exact Nat.lt_succ_of_le (depth_le_depthAll h)
  | leaf kind value => cases h

/-- What a node comes down to: as long as it is a shell, the paragraph in it takes its place. -/
def core (n : Node) : Node :=
  match h : n.innerParagraph? with
  | some p =>
    have : p.depth < n.depth :=
      depth_lt_of_mem_children (innerParagraph?_eq_some_iff.mp h).mem_children
    p.core
  | none => n
termination_by n.depth

theorem IsShellOf.core_eq (h : n.IsShellOf p) : n.core = p.core := by
  rw [core]
  split
  · rename_i q hq
    rw [innerParagraph?_eq_some_iff.mpr h] at hq
    rw [Option.some.inj hq]
  · rename_i hnone
    rw [innerParagraph?_eq_some_iff.mpr h] at hnone
    cases hnone

theorem core_of_not_isShell (h : ¬ n.IsShell) : n.core = n := by
  rw [core]
  split
  · rename_i p hp
    exact absurd ⟨p, innerParagraph?_eq_some_iff.mp hp⟩ h
  · rfl

theorem not_isShell_core (n : Node) : ¬ n.core.IsShell := by
  induction n using coreInduction with
  | shell n p hshell ih =>
    rw [hshell.core_eq]
    exact ih
  | core n hnot =>
    rw [core_of_not_isShell hnot]
    exact hnot

theorem collapseParagraphs_core (n : Node) : n.core.collapseParagraphs = n.collapseParagraphs := by
  induction n using coreInduction with
  | shell n p hshell ih => rw [hshell.core_eq, ih, hshell.collapseParagraphs_eq]
  | core n hnot => rw [core_of_not_isShell hnot]

/-- Collapsing paragraphs is the walk that puts for every node what it comes down to, and goes on in
the children of that. -/
theorem isWalk_collapseParagraphs {σ : Type} :
    IsWalk (fun s m => (s, .descend m.core)) fun (s : σ) n => (s, n.collapseParagraphs) := by
  intro s n
  have hnot := not_isShell_core n
  simp only [← collapseParagraphs_core n, Rewrite.follow]
  generalize n.core = m at hnot ⊢
  cases m with
  | root children =>
    rw [withChildren, mapWithState_stateless, collapseParagraphs_root]
  | element tag attributes children =>
    rw [withChildren, mapWithState_stateless, collapseParagraphs_of_not_isShell hnot]
  | leaf kind value => rfl

theorem depthAll_map_le {g : Node → Node} (h : ∀ m ∈ ns, (g m).depth ≤ m.depth) :
    depthAll (ns.map g) ≤ depthAll ns := by
  induction ns with
  | nil => exact Nat.le_refl _
  | cons m rest ih =>
    obtain ⟨hfirst, hrest⟩ := List.forall_mem_cons.mp h
    have hbelow := ih hrest
    rw [List.map_cons, depthAll, depthAll]
    omega

theorem depth_collapseParagraphs_le (n : Node) : n.collapseParagraphs.depth ≤ n.depth := by
  induction n using shellInduction with
  | shell n p hshell ih =>
    rw [hshell.collapseParagraphs_eq]
    exact Nat.le_trans ih (Nat.le_of_lt (depth_lt_of_mem_children hshell.mem_children))
  | root children ih =>
    rw [collapseParagraphs_root]
    exact Nat.succ_le_succ (depthAll_map_le ih)
  | element tag attributes children hnot ih =>
    rw [collapseParagraphs_of_not_isShell hnot]
    exact Nat.succ_le_succ (depthAll_map_le ih)
  | leaf kind value => exact Nat.le_refl _

theorem rewrite_core {depth : Nat} (h : n.depth ≤ depth) :
    (rewrite (fun (s : Unit) m => (s, .descend m.core)) depth () n).2 = n.collapseParagraphs :=
  congrArg Prod.snd <|
    isWalk_collapseParagraphs.rewrite_eq () n (Nat.le_trans (depth_collapseParagraphs_le n) h)

/-! ### The normal form -/

/-- An element that is no shell does not become one when its children are collapsed. -/
theorem not_isShell_map_collapseParagraphs (h : ¬ (element tag attributes children).IsShell) :
    ¬ (element tag attributes (children.map collapseParagraphs)).IsShell := by
  rintro ⟨p, hp⟩
  obtain ⟨htag, hsole⟩ := isShellOf_element_iff.mp hp
  rw [soleParagraph?_map_collapseParagraphs] at hsole
  obtain ⟨q, hq, -⟩ := Option.map_eq_some_iff.mp hsole
  exact h ⟨q, isShellOf_element_iff.mpr ⟨htag, hq⟩⟩

/-- A node that is no shell, above trees without shells. -/
theorem hasNoShells_of_children (hn : ¬ n.IsShell)
    (h : ∀ child ∈ n.children, child.HasNoShells) : n.HasNoShells := by
  intro m hm
  rcases mem_subtrees_iff.mp hm with rfl | ⟨child, hchild, hm⟩
  · exact hn
  · exact h child hchild m hm

/-- Without shells in a tree there are none in its children. -/
theorem HasNoShells.of_mem_children (h : n.HasNoShells) {child : Node}
    (hchild : child ∈ n.children) : child.HasNoShells :=
  fun m hm => h m (mem_subtrees_iff.mpr (.inr ⟨child, hchild, hm⟩))

theorem hasNoShells_collapseParagraphs (n : Node) : n.collapseParagraphs.HasNoShells := by
  induction n using shellInduction with
  | shell n p hshell ih =>
    rw [hshell.collapseParagraphs_eq]
    exact ih
  | root children ih =>
    rw [collapseParagraphs_root]
    exact hasNoShells_of_children not_isShell_root (List.forall_mem_map.mpr ih)
  | element tag attributes children hnot ih =>
    rw [collapseParagraphs_of_not_isShell hnot]
    exact hasNoShells_of_children (not_isShell_map_collapseParagraphs hnot)
      (List.forall_mem_map.mpr ih)
  | leaf kind value =>
    exact hasNoShells_of_children not_isShell_leaf fun _ h => absurd h List.not_mem_nil

/-- A tree without shells stays as it is. -/
theorem HasNoShells.collapseParagraphs_eq_self (h : n.HasNoShells) : n.collapseParagraphs = n := by
  induction n using inductionOn with
  | root children ih =>
    rw [collapseParagraphs_root,
      List.map_congr_left fun child hchild => ih child hchild (h.of_mem_children hchild),
      List.map_id']
  | element tag attributes children ih =>
    rw [collapseParagraphs_of_not_isShell (h _ (self_mem_subtrees _)),
      List.map_congr_left fun child hchild => ih child hchild (h.of_mem_children hchild),
      List.map_id']
  | leaf kind value => rfl

/-- Collapsing paragraphs leaves no paragraph whose only child is a paragraph, blank texts apart;
collapsing again changes nothing; the trees that stay are those without such a paragraph; and it is
the traversal that puts for every node what it comes down to. -/
theorem collapseParagraphs_normalForm (n : Node) :
    n.collapseParagraphs.HasNoShells ∧
      n.collapseParagraphs.collapseParagraphs = n.collapseParagraphs ∧
      (n.collapseParagraphs = n ↔ n.HasNoShells) ∧
      (rewrite (fun (s : Unit) m => (s, .descend m.core)) n.depth () n).2 =
        n.collapseParagraphs := by
  have hnone := hasNoShells_collapseParagraphs n
  refine ⟨hnone, hnone.collapseParagraphs_eq_self, ⟨fun h => ?_, fun h => ?_⟩,
    rewrite_core (Nat.le_refl _)⟩
  · rwa [h] at hnone
  · exact h.collapseParagraphs_eq_self

/-- A blank text beside the inner paragraph leaves the outer one a shell; a comment does not. -/
example :
    collapseParagraphs (.element "p" ∅ [.text "\n", .element "p" ∅ [
      .comment "draft", .element "p" ∅ [.text "deep"]]]) =
    .element "p" ∅ [.comment "draft", .element "p" ∅ [.text "deep"]] := by
  rfl

end Manuscript.Node
