import Manuscript.Document.Traversal

/-!
# Walks with a callback

A rewriting walk is bounded by a depth, as a callback may return a tree that is larger than the one it
was given. A function on trees that does to each node what the callback says, and goes on in the
children by itself, needs no bound: it is what the walk comes to. So it is what the walk makes of a
tree as soon as the walk may go as deep as the tree that comes out.

Visiting selected elements is rewriting with a callback that changes those elements and goes on in
the children of every node.

## Main definitions

* `Node.Rewrite.follow` — what a walk makes of the answer of a callback
* `Node.IsWalk` — a function on trees that does what a callback says
* `Node.asRewriter` — a function that changes elements as a rewriting callback

## Main results

* `mapWithState_append`, `mapWithState_map` — lists that are gone through with a state
* `IsWalk.rewrite_eq` — what a rewriting walk comes to
* `IsWalk.unique` — a callback determines what the walk comes to
* `visitMatching_eq_rewrite` — visiting is rewriting
* `IsWalk.visitMatching_eq` — what a visit comes to
-/

namespace Manuscript

/-! ### Maps with a state -/

section MapWithState

variable {σ τ α α' β β' : Type} {f : σ → α → σ × β} {g : τ → α' → τ × β'}

theorem mapWithState_append (s : σ) (as rest : List α) :
    mapWithState f s (as ++ rest) =
      ((mapWithState f (mapWithState f s as).1 rest).1,
        (mapWithState f s as).2 ++ (mapWithState f (mapWithState f s as).1 rest).2) := by
  induction as generalizing s with
  | nil => rfl
  | cons a as ih => simp only [List.cons_append, mapWithState, ih]

/-- If one step follows another, with its state, its argument and its result each seen through a
function, then so does the map. -/
theorem mapWithState_map (state : σ → τ) (argument : α → α') (result : β → β')
    (h : ∀ s a, g (state s) (argument a) = (state (f s a).1, result (f s a).2)) (s : σ)
    (as : List α) :
    mapWithState g (state s) (as.map argument) =
      (state (mapWithState f s as).1, (mapWithState f s as).2.map result) := by
  induction as generalizing s with
  | nil => rfl
  | cons a as ih => simp only [List.map_cons, mapWithState, h, ih]

/-- What the results have of their arguments only. -/
theorem map_snd_mapWithState {γ : Type} (result : β → γ) (argument : α → γ)
    (h : ∀ s a, result (f s a).2 = argument a) (s : σ) (as : List α) :
    (mapWithState f s as).2.map result = as.map argument := by
  induction as generalizing s with
  | nil => rfl
  | cons a as ih => simp only [List.map_cons, mapWithState, h, ih]

/-- A map that leaves the state alone. -/
theorem mapWithState_stateless (g : α → β) (s : σ) (as : List α) :
    mapWithState (fun s a => (s, g a)) s as = (s, as.map g) := by
  induction as with
  | nil => rfl
  | cons a as ih => simp only [mapWithState, ih, List.map_cons]

theorem exists_of_mem_snd_mapWithState {b : β} {s : σ} {as : List α}
    (h : b ∈ (mapWithState f s as).2) : ∃ s, ∃ a ∈ as, (f s a).2 = b := by
  induction as generalizing s with
  | nil => exact absurd h List.not_mem_nil
  | cons a as ih =>
    rcases List.mem_cons.mp h with rfl | hrest
    · exact ⟨s, a, List.mem_cons_self, rfl⟩
    · obtain ⟨s', a', ha', rfl⟩ := ih hrest
      exact ⟨s', a', List.mem_cons_of_mem a ha', rfl⟩

end MapWithState

namespace Node

variable {σ : Type} {F G : σ → Node → σ × Node} {depth : Nat} {s : σ} {n : Node}

/-- What a walk makes of the answer of a callback, where `below` goes on in the children. -/
def Rewrite.follow (below : σ → Node → σ × Node) (s : σ) : Rewrite → σ × Node
  | .descend n => withChildren (mapWithState below) s n
  | .skip n => (s, n)
  | .wrap inner wrapper =>
    ((withChildren (mapWithState below) s inner).1,
      (wrapper.append [(withChildren (mapWithState below) s inner).2]).toNode)

/-- A function on trees does to each node what a callback says, and goes on in the children by
itself. -/
def IsWalk (f : σ → Node → σ × Rewrite) (F : σ → Node → σ × Node) : Prop :=
  ∀ s n, F s n = (f s n).2.follow F (f s n).1

theorem rewrite_succ (f : σ → Node → σ × Rewrite) (depth : Nat) (s : σ) (n : Node) :
    rewrite f (depth + 1) s n = (f s n).2.follow (rewrite f depth) (f s n).1 := by
  rw [rewrite]
  rcases f s n with ⟨s, n | n | ⟨inner, wrapper⟩⟩ <;> rfl

/-! ### Depth -/

theorem depthAll_append (ns rest : List Node) :
    depthAll (ns ++ rest) = max (depthAll ns) (depthAll rest) := by
  induction ns with
  | nil => exact (Nat.zero_max _).symm
  | cons n ns ih => rw [List.cons_append, depthAll, depthAll, ih, Nat.max_assoc]

theorem depth_pos (n : Node) : 0 < n.depth := by
  cases n <;> exact Nat.succ_pos _

/-- Functions that do the same to shallow trees do the same to trees side by side. -/
theorem mapWithState_congr (h : ∀ s n, (F s n).2.depth ≤ depth → G s n = F s n) (s : σ)
    (ns : List Node) (hns : depthAll (mapWithState F s ns).2 ≤ depth) :
    mapWithState G s ns = mapWithState F s ns := by
  induction ns generalizing s with
  | nil => rfl
  | cons n rest ih =>
    obtain ⟨hfirst, hrest⟩ := Nat.max_le.mp hns
    rw [mapWithState, mapWithState, h s n hfirst]
    dsimp only
    rw [ih _ hrest]

theorem withChildren_congr (h : ∀ s n, (F s n).2.depth ≤ depth → G s n = F s n) (s : σ) (n : Node)
    (hn : (withChildren (mapWithState F) s n).2.depth ≤ depth + 1) :
    withChildren (mapWithState G) s n = withChildren (mapWithState F) s n := by
  cases n with
  | root children =>
    have hchildren := mapWithState_congr h s children (Nat.le_of_succ_le_succ hn)
    rw [withChildren, withChildren, hchildren]
  | element tag attributes children =>
    have hchildren := mapWithState_congr h s children (Nat.le_of_succ_le_succ hn)
    rw [withChildren, withChildren, hchildren]
  | leaf kind value => rfl

/-- Two ways of going on come to the same if they do the same to the trees that come out. -/
theorem Rewrite.follow_congr (h : ∀ s n, (F s n).2.depth ≤ depth → G s n = F s n) (s : σ)
    (answer : Rewrite) (hanswer : (answer.follow F s).2.depth ≤ depth + 1) :
    answer.follow G s = answer.follow F s := by
  cases answer with
  | descend n => exact withChildren_congr h s n hanswer
  | skip n => rfl
  | wrap inner wrapper =>
    -- the node comes out one level below its wrapper
    have hinner : (withChildren (mapWithState F) s inner).2.depth ≤ depth + 1 := by
      simp only [follow, Element.toNode, Element.append, Node.depth, depthAll_append,
        depthAll] at hanswer
      omega
    rw [follow, follow, withChildren_congr h s inner hinner]

/-! ### What a walk comes to -/

/-- A rewriting walk comes to any function that does what its callback says. -/
theorem IsWalk.rewrite_eq {f : σ → Node → σ × Rewrite} (h : IsWalk f F) (s : σ) (n : Node)
    (hdepth : (F s n).2.depth ≤ depth) : rewrite f depth s n = F s n := by
  -- what comes out gets less deep with every level, unlike what the callback is given
  induction depth generalizing s n with
  | zero => exact absurd (depth_pos _) (Nat.not_lt.mpr hdepth)
  | succ depth ih =>
    rw [h s n] at hdepth
    rw [rewrite_succ, h s n, Rewrite.follow_congr (fun s n => ih s n) _ _ hdepth]

/-- So does a rewriting walk that leaves the root alone. -/
theorem IsWalk.rewriteChildren_eq {f : σ → Node → σ × Rewrite} (h : IsWalk f F) (s : σ) (n : Node)
    (hdepth : (withChildren (mapWithState F) s n).2.depth ≤ depth + 1) :
    rewriteChildren f depth s n = withChildren (mapWithState F) s n :=
  withChildren_congr (fun s n => h.rewrite_eq s n) s n hdepth

/-- No two functions do what one callback says. -/
theorem IsWalk.unique {f : σ → Node → σ × Rewrite} (hF : IsWalk f F) (hG : IsWalk f G) : F = G := by
  funext s n
  have hleft := hF.rewrite_eq s n (Nat.le_max_left (F s n).2.depth (G s n).2.depth)
  have hright := hG.rewrite_eq s n (Nat.le_max_right (F s n).2.depth (G s n).2.depth)
  rw [← hleft, hright]

/-! ### Visits -/

variable (select : Element → Bool) (g : σ → Element → σ × Element)

/-- A function that changes elements as a rewriting callback: it is applied to selected elements, and
the walk goes on in the children of every node. -/
def asRewriter (s : σ) (n : Node) : σ × Rewrite :=
  match n.element? with
  | some e => if select e then ((g s e).1, .descend (g s e).2.toNode) else (s, .descend n)
  | none => (s, .descend n)

/-- An element that is not selected, or that the function does not change, is gone into as it is. -/
theorem asRewriter_element_eq_self {tag : String} {attributes : Attributes} {children : List Node}
    (h : select ⟨tag, attributes, children⟩ = true →
      g s ⟨tag, attributes, children⟩ = (s, ⟨tag, attributes, children⟩)) :
    asRewriter select g s (.element tag attributes children) =
      (s, .descend (.element tag attributes children)) := by
  simp only [asRewriter, element?]
  split
  · rename_i hselect
    rw [h hselect]
    rfl
  · rfl

/-- Visiting the selected elements is rewriting with a callback that changes them. -/
theorem visitMatching_eq_rewrite (depth : Nat) :
    visitMatching select g depth = rewrite (asRewriter select g) depth := by
  induction depth with
  | zero => rfl
  | succ depth ih =>
    funext s n
    rw [rewrite_succ, ← ih]
    cases n with
    | root children => rfl
    | element tag attributes children =>
      cases h : select ⟨tag, attributes, children⟩ with
      | true =>
        simp only [visitMatching, asRewriter, element?, h, if_true]
        rfl
      | false =>
        simp only [visitMatching, asRewriter, element?, h, Bool.false_eq_true, if_false]
        rfl
    | leaf kind value => rfl

/-- A visit comes to any function that changes the selected elements. -/
theorem IsWalk.visitMatching_eq {select : Element → Bool} {g : σ → Element → σ × Element}
    (h : IsWalk (asRewriter select g) F) (s : σ) (n : Node) (hdepth : (F s n).2.depth ≤ depth) :
    visitMatching select g depth s n = F s n := by
  rw [visitMatching_eq_rewrite, h.rewrite_eq s n hdepth]

end Node

end Manuscript
