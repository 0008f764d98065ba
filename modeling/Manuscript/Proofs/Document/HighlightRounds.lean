import Mathlib.Data.List.Flatten
import Mathlib.Data.List.Perm.Basic
import Manuscript.Proofs.Document.Highlighting

/-!
# How often highlighting asks

Highlighting asks for blocks of a tree in pre-order and for none of them twice; it leaves out those in
code that takes highlighted nodes. But it goes into the nodes that it put there as into any others, so
it asks for the blocks in them too, and for those in what it gets for these. So it asks for more than
the blocks of the tree as soon as there is one block in what it gets, and it never comes to an end if
there is one each time.

## Main definitions

* `Node.blockRequests` — what can be asked for in a tree
* `Node.ownRequests` — what is asked for in a tree, leaving highlighted nodes alone
* `Node.AsksForTreeOnly` — only blocks of the tree are asked for

## Main results

* `ownRequests_sublist_blockRequests` — each block of a tree is asked for once at most
* `highlightRequests_perm` — each request brings with it those of the nodes that it gives
* `asksForTreeOnly_iff` — when there are no further requests
* `lt_length_requests` — when there is no end of them
-/

namespace Manuscript

variable {highlighter : Highlighter} {parser : MarkupParser}
  {fresh : RequestTrace → List Node → RequestTrace × List Node}
  {tag : String} {attributes : Attributes} {children ns : List Node}

/-- The language and the text for which an element asks if it is a block. -/
def Element.request? (e : Element) : Option (String × String) :=
  if e.isPre then highlightRequest? e.children else none

/-- What is asked for on behalf of the nodes that a request gives. -/
def freshRequests (highlighter : Highlighter) (parser : MarkupParser)
    (fresh : RequestTrace → List Node → RequestTrace × List Node) (request : String × String) :
    List (String × String) :=
  match highlightedNodes? highlighter parser request.1 request.2 with
  | some nodes => (fresh ⟨[], []⟩ nodes).1.state
  | none => []

namespace Node

/-- The requests of all blocks of a tree, in pre-order. -/
def blockRequests (n : Node) : List (String × String) := n.elements.filterMap Element.request?

/-- What highlighting a tree asks for if it leaves highlighted nodes alone. -/
def ownRequests (highlighter : Highlighter) (parser : MarkupParser) (n : Node) :
    List (String × String) :=
  n.highlightRequests highlighter parser fun t ns => (t, ns)

/-- Highlighting asks for blocks of the tree only. -/
structure AsksForTreeOnly (highlighter : Highlighter) (parser : MarkupParser) (n : Node) :
    Prop where
  /-- It asks finitely often. -/
  finite : ∃ bound, ∀ rounds,
    (n.highlightCodeBlocks highlighter parser rounds).1.state.length ≤ bound
  /-- It asks for each block at most once. -/
  once : ∀ rounds,
    (n.highlightCodeBlocks highlighter parser rounds).1.state.Sublist n.blockRequests
  /-- It asks for nothing in highlighted nodes. -/
  own : ∀ rounds,
    (n.highlightCodeBlocks highlighter parser rounds).1.state = n.ownRequests highlighter parser

/-! ### Blocks -/

theorem filterMap_elementsAll (ns : List Node) :
    (elementsAll ns).filterMap Element.request? = ns.flatMap blockRequests := by
  induction ns with
  | nil => rfl
  | cons n rest ih => rw [elementsAll, List.filterMap_append, ih, List.flatMap_cons, blockRequests]

theorem blockRequests_root : (root children).blockRequests = children.flatMap blockRequests :=
  filterMap_elementsAll children

theorem blockRequests_toNode (b : CodeBlock) :
    b.toNode.blockRequests = (b.language, b.source) :: b.children.flatMap blockRequests := by
  have hrequest : Element.request? ⟨"pre", b.attributes, b.children⟩ =
      some (b.language, b.source) := b.highlightRequest?_children
  rw [blockRequests, CodeBlock.toNode, elements, List.filterMap_cons_some hrequest,
    filterMap_elementsAll]

theorem blockRequests_other (hnot : tag = "pre" → highlightRequest? children = none) :
    (element tag attributes children).blockRequests = children.flatMap blockRequests := by
  have hrequest : Element.request? ⟨tag, attributes, children⟩ = none := by
    by_cases htag : tag = "pre"
    · rw [Element.request?, hnot htag, ite_self]
    · exact if_neg (mt of_decide_eq_true htag)
  rw [blockRequests, elements, List.filterMap_cons_none hrequest, filterMap_elementsAll]

/-! ### Requests of the tree -/

/-- What was put into code is left alone. -/
theorem addsRequests_keep :
    AddsRequests fun (t : RequestTrace) (ns : List Node) => (t, ns) :=
  ⟨fun _ _ => (List.append_nil _).symm, fun _ _ => rfl⟩

theorem ownRequests_root :
    (root children).ownRequests highlighter parser =
      children.flatMap (·.ownRequests highlighter parser) :=
  (yields_root (addsRequests_keep.isRegular children)).eq.1

theorem ownRequests_other (hnot : tag = "pre" → highlightRequest? children = none) :
    (element tag attributes children).ownRequests highlighter parser =
      children.flatMap (·.ownRequests highlighter parser) :=
  (yields_other hnot (addsRequests_keep.isRegular children)).eq.1

theorem ownRequests_toNode_of_some {b : CodeBlock} {nodes : List Node}
    (hnodes : highlightedNodes? highlighter parser b.language b.source = some nodes) :
    b.toNode.ownRequests highlighter parser =
      (b.language, b.source) ::
        (b.before.flatMap (·.ownRequests highlighter parser) ++
          b.after.flatMap (·.ownRequests highlighter parser)) :=
  (yields_toNode_of_some addsRequests_keep hnodes (addsRequests_keep.isRegular b.children)).eq.1

theorem ownRequests_toNode_of_none {b : CodeBlock}
    (hnodes : highlightedNodes? highlighter parser b.language b.source = none) :
    b.toNode.ownRequests highlighter parser =
      (b.language, b.source) :: b.children.flatMap (·.ownRequests highlighter parser) :=
  (yields_toNode_of_none hnodes (addsRequests_keep.isRegular b.children)).eq.1

/-- What lists the request of each block in pre-order, and those of the nodes before and behind its
code, lists what is asked for in a tree. -/
private theorem ownRequests_sublist {requests : Node → List (String × String)}
    (hroot : ∀ children : List Node, (children.flatMap requests).Sublist (requests (.root children)))
    (hblock : ∀ (b : CodeBlock) nodes,
      highlightedNodes? highlighter parser b.language b.source = some nodes →
        ((b.language, b.source) :: (b.before.flatMap requests ++ b.after.flatMap requests)).Sublist
          (requests b.toNode))
    (hplain : ∀ b : CodeBlock, highlightedNodes? highlighter parser b.language b.source = none →
      ((b.language, b.source) :: b.children.flatMap requests).Sublist (requests b.toNode))
    (hother : ∀ tag attributes (children : List Node),
      (tag = "pre" → highlightRequest? children = none) →
        (children.flatMap requests).Sublist (requests (.element tag attributes children)))
    (n : Node) : (n.ownRequests highlighter parser).Sublist (requests n) := by
  induction n using blockInduction with
  | root children ih =>
    rw [ownRequests_root]
    exact (List.Sublist.flatMap_right children ih).trans (hroot children)
  | block b ih =>
    cases hnodes : highlightedNodes? highlighter parser b.language b.source with
    | some nodes =>
      rw [ownRequests_toNode_of_some hnodes]
      have hbefore := List.Sublist.flatMap_right b.before fun n hn =>
        ih n (List.mem_append_left _ hn)
      have hafter := List.Sublist.flatMap_right b.after fun n hn =>
        ih n (List.mem_append_right _ (List.mem_cons_of_mem _ hn))
      exact ((hbefore.append hafter).cons_cons _).trans (hblock b nodes hnodes)
    | none =>
      rw [ownRequests_toNode_of_none hnodes]
      exact ((List.Sublist.flatMap_right b.children ih).cons_cons _).trans (hplain b hnodes)
  | other tag attributes children hnot ih =>
    rw [ownRequests_other hnot]
    exact (List.Sublist.flatMap_right children ih).trans (hother tag attributes children hnot)
  | leaf kind value => exact List.nil_sublist _

/-- Highlighting that leaves highlighted nodes alone asks for blocks of the tree, for each at most
once. -/
theorem ownRequests_sublist_blockRequests (highlighter : Highlighter) (parser : MarkupParser)
    (n : Node) :
    (n.ownRequests highlighter parser).Sublist n.blockRequests := by
  refine ownRequests_sublist (fun children => ?_) (fun b nodes _ => ?_) (fun b _ => ?_)
    (fun tag attributes children hnot => ?_) n
  · rw [blockRequests_root]
  · -- the blocks that stood in the code are left out
    rw [blockRequests_toNode, CodeBlock.children, List.flatMap_append, List.flatMap_cons]
    exact ((List.sublist_append_right _ _).append_left _).cons_cons _
  · rw [blockRequests_toNode]
  · rw [blockRequests_other hnot]

/-- There is something to ask for in a tree if and only if there is a block. -/
theorem ownRequests_eq_nil_iff {n : Node} :
    n.ownRequests highlighter parser = [] ↔ n.blockRequests = [] := by
  constructor
  · intro h
    induction n using blockInduction with
    | root children ih =>
      rw [ownRequests_root, List.flatMap_eq_nil_iff] at h
      rw [blockRequests_root, List.flatMap_eq_nil_iff]
      exact fun child hchild => ih child hchild (h child hchild)
    | block b ih =>
      cases hnodes : highlightedNodes? highlighter parser b.language b.source with
      | some nodes => rw [ownRequests_toNode_of_some hnodes] at h; cases h
      | none => rw [ownRequests_toNode_of_none hnodes] at h; cases h
    | other tag attributes children hnot ih =>
      rw [ownRequests_other hnot, List.flatMap_eq_nil_iff] at h
      rw [blockRequests_other hnot, List.flatMap_eq_nil_iff]
      exact fun child hchild => ih child hchild (h child hchild)
    | leaf kind value => rfl
  · intro h
    exact List.sublist_nil.mp (h ▸ n.ownRequests_sublist_blockRequests highlighter parser)

/-! ### Requests of highlighted nodes -/

/-- Whatever is done with highlighted nodes, what is asked for in the tree is asked for. -/
theorem ownRequests_sublist_highlightRequests (hfresh : AddsRequests fresh) (n : Node) :
    (n.ownRequests highlighter parser).Sublist (n.highlightRequests highlighter parser fresh) := by
  refine ownRequests_sublist (fun children => ?_) (fun b nodes hnodes => ?_) (fun b hnodes => ?_)
    (fun tag attributes children hnot => ?_) n
  · rw [(yields_root (hfresh.isRegular children)).eq.1]
  · rw [(yields_toNode_of_some hfresh hnodes (hfresh.isRegular b.children)).eq.1]
    exact ((List.sublist_append_right _ _).append_left _).cons_cons _
  · rw [(yields_toNode_of_none hnodes (hfresh.isRegular b.children)).eq.1]
  · rw [(yields_other hnot (hfresh.isRegular children)).eq.1]

/-- Each request brings with it those of the nodes that it gives, and there are no others. -/
theorem highlightRequests_perm (hfresh : AddsRequests fresh) (n : Node) :
    (n.highlightRequests highlighter parser fresh).Perm
      ((n.ownRequests highlighter parser).flatMap fun request =>
        request :: freshRequests highlighter parser fresh request) := by
  have hall {ns : List Node} (h : ∀ n ∈ ns, (n.highlightRequests highlighter parser fresh).Perm
      ((n.ownRequests highlighter parser).flatMap fun request =>
        request :: freshRequests highlighter parser fresh request)) :
      (ns.flatMap (·.highlightRequests highlighter parser fresh)).Perm
        ((ns.flatMap (·.ownRequests highlighter parser)).flatMap fun request =>
          request :: freshRequests highlighter parser fresh request) := by
    rw [List.flatMap_assoc]
    exact List.Perm.flatMap_left ns h
  induction n using blockInduction with
  | root children ih =>
    rw [ownRequests_root, (yields_root (hfresh.isRegular children)).eq.1]
    exact hall ih
  | block b ih =>
    cases hnodes : highlightedNodes? highlighter parser b.language b.source with
    | some nodes =>
      rw [ownRequests_toNode_of_some hnodes,
        (yields_toNode_of_some hfresh hnodes (hfresh.isRegular b.children)).eq.1, List.flatMap_cons,
        List.flatMap_append, freshRequests, hnodes, List.cons_append]
      have hbefore := hall fun n hn => ih n (List.mem_append_left _ hn)
      have hafter := hall fun n hn => ih n (List.mem_append_right _ (List.mem_cons_of_mem _ hn))
      -- the nodes come behind what stands before the code
      refine List.Perm.cons _ ((List.perm_append_comm_assoc _ _ _).trans ?_)
      exact (hbefore.append hafter).append_left _
    | none =>
      rw [ownRequests_toNode_of_none hnodes,
        (yields_toNode_of_none hnodes (hfresh.isRegular b.children)).eq.1, List.flatMap_cons,
        freshRequests, hnodes]
      exact (hall ih).cons _
  | other tag attributes children hnot ih =>
    rw [ownRequests_other hnot, (yields_other hnot (hfresh.isRegular children)).eq.1]
    exact hall ih
  | leaf kind value => exact List.Perm.refl _

private theorem length_flatMap_cons_eq_iff {α : Type} {f : α → List α} {l : List α} :
    (l.flatMap fun a => a :: f a).length = l.length ↔ ∀ a ∈ l, f a = [] := by
  induction l with
  | nil => simp
  | cons a rest ih =>
    have hle : rest.length ≤ (rest.flatMap fun a => a :: f a).length := by
      have hsublist := List.Sublist.flatMap_right rest fun a _ =>
        (List.nil_sublist (f a)).cons_cons a
      rw [List.flatMap_singleton'] at hsublist
      exact hsublist.length_le
    rw [List.flatMap_cons, List.length_append, List.length_cons, List.length_cons,
      List.forall_mem_cons, ← ih, ← List.length_eq_zero_iff]
    omega

/-- There are no requests but those in the tree if and only if none of them brings one with it. -/
theorem highlightRequests_eq_ownRequests_iff (hfresh : AddsRequests fresh) {n : Node} :
    n.highlightRequests highlighter parser fresh = n.ownRequests highlighter parser ↔
      ∀ request ∈ n.ownRequests highlighter parser,
        freshRequests highlighter parser fresh request = [] := by
  rw [← length_flatMap_cons_eq_iff, ← (highlightRequests_perm hfresh n).length_eq]
  constructor
  · exact fun h => congrArg List.length h
  · exact fun h => ((n.ownRequests_sublist_highlightRequests hfresh).eq_of_length h.symm).symm

/-! ### Rounds -/

/-- What is asked for in some rounds. -/
theorem requests_highlightCodeBlocks_perm (highlighter : Highlighter) (parser : MarkupParser)
    (rounds : Nat) (n : Node) :
    (n.highlightCodeBlocks highlighter parser rounds).1.state.Perm
      ((n.ownRequests highlighter parser).flatMap fun request =>
        request :: freshRequests highlighter parser
          (fun t ns => highlightAll highlighter.recording parser rounds t ns) request) :=
  highlightRequests_perm (addsRequests_highlightAll rounds) n

/-- Each further round highlights the nodes that were given. -/
theorem requests_highlightAll_succ (highlighter : Highlighter) (parser : MarkupParser)
    (rounds : Nat) (ns : List Node) :
    (highlightAll highlighter.recording parser (rounds + 1) ⟨[], []⟩ ns).1.state =
      ns.flatMap fun n => (n.highlightCodeBlocks highlighter parser rounds).1.state :=
  (highlightAllWith_of_isRegular ((addsRequests_highlightAll rounds).isRegular ns) ⟨[], []⟩).1

/-- Nodes without blocks bring no requests with them, however many rounds are made. -/
theorem requests_highlightAll_eq_nil (h : ∀ n ∈ ns, n.blockRequests = []) (rounds : Nat) :
    (highlightAll highlighter.recording parser rounds ⟨[], []⟩ ns).1.state = [] := by
  cases rounds with
  | zero => rfl
  | succ rounds =>
    rw [requests_highlightAll_succ, List.flatMap_eq_nil_iff]
    intro n hn
    have hperm := requests_highlightCodeBlocks_perm highlighter parser rounds n
    rw [ownRequests_eq_nil_iff.mpr (h n hn)] at hperm
    exact hperm.eq_nil

/-- Highlighting asks for blocks of a tree only if and only if there are no blocks in what it gets
for those that it asks for. -/
theorem asksForTreeOnly_iff (highlighter : Highlighter) (parser : MarkupParser) (n : Node) :
    AsksForTreeOnly highlighter parser n ↔
      ∀ request ∈ n.ownRequests highlighter parser, ∀ nodes,
        highlightedNodes? highlighter parser request.1 request.2 = some nodes →
          ∀ m ∈ nodes, m.blockRequests = [] := by
  have hown (rounds : Nat) :
      (n.highlightCodeBlocks highlighter parser rounds).1.state =
          n.ownRequests highlighter parser ↔
        ∀ request ∈ n.ownRequests highlighter parser,
          freshRequests highlighter parser
            (fun t ns => highlightAll highlighter.recording parser rounds t ns) request = [] :=
    highlightRequests_eq_ownRequests_iff (addsRequests_highlightAll rounds)
  constructor
  · -- one round is enough to see a block in what is given
    intro h request hrequest nodes hnodes m hm
    have hfresh := (hown 1).mp (h.own 1) request hrequest
    rw [freshRequests, hnodes] at hfresh
    have hnil := (requests_highlightAll_succ highlighter parser 0 nodes).symm.trans hfresh
    exact ownRequests_eq_nil_iff.mp (List.flatMap_eq_nil_iff.mp hnil m hm)
  · intro h
    have hrequests (rounds : Nat) :
        (n.highlightCodeBlocks highlighter parser rounds).1.state =
          n.ownRequests highlighter parser := by
      refine (hown rounds).mpr fun request hrequest => ?_
      unfold freshRequests
      split
      · rename_i nodes hnodes
        exact requests_highlightAll_eq_nil (h request hrequest nodes hnodes) rounds
      · rfl
    refine ⟨⟨(n.ownRequests highlighter parser).length, fun rounds => ?_⟩, fun rounds => ?_,
      hrequests⟩
    · exact Nat.le_of_eq (congrArg List.length (hrequests rounds))
    · rw [hrequests rounds]
      exact n.ownRequests_sublist_blockRequests highlighter parser

/-! ### Requests without an end -/

private theorem sublist_flatMap_of_mem {α β : Type} (f : α → List β) {a : α} {l : List α}
    (h : a ∈ l) : (f a).Sublist (l.flatMap f) := by
  rw [List.flatMap_def]
  exact List.sublist_flatten_of_mem (List.mem_map_of_mem h)

/-- If there is a block in whatever highlighting gives, each round asks once more. -/
theorem lt_length_requests
    (h : ∀ language source, ∃ nodes,
      highlightedNodes? highlighter parser language source = some nodes ∧
        ∃ m ∈ nodes, m.blockRequests ≠ []) (rounds : Nat) {n : Node} (hn : n.blockRequests ≠ []) :
    rounds < (n.highlightCodeBlocks highlighter parser rounds).1.state.length := by
  induction rounds generalizing n with
  | zero => exact List.length_pos_iff.mpr (mt ownRequests_eq_nil_iff.mp hn)
  | succ rounds ih =>
    have hown : n.ownRequests highlighter parser ≠ [] := mt ownRequests_eq_nil_iff.mp hn
    obtain ⟨request, hrequest⟩ := List.exists_mem_of_ne_nil _ hown
    -- a block in what this request gives is asked for in the rounds that are left
    obtain ⟨nodes, hnodes, m, hm, hblock⟩ := h request.1 request.2
    let requests (m : Node) := (m.highlightCodeBlocks highlighter parser rounds).1.state
    let brought := freshRequests highlighter parser
      fun t ns => highlightAll highlighter.recording parser (rounds + 1) t ns
    have hbrought : brought request = nodes.flatMap requests := by
      simp only [brought, freshRequests, hnodes]
      exact requests_highlightAll_succ highlighter parser rounds nodes
    rw [(requests_highlightCodeBlocks_perm highlighter parser (rounds + 1) n).length_eq]
    calc rounds + 1 < (requests m).length + 1 := Nat.succ_lt_succ (ih hblock)
      _ ≤ (nodes.flatMap requests).length + 1 :=
          Nat.succ_le_succ (sublist_flatMap_of_mem requests hm).length_le
      _ = (request :: brought request).length := by rw [hbrought, List.length_cons]
      _ ≤ _ := (sublist_flatMap_of_mem (fun request => request :: brought request)
          hrequest).length_le

/-- A block whose language and text are the same letter. -/
def quineBlock : CodeBlock :=
  .ofText (Attributes.ofList [("class", .list ["language-x"])]) "x" "x" (by decide) (by decide)

/-- Gives the markup of the block for any text. -/
def quineHighlighter : Highlighter := fun _ _ =>
  .ok (some "<pre><code class=\"language-x\">x</code></pre>")

/-- Reads that markup. -/
def quineParser : MarkupParser where
  parseDocument _ := .ok (.root [quineBlock.toNode])
  parseFragment _ := .ok [quineBlock.toNode]

/-- Highlighting goes on without an end where each block is highlighted as another one. -/
theorem not_asksForTreeOnly_quine :
    ¬ AsksForTreeOnly quineHighlighter quineParser quineBlock.toNode := by
  intro h
  obtain ⟨bound, hbound⟩ := h.finite
  have hblock : quineBlock.toNode.blockRequests ≠ [] := by
    rw [blockRequests_toNode]
    exact List.cons_ne_nil _ _
  have hquine : ∀ language source, ∃ nodes,
      highlightedNodes? quineHighlighter quineParser language source = some nodes ∧
        ∃ m ∈ nodes, m.blockRequests ≠ [] :=
    fun _ _ => ⟨_, rfl, quineBlock.toNode, List.mem_singleton_self _, hblock⟩
  exact Nat.not_lt.mpr (hbound bound) (lt_length_requests hquine bound hblock)

end Node

end Manuscript
