import Manuscript.Embed.Resolution
import Manuscript.Proofs.Document.Attributes

/-!
# What is looked up, and what becomes of it

The media of a document are looked up once for each child of its root that stands for one, in
order. A fetcher can keep a record of that, so what is looked up is stated for the record, and holds
of every fetcher, whatever its state. A child stays unless metadata is found for it; otherwise a
card stands in its place, which is not looked up again.

## Main definitions

* `Lookup`, `Fetcher.recorded` — a look-up, and a fetcher that keeps a record of them
* `Resolved` — what becomes of the children of a root, given the look-ups that were made

## Main results

* `exists_resolveNode`, `exists_resolved` — one child, and a run over all of them
* `resolveEmbeds_spec` — a run over a document
-/

namespace Manuscript

/-- A look-up: what a fetcher was asked, and what it answered. -/
structure Lookup where
  /-- The address. -/
  url : String
  /-- How the memory of earlier look-ups may be used. -/
  options : FetchOptions
  /-- The answer. -/
  answer : Except EmbedError (Option EmbedMetadata)

/-- A fetcher that answers like another one and keeps a record of its look-ups. -/
def Fetcher.recorded {σ : Type} (fetch : Fetcher σ) : Fetcher (σ × List Lookup) :=
  fun s url options =>
    let (state, answer) := fetch s.1 url options
    ((state, s.2 ++ [⟨url, options, answer⟩]), answer)

namespace Embed

/-- A card: a `figure` of the class for media, or a link around one. -/
def IsCard (n : Node) : Prop :=
  ∃ attributes children,
    n = .element "figure" attributes children ∧ "oembed" ∈ attributes.classes ∨
      n = .element "a" attributes children ∧ "oembed-link" ∈ attributes.classes

/-- What becomes of nodes side by side, given the look-ups that were made for them in order. -/
inductive Resolved (parser : MarkupParser) (options : FetchOptions) :
    List Node → List Lookup → List Node → Prop
  /-- No nodes. -/
  | nil : Resolved parser options [] [] []
  /-- A node that stands for no medium stays, and nothing is looked up. -/
  | other {n : Node} {ns ms : List Node} {lookups : List Lookup} (hurl : embedUrl? n = none)
      (hrest : Resolved parser options ns lookups ms) :
      Resolved parser options (n :: ns) lookups (n :: ms)
  /-- A node stays if its look-up gives nothing or fails. -/
  | kept {n : Node} {url : String} {answer : Except EmbedError (Option EmbedMetadata)}
      {ns ms : List Node} {lookups : List Lookup} (hurl : embedUrl? n = some url)
      (hanswer : ∀ metadata, answer ≠ .ok (some metadata))
      (hrest : Resolved parser options ns lookups ms) :
      Resolved parser options (n :: ns) (⟨url, options, answer⟩ :: lookups) (n :: ms)
  /-- A card stands for a node whose look-up gives metadata, and the card is no candidate. -/
  | card {n card : Node} {url : String} {metadata : EmbedMetadata} {ns ms : List Node}
      {lookups : List Lookup} (hurl : embedUrl? n = some url)
      (hbuilt : card = buildCard parser url metadata) (hcard : IsCard card)
      (hnone : embedUrl? card = none) (hrest : Resolved parser options ns lookups ms) :
      Resolved parser options (n :: ns) (⟨url, options, .ok (some metadata)⟩ :: lookups)
        (card :: ms)

variable {σ : Type} (fetch : Fetcher σ) {parser : MarkupParser} {options : FetchOptions} {s : σ}
  {n : Node} {ns ms : List Node} {lookups : List Lookup}

/-! ### Cards -/

/-- A card is made whatever the markup of the medium is read as. -/
theorem isCard_buildCard (parser : MarkupParser) (url : String) (metadata : EmbedMetadata) :
    IsCard (buildCard parser url metadata) := by
  unfold buildCard
  dsimp only
  split
  · refine ⟨_, _, .inr ⟨rfl, ?_⟩⟩
    simp [Attributes.ofList, Attributes.classes, AttributeValue.classTokens]
  · refine ⟨_, _, .inl ⟨rfl, ?_⟩⟩
    simp [Attributes.ofList, Attributes.classes, AttributeValue.classTokens]

theorem embedUrl?_element (tag : String) (attributes : Attributes) (children : List Node) :
    embedUrl? (.element tag attributes children) =
      if tag = "p" then (soleAnchor? children).bind bareAddress? else none := by
  by_cases h : tag = "p" <;>
    simp [embedUrl?, Node.paragraph?, Node.element?, Option.filter, Element.isParagraph, h]

theorem IsCard.embedUrl?_eq_none (h : IsCard n) : embedUrl? n = none := by
  obtain ⟨attributes, children, ⟨rfl, -⟩ | ⟨rfl, -⟩⟩ := h
  · rw [embedUrl?_element, if_neg (by decide)]
  · rw [embedUrl?_element, if_neg (by decide)]

/-! ### Look-ups -/

/-- Look-ups ask for the addresses that the nodes stand for, in order. -/
theorem Resolved.map_lookups (h : Resolved parser options ns lookups ms) :
    lookups.map (fun l => (l.url, l.options)) =
      (ns.filterMap embedUrl?).map fun url => (url, options) := by
  induction h with
  | nil => rfl
  | other hurl _ ih => rw [ih, List.filterMap_cons_none hurl]
  | kept hurl _ _ ih => rw [List.map_cons, ih, List.filterMap_cons_some hurl, List.map_cons]
  | card hurl _ _ _ _ ih => rw [List.map_cons, ih, List.filterMap_cons_some hurl, List.map_cons]

theorem Resolved.length_eq (h : Resolved parser options ns lookups ms) :
    ms.length = ns.length := by
  induction h with
  | nil => rfl
  | other _ _ ih => rw [List.length_cons, List.length_cons, ih]
  | kept _ _ _ ih => rw [List.length_cons, List.length_cons, ih]
  | card _ _ _ _ _ ih => rw [List.length_cons, List.length_cons, ih]

/-- One node: at most one look-up is recorded, the record changes nothing else, and whatever becomes
of the nodes behind it, this one is put before them as it should be. -/
theorem exists_resolveNode (parser : MarkupParser) (options : FetchOptions) (s : σ)
    (record : List Lookup) (log : Log) (n : Node) :
    ∃ state made log' m,
      resolveNode fetch.recorded parser options ((s, record), log) n =
          (((state, record ++ made), log'), m) ∧
        resolveNode fetch parser options (s, log) n = ((state, log'), m) ∧
        ∀ {ns ms lookups}, Resolved parser options ns lookups ms →
          Resolved parser options (n :: ns) (made ++ lookups) (m :: ms) := by
  unfold resolveNode
  cases hurl : embedUrl? n with
  | none => exact ⟨s, [], log, n, by rw [List.append_nil], rfl, fun hrest => .other hurl hrest⟩
  | some url =>
    dsimp only [Fetcher.recorded]
    rcases fetch s url options with ⟨state, e | _ | metadata⟩
    · exact ⟨state, [⟨url, options, .error e⟩], _, n, rfl, rfl,
        fun hrest => .kept hurl (by simp) hrest⟩
    · exact ⟨state, [⟨url, options, .ok none⟩], _, n, rfl, rfl,
        fun hrest => .kept hurl (by simp) hrest⟩
    · have hcard := isCard_buildCard parser url metadata
      exact ⟨state, [⟨url, options, .ok (some metadata)⟩], _, _, rfl, rfl,
        fun hrest => .card hurl rfl hcard hcard.embedUrl?_eq_none hrest⟩

/-- Nodes side by side: the look-ups are recorded one after the other, the record changes nothing
else, and the nodes become what they should. -/
theorem exists_resolved (parser : MarkupParser) (options : FetchOptions) (s : σ)
    (record : List Lookup) (log : Log) (ns : List Node) :
    ∃ state lookups log' ms,
      mapWithState (resolveNode fetch.recorded parser options) ((s, record), log) ns =
          (((state, record ++ lookups), log'), ms) ∧
        mapWithState (resolveNode fetch parser options) (s, log) ns = ((state, log'), ms) ∧
        Resolved parser options ns lookups ms := by
  induction ns generalizing s record log with
  | nil => exact ⟨s, [], log, [], by rw [List.append_nil]; rfl, rfl, .nil⟩
  | cons n rest ih =>
    obtain ⟨state, made, log', m, hrecorded, hplain, hput⟩ :=
      exists_resolveNode fetch parser options s record log n
    obtain ⟨state', lookups, log'', ms, hrecorded', hplain', hresolved⟩ :=
      ih state (record ++ made) log'
    refine ⟨state', made ++ lookups, log'', m :: ms, ?_, ?_, hput hresolved⟩
    · simp only [mapWithState, hrecorded, hrecorded', List.append_assoc]
    · simp only [mapWithState, hplain, hplain']

/-- A document: the addresses that the children of the root stand for are looked up, each once, in
order and with the given options. The result is a root with as many children. A child stays if it
stands for no medium, or if its look-up gives nothing or fails; otherwise a card takes its place,
which is no candidate, whatever the markup of the medium is read as. Keeping a record of the
look-ups changes none of this. -/
theorem resolveEmbeds_spec (parser : MarkupParser) (options : FetchOptions) (s : σ)
    (children : List Node) :
    ∃ state lookups log resolved,
      resolveEmbeds fetch.recorded parser options (s, []) (.root children) =
          (((state, lookups), log), .root resolved) ∧
        resolveEmbeds fetch parser options s (.root children) = ((state, log), .root resolved) ∧
        lookups.map (fun l => (l.url, l.options)) =
          (children.filterMap embedUrl?).map (fun url => (url, options)) ∧
        resolved.length = children.length ∧
        Resolved parser options children lookups resolved := by
  obtain ⟨state, lookups, log, resolved, hrecorded, hplain, hresolved⟩ :=
    exists_resolved fetch parser options s [] [] children
  refine ⟨state, lookups, log, resolved, ?_, ?_, hresolved.map_lookups, hresolved.length_eq,
    hresolved⟩
  · simp only [resolveEmbeds, hrecorded, List.nil_append]
  · simp only [resolveEmbeds, hplain]

end Embed

end Manuscript
