import Mathlib.Data.List.Forall2
import Manuscript.Proofs.Embed.WrappedLinks

/-!
# Bare links

A paragraph is a bare link if a single link makes it up, alone or in the element around links, and a
single text makes up the link. It stands for a medium if the text is what the `href` of the link is
written as. That is what is asked for, whatever kind of value it is: the tokens of a list, or the
source of an expression, which is no address at all, count like a literal text.

## Main definitions

* `HoldsLink` — paragraphs that a single link makes up
* `IsBareLink` — bare links, with the value of their `href` and their text
* `IsReadLiterally` — nodes that stand for a medium only by a literal address

## Main results

* `embedUrl?_eq_some_iff` — what a node stands for
* `isReadLiterally_iff` — which nodes are read literally
* `forall₂_lookups_iff` — which documents have only literal addresses looked up
-/

namespace Manuscript.Embed

open Node (linkWrapperClass)

/-- A paragraph that a single link makes up, which may stand in the element around links. -/
inductive HoldsLink (link : Attributes) (below : List Node) : Node → Prop
  /-- The link is the only child. -/
  | direct {attributes : Attributes} :
      HoldsLink link below (.element "p" attributes [.element "a" link below])
  /-- The element around the link is the only child. -/
  | wrapped {attributes wrapper : Attributes} (hclass : linkWrapperClass ∈ wrapper.classes) :
      HoldsLink link below
        (.element "p" attributes [.element "span" wrapper [.element "a" link below]])

/-- A paragraph that is a link and nothing else, with a value of its `href` and a text in it. -/
def IsBareLink (value : AttributeValue) (text : String) (n : Node) : Prop :=
  ∃ link, link.get? "href" = some value ∧ HoldsLink link [.text text] n

/-- Whether a node stands for the media whose literal address is both the `href` and the text of its
link, and for no others. -/
def IsReadLiterally (n : Node) : Prop :=
  ∀ url, embedUrl? n = some url ↔ IsBareLink (.text url) url n

variable {text url : String} {link : Attributes} {value value' : AttributeValue}
  {children below : List Node} {n : Node} {e : Element}

/-! ### The link -/

/-- The link that makes up some nodes is the only one of them, or is alone in the only one. -/
theorem soleAnchor?_eq_some_iff :
    soleAnchor? children = some e ↔
      e.tag = "a" ∧ (children = [e.toNode] ∨
        ∃ wrapper, linkWrapperClass ∈ wrapper.classes ∧
          children = [.element "span" wrapper [e.toNode]]) := by
  constructor
  · intro h
    rcases children with _ | ⟨only, _ | ⟨second, rest⟩⟩
    · cases h
    · cases only using Node.linkInduction with
      | root children => cases h
      | link attributes children =>
        obtain rfl := Option.some.inj (soleAnchor?_link.symm.trans h)
        exact ⟨rfl, .inl rfl⟩
      | wrapper attributes linkAttributes below hclass =>
        obtain rfl := Option.some.inj ((soleAnchor?_wrapper hclass).symm.trans h)
        exact ⟨rfl, .inr ⟨attributes, hclass, rfl⟩⟩
      | other tag attributes children htag hother =>
        rw [soleAnchor?_other htag hother] at h
        cases h
      | leaf kind value => cases h
    · cases h
  · obtain ⟨tag, attributes, below⟩ := e
    rintro ⟨rfl, rfl | ⟨wrapper, hclass, rfl⟩⟩
    · exact soleAnchor?_link
    · exact soleAnchor?_wrapper hclass

theorem holdsLink_iff :
    HoldsLink link below n ↔
      ∃ attributes children, n = .element "p" attributes children ∧
        soleAnchor? children = some ⟨"a", link, below⟩ := by
  constructor
  · rintro (_ | hclass)
    · exact ⟨_, _, rfl, soleAnchor?_link⟩
    · exact ⟨_, _, rfl, soleAnchor?_wrapper hclass⟩
  · rintro ⟨attributes, children, rfl, h⟩
    obtain ⟨-, rfl | ⟨wrapper, hclass, rfl⟩⟩ := soleAnchor?_eq_some_iff.mp h
    · exact .direct
    · exact .wrapped hclass

/-- The address of a link is what its `href` is written as, if that is its only text. -/
theorem bareAddress?_eq_some_iff :
    bareAddress? e = some url ↔
      ∃ value, e.attr? "href" = some value ∧ value.toMarkup = url ∧ e.children = [.text url] := by
  constructor
  · intro h
    obtain ⟨href, hhref, h⟩ := Option.bind_eq_some_iff.mp h
    obtain ⟨value, hvalue, rfl⟩ := Option.map_eq_some_iff.mp hhref
    refine ⟨value, hvalue, ?_⟩
    split at h
    · rename_i text hchildren
      obtain ⟨htext, hurl⟩ := Option.ite_none_right_eq_some.mp h
      obtain rfl := Option.some.inj hurl
      exact ⟨rfl, htext ▸ hchildren⟩
    · cases h
  · rintro ⟨value, hvalue, rfl, hchildren⟩
    simp [bareAddress?, Element.attrString?, hvalue, hchildren]

/-! ### Nodes -/

/-- A node stands for a medium if and only if it is a bare link whose `href` is written as its
text. -/
theorem embedUrl?_eq_some_iff :
    embedUrl? n = some url ↔ ∃ value, IsBareLink value url n ∧ value.toMarkup = url := by
  constructor
  · intro h
    cases n with
    | root children => cases h
    | leaf kind value => cases h
    | element tag attributes children =>
      rw [embedUrl?_element] at h
      obtain ⟨rfl, h⟩ := Option.ite_none_right_eq_some.mp h
      obtain ⟨⟨tag, link, below⟩, hlink, haddress⟩ := Option.bind_eq_some_iff.mp h
      -- what is found in the paragraph is a link, and its only child is the text
      obtain ⟨rfl, -⟩ := soleAnchor?_eq_some_iff.mp hlink
      obtain ⟨value, hvalue, hurl, rfl⟩ := bareAddress?_eq_some_iff.mp haddress
      exact ⟨value, ⟨link, hvalue, holdsLink_iff.mpr ⟨_, _, rfl, hlink⟩⟩, hurl⟩
  · rintro ⟨value, ⟨link, hvalue, hholds⟩, hurl⟩
    obtain ⟨attributes, children, rfl, hlink⟩ := holdsLink_iff.mp hholds
    rw [embedUrl?_element, if_pos rfl, hlink, Option.bind_some]
    exact bareAddress?_eq_some_iff.mpr ⟨value, hvalue, hurl, rfl⟩

/-- A bare link has one value of its `href`. -/
theorem IsBareLink.value_eq {text' : String} (h : IsBareLink value text n)
    (h' : IsBareLink value' text' n) : value = value' := by
  obtain ⟨link, hvalue, hholds⟩ := h
  obtain ⟨link', hvalue', hholds'⟩ := h'
  obtain ⟨attributes, children, rfl, hlink⟩ := holdsLink_iff.mp hholds
  obtain ⟨_, _, heq, hlink'⟩ := holdsLink_iff.mp hholds'
  obtain ⟨-, -, rfl⟩ := Node.element.inj heq
  obtain ⟨-, rfl, -⟩ := Element.mk.inj (Option.some.inj (hlink.symm.trans hlink'))
  exact Option.some.inj (hvalue.symm.trans hvalue')

theorem isReadLiterally_iff :
    IsReadLiterally n ↔
      ∀ value url, IsBareLink value url n → value.toMarkup = url → value = .text url := by
  constructor
  · intro h value url hbare hurl
    have hliteral := (h url).mp (embedUrl?_eq_some_iff.mpr ⟨value, hbare, hurl⟩)
    exact hbare.value_eq hliteral
  · intro h url
    rw [embedUrl?_eq_some_iff]
    constructor
    · rintro ⟨value, hbare, hurl⟩
      exact h value url hbare hurl ▸ hbare
    · intro hbare
      exact ⟨.text url, hbare, rfl⟩

/-- What stands for no medium is read literally. -/
theorem isReadLiterally_of_embedUrl?_eq_none (h : embedUrl? n = none) : IsReadLiterally n := by
  rw [isReadLiterally_iff]
  intro value url hbare hurl
  rw [embedUrl?_eq_some_iff.mpr ⟨value, hbare, hurl⟩] at h
  cases h

/-- A node that stands for a medium is read literally if and only if its `href` is a literal text. -/
theorem isBareLink_text_iff (h : embedUrl? n = some url) :
    IsBareLink (.text url) url n ↔ IsReadLiterally n := by
  constructor
  · intro hliteral
    rw [isReadLiterally_iff]
    intro value url' hbare hurl'
    obtain rfl := hbare.value_eq hliteral
    exact congrArg AttributeValue.text hurl'
  · intro hread
    exact (hread url).mp h

/-! ### Look-ups -/

variable {parser : MarkupParser} {options : FetchOptions} {ns ms : List Node} {made : List Lookup}

/-- Look-ups are made for the nodes that stand for media, one for each. -/
theorem Resolved.forall₂_lookups (h : Resolved parser options ns made ms) :
    List.Forall₂ (fun n l => embedUrl? n = some l.url)
      (ns.filter fun n => (embedUrl? n).isSome) made := by
  induction h with
  | nil => exact .nil
  | other hurl _ ih => rwa [List.filter_cons_of_neg (by simp [hurl])]
  | kept hurl _ _ ih =>
    rw [List.filter_cons_of_pos (by simp [hurl])]
    exact .cons hurl ih
  | card hurl _ _ _ _ ih =>
    rw [List.filter_cons_of_pos (by simp [hurl])]
    exact .cons hurl ih

theorem exists_resolved_lookups {σ : Type} (fetch : Fetcher σ) (parser : MarkupParser)
    (options : FetchOptions) (s : σ) (children : List Node) :
    ∃ resolved,
      Resolved parser options children (lookups fetch parser options s (.root children)) resolved := by
  obtain ⟨state, made, log, resolved, hrecorded, -, hresolved⟩ :=
    exists_resolved fetch parser options s [] [] children
  refine ⟨resolved, ?_⟩
  rwa [lookups, resolveEmbeds, hrecorded]

theorem forall₂_iff_of_forall₂ {α β : Type} {r t : α → β → Prop} {p : α → Prop} {as : List α}
    {bs : List β} (h : List.Forall₂ r as bs) (hiff : ∀ a b, r a b → (t a b ↔ p a)) :
    List.Forall₂ t as bs ↔ ∀ a ∈ as, p a := by
  induction h with
  | nil => simp
  | cons hab _ ih => rw [List.forall₂_cons, List.forall_mem_cons, hiff _ _ hab, ih]

/-- All look-ups of a document are for literal addresses if and only if all children of its root are
read literally. -/
theorem forall₂_lookups_iff {σ : Type} (fetch : Fetcher σ) (parser : MarkupParser)
    (options : FetchOptions) (s : σ) (children : List Node) :
    List.Forall₂ (fun n l => IsBareLink (.text l.url) l.url n)
        (children.filter fun n => (embedUrl? n).isSome)
        (lookups fetch parser options s (.root children)) ↔
      ∀ n ∈ children, IsReadLiterally n := by
  obtain ⟨resolved, hresolved⟩ := exists_resolved_lookups fetch parser options s children
  rw [forall₂_iff_of_forall₂ hresolved.forall₂_lookups fun n l => isBareLink_text_iff]
  constructor
  · intro h n hn
    cases hurl : embedUrl? n with
    | none => exact isReadLiterally_of_embedUrl?_eq_none hurl
    | some url => exact h n (List.mem_filter.mpr ⟨hn, by simp [hurl]⟩)
  · intro h n hn
    exact h n (List.mem_filter.mp hn).1

/-- A node stands for a medium if and only if it is a bare link whose `href` is written as its text.
It is read literally unless the `href` is a list or an expression that is written like that; and what
a document looks up are literal addresses, one for each child of its root that stands for a medium, if
and only if all of these children are read literally. -/
theorem embedUrl?_spec {σ : Type} (fetch : Fetcher σ) (parser : MarkupParser)
    (options : FetchOptions) (s : σ) (children : List Node) :
    (∀ n url, embedUrl? n = some url ↔
        ∃ value, IsBareLink value url n ∧ value.toMarkup = url) ∧
      (∀ n, IsReadLiterally n ↔
        ∀ value url, IsBareLink value url n → value.toMarkup = url → value = .text url) ∧
      (List.Forall₂ (fun n l => IsBareLink (.text l.url) l.url n)
          (children.filter fun n => (embedUrl? n).isSome)
          (lookups fetch parser options s (.root children)) ↔
        ∀ n ∈ children, IsReadLiterally n) :=
  ⟨fun _ _ => embedUrl?_eq_some_iff, fun _ => isReadLiterally_iff,
    forall₂_lookups_iff fetch parser options s children⟩

/-- A paragraph with a link whose `href` is an expression, and whose text is its source. -/
def expressionLink : Node :=
  .element "p" ∅ [.element "a" (Attributes.ofList [("href", .expression "props.url")])
    [.text "props.url"]]

/-- The source of an expression is taken for an address. -/
theorem not_isReadLiterally_expressionLink : ¬ IsReadLiterally expressionLink := by
  intro h
  have hbare : IsBareLink (.expression "props.url") "props.url" expressionLink :=
    ⟨_, rfl, .direct⟩
  have hvalue := isReadLiterally_iff.mp h _ _ hbare rfl
  cases hvalue

end Manuscript.Embed
