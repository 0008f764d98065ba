import Manuscript.Proofs.Document.Elements
import Manuscript.Proofs.Document.HtmlToken
import Manuscript.Proofs.Script.Creation

/-!
# Reading HTML back

Trees of roots, elements and texts are told apart by their HTML up to what HTML does not show: where
roots stand, how a text is divided among neighbours, texts without characters and whether the value
of an attribute is a text or a list. Taking all of that away gives the normal form of a tree.

The HTML of such a tree is written from tokens, which are read back from it. The tokens in turn are
read from right to left: an end tag begins a list of children, characters are put before the text
that stands first, and a start tag takes the list of its children. What comes out is the normal
form.

## Main definitions

* `Node.normalForm` — a tree without what HTML does not show
* `Node.normalInside` — the same, where a root at the top stays
* `Node.tokens` — the tokens that the HTML of a tree is written from
* `HtmlToken.readBack` — reading one token, from right to left
* `Node.IsMarkup` — the trees that HTML shows

## Main results

* `toList_toHtml` — HTML is written from tokens
* `foldr_readBack_tokens` — reading the tokens of a tree gives its normal form
* `tokensAll_normalForm` — a normal form has the tokens of its tree
* `toHtml_eq_iff_normalForm_eq` — trees with the same HTML
* `not_normalInside_eq_emptyLine` — a root at the top is not shown
-/

namespace Manuscript

open Script (hasOnlyTexts hasOnlyTextsAll)

/-! ### Normal forms -/

/-- An attribute with its value as the text that markup shows. -/
def entryAsText (entry : String × AttributeValue) : String × AttributeValue :=
  (entry.1, .text entry.2.toMarkup)

/-- Attributes with every value as the text that markup shows. -/
def Attributes.asTexts (attrs : Attributes) : Attributes :=
  ⟨attrs.entries.map entryAsText, List.Pairwise.map entryAsText (fun _ _ h => h) attrs.ascending⟩

theorem Attributes.asTexts_asTexts (attrs : Attributes) :
    attrs.asTexts.asTexts = attrs.asTexts := by
  apply Attributes.ext
  simp [asTexts, entryAsText, AttributeValue.toMarkup]

namespace Node

/-- Puts a text before nodes: it is merged with a text that stands first, and left out if it is
empty. -/
def prependText (value : String) (nodes : List Node) : List Node :=
  if value = "" then nodes
  else match nodes with
    | .text other :: rest => .text (value ++ other) :: rest
    | _ => .text value :: nodes

/-- Merges texts that stand side by side, and leaves out empty ones. -/
def mergeTexts : List Node → List Node
  | [] => []
  | .text value :: rest => prependText value (mergeTexts rest)
  | n :: rest => n :: mergeTexts rest

mutual

/-- The nodes that a tree adds to those around it: the nodes of a root are put in its place, and
elements hold their children in normal form. -/
def spliced : Node → List Node
  | .root children => splicedAll children
  | .element tag attributes children =>
    [.element tag attributes.asTexts (mergeTexts (splicedAll children))]
  | .leaf kind value => [.leaf kind value]

/-- The nodes that trees side by side add to those around them. -/
def splicedAll : List Node → List Node
  | [] => []
  | n :: rest => spliced n ++ splicedAll rest

end

/-- A tree without what HTML does not show: no roots inside, no texts side by side, no empty texts,
and texts as the only values of attributes. The result is the list of children of a document that
the tree is put into, where a root at the top is spliced like any other. -/
def normalForm (n : Node) : List Node := mergeTexts n.spliced

mutual

/-- The tokens that the HTML of a tree is written from. -/
def tokens : Node → List HtmlToken
  | .root children => tokensAll children
  | .element tag attributes children =>
    .start tag attributes.asTexts ::
      (if voidElements.contains tag then [] else tokensAll children ++ [.stop tag])
  | .leaf _ value => value.toList.map .char

/-- The tokens that the HTML of trees side by side is written from. -/
def tokensAll : List Node → List HtmlToken
  | [] => []
  | n :: rest => tokens n ++ tokensAll rest

end

/-- An element that HTML shows as it is: a tag and attributes whose names hold no markup, no
attribute that is an expression, text that is not written verbatim and no children that are left
out. -/
structure IsMarkupElement (e : Element) : Prop where
  /-- The tag holds no markup. -/
  tag : isTagName e.tag = true
  /-- Texts inside are escaped. -/
  notVerbatim : e.tag ∉ verbatimElements
  /-- An element without an end tag has no children. -/
  void : e.tag ∈ voidElements → e.children = []
  /-- The names of attributes hold no markup. -/
  names : ∀ entry ∈ e.attributes.entries, isAttributeName entry.1 = true
  /-- No attribute is an expression. -/
  noExpression : ∀ entry ∈ e.attributes.entries, ∀ source, entry.2 ≠ .expression source

/-- A tree of roots, texts and elements that HTML shows as they are. -/
structure IsMarkup (n : Node) : Prop where
  /-- The leaves are texts. -/
  texts : hasOnlyTexts n = true
  /-- The elements are shown as they are. -/
  elements : ∀ e ∈ n.elements, IsMarkupElement e

end Node

namespace HtmlToken

open Node (prependText)

/-- Reads a token before what was read so far: the nodes that stand first, and behind them those
that follow each element whose start tag was not yet met. -/
def readBack : HtmlToken → List (List Node) → List (List Node)
  | char c, nodes :: outer => prependText (String.singleton c) nodes :: outer
  | stop _, outer => [] :: outer
  | start tag attributes, nodes :: outer =>
    if voidElements.contains tag then (.element tag attributes [] :: nodes) :: outer
    else match outer with
      | siblings :: outer => (.element tag attributes nodes :: siblings) :: outer
      | [] => []
  | _, [] => []

end HtmlToken

namespace Node

variable {n m : Node} {e : Element}

/-! ### Texts before nodes -/

@[simp] theorem prependText_empty (nodes : List Node) : prependText "" nodes = nodes := by
  simp [prependText]

/-- Putting texts before nodes one after the other is putting them there together. -/
theorem prependText_prependText (value other : String) (nodes : List Node) :
    prependText value (prependText other nodes) = prependText (value ++ other) nodes := by
  by_cases hvalue : value = ""
  · rw [hvalue, prependText_empty, String.empty_append]
  · by_cases hother : other = ""
    · rw [hother, prependText_empty, String.append_empty]
    · have happend : value ++ other ≠ "" := fun h => hvalue (String.append_eq_empty_iff.mp h).1
      -- a text that stands first takes both, and otherwise the second one takes the first
      rcases nodes with _ | ⟨_ | _ | ⟨_ | _ | _ | _, first⟩, rest⟩ <;>
        simp [prependText, hvalue, hother, happend, String.append_assoc]

theorem mergeTexts_element (tag : String) (attributes : Attributes) (children rest : List Node) :
    mergeTexts (.element tag attributes children :: rest) =
      .element tag attributes children :: mergeTexts rest := rfl

/-! ### HTML as tokens -/

/-- Attributes with values as texts are written as before. -/
theorem entriesToHtml_map_entryAsText {entries : List (String × AttributeValue)}
    (h : ∀ entry ∈ entries, ∀ source, entry.2 ≠ .expression source) :
    Attributes.entriesToHtml (entries.map entryAsText) = Attributes.entriesToHtml entries := by
  induction entries with
  | nil => rfl
  | cons entry entries ih =>
    obtain ⟨name, value⟩ := entry
    obtain ⟨hentry, hentries⟩ := List.forall_mem_cons.mp h
    have hsame : Attributes.entryToHtml name (.text value.toMarkup) =
        Attributes.entryToHtml name value := by
      cases value with
      | text value => rfl
      | list tokens => rfl
      | expression source => exact absurd rfl (hentry source)
    rw [List.map_cons, entryAsText, Attributes.entriesToHtml, Attributes.entriesToHtml, hsame,
      ih hentries]

theorem toList_escapeText (value : String) :
    (Text.escapeText value).toList = (value.toList.map HtmlToken.char).flatMap HtmlToken.code := by
  rw [Text.escapeText, String.toList_ofList, List.flatMap_map]
  rfl

mutual

/-- HTML is written from tokens. -/
theorem toList_htmlWithin : ∀ {n : Node}, hasOnlyTexts n = true →
    (∀ e ∈ n.elements, IsMarkupElement e) →
    (htmlWithin false n).toList = n.tokens.flatMap HtmlToken.code
  | .root children, htexts, helements => toList_htmlAll htexts helements
  | .element tag attributes children, htexts, helements => by
    obtain ⟨helement, helements⟩ := List.forall_mem_cons.mp helements
    have hverbatim : verbatimElements.contains tag = false := by
      simpa using helement.notVerbatim
    have hchildren := toList_htmlAll htexts helements
    rw [htmlWithin, hverbatim, tokens, List.flatMap_cons, HtmlToken.code,
      Attributes.asTexts, entriesToHtml_map_entryAsText helement.noExpression]
    -- only the start tag of a void element is written
    by_cases hvoid : voidElements.contains tag = true
    · simp only [hvoid, if_true]
      simp
    · simp only [if_neg hvoid]
      simp [hchildren, HtmlToken.code]
  | .leaf kind value, htexts, _ => by
    obtain rfl : kind = .text := by simpa [hasOnlyTexts] using htexts
    exact toList_escapeText value

theorem toList_htmlAll : ∀ {ns : List Node}, hasOnlyTextsAll ns = true →
    (∀ e ∈ elementsAll ns, IsMarkupElement e) →
    (htmlAll false ns).toList = (tokensAll ns).flatMap HtmlToken.code
  | [], _, _ => rfl
  | n :: rest, htexts, helements => by
    obtain ⟨hfirst, hrest⟩ := Bool.and_eq_true_iff.mp htexts
    obtain ⟨helement, helements⟩ := List.forall_mem_append.mp helements
    rw [htmlAll, String.toList_append, tokensAll, List.flatMap_append,
      toList_htmlWithin hfirst helement, toList_htmlAll hrest helements]

end

theorem toList_toHtml (h : n.IsMarkup) : n.toHtml.toList = n.tokens.flatMap HtmlToken.code :=
  toList_htmlWithin h.texts h.elements

/-- The attributes of a start tag are texts under names without markup. -/
theorem isReadableEntry_of_mem_asTexts (h : IsMarkupElement e) :
    ∀ entry ∈ e.attributes.asTexts.entries, IsReadableEntry entry := by
  intro entry hentry
  obtain ⟨entry, hmem, rfl⟩ := List.mem_map.mp hentry
  exact ⟨h.names entry hmem, entry.2.toMarkup, rfl⟩

mutual

theorem isReadable_of_mem_tokens : ∀ {n : Node}, (∀ e ∈ n.elements, IsMarkupElement e) →
    ∀ t ∈ n.tokens, t.IsReadable
  | .root children, helements => isReadable_of_mem_tokensAll helements
  | .element tag attributes children, helements => by
    obtain ⟨helement, helements⟩ := List.forall_mem_cons.mp helements
    have hchildren := isReadable_of_mem_tokensAll helements
    refine List.forall_mem_cons.mpr ⟨⟨helement.tag, isReadableEntry_of_mem_asTexts helement⟩, ?_⟩
    split
    · exact fun t ht => absurd ht List.not_mem_nil
    · exact List.forall_mem_append.mpr ⟨hchildren, List.forall_mem_singleton.mpr helement.tag⟩
  | .leaf kind value, _ => by
    intro t ht
    obtain ⟨c, -, rfl⟩ := List.mem_map.mp ht
    trivial

theorem isReadable_of_mem_tokensAll : ∀ {ns : List Node},
    (∀ e ∈ elementsAll ns, IsMarkupElement e) → ∀ t ∈ tokensAll ns, t.IsReadable
  | [], _ => fun t ht => absurd ht List.not_mem_nil
  | n :: rest, helements => by
    obtain ⟨helement, helements⟩ := List.forall_mem_append.mp helements
    exact List.forall_mem_append.mpr
      ⟨isReadable_of_mem_tokens helement, isReadable_of_mem_tokensAll helements⟩

end

/-- Trees have the same HTML if they have the same tokens, and not otherwise. -/
theorem toHtml_eq_iff_tokens_eq (hn : n.IsMarkup) (hm : m.IsMarkup) :
    n.toHtml = m.toHtml ↔ n.tokens = m.tokens := by
  rw [← String.toList_inj, toList_toHtml hn, toList_toHtml hm]
  constructor
  · intro h
    exact HtmlToken.flatMap_code_inj (isReadable_of_mem_tokens hn.elements)
      (isReadable_of_mem_tokens hm.elements) h
  · intro h
    rw [h]

/-! ### Tokens as normal forms -/

/-- Characters are put before the text that stands first. -/
theorem foldr_readBack_chars (chars : List Char) (nodes : List Node) (outer : List (List Node)) :
    (chars.map HtmlToken.char).foldr HtmlToken.readBack (nodes :: outer) =
      prependText (String.ofList chars) nodes :: outer := by
  induction chars with
  | nil => rw [String.ofList_nil, prependText_empty]; rfl
  | cons c chars ih =>
    rw [List.map_cons, List.foldr_cons, ih, HtmlToken.readBack, prependText_prependText,
      String.singleton_eq_ofList, ← String.ofList_append]
    rfl

mutual

/-- Reading the tokens of a tree puts its normal form before what was read behind it. -/
theorem foldr_readBack_tokens : ∀ {n : Node}, hasOnlyTexts n = true →
    (∀ e ∈ n.elements, IsMarkupElement e) → ∀ (behind : List Node) (outer : List (List Node)),
    n.tokens.foldr HtmlToken.readBack (mergeTexts behind :: outer) =
      mergeTexts (n.spliced ++ behind) :: outer
  | .root children, htexts, helements => foldr_readBack_tokensAll htexts helements
  | .element tag attributes children, htexts, helements => by
    intro behind outer
    obtain ⟨helement, helements⟩ := List.forall_mem_cons.mp helements
    rw [tokens, List.foldr_cons, spliced, List.singleton_append, mergeTexts_element]
    by_cases hvoid : voidElements.contains tag = true
    · obtain rfl : children = [] := helement.void (List.contains_iff_mem.mp hvoid)
      simp only [hvoid, if_true, List.foldr_nil, HtmlToken.readBack]
      rfl
    · -- the children are read behind the end tag, where nothing stands yet
      have hchildren := foldr_readBack_tokensAll htexts helements [] (mergeTexts behind :: outer)
      have hempty : ([] : List Node) = mergeTexts [] := rfl
      rw [List.append_nil] at hchildren
      rw [if_neg hvoid, List.foldr_append, List.foldr_cons, List.foldr_nil, HtmlToken.readBack,
        hempty, hchildren, HtmlToken.readBack, if_neg hvoid]
  | .leaf kind value, htexts, _ => by
    intro behind outer
    obtain rfl : kind = .text := by simpa [hasOnlyTexts] using htexts
    rw [tokens, foldr_readBack_chars, String.ofList_toList]
    rfl

theorem foldr_readBack_tokensAll : ∀ {ns : List Node}, hasOnlyTextsAll ns = true →
    (∀ e ∈ elementsAll ns, IsMarkupElement e) →
    ∀ (behind : List Node) (outer : List (List Node)),
    (tokensAll ns).foldr HtmlToken.readBack (mergeTexts behind :: outer) =
      mergeTexts (splicedAll ns ++ behind) :: outer
  | [], _, _ => fun _ _ => rfl
  | n :: rest, htexts, helements => by
    intro behind outer
    obtain ⟨hfirst, hrest⟩ := Bool.and_eq_true_iff.mp htexts
    obtain ⟨helement, helements⟩ := List.forall_mem_append.mp helements
    rw [tokensAll, List.foldr_append, foldr_readBack_tokensAll hrest helements,
      foldr_readBack_tokens hfirst helement, splicedAll, List.append_assoc]

end

/-- Reading the tokens of a tree with nothing behind them gives its normal form. -/
theorem foldr_readBack_tokens_nil (h : n.IsMarkup) :
    n.tokens.foldr HtmlToken.readBack [[]] = [n.normalForm] := by
  have hread := foldr_readBack_tokens h.texts h.elements [] []
  rwa [List.append_nil] at hread

/-! ### Normal forms as tokens -/

theorem tokensAll_append (nodes rest : List Node) :
    tokensAll (nodes ++ rest) = tokensAll nodes ++ tokensAll rest := by
  induction nodes with
  | nil => rfl
  | cons n nodes ih => rw [List.cons_append, tokensAll, tokensAll, ih, List.append_assoc]

theorem tokensAll_singleton (n : Node) : tokensAll [n] = n.tokens := List.append_nil _

theorem tokensAll_prependText (value : String) (nodes : List Node) :
    tokensAll (prependText value nodes) = (Node.text value).tokens ++ tokensAll nodes := by
  unfold prependText
  split
  · rename_i hempty
    rw [hempty]
    rfl
  · split
    · simp [tokensAll, tokens]
    · rfl

/-- Merging texts keeps the tokens. -/
theorem tokensAll_mergeTexts (nodes : List Node) :
    tokensAll (mergeTexts nodes) = tokensAll nodes := by
  fun_induction mergeTexts nodes with
  | case1 => rfl
  | case2 value rest ih => rw [tokensAll_prependText, ih, tokensAll]
  | case3 n rest _ ih => rw [tokensAll, ih, tokensAll]

mutual

/-- Splicing roots keeps the tokens. -/
theorem tokensAll_spliced : ∀ n : Node, tokensAll n.spliced = n.tokens
  | .root children => tokensAll_splicedAll children
  | .element tag attributes children => by
    rw [spliced, tokensAll_singleton, tokens, tokens, Attributes.asTexts_asTexts,
      tokensAll_mergeTexts, tokensAll_splicedAll children]
  | .leaf kind value => tokensAll_singleton _

theorem tokensAll_splicedAll : ∀ ns : List Node, tokensAll (splicedAll ns) = tokensAll ns
  | [] => rfl
  | n :: rest => by
    rw [splicedAll, tokensAll_append, tokensAll_spliced n, tokensAll_splicedAll rest, tokensAll]

end

/-- A normal form has the tokens of its tree. -/
theorem tokensAll_normalForm (n : Node) : tokensAll n.normalForm = n.tokens := by
  rw [normalForm, tokensAll_mergeTexts, tokensAll_spliced]

/-! ### Trees with the same HTML -/

/-- Trees of roots, elements and texts have the same HTML if they have the same normal form, and not
otherwise. -/
theorem toHtml_eq_iff_normalForm_eq (hn : n.IsMarkup) (hm : m.IsMarkup) :
    n.toHtml = m.toHtml ↔ n.normalForm = m.normalForm := by
  rw [toHtml_eq_iff_tokens_eq hn hm]
  constructor
  · intro h
    -- the same tokens are read back to the same nodes
    have hread := foldr_readBack_tokens_nil hn
    rw [h, foldr_readBack_tokens_nil hm] at hread
    exact (List.cons.inj hread).1.symm
  · intro h
    calc n.tokens = tokensAll n.normalForm := (tokensAll_normalForm n).symm
      _ = tokensAll m.normalForm := by rw [h]
      _ = m.tokens := tokensAll_normalForm m

/-- A paragraph with a list of classes, whose text is divided and stands in a root of its own. -/
def dividedLine : Node :=
  .root [.element "p" ⟨[("class", .list ["note", "wide"])], by decide⟩
    [.text "1", .root [.text " < ", .text ""], .text "2", .element "br" ∅ []]]

/-- The same paragraph with the classes as a text and one text before the line break. -/
def wholeLine : Node :=
  .root [.element "p" ⟨[("class", .text "note wide")], by decide⟩
    [.text "1 < 2", .element "br" ∅ []]]

/-- Both paragraphs have the same normal form, so that they have the same HTML. -/
theorem toHtml_dividedLine :
    dividedLine.IsMarkup ∧ wholeLine.IsMarkup ∧ dividedLine.toHtml = wholeLine.toHtml := by
  have hbreak : IsMarkupElement ⟨"br", ∅, []⟩ :=
    ⟨by decide, by decide, fun _ => rfl, fun _ h => absurd h List.not_mem_nil,
      fun _ h => absurd h List.not_mem_nil⟩
  have hdivided : dividedLine.IsMarkup := by
    refine ⟨by decide, List.forall_mem_cons.mpr ⟨?_, List.forall_mem_singleton.mpr hbreak⟩⟩
    exact ⟨by decide, by decide, fun h => absurd h (by decide), by decide, by simp⟩
  have hwhole : wholeLine.IsMarkup := by
    refine ⟨by decide, List.forall_mem_cons.mpr ⟨?_, List.forall_mem_singleton.mpr hbreak⟩⟩
    exact ⟨by decide, by decide, fun h => absurd h (by decide), by decide, by simp⟩
  exact ⟨hdivided, hwhole, (toHtml_eq_iff_normalForm_eq hdivided hwhole).mpr rfl⟩

/-! ### Roots at the top -/

/-- A tree in which roots are put in their place only where they stand in something: a root at the
top stays. -/
def normalInside : Node → Node
  | .root children => .root (mergeTexts (splicedAll children))
  | .element tag attributes children =>
    .element tag attributes.asTexts (mergeTexts (splicedAll children))
  | .leaf kind value => .leaf kind value

/-- Trees that are told apart by their normal forms are told apart where a root at the top stays. -/
theorem normalForm_eq_of_normalInside_eq (h : n.normalInside = m.normalInside) :
    n.normalForm = m.normalForm := by
  cases n with
  | root children =>
    cases m with
    | root children' => exact Node.root.inj h
    | element tag attributes children' => cases h
    | leaf kind value => cases h
  | element tag attributes children =>
    cases m with
    | root children' => cases h
    | element tag' attributes' children' => exact congrArg (mergeTexts [·]) h
    | leaf kind value => cases h
  | leaf kind value =>
    cases m with
    | root children' => cases h
    | element tag attributes children' => cases h
    | leaf kind' value' => exact congrArg (mergeTexts [·]) h

/-- An empty paragraph. -/
def emptyLine : Node := .element "p" ∅ []

/-- HTML does not show a root at the top: a root that holds a paragraph alone is written as the
paragraph is. -/
theorem not_normalInside_eq_emptyLine :
    (Node.root [emptyLine]).IsMarkup ∧ emptyLine.IsMarkup ∧
      (Node.root [emptyLine]).toHtml = emptyLine.toHtml ∧
      (Node.root [emptyLine]).normalInside ≠ emptyLine.normalInside := by
  have hline : IsMarkupElement ⟨"p", ∅, []⟩ :=
    ⟨by decide, by decide, fun _ => rfl, fun _ h => absurd h List.not_mem_nil,
      fun _ h => absurd h List.not_mem_nil⟩
  refine ⟨⟨rfl, List.forall_mem_singleton.mpr hline⟩, ⟨rfl, List.forall_mem_singleton.mpr hline⟩,
    rfl, ?_⟩
  intro h
  cases h

end Node

end Manuscript
