import Mathlib.Data.List.Forall2
import Manuscript.Proofs.Document.HeadingIds

/-!
# Ids that headings keep

The visit that gives ids takes a heading for one with an id if its id is a plain text. Every heading
has a plain text for its id afterwards, the slug of its entry. So an id that was a plain text is
kept, while one that was a list of tokens or the source of an expression is replaced, although the
visit before has reserved it like any other.

## Main definitions

* `KeepsId` — whether a heading that had an id has the same id afterwards
* `KeepsIds` — whether all headings of a tree do

## Main results

* `forall₂_elements_visit` — what becomes of the elements of a tree in a visit
* `forall₂_headings_assignHeadingIds` — what becomes of the ids of headings
* `keepsIds_iff` — which ids are kept, and which trees keep all of them
-/

namespace Manuscript.Node

variable {σ : Type} {select : Element → Bool} {f : σ → Element → σ × Revision}
  {R S : Element → Element → Prop} {p : Element → Prop} {old new : Element} {olds news : List Element}

/-- A heading that has an id still has it when it has become another one. -/
def KeepsId (old new : Element) : Prop :=
  (old.attr? "id").isSome = true → new.attr? "id" = old.attr? "id"

/-- Every heading of a tree that has an id, of whatever kind, keeps it when ids are given. -/
def KeepsIds (n : Node) : Prop :=
  List.Forall₂ KeepsId n.headings n.assignHeadingIds.1.headings

/-- What becomes of the id of a heading: it is a plain text, the old one if that was a plain text. -/
def IdSettled (old new : Element) : Prop :=
  ∃ id, new.attr? "id" = some (.text id) ∧ ∀ own, old.attrText? "id" = some own → own = id

/-! ### Elements in a visit -/

mutual

/-- A visit makes of each element what the visitor makes of it, or leaves it, and goes on in its
children. -/
theorem forall₂_elements_visit (hadded : ∀ s e, (f s e).2.added = [])
    (hselected : ∀ s e children, select e = true →
      R e ⟨(f s e).2.tag, (f s e).2.attributes, children⟩)
    (hother : ∀ e children, select e = false → R e ⟨e.tag, e.attributes, children⟩) (s : σ) :
    ∀ n : Node, List.Forall₂ R n.elements (n.visit select f s).2.elements
  | .root children => forall₂_elementsAll_visitAll hadded hselected hother s children
  | .element tag attributes children => by
    cases h : select ⟨tag, attributes, children⟩ with
    | true =>
      rw [visit_element_of_selected select f h (hadded _ _)]
      exact .cons (hselected s ⟨tag, attributes, children⟩ _ h)
        (forall₂_elementsAll_visitAll hadded hselected hother _ children)
    | false =>
      rw [visit_element_of_not_selected select f h]
      exact .cons (hother ⟨tag, attributes, children⟩ _ h)
        (forall₂_elementsAll_visitAll hadded hselected hother s children)
  | .leaf kind value => .nil

theorem forall₂_elementsAll_visitAll (hadded : ∀ s e, (f s e).2.added = [])
    (hselected : ∀ s e children, select e = true →
      R e ⟨(f s e).2.tag, (f s e).2.attributes, children⟩)
    (hother : ∀ e children, select e = false → R e ⟨e.tag, e.attributes, children⟩) (s : σ) :
    ∀ ns : List Node, List.Forall₂ R (elementsAll ns) (elementsAll (visitAll select f s ns).2)
  | [] => .nil
  | n :: rest =>
    List.rel_append (forall₂_elements_visit hadded hselected hother s n)
      (forall₂_elementsAll_visitAll hadded hselected hother _ rest)

end

/-! ### Ids -/

theorem idSettled_assignHeadingId (s : Text.Slugger × List HeadingEntry) (e : Element)
    (children : List Node) :
    IdSettled e ⟨(assignHeadingId s e).2.tag, (assignHeadingId s e).2.attributes, children⟩ := by
  unfold assignHeadingId
  dsimp only
  split
  · rename_i id hid
    refine ⟨id, Element.attrText?_eq_some_iff.mp hid, fun own hown => ?_⟩
    exact Option.some.inj (hown.symm.trans hid)
  · rename_i hid
    refine ⟨(s.1.slug e.textContent).1, by simp [Element.attr?, Revision.withAttributes],
      fun own hown => ?_⟩
    -- a heading that is given an id had no plain text
    rw [hid] at hown
    cases hown

/-- The id of every heading of a tree is settled when ids are given. -/
theorem forall₂_headings_assignHeadingIds (n : Node) :
    List.Forall₂ IdSettled n.headings n.assignHeadingIds.1.headings := by
  have helements : List.Forall₂
      (fun old new => new.tag = old.tag ∧ (old.isHeading = true → IdSettled old new))
      n.elements n.assignHeadingIds.1.elements :=
    forall₂_elements_visit added_assignHeadingId
      (fun s e children _ => ⟨tag_assignHeadingId, fun _ => idSettled_assignHeadingId s e children⟩)
      (fun e _ hnot => ⟨rfl, fun hheading => absurd hheading (Bool.eq_false_iff.mp hnot)⟩) _ n
  -- no tag is changed, so the headings of both trees are picked at the same places
  have hheadings := List.rel_filter (p := Element.isHeading) (q := Element.isHeading)
    (fun old new h => by simp only [Element.isHeading, h.1]) helements
  have hold : ∀ h ∈ n.headings, h.isHeading = true := fun h hmem => (List.mem_filter.mp hmem).2
  exact ((List.forall₂_and_left ..).mpr ⟨hold, hheadings⟩).imp
    fun old new ⟨hheading, _, hsettled⟩ => hsettled hheading

/-- An id that is settled is the old one if and only if that was a plain text. -/
theorem IdSettled.attr?_eq_iff (h : IdSettled old new) :
    new.attr? "id" = old.attr? "id" ↔ ∃ id, old.attr? "id" = some (.text id) := by
  obtain ⟨id, hnew, hown⟩ := h
  constructor
  · intro heq
    exact ⟨id, heq ▸ hnew⟩
  · rintro ⟨own, hold⟩
    rw [hnew, hold, hown own (Element.attrText?_eq_some_iff.mpr hold)]

private theorem forall₂_iff_forall_mem (h : List.Forall₂ S olds news)
    (hiff : ∀ old new, S old new → (R old new ↔ p old)) :
    List.Forall₂ R olds news ↔ ∀ old ∈ olds, p old := by
  induction h with
  | nil => simp
  | cons hfirst hrest ih => rw [List.forall₂_cons, List.forall_mem_cons, hiff _ _ hfirst, ih]

/-- Every heading has the slug of its entry for its id, as a plain text. -/
theorem map_id_headings_assignHeadingIds (n : Node) :
    n.assignHeadingIds.1.headings.map (·.attr? "id") =
      n.assignHeadingIds.2.map fun entry => some (.text entry.slug) := by
  have hentries : n.assignHeadingIds.2.map some =
      n.assignHeadingIds.1.headings.map HeadingEntry.ofElement? :=
    entries_visit (n.reservedIds, []) n
  have hplain : ∀ h ∈ n.assignHeadingIds.1.headings, ∃ id, h.attr? "id" = some (.text id) := by
    have hboth : List.Forall₂ (fun new old => (∃ id, new.attr? "id" = some (.text id)) ∧
        IdSettled old new) n.assignHeadingIds.1.headings n.headings :=
      .flip ((forall₂_headings_assignHeadingIds n).imp fun _ _ h => ⟨h.imp fun _ => And.left, h⟩)
    exact ((List.forall₂_and_left ..).mp hboth).1
  -- a plain text is what its entry shows
  have hslug : ∀ h ∈ n.assignHeadingIds.1.headings, h.attr? "id" =
      (HeadingEntry.ofElement? h).map fun entry => .text entry.slug := by
    intro h hmem
    obtain ⟨id, hid⟩ := hplain h hmem
    obtain ⟨level, hlevel⟩ := Option.isSome_iff_exists.mp (List.mem_filter.mp hmem).2
    simp [HeadingEntry.ofElement?, Element.attrString?, AttributeValue.toMarkup, hid, hlevel]
  calc n.assignHeadingIds.1.headings.map (·.attr? "id")
      = (n.assignHeadingIds.1.headings.map HeadingEntry.ofElement?).map
          (Option.map fun entry => .text entry.slug) := by
        rw [List.map_map]
        exact List.map_congr_left hslug
    _ = n.assignHeadingIds.2.map fun entry => some (.text entry.slug) := by
        rw [← hentries, List.map_map]
        rfl

/-- Which ids headings keep when ids are given: a heading has the same id as before if and only if it
had one that is a plain text. All headings have the slugs of their entries for their ids, so the
headings of a tree keep the ids that they have if and only if none of them has one that is a list of
tokens or the source of an expression. -/
theorem keepsIds_iff (n : Node) :
    List.Forall₂ (fun old new => new.attr? "id" = old.attr? "id" ↔
        ∃ id, old.attr? "id" = some (.text id)) n.headings n.assignHeadingIds.1.headings ∧
      (n.assignHeadingIds.1.headings.map (·.attr? "id") =
        n.assignHeadingIds.2.map fun entry => some (.text entry.slug)) ∧
      (KeepsIds n ↔
        ∀ h ∈ n.headings, ∀ id, h.attr? "id" = some id → ∃ text, id = .text text) := by
  have hsettled := forall₂_headings_assignHeadingIds n
  refine ⟨hsettled.imp fun _ _ h => h.attr?_eq_iff, map_id_headings_assignHeadingIds n, ?_⟩
  refine forall₂_iff_forall_mem hsettled fun old new h => ?_
  rw [KeepsId, h.attr?_eq_iff]
  cases old.attr? "id" <;> simp

/-- A heading with a given id. -/
def introduction (id : AttributeValue) : Element :=
  ⟨"h2", Attributes.ofList [("id", id)], [.text "Introduction"]⟩

/-- An id that is an expression is replaced by a slug. -/
theorem not_keepsIds_introduction :
    ¬ KeepsIds (introduction (.expression "props.anchor")).toNode := by
  have hold : (introduction (.expression "props.anchor")).toNode.headings =
      [introduction (.expression "props.anchor")] := rfl
  have hnew : (introduction (.expression "props.anchor")).toNode.assignHeadingIds.1.headings =
      [introduction (.text "introduction")] := rfl
  rw [KeepsIds, hold, hnew]
  intro h
  exact absurd ((List.forall₂_cons.mp h).1 rfl) (by decide)

end Manuscript.Node
