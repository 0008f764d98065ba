import Manuscript.Document.Images
import Manuscript.Proofs.Document.Attributes
import Manuscript.Proofs.Document.Revisions
import Manuscript.Proofs.Text.Split

/-!
# Directives of images

A directive sets an attribute for each of its keys, to the last value that it gives to the key, and
goes away itself. As the title is taken away after the attributes have been set, a directive cannot
set a title: an entry with that key is lost. All other entries are merged into the attributes.

## Main definitions

* `Element.HasDirective` — the images whose title is a directive
* `Merges` — attributes into which entries have been merged
* `Element.Follows` — an element whose directive, if it has one, has been carried out
* `untitledEntries` — the entries of a directive that are carried out
* `Node.FollowsDirectives` — trees in which all entries of all directives are merged

## Main results

* `get?_extendedImageAttributes` — what is found when a directive has been carried out
* `followsDirectives_iff` — what directives do, and when all of their entries are merged
-/

namespace Manuscript

variable {name directive : String} {e : Element}

/-- An image whose title is a hash sign and a directive. -/
structure Element.HasDirective (e : Element) (directive : String) : Prop where
  /-- The element is an image. -/
  image : e.tag = "img"
  /-- The directive stands in the title. -/
  title : e.attr? "title" = some (.text ("#" ++ directive))

/-- Attributes that come from others by merging entries into them. The old title goes away, and only
an entry can set a new one. -/
structure Merges (entries : List (String × String)) (old new : Attributes) : Prop where
  /-- Each key has the last of its values. -/
  set : ∀ key value, IsLastValue entries key value → new.get? key = some (.text value)
  /-- There is no title that no entry has set. -/
  untitled : (∀ entry ∈ entries, entry.1 ≠ "title") → new.get? "title" = none
  /-- Other attributes stay. -/
  kept : ∀ name, name ≠ "title" → (∀ entry ∈ entries, entry.1 ≠ name) →
    new.get? name = old.get? name

/-- What becomes of the attributes of an element when the entries that are read in directives are
merged: without a directive they stay. -/
structure Element.Follows (read : String → List (String × String)) (e : Element)
    (new : Attributes) : Prop where
  /-- The entries of a directive are merged. -/
  merged : ∀ directive, e.HasDirective directive → Merges (read directive) e.attributes new
  /-- Any other element keeps its attributes. -/
  other : (∀ directive, ¬ e.HasDirective directive) → new = e.attributes

/-- All entries of the directives in a tree are merged, and nothing else is changed. -/
def Node.FollowsDirectives (n : Node) : Prop :=
  n.RevisedBy (Element.Follows parseImageDirective) n.extendImageAttributes

/-- The entries of a directive that do not set a title. -/
def untitledEntries (directive : String) : List (String × String) :=
  (parseImageDirective directive).filter (·.1 ≠ "title")

/-! ### Elements -/

theorem imageDirective?_of_hasDirective (h : e.HasDirective directive) :
    imageDirective? e = some (parseImageDirective directive) := by
  have htitle : e.attrText? "title" = some ("#" ++ directive) :=
    Element.attrText?_eq_some_iff.mpr h.title
  have hstart : Text.stripPrefix ['#'] ("#" ++ directive).toList = some directive.toList := by
    rw [String.toList_append]
    exact Text.stripPrefix_append _ _
  rw [imageDirective?, htitle, Option.bind_eq_bind, Option.bind_some, hstart, Option.bind_eq_bind,
    Option.bind_some, String.ofList_toList]
  rfl

theorem imageDirective?_of_not_hasDirective (himage : e.tag = "img")
    (h : ∀ directive, ¬ e.HasDirective directive) : imageDirective? e = none := by
  cases htitle : e.attrText? "title" with
  | none => rw [imageDirective?, htitle]; rfl
  | some title =>
    cases hstart : Text.stripPrefix ['#'] title.toList with
    | none => rw [imageDirective?, htitle, Option.bind_eq_bind, Option.bind_some, hstart]; rfl
    | some rest =>
      -- then the title is a directive
      have hrest : title = "#" ++ String.ofList rest :=
        String.toList_inj.mp (by simpa using Text.eq_append_of_stripPrefix hstart)
      exact absurd ⟨himage, hrest ▸ Element.attrText?_eq_some_iff.mp htitle⟩ (h _)

theorem get?_extendedImageAttributes (h : e.HasDirective directive) :
    (extendedImageAttributes e).get? name =
      if name = "title" then none
      else (((parseImageDirective directive).reverse.lookup name).map .text).or
        (e.attributes.get? name) := by
  rw [extendedImageAttributes, imageDirective?_of_hasDirective h, Attributes.get?_erase,
    Attributes.get?_foldl_insert]

/-- All entries but those for a title are merged. -/
theorem merges_untitledEntries (h : e.HasDirective directive) :
    Merges (untitledEntries directive) e.attributes (extendedImageAttributes e) := by
  have hlookup (name : String) (hname : name ≠ "title") :
      (untitledEntries directive).reverse.lookup name =
        (parseImageDirective directive).reverse.lookup name := by
    rw [untitledEntries, ← List.filter_reverse, Attributes.lookup_filter_ne, if_neg hname]
  constructor
  · intro key value hlast
    have hkey : key ≠ "title" := by
      obtain ⟨before, after, hentries, -⟩ := hlast
      have hmem : (key, value) ∈ untitledEntries directive := by simp [hentries]
      exact of_decide_eq_true (List.mem_filter.mp hmem).2
    rw [get?_extendedImageAttributes h, if_neg hkey, ← hlookup key hkey,
      lookup_reverse_eq_some_iff.mpr hlast]
    rfl
  · intro _
    rw [get?_extendedImageAttributes h, if_pos rfl]
  · intro name hname hkeys
    rw [get?_extendedImageAttributes h, if_neg hname, ← hlookup name hname,
      lookup_reverse_eq_none_iff.mpr hkeys]
    rfl

/-- All entries are merged if and only if there is none for a title. -/
theorem merges_iff (h : e.HasDirective directive) :
    Merges (parseImageDirective directive) e.attributes (extendedImageAttributes e) ↔
      ∀ entry ∈ parseImageDirective directive, entry.1 ≠ "title" := by
  constructor
  · intro hmerges entry hentry htitle
    obtain ⟨value, hlast⟩ := exists_isLastValue hentry
    have hset := hmerges.set _ _ hlast
    rw [get?_extendedImageAttributes h, if_pos htitle] at hset
    cases hset
  · intro hnot
    have hall : untitledEntries directive = parseImageDirective directive :=
      List.filter_eq_self.mpr fun entry hentry => decide_eq_true (hnot entry hentry)
    rw [← hall]
    exact merges_untitledEntries h

/-- An element keeps its attributes if it has no directive. -/
theorem extendedImageAttributes_of_not_hasDirective (h : ∀ directive, ¬ e.HasDirective directive) :
    (if e.isImage then extendedImageAttributes e else e.attributes) = e.attributes := by
  split
  · rename_i himage
    rw [extendedImageAttributes,
      imageDirective?_of_not_hasDirective (of_decide_eq_true himage) h]
  · rfl

/-- What becomes of an element follows what is read in directives if and only if the entries of its own
directive, where it has one, are merged. -/
theorem follows_iff {read : String → List (String × String)} :
    e.Follows read (if e.isImage then extendedImageAttributes e else e.attributes) ↔
      ∀ directive, e.HasDirective directive →
        Merges (read directive) e.attributes (extendedImageAttributes e) := by
  have hselected {directive : String} (h : e.HasDirective directive) :
      (if e.isImage then extendedImageAttributes e else e.attributes) = extendedImageAttributes e :=
    if_pos (decide_eq_true h.image)
  constructor
  · intro hfollows directive h
    exact hselected h ▸ hfollows.merged directive h
  · intro hmerges
    refine ⟨fun directive h => ?_, extendedImageAttributes_of_not_hasDirective⟩
    rw [hselected h]
    exact hmerges directive h

/-! ### Trees -/

theorem revisedBy_extendImageAttributes_iff {read : String → List (String × String)} {n : Node} :
    n.RevisedBy (Element.Follows read) n.extendImageAttributes ↔
      ∀ e ∈ n.elements, ∀ directive, e.HasDirective directive →
        Merges (read directive) e.attributes (extendedImageAttributes e) :=
  Node.revisedBy_mapAttributes_iff.trans (forall₂_congr fun _ _ => follows_iff)

/-- What carrying out the directives in the titles of images makes of a tree: of each directive all
entries are merged but those for a title, all other elements keep their attributes, and nothing else
is changed. So all entries are merged if and only if no directive has one for a title. -/
theorem followsDirectives_iff (n : Node) :
    n.RevisedBy (Element.Follows untitledEntries) n.extendImageAttributes ∧
      (n.FollowsDirectives ↔
        ∀ e ∈ n.elements, ∀ directive, e.HasDirective directive →
          ∀ entry ∈ parseImageDirective directive, entry.1 ≠ "title") := by
  constructor
  · exact revisedBy_extendImageAttributes_iff.mpr fun e _ directive h => merges_untitledEntries h
  · rw [Node.FollowsDirectives, revisedBy_extendImageAttributes_iff]
    exact forall₂_congr fun e _ => forall₂_congr fun directive h => merges_iff h

/-- An image whose directive sets a width and a title. -/
def titledCat : Element :=
  ⟨"img", Attributes.ofList [("src", .text "/cat.png"), ("title", .text "#width=300;title=A cat")],
    []⟩

/-- The title that a directive sets is lost. -/
theorem not_followsDirectives_titledCat : ¬ titledCat.toNode.FollowsDirectives := by
  intro h
  have hdirective : titledCat.HasDirective "width=300;title=A cat" := ⟨rfl, by decide⟩
  have hmerges := revisedBy_extendImageAttributes_iff.mp h titledCat List.mem_cons_self _ hdirective
  have hentry : ("title", "A cat") ∈ parseImageDirective "width=300;title=A cat" := by decide
  exact (merges_iff hdirective).mp hmerges _ hentry rfl

end Manuscript
