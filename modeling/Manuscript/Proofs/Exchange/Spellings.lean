import Manuscript.Proofs.Exchange.Nodes

/-!
# Spellings of a tree

Data that are read as a tree are a spelling of what is written for the tree, as long as no object has
two fields of one name: a list is turned into an object and the kind is given by its name, the fields
that are read are put in order, properties and children that are left out are put in, and then the
attributes and the children are respelled. So data are read alike if and only if they are spellings
of each other.

A list shows its fields by their places. There the properties of an element cannot be left out when
children follow them.

## Main results

* `exists_object_of_read?` — data that are read are a spelling of an object
* `sameSpelling_toValue` — data that are read are a spelling of what is written
* `ofValue?_lossless` — reading, writing and spellings together
* `not_ofValue?_listedParagraph` — leaving out properties in a list
-/

namespace Manuscript

open Relation (EqvGen)
open Value (FieldChange HasDistinctNames selectFields)

theorem LeafKind.name_of_ofName? {kind : LeafKind} {s : String} (h : ofName? s = some kind) :
    kind.name = s := by
  unfold ofName? at h
  split at h
  all_goals cases h
  all_goals rfl

namespace Node

variable {n : Node} {v w : Value} {fields others before after : List (String × Value)}
  {kind : String} {items : List Value} {ns : List Node} {gathered : Bool}

/-- What a node of a kind is read from. -/
theorem ofFields?_cases (h : ofFields? kind fields (childrenField? true fields) = some n) :
    (∃ items children, kind = "root" ∧ fields.lookup "children" = some (.list items) ∧
        readAll? true items = some children ∧ n = .root children) ∨
      (∃ tag attributes children, kind = "element" ∧
        fields.lookup "tagName" = some (.string tag) ∧
        attributesOf? true fields = some attributes ∧
        ((fields.lookup "children").map (readList? true)).getD (some []) = some children ∧
        n = .element tag attributes children) ∨
      ∃ (leaf : LeafKind) (value : String), kind = leaf.name ∧
        fields.lookup "value" = some (.string value) ∧ n = .leaf leaf value := by
  rw [childrenField?_eq] at h
  unfold ofFields? at h
  split at h
  · obtain ⟨children?, hchildren?, h⟩ := Option.bind_eq_some_iff.mp h
    obtain ⟨list, hlist, rfl⟩ := Option.map_eq_some_iff.mp hchildren?
    obtain ⟨children, hchildren, rfl⟩ := Option.map_eq_some_iff.mp h
    cases list with
    | list items => exact .inl ⟨items, children, rfl, hlist, hchildren, rfl⟩
    | _ => cases hchildren
  · obtain ⟨tagValue, htag, h⟩ := Option.bind_eq_some_iff.mp h
    obtain ⟨tag, hstring, h⟩ := Option.bind_eq_some_iff.mp h
    obtain ⟨attributes, hattributes, h⟩ := Option.bind_eq_some_iff.mp h
    obtain ⟨children, hchildren, h⟩ := Option.bind_eq_some_iff.mp h
    rw [string?_eq_some_iff.mp hstring] at htag
    exact .inr (.inl ⟨tag, attributes, children, rfl, htag, hattributes, hchildren,
      (Option.some.inj h).symm⟩)
  · obtain ⟨leaf, hleaf, h⟩ := Option.bind_eq_some_iff.mp h
    obtain ⟨text, htext, h⟩ := Option.bind_eq_some_iff.mp h
    obtain ⟨value, hvalue, h⟩ := Option.bind_eq_some_iff.mp h
    rw [string?_eq_some_iff.mp hvalue] at htext
    exact .inr (.inr ⟨leaf, value, (LeafKind.name_of_ofName? hleaf).symm, htext,
      (Option.some.inj h).symm⟩)

/-- The fields of a kind have different names, and none of them is the type. -/
theorem nodup_type_fieldNames (kind : String) : ("type" :: fieldNames kind).Nodup := by
  unfold fieldNames
  split <;> decide

/-- Data that are read are a spelling of an object that gives the kind by its name. -/
theorem exists_object_of_read? (hnames : v.HasDistinctNames) (h : read? gathered v = some n) :
    ∃ kind fields, SameSpelling gathered v (.object fields) ∧
      (Value.object fields).HasDistinctNames ∧ fields.lookup "type" = some (.string kind) ∧
      ofFields? kind fields (childrenField? true fields) = some n := by
  cases v with
  | object fields =>
    rw [read?_object] at h
    obtain ⟨kind, hfound, hread⟩ := Option.bind_eq_some_iff.mp h
    obtain ⟨type, htype, hkind⟩ := Option.bind_eq_some_iff.mp hfound
    obtain ⟨before, after, rfl, hbefore⟩ := List.lookup_eq_some_iff.mp htype
    have hspelling : Respelled gathered (.object (before ++ ("type", type) :: after))
        (.object (before ++ ("type", .string kind) :: after)) := .kind hkind
    have hnone : before.lookup "type" = none := List.lookup_eq_none_iff.mpr hbefore
    have htype' : (before ++ ("type", Value.string kind) :: after).lookup "type" =
        some (.string kind) := by
      rw [lookup_middle_self, hnone, Option.none_or]
    have hname := Value.nameAmong?_string gathered (Value.mem_of_nameAmong? hkind)
    refine ⟨kind, _, .rel _ _ hspelling, hnames.middle (.string kind), htype', ?_⟩
    rw [← read?_object_of_type htype' hname, ← hspelling.read?_eq, read?_object, htype,
      Option.bind_some, hkind, Option.bind_some, hread]
  | list items =>
    cases items with
    | nil => cases h
    | cons v items =>
      rw [read?_list] at h
      obtain ⟨kind, hkind, h⟩ := Option.bind_eq_some_iff.mp h
      obtain ⟨fields, hfields, hread⟩ := Option.bind_eq_some_iff.mp h
      obtain ⟨hlength, rfl⟩ := Value.record?_list_eq_some_iff.mp hfields
      obtain ⟨htype, hnodup⟩ := List.nodup_cons.mp (nodup_type_fieldNames kind)
      have hitems := (List.forall_mem_cons.mp hnames.item).2
      refine ⟨kind, _, .rel _ _ (.list hkind hlength),
        HasDistinctNames.object_zip hitems hnodup htype (.string kind), List.lookup_cons_self, ?_⟩
      rw [← hread]
      exact ofFields?_middle_of_ne [] (by decide) (by decide) (by decide) (by decide)
  | _ => cases h

/-- Changes without notice are changes of the spelling. -/
theorem sameSpelling_of_fields
    (h : EqvGen (FieldChange ("type" :: fieldNames kind)) fields others)
    (htype : fields.lookup "type" = some (.string kind)) :
    SameSpelling gathered (.object fields) (.object others) := by
  -- the type is the same all the way, so that the same fields are read
  have hchange : (fields.lookup "type" = others.lookup "type") ∧
      (fields.lookup "type" = some (.string kind) →
        SameSpelling gathered (.object fields) (.object others)) := by
    clear htype
    induction h with
    | rel a b h =>
      exact ⟨h.lookup_eq List.mem_cons_self, fun htype => .rel _ _ (.fields htype h)⟩
    | refl a => exact ⟨rfl, fun _ => .refl _⟩
    | symm a b _ ih => exact ⟨ih.1.symm, fun htype => .symm _ _ (ih.2 (ih.1.trans htype))⟩
    | trans a b c _ _ ih ih' =>
      exact ⟨ih.1.trans ih'.1, fun htype => .trans _ _ _ (ih.2 htype) (ih'.2 (ih.1 ▸ htype))⟩
  exact hchange.2 htype

/-- The fields that are not read may be left out, and the others put in their order. -/
theorem sameSpelling_selectFields (hnames : (fields.map Prod.fst).Nodup)
    (htype : fields.lookup "type" = some (.string kind)) :
    SameSpelling gathered (.object fields)
      (.object (selectFields ("type" :: fieldNames kind) fields)) :=
  sameSpelling_of_fields (Value.eqvGen_selectFields (nodup_type_fieldNames kind) hnames) htype

theorem sameSpelling_attributes (before after : List (String × Value))
    (h : EqvGen (Attributes.Respelled true) v w) :
    SameSpelling gathered (.object (before ++ ("properties", v) :: after))
      (.object (before ++ ("properties", w) :: after)) :=
  eqvGen_lift (fun v => Value.object (before ++ ("properties", v) :: after))
    (fun _ _ => .attributes) h

theorem sameSpelling_children (before after : List (String × Value)) {items' : List Value}
    (h : List.Forall₂ (SameSpelling true) items items') :
    SameSpelling gathered (.object (before ++ ("children", .list items) :: after))
      (.object (before ++ ("children", .list items') :: after)) :=
  eqvGen_of_forall₂ (fun items => Value.object (before ++ ("children", .list items) :: after))
    (fun _ _ _ _ => .child) h

theorem forall₂_sameSpelling (hitems : ∀ item ∈ items, item.HasDistinctNames)
    (ih : ∀ n ∈ ns, ∀ v : Value, v.HasDistinctNames → read? true v = some n →
      SameSpelling true v n.toValue)
    (h : readAll? true items = some ns) :
    List.Forall₂ (SameSpelling true) items (toValues ns) := by
  rw [readAll?_eq, mapM_eq_some_iff] at h
  rw [toValues_eq, List.forall₂_map_right_iff]
  induction h with
  | nil => exact .nil
  | cons hitem _ ih' =>
    rw [List.forall_mem_cons] at hitems ih
    exact .cons (ih.1 _ hitems.1 hitem) (ih' hitems.2 ih.2)

/-- An element that may leave out its properties is a spelling of one that shows them. -/
theorem sameSpelling_of_properties {attributes : Attributes}
    (hnames : (Value.object fields).HasDistinctNames)
    (htype : (before ++ after).lookup "type" = some (.string "element"))
    (hnone : (before ++ after).lookup "properties" = none)
    (h : attributesOf? true fields = some attributes) :
    SameSpelling gathered
      (.object (before ++ ((fields.lookup "properties").map ("properties", ·)).toList ++ after))
      (.object (before ++ ("properties", attributes.toValue) :: after)) := by
  rw [attributesOf?] at h
  cases hlookup : fields.lookup "properties" with
  | none =>
    rw [hlookup] at h
    obtain rfl := Option.some.inj h
    rw [Option.map_none, Option.toList_none, List.append_nil]
    exact EqvGen.rel _ _ (Respelled.properties htype hnone)
  | some v =>
    rw [hlookup] at h
    have hattributes := Attributes.eqvGen_toValue (hnames.of_lookup hlookup) h
    simpa using sameSpelling_attributes before after hattributes

/-- An element that may leave out its children is a spelling of one that shows them. -/
theorem sameSpelling_of_children (before : List (String × Value))
    (hnames : (Value.object fields).HasDistinctNames)
    (htype : before.lookup "type" = some (.string "element"))
    (hnone : before.lookup "children" = none)
    (ih : ∀ n ∈ ns, ∀ v : Value, v.HasDistinctNames → read? true v = some n →
      SameSpelling true v n.toValue)
    (h : ((fields.lookup "children").map (readList? true)).getD (some []) = some ns) :
    SameSpelling gathered
      (.object (before ++ ((fields.lookup "children").map ("children", ·)).toList))
      (.object (before ++ [("children", .list (toValues ns))])) := by
  cases hlookup : fields.lookup "children" with
  | none =>
    rw [hlookup] at h
    obtain rfl := Option.some.inj h
    have hleft : Respelled gathered (.object (before ++ []))
        (.object (before ++ [("children", .list [])])) :=
      .children (by rwa [List.append_nil]) (by rwa [List.append_nil])
    exact .rel _ _ hleft
  | some list =>
    rw [hlookup] at h
    have hread : readList? true list = some ns := h
    cases list with
    | list items =>
      have hitems := (hnames.of_lookup hlookup).item
      exact sameSpelling_children before [] (forall₂_sameSpelling hitems ih hread)
    | _ => cases hread

/-- Data that are read are a spelling of what is written: the kind is given by its name, the fields
are put in order, what is left out is put in, and then the attributes and the children are
respelled. -/
theorem sameSpelling_toValue (n : Node) :
    ∀ (gathered : Bool) (v : Value), v.HasDistinctNames → read? gathered v = some n →
      SameSpelling gathered v n.toValue := by
  induction n using inductionOnChildren with
  | step n ih =>
    intro gathered v hnames h
    obtain ⟨kind, fields, hobject, hnames, htype, hread⟩ := exists_object_of_read? hnames h
    refine .trans _ _ _ hobject ?_
    have horder : SameSpelling gathered (.object fields)
        (.object (selectFields ("type" :: fieldNames kind) fields)) :=
      sameSpelling_selectFields hnames.nodup htype
    refine .trans _ _ _ horder ?_
    rcases ofFields?_cases hread with ⟨items, children, rfl, hlist, hitems, rfl⟩ |
      ⟨tag, attributes, children, rfl, htag, hattributes, hchildren, rfl⟩ |
      ⟨leaf, value, rfl, hvalue, rfl⟩
    · have hselected : selectFields ("type" :: fieldNames "root") fields =
          [("type", .string "root"), ("children", .list items)] := by
        simp [selectFields, fieldNames, htype, hlist]
      rw [hselected, toValue]
      exact sameSpelling_children [("type", .string "root")] []
        (forall₂_sameSpelling (hnames.of_lookup hlist).item (fun n hn => ih n hn true) hitems)
    · let named : List (String × Value) := [("type", .string "element"), ("tagName", .string tag)]
      let last := ((fields.lookup "children").map ("children", ·)).toList
      have hselected : selectFields ("type" :: fieldNames "element") fields =
          named ++ ((fields.lookup "properties").map ("properties", ·)).toList ++ last := by
        cases hproperties : fields.lookup "properties" <;>
          cases hlast : fields.lookup "children" <;>
          simp [selectFields, fieldNames, named, last, htype, htag, hproperties, hlast]
      have hnone : (named ++ last).lookup "properties" = none := by
        cases hlast : fields.lookup "children" <;> simp [named, last, hlast, List.lookup_cons]
      rw [hselected]
      refine .trans _ _ _ (sameSpelling_of_properties hnames rfl hnone hattributes) ?_
      exact sameSpelling_of_children (named ++ [("properties", attributes.toValue)]) hnames rfl rfl
        (fun n (hn : n ∈ children) => ih n hn true) hchildren
    · have hselected : selectFields ("type" :: fieldNames leaf.name) fields =
          [("type", .string leaf.name), ("value", .string value)] := by
        cases leaf <;> simp_all [selectFields, fieldNames, LeafKind.name]
      rw [hselected]
      exact .refl _

/-- Writing and reading lose nothing: a node that is written is read back, and data that differ in
spelling only are read alike. They may differ in the order of fields, in fields that are not read, in
properties or children that an element given as an object leaves out because they are empty, in how
kinds are given and in whether nodes and values are given as objects or as lists, at any depth.
Nothing else is read alike: if data in which no object has two fields of one name are read as a node,
other such data are read as that node if and only if they are another spelling. -/
theorem ofValue?_lossless :
    (∀ n : Node, n.toValue.HasDistinctNames ∧ ofValue? n.toValue = some n) ∧
      (∀ v w, SameSpelling false v w → ofValue? v = ofValue? w) ∧
      ∀ v w : Value, v.HasDistinctNames → w.HasDistinctNames → ∀ n, ofValue? v = some n →
        (ofValue? w = some n ↔ SameSpelling false v w) := by
  refine ⟨fun n => ⟨n.hasDistinctNames_toValue, n.read?_toValue false⟩,
    fun v w => SameSpelling.read?_eq, fun v w hv hw n hn => ⟨?_, ?_⟩⟩
  · intro hn'
    exact .trans _ _ _ (sameSpelling_toValue n false v hv hn)
      (.symm _ _ (sameSpelling_toValue n false w hw hn'))
  · intro h
    exact h.read?_eq.symm.trans hn

/-- A link without a text. -/
def rootLink : Node := .element "a" (Attributes.ofList [("href", .text "/")]) []

/-- The link with a field that is not read, in another order, without its children, and with the
address as a list that begins with the place of its kind. -/
def placedLink : Value :=
  .object [("position", .object [("line", .int 1)]), ("tagName", .string "a"),
    ("properties", .object [("href", .list [.int 0, .string "/"])]), ("type", .string "element")]

/-- The data are a spelling of the link. -/
theorem ofValue?_lossless_rootLink :
    rootLink.toValue.HasDistinctNames ∧ placedLink.HasDistinctNames ∧
      ofValue? rootLink.toValue = some rootLink ∧ SameSpelling false rootLink.toValue placedLink := by
  have hplace : (Value.object [("line", .int 1)]).HasDistinctNames :=
    .object (by decide) (by simp [HasDistinctNames.int])
  have hhref : (Value.list [.int 0, .string "/"]).HasDistinctNames :=
    .list (by simp [HasDistinctNames.int, HasDistinctNames.string])
  have hproperties : (Value.object [("href", .list [.int 0, .string "/"])]).HasDistinctNames :=
    .object (by decide) (by simpa using hhref)
  have hplaced : placedLink.HasDistinctNames :=
    .object (by decide) (by simp [HasDistinctNames.string, hplace, hproperties])
  exact ⟨rootLink.hasDistinctNames_toValue, hplaced, rfl,
    (ofValue?_lossless.2.2 _ _ rootLink.hasDistinctNames_toValue hplaced _ rfl).mp rfl⟩

/-- A paragraph as a list, with its properties if they are given. -/
def listedParagraph (properties : List Value) : Value :=
  .list ([.string "element", .string "p"] ++ properties ++
    [.list [.list [.string "text", .string "x"]]])

/-- In a list, empty properties cannot be left out before children: what is behind them moves into
their place. -/
theorem not_ofValue?_listedParagraph :
    ofValue? (listedParagraph [.object []]) = some (.element "p" ∅ [.text "x"]) ∧
      ofValue? (listedParagraph []) = none := ⟨rfl, rfl⟩

end Node

end Manuscript
