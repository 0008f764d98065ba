import Manuscript.Proofs.Document.Elements
import Manuscript.Proofs.Exchange.Attributes

/-!
# Reading trees back from data

A tree that is written as data is read back as it was. The data of a tree can be spelled in other
ways: the fields of an object come in another order, there are fields that are not read, an element
leaves out properties or children that are empty, the kind of a node is given by its place among the
kinds, and a node is given as a list, all of this at any depth. What is read depends on the fields of
the kind of a node only, so that spellings are not told apart.

## Main definitions

* `Node.Respelled` — one change of the spelling
* `Node.SameSpelling` — data that such changes lead from one to the other

## Main results

* `read?_object`, `read?_list` — what a node is read from
* `read?_toValue` — what is written is read back
* `SameSpelling.read?_eq` — spellings are read alike
-/

namespace Manuscript

open Relation (EqvGen)
open Value (FieldChange HasDistinctNames)

namespace Node

variable {n : Node} {v w : Value} {fields others before after : List (String × Value)}
  {kind name : String} {items : List Value} {ns : List Node} {gathered : Bool}

/-- One change in the spelling of a node, at any depth. What stands inside of a node is gathered. -/
inductive Respelled : Bool → Value → Value → Prop where
  /-- The fields change without notice. -/
  | fields {gathered : Bool} {fields others : List (String × Value)} {kind : String}
    (htype : fields.lookup "type" = some (.string kind))
    (h : FieldChange ("type" :: fieldNames kind) fields others) :
    Respelled gathered (.object fields) (.object others)
  /-- The kind is given by its name. -/
  | kind {gathered : Bool} {before after : List (String × Value)} {v : Value} {kind : String}
    (h : v.nameAmong? kindNames gathered = some kind) :
    Respelled gathered (.object (before ++ ("type", v) :: after))
      (.object (before ++ ("type", .string kind) :: after))
  /-- The items of a list become the fields of an object, from the first one on. -/
  | list {gathered : Bool} {v : Value} {items : List Value} {kind : String}
    (h : v.nameAmong? kindNames gathered = some kind)
    (hitems : items.length ≤ (fieldNames kind).length) :
    Respelled gathered (.list (v :: items))
      (.object (("type", .string kind) :: (fieldNames kind).zip items))
  /-- An element that leaves out its properties shows that it has none. -/
  | properties {gathered : Bool} {before after : List (String × Value)}
    (htype : (before ++ after).lookup "type" = some (.string "element"))
    (hnone : (before ++ after).lookup "properties" = none) :
    Respelled gathered (.object (before ++ after))
      (.object (before ++ ("properties", .object []) :: after))
  /-- An element that leaves out its children shows that it has none. -/
  | children {gathered : Bool} {before after : List (String × Value)}
    (htype : (before ++ after).lookup "type" = some (.string "element"))
    (hnone : (before ++ after).lookup "children" = none) :
    Respelled gathered (.object (before ++ after))
      (.object (before ++ ("children", .list []) :: after))
  /-- The spelling of the properties changes. -/
  | attributes {gathered : Bool} {before after : List (String × Value)} {v w : Value}
    (h : Attributes.Respelled true v w) :
    Respelled gathered (.object (before ++ ("properties", v) :: after))
      (.object (before ++ ("properties", w) :: after))
  /-- The spelling of a child changes. -/
  | child {gathered : Bool} {before after : List (String × Value)} {left right : List Value}
    {v w : Value} (h : Respelled true v w) :
    Respelled gathered (.object (before ++ ("children", .list (left ++ v :: right)) :: after))
      (.object (before ++ ("children", .list (left ++ w :: right)) :: after))

/-- Data that changes in the spelling lead from one to the other. -/
def SameSpelling (gathered : Bool) : Value → Value → Prop := EqvGen (Respelled gathered)

/-! ### What is read -/

theorem readAll?_eq (items : List Value) :
    readAll? gathered items = items.mapM (read? gathered) := by
  induction items with
  | nil => rfl
  | cons v rest ih => rw [readAll?, List.mapM_cons, ih]

theorem toValues_eq (ns : List Node) : toValues ns = ns.map toValue := by
  induction ns with
  | nil => rfl
  | cons n rest ih => rw [toValues, ih, List.map_cons]

theorem childrenField?_eq (fields : List (String × Value)) :
    childrenField? gathered fields = (fields.lookup "children").map (readList? gathered) := by
  induction fields with
  | nil => rfl
  | cons field rest ih =>
    obtain ⟨name, v⟩ := field
    rw [childrenField?, Attributes.lookup_cons_eq, ih]
    by_cases h : name = "children"
    · rw [if_pos h, if_pos h.symm, Option.map_some]
    · rw [if_neg h, if_neg (Ne.symm h)]

theorem attributesOf?_of_ne (h : name ≠ "properties") :
    attributesOf? gathered (before ++ (name, v) :: after) =
      attributesOf? gathered (before ++ after) := by
  rw [attributesOf?, attributesOf?, lookup_middle_of_ne h.symm]

theorem childrenField?_of_ne (h : name ≠ "children") :
    childrenField? gathered (before ++ (name, v) :: after) =
      childrenField? gathered (before ++ after) := by
  rw [childrenField?_eq, childrenField?_eq, lookup_middle_of_ne h.symm]

/-- The children among items are those among the fields that the items stand for. -/
theorem childrenItem?_eq (names : List String) (items : List Value) :
    childrenItem? gathered names items = childrenField? gathered (names.zip items) := by
  induction names generalizing items with
  | nil => cases items <;> rfl
  | cons name names ih =>
    cases items with
    | nil => rfl
    | cons v rest => rw [childrenItem?, List.zip_cons_cons, childrenField?, ih]

/-- An object is read as a node from its fields, by the kind that is given in one of them. -/
theorem read?_object :
    read? gathered (.object fields) =
      ((fields.lookup "type").bind (Value.nameAmong? kindNames gathered)).bind fun kind =>
        ofFields? kind fields (childrenField? true fields) := by
  rw [read?, Option.bind_assoc]
  rfl

theorem read?_object_of_type (htype : fields.lookup "type" = some v)
    (hkind : v.nameAmong? kindNames gathered = some kind) :
    read? gathered (.object fields) = ofFields? kind fields (childrenField? true fields) := by
  rw [read?_object, htype, Option.bind_some, hkind, Option.bind_some]

/-- A list is read as a node from the fields that its items stand for. -/
theorem read?_list :
    read? gathered (.list (v :: items)) =
      (v.nameAmong? kindNames gathered).bind fun kind =>
        ((Value.list items).record? (fieldNames kind)).bind fun fields =>
          ofFields? kind fields (childrenField? true ((fieldNames kind).zip items)) := by
  simp only [read?, childrenItem?_eq]
  rfl

/-- A node is read from the fields of its kind. -/
theorem ofFields?_of_fieldNames
    (h : ∀ name ∈ fieldNames kind, fields.lookup name = others.lookup name) :
    ofFields? kind fields (childrenField? gathered fields) =
      ofFields? kind others (childrenField? gathered others) := by
  rw [childrenField?_eq, childrenField?_eq]
  unfold ofFields? attributesOf?
  split
  · rw [h "children" (by decide)]
  · rw [h "tagName" (by decide), h "properties" (by decide), h "children" (by decide)]
  · have hvalue : "value" ∈ fieldNames kind := by simp [fieldNames]
    rw [h "value" hvalue]

/-- A node is read from its tag, its value, its attributes and its children. -/
theorem ofFields?_congr (htag : fields.lookup "tagName" = others.lookup "tagName")
    (hvalue : fields.lookup "value" = others.lookup "value")
    (hattributes : attributesOf? true fields = attributesOf? true others)
    (hchildren : childrenField? true fields = childrenField? true others) :
    ofFields? kind fields (childrenField? true fields) =
      ofFields? kind others (childrenField? true others) := by
  simp only [ofFields?, htag, hvalue, hattributes, hchildren]

/-- A field that is not read may be put in or left out. -/
theorem ofFields?_middle_of_ne (before : List (String × Value)) (htag : name ≠ "tagName")
    (hvalue : name ≠ "value") (hproperties : name ≠ "properties") (hchildren : name ≠ "children") :
    ofFields? kind (before ++ (name, v) :: after)
        (childrenField? true (before ++ (name, v) :: after)) =
      ofFields? kind (before ++ after) (childrenField? true (before ++ after)) :=
  ofFields?_congr (lookup_middle_of_ne htag.symm) (lookup_middle_of_ne hvalue.symm)
    (attributesOf?_of_ne hproperties) (childrenField?_of_ne hchildren)

/-- An element is read as a whole, where properties and children may be left out. -/
theorem ofFields?_element (children? : Option (Option (List Node))) :
    ofFields? "element" fields children? =
      ((fields.lookup "tagName").bind Value.string?).bind fun tag =>
        (attributesOf? true fields).bind fun attributes =>
          (children?.getD (some [])).map (.element tag attributes) := by
  simp only [ofFields?, Option.bind_eq_bind, Option.bind_assoc, Option.map_eq_bind]
  rfl

/-- A node is read from its type, its tag, its value, its attributes and its children. -/
theorem read?_congr (htype : fields.lookup "type" = others.lookup "type")
    (htag : fields.lookup "tagName" = others.lookup "tagName")
    (hvalue : fields.lookup "value" = others.lookup "value")
    (hattributes : attributesOf? true fields = attributesOf? true others)
    (hchildren : childrenField? true fields = childrenField? true others) :
    read? gathered (.object fields) = read? gathered (.object others) := by
  simp only [read?_object, htype, ofFields?_congr htag hvalue hattributes hchildren]

theorem readList?_toValues (h : ∀ n ∈ ns, read? gathered n.toValue = some n) :
    readList? gathered (.list (toValues ns)) = some ns := by
  rw [readList?, readAll?_eq, toValues_eq, mapM_eq_some_iff, List.forall₂_map_left_iff]
  exact List.forall₂_same.mpr h

/-- A node that is written is read back. -/
theorem read?_toValue (n : Node) : ∀ gathered, read? gathered n.toValue = some n := by
  induction n using inductionOn with
  | root children ih =>
    intro gathered
    have hchildren := readList?_toValues fun n hn => ih n hn true
    rw [toValue, read?_object_of_type rfl (Value.nameAmong?_string _ (by decide))]
    change (readList? true (.list (toValues children))).map Node.root = _
    rw [hchildren]
    rfl
  | element tag attributes children ih =>
    intro gathered
    have hchildren := readList?_toValues fun n hn => ih n hn true
    rw [toValue, read?_object_of_type rfl (Value.nameAmong?_string _ (by decide))]
    change (Attributes.read? true attributes.toValue).bind (fun attributes =>
      (readList? true (.list (toValues children))).bind fun children =>
        some (Node.element tag attributes children)) = _
    rw [Attributes.read?_toValue, hchildren]
    rfl
  | leaf kind value =>
    intro gathered
    cases kind <;> rfl

theorem hasDistinctNames_toValues (h : ∀ n ∈ ns, n.toValue.HasDistinctNames) :
    (Value.list (toValues ns)).HasDistinctNames := by
  refine .list fun item hitem => ?_
  rw [toValues_eq] at hitem
  obtain ⟨n, hn, rfl⟩ := List.mem_map.mp hitem
  exact h n hn

/-- What is written has no object with two fields of one name. -/
theorem hasDistinctNames_toValue (n : Node) : n.toValue.HasDistinctNames := by
  induction n using inductionOn with
  | root children ih =>
    rw [toValue]
    exact .object (by simp) (by simp [HasDistinctNames.string, hasDistinctNames_toValues ih])
  | element tag attributes children ih =>
    rw [toValue]
    exact .object (by simp) (by simp [HasDistinctNames.string, hasDistinctNames_toValues ih,
      attributes.hasDistinctNames_toValue])
  | leaf kind value => exact .object (by simp) (by simp [HasDistinctNames.string])

/-! ### Spellings are not told apart -/

theorem attributesOf?_middle
    (h : Attributes.read? gathered v = Attributes.read? gathered w) :
    attributesOf? gathered (before ++ ("properties", v) :: after) =
      attributesOf? gathered (before ++ ("properties", w) :: after) := by
  rw [attributesOf?, attributesOf?, lookup_middle_self, lookup_middle_self]
  cases before.lookup "properties" with
  | none => exact h
  | some _ => rfl

theorem childrenField?_middle (h : readList? gathered v = readList? gathered w) :
    childrenField? gathered (before ++ ("children", v) :: after) =
      childrenField? gathered (before ++ ("children", w) :: after) := by
  rw [childrenField?_eq, childrenField?_eq, lookup_middle_self, lookup_middle_self]
  cases before.lookup "children" with
  | none => exact congrArg some h
  | some _ => rfl

/-- A change of the spelling is not read. -/
theorem Respelled.read?_eq (h : Respelled gathered v w) : read? gathered v = read? gathered w := by
  induction h with
  | @fields gathered fields others kind htype h =>
    have htype' : others.lookup "type" = some (.string kind) :=
      (h.lookup_eq List.mem_cons_self).symm.trans htype
    by_cases hkind : kind ∈ kindNames
    · have hname := Value.nameAmong?_string gathered hkind
      rw [read?_object_of_type htype hname, read?_object_of_type htype' hname]
      exact ofFields?_of_fieldNames fun _ hfield => h.lookup_eq (List.mem_cons_of_mem _ hfield)
    · have hname : (Value.string kind).nameAmong? kindNames gathered = none := if_neg hkind
      rw [read?_object, read?_object, htype, htype', Option.bind_some, hname]
      rfl
  | @kind gathered before after v kind h =>
    have hname := Value.nameAmong?_string gathered (Value.mem_of_nameAmong? h)
    have hfields (kind' : String) (w : Value) :
        ofFields? kind' (before ++ ("type", w) :: after)
            (childrenField? true (before ++ ("type", w) :: after)) =
          ofFields? kind' (before ++ after) (childrenField? true (before ++ after)) :=
      ofFields?_middle_of_ne before (by decide) (by decide) (by decide) (by decide)
    simp only [read?_object, bind_lookup_middle (h.trans hname.symm), hfields]
  | @list gathered v items kind h hitems =>
    have hname := Value.nameAmong?_string gathered (Value.mem_of_nameAmong? h)
    rw [read?_list, h, Option.bind_some, Value.record?_list_eq_some_iff.mpr ⟨hitems, rfl⟩,
      Option.bind_some, read?_object_of_type List.lookup_cons_self hname]
    exact (ofFields?_middle_of_ne [] (by decide) (by decide) (by decide) (by decide)).symm
  | @properties gathered before after htype hnone =>
    refine read?_congr (lookup_middle_of_ne (by decide)).symm
      (lookup_middle_of_ne (by decide)).symm (lookup_middle_of_ne (by decide)).symm ?_ ?_
    · rw [attributesOf?, hnone, attributesOf?, lookup_middle_of_none hnone]
      rfl
    · rw [childrenField?_of_ne (by decide)]
  | @children gathered before after htype hnone =>
    have htype' : (before ++ ("children", Value.list []) :: after).lookup "type" =
        some (.string "element") := (lookup_middle_of_ne (by decide)).trans htype
    have hname : (Value.string "element").nameAmong? kindNames gathered = some "element" :=
      Value.nameAmong?_string _ (by decide)
    rw [read?_object_of_type htype hname, read?_object_of_type htype' hname, ofFields?_element,
      ofFields?_element, childrenField?_eq, childrenField?_eq, hnone, lookup_middle_of_none hnone,
      attributesOf?_of_ne (by decide), lookup_middle_of_ne (by decide)]
    rfl
  | attributes h =>
    refine read?_congr (lookup_middle_congr (by decide)) (lookup_middle_congr (by decide))
      (lookup_middle_congr (by decide)) (attributesOf?_middle h.read?_eq) ?_
    rw [childrenField?_of_ne (by decide), childrenField?_of_ne (by decide)]
  | @child gathered before after left right v w h ih =>
    refine read?_congr (lookup_middle_congr (by decide)) (lookup_middle_congr (by decide))
      (lookup_middle_congr (by decide)) ?_ (childrenField?_middle ?_)
    · rw [attributesOf?_of_ne (by decide), attributesOf?_of_ne (by decide)]
    · rw [readList?, readList?, readAll?_eq, readAll?_eq, List.mapM_append, List.mapM_append,
        List.mapM_cons, List.mapM_cons, ih]

/-- Spellings are read alike. -/
theorem SameSpelling.read?_eq (h : SameSpelling gathered v w) :
    read? gathered v = read? gathered w := by
  induction h with
  | rel v w h => exact h.read?_eq
  | refl v => rfl
  | symm v w _ ih => exact ih.symm
  | trans u v w _ _ ih ih' => exact ih.trans ih'

end Node

end Manuscript
