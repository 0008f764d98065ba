import Mathlib.Data.List.Basic
import Mathlib.Data.List.Nodup
import Manuscript.Proofs.Document.Attributes
import Manuscript.Proofs.Script.Layout

/-!
# The keys of properties

The object of a call has a field for each attribute that is written, under the name of its property,
and one for the children. Attributes have different names, but on an HTML element some are renamed,
and an attribute may have the name that another one gets. Then both are fields with the same key, and
the last of them counts. Otherwise all keys differ, and each value is found under the key of its
attribute. The key `__proto__` is an exception, since it sets the prototype of the object.

## Main definitions

* `objectFields` — the keys and the values in the object of a call
* `objectValue?` — what is found in an object
* `writtenNames` — the attributes that become properties
* `HasDistinctKeys` — the elements whose object has each key once

## Main results

* `expression?_toNode` — the expression of an element has its fields in an object
* `reactProperty_eq_iff` — which attributes become the same property
* `hasDistinctKeys_iff` — when all keys differ
* `distinctKeys_spec` — the object of an element, its keys and its values
-/

namespace Manuscript.Script

open Manuscript.Text (joinWith)

/-! ### Fields -/

/-- The field of an attribute, of an HTML element if `intrinsic`; none if it is left out. -/
def propertyField? (intrinsic : Bool) (entry : String × AttributeValue) : Option (String × String) :=
  (propertyValue? (propertyName intrinsic entry.1) entry.2 intrinsic).map fun value =>
    (propertyName intrinsic entry.1, value)

/-- The field of children with given expressions; none without children. -/
def childrenField? : List String → Option (String × String)
  | [] => none
  | [only] => some ("children", only)
  | many => some ("children", "[" ++ joinWith ", " many ++ "]")

/-- The keys and the values in the object of an element, in order. -/
def objectFields (e : Element) : List (String × String) :=
  e.attributes.entries.filterMap (propertyField? (!isComponent e.tag)) ++
    (childrenField? (expressions e.children)).toList

/-- How a field is written. -/
def fieldCode (field : String × String) : String := propertyKey field.1 ++ ": " ++ field.2

/-- What is found under a key in an object with given fields. The last field with the key counts, and
the field `__proto__` sets the prototype instead. -/
def objectValue? (fields : List (String × String)) (key : String) : Option String :=
  if key = "__proto__" then none else fields.reverse.lookup key

/-- The names of the attributes that become properties. -/
def writtenNames (e : Element) : List String :=
  (e.attributes.entries.filter fun entry =>
    (propertyField? (!isComponent e.tag) entry).isSome).map Prod.fst

/-- No key occurs twice in the object of an element. -/
def HasDistinctKeys (e : Element) : Prop := ((objectFields e).map Prod.fst).Nodup

instance (e : Element) : Decidable (HasDistinctKeys e) :=
  inferInstanceAs (Decidable (List.Nodup _))

variable {e : Element} {a b : String}

theorem property?_eq (intrinsic : Bool) (entry : String × AttributeValue) :
    property? intrinsic entry = (propertyField? intrinsic entry).map fieldCode := by
  rw [propertyField?, Option.map_map]
  rfl

theorem childField_eq (children : List String) :
    childField children = ((childrenField? children).map fieldCode).toList := by
  have hkey : propertyKey "children" = "children" := by decide +kernel
  match children with
  | [] => rfl
  | [only] =>
    have hopen : "children: " = "children" ++ ": " := by decide +kernel
    simp [childField, childrenField?, fieldCode, hkey, hopen]
  | first :: second :: rest =>
    have hopen : "children: [" = "children" ++ ": " ++ "[" := by decide +kernel
    simp only [childField, childrenField?, fieldCode, hkey, hopen, Option.map_some,
      Option.toList_some, String.append_assoc]

/-- The expression of an element is a call with its fields in an object. -/
theorem expression?_toNode (e : Element) :
    expression? e.toNode =
      some ((if (expressions e.children).length ≤ 1 then "_jsx(" else "_jsxs(") ++
        reference e.tag ++ ", \x7b" ++ joinWith ", " ((objectFields e).map fieldCode) ++ "\x7d)") := by
  have hproperties : properties e.tag e.attributes =
      (e.attributes.entries.filterMap (propertyField? (!isComponent e.tag))).map fieldCode := by
    rw [properties, List.map_filterMap]
    exact List.filterMap_congr fun entry _ => property?_eq _ entry
  rw [Element.toNode, expression?, call_eq, hproperties, childField_eq, objectFields,
    List.map_append, Option.toList_map]

/-! ### Keys -/

/-- Two attributes become the same property if and only if one of them is renamed to the other. -/
theorem reactProperty_eq_iff (h : a ≠ b) :
    reactProperty a = reactProperty b ↔ (a, b) ∈ reactProperties ∨ (b, a) ∈ reactProperties := by
  -- what an attribute is renamed to is renamed no more, and comes from no other attribute
  have hfixed : ∀ pair ∈ reactProperties, reactProperty pair.1 = reactProperty pair.2 := by decide
  have hunique : ∀ pair ∈ reactProperties, ∀ pair' ∈ reactProperties, pair.2 = pair'.2 →
      pair.1 = pair'.1 := by decide
  constructor
  · intro heq
    rcases reactProperty_cases a with ha | ha <;> rcases reactProperty_cases b with hb | hb
    · exact absurd (ha.symm.trans (heq.trans hb)) h
    · rw [← heq, ha] at hb
      exact .inr hb
    · rw [heq, hb] at ha
      exact .inl ha
    · exact absurd (hunique _ ha _ hb heq) h
  · rintro (hpair | hpair)
    · exact hfixed _ hpair
    · exact (hfixed _ hpair).symm

theorem nodup_writtenNames (e : Element) : (writtenNames e).Nodup := by
  rw [writtenNames, List.Nodup, List.pairwise_map]
  refine (e.attributes.ascending.filter _).imp fun hlt heq => ?_
  rw [heq] at hlt
  exact String.lt_irrefl _ hlt

/-- The keys in an object are those of the attributes that are written and that of the children. -/
theorem keys_objectFields (e : Element) :
    (objectFields e).map Prod.fst =
      (writtenNames e).map (propertyName (!isComponent e.tag)) ++
        ((childrenField? (expressions e.children)).toList).map Prod.fst := by
  have hproperties (entries : List (String × AttributeValue)) (intrinsic : Bool) :
      (entries.filterMap (propertyField? intrinsic)).map Prod.fst =
        ((entries.filter fun entry => (propertyField? intrinsic entry).isSome).map Prod.fst).map
          (propertyName intrinsic) := by
    rw [List.map_filterMap, List.map_map, ← List.filterMap_eq_map, List.filterMap_filter]
    refine List.filterMap_congr fun entry _ => ?_
    rw [propertyField?]
    cases propertyValue? (propertyName intrinsic entry.1) entry.2 intrinsic <;> rfl
  rw [objectFields, List.map_append, hproperties, writtenNames]

/-- No attribute has the key of the children unless it has their name. -/
theorem children_notMem_keys (h : e.attributes.get? "children" = none) :
    "children" ∉ (writtenNames e).map (propertyName (!isComponent e.tag)) := by
  intro hmem
  obtain ⟨name, hname, hproperty⟩ := List.mem_map.mp hmem
  obtain rfl := eq_of_propertyName_eq (by decide) hproperty
  obtain ⟨entry, hentry, hkey⟩ := List.mem_map.mp hname
  have hne := List.lookup_eq_none_iff.mp h entry (List.mem_filter.mp hentry).1
  simp [hkey] at hne

/-- If no attribute is called `children`, all keys differ if and only if no two attributes that are
written have the same property. -/
theorem hasDistinctKeys_iff_inj (h : e.attributes.get? "children" = none) :
    HasDistinctKeys e ↔ ∀ a ∈ writtenNames e, ∀ b ∈ writtenNames e,
      propertyName (!isComponent e.tag) a = propertyName (!isComponent e.tag) b → a = b := by
  have hchildren : ∀ key ∈ ((childrenField? (expressions e.children)).toList).map Prod.fst,
      key = "children" := by
    match expressions e.children with
    | [] => simp [childrenField?]
    | [only] => simp [childrenField?]
    | first :: second :: rest => simp [childrenField?]
  have hsingle : (((childrenField? (expressions e.children)).toList).map Prod.fst).Nodup := by
    cases childrenField? (expressions e.children) <;> simp
  rw [HasDistinctKeys, keys_objectFields, List.nodup_append,
    List.nodup_map_iff_inj_on (nodup_writtenNames e)]
  constructor
  · intro hkeys
    exact hkeys.1
  · intro hinj
    refine ⟨hinj, hsingle, fun key hkey other hother heq => ?_⟩
    rw [heq, hchildren other hother] at hkey
    exact children_notMem_keys h hkey

/-- All keys differ on a component, and on an HTML element unless an attribute and the one that it is
renamed to are both written. -/
theorem hasDistinctKeys_iff (h : e.attributes.get? "children" = none) :
    HasDistinctKeys e ↔ isComponent e.tag = true ∨
      ∀ pair ∈ reactProperties, pair.1 ∈ writtenNames e → pair.2 ∉ writtenNames e := by
  rw [hasDistinctKeys_iff_inj h]
  cases hcomponent : isComponent e.tag with
  | true =>
    -- nothing is renamed on a component
    exact iff_of_true (fun a _ b _ heq => heq) (.inl rfl)
  | false =>
    rw [or_iff_right Bool.false_ne_true]
    constructor
    · intro hinj pair hpair hfirst hsecond
      have hne : ∀ pair ∈ reactProperties, pair.1 ≠ pair.2 := by decide
      have heq := (reactProperty_eq_iff (hne pair hpair)).mpr (.inl hpair)
      exact hne pair hpair (hinj _ hfirst _ hsecond heq)
    · intro hpairs a ha b hb heq
      by_contra hne
      rcases (reactProperty_eq_iff hne).mp heq with hpair | hpair
      · exact hpairs _ hpair ha hb
      · exact hpairs _ hpair hb ha

/-- If all keys differ, each field is found under its key, unless it sets the prototype. -/
theorem objectValue?_of_mem (h : HasDistinctKeys e) {field : String × String}
    (hfield : field ∈ objectFields e) (hproto : field.1 ≠ "__proto__") :
    objectValue? (objectFields e) field.1 = some field.2 := by
  rw [objectValue?, if_neg hproto]
  exact lookup_reverse_eq_some_iff.mpr (isLastValue_of_nodup h hfield)

/-- The object of an element without an attribute called `children` has the properties of the attributes
that are written, and the children. Its keys differ on a component, and on an HTML element unless
an attribute and the one that it is renamed to are both written. If they differ, no attribute hides
another one: the value of each is found under its key, if this is not `__proto__`. -/
theorem distinctKeys_spec (e : Element) (h : e.attributes.get? "children" = none) :
    expression? e.toNode =
        some ((if (expressions e.children).length ≤ 1 then "_jsx(" else "_jsxs(") ++
          reference e.tag ++ ", \x7b" ++ joinWith ", " ((objectFields e).map fieldCode) ++ "\x7d)") ∧
      (HasDistinctKeys e ↔ isComponent e.tag = true ∨
        ∀ pair ∈ reactProperties, pair.1 ∈ writtenNames e → pair.2 ∉ writtenNames e) ∧
      (HasDistinctKeys e → ∀ entry ∈ e.attributes.entries, ∀ field,
        propertyField? (!isComponent e.tag) entry = some field → field.1 ≠ "__proto__" →
          objectValue? (objectFields e) field.1 = some field.2) := by
  refine ⟨expression?_toNode e, hasDistinctKeys_iff h, fun hkeys entry hentry field hfield => ?_⟩
  refine objectValue?_of_mem hkeys ?_
  exact List.mem_append_left _ (List.mem_filterMap.mpr ⟨entry, hentry, hfield⟩)

/-- A field with a class, whose `className` is an empty expression. -/
def requiredField : Element :=
  ⟨"input", Attributes.ofList [("class", .list ["wide", "plain"]), ("className", .expression " "),
    ("required", .text "")], []⟩

/-- The class of the field is found in its object, since the other attribute is not written. -/
theorem distinctKeys_spec_requiredField :
    requiredField.attributes.get? "children" = none ∧ HasDistinctKeys requiredField ∧
      objectValue? (objectFields requiredField) "className" = some "\"wide plain\"" := by
  have hchildren : requiredField.attributes.get? "children" = none := by decide
  obtain ⟨-, hdistinct, hfound⟩ := distinctKeys_spec requiredField hchildren
  have hkeys : HasDistinctKeys requiredField := hdistinct.mpr (.inr (by decide +kernel))
  exact ⟨hchildren, hkeys, hfound hkeys ("class", .list ["wide", "plain"]) (by decide)
    ("className", "\"wide plain\"") (by decide +kernel) (by decide)⟩

/-- A block of code with the class of its language, and with a `className` from its author. -/
def wideBlock : Element :=
  ⟨"pre", Attributes.ofList [("class", .list ["language-rust"]), ("className", .text "wide")], []⟩

/-- The class of the language is written, but hidden by the other one. -/
theorem not_hasDistinctKeys_wideBlock :
    wideBlock.attributes.get? "children" = none ∧ ¬ HasDistinctKeys wideBlock ∧
      expression? wideBlock.toNode =
        some "_jsx(_components.pre, \x7bclassName: \"language-rust\", className: \"wide\"\x7d)" ∧
      objectValue? (objectFields wideBlock) "className" = some "\"wide\"" :=
  ⟨by decide, by decide +kernel, by decide +kernel, by decide +kernel⟩

end Manuscript.Script
