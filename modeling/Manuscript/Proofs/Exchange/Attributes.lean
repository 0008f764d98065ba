import Mathlib.Data.List.Forall2
import Mathlib.Data.List.Perm.Basic
import Manuscript.Document.Exchange
import Manuscript.Proofs.Document.Attributes
import Manuscript.Proofs.Exchange.Fields

/-!
# Reading attributes back from data

Attributes that are written as data are read back as they were. Their data can be spelled in other
ways: the attributes and the fields of a value come in another order, there are fields that are not
read, the kind of a value is given in another way, and a value is given as a list. Data that are read
are a spelling of what is written.

## Main definitions

* `AttributeValue.Respelled`, `Attributes.Respelled` — one change of the spelling

## Main results

* `AttributeValue.read?_toValue`, `Attributes.read?_toValue` — what is written is read back
* `Respelled.read?_eq` — a change of the spelling is not read
* `eqvGen_toValue` — data that are read are a spelling of what is written
-/

namespace Manuscript

open Relation (EqvGen)
open Value (FieldChange HasDistinctNames selectFields)

theorem mapM_eq_some_iff {α β : Type} {f : α → Option β} {as : List α} {bs : List β} :
    as.mapM f = some bs ↔ List.Forall₂ (fun a b => f a = some b) as bs := by
  induction as generalizing bs with
  | nil => simp [eq_comm]
  | cons a as ih =>
    rw [List.mapM_cons, List.forall₂_cons_left_iff]
    simp only [Option.bind_eq_bind, Option.bind_eq_some_iff, Option.pure_def, Option.some.injEq, ih]
    grind

theorem string?_eq_some_iff {v : Value} {s : String} : v.string? = some s ↔ v = .string s := by
  cases v <;> simp [Value.string?]

theorem list?_eq_some_iff {v : Value} {items : List Value} :
    v.list? = some items ↔ v = .list items := by
  cases v <;> simp [Value.list?]

namespace AttributeValue

variable {a : AttributeValue} {v value : Value} {fields others : List (String × Value)}
  {gathered : Bool} {kind : String}

/-- The names of the fields of an attribute value. -/
def fieldNames : List String := ["type", "value"]

/-- One change in the spelling of an attribute value. -/
inductive Respelled (gathered : Bool) : Value → Value → Prop where
  /-- The fields change without notice. -/
  | fields {fields others : List (String × Value)} (h : FieldChange fieldNames fields others) :
    Respelled gathered (.object fields) (.object others)
  /-- The kind is given by its name. -/
  | kind (before : List (String × Value)) {after : List (String × Value)} {v : Value}
    {kind : String} (h : v.caseAmong? kindNames gathered = some kind) :
    Respelled gathered (.object (before ++ ("type", v) :: after))
      (.object (before ++ ("type", .string kind) :: after))
  /-- The items of a list become the fields of an object. -/
  | list {v value : Value} {kind : String} (h : v.nameAmong? kindNames gathered = some kind) :
    Respelled gathered (.list [v, value]) (.object [("type", .string kind), ("value", value)])

theorem mapM_string? (tokens : List String) :
    (tokens.map Value.string).mapM Value.string? = some tokens := by
  rw [mapM_eq_some_iff, List.forall₂_map_left_iff]
  exact List.forall₂_same.mpr fun _ _ => rfl

/-- An attribute value that is written is read back. -/
theorem read?_toValue (gathered : Bool) (a : AttributeValue) :
    read? gathered a.toValue = some a := by
  cases a with
  | text value => rfl
  | list tokens =>
    change ((tokens.map Value.string).mapM Value.string?).map AttributeValue.list = _
    rw [mapM_string?]
    rfl
  | expression source => rfl

theorem read?_object :
    read? gathered (.object fields) =
      ((fields.lookup "type").bind (Value.caseAmong? kindNames gathered)).bind fun kind =>
        (fields.lookup "value").bind (ofKind? kind) := by
  rw [read?, Option.bind_assoc]
  rfl

theorem read?_list (h : v.nameAmong? kindNames gathered = some kind) :
    read? gathered (.list [v, value]) = ofKind? kind value := by
  rw [read?, h]
  rfl

theorem Respelled.read?_eq {w : Value} (h : Respelled gathered v w) :
    read? gathered v = read? gathered w := by
  cases h with
  | fields h => rw [read?_object, read?_object, h.lookup_eq (by decide), h.lookup_eq (by decide)]
  | @kind before after v kind h =>
    have hkind := Value.caseAmong?_string gathered (Value.mem_of_caseAmong? h)
    have hvalue : (before ++ ("type", v) :: after).lookup "value" =
        (before ++ ("type", Value.string kind) :: after).lookup "value" :=
      lookup_middle_congr (by decide)
    rw [read?_object, read?_object, hvalue, bind_lookup_middle (h.trans hkind.symm)]
  | list h =>
    have hkind := Value.caseAmong?_string gathered (Value.mem_of_nameAmong? h)
    rw [read?_list h, read?_object]
    simp [List.lookup_cons, hkind]

theorem hasDistinctNames_toValue (a : AttributeValue) : a.toValue.HasDistinctNames := by
  cases a with
  | list tokens =>
    have htokens : (Value.ofStrings tokens).HasDistinctNames :=
      .list (by simp [HasDistinctNames.string])
    exact .object (by simp) (by simp [HasDistinctNames.string, htokens])
  | _ => exact .object (by simp) (by simp [HasDistinctNames.string])

theorem eq_map_of_mapM_string? {items : List Value} {tokens : List String}
    (h : items.mapM Value.string? = some tokens) : items = tokens.map .string := by
  rw [mapM_eq_some_iff] at h
  induction h with
  | nil => rfl
  | cons hitem _ ih => rw [string?_eq_some_iff.mp hitem, ih, List.map_cons]

/-- A value of a kind has the fields that are written for it. -/
theorem toValue_eq_of_ofKind? (h : ofKind? kind value = some a) :
    a.toValue = .object [("type", .string kind), ("value", value)] := by
  unfold ofKind? at h
  split at h
  · obtain ⟨text, htext, rfl⟩ := Option.map_eq_some_iff.mp h
    rw [string?_eq_some_iff.mp htext]
    rfl
  · obtain ⟨items, hitems, h⟩ := Option.bind_eq_some_iff.mp h
    obtain ⟨tokens, htokens, rfl⟩ := Option.map_eq_some_iff.mp h
    rw [list?_eq_some_iff.mp hitems, eq_map_of_mapM_string? htokens]
    rfl
  · obtain ⟨source, hsource, rfl⟩ := Option.map_eq_some_iff.mp h
    rw [string?_eq_some_iff.mp hsource]
    rfl
  · cases h

/-- An object for an attribute value is a spelling of what is written for it: the fields are put in
order, and then the kind is given by its name. -/
theorem eqvGen_toValue_object (hnames : (fields.map Prod.fst).Nodup)
    (h : read? gathered (.object fields) = some a) :
    EqvGen (Respelled gathered) (.object fields) a.toValue := by
  rw [read?_object] at h
  obtain ⟨kind, hkind, h⟩ := Option.bind_eq_some_iff.mp h
  obtain ⟨type, htype, hkind⟩ := Option.bind_eq_some_iff.mp hkind
  obtain ⟨value, hvalue, h⟩ := Option.bind_eq_some_iff.mp h
  have hselected : selectFields fieldNames fields = [("type", type), ("value", value)] := by
    simp [selectFields, fieldNames, htype, hvalue]
  have horder : EqvGen (Respelled gathered) (.object fields)
      (.object (selectFields fieldNames fields)) :=
    eqvGen_lift Value.object (fun _ _ => .fields)
      (Value.eqvGen_selectFields (by decide) hnames)
  rw [hselected] at horder
  rw [toValue_eq_of_ofKind? h]
  exact .trans _ _ _ horder (.rel _ _ (.kind [] hkind))

/-- Data for an attribute value are a spelling of what is written for it. -/
theorem eqvGen_toValue (hnames : v.HasDistinctNames) (h : read? gathered v = some a) :
    EqvGen (Respelled gathered) v a.toValue := by
  unfold read? at h
  split at h
  · exact eqvGen_toValue_object hnames.nodup h
  · obtain ⟨kind, hkind, h⟩ := Option.bind_eq_some_iff.mp h
    rw [toValue_eq_of_ofKind? h]
    exact .rel _ _ (.list hkind)
  · cases h

end AttributeValue

namespace Attributes

variable {attrs : Attributes} {entries others : List (String × AttributeValue)}
  {fields : List (String × Value)} {name : String} {v w : Value} {gathered : Bool}

/-- One change in the spelling of attributes. -/
inductive Respelled (gathered : Bool) : Value → Value → Prop where
  /-- The attributes come in another order. -/
  | reorder {fields others : List (String × Value)} (hnames : (fields.map Prod.fst).Nodup)
    (hperm : fields.Perm others) : Respelled gathered (.object fields) (.object others)
  /-- The spelling of one value changes. -/
  | value {before after : List (String × Value)} {name : String} {v w : Value}
    (h : AttributeValue.Respelled gathered v w) :
    Respelled gathered (.object (before ++ (name, v) :: after))
      (.object (before ++ (name, w) :: after))

/-- The attribute that a field stands for. -/
def readField? (gathered : Bool) (field : String × Value) : Option (String × AttributeValue) :=
  (AttributeValue.read? gathered field.2).map (field.1, ·)

theorem read?_object :
    read? gathered (.object fields) = (fields.mapM (readField? gathered)).map ofList := by
  change (fields.mapM (readField? gathered)).bind (fun entries => some (ofList entries)) = _
  rw [Option.map_eq_bind]
  rfl

theorem nodup_names (attrs : Attributes) : (attrs.entries.map Prod.fst).Nodup := by
  rw [List.Nodup, List.pairwise_map]
  refine attrs.ascending.imp fun hlt heq => ?_
  rw [heq] at hlt
  exact String.lt_irrefl _ hlt

/-- The last value given for a name is found. -/
theorem get?_ofList (entries : List (String × AttributeValue)) :
    (ofList entries).get? name = entries.reverse.lookup name := by
  rw [ofList, get?_foldl, get?_empty, Option.or_none]

theorem get?_ofList_of_nodup (hnames : (entries.map Prod.fst).Nodup) :
    (ofList entries).get? name = entries.lookup name := by
  rw [get?_ofList]
  exact (lookup_perm hnames entries.reverse_perm.symm).symm

theorem ofList_entries (attrs : Attributes) : ofList attrs.entries = attrs :=
  eq_of_get?_eq fun _ => get?_ofList_of_nodup attrs.nodup_names

theorem ofList_perm (hnames : (entries.map Prod.fst).Nodup) (hperm : entries.Perm others) :
    ofList entries = ofList others := by
  have hothers : (others.map Prod.fst).Nodup := (hperm.map Prod.fst).nodup_iff.mp hnames
  refine eq_of_get?_eq fun name => ?_
  rw [get?_ofList_of_nodup hnames, get?_ofList_of_nodup hothers, lookup_perm hnames hperm]

/-- Attributes of different names are all stored. -/
theorem perm_entries_ofList (hnames : (entries.map Prod.fst).Nodup) :
    entries.Perm (ofList entries).entries := by
  refine (List.perm_ext_iff_of_nodup (hnames.of_map _) ((nodup_names _).of_map _)).mpr ?_
  rintro ⟨name, value⟩
  rw [← lookup_eq_some_iff_mem hnames, ← lookup_eq_some_iff_mem (nodup_names _),
    ← get?_ofList_of_nodup hnames]
  rfl

/-- The names of the attributes that are read are those of the fields. -/
theorem map_fst_of_mapM_readField? (h : fields.mapM (readField? gathered) = some entries) :
    entries.map Prod.fst = fields.map Prod.fst := by
  rw [mapM_eq_some_iff] at h
  induction h with
  | nil => rfl
  | cons hentry _ ih =>
    obtain ⟨value, -, rfl⟩ := Option.map_eq_some_iff.mp hentry
    rw [List.map_cons, List.map_cons, ih]

/-- Attributes that are written are read back. -/
theorem read?_toValue (gathered : Bool) (attrs : Attributes) :
    read? gathered attrs.toValue = some attrs := by
  have hentries : (attrs.entries.map fun entry => (entry.1, entry.2.toValue)).mapM
      (readField? gathered) = some attrs.entries := by
    rw [mapM_eq_some_iff, List.forall₂_map_left_iff]
    refine List.forall₂_same.mpr fun entry _ => ?_
    rw [readField?, AttributeValue.read?_toValue]
    rfl
  rw [toValue, read?_object, hentries, Option.map_some, ofList_entries]

theorem hasDistinctNames_toValue (attrs : Attributes) : attrs.toValue.HasDistinctNames := by
  refine .object ?_ fun field hfield => ?_
  · rw [List.map_map]
    exact attrs.nodup_names
  · obtain ⟨entry, -, rfl⟩ := List.mem_map.mp hfield
    exact entry.2.hasDistinctNames_toValue

/-- The order of the fields is not read. -/
theorem read?_eq_some_of_perm {others : List (String × Value)}
    (hnames : (fields.map Prod.fst).Nodup) (hperm : fields.Perm others)
    (h : read? gathered (.object fields) = some attrs) :
    read? gathered (.object others) = some attrs := by
  rw [read?_object] at h ⊢
  obtain ⟨entries, hentries, rfl⟩ := Option.map_eq_some_iff.mp h
  obtain ⟨entries', hentries', hperm'⟩ :=
    List.perm_comp_forall₂ hperm.symm (mapM_eq_some_iff.mp hentries)
  have hsame : ofList entries = ofList entries' := by
    rw [← map_fst_of_mapM_readField? hentries] at hnames
    exact ofList_perm hnames hperm'.symm
  rw [mapM_eq_some_iff.mpr hentries', hsame]
  rfl

theorem Respelled.read?_eq (h : Respelled gathered v w) : read? gathered v = read? gathered w := by
  cases h with
  | reorder hnames hperm =>
    have hnames' := (hperm.map Prod.fst).nodup_iff.mp hnames
    exact Option.ext fun attrs =>
      ⟨read?_eq_some_of_perm hnames hperm, read?_eq_some_of_perm hnames' hperm.symm⟩
  | value h =>
    rw [read?_object, read?_object, List.mapM_append, List.mapM_append, List.mapM_cons,
      List.mapM_cons, readField?, readField?, h.read?_eq]

/-- Data for attributes are a spelling of what is written for them: the values are respelled one
after the other, and then the attributes are put in order. -/
theorem eqvGen_toValue (hnames : v.HasDistinctNames) (h : read? gathered v = some attrs) :
    EqvGen (Respelled gathered) v attrs.toValue := by
  cases v with
  | object fields =>
    rw [read?_object] at h
    obtain ⟨entries, hentries, rfl⟩ := Option.map_eq_some_iff.mp h
    have hdistinct : (entries.map Prod.fst).Nodup := by
      rw [map_fst_of_mapM_readField? hentries]
      exact hnames.nodup
    let written (entry : String × AttributeValue) : String × Value := (entry.1, entry.2.toValue)
    let change (a b : String × Value) : Prop :=
      ∃ name v w, a = (name, v) ∧ b = (name, w) ∧ AttributeValue.Respelled gathered v w
    have hone (left right : List (String × Value)) : ∀ a b, change a b →
        Respelled gathered (.object (left ++ a :: right)) (.object (left ++ b :: right)) := by
      rintro _ _ ⟨name, v, w, rfl, rfl, h⟩
      exact .value h
    have hvalues : EqvGen (Respelled gathered) (.object fields) (.object (entries.map written)) := by
      refine eqvGen_of_forall₂ Value.object hone ?_
      rw [List.forall₂_map_right_iff]
      refine ((List.forall₂_and_left _ _).mpr
        ⟨hnames.value, mapM_eq_some_iff.mp hentries⟩).imp ?_
      rintro ⟨name, v⟩ entry ⟨hdata, hentry⟩
      obtain ⟨value, hvalue, rfl⟩ := Option.map_eq_some_iff.mp hentry
      exact eqvGen_lift (name, ·) (fun v w h => ⟨name, v, w, rfl, rfl, h⟩)
        (AttributeValue.eqvGen_toValue hdata hvalue)
    refine .trans _ _ _ hvalues (.rel _ _ (.reorder ?_ ?_))
    · rwa [List.map_map]
    · exact (perm_entries_ofList hdistinct).map written
  | _ => cases h

end Attributes

end Manuscript
