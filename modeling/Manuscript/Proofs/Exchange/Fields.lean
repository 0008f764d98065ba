import Mathlib.Data.List.Nodup
import Mathlib.Logic.Relation
import Manuscript.Data.Record

/-!
# Fields of objects

A reader that looks up certain fields of an object finds the same whatever the order of the fields is
and whatever other fields there are. Such changes lead from any object, whose fields have different
names, to the object that has the fields that are read and no others, in the order in which they are
named.

## Main definitions

* `Value.HasDistinctNames` — data in which no object has two fields of one name
* `Value.FieldChange` — a change that makes no difference to a reader of certain fields
* `Value.selectFields` — the fields with given names

## Main results

* `lookup_eq_some_iff_mem` — what is found among fields of different names
* `FieldChange.lookup_eq` — a reader finds the same after a change
* `eqvGen_selectFields` — changes that leave the fields that are read
* `eqvGen_of_forall₂` — changes of the items of a list, one after the other
* `mem_of_nameAmong?`, `mem_of_caseAmong?` — what is read as one of given names is one of them
-/

namespace Manuscript

open Relation (EqvGen)

section Lists

variable {α β : Type} {fields others before after : List (String × α)} {name other : String} {v : α}

theorem lookup_middle_self :
    (before ++ (name, v) :: after).lookup name = (before.lookup name).or (some v) := by
  rw [List.lookup_append, List.lookup_cons_self]

theorem lookup_middle_of_ne (h : other ≠ name) :
    (before ++ (name, v) :: after).lookup other = (before ++ after).lookup other := by
  have hother : (other == name) = false := beq_eq_false_iff_ne.mpr h
  rw [List.lookup_append, List.lookup_append, List.lookup_cons, hother]

theorem lookup_middle_congr {w : α} (h : other ≠ name) :
    (before ++ (name, v) :: after).lookup other = (before ++ (name, w) :: after).lookup other := by
  rw [lookup_middle_of_ne h, lookup_middle_of_ne h]

/-- Among fields without a name, a field of that name is found where it is put. -/
theorem lookup_middle_of_none (h : (before ++ after).lookup name = none) :
    (before ++ (name, v) :: after).lookup name = some v := by
  rw [List.lookup_append, Option.or_eq_none_iff] at h
  rw [lookup_middle_self, h.1, Option.none_or]

/-- A reader of one field takes no notice of a change of its value that is read alike. -/
theorem bind_lookup_middle {f : α → Option β} {w : α} (h : f v = f w) :
    ((before ++ (name, v) :: after).lookup name).bind f =
      ((before ++ (name, w) :: after).lookup name).bind f := by
  rw [lookup_middle_self, lookup_middle_self]
  cases before.lookup name with
  | none => exact h
  | some _ => rfl

/-- Among fields of different names, one is found if and only if it is there. -/
theorem lookup_eq_some_iff_mem (h : (fields.map Prod.fst).Nodup) :
    fields.lookup name = some v ↔ (name, v) ∈ fields := by
  constructor
  · intro hlookup
    obtain ⟨before, after, rfl, -⟩ := List.lookup_eq_some_iff.mp hlookup
    simp
  · intro hmem
    obtain ⟨before, after, rfl⟩ := List.append_of_mem hmem
    rw [List.map_append, List.map_cons, List.nodup_middle, List.nodup_cons] at h
    refine List.lookup_eq_some_iff.mpr ⟨before, after, rfl, fun field hfield => ?_⟩
    refine bne_iff_ne.mpr fun hname => h.1 (List.mem_append_left _ ?_)
    exact List.mem_map.mpr ⟨field, hfield, hname.symm⟩

theorem lookup_perm (h : (fields.map Prod.fst).Nodup) (hperm : fields.Perm others) :
    fields.lookup name = others.lookup name := by
  have hothers : (others.map Prod.fst).Nodup := (hperm.map Prod.fst).nodup_iff.mp h
  refine Option.ext fun v => ?_
  rw [lookup_eq_some_iff_mem h, lookup_eq_some_iff_mem hothers]
  exact hperm.mem_iff

/-- Changes within something are changes of the whole. -/
theorem eqvGen_lift {change : α → α → Prop} {change' : β → β → Prop} (whole : α → β)
    (h : ∀ a b, change a b → change' (whole a) (whole b)) {a b : α} (hab : EqvGen change a b) :
    EqvGen change' (whole a) (whole b) := by
  induction hab with
  | rel a b hchange => exact .rel _ _ (h a b hchange)
  | refl a => exact .refl _
  | symm a b _ ih => exact .symm _ _ ih
  | trans a b c _ _ ih ih' => exact .trans _ _ _ ih ih'

/-- Items that can be changed one at a time can all be changed, each into its partner. -/
theorem eqvGen_of_forall₂ {change : α → α → Prop} {change' : β → β → Prop} (whole : List α → β)
    (h : ∀ left right a b, change a b →
      change' (whole (left ++ a :: right)) (whole (left ++ b :: right)))
    {items items' : List α} (hitems : List.Forall₂ (EqvGen change) items items') :
    EqvGen change' (whole items) (whole items') := by
  -- the items in front have been changed already
  have hbehind (left : List α) : EqvGen change' (whole (left ++ items)) (whole (left ++ items')) := by
    induction hitems generalizing left with
    | nil => exact .refl _
    | @cons a b rest rest' hab _ ih =>
      have hfirst : EqvGen change' (whole (left ++ a :: rest)) (whole (left ++ b :: rest)) :=
        eqvGen_lift (fun a => whole (left ++ a :: rest)) (h left rest) hab
      refine .trans _ _ _ hfirst ?_
      simpa using ih (left ++ [b])
  exact hbehind []

end Lists

namespace Value

/-- Data in which no object has two fields of one name. -/
inductive HasDistinctNames : Value → Prop where
  /-- The absent value has no fields. -/
  | null : HasDistinctNames .null
  /-- A truth value has no fields. -/
  | bool (b : Bool) : HasDistinctNames (.bool b)
  /-- An integer has no fields. -/
  | int (n : Int) : HasDistinctNames (.int n)
  /-- A number has no fields. -/
  | float (x : Binary64) : HasDistinctNames (.float x)
  /-- A text has no fields. -/
  | string (s : String) : HasDistinctNames (.string s)
  /-- So it is with every item of a list. -/
  | list {items : List Value} (hitems : ∀ item ∈ items, HasDistinctNames item) :
    HasDistinctNames (.list items)
  /-- The names of the fields differ, and so it is with every value of a field. -/
  | object {fields : List (String × Value)} (hnames : (fields.map Prod.fst).Nodup)
    (hvalues : ∀ field ∈ fields, HasDistinctNames field.2) : HasDistinctNames (.object fields)

/-- A change of the fields of an object that a reader of the fields `names` takes no notice of. -/
inductive FieldChange (names : List String) :
    List (String × Value) → List (String × Value) → Prop where
  /-- The fields come in another order. -/
  | reorder {fields others : List (String × Value)} (hnames : (fields.map Prod.fst).Nodup)
    (hperm : fields.Perm others) : FieldChange names fields others
  /-- There is one more field, which is not read. -/
  | extra {before after : List (String × Value)} {name : String} {v : Value} (hname : name ∉ names) :
    FieldChange names (before ++ after) (before ++ (name, v) :: after)

/-- The fields with given names, in the order of the names. -/
def selectFields (names : List String) (fields : List (String × Value)) : List (String × Value) :=
  names.filterMap fun name => (fields.lookup name).map (name, ·)

variable {names : List String} {fields others : List (String × Value)} {name : String} {v : Value}
  {items : List Value}

theorem HasDistinctNames.item (h : HasDistinctNames (.list items)) :
    ∀ item ∈ items, item.HasDistinctNames := by
  cases h with
  | list hitems => exact hitems

theorem HasDistinctNames.nodup (h : HasDistinctNames (.object fields)) :
    (fields.map Prod.fst).Nodup := by
  cases h with
  | object hnames _ => exact hnames

theorem HasDistinctNames.value (h : HasDistinctNames (.object fields)) :
    ∀ field ∈ fields, field.2.HasDistinctNames := by
  cases h with
  | object _ hvalues => exact hvalues

theorem HasDistinctNames.of_lookup (h : HasDistinctNames (.object fields))
    (hlookup : fields.lookup name = some v) : v.HasDistinctNames :=
  h.value _ ((lookup_eq_some_iff_mem h.nodup).mp hlookup)

theorem HasDistinctNames.middle {before after : List (String × Value)} {w : Value}
    (h : (Value.object (before ++ (name, v) :: after)).HasDistinctNames) (hw : w.HasDistinctNames) :
    (Value.object (before ++ (name, w) :: after)).HasDistinctNames := by
  have hvalue := h.value
  rw [List.forall_mem_append, List.forall_mem_cons] at hvalue
  refine .object (by simpa using h.nodup) ?_
  exact List.forall_mem_append.mpr ⟨hvalue.1, List.forall_mem_cons.mpr ⟨hw, hvalue.2.2⟩⟩

/-- A reader finds the same after a change. -/
theorem FieldChange.lookup_eq (h : FieldChange names fields others) (hname : name ∈ names) :
    fields.lookup name = others.lookup name := by
  cases h with
  | reorder hnames hperm => exact lookup_perm hnames hperm
  | extra hunread =>
    refine (lookup_middle_of_ne ?_).symm
    rintro rfl
    exact hunread hname

theorem mem_selectFields :
    (name, v) ∈ selectFields names fields ↔ name ∈ names ∧ fields.lookup name = some v := by
  simp only [selectFields, List.mem_filterMap, Option.map_eq_some_iff, Prod.mk.injEq]
  constructor
  · rintro ⟨read, hread, found, hlookup, rfl, rfl⟩
    exact ⟨hread, hlookup⟩
  · rintro ⟨hname, hlookup⟩
    exact ⟨name, hname, v, hlookup, rfl, rfl⟩

/-- Fields that are not read may be left out, all at once. -/
theorem eqvGen_append (hunread : ∀ field ∈ others, field.1 ∉ names) :
    EqvGen (FieldChange names) (fields ++ others) fields := by
  induction others with
  | nil =>
    rw [List.append_nil]
    exact .refl _
  | cons field rest ih =>
    obtain ⟨hfield, hrest⟩ := List.forall_mem_cons.mp hunread
    exact .trans _ _ _ (.symm _ _ (.rel _ _ (.extra hfield))) (ih hrest)

/-- Fields of different names can be changed into those that are read, in the order of their names. -/
theorem eqvGen_selectFields (hnames : names.Nodup) (hfields : (fields.map Prod.fst).Nodup) :
    EqvGen (FieldChange names) fields (selectFields names fields) := by
  have hselected : (selectFields names fields).Nodup := by
    refine hnames.filterMap fun read read' field hfield hfield' => ?_
    obtain ⟨_, -, rfl⟩ := Option.map_eq_some_iff.mp hfield
    obtain ⟨_, -, hsame⟩ := Option.map_eq_some_iff.mp hfield'
    exact (congrArg Prod.fst hsame).symm
  have hunread : (fields.filter (·.1 ∉ names)).Nodup := (hfields.of_map Prod.fst).filter _
  have hdisjoint : List.Disjoint (selectFields names fields) (fields.filter (·.1 ∉ names)) := by
    rintro ⟨read, found⟩ hmem hmem'
    exact (of_decide_eq_true (List.mem_filter.mp hmem').2) (mem_selectFields.mp hmem).1
  have hperm : fields.Perm (selectFields names fields ++ fields.filter (·.1 ∉ names)) := by
    refine (List.perm_ext_iff_of_nodup (hfields.of_map Prod.fst)
      (hselected.append hunread hdisjoint)).mpr ?_
    rintro ⟨read, found⟩
    rw [List.mem_append, mem_selectFields, lookup_eq_some_iff_mem hfields, List.mem_filter]
    by_cases hread : read ∈ names <;> simp [hread]
  refine .trans _ _ _ (.rel _ _ (.reorder hfields hperm)) (eqvGen_append fun field hfield => ?_)
  exact of_decide_eq_true (List.mem_filter.mp hfield).2

/-! ### Names and records -/

variable {gathered : Bool} {s : String}

theorem mem_of_nameAmong? (h : v.nameAmong? names gathered = some s) : s ∈ names := by
  unfold nameAmong? at h
  split at h
  · split at h
    · rename_i hmem
      exact Option.some.inj h ▸ hmem
    · cases h
  · split at h
    · exact List.mem_of_getElem? h
    · cases h
  · cases h

theorem nameAmong?_string (gathered : Bool) (h : s ∈ names) :
    (string s).nameAmong? names gathered = some s := if_pos h

theorem mem_of_caseAmong? (h : v.caseAmong? names gathered = some s) : s ∈ names := by
  unfold caseAmong? at h
  split at h
  · split at h
    · rename_i hmem
      exact Option.some.inj h ▸ hmem
    · cases h
  · split at h
    · rename_i hmem
      exact Option.some.inj h ▸ of_decide_eq_true (Bool.and_eq_true_iff.mp hmem).1
    · cases h
  · cases h

theorem caseAmong?_string (gathered : Bool) (h : s ∈ names) :
    (string s).caseAmong? names gathered = some s := if_pos h

theorem record?_list_eq_some_iff :
    (list items).record? names = some fields ↔
      items.length ≤ names.length ∧ names.zip items = fields := by
  rw [record?]
  split <;> simp [*]

/-- The fields of a record that is read from a list have the names of the record, from the first
one on. -/
theorem map_fst_zip_sublist (names : List String) (items : List Value) :
    ((names.zip items).map Prod.fst).Sublist names := by
  induction names generalizing items with
  | nil => simp
  | cons name names ih =>
    cases items with
    | nil => exact List.nil_sublist _
    | cons item items => exact (ih items).cons_cons name

/-- A record that is read from a list may as well be given by its fields. -/
theorem HasDistinctNames.object_zip (h : ∀ item ∈ items, item.HasDistinctNames)
    (hnames : names.Nodup) (hname : name ∉ names) (hv : v.HasDistinctNames) :
    (Value.object ((name, v) :: names.zip items)).HasDistinctNames := by
  have hzip := (map_fst_zip_sublist names items).nodup hnames
  refine .object (List.nodup_cons.mpr ⟨?_, hzip⟩) (List.forall_mem_cons.mpr ⟨hv, ?_⟩)
  · intro hmem
    obtain ⟨⟨_, item⟩, hfield, rfl⟩ := List.mem_map.mp hmem
    exact hname (List.of_mem_zip hfield).1
  · exact fun field hfield => h _ (List.of_mem_zip hfield).2

end Value

end Manuscript
