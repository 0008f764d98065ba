import Manuscript.Document.Node

/-!
# Looking up attributes

Setting an attribute changes what is found under its name and nothing else, and it can be undone by
removing the name. Attributes among which the same is found are the same. Adding a class sets the
class attribute to a list, in which the class is once.

## Main definitions

* `IsLastValue` — the last value that entries give to a key

## Main results

* `lookup_reverse_eq_some_iff`, `lookup_reverse_eq_none_iff` — which value is the last one

* `get?_insert`, `get?_erase` — what is found after setting an attribute, and after removing one
* `get?_foldl`, `get?_foldl_insert` — what is found after setting several ones
* `eq_of_get?_eq` — attributes are known by what is found among them
* `insert_insert`, `erase_insert` — setting an attribute before it is set again, or before its name
  is removed, makes no difference
* `insert_comm`, `addClass_insert_comm` — the order in which different attributes are set
* `classes_addClass`, `addClass_addClass` — the classes after adding one, and adding it twice
* `addClass_eq_self_iff` — when adding a class changes nothing
* `attrText?_eq_some_iff` — when an attribute is a plain text
-/

namespace Manuscript

section LastValue

variable {α : Type} {entries : List (String × α)} {entry : String × α} {key : String} {value : α}

/-- Among entries, `value` is the last one for `key`. -/
def IsLastValue (entries : List (String × α)) (key : String) (value : α) : Prop :=
  ∃ before after, entries = before ++ (key, value) :: after ∧ ∀ entry ∈ after, entry.1 ≠ key

theorem lookup_reverse_eq_some_iff :
    entries.reverse.lookup key = some value ↔ IsLastValue entries key value := by
  rw [List.lookup_eq_some_iff]
  constructor
  · rintro ⟨later, earlier, hreverse, hlater⟩
    have hentries : entries = earlier.reverse ++ (key, value) :: later.reverse := by
      simpa using congrArg List.reverse hreverse
    refine ⟨earlier.reverse, later.reverse, hentries, fun entry hentry => ?_⟩
    exact (bne_iff_ne.mp (hlater entry (List.mem_reverse.mp hentry))).symm
  · rintro ⟨before, after, rfl, hafter⟩
    refine ⟨after.reverse, before.reverse, by simp, fun entry hentry => ?_⟩
    exact bne_iff_ne.mpr (hafter entry (List.mem_reverse.mp hentry)).symm

theorem lookup_reverse_eq_none_iff :
    entries.reverse.lookup key = none ↔ ∀ entry ∈ entries, entry.1 ≠ key := by
  simp only [List.lookup_eq_none_iff, List.mem_reverse, bne_iff_ne, ne_comm]

/-- A key for which there are entries has a last value. -/
theorem exists_isLastValue (h : entry ∈ entries) : ∃ value, IsLastValue entries entry.1 value := by
  cases hlookup : entries.reverse.lookup entry.1 with
  | some value => exact ⟨value, lookup_reverse_eq_some_iff.mp hlookup⟩
  | none => exact absurd rfl (lookup_reverse_eq_none_iff.mp hlookup entry h)

/-- If no key occurs twice, each value is the last one for its key. -/
theorem isLastValue_of_nodup (hnodup : (entries.map Prod.fst).Nodup) (h : entry ∈ entries) :
    IsLastValue entries entry.1 entry.2 := by
  obtain ⟨before, after, rfl⟩ := List.append_of_mem h
  refine ⟨before, after, rfl, fun other hother hkey => ?_⟩
  rw [List.map_append, List.map_cons, List.nodup_append, List.nodup_cons] at hnodup
  exact hnodup.2.1.1 (hkey ▸ List.mem_map_of_mem hother)

end LastValue

namespace Attributes

variable {attrs : Attributes} {name other : String} {value : AttributeValue}
  {entries : List (String × AttributeValue)} {token : String}

@[simp] theorem get?_empty : empty.get? name = none := rfl

theorem lookup_cons_eq {α : Type} (entry : String × α) (entries : List (String × α)) :
    (entry :: entries).lookup name =
      if name = entry.1 then some entry.2 else entries.lookup name := by
  grind

theorem lookup_filter_ne {α : Type} {entries : List (String × α)} :
    (entries.filter (·.1 ≠ name)).lookup other =
      if other = name then none else entries.lookup other := by
  induction entries with
  | nil => simp
  | cons entry rest ih => grind

theorem lookup_insertEntry :
    (insertEntry name value entries).lookup other =
      if other = name then some value else entries.lookup other := by
  induction entries with
  | nil => grind [insertEntry]
  | cons entry rest ih => grind [insertEntry]

@[simp] theorem get?_insert :
    (attrs.insert name value).get? other = if other = name then some value else attrs.get? other :=
  lookup_insertEntry

@[simp] theorem get?_erase :
    (attrs.erase name).get? other = if other = name then none else attrs.get? other :=
  lookup_filter_ne

/-- After attributes have been set one after the other, the last value of a name is found, and under
other names what was there before. -/
theorem get?_foldl (entries : List (String × AttributeValue)) (attrs : Attributes) :
    (entries.foldl (fun attrs (key, value) => attrs.insert key value) attrs).get? name =
      (entries.reverse.lookup name).or (attrs.get? name) := by
  induction entries generalizing attrs with
  | nil => rfl
  | cons entry rest ih =>
    rw [List.foldl_cons, ih, get?_insert, List.reverse_cons, List.lookup_append]
    -- the first entry counts only if none behind it has its key
    cases rest.reverse.lookup name with
    | some value => rfl
    | none =>
      rw [lookup_cons_eq]
      by_cases hname : name = entry.1 <;> simp [hname]

theorem lookup_map_text (entries : List (String × String)) :
    (entries.map fun (key, text) => (key, AttributeValue.text text)).lookup name =
      (entries.lookup name).map .text := by
  induction entries with
  | nil => rfl
  | cons entry rest ih => grind

/-- The same for texts. -/
theorem get?_foldl_insert (entries : List (String × String)) (attrs : Attributes) :
    (entries.foldl (fun attrs (key, value) => attrs.insert key (.text value)) attrs).get? name =
      ((entries.reverse.lookup name).map .text).or (attrs.get? name) := by
  rw [← lookup_map_text, List.map_reverse, ← get?_foldl, List.foldl_map]

/-! ### What is found -/

private theorem lookup_eq_none_of_lt (h : ∀ entry ∈ entries, name < entry.1) :
    entries.lookup name = none := by
  rw [List.lookup_eq_none_iff]
  intro entry hentry
  have hne : name ≠ entry.1 := fun heq => String.lt_irrefl _ (heq ▸ h entry hentry)
  simpa using hne

/-- A lesser name would not be found in a list that begins with a greater one. -/
private theorem not_lt_of_lookup_eq {a b : String × AttributeValue}
    {others : List (String × AttributeValue)} (h : Ascending (b :: others))
    (hlookup : (a :: entries).lookup a.1 = (b :: others).lookup a.1) : ¬ a.1 < b.1 := by
  intro hlt
  have hnone : (b :: others).lookup a.1 = none := by
    refine lookup_eq_none_of_lt fun entry hentry => ?_
    rcases List.mem_cons.mp hentry with rfl | hentry
    · exact hlt
    · exact String.lt_trans hlt ((List.pairwise_cons.mp h).1 entry hentry)
  rw [hnone, lookup_cons_eq, if_pos rfl] at hlookup
  cases hlookup

private theorem eq_of_lookup_eq {others : List (String × AttributeValue)} (h : Ascending entries)
    (h' : Ascending others) (hlookup : ∀ name, entries.lookup name = others.lookup name) :
    entries = others := by
  induction entries generalizing others with
  | nil =>
    cases others with
    | nil => rfl
    | cons b others => simpa [lookup_cons_eq] using hlookup b.1
  | cons a entries ih =>
    cases others with
    | nil => simpa [lookup_cons_eq] using hlookup a.1
    | cons b others =>
      have hlt : ¬ a.1 < b.1 := not_lt_of_lookup_eq h' (hlookup a.1)
      have hgt : ¬ b.1 < a.1 := not_lt_of_lookup_eq h (hlookup b.1).symm
      have hname : a.1 = b.1 := by grind
      obtain ⟨hfirst, hrest⟩ := List.pairwise_cons.mp h
      obtain ⟨hfirst', hrest'⟩ := List.pairwise_cons.mp h'
      have hvalue : a.2 = b.2 := by simpa [lookup_cons_eq, hname] using hlookup a.1
      have htails : ∀ name, entries.lookup name = others.lookup name := by
        intro name
        by_cases hself : name = a.1
        · rw [hself, lookup_eq_none_of_lt hfirst, hname, lookup_eq_none_of_lt hfirst']
        · simpa [lookup_cons_eq, hself, ← hname] using hlookup name
      rw [Prod.ext hname hvalue, ih hrest hrest' htails]

/-- Attributes are known by what is found among them. -/
theorem eq_of_get?_eq {others : Attributes} (h : ∀ name, attrs.get? name = others.get? name) :
    attrs = others :=
  Attributes.ext (eq_of_lookup_eq attrs.ascending others.ascending h)

theorem insert_eq_self (h : attrs.get? name = some value) : attrs.insert name value = attrs := by
  apply eq_of_get?_eq
  intro other
  rw [get?_insert]
  split
  · rename_i hother
    rw [hother, h]
  · rfl

/-- It does not matter which of two attributes is set first. -/
theorem insert_comm {value' : AttributeValue} (h : name ≠ other) :
    (attrs.insert name value).insert other value' =
      (attrs.insert other value').insert name value := by
  apply eq_of_get?_eq
  intro found
  simp only [get?_insert]
  grind

/-! ### Setting and removing -/

private theorem insertEntry_insertEntry {replaced : AttributeValue} :
    insertEntry name value (insertEntry name replaced entries) = insertEntry name value entries := by
  induction entries with
  | nil => simp [insertEntry]
  | cons entry rest ih =>
    simp only [insertEntry]
    split
    · simp [insertEntry]
    · split
      · simp [insertEntry]
      · rw [insertEntry, if_neg ‹_›, if_neg ‹_›, ih]

@[simp] theorem insert_insert {replaced : AttributeValue} :
    (attrs.insert name replaced).insert name value = attrs.insert name value :=
  Attributes.ext insertEntry_insertEntry

private theorem filter_insertEntry :
    (insertEntry name value entries).filter (·.1 ≠ name) = entries.filter (·.1 ≠ name) := by
  induction entries with
  | nil => simp [insertEntry]
  | cons entry rest ih =>
    simp only [insertEntry]
    split
    · simp
    · split
      · simp_all
      · rw [List.filter_cons, List.filter_cons, ih]

@[simp] theorem erase_insert : (attrs.insert name value).erase name = attrs.erase name :=
  Attributes.ext filter_insertEntry

/-! ### Classes -/

theorem classes_insert {tokens : List String} :
    (attrs.insert "class" (.list tokens)).classes = tokens := by
  rw [classes, get?_insert, if_pos rfl]
  rfl

theorem addClass_of_mem (h : token ∈ attrs.classes) :
    attrs.addClass token = attrs.insert "class" (.list attrs.classes) := by
  rw [addClass, if_pos (List.contains_iff_mem.mpr h)]

theorem addClass_of_notMem (h : token ∉ attrs.classes) :
    attrs.addClass token = attrs.insert "class" (.list (attrs.classes ++ [token])) := by
  rw [addClass, if_neg (mt List.contains_iff_mem.mp h)]

/-- A class that is added stands behind the others, unless it is there already. -/
theorem classes_addClass :
    (attrs.addClass token).classes =
      if token ∈ attrs.classes then attrs.classes else attrs.classes ++ [token] := by
  split
  · rw [addClass_of_mem ‹_›, classes_insert]
  · rw [addClass_of_notMem ‹_›, classes_insert]

/-- Adding a class a second time makes no difference. -/
theorem addClass_addClass : (attrs.addClass token).addClass token = attrs.addClass token := by
  by_cases h : token ∈ attrs.classes
  · rw [addClass_of_mem h, addClass_of_mem (by rwa [classes_insert]), classes_insert, insert_insert]
  · rw [addClass_of_notMem h, addClass_of_mem (by simp [classes_insert]), classes_insert,
      insert_insert]

/-- Adding a class changes nothing if and only if the class attribute is a list that has it. -/
theorem addClass_eq_self_iff :
    attrs.addClass token = attrs ↔
      ∃ tokens, attrs.get? "class" = some (.list tokens) ∧ token ∈ tokens := by
  constructor
  · intro h
    have hclass : (attrs.addClass token).get? "class" =
        some (.list (attrs.addClass token).classes) := by
      rw [addClass, get?_insert, if_pos rfl, classes_insert]
    have htoken : token ∈ (attrs.addClass token).classes := by
      rw [classes_addClass]
      split <;> simp [*]
    rw [h] at hclass htoken
    exact ⟨_, hclass, htoken⟩
  · rintro ⟨tokens, hclass, htoken⟩
    have htokens : attrs.classes = tokens := by simp [classes, hclass, AttributeValue.classTokens]
    rw [addClass_of_mem (htokens ▸ htoken), htokens]
    exact insert_eq_self hclass

theorem classes_insert_of_ne (h : name ≠ "class") :
    (attrs.insert name value).classes = attrs.classes := by
  rw [classes, get?_insert, if_neg h.symm]
  rfl

/-- Adding a class and setting another attribute do not depend on their order. -/
theorem addClass_insert_comm (h : name ≠ "class") :
    (attrs.insert name value).addClass token = (attrs.addClass token).insert name value := by
  rw [addClass, classes_insert_of_ne h, insert_comm h]
  rfl

/-- Adding a class changes no other attribute than that of classes. -/
theorem erase_addClass : (attrs.addClass token).erase "class" = attrs.erase "class" :=
  erase_insert

end Attributes

namespace Element

variable {e : Element} {name value : String}

theorem attrText?_eq_some_iff :
    e.attrText? name = some value ↔ e.attr? name = some (.text value) := by
  rw [attrText?, Option.bind_eq_some_iff]
  constructor
  · rintro ⟨v, hv, htext⟩
    cases v with
    | text _ => rw [hv, Option.some.inj htext]
    | list _ => cases htext
    | expression _ => cases htext
  · intro h
    exact ⟨.text value, h, rfl⟩

/-- A plain text is shown as it is. -/
theorem attrString?_of_attrText? (h : e.attrText? name = some value) :
    e.attrString? name = some value := by
  rw [attrString?, attrText?_eq_some_iff.mp h]
  rfl

end Element

end Manuscript
