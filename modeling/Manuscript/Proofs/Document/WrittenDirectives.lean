import Mathlib.Data.Set.List
import Manuscript.Document.Images
import Manuscript.Proofs.Text.Blank
import Manuscript.Proofs.Text.Split

/-!
# Writing directives

A directive is written as segments with semicolons between them. A segment is an entry, which may
have blanks around its key and around its value, or it is malformed and gives nothing: it has no
equals sign, or a blank key or value beside the first one. Reading a written directive gives back the
entries of its segments in order, and every text is a directive that can be written.

## Main definitions

* `IsKey`, `IsValue` — the keys and the values that can be written
* `IsMalformed` — texts between semicolons that give nothing
* `Segment` — what stands between semicolons, with what it gives
* `written` — the directive with given segments, in order

## Main results

* `parseImageEntry_text` — reading a segment
* `exists_segment` — a text without semicolons is a segment
* `parseImageDirective_written` — reading undoes writing, and every text is written
-/

namespace Manuscript.ImageDirective

open Manuscript.Text (isBlank trim splitOn splitFirst)

variable {cs before after : List Char}

/-- Whether all characters of a text are blank. -/
def IsBlankText (cs : List Char) : Prop := ∀ c ∈ cs, isBlank c = true

/-- Texts that can be a key: they are not empty, have no blanks at their ends, and have neither a
semicolon nor an equals sign in them. -/
structure IsKey (key : List Char) : Prop where
  /-- There is a key. -/
  nonempty : key ≠ []
  /-- There are no blanks at its ends. -/
  trimmed : trim key = key
  /-- It does not end the segment. -/
  noSemicolon : ';' ∉ key
  /-- It does not end before its end. -/
  noEquals : '=' ∉ key

/-- Texts that can be a value, which may have equals signs in them. -/
structure IsValue (value : List Char) : Prop where
  /-- There is a value. -/
  nonempty : value ≠ []
  /-- There are no blanks at its ends. -/
  trimmed : trim value = value
  /-- It does not end the segment. -/
  noSemicolon : ';' ∉ value

/-- Texts without semicolons that give nothing. -/
inductive IsMalformed : List Char → Prop
  /-- There is no equals sign; the text may be blank. -/
  | noEquals {text : List Char} (hsemicolon : ';' ∉ text) (h : '=' ∉ text) : IsMalformed text
  /-- There is no key before the first equals sign. -/
  | noKey {blank rest : List Char} (hsemicolon : ';' ∉ rest) (hblank : IsBlankText blank) :
      IsMalformed (blank ++ '=' :: rest)
  /-- There is no value behind the first equals sign. -/
  | noValue {key blank : List Char} (hsemicolon : ';' ∉ key) (hkey : '=' ∉ key)
      (hblank : IsBlankText blank) : IsMalformed (key ++ '=' :: blank)

/-- What is written between two semicolons. -/
inductive Segment where
  /-- An entry, with blanks around its key and around its value. -/
  | entry (key value beforeKey afterKey beforeValue afterValue : List Char) (hkey : IsKey key)
      (hvalue : IsValue value) (hbeforeKey : IsBlankText beforeKey)
      (hafterKey : IsBlankText afterKey) (hbeforeValue : IsBlankText beforeValue)
      (hafterValue : IsBlankText afterValue)
  /-- A text that gives nothing. -/
  | malformed (text : List Char) (h : IsMalformed text)

namespace Segment

/-- How a segment is written. -/
def text : Segment → List Char
  | entry key value beforeKey afterKey beforeValue afterValue .. =>
    (beforeKey ++ key ++ afterKey) ++ '=' :: (beforeValue ++ value ++ afterValue)
  | malformed text _ => text

/-- The entry that a segment gives. -/
def entry? : Segment → Option (String × String)
  | entry key value .. => some (String.ofList key, String.ofList value)
  | malformed .. => none

end Segment

/-- The directive with given segments. -/
def written (segments : List Segment) : String :=
  String.ofList ([';'].intercalate (segments.map Segment.text))

/-! ### One segment -/

/-- A character that is not blank stands in a padded text only if it stands in the text. -/
theorem notMem_append_append {c : Char} (hbefore : IsBlankText before) (hafter : IsBlankText after)
    (hc : isBlank c = false) (hcs : c ∉ cs) : c ∉ before ++ cs ++ after := by
  simp [Text.notMem_of_blank hbefore hc, Text.notMem_of_blank hafter hc, hcs]

theorem parseImageEntry_append_cons (hkey : '=' ∉ before) :
    parseImageEntry (before ++ '=' :: after) =
      if (trim before).isEmpty || (trim after).isEmpty then none
      else some (String.ofList (trim before), String.ofList (trim after)) := by
  rw [parseImageEntry, Text.splitFirst_append_cons hkey]
  rfl

theorem IsMalformed.parseImageEntry_eq_none (h : IsMalformed cs) : parseImageEntry cs = none := by
  cases h with
  | noEquals _ hequals =>
    rw [parseImageEntry, Text.splitFirst_eq_none_iff.mpr hequals]
    rfl
  | noKey _ hblank =>
    rw [parseImageEntry_append_cons (Text.notMem_of_blank hblank (by decide)),
      Text.trim_eq_nil_iff.mpr hblank]
    rfl
  | noValue _ hkey hblank =>
    rw [parseImageEntry_append_cons hkey, Text.trim_eq_nil_iff.mpr hblank]
    simp

/-- Reading a segment gives what it gives. -/
theorem parseImageEntry_text (s : Segment) : parseImageEntry s.text = s.entry? := by
  cases s with
  | entry key value beforeKey afterKey beforeValue afterValue hkey hvalue hbeforeKey hafterKey
      hbeforeValue hafterValue =>
    have htrimKey : trim (beforeKey ++ key ++ afterKey) = key :=
      (Text.trim_append_append hbeforeKey hafterKey).trans hkey.trimmed
    have htrimValue : trim (beforeValue ++ value ++ afterValue) = value :=
      (Text.trim_append_append hbeforeValue hafterValue).trans hvalue.trimmed
    rw [Segment.text, parseImageEntry_append_cons
      (notMem_append_append hbeforeKey hafterKey (by decide) hkey.noEquals), htrimKey, htrimValue,
      if_neg (by simp [hkey.nonempty, hvalue.nonempty])]
    rfl
  | malformed text h => exact h.parseImageEntry_eq_none

theorem IsMalformed.noSemicolon (h : IsMalformed cs) : ';' ∉ cs := by
  cases h with
  | noEquals hsemicolon _ => exact hsemicolon
  | noKey hsemicolon hblank =>
    have hnotMem := Text.notMem_of_blank hblank (c := ';') (by decide)
    simp [hnotMem, hsemicolon]
  | noValue hsemicolon _ hblank =>
    have hnotMem := Text.notMem_of_blank hblank (c := ';') (by decide)
    simp [hnotMem, hsemicolon]

/-- No segment goes on behind a semicolon. -/
theorem semicolon_notMem_text (s : Segment) : ';' ∉ s.text := by
  cases s with
  | entry key value beforeKey afterKey beforeValue afterValue hkey hvalue hbeforeKey hafterKey
      hbeforeValue hafterValue =>
    have hbefore := notMem_append_append hbeforeKey hafterKey (by decide) hkey.noSemicolon
    have hafter := notMem_append_append hbeforeValue hafterValue (by decide) hvalue.noSemicolon
    rw [Segment.text, List.mem_append, List.mem_cons]
    rintro (h | h | h)
    · exact hbefore h
    · cases h
    · exact hafter h
  | malformed text h => exact h.noSemicolon

theorem isKey_trim (hequals : '=' ∉ cs) (hsemicolon : ';' ∉ cs) (h : trim cs ≠ []) :
    IsKey (trim cs) :=
  ⟨h, Text.trim_trim cs, mt Text.mem_of_mem_trim hsemicolon, mt Text.mem_of_mem_trim hequals⟩

theorem isValue_trim (hsemicolon : ';' ∉ cs) (h : trim cs ≠ []) : IsValue (trim cs) :=
  ⟨h, Text.trim_trim cs, mt Text.mem_of_mem_trim hsemicolon⟩

/-- Every text without semicolons is a segment. -/
theorem exists_segment (h : ';' ∉ cs) : ∃ s : Segment, s.text = cs := by
  cases hsplit : splitFirst '=' cs with
  | none => exact ⟨.malformed cs (.noEquals h (Text.splitFirst_eq_none_iff.mp hsplit)), rfl⟩
  | some parts =>
    obtain ⟨left, right⟩ := parts
    obtain ⟨rfl, hequals⟩ := Text.eq_append_of_splitFirst hsplit
    obtain ⟨hleft, hright⟩ : ';' ∉ left ∧ ';' ∉ right := by simpa using h
    by_cases hkey : trim left = []
    · exact ⟨.malformed _ (.noKey hright (Text.trim_eq_nil_iff.mp hkey)), rfl⟩
    by_cases hvalue : trim right = []
    · exact ⟨.malformed _ (.noValue hleft hequals (Text.trim_eq_nil_iff.mp hvalue)), rfl⟩
    -- what is trimmed away are the blanks around the key and the value
    obtain ⟨beforeKey, afterKey, hleftEq, hbeforeKey, hafterKey⟩ := Text.exists_eq_append_trim left
    obtain ⟨beforeValue, afterValue, hrightEq, hbeforeValue, hafterValue⟩ :=
      Text.exists_eq_append_trim right
    exact ⟨.entry (trim left) (trim right) beforeKey afterKey beforeValue afterValue
      (isKey_trim hequals hleft hkey) (isValue_trim hright hvalue) hbeforeKey hafterKey
      hbeforeValue hafterValue, congrArg₂ (· ++ '=' :: ·) hleftEq.symm hrightEq.symm⟩

/-! ### All segments -/

theorem splitOn_written {segments : List Segment} (h : segments ≠ []) :
    splitOn ';' (written segments).toList = segments.map Segment.text := by
  rw [written, String.toList_ofList, Text.splitOn_eq]
  refine List.splitOn_intercalate ';' (fun text htext => ?_) (by simpa using h)
  obtain ⟨s, -, rfl⟩ := List.mem_map.mp htext
  exact semicolon_notMem_text s

/-- Reading a directive undoes writing it: the entries of its segments come back, in order. Every text
is written with some segments, so that nothing else is read. -/
theorem parseImageDirective_written :
    (∀ segments : List Segment,
      parseImageDirective (written segments) = segments.filterMap Segment.entry?) ∧
    ∀ directive : String, ∃ segments : List Segment, written segments = directive := by
  constructor
  · intro segments
    by_cases h : segments = []
    · subst h
      rfl
    rw [parseImageDirective, splitOn_written h, List.filterMap_map]
    exact List.filterMap_congr fun s _ => parseImageEntry_text s
  · intro directive
    obtain ⟨segments, hsegments⟩ :
        splitOn ';' directive.toList ∈ Set.range (List.map Segment.text) := by
      rw [Set.range_list_map]
      exact fun piece hpiece => exists_segment (Text.notMem_of_mem_splitOn hpiece)
    refine ⟨segments, ?_⟩
    rw [written, hsegments, Text.splitOn_eq, List.intercalate_splitOn, String.ofList_toList]

example : parseImageDirective " width = 300 ;; wide; = 1; style = a=b " =
    [("width", "300"), ("style", "a=b")] := by decide +kernel

end Manuscript.ImageDirective
