import Manuscript.Proofs.Script.References
import Manuscript.Proofs.Text.Blank
import Manuscript.Proofs.Text.LetterCase
import Manuscript.Proofs.Text.Literal
import Manuscript.Proofs.Text.Separators
import Manuscript.Proofs.Text.Split
import Manuscript.Style.Declarations

/-!
# Style declarations as an object literal

The value of a declaration is written as a string literal, whatever it is. Its name becomes a key
without a look at what it is made of: a custom property is quoted, and every other name is only put
into camel case. So the declarations make an object literal exactly if each of these names comes out
as an identifier or happens to be a string literal already.

Nothing that follows can mend a bad key. A key has no colon in it, so a reader that is past it at
the colon has read just the key; and a quote that a key leaves open is closed by the quote that
opens the value, behind which the value never goes on like an entry.

## Main definitions

* `IsKey`, `ObjectEntry`, `ObjectEntries`, `ObjectLiteral` — the object literals
* `IsDeclaration` — what names and values are like

## Main results

* `IsDeclaration.eq_of_isKey` — a key that is read before a value is the one that was written
* `objectLiteral_of_isKey`, `isKey_of_objectLiteral` — good keys are enough, and they are needed
* `objectLiteral_toObject_iff` — which declarations make an object literal
-/

namespace Manuscript.Style

open Manuscript.Script (isIdentifierChars isIdentifierStart isIdentifierPart)
open Manuscript.Text (IsLiteral behindQuote? isBlank quoteChar quoteChars trim)

/-! ### Object literals -/

/-- Whether characters are a key: an identifier or a string literal. -/
def IsKey (cs : List Char) : Prop := isIdentifierChars cs = true ∨ IsLiteral cs

/-- An entry of an object literal: a key, a colon with a space and a string literal. -/
inductive ObjectEntry : List Char → Prop
  /-- A key with its value. -/
  | mk {key value : List Char} : IsKey key → IsLiteral value →
      ObjectEntry (key ++ ':' :: ' ' :: value)

/-- Entries, with a comma and a space between neighbours. -/
inductive ObjectEntries : List Char → Prop
  /-- One entry. -/
  | last {entry : List Char} : ObjectEntry entry → ObjectEntries entry
  /-- An entry before others. -/
  | more {entry others : List Char} : ObjectEntry entry → ObjectEntries others →
      ObjectEntries (entry ++ ',' :: ' ' :: others)

/-- An object literal: entries between braces, or nothing between them. -/
inductive ObjectLiteral : List Char → Prop
  /-- No entries. -/
  | empty : ObjectLiteral ['\x7b', '\x7d']
  /-- With entries. -/
  | entries {cs : List Char} : ObjectEntries cs → ObjectLiteral ('\x7b' :: (cs ++ ['\x7d']))

/-! ### Keys of names -/

/-- What the name and the value of a declaration are like. -/
structure IsDeclaration (declaration : List Char × List Char) : Prop where
  /-- The name ends before the first colon. -/
  colon_notMem : ':' ∉ declaration.1
  /-- There is a value. -/
  value_ne_nil : declaration.2 ≠ []
  /-- The value has no blank at its end. -/
  getLast?_value : ∀ c, declaration.2.getLast? = some c → isBlank c = false

variable {name value key r s cs : List Char} {declaration : List Char × List Char}
  {declarations : List (List Char × List Char)}

/-- A declaration that is kept has a name and a value, which stand around the first colon. -/
theorem exists_of_parseDeclaration (h : parseDeclaration cs = some declaration) :
    ∃ before after, cs = before ++ ':' :: after ∧ ':' ∉ before ∧
      declaration = (trim before, trim after) ∧ trim before ≠ [] ∧ trim after ≠ [] := by
  unfold parseDeclaration at h
  obtain ⟨⟨before, after⟩, hsplit, h⟩ := Option.bind_eq_some_iff.mp h
  dsimp only at h
  split at h
  · cases h
  · rename_i hparts
    obtain rfl := Option.some.inj h
    obtain ⟨heq, hcolon⟩ := Text.eq_append_of_splitFirst hsplit
    obtain ⟨hname, hvalue⟩ := not_or.mp (mt Bool.or_eq_true_iff.mpr hparts)
    exact ⟨before, after, heq, hcolon, rfl, mt List.isEmpty_iff.mpr hname,
      mt List.isEmpty_iff.mpr hvalue⟩

theorem isDeclaration_of_mem_parse (h : declaration ∈ Declarations.parse cs) :
    IsDeclaration declaration := by
  obtain ⟨piece, -, hpiece⟩ := List.mem_filterMap.mp h
  obtain ⟨before, after, -, hcolon, rfl, -, hvalue⟩ := exists_of_parseDeclaration hpiece
  exact ⟨mt Text.mem_of_mem_trim hcolon, hvalue, fun c hc => Text.isBlank_of_getLast?_trim hc⟩

/-- Names and values are made of the characters of the attribute. -/
theorem mem_of_mem_parse {c : Char} (h : declaration ∈ Declarations.parse cs)
    (hc : c ∈ declaration.1 ∨ c ∈ declaration.2) : c ∈ cs := by
  obtain ⟨piece, hpiece, hread⟩ := List.mem_filterMap.mp h
  obtain ⟨before, after, rfl, -, rfl, -, -⟩ := exists_of_parseDeclaration hread
  refine (Text.mem_and_ne_of_mem_splitOn hpiece ?_).1
  rcases hc with hc | hc
  · exact List.mem_append_left _ (Text.mem_of_mem_trim hc)
  · exact List.mem_append_right before (List.mem_cons_of_mem _ (Text.mem_of_mem_trim hc))

theorem filter_camelCaseFrom {p : Char → Bool}
    (hp : ∀ c, p c = true → Text.Unicode.isSign c.toNat = true) (hhyphen : p '-' = false)
    (started raised : Bool) (cs : List Char) :
    (camelCaseFrom started raised cs).filter p = cs.filter p := by
  induction cs generalizing started raised with
  | nil => rfl
  | cons c rest ih =>
    rw [camelCaseFrom]
    split
    · rename_i hc
      subst hc
      rw [ih, List.filter_cons_of_neg (by simp [hhyphen])]
    · have hfirst : (if raised then Text.Unicode.upperChar c else [c]).filter p = [c].filter p := by
        split
        · exact Text.Unicode.filter_upperChar hp c
        · rfl
      rw [List.filter_append, hfirst, ih, ← List.filter_append, List.singleton_append]

/-- Camel case keeps the signs of a name other than hyphens, and puts no others into it. -/
theorem filter_camelCaseChars {p : Char → Bool}
    (hp : ∀ c, p c = true → Text.Unicode.isSign c.toNat = true) (hhyphen : p '-' = false)
    (name : List Char) : (camelCaseChars name).filter p = name.filter p := by
  unfold camelCaseChars
  split
  · rw [filter_camelCaseFrom hp hhyphen, List.filter_cons_of_neg (by simp [hhyphen])]
  · exact filter_camelCaseFrom hp hhyphen false false name

theorem mem_camelCaseChars_iff {sign : Char} (hsign : Text.Unicode.isSign sign.toNat = true)
    (hhyphen : sign ≠ '-') : sign ∈ camelCaseChars name ↔ sign ∈ name := by
  have hfilter := filter_camelCaseChars (p := (· == sign))
    (fun c hc => by rwa [beq_iff_eq.mp hc]) (beq_eq_false_iff_ne.mpr hhyphen.symm) name
  have hmem (cs : List Char) : sign ∈ cs ↔ sign ∈ cs.filter (· == sign) := by simp
  rw [hmem, hfilter, ← hmem]

/-- Camel case puts no colon into a name. -/
theorem colon_notMem_camelCaseChars (h : ':' ∉ name) : ':' ∉ camelCaseChars name :=
  mt (mem_camelCaseChars_iff (by decide) (by decide)).mp h

/-- A custom property keeps its name between quotes; any other name is put into camel case. -/
theorem key_cases (name : List Char) :
    (['-', '-'] <+: name ∧ Declarations.key name = quoteChars name) ∨
      (¬ ['-', '-'] <+: name ∧ Declarations.key name = camelCaseChars name) := by
  unfold Declarations.key
  split
  · exact .inl ⟨by simp, rfl⟩
  · rename_i hname
    refine .inr ⟨?_, rfl⟩
    rintro ⟨rest, rfl⟩
    exact hname rest rfl

/-! ### Reading keys -/

theorem quoteChar_append_ne_quote (c : Char) (r s : List Char) : quoteChar c ++ r ≠ '"' :: s := by
  intro h
  rcases Text.quoteChar_cases c with ⟨heq, hne, -, -⟩ | ⟨kind, digits, heq, -, -⟩
  · rw [heq] at h
    exact hne (List.cons.inj h).1
  · rw [heq] at h
    exact absurd (List.cons.inj h).1 (by decide)

/-- A character that is written as one that needs no escape is that character. -/
theorem eq_of_quoteChar_append_eq {c d : Char} (hd : d ≠ '\\') (h : quoteChar c ++ r = d :: s) :
    c = d ∧ r = s := by
  rcases Text.quoteChar_cases c with ⟨heq, -, -, -⟩ | ⟨kind, digits, heq, -, -⟩
  · rw [heq] at h
    exact List.cons.inj h
  · rw [heq] at h
    exact absurd (List.cons.inj h).1.symm hd

/-- Behind its opening quote a value does not go on like an entry, with a colon, a space and another
quote: quotes within a value are escaped, and no value ends with a space. -/
theorem IsDeclaration.value_append_ne (h : IsDeclaration declaration) (r s : List Char) :
    declaration.2.flatMap quoteChar ++ '"' :: r ≠ ':' :: ' ' :: '"' :: s := by
  intro heq
  obtain ⟨name, value⟩ := declaration
  match value, h with
  | [], h => exact h.value_ne_nil rfl
  | [c], _ =>
    rw [List.flatMap_singleton] at heq
    obtain ⟨-, hspace⟩ := eq_of_quoteChar_append_eq (by decide) heq
    exact absurd (List.cons.inj hspace).1 (by decide)
  | [c, d], h =>
    rw [List.flatMap_cons, List.flatMap_singleton, List.append_assoc] at heq
    obtain ⟨-, hspace⟩ := eq_of_quoteChar_append_eq (by decide) heq
    obtain ⟨rfl, -⟩ := eq_of_quoteChar_append_eq (by decide) hspace
    exact absurd (h.getLast?_value ' ' rfl) (by decide)
  | c :: d :: e :: rest, _ =>
    rw [List.flatMap_cons, List.flatMap_cons, List.flatMap_cons, List.append_assoc,
      List.append_assoc, List.append_assoc] at heq
    obtain ⟨-, hspace⟩ := eq_of_quoteChar_append_eq (by decide) heq
    obtain ⟨-, hquote⟩ := eq_of_quoteChar_append_eq (by decide) hspace
    exact quoteChar_append_ne_quote _ _ _ hquote

/-- If a literal is read where a name without a colon was written, the literal is the name. -/
theorem IsDeclaration.eq_of_isLiteral (h : IsDeclaration declaration) (hname : ':' ∉ name)
    (hkey : IsLiteral key)
    (heq : name ++ ':' :: ' ' :: '"' :: (declaration.2.flatMap quoteChar ++ '"' :: r) =
      key ++ ':' :: ' ' :: '"' :: s) : name = key := by
  obtain ⟨body, hbody, rfl⟩ := hkey
  cases name with
  | nil => exact absurd (List.cons.inj heq).1 (by decide)
  | cons c cs =>
    obtain ⟨rfl, hrest⟩ := List.cons.inj heq
    have hread : cs ++ ':' :: ' ' :: '"' :: (declaration.2.flatMap quoteChar ++ '"' :: r) =
        body ++ '"' :: ':' :: ' ' :: '"' :: s := by
      simpa using hrest
    have hbehind := hbody.behindQuote?_append (':' :: ' ' :: '"' :: s)
    rw [← hread] at hbehind
    -- the quote is closed within the name, or by the quote of the value
    cases hclosed : behindQuote? cs with
    | none =>
      -- a quote that the key leaves open is closed by the quote that opens the value
      rw [Text.behindQuote?_append_of_none (by decide) (by decide) hclosed] at hbehind
      exact absurd (Option.some.inj hbehind) (h.value_append_ne _ _)
    | some left =>
      rw [Text.behindQuote?_append_of_some hclosed] at hbehind
      obtain ⟨before, rfl⟩ := Text.exists_eq_append_of_behindQuote? hclosed
      have hleft := Option.some.inj hbehind
      cases left with
      | nil =>
        rw [List.nil_append] at hleft
        rw [hleft] at hrest
        exact congrArg ('"' :: ·) (List.append_cancel_right hrest)
      | cons d left =>
        -- the name would go on with the colon
        obtain ⟨rfl, -⟩ := List.cons.inj hleft
        exact absurd (by simp) hname

theorem notMem_of_isIdentifierChars {c : Char} (h : isIdentifierChars cs = true)
    (hc : isIdentifierPart c = false) : c ∉ cs := by
  intro hmem
  rw [Script.isIdentifierPart_of_mem h hmem] at hc
  cases hc

/-- A key that is read before a value is the key that was written there. -/
theorem IsDeclaration.eq_of_isKey (h : IsDeclaration declaration) (hkey : IsKey key)
    (heq : Declarations.key declaration.1 ++ ':' :: ' ' :: (quoteChars declaration.2 ++ r) =
      key ++ ':' :: ' ' :: '"' :: s) : Declarations.key declaration.1 = key := by
  rcases key_cases declaration.1 with ⟨-, hquoted⟩ | ⟨-, hcamel⟩
  · rw [hquoted] at heq ⊢
    rcases hkey with hidentifier | hliteral
    · cases key with
      | nil => cases hidentifier
      | cons c rest =>
        have hquote := notMem_of_isIdentifierChars (c := '"') hidentifier (by decide)
        exact absurd ((List.cons.inj heq).1 ▸ List.mem_cons_self) hquote
    · exact ((Text.isLiteral_quoteChars declaration.1).append_inj hliteral heq).1
  · rw [hcamel] at heq ⊢
    have hname := colon_notMem_camelCaseChars h.colon_notMem
    rcases hkey with hidentifier | hliteral
    · have hcolon := notMem_of_isIdentifierChars (c := ':') hidentifier (by decide)
      exact (Text.append_cons_inj_first hname hcolon heq).1
    · refine h.eq_of_isLiteral hname hliteral (r := r) (s := s) ?_
      simpa [quoteChars] using heq

/-! ### Declarations as object literals -/

/-- An entry that is read where a declaration was written has its key, and both end at the same
place. -/
theorem IsDeclaration.isKey_of_entry_append (h : IsDeclaration declaration) {entry : List Char}
    (hentry : ObjectEntry entry) (heq : Declarations.entry declaration ++ r = entry ++ s) :
    IsKey (Declarations.key declaration.1) ∧ r = s := by
  obtain @⟨key, value, hkey, hvalue⟩ := hentry
  have hread : Declarations.key declaration.1 ++ ':' :: ' ' :: (quoteChars declaration.2 ++ r) =
      key ++ ':' :: ' ' :: (value ++ s) := by
    simpa [Declarations.entry] using heq
  obtain ⟨body, hbody, rfl⟩ := hvalue
  have hsame := h.eq_of_isKey hkey hread
  rw [hsame] at hread ⊢
  have hvalues : quoteChars declaration.2 ++ r = '"' :: (body ++ ['"']) ++ s :=
    (List.cons.inj (List.cons.inj (List.append_cancel_left hread)).2).2
  exact ⟨hkey, ((Text.isLiteral_quoteChars _).append_inj ⟨body, hbody, rfl⟩ hvalues).2⟩

theorem joinEntries_cons_cons (first second : List Char) (rest : List (List Char)) :
    Declarations.joinEntries (first :: second :: rest) =
      first ++ ',' :: ' ' :: Declarations.joinEntries (second :: rest) := rfl

/-- If what is written for declarations reads as entries, all keys are good. -/
theorem isKey_of_objectEntries (hdeclarations : ∀ d ∈ declarations, IsDeclaration d)
    (h : ObjectEntries (Declarations.joinEntries (declarations.map Declarations.entry))) :
    ∀ d ∈ declarations, IsKey (Declarations.key d.1) := by
  generalize hcs : Declarations.joinEntries (declarations.map Declarations.entry) = cs at h
  induction h generalizing declarations with
  | @last entry hentry =>
    match declarations with
    | [] => simp
    | [d] =>
      have hread : Declarations.entry d ++ [] = entry ++ [] := congrArg (· ++ []) hcs
      have hkey := ((hdeclarations d List.mem_cons_self).isKey_of_entry_append hentry hread).1
      simpa using hkey
    | first :: second :: rest =>
      rw [List.map_cons, List.map_cons, joinEntries_cons_cons] at hcs
      have hread := (hdeclarations first List.mem_cons_self).isKey_of_entry_append
        (s := []) hentry (by rw [hcs, List.append_nil])
      exact absurd hread.2 (List.cons_ne_nil _ _)
  | @more entry others hentry hothers ih =>
    match declarations with
    | [] => simp
    | [d] =>
      have hread : Declarations.entry d ++ [] = entry ++ ',' :: ' ' :: others :=
        (List.append_nil _).trans hcs
      have hend := ((hdeclarations d List.mem_cons_self).isKey_of_entry_append hentry hread).2
      exact absurd hend.symm (List.cons_ne_nil _ _)
    | first :: second :: rest =>
      rw [List.map_cons, List.map_cons, joinEntries_cons_cons] at hcs
      obtain ⟨hdeclaration, hrest⟩ := List.forall_mem_cons.mp hdeclarations
      obtain ⟨hkey, hbehind⟩ := hdeclaration.isKey_of_entry_append hentry hcs
      have hjoined := (List.cons.inj (List.cons.inj hbehind).2).2
      exact List.forall_mem_cons.mpr ⟨hkey, ih hrest hjoined⟩

/-- Declarations with good keys are written as entries. -/
theorem objectEntries_of_isKey (hne : declarations ≠ [])
    (h : ∀ d ∈ declarations, IsKey (Declarations.key d.1)) :
    ObjectEntries (Declarations.joinEntries (declarations.map Declarations.entry)) := by
  have hentry (d : List Char × List Char) (hd : d ∈ declarations) :
      ObjectEntry (Declarations.entry d) :=
    .mk (h d hd) (Text.isLiteral_quoteChars d.2)
  induction declarations with
  | nil => exact absurd rfl hne
  | cons d rest ih =>
    have hfirst := hentry d List.mem_cons_self
    cases rest with
    | nil => exact .last hfirst
    | cons second rest =>
      have hrest := ih (List.cons_ne_nil _ _) (fun e he => h e (List.mem_cons_of_mem _ he))
        (fun e he => hentry e (List.mem_cons_of_mem _ he))
      exact .more hfirst hrest

/-- The keys of declarations that make an object literal are good. -/
theorem isKey_of_objectLiteral (h : ObjectLiteral (Declarations.toObjectChars cs)) :
    ∀ d ∈ Declarations.parse cs, IsKey (Declarations.key d.1) := by
  have hdeclarations (d : List Char × List Char) (hd : d ∈ Declarations.parse cs) :
      IsDeclaration d := isDeclaration_of_mem_parse hd
  generalize hchars : Declarations.toObjectChars cs = chars at h
  cases h with
  | empty =>
    -- an entry has a colon in it
    cases hparse : Declarations.parse cs with
    | nil => simp
    | cons d rest =>
      have hcolon : ':' ∈ Declarations.toObjectChars cs := by
        rw [Declarations.toObjectChars, hparse]
        cases rest <;> simp [Declarations.joinEntries, Declarations.entry]
      rw [hchars] at hcolon
      exact absurd hcolon (by decide)
  | entries hentries =>
    have hjoined := List.append_cancel_right (List.cons.inj hchars).2
    rw [← hjoined] at hentries
    exact isKey_of_objectEntries hdeclarations hentries

/-- Declarations whose keys are good make an object literal. -/
theorem objectLiteral_of_isKey (h : ∀ d ∈ Declarations.parse cs, IsKey (Declarations.key d.1)) :
    ObjectLiteral (Declarations.toObjectChars cs) := by
  unfold Declarations.toObjectChars
  cases hparse : Declarations.parse cs with
  | nil => exact .empty
  | cons d rest =>
    rw [hparse] at h
    exact .entries (objectEntries_of_isKey (List.cons_ne_nil _ _) h)

/-- A key is good if it is that of a custom property, or if the camel case of the name is an
identifier or a string literal. -/
theorem isKey_key_iff (name : List Char) :
    IsKey (Declarations.key name) ↔
      ['-', '-'] <+: name ∨ isIdentifierChars (camelCaseChars name) = true ∨
        IsLiteral (camelCaseChars name) := by
  rcases key_cases name with ⟨hcustom, hkey⟩ | ⟨hcustom, hkey⟩
  · have hliteral : IsKey (Declarations.key name) := hkey ▸ .inr (Text.isLiteral_quoteChars name)
    exact iff_of_true hliteral (.inl hcustom)
  · rw [hkey, or_iff_right hcustom]
    rfl

/-- The declarations of a style attribute are written as an object literal if and only if every name
is that of a custom property, or becomes an identifier or a string literal in camel case. -/
theorem objectLiteral_toObject_iff (style : String) :
    ObjectLiteral (Declarations.toObject style).toList ↔
      ∀ d ∈ Declarations.parse style.toList,
        ['-', '-'] <+: d.1 ∨ isIdentifierChars (camelCaseChars d.1) = true ∨
          IsLiteral (camelCaseChars d.1) := by
  rw [Declarations.toObject, String.toList_ofList]
  simp only [← isKey_key_iff]
  exact ⟨isKey_of_objectLiteral, objectLiteral_of_isKey⟩

/-- A name with a star before it, which some readers of styles pass over, makes no object
literal. -/
theorem not_objectLiteral_starredName :
    ¬ ObjectLiteral (Declarations.toObject "*zoom: 1").toList := by
  intro h
  rw [Declarations.toObject, String.toList_ofList] at h
  have hparse : Declarations.parse "*zoom: 1".toList = [("*zoom".toList, "1".toList)] := by
    decide +kernel
  have hmem : ("*zoom".toList, "1".toList) ∈ Declarations.parse "*zoom: 1".toList := by
    rw [hparse]
    exact List.mem_singleton.mpr rfl
  have hkey := isKey_of_objectLiteral h _ hmem
  rcases hkey with hidentifier | ⟨body, -, hbody⟩
  · exact absurd hidentifier (by decide +kernel)
  · exact absurd (List.cons.inj hbody).1 (by decide)

end Manuscript.Style
