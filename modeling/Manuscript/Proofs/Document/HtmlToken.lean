import Manuscript.Document.Html
import Manuscript.Proofs.Text.Escape

/-!
# The tokens of HTML

The HTML of a tree is made of characters, start tags and end tags. A character begins with no angle
bracket, a start tag goes on with a letter and an end tag with a slash. Names hold no character that
ends them, values hold no quote, and so each token is told from what is written behind it.

## Main definitions

* `isTagName`, `isAttributeName` — names that hold no markup
* `HtmlToken`, `HtmlToken.code` — the tokens and how they are written
* `HtmlToken.IsReadable` — tokens whose names hold no markup and whose values are texts

## Main results

* `entriesToHtml_append_inj` — the attributes of a start tag are read back
* `HtmlToken.code_append_inj` — a token is read back
* `HtmlToken.flatMap_code_inj` — a text is made of tokens in one way only
-/

namespace Manuscript

open Attributes (entryToHtml entriesToHtml)

/-! ### Names -/

/-- Whether a character may stand behind the first one of a tag. -/
def isTagNamePart (c : Char) : Bool := c.isAlphanum || c = '-'

/-- Whether a tag is an ASCII letter followed by ASCII letters, digits and hyphens. -/
def isTagName (tag : String) : Bool :=
  match tag.toList with
  | [] => false
  | c :: rest => c.isAlpha && rest.all isTagNamePart

/-- The characters that a name of an attribute is free of: white space, quotes, angle brackets, the
slash and the equals sign. -/
def attributeNameEnds : List Char :=
  [' ', '\t', '\n', '\r', '\x0c', '"', '\x27', '<', '>', '/', '=']

/-- Whether a name of an attribute is not empty and holds no markup. -/
def isAttributeName (name : String) : Bool :=
  !name.toList.isEmpty && name.toList.all fun c => !attributeNameEnds.contains c

/-- An attribute that is a text under a name without markup. -/
def IsReadableEntry (entry : String × AttributeValue) : Prop :=
  isAttributeName entry.1 = true ∧ ∃ value, entry.2 = .text value

variable {tag : String} {r s : List Char} {entry other : String × AttributeValue}
  {entries others : List (String × AttributeValue)}

theorem exists_toList_eq_of_isTagName (h : isTagName tag = true) :
    ∃ c rest, tag.toList = c :: rest ∧ c.isAlpha = true ∧ ∀ d ∈ rest, isTagNamePart d = true := by
  unfold isTagName at h
  split at h
  · cases h
  · rename_i c rest hchars
    obtain ⟨hfirst, hrest⟩ := Bool.and_eq_true_iff.mp h
    exact ⟨c, rest, hchars, hfirst, List.all_eq_true.mp hrest⟩

theorem isTagNamePart_of_mem (h : isTagName tag = true) :
    ∀ c ∈ tag.toList, isTagNamePart c = true := by
  obtain ⟨c, rest, hchars, hfirst, hrest⟩ := exists_toList_eq_of_isTagName h
  rw [hchars]
  refine List.forall_mem_cons.mpr ⟨?_, hrest⟩
  simp [isTagNamePart, Char.isAlphanum, hfirst]

/-- Where a tag ends, something stands that is no part of it. -/
theorem tag_append_inj {tag' : String} (h : isTagName tag = true) (h' : isTagName tag' = true)
    (hr : ∀ c ∈ r.head?, isTagNamePart c = false) (hs : ∀ c ∈ s.head?, isTagNamePart c = false)
    (heq : tag.toList ++ r = tag'.toList ++ s) : tag = tag' ∧ r = s := by
  obtain ⟨hchars, hrest⟩ := Text.append_inj_of_forall (isTagNamePart_of_mem h)
    (isTagNamePart_of_mem h') hr hs heq
  exact ⟨String.toList_inj.mp hchars, hrest⟩

theorem notMem_of_isAttributeName {name : String} (h : isAttributeName name = true) {c : Char}
    (hc : c ∈ attributeNameEnds) : c ∉ name.toList := by
  intro hmem
  have hall := (Bool.and_eq_true_iff.mp h).2
  have hfree := List.all_eq_true.mp hall c hmem
  simp [hc] at hfree

/-! ### Attributes -/

theorem toList_entryToHtml (h : IsReadableEntry entry) (r : List Char) :
    ∃ value, entry.2 = .text value ∧
      (entryToHtml entry.1 entry.2).toList ++ r =
        ' ' :: (entry.1.toList ++
          '=' :: '"' :: ((Text.escapeAttribute value).toList ++ '"' :: r)) := by
  obtain ⟨value, hvalue⟩ := h.2
  refine ⟨value, hvalue, ?_⟩
  rw [hvalue]
  simp [entryToHtml, AttributeValue.toMarkup]

/-- An attribute is told from what is written behind it. -/
theorem entryToHtml_append_inj (h : IsReadableEntry entry) (h' : IsReadableEntry other)
    (heq : (entryToHtml entry.1 entry.2).toList ++ r = (entryToHtml other.1 other.2).toList ++ s) :
    entry = other ∧ r = s := by
  obtain ⟨value, hvalue, hchars⟩ := toList_entryToHtml h r
  obtain ⟨value', hvalue', hchars'⟩ := toList_entryToHtml h' s
  rw [hchars, hchars'] at heq
  -- the name is read up to the equals sign, and the value up to its quote
  obtain ⟨hname, hbehind⟩ := Text.append_cons_inj_first
    (notMem_of_isAttributeName h.1 (by decide)) (notMem_of_isAttributeName h'.1 (by decide))
    (List.cons.inj heq).2
  obtain ⟨hescaped, hrest⟩ := Text.append_cons_inj_first (Text.quote_notMem_escapeAttribute value)
    (Text.quote_notMem_escapeAttribute value') (List.cons.inj hbehind).2
  have hsame := Text.escapeAttribute_injective (String.toList_inj.mp hescaped)
  refine ⟨Prod.ext (String.toList_inj.mp hname) ?_, hrest⟩
  rw [hvalue, hvalue', hsame]

/-- An attribute begins with a space. -/
theorem entryToHtml_append_ne (h : IsReadableEntry entry) (r s : List Char) :
    (entryToHtml entry.1 entry.2).toList ++ r ≠ '>' :: s := by
  obtain ⟨value, -, hchars⟩ := toList_entryToHtml h r
  rw [hchars]
  exact fun heq => absurd (List.cons.inj heq).1 (by decide)

theorem toList_entriesToHtml_cons (entry : String × AttributeValue)
    (entries : List (String × AttributeValue)) (r : List Char) :
    (entriesToHtml (entry :: entries)).toList ++ r =
      (entryToHtml entry.1 entry.2).toList ++ ((entriesToHtml entries).toList ++ r) := by
  rw [entriesToHtml, String.toList_append, List.append_assoc]

/-- The attributes of a start tag are known from how they are written before its bracket. -/
theorem entriesToHtml_append_inj (h : ∀ e ∈ entries, IsReadableEntry e)
    (h' : ∀ e ∈ others, IsReadableEntry e)
    (heq : (entriesToHtml entries).toList ++ '>' :: r = (entriesToHtml others).toList ++ '>' :: s) :
    entries = others ∧ r = s := by
  induction entries generalizing others with
  | nil =>
    cases others with
    | nil => exact ⟨rfl, (List.cons.inj heq).2⟩
    | cons other others =>
      rw [toList_entriesToHtml_cons] at heq
      exact absurd heq.symm (entryToHtml_append_ne (h' other List.mem_cons_self) _ _)
  | cons entry entries ih =>
    obtain ⟨hentry, hentries⟩ := List.forall_mem_cons.mp h
    rw [toList_entriesToHtml_cons] at heq
    cases others with
    | nil => exact absurd heq (entryToHtml_append_ne hentry _ _)
    | cons other others =>
      obtain ⟨hother, hothers⟩ := List.forall_mem_cons.mp h'
      rw [toList_entriesToHtml_cons] at heq
      obtain ⟨rfl, hrest⟩ := entryToHtml_append_inj hentry hother heq
      obtain ⟨rfl, hbehind⟩ := ih hentries hothers hrest
      exact ⟨rfl, hbehind⟩

/-- Behind a tag the attributes and the bracket begin with no part of a tag. -/
theorem isTagNamePart_head?_entriesToHtml (h : ∀ e ∈ entries, IsReadableEntry e) (r : List Char) :
    ∀ c ∈ ((entriesToHtml entries).toList ++ '>' :: r).head?, isTagNamePart c = false := by
  cases entries with
  | nil => simp [entriesToHtml, isTagNamePart]
  | cons entry entries =>
    obtain ⟨value, -, hchars⟩ := toList_entryToHtml (h entry List.mem_cons_self)
      ((entriesToHtml entries).toList ++ '>' :: r)
    rw [toList_entriesToHtml_cons, hchars]
    simp [isTagNamePart]

/-! ### Tokens -/

/-- What the HTML of a tree is made of. -/
inductive HtmlToken where
  /-- A character of a text. -/
  | char (c : Char)
  /-- A start tag. -/
  | start (tag : String) (attributes : Attributes)
  /-- An end tag. -/
  | stop (tag : String)
  deriving DecidableEq

namespace HtmlToken

/-- How a token is written. -/
def code : HtmlToken → List Char
  | char c => Text.escapeTextChar c
  | start tag attributes =>
    '<' :: (tag.toList ++ ((entriesToHtml attributes.entries).toList ++ ['>']))
  | stop tag => '<' :: '/' :: (tag.toList ++ ['>'])

/-- Tokens whose names hold no markup and whose values are texts. -/
def IsReadable : HtmlToken → Prop
  | char _ => True
  | start tag attributes => isTagName tag = true ∧ ∀ e ∈ attributes.entries, IsReadableEntry e
  | stop tag => isTagName tag = true

variable {t u : HtmlToken}

theorem char_append_ne (c : Char) (r s : List Char) : (char c).code ++ r ≠ '<' :: s := by
  intro h
  cases hcode : Text.escapeTextChar c with
  | nil => exact Text.escapeTextChar_ne_nil c hcode
  | cons first rest =>
    rw [code, hcode] at h
    obtain ⟨rfl, -⟩ := List.cons.inj h
    exact Text.lt_notMem_escapeTextChar c (hcode ▸ List.mem_cons_self)

/-- A start tag goes on with a letter, where an end tag has its slash. -/
theorem start_append_ne_stop_append {tag' : String} {attributes : Attributes}
    (h : isTagName tag = true) (r s : List Char) :
    (start tag attributes).code ++ r ≠ (stop tag').code ++ s := by
  obtain ⟨c, rest, hchars, hletter, -⟩ := exists_toList_eq_of_isTagName h
  intro heq
  simp only [code, hchars, List.cons_append] at heq
  obtain ⟨-, hbehind⟩ := List.cons.inj heq
  obtain ⟨rfl, -⟩ := List.cons.inj hbehind
  exact absurd hletter (by decide)

/-- A token is told from what is written behind it. -/
theorem code_append_inj (ht : t.IsReadable) (hu : u.IsReadable) (h : t.code ++ r = u.code ++ s) :
    t = u ∧ r = s := by
  -- tokens of two kinds differ in one of their first two characters
  cases t with
  | char c =>
    cases u with
    | char d =>
      obtain ⟨rfl, hrest⟩ := Text.escapeTextChar_append_inj h
      exact ⟨rfl, hrest⟩
    | start tag attributes => exact absurd h (char_append_ne c _ _)
    | stop tag => exact absurd h (char_append_ne c _ _)
  | start tag attributes =>
    cases u with
    | char d => exact absurd h.symm (char_append_ne d _ _)
    | start tag' attributes' =>
      have hchars (tag : String) (attributes : Attributes) (r : List Char) :
          (start tag attributes).code ++ r =
            '<' :: (tag.toList ++ ((entriesToHtml attributes.entries).toList ++ '>' :: r)) := by
        simp [code]
      rw [hchars, hchars] at h
      -- first the tag is read, then the attributes up to the bracket
      obtain ⟨rfl, hbehind⟩ := tag_append_inj ht.1 hu.1
        (isTagNamePart_head?_entriesToHtml ht.2 r) (isTagNamePart_head?_entriesToHtml hu.2 s)
        (List.cons.inj h).2
      obtain ⟨hentries, hrest⟩ := entriesToHtml_append_inj ht.2 hu.2 hbehind
      exact ⟨congrArg (start tag) (Attributes.ext hentries), hrest⟩
    | stop tag' => exact absurd h (start_append_ne_stop_append ht.1 _ _)
  | stop tag =>
    cases u with
    | char d => exact absurd h.symm (char_append_ne d _ _)
    | start tag' attributes' => exact absurd h.symm (start_append_ne_stop_append hu.1 _ _)
    | stop tag' =>
      have hchars (tag : String) (r : List Char) :
          (stop tag).code ++ r = '<' :: '/' :: (tag.toList ++ '>' :: r) := by
        simp [code]
      rw [hchars, hchars] at h
      have hbracket (r : List Char) : ∀ c ∈ ('>' :: r).head?, isTagNamePart c = false := by
        simp [isTagNamePart]
      obtain ⟨rfl, hbehind⟩ := tag_append_inj ht hu (hbracket r) (hbracket s)
        (List.cons.inj (List.cons.inj h).2).2
      exact ⟨rfl, (List.cons.inj hbehind).2⟩

theorem code_ne_nil (t : HtmlToken) : t.code ≠ [] := by
  cases t with
  | char c => exact Text.escapeTextChar_ne_nil c
  | start tag attributes => exact List.cons_ne_nil _ _
  | stop tag => exact List.cons_ne_nil _ _

/-- A text is made of readable tokens in one way only. -/
theorem flatMap_code_inj {ts us : List HtmlToken} (hts : ∀ t ∈ ts, t.IsReadable)
    (hus : ∀ u ∈ us, u.IsReadable) (h : ts.flatMap code = us.flatMap code) : ts = us :=
  Text.flatMap_inj_of_append_inj (fun t _ => t.code_ne_nil) (fun u _ => u.code_ne_nil)
    (fun t ht u hu _ _ heq => code_append_inj (hts t ht) (hus u hu) heq) h

end HtmlToken

end Manuscript
