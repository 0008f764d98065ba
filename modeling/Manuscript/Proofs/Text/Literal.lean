import Manuscript.Proofs.Text.Quoted

/-!
# The grammar of string literals

A string literal stands between double quotes, and what may stand between them is the same for JSON
and for scripts. A backslash takes the character behind it along, so that a literal ends at the
first quote that no backslash takes along. Where it ends is seen without looking at what follows.

## Main definitions

* `LiteralBody`, `IsLiteral` — the string literals
* `behindQuote?` — what stands behind the first quote that is not escaped

## Main results

* `isLiteral_quoteChars` — texts are written as literals
* `behindQuote?_append_of_some`, `behindQuote?_append_of_none` — the first quote in a longer text
* `IsLiteral.append_inj` — a literal in front of a text is told from the text
-/

namespace Manuscript.Text

/-- The characters that a backslash may take along on their own. -/
def shortEscapes : List Char := ['"', '\\', '/', 'b', 'f', 'n', 'r', 't']

/-- What may stand between the quotes of a string literal. -/
inductive LiteralBody : List Char → Prop
  /-- Nothing. -/
  | nil : LiteralBody []
  /-- A character that stands for itself. -/
  | plain {c : Char} {rest : List Char} : c ≠ '"' → c ≠ '\\' → 0x20 ≤ c.toNat →
      LiteralBody rest → LiteralBody (c :: rest)
  /-- A backslash with one character. -/
  | escape {c : Char} {rest : List Char} : c ∈ shortEscapes →
      LiteralBody rest → LiteralBody ('\\' :: c :: rest)
  /-- A backslash and `u` with four hexadecimal digits. -/
  | code {digits rest : List Char} : digits.length = 4 → (∀ d ∈ digits, (hexValue? d).isSome) →
      LiteralBody rest → LiteralBody ('\\' :: 'u' :: (digits ++ rest))

/-- Whether characters are a string literal, its quotes included. -/
def IsLiteral (cs : List Char) : Prop := ∃ body, LiteralBody body ∧ cs = '"' :: (body ++ ['"'])

/-- What stands behind the first quote that no backslash takes along; `none` without one. -/
def behindQuote? : List Char → Option (List Char)
  | [] => none
  | '\\' :: _ :: rest => behindQuote? rest
  | c :: rest => if c = '"' then some rest else behindQuote? rest

variable {a b body digits r s : List Char}

/-! ### Texts as literals -/

theorem hexValue?_hexDigit_isSome {n : Nat} (h : n < 16) : (hexValue? (hexDigit n)).isSome := by
  rw [hexValue?_hexDigit n h]
  rfl

/-- However a character is written, it can stand at the beginning of what is between the quotes. -/
theorem LiteralBody.quoteChar_append (h : LiteralBody r) (c : Char) :
    LiteralBody (quoteChar c ++ r) := by
  have hshort (kind : Char) (hkind : kind ∈ shortEscapes) : LiteralBody ('\\' :: kind :: r) :=
    .escape hkind h
  unfold quoteChar
  split
  · exact hshort '"' (by decide)
  split
  · exact hshort '\\' (by decide)
  split
  · exact hshort 'n' (by decide)
  split
  · exact hshort 'r' (by decide)
  split
  · exact hshort 't' (by decide)
  split
  · exact hshort 'b' (by decide)
  split
  · exact hshort 'f' (by decide)
  split
  · rename_i hcontrol
    have hzero : (hexValue? '0').isSome := rfl
    have hhigh := hexValue?_hexDigit_isSome (n := c.toNat / 16) (by omega)
    have hlow := hexValue?_hexDigit_isSome (n := c.toNat % 16) (by omega)
    have hdigits : ∀ d ∈ ['0', '0', hexDigit (c.toNat / 16), hexDigit (c.toNat % 16)],
        (hexValue? d).isSome := by
      simp [hzero, hhigh, hlow]
    exact .code rfl hdigits h
  · rename_i hquote hbackslash _ _ _ _ _ hcontrol
    exact .plain hquote hbackslash (Nat.not_lt.mp hcontrol) h

/-- A text is written as a literal. -/
theorem isLiteral_quoteChars (cs : List Char) : IsLiteral (quoteChars cs) := by
  refine ⟨cs.flatMap quoteChar, ?_, rfl⟩
  induction cs with
  | nil => exact .nil
  | cons c rest ih => exact ih.quoteChar_append c

/-! ### The first quote that is not escaped -/

/-- What stands behind a character that takes none along. -/
theorem behindQuote?_cons_of_not_escape {c : Char}
    (h : ∀ d rest, c = '\\' → r = d :: rest → False) :
    behindQuote? (c :: r) = if c = '"' then some r else behindQuote? r := by
  rw [behindQuote?]
  exact h

theorem behindQuote?_cons {c : Char} (hquote : c ≠ '"') (hbackslash : c ≠ '\\') (r : List Char) :
    behindQuote? (c :: r) = behindQuote? r := by
  rw [behindQuote?_cons_of_not_escape fun _ _ h _ => hbackslash h, if_neg hquote]

theorem behindQuote?_quote (r : List Char) : behindQuote? ('"' :: r) = some r := by
  rw [behindQuote?_cons_of_not_escape fun _ _ h _ => absurd h (by decide), if_pos rfl]

/-- The digits of a code are neither quotes nor backslashes. -/
theorem behindQuote?_digits_append (h : ∀ d ∈ digits, (hexValue? d).isSome) (r : List Char) :
    behindQuote? (digits ++ r) = behindQuote? r := by
  induction digits with
  | nil => rfl
  | cons d rest ih =>
    obtain ⟨hd, hrest⟩ := List.forall_mem_cons.mp h
    have hquote : d ≠ '"' := by rintro rfl; exact absurd hd (by decide)
    have hbackslash : d ≠ '\\' := by rintro rfl; exact absurd hd (by decide)
    rw [List.cons_append, behindQuote?_cons hquote hbackslash, ih hrest]

/-- What stands behind a quote is what is left of the text. -/
theorem exists_eq_append_of_behindQuote? (h : behindQuote? a = some b) :
    ∃ before, a = before ++ '"' :: b := by
  induction a using behindQuote?.induct with
  | case1 => cases h
  | case2 c rest ih =>
    obtain ⟨before, hbefore⟩ := ih h
    exact ⟨'\\' :: c :: before, by rw [hbefore]; rfl⟩
  | case3 rest hescape =>
    rw [behindQuote?_quote] at h
    exact ⟨[], by rw [Option.some.inj h]; rfl⟩
  | case4 c rest hescape hquote ih =>
    rw [behindQuote?_cons_of_not_escape hescape, if_neg hquote] at h
    obtain ⟨before, hbefore⟩ := ih h
    exact ⟨c :: before, by rw [hbefore]; rfl⟩

/-- What follows a text does not matter to a quote in it. -/
theorem behindQuote?_append_of_some (h : behindQuote? a = some b) (r : List Char) :
    behindQuote? (a ++ r) = some (b ++ r) := by
  induction a using behindQuote?.induct with
  | case1 => cases h
  | case2 c rest ih => exact ih h
  | case3 rest hescape =>
    rw [behindQuote?_quote] at h
    rw [← Option.some.inj h]
    exact behindQuote?_quote _
  | case4 c rest hescape hquote ih =>
    rw [behindQuote?_cons_of_not_escape hescape, if_neg hquote] at h
    cases rest with
    -- behind a last character there is no quote, whether it is a backslash or not
    | nil => cases h
    | cons d rest =>
      rw [List.cons_append, behindQuote?_cons_of_not_escape fun _ _ hc _ => hescape _ _ hc rfl,
        if_neg hquote]
      exact ih h

/-- A quote that a text leaves open is closed by the next quote, if two characters without a role
in literals stand before it. -/
theorem behindQuote?_append_of_none {c d : Char} (hc : c ≠ '"' ∧ c ≠ '\\')
    (hd : d ≠ '"' ∧ d ≠ '\\') (h : behindQuote? a = none) (r : List Char) :
    behindQuote? (a ++ c :: d :: '"' :: r) = some r := by
  have hbehind : behindQuote? (d :: '"' :: r) = some r := by
    rw [behindQuote?_cons hd.1 hd.2, behindQuote?_quote]
  induction a using behindQuote?.induct with
  | case1 => rw [List.nil_append, behindQuote?_cons hc.1 hc.2, hbehind]
  | case2 c rest ih => exact ih h
  | case3 rest hescape =>
    rw [behindQuote?_quote] at h
    cases h
  | case4 first rest hescape hquote ih =>
    rw [behindQuote?_cons_of_not_escape hescape, if_neg hquote] at h
    cases rest with
    | nil =>
      -- a backslash at the end takes the next character along, but not the quote
      by_cases hbackslash : first = '\\'
      · subst hbackslash
        exact hbehind
      · rw [List.cons_append, behindQuote?_cons hquote hbackslash]
        exact ih h
    | cons next rest =>
      rw [List.cons_append, behindQuote?_cons_of_not_escape fun _ _ hc _ => hescape _ _ hc rfl,
        if_neg hquote]
      exact ih h

/-- The quote that closes a literal is the first one that no backslash takes along. -/
theorem LiteralBody.behindQuote?_append (h : LiteralBody body) (r : List Char) :
    behindQuote? (body ++ '"' :: r) = some r := by
  induction h with
  | nil => exact behindQuote?_quote r
  | plain hquote hbackslash _ _ ih => rw [List.cons_append, behindQuote?_cons hquote hbackslash, ih]
  | escape _ _ ih => exact ih
  | code _ hdigits _ ih =>
    rw [List.cons_append, List.cons_append, List.append_assoc]
    exact (behindQuote?_digits_append hdigits _).trans ih

/-- A literal in front of a text is told from the text. -/
theorem IsLiteral.append_inj (ha : IsLiteral a) (hb : IsLiteral b) (h : a ++ r = b ++ s) :
    a = b ∧ r = s := by
  obtain ⟨body, hbody, rfl⟩ := ha
  obtain ⟨body', hbody', rfl⟩ := hb
  have hrest : body ++ '"' :: r = body' ++ '"' :: s := by simpa using h
  have hbehind := hbody.behindQuote?_append r
  rw [hrest, hbody'.behindQuote?_append s] at hbehind
  obtain rfl := Option.some.inj hbehind
  exact ⟨List.append_cancel_right h, rfl⟩

end Manuscript.Text
