import Mathlib.Data.List.Basic
import Manuscript.Data.Json

/-!
# Reading string literals

A string literal can be read back: every escape stands for the character that it was written for,
and the quote that ends the literal is the first one that is not escaped. So a text is all that its
literal can stand for, and where the literal ends is seen from its beginning.

## Main results

* `quoteChar_cases` — a character stands for itself or is written as an escape
* `readString_quoted` — reading a literal gives its text and what follows
* `quoteChars_append_inj` — a literal before a text determines both
-/

namespace Manuscript.Text

variable {c : Char} {cs ds r s : List Char}

/-! ### Digits of escapes -/

theorem hexValue?_hexDigit : ∀ n < 16, hexValue? (hexDigit n) = some n := by decide

theorem isAlphanum_hexDigit : ∀ n < 16, (hexDigit n).isAlphanum = true := by decide

/-! ### Single characters -/

/-- In a literal a character stands for itself, or it is written as an escape: a backslash, the quote
or the backslash itself or else a letter that says which control character it is, and letters and
digits. -/
theorem quoteChar_cases (c : Char) :
    (quoteChar c = [c] ∧ c ≠ '"' ∧ c ≠ '\\' ∧ 0x20 ≤ c.toNat) ∨
      ∃ kind digits, quoteChar c = '\\' :: kind :: digits ∧
        (kind = c ∧ (c = '"' ∨ c = '\\') ∨ kind.isAlphanum = true ∧ c.toNat < 0x20) ∧
        ∀ d ∈ digits, d.isAlphanum = true := by
  unfold quoteChar
  split
  · rename_i h
    exact .inr ⟨'"', [], rfl, .inl ⟨h.symm, .inl h⟩, by simp⟩
  split
  · rename_i h
    exact .inr ⟨'\\', [], rfl, .inl ⟨h.symm, .inr h⟩, by simp⟩
  split
  · rename_i h
    exact .inr ⟨'n', [], rfl, .inr ⟨by decide, h ▸ by decide⟩, by simp⟩
  split
  · rename_i h
    exact .inr ⟨'r', [], rfl, .inr ⟨by decide, h ▸ by decide⟩, by simp⟩
  split
  · rename_i h
    exact .inr ⟨'t', [], rfl, .inr ⟨by decide, h ▸ by decide⟩, by simp⟩
  split
  · rename_i h
    exact .inr ⟨'b', [], rfl, .inr ⟨by decide, h ▸ by decide⟩, by simp⟩
  split
  · rename_i h
    exact .inr ⟨'f', [], rfl, .inr ⟨by decide, h ▸ by decide⟩, by simp⟩
  split
  · rename_i hcontrol
    refine .inr ⟨'u', _, rfl, .inr ⟨by decide, hcontrol⟩, ?_⟩
    have hhigh := isAlphanum_hexDigit (c.toNat / 16) (by omega)
    have hlow := isAlphanum_hexDigit (c.toNat % 16) (by omega)
    simp [hhigh, hlow]
  · exact .inl ⟨rfl, by assumption, by assumption, Nat.le_of_not_lt (by assumption)⟩

/-- What stands in a literal for a character is that character, a backslash, a letter or a digit. -/
theorem mem_quoteChar_cases {d : Char} (h : d ∈ quoteChar c) :
    d = c ∨ d = '\\' ∨ d.isAlphanum = true := by
  rcases quoteChar_cases c with ⟨heq, -⟩ | ⟨kind, digits, heq, hkind, hdigits⟩
  · exact .inl (List.mem_singleton.mp (heq ▸ h))
  · rw [heq] at h
    rcases List.mem_cons.mp h with rfl | h
    · exact .inr (.inl rfl)
    rcases List.mem_cons.mp h with rfl | h
    · exact hkind.imp And.left fun hcontrol => .inr hcontrol.1
    · exact .inr (.inr (hdigits d h))

/-- A literal stays on its line. -/
theorem newline_notMem_quoteChars (cs : List Char) : '\n' ∉ quoteChars cs := by
  have hchar (c : Char) : '\n' ∉ quoteChar c := by
    intro h
    -- a line feed does not stand for itself
    rcases mem_quoteChar_cases h with rfl | hescape
    · exact absurd h (by decide)
    · exact absurd hescape (by decide)
  simp [quoteChars, hchar]

/-! ### Reading back -/

/-- Reading goes over an escape or a character that stands for itself in one step. -/
theorem readString_quoteChar (acc : List Char) (fuel : Nat) (c : Char) (r : List Char) :
    Json.readString acc (fuel + 1) (quoteChar c ++ r) = Json.readString (c :: acc) fuel r := by
  unfold quoteChar
  split
  · subst_vars; rfl
  split
  · subst_vars; rfl
  split
  · subst_vars; rfl
  split
  · subst_vars; rfl
  split
  · subst_vars; rfl
  have hofNat : Char.ofNat c.toNat = c := Char.ofNat_toNat c
  split
  · rename_i h
    rw [h] at hofNat
    subst hofNat
    rfl
  split
  · rename_i h
    rw [h] at hofNat
    subst hofNat
    rfl
  split
  · rename_i hcontrol
    have hhigh := hexValue?_hexDigit (c.toNat / 16) (by omega)
    have hlow := hexValue?_hexDigit (c.toNat % 16) (by omega)
    have hvalue : ofDigitValues 16 [0, 0, c.toNat / 16, c.toNat % 16] = c.toNat := by
      simp [ofDigitValues]
      omega
    have hread : Json.readHex4 ('0' :: '0' :: hexDigit (c.toNat / 16) :: hexDigit (c.toNat % 16) ::
        r) = some (c.toNat, r) := by
      have hzero : hexValue? '0' = some 0 := rfl
      simp [Json.readHex4, hzero, hhigh, hlow, hvalue]
    have hlower : ¬ (0xD800 ≤ c.toNat) := by omega
    have hupper : ¬ (0xDC00 ≤ c.toNat) := by omega
    simp [Json.readString, Json.readEscape, hread, hlower, hupper, hofNat]
  · rename_i hquote hbackslash _ _ _ _ _ hplain
    simp [Json.readString, hquote, hbackslash, hplain]

/-- Reading what stands behind the opening quote of a literal gives its text and what follows. -/
theorem readString_quoted (acc : List Char) {fuel : Nat} (hfuel : cs.length < fuel) :
    Json.readString acc fuel (cs.flatMap quoteChar ++ '"' :: r) =
      some (String.ofList (acc.reverse ++ cs), r) := by
  induction cs generalizing acc fuel with
  | nil =>
    obtain ⟨fuel, rfl⟩ := Nat.exists_eq_add_one_of_ne_zero (Nat.ne_zero_of_lt hfuel)
    simp [Json.readString]
  | cons c rest ih =>
    obtain ⟨fuel, rfl⟩ := Nat.exists_eq_add_one_of_ne_zero (Nat.ne_zero_of_lt hfuel)
    have hrest : rest.length < fuel := by simpa using hfuel
    rw [List.flatMap_cons, List.append_assoc, readString_quoteChar, ih _ hrest]
    simp

/-- A literal is at least as long as its text. -/
theorem length_le_length_flatMap_quoteChar (cs : List Char) :
    cs.length ≤ (cs.flatMap quoteChar).length := by
  induction cs with
  | nil => exact Nat.le_refl 0
  | cons c rest ih =>
    have hchar : 1 ≤ (quoteChar c).length := by
      rcases quoteChar_cases c with ⟨heq, -⟩ | ⟨kind, digits, heq, -⟩ <;> simp [heq]
    rw [List.flatMap_cons, List.length_append, List.length_cons]
    omega

/-- Reading with as much fuel as there are characters is enough. -/
theorem readString_quoted_length (cs r : List Char) :
    Json.readString [] ((cs.flatMap quoteChar ++ '"' :: r).length + 1)
        (cs.flatMap quoteChar ++ '"' :: r) = some (String.ofList cs, r) := by
  have hlength := length_le_length_flatMap_quoteChar cs
  rw [readString_quoted [] (by rw [List.length_append]; omega)]
  rfl

/-- A literal in front of a text determines its own text and the one behind it. -/
theorem quoteChars_append_inj (h : quoteChars cs ++ r = quoteChars ds ++ s) : cs = ds ∧ r = s := by
  have hrest : cs.flatMap quoteChar ++ '"' :: r = ds.flatMap quoteChar ++ '"' :: s := by
    simpa [quoteChars] using h
  -- one reader with fuel for both texts gives both
  have hleft := readString_quoted (r := r) [] (Nat.lt_succ_of_le (cs.length.le_max_left ds.length))
  have hright := readString_quoted (r := s) [] (Nat.lt_succ_of_le (cs.length.le_max_right ds.length))
  rw [hrest, hright] at hleft
  obtain ⟨htext, rfl⟩ := Prod.mk.inj (Option.some.inj hleft)
  exact ⟨(String.ofList_injective htext).symm, rfl⟩

end Manuscript.Text
