/-!
# Decimal numerals

Numbers that are written behind a name tell names apart because each numeral is written for one
number only, and because a numeral has no hyphen in it that could be taken for the one before it.
-/

namespace Manuscript.Text

/-- A numeral determines its number. -/
theorem toString_nat_injective {m n : Nat} (h : toString m = toString n) : m = n := by
  have hdigits : Nat.toDigits 10 m = Nat.toDigits 10 n := by
    simpa using congrArg String.toList h
  have hvalue := congrArg (fun ds => Nat.ofDigitChars 10 ds 0) hdigits
  simpa using hvalue

/-- A numeral has no sign. -/
theorem hyphen_notMem_toString_nat (n : Nat) : '-' ∉ (toString n).toList := by
  intro h
  have hdigit : '-'.isDigit = true :=
    Nat.isDigit_of_mem_toDigits (b := 10) (n := n) (by decide) (by decide) (by simpa using h)
  exact absurd hdigit (by decide)

end Manuscript.Text
