import Manuscript.Proofs.Text.Blank
import Manuscript.Proofs.Text.Quoted
import Manuscript.Script.Name

/-!
# Strings, comments and brackets of a script

A scanner goes through a script character by character. It knows whether it is in code, in a string
or in a comment, and which brackets are open in the code. Strings stand between double quotes,
single quotes or backticks, and a backslash in them takes the next character with it.

## Main definitions

* `Mode`, `Scan` — where a scanner is, and what it waits for
* `Scan.step?`, `Scan.run?` — what a character and what a text does
* `Balanced` — texts that lead from code to code and close all brackets that they open, and no other

## Main results

* `run?_append`, `run?_frame` — scanning goes part by part, and open brackets do not matter
* `Balanced.append`, `Balanced.between` — texts that are put together from balanced ones
* `balanced_quoteChars` — string literals are balanced
* `settled_trim` — where a scanner is after a trimmed source
-/

namespace Manuscript.Script

open Manuscript.Text (isBlank trim quoteChar quoteChars)

/-- The quotes that a string may stand between. -/
inductive QuoteMark where
  /-- The double quote. -/
  | double
  /-- The single quote. -/
  | single
  /-- The backtick. -/
  | backtick
  deriving DecidableEq, Repr

/-- The character of a quote. -/
def QuoteMark.char : QuoteMark → Char
  | .double => '"'
  | .single => '\x27'
  | .backtick => '\x60'

/-- Where in a script a scanner is. -/
inductive Mode where
  /-- In code. -/
  | code
  /-- In code, right behind a slash, which may begin a comment. -/
  | slash
  /-- In a string. -/
  | string (mark : QuoteMark)
  /-- In a string, right behind a backslash. -/
  | escape (mark : QuoteMark)
  /-- In a comment that ends with the line. -/
  | lineComment
  /-- In a comment that ends with an asterisk and a slash. -/
  | blockComment
  /-- In such a comment, right behind an asterisk. -/
  | asterisk
  deriving DecidableEq, Repr

/-- Whether a scanner is in code. -/
def Mode.isCode : Mode → Bool
  | .code | .slash => true
  | _ => false

/-- What a scanner knows. -/
structure Scan where
  /-- Where it is. -/
  mode : Mode
  /-- The brackets that close those which are open, the next one first. -/
  awaited : List Char
  deriving DecidableEq, Repr

/-- A scanner at the beginning of a script. -/
def Scan.start : Scan := ⟨.code, []⟩

/-- The quote that a character is. -/
def quoteMark? (c : Char) : Option QuoteMark :=
  if c = '"' then some .double
  else if c = '\x27' then some .single
  else if c = '\x60' then some .backtick
  else none

/-- The closing bracket that belongs to an opening one. -/
def closing? (c : Char) : Option Char :=
  if c = '(' then some ')'
  else if c = '[' then some ']'
  else if c = '\x7b' then some '\x7d'
  else none

/-- Whether a character closes a bracket. -/
def isClosing (c : Char) : Bool := c = ')' || c = ']' || c = '\x7d'

/-- What a character does in code. A closing bracket must be the one that is awaited. -/
def codeStep? (awaited : List Char) (c : Char) : Option Scan :=
  match quoteMark? c, closing? c with
  | some mark, _ => some ⟨.string mark, awaited⟩
  | none, some bracket => some ⟨.code, bracket :: awaited⟩
  | none, none =>
    if c = '/' then some ⟨.slash, awaited⟩
    else if isClosing c then
      if awaited.head? = some c then some ⟨.code, awaited.tail⟩ else none
    else some ⟨.code, awaited⟩

namespace Scan

/-- What a character does; `none` if it closes a bracket that is not awaited. -/
def step? (s : Scan) (c : Char) : Option Scan :=
  match s.mode with
  | .code => codeStep? s.awaited c
  | .slash =>
    if c = '/' then some ⟨.lineComment, s.awaited⟩
    else if c = '*' then some ⟨.blockComment, s.awaited⟩
    else codeStep? s.awaited c
  | .string mark =>
    if c = mark.char then some ⟨.code, s.awaited⟩
    else if c = '\\' then some ⟨.escape mark, s.awaited⟩
    else some s
  | .escape mark => some ⟨.string mark, s.awaited⟩
  | .lineComment => if c = '\n' then some ⟨.code, s.awaited⟩ else some s
  | .blockComment => if c = '*' then some ⟨.asterisk, s.awaited⟩ else some s
  | .asterisk =>
    if c = '/' then some ⟨.code, s.awaited⟩
    else if c = '*' then some s
    else some ⟨.blockComment, s.awaited⟩

/-- What a text does; `none` if it closes a bracket that is not awaited. -/
def run? (s : Scan) : List Char → Option Scan
  | [] => some s
  | c :: rest => (s.step? c).bind fun next => next.run? rest

end Scan

/-- A text is balanced if a scanner that begins in code ends in code, and the text closes all brackets
that it opens and no other. -/
def Balanced (cs : List Char) : Prop := Scan.start.run? cs = some Scan.start

instance (cs : List Char) : Decidable (Balanced cs) :=
  inferInstanceAs (Decidable (Scan.start.run? cs = some Scan.start))

variable {s t : Scan} {mode : Mode} {awaited below : List Char} {c : Char} {cs ds : List Char}

/-! ### Runs -/

theorem run?_append (s : Scan) (cs ds : List Char) :
    s.run? (cs ++ ds) = (s.run? cs).bind fun next => next.run? ds := by
  induction cs generalizing s with
  | nil => rfl
  | cons c rest ih =>
    simp only [List.cons_append, Scan.run?]
    cases s.step? c with
    | none => rfl
    | some next => exact ih next

theorem run?_append_of_run? (h : s.run? cs = some t) : s.run? (cs ++ ds) = t.run? ds := by
  rw [run?_append, h]
  rfl

/-- Brackets that are open below those of a text do not matter. -/
theorem codeStep?_frame (h : codeStep? awaited c = some t) (below : List Char) :
    codeStep? (awaited ++ below) c = some ⟨t.mode, t.awaited ++ below⟩ := by
  cases hmark : quoteMark? c with
  | some mark =>
    simp only [codeStep?, hmark] at h ⊢
    obtain rfl := Option.some.inj h
    rfl
  | none =>
    cases hbracket : closing? c with
    | some bracket =>
      simp only [codeStep?, hmark, hbracket] at h ⊢
      obtain rfl := Option.some.inj h
      rfl
    | none =>
      by_cases hslash : c = '/'
      · simp only [codeStep?, hmark, hbracket, if_pos hslash] at h ⊢
        obtain rfl := Option.some.inj h
        rfl
      · by_cases hclosing : isClosing c = true
        · -- only a closing bracket looks at what is awaited, and then there is a first one
          simp only [codeStep?, hmark, hbracket, if_neg hslash, if_pos hclosing] at h ⊢
          obtain ⟨hhead, hnext⟩ := Option.ite_none_right_eq_some.mp h
          obtain rfl := Option.some.inj hnext
          obtain ⟨rest, rfl⟩ := List.head?_eq_some_iff.mp hhead
          simp
        · simp only [codeStep?, hmark, hbracket, if_neg hslash, if_neg hclosing] at h ⊢
          obtain rfl := Option.some.inj h
          rfl

theorem step?_frame (h : s.step? c = some t) (below : List Char) :
    Scan.step? ⟨s.mode, s.awaited ++ below⟩ c = some ⟨t.mode, t.awaited ++ below⟩ := by
  obtain ⟨mode, awaited⟩ := s
  cases mode with
  | code => exact codeStep?_frame h below
  | slash =>
    simp only [Scan.step?] at h ⊢
    split at h
    · obtain rfl := Option.some.inj h
      simp_all
    · split at h
      · obtain rfl := Option.some.inj h
        simp_all
      · simp_all [codeStep?_frame h below]
  | _ => simp only [Scan.step?] at h ⊢; grind

theorem run?_frame (h : s.run? cs = some t) (below : List Char) :
    Scan.run? ⟨s.mode, s.awaited ++ below⟩ cs = some ⟨t.mode, t.awaited ++ below⟩ := by
  induction cs generalizing s with
  | nil =>
    obtain rfl := Option.some.inj h
    rfl
  | cons c rest ih =>
    obtain ⟨next, hstep, hrest⟩ := Option.bind_eq_some_iff.mp h
    rw [Scan.run?, step?_frame hstep]
    exact ih hrest

/-! ### Plain characters -/

/-- The characters that mean something to a scanner in code. -/
def specials : List Char :=
  ['"', '\x27', '\x60', '/', '(', '[', '\x7b', ')', ']', '\x7d']

/-- In code other characters change nothing. -/
theorem codeStep?_of_notMem_specials (h : c ∉ specials) (awaited : List Char) :
    codeStep? awaited c = some ⟨.code, awaited⟩ := by
  simp only [specials, List.mem_cons, List.not_mem_nil, or_false, not_or] at h
  simp [codeStep?, quoteMark?, closing?, isClosing, h]

theorem notMem_specials_of {p : Char → Bool} (hp : specials.any p = false) (h : p c = true) :
    c ∉ specials := fun hmem => List.any_eq_false.mp hp c hmem h

theorem isIdentifierPart_notMem_specials (h : isIdentifierPart c = true) : c ∉ specials :=
  notMem_specials_of (by decide) h

theorem isBlank_notMem_specials (h : isBlank c = true) : c ∉ specials :=
  notMem_specials_of (by decide) h

/-! ### Balanced texts -/

/-- A balanced text changes nothing, whatever brackets are open. -/
theorem Balanced.run? (h : Balanced cs) (awaited : List Char) :
    Scan.run? ⟨.code, awaited⟩ cs = some ⟨.code, awaited⟩ :=
  run?_frame h awaited

/-- Behind a balanced text scanning goes on as before it. -/
theorem Balanced.run?_append (h : Balanced cs) (awaited ds : List Char) :
    Scan.run? ⟨.code, awaited⟩ (cs ++ ds) = Scan.run? ⟨.code, awaited⟩ ds :=
  run?_append_of_run? (h.run? awaited)

theorem balanced_nil : Balanced [] := rfl

theorem Balanced.append (h : Balanced cs) (h' : Balanced ds) : Balanced (cs ++ ds) :=
  (h.run?_append [] ds).trans h'

/-- A text without special characters is balanced. -/
theorem balanced_of_notMem_specials (h : ∀ c ∈ cs, c ∉ specials) : Balanced cs := by
  induction cs with
  | nil => exact balanced_nil
  | cons c rest ih =>
    have hfirst : Scan.start.step? c = some Scan.start :=
      codeStep?_of_notMem_specials (h c List.mem_cons_self) []
    rw [Balanced, Scan.run?, hfirst]
    exact ih fun d hd => h d (List.mem_cons_of_mem _ hd)

/-- A text that leads from code to code may stand between parentheses. -/
theorem balanced_between (h : Scan.start.run? cs = some ⟨mode, []⟩) (hmode : mode.isCode = true) :
    Balanced ('(' :: (cs ++ [')'])) := by
  have hopen : Scan.start.step? '(' = some ⟨.code, [')']⟩ := rfl
  have hinside : Scan.run? ⟨.code, [')']⟩ cs = some ⟨mode, [')']⟩ := run?_frame h [')']
  have hclose : Scan.run? ⟨mode, [')']⟩ [')'] = some Scan.start := by
    cases mode with
    | code => rfl
    | slash => rfl
    | _ => cases hmode
  rw [Balanced, Scan.run?, hopen, Option.bind_some, run?_append_of_run? hinside]
  exact hclose

/-! ### String literals -/

/-- Inside a string all characters but its quote and the backslash change nothing. -/
theorem run?_string {mark : QuoteMark} (h : ∀ c ∈ cs, c ≠ mark.char ∧ c ≠ '\\')
    (awaited : List Char) :
    Scan.run? ⟨.string mark, awaited⟩ cs = some ⟨.string mark, awaited⟩ := by
  induction cs with
  | nil => rfl
  | cons c rest ih =>
    have hfirst : Scan.step? ⟨.string mark, awaited⟩ c = some ⟨.string mark, awaited⟩ := by
      obtain ⟨hquote, hbackslash⟩ := h c List.mem_cons_self
      simp [Scan.step?, hquote, hbackslash]
    rw [Scan.run?, hfirst]
    exact ih fun d hd => h d (List.mem_cons_of_mem _ hd)

/-- What stands for a character in a literal does not leave the string. -/
theorem run?_quoteChar (c : Char) (awaited : List Char) :
    Scan.run? ⟨.string .double, awaited⟩ (quoteChar c) = some ⟨.string .double, awaited⟩ := by
  rcases Text.quoteChar_cases c with ⟨heq, hquote, hbackslash, -⟩ | ⟨kind, digits, heq, -, hdigits⟩
  · rw [heq]
    refine run?_string (fun d hd => ?_) awaited
    rw [List.mem_singleton.mp hd]
    exact ⟨hquote, hbackslash⟩
  · -- the backslash takes the kind of the escape with it, and the rest is letters and digits
    have htwo : Scan.run? ⟨.string .double, awaited⟩ ['\\', kind] =
        some ⟨.string .double, awaited⟩ := rfl
    have hsplit : quoteChar c = ['\\', kind] ++ digits := heq
    rw [hsplit, run?_append_of_run? htwo]
    refine run?_string (fun d hd => ⟨?_, ?_⟩) awaited
    · rintro rfl
      exact absurd (hdigits _ hd) (by decide)
    · rintro rfl
      exact absurd (hdigits _ hd) (by decide)

theorem balanced_quoteChars (cs : List Char) : Balanced (quoteChars cs) := by
  have hinside : Scan.run? ⟨.string .double, []⟩ (cs.flatMap quoteChar) =
      some ⟨.string .double, []⟩ := by
    induction cs with
    | nil => rfl
    | cons c rest ih =>
      rw [List.flatMap_cons, run?_append_of_run? (run?_quoteChar c [])]
      exact ih
  have hopen : Scan.start.step? '"' = some ⟨.string .double, []⟩ := rfl
  rw [Balanced, quoteChars, Scan.run?, hopen, Option.bind_some, run?_append_of_run? hinside]
  rfl

/-! ### Blanks at the end of a source -/

/-- Whether a scanner is in code or in a comment that ends with the line. -/
def Mode.isSettled (mode : Mode) : Bool := mode.isCode || mode = .lineComment

/-- A blank leaves the open brackets as they are, and it leads out of no string and of no comment
other than one that ends with the line. -/
theorem step?_blank (hc : isBlank c = true) (h : s.step? c = some t) :
    t.awaited = s.awaited ∧ (t.mode.isSettled = true → s.mode.isSettled = true) := by
  have hcode := codeStep?_of_notMem_specials (isBlank_notMem_specials hc) s.awaited
  have hne : ∀ d, isBlank d = false → c ≠ d := by
    rintro d hd rfl
    rw [hc] at hd
    cases hd
  obtain ⟨mode, awaited⟩ := s
  cases mode with
  | code =>
    obtain rfl := Option.some.inj (hcode.symm.trans h)
    exact ⟨rfl, fun _ => rfl⟩
  | slash =>
    simp only [Scan.step?, hne '/' (by decide), hne '*' (by decide), if_false] at h
    obtain rfl := Option.some.inj (hcode.symm.trans h)
    exact ⟨rfl, fun _ => rfl⟩
  | string mark =>
    have hmark : c ≠ mark.char := hne _ (by cases mark <;> decide)
    simp only [Scan.step?, hmark, hne '\\' (by decide), if_false] at h
    obtain rfl := Option.some.inj h
    exact ⟨rfl, id⟩
  | escape mark =>
    obtain rfl := Option.some.inj h
    exact ⟨rfl, id⟩
  | lineComment =>
    simp only [Scan.step?] at h
    split at h <;> (obtain rfl := Option.some.inj h; exact ⟨rfl, fun _ => rfl⟩)
  | blockComment =>
    simp only [Scan.step?, hne '*' (by decide), if_false] at h
    obtain rfl := Option.some.inj h
    exact ⟨rfl, id⟩
  | asterisk =>
    simp only [Scan.step?, hne '/' (by decide), hne '*' (by decide), if_false] at h
    obtain rfl := Option.some.inj h
    exact ⟨rfl, id⟩

theorem run?_blank (hcs : ∀ c ∈ cs, isBlank c = true) (h : s.run? cs = some t) :
    t.awaited = s.awaited ∧ (t.mode.isSettled = true → s.mode.isSettled = true) := by
  induction cs generalizing s with
  | nil =>
    obtain rfl := Option.some.inj h
    exact ⟨rfl, id⟩
  | cons c rest ih =>
    obtain ⟨next, hstep, hrest⟩ := Option.bind_eq_some_iff.mp h
    obtain ⟨hawaited, hsettled⟩ := ih (fun d hd => hcs d (List.mem_cons_of_mem _ hd)) hrest
    obtain ⟨hawaited', hsettled'⟩ := step?_blank (hcs c List.mem_cons_self) hstep
    exact ⟨hawaited.trans hawaited', hsettled' ∘ hsettled⟩

/-- A source that is balanced with a line feed behind it closes its brackets even when it is trimmed,
and is then in code or in a comment that ends with the line. -/
theorem settled_trim (h : Balanced (cs ++ ['\n'])) :
    ∃ mode, Scan.start.run? (trim cs) = some ⟨mode, []⟩ ∧ mode.isSettled = true := by
  obtain ⟨before, after, hsplit, hbefore, hafter⟩ := Text.exists_eq_append_trim cs
  have hstart : Balanced before :=
    balanced_of_notMem_specials fun c hc => isBlank_notMem_specials (hbefore c hc)
  rw [hsplit, Balanced, List.append_assoc, List.append_assoc, run?_append_of_run? hstart,
    run?_append] at h
  obtain ⟨⟨mode, awaited⟩, hrun, hend⟩ := Option.bind_eq_some_iff.mp h
  have hblank : ∀ c ∈ after ++ ['\n'], isBlank c = true := by
    intro c hc
    rcases List.mem_append.mp hc with hc | hc
    · exact hafter c hc
    · rw [List.mem_singleton.mp hc]
      rfl
  obtain ⟨hawaited, hsettled⟩ := run?_blank hblank hend
  have hnil : awaited = [] := hawaited.symm
  rw [hrun, hnil]
  exact ⟨mode, rfl, hsettled rfl⟩

end Manuscript.Script
