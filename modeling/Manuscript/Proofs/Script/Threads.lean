import Manuscript.Proofs.Script.Pieces
import Manuscript.Proofs.Script.References
import Manuscript.Proofs.Script.Scanner

/-!
# What the generator writes

Between the sources of expressions the generator writes names, literals, brackets and fixed texts. It
opens and closes brackets in pairs, it enters no comment, and it leaves every string that it enters.
So a scanner that passes over the sources goes through a function body from code to code.

## Main definitions

* `Scan.pass?` — what the pieces of a script do if the sources among them are passed over
* `Threaded` — pieces that lead from code to code in this way

## Main results

* `Threaded.append`, `Threaded.between`, `threaded_separated` — how threaded pieces are put together
* `threaded_callPieces` — calls are threaded if their properties and children are
* `threaded_bodyPieces` — the pieces of a function body are threaded
-/

namespace Manuscript.Script

open Manuscript.Text (quote quoteChars)

/-- What the pieces of a script do if the sources among them are passed over; `none` if one of them
is not met in code. -/
def Scan.pass? (s : Scan) : List Piece → Option Scan
  | [] => some s
  | .generated text :: rest => (s.run? text.toList).bind fun next => next.pass? rest
  | .embedded _ :: rest => if s.mode = .code then s.pass? rest else none

/-- Pieces that lead from code to code and close the brackets that they open, if the sources among
them are passed over. -/
def Threaded (pieces : List Piece) : Prop :=
  ∀ awaited, Scan.pass? ⟨.code, awaited⟩ pieces = some ⟨.code, awaited⟩

variable {s t : Scan} {ps qs : List Piece} {text tag name : String} {awaited : List Char}

/-! ### Threaded pieces -/

theorem pass?_append (s : Scan) (ps qs : List Piece) :
    s.pass? (ps ++ qs) = (s.pass? ps).bind fun next => next.pass? qs := by
  induction ps generalizing s with
  | nil => rfl
  | cons p rest ih =>
    cases p with
    | generated text =>
      rw [List.cons_append, Scan.pass?, Scan.pass?]
      cases s.run? text.toList with
      | none => rfl
      | some next => exact ih next
    | embedded source =>
      rw [List.cons_append, Scan.pass?, Scan.pass?]
      split
      · exact ih s
      · rfl

theorem threaded_nil : Threaded [] := fun _ => rfl

theorem Threaded.append (h : Threaded ps) (h' : Threaded qs) : Threaded (ps ++ qs) := by
  intro awaited
  rw [pass?_append, h awaited]
  exact h' awaited

theorem threaded_embedded (source : String) : Threaded [.embedded source] := fun _ => rfl

theorem threaded_generated (h : Balanced text.toList) : Threaded [.generated text] := by
  intro awaited
  rw [Scan.pass?, h.run?]
  rfl

/-- Pieces may stand between texts of which the one opens brackets that the other closes. -/
theorem Threaded.between {opening closing : String} (h : Threaded ps) (brackets : List Char)
    (hopening : Scan.start.run? opening.toList = some ⟨.code, brackets⟩)
    (hclosing : Scan.run? ⟨.code, brackets⟩ closing.toList = some Scan.start) :
    Threaded (.generated opening :: ps ++ [.generated closing]) := by
  intro awaited
  have hopen : Scan.run? ⟨.code, awaited⟩ opening.toList = some ⟨.code, brackets ++ awaited⟩ :=
    run?_frame hopening awaited
  have hclose : Scan.run? ⟨.code, brackets ++ awaited⟩ closing.toList = some ⟨.code, awaited⟩ :=
    run?_frame hclosing awaited
  rw [List.cons_append, Scan.pass?, hopen, Option.bind_some, pass?_append, h, Option.bind_some,
    Scan.pass?, hclose]
  rfl

theorem threaded_separated {parts : List (List Piece)} (h : ∀ ps ∈ parts, Threaded ps) :
    Threaded (separated parts) := by
  induction parts with
  | nil => exact threaded_nil
  | cons first rest ih =>
    obtain ⟨hfirst, hrest⟩ := List.forall_mem_cons.mp h
    cases rest with
    | nil => exact hfirst
    | cons second rest =>
      have hcomma : Threaded [.generated ", "] := threaded_generated rfl
      exact hfirst.append (hcomma.append (ih hrest))

/-! ### Names -/

theorem balanced_quote (text : String) : Balanced (quote text).toList := by
  rw [quote, String.toList_ofList]
  exact balanced_quoteChars _

theorem balanced_of_isIdentifier (h : isIdentifier name = true) : Balanced name.toList :=
  balanced_of_notMem_specials fun _ hc =>
    isIdentifierPart_notMem_specials (isIdentifierPart_of_mem h hc)

theorem balanced_propertyKey (name : String) : Balanced (propertyKey name).toList := by
  unfold propertyKey
  split
  · rename_i h
    exact balanced_of_isIdentifier h
  · exact balanced_quote name

theorem balanced_of_isPath (h : isPath name = true) : Balanced name.toList :=
  balanced_of_notMem_specials fun c hc => by
    rcases eq_dot_or_isIdentifierPart_of_mem h hc with rfl | hpart
    · decide
    · exact isIdentifierPart_notMem_specials hpart

theorem balanced_member (name : String) : Balanced (member "_components" name).toList := by
  have hobject : Balanced "_components".toList := by decide +kernel
  cases hpath : isPath name with
  | true =>
    have hdot : Balanced ['.'] := rfl
    rw [toList_member_of_isPath hpath]
    exact hobject.append (hdot.append (balanced_of_isPath hpath))
  | false =>
    have hopen : Scan.start.run? ['['] = some ⟨.code, [']']⟩ := rfl
    have hbrackets : Balanced (['['] ++ (quoteChars name.toList ++ [']'])) := by
      rw [Balanced, run?_append_of_run? hopen, (balanced_quoteChars _).run?_append]
      rfl
    rw [toList_member_of_not_isPath hpath]
    exact hobject.append hbrackets

/-! ### Calls -/

theorem balanced_plainValue (value : PlainValue) : Balanced value.code.toList := by
  cases value with
  | text value => exact balanced_quote value
  | yes => decide +kernel

/-- The key of a property, before its value. -/
theorem balanced_propertyKey_colon (name : String) :
    Balanced (propertyKey name ++ ": ").toList := by
  have hcolon : Balanced ": ".toList := by decide +kernel
  rw [String.toList_append]
  exact (balanced_propertyKey name).append hcolon

theorem threaded_propertyPieces? {intrinsic : Bool} {entry : String × AttributeValue}
    (hstyle : intrinsic = true → ∀ text, entry ≠ ("style", .text text))
    (h : propertyPieces? intrinsic entry = some ps) : Threaded ps := by
  cases hexpression : attributeExpression? entry with
  | some e =>
    simp only [propertyPieces?, hexpression] at h
    obtain ⟨source, -, rfl⟩ := Option.map_eq_some_iff.mp h
    -- the source is passed over, so that only the key matters
    exact (threaded_generated (balanced_propertyKey_colon _)).append (threaded_embedded source)
  | none =>
    have hvalue : ∀ source, entry.2 ≠ .expression source := fun source heq => by
      simp [attributeExpression?, heq] at hexpression
    simp only [propertyPieces?, hexpression, property?_plain hstyle hvalue, Option.map_some] at h
    obtain rfl := Option.some.inj h
    refine threaded_generated ?_
    rw [String.toList_append]
    exact (balanced_propertyKey_colon _).append (balanced_plainValue _)

theorem threaded_childFieldPieces {children : List (List Piece)}
    (h : ∀ ps ∈ children, Threaded ps) : ∀ ps ∈ childFieldPieces children, Threaded ps := by
  match children with
  | [] => simp [childFieldPieces]
  | [only] =>
    intro ps hps
    obtain rfl := List.mem_singleton.mp hps
    have hname : Threaded [.generated "children: "] := threaded_generated (by decide +kernel)
    exact hname.append (h only List.mem_cons_self)
  | first :: second :: rest =>
    intro ps hps
    obtain rfl := List.mem_singleton.mp hps
    exact (threaded_separated h).between [']'] (by decide +kernel) (by decide +kernel)

theorem threaded_callPieces {reference : String} {properties children : List (List Piece)}
    (hreference : Balanced reference.toList) (hproperties : ∀ ps ∈ properties, Threaded ps)
    (hchildren : ∀ ps ∈ children, Threaded ps) :
    Threaded (callPieces reference properties children) := by
  have hfields : Threaded (separated (properties ++ childFieldPieces children)) :=
    threaded_separated fun ps hps =>
      (List.mem_append.mp hps).elim (hproperties ps) (threaded_childFieldPieces hchildren ps)
  have hname : Scan.start.run? (if children.length ≤ 1 then "_jsx(" else "_jsxs(").toList =
      some ⟨.code, [')']⟩ := by
    split <;> decide +kernel
  -- the brace of the object and the parenthesis of the call are closed together
  refine hfields.between ['\x7d', ')'] ?_ (by decide +kernel)
  rw [String.toList_append, String.toList_append, List.append_assoc, run?_append_of_run? hname,
    hreference.run?_append]
  decide +kernel

/-! ### Bodies -/

mutual

/-- What the generator writes for a tree closes all brackets that it opens. -/
theorem threaded_expressionPieces? : ∀ {n : Node}, (∀ e ∈ n.elements, IsTame e) →
    ∀ ps ∈ expressionPieces? n, Threaded ps
  | .root children, h, ps, hps => by
    obtain rfl := Option.some.inj hps
    exact threaded_callPieces (by decide +kernel) (by simp) (threaded_expressionsPieces h)
  | .element tag attributes children, h, ps, hps => by
    obtain rfl := Option.some.inj hps
    obtain ⟨helement, hchildren⟩ := List.forall_mem_cons.mp h
    refine threaded_callPieces ?_ (fun qs hqs => ?_) (threaded_expressionsPieces hchildren)
    · rw [helement.reference_eq]
      exact balanced_member tag
    · obtain ⟨entry, hentry, hpieces⟩ := List.mem_filterMap.mp hqs
      exact threaded_propertyPieces? (helement.ne_style hentry) hpieces
  | .leaf .expression source, _, ps, hps => by
    obtain ⟨emitted, -, rfl⟩ := Option.map_eq_some_iff.mp hps
    exact threaded_embedded emitted
  | .leaf .text value, _, ps, hps => by
    obtain rfl := Option.some.inj hps
    exact threaded_generated (balanced_quote value)
  | .leaf .comment _, _, ps, hps => by cases hps
  | .leaf .raw _, _, ps, hps => by cases hps

theorem threaded_expressionsPieces : ∀ {ns : List Node},
    (∀ e ∈ Node.elementsAll ns, IsTame e) → ∀ ps ∈ expressionsPieces ns, Threaded ps
  | [], _, ps, hps => by cases hps
  | n :: rest, h, ps, hps => by
    obtain ⟨hfirst, hrest⟩ := List.forall_mem_append.mp h
    rw [expressionsPieces] at hps
    cases hpieces : expressionPieces? n with
    | none =>
      rw [hpieces] at hps
      exact threaded_expressionsPieces hrest ps hps
    | some pieces =>
      rw [hpieces] at hps
      rcases List.mem_cons.mp hps with rfl | hps
      · exact threaded_expressionPieces? hfirst ps hpieces
      · exact threaded_expressionsPieces hrest ps hps

end

theorem balanced_join {texts : List String} (h : ∀ text ∈ texts, Balanced text.toList) :
    Balanced (String.join texts).toList := by
  induction texts with
  | nil => exact balanced_nil
  | cons first rest ih =>
    obtain ⟨hfirst, hrest⟩ := List.forall_mem_cons.mp h
    rw [String.join_cons, String.toList_append]
    exact hfirst.append (ih hrest)

theorem balanced_defaultLine (tag : String) : Balanced (defaultLine tag).toList := by
  have hstart : Balanced "    ".toList := by decide +kernel
  have hend : Balanced ",\n".toList := by decide +kernel
  have hcolon : Balanced ": ".toList := by decide +kernel
  simp only [defaultLine, String.toList_append]
  exact (((hstart.append (balanced_propertyKey tag)).append hcolon).append
    (balanced_quote tag)).append hend

theorem balanced_guardLine (component : String) : Balanced (guardLine component).toList := by
  have hopen : Scan.start.run? "  if (!".toList = some ⟨.code, [')']⟩ := by decide +kernel
  have hnext : Scan.run? ⟨.code, [')']⟩ ") _missingMdxReference(".toList =
      some ⟨.code, [')']⟩ := by
    decide +kernel
  have hclose : Scan.run? ⟨.code, [')']⟩ ");\n".toList = some Scan.start := by decide +kernel
  simp only [guardLine, String.toList_append, List.append_assoc]
  rw [Balanced, run?_append_of_run? hopen, (balanced_member component).run?_append,
    run?_append_of_run? hnext, (balanced_quote component).run?_append]
  exact hclose

theorem run?_bodyStart :
    Scan.start.run? bodyStart.toList = some ⟨.code, ['\x7d', '\x7d']⟩ := by
  delta bodyStart
  simp only [String.toList_append]
  repeat rw [String.toList_ofList]
  decide +kernel

theorem run?_bodyEnd :
    Scan.run? ⟨.code, ['\x7d']⟩ (";\n" ++ bodyEnd).toList = some Scan.start := by
  delta bodyEnd
  simp only [String.toList_append]
  repeat rw [String.toList_ofList]
  decide +kernel

/-- Before the content of a body the only open bracket is that of the function. -/
theorem run?_bodyOpening (names : ReferencedNames) :
    Scan.start.run? (bodyOpening names).toList = some ⟨.code, ['\x7d']⟩ := by
  have hdefaults : Balanced (String.join (names.intrinsic.map defaultLine)).toList :=
    balanced_join (List.forall_mem_map.mpr fun tag _ => balanced_defaultLine tag)
  have hguards : Balanced (String.join (names.components.map guardLine)).toList :=
    balanced_join (List.forall_mem_map.mpr fun component _ => balanced_guardLine component)
  have hspread : Balanced "    ...props.components\n".toList := by decide +kernel
  have hclose : Scan.run? ⟨.code, ['\x7d', '\x7d']⟩ "  \x7d;\n".toList =
      some ⟨.code, ['\x7d']⟩ := by
    decide +kernel
  have hreturn : Balanced "  return ".toList := by decide +kernel
  -- the brace of the defaults is closed before the checks, that of the function stays open
  simp only [bodyOpening, String.toList_append, List.append_assoc]
  rw [run?_append_of_run? run?_bodyStart, hdefaults.run?_append, hspread.run?_append,
    run?_append_of_run? hclose, hguards.run?_append, hreturn.run?]

/-- What the generator writes in a body closes all brackets that it opens. -/
theorem threaded_bodyPieces {n : Node} (h : ∀ e ∈ n.elements, IsTame e) :
    Threaded (bodyPieces n) := by
  have hcontent : Threaded ((expressionPieces? n).getD [.generated "null"]) := by
    cases hpieces : expressionPieces? n with
    | none => exact threaded_generated (by decide +kernel)
    | some pieces => exact threaded_expressionPieces? h pieces hpieces
  exact hcontent.between ['\x7d'] (run?_bodyOpening _) run?_bodyEnd

end Manuscript.Script
