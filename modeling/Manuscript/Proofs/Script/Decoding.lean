import Manuscript.Proofs.Script.Tokens

/-!
# Reading creations back

A creation that is written in front of a text can be read back: what is written determines the
creation and where it ends. So the body of a plain tree determines what the tree creates, and nothing
else of the tree matters to the body.

The one place where two kinds of values look the same is the object of a call, where a string may be
a property or a child. There the key decides, since no property has the key of the children.

## Main definitions

* `Field` — the fields of the object of a call
* `Creation.IsProper` — creations without properties that are called `children`
* `Creation.UniquelyRead` — creations that are known from how they are written

## Main results

* `call_append_inj` — calls are read part by part
* `uniquelyRead` — proper creations are uniquely read
* `functionBody_eq_iff_creation_eq` — which plain trees have the same body
-/

namespace Manuscript.Script

open Manuscript.Text (quote quoteChars joinWith)

variable {r s : List Char}

/-! ### Creations -/

theorem codes_eq_map (cs : List Creation) : Creation.codes cs = cs.map Creation.code := by
  induction cs with
  | nil => rfl
  | cons c rest ih => rw [Creation.codes, ih, List.map_cons]

mutual

/-- Whether no property of a creation has the name of the children. -/
def Creation.IsProper : Creation → Prop
  | .text _ => True
  | .call _ properties children =>
    (∀ p ∈ properties, p.1 ≠ "children") ∧ Creation.AllProper children

/-- Whether no property of creations side by side has the name of the children. -/
def Creation.AllProper : List Creation → Prop
  | [] => True
  | c :: rest => c.IsProper ∧ Creation.AllProper rest

end

theorem isProper_of_mem {c : Creation} {cs : List Creation} (h : Creation.AllProper cs)
    (hc : c ∈ cs) : c.IsProper := by
  induction cs with
  | nil => cases hc
  | cons first rest ih =>
    rcases List.mem_cons.mp hc with rfl | hc
    · exact h.1
    · exact ih h.2 hc

/-- Whether a creation, and where it ends, is known from how it is written. -/
def Creation.UniquelyRead (c : Creation) : Prop :=
  ∀ d : Creation, d.IsProper → ∀ r s : List Char,
    c.code.toList ++ r = d.code.toList ++ s → c = d ∧ r = s

/-- A call begins with an underscore. -/
theorem exists_toList_call (target : Target) (properties : List (String × PlainValue))
    (children : List Creation) :
    ∃ cs, (Creation.call target properties children).code.toList = '_' :: cs := by
  rw [Creation.code, call_eq]
  split <;> simp

/-- A creation begins with a quote or an underscore. -/
theorem code_append_ne (c : Creation) {d : Char} (hquote : d ≠ '"') (hunderscore : d ≠ '_')
    (r s : List Char) : c.code.toList ++ r ≠ d :: s := by
  intro h
  cases c with
  | text value =>
    rw [Creation.code, toList_quote] at h
    exact hquote (List.cons.inj h).1.symm
  | call target properties children =>
    obtain ⟨cs, hcs⟩ := exists_toList_call target properties children
    rw [hcs] at h
    exact hunderscore (List.cons.inj h).1.symm

/-! ### Fields -/

/-- A field of the object of a call. -/
inductive Field where
  /-- A property. -/
  | property (p : String × PlainValue)
  /-- An only child. -/
  | child (c : Creation)
  /-- The children, if there are several. -/
  | children (cs : List Creation)

namespace Field

/-- The key of a field. -/
def key : Field → String
  | property p => p.1
  | child _ | children _ => "children"

/-- How the value of a field is written. -/
def valueCode : Field → String
  | property p => p.2.code
  | child c => c.code
  | children cs => "[" ++ joinWith ", " (cs.map Creation.code) ++ "]"

/-- The property that a field is. -/
def property? : Field → Option (String × PlainValue)
  | property p => some p
  | child _ | children _ => none

/-- The children that a field holds. -/
def creations : Field → List Creation
  | property _ => []
  | child c => [c]
  | children cs => cs

/-- How a field is written. -/
def code (field : Field) : String := propertyKey field.key ++ ": " ++ field.valueCode

/-- Whether a field is a property that is not called `children`, or something holds of all children
in it. -/
def All (P : Creation → Prop) : Field → Prop
  | property p => p.1 ≠ "children"
  | child c => P c
  | children cs => ∀ c ∈ cs, P c

end Field

/-- The field of the children; none without children. -/
def childrenFields : List Creation → List Field
  | [] => []
  | [only] => [.child only]
  | many => [.children many]

theorem code_childrenFields (children : List Creation) :
    (childrenFields children).map Field.code = childField (children.map Creation.code) := by
  have hkey : propertyKey "children" = "children" := by decide +kernel
  match children with
  | [] => rfl
  | [only] => simp [childrenFields, childField, Field.code, Field.key, Field.valueCode, hkey]
  | first :: second :: rest =>
    have hopen : "children" ++ ": " ++ "[" = "children: [" := by decide +kernel
    simp only [childrenFields, childField, Field.code, Field.key, Field.valueCode, hkey,
      List.map_cons, List.map_nil, ← hopen, String.append_assoc]

theorem creations_childrenFields (children : List Creation) :
    (childrenFields children).flatMap Field.creations = children := by
  match children with
  | [] => rfl
  | [only] => rfl
  | first :: second :: rest => simp [childrenFields, Field.creations]

theorem property?_childrenFields (children : List Creation) :
    (childrenFields children).filterMap Field.property? = [] := by
  match children with
  | [] => rfl
  | [only] => rfl
  | first :: second :: rest => rfl

/-- The fields of an object determine the properties and the children. -/
theorem fields_inj {properties properties' : List (String × PlainValue)}
    {children children' : List Creation}
    (h : properties.map Field.property ++ childrenFields children =
      properties'.map Field.property ++ childrenFields children') :
    properties = properties' ∧ children = children' := by
  have hproperties (ps : List (String × PlainValue)) :
      (ps.map Field.property).filterMap Field.property? = ps := by
    simp [List.filterMap_map, Function.comp_def, Field.property?]
  have hcreations (ps : List (String × PlainValue)) :
      (ps.map Field.property).flatMap Field.creations = [] := by
    simp [List.flatMap_map, Field.creations]
  constructor
  · have hfilter := congrArg (List.filterMap Field.property?) h
    simpa [hproperties, property?_childrenFields] using hfilter
  · have hflat := congrArg (List.flatMap Field.creations) h
    simpa [hcreations, creations_childrenFields] using hflat

theorem all_of_mem_fields {P : Creation → Prop} {properties : List (String × PlainValue)}
    {children : List Creation} (hproperties : ∀ p ∈ properties, p.1 ≠ "children")
    (hchildren : ∀ c ∈ children, P c) :
    ∀ f ∈ properties.map Field.property ++ childrenFields children, f.All P := by
  refine List.forall_mem_append.mpr ⟨List.forall_mem_map.mpr hproperties, ?_⟩
  match children with
  | [] => simp [childrenFields]
  | [only] => simpa [childrenFields, Field.All] using hchildren
  | first :: second :: rest => simpa [childrenFields, Field.All] using hchildren

theorem toList_valueCode_children (cs : List Creation) (r : List Char) :
    (Field.children cs).valueCode.toList ++ r =
      '[' :: ((joinWith ", " (cs.map Creation.code)).toList ++ ']' :: r) := by
  simp [Field.valueCode]

/-- A field is known from how it is written, if its children are. -/
theorem field_append_inj {f g : Field} (hf : f.All Creation.UniquelyRead)
    (hg : g.All Creation.IsProper)
    (h : f.code.toList ++ r = g.code.toList ++ s) : f = g ∧ r = s := by
  have hsplit (field : Field) (r : List Char) : field.code.toList ++ r =
      (propertyKey field.key).toList ++ ':' :: ' ' :: (field.valueCode.toList ++ r) := by
    simp [Field.code]
  rw [hsplit, hsplit] at h
  obtain ⟨hkey, hbehind⟩ := propertyKey_append_inj h
  have hvalue := (List.cons.inj hbehind).2
  -- the key tells properties from children, and the bracket tells several children from one
  cases f with
  | property p =>
    cases g with
    | property q =>
      obtain ⟨hplain, hrest⟩ := plainValue_append_inj hvalue
      exact ⟨congrArg _ (Prod.ext hkey hplain), hrest⟩
    | child d => exact absurd hkey hf
    | children ds => exact absurd hkey hf
  | child c =>
    cases g with
    | property q => exact absurd hkey.symm hg
    | child d =>
      obtain ⟨rfl, hrest⟩ := hf d hg r s hvalue
      exact ⟨rfl, hrest⟩
    | children ds =>
      rw [toList_valueCode_children] at hvalue
      exact absurd hvalue (code_append_ne c (by decide) (by decide) _ _)
  | children cs =>
    cases g with
    | property q => exact absurd hkey.symm hg
    | child d =>
      rw [toList_valueCode_children] at hvalue
      exact absurd hvalue.symm (code_append_ne d (by decide) (by decide) _ _)
    | children ds =>
      rw [toList_valueCode_children, toList_valueCode_children] at hvalue
      obtain ⟨rfl, hrest⟩ := joinWith_append_inj (by decide)
        (fun c _ => code_append_ne c (by decide) (by decide))
        (fun d _ => code_append_ne d (by decide) (by decide))
        (fun c hc d hd => hf c hc d (hg d hd)) (List.cons.inj hvalue).2
      exact ⟨rfl, hrest⟩

/-! ### Calls -/

theorem code_call (target : Target) (properties : List (String × PlainValue))
    (children : List Creation) :
    (Creation.call target properties children).code =
      (if children.length ≤ 1 then "_jsx(" else "_jsxs(") ++ target.code ++ ", \x7b" ++
        joinWith ", " ((properties.map Field.property ++ childrenFields children).map Field.code) ++
        "\x7d)" := by
  rw [Creation.code, call_eq, codes_eq_map, List.map_append, code_childrenFields, List.map_map,
    List.length_map]
  rfl

/-- A field begins with a character of an identifier or with a quote. -/
theorem field_append_ne (field : Field) (r s : List Char) : field.code.toList ++ r ≠ '\x7d' :: s := by
  rw [Field.code, String.append_assoc, String.toList_append, List.append_assoc]
  exact propertyKey_append_ne (by decide) (by decide) _ _

/-- The name of a function ends with a parenthesis, so that it is known what is called. -/
theorem function_append_inj {single single' : Prop} [Decidable single] [Decidable single']
    (h : (if single then "_jsx(" else "_jsxs(").toList ++ r =
      (if single' then "_jsx(" else "_jsxs(").toList ++ s) : r = s := by
  split at h <;> split at h
  · exact List.append_cancel_left h
  · simp at h
  · simp at h
  · exact List.append_cancel_left h

/-- A call is known from how it is written, if its children are. -/
theorem call_append_inj {a b : Target} {properties properties' : List (String × PlainValue)}
    {children children' : List Creation} (hproperties : ∀ p ∈ properties, p.1 ≠ "children")
    (hchildren : ∀ c ∈ children, c.UniquelyRead)
    (hproper : (Creation.call b properties' children').IsProper)
    (h : (Creation.call a properties children).code.toList ++ r =
      (Creation.call b properties' children').code.toList ++ s) :
    Creation.call a properties children = Creation.call b properties' children' ∧ r = s := by
  have hchars (a : Target) (properties : List (String × PlainValue)) (children : List Creation)
      (r : List Char) : (Creation.call a properties children).code.toList ++ r =
        (if children.length ≤ 1 then "_jsx(" else "_jsxs(").toList ++ (a.code.toList ++
          ',' :: ' ' :: '\x7b' :: ((joinWith ", " ((properties.map Field.property ++
            childrenFields children).map Field.code)).toList ++ '\x7d' :: ')' :: r)) := by
    rw [code_call]
    simp
  rw [hchars, hchars] at h
  -- the function and the reference are read first, then the fields one by one up to the brace
  obtain ⟨rfl, hobject⟩ := target_append_inj (function_append_inj h)
  have hfields := (List.cons.inj (List.cons.inj hobject).2).2
  have hreadable := all_of_mem_fields hproperties hchildren
  have hproper' := all_of_mem_fields hproper.1 fun c hc => isProper_of_mem hproper.2 hc
  obtain ⟨heq, hrest⟩ := joinWith_append_inj (by decide) (fun f _ => field_append_ne f)
    (fun g _ => field_append_ne g)
    (fun f hf g hg r s => field_append_inj (hreadable f hf) (hproper' g hg)) hfields
  obtain ⟨rfl, rfl⟩ := fields_inj heq
  exact ⟨rfl, (List.cons.inj hrest).2⟩

/-- No text is written like a call. -/
theorem text_append_ne_call_append (value : String) (target : Target)
    (properties : List (String × PlainValue)) (children : List Creation) (r s : List Char) :
    (Creation.text value).code.toList ++ r ≠
      (Creation.call target properties children).code.toList ++ s := by
  obtain ⟨cs, hcs⟩ := exists_toList_call target properties children
  rw [hcs, Creation.code, toList_quote]
  exact fun h => absurd (List.cons.inj h).1 (by decide)

theorem uniquelyRead_text (value : String) : (Creation.text value).UniquelyRead := by
  intro d _ r s h
  cases d with
  | text other =>
    obtain ⟨rfl, hrest⟩ := quote_append_inj h
    exact ⟨rfl, hrest⟩
  | call target properties children => exact absurd h (text_append_ne_call_append _ _ _ _ _ _)

theorem uniquelyRead_call (target : Target) {properties : List (String × PlainValue)}
    {children : List Creation} (hproperties : ∀ p ∈ properties, p.1 ≠ "children")
    (hchildren : ∀ c ∈ children, c.UniquelyRead) :
    (Creation.call target properties children).UniquelyRead := by
  intro d hd r s h
  cases d with
  | text value => exact absurd h.symm (text_append_ne_call_append _ _ _ _ _ _)
  | call target' properties' children' => exact call_append_inj hproperties hchildren hd h

mutual

/-- Proper creations are known from how they are written: a call is, as soon as its children are. -/
theorem uniquelyRead : ∀ {c : Creation}, c.IsProper → c.UniquelyRead
  | .text value, _ => uniquelyRead_text value
  | .call target _ _, h => uniquelyRead_call target h.1 (uniquelyRead_of_mem h.2)

theorem uniquelyRead_of_mem : ∀ {cs : List Creation}, Creation.AllProper cs →
    ∀ c ∈ cs, c.UniquelyRead
  | [], _ => by simp
  | _ :: _, h => List.forall_mem_cons.mpr ⟨uniquelyRead h.1, uniquelyRead_of_mem h.2⟩

end

/-! ### Bodies -/

theorem exists_toList_append_eq {line : String} {cs : List Char} (text : String)
    (h : line.toList = cs ++ ['\n']) : ∃ before, (text ++ line).toList = before ++ ['\n'] :=
  ⟨text.toList ++ cs, by rw [String.toList_append, h, List.append_assoc]⟩

/-- Checks end with their lines. -/
theorem exists_toList_append_guardLines {text : String} (components : List String)
    (h : ∃ before, text.toList = before ++ ['\n']) :
    ∃ before, (text ++ String.join (components.map guardLine)).toList = before ++ ['\n'] := by
  induction components generalizing text with
  | nil => simpa using h
  | cons component rest ih =>
    have hend : ");\n".toList = [')', ';'] ++ ['\n'] := rfl
    obtain ⟨line, hline⟩ := exists_toList_append_eq ("  if (!" ++ member "_components" component ++
      ") _missingMdxReference(" ++ quote component) hend
    have hguard : (guardLine component).toList = line ++ ['\n'] := hline
    rw [List.map_cons, String.join_cons, ← String.append_assoc]
    exact ih (exists_toList_append_eq text hguard)

/-- The content of a body begins on a line of its own. -/
theorem exists_toList_bodyOpening (names : ReferencedNames) :
    ∃ before, (bodyOpening names).toList = before ++ '\n' :: "  return ".toList := by
  have hend : "  \x7d;\n".toList = [' ', ' ', '\x7d', ';'] ++ ['\n'] := rfl
  have hclose := exists_toList_append_eq (bodyStart ++
    String.join (names.intrinsic.map defaultLine) ++ "    ...props.components\n") hend
  obtain ⟨before, hbefore⟩ := exists_toList_append_guardLines names.components hclose
  refine ⟨before, ?_⟩
  rw [bodyOpening, String.toList_append, hbefore, List.append_assoc]
  rfl

/-- A body determines its content, if that stands on one line. -/
theorem bodyOf_content_inj {names names' : ReferencedNames} {content content' : String}
    (hcontent : '\n' ∉ content.toList) (hcontent' : '\n' ∉ content'.toList)
    (h : bodyOf names content = bodyOf names' content') : content = content' := by
  obtain ⟨before, hbefore⟩ := exists_toList_bodyOpening names
  obtain ⟨before', hbefore'⟩ := exists_toList_bodyOpening names'
  have hchars : before ++ '\n' :: ("  return ".toList ++ content.toList) =
      before' ++ '\n' :: ("  return ".toList ++ content'.toList) := by
    have hbody (names : ReferencedNames) (content : String) : (bodyOf names content).toList =
        (bodyOpening names).toList ++ content.toList ++ (";\n" ++ bodyEnd).toList := by
      simp only [bodyOf, String.toList_append, List.append_assoc]
    have hsame : (bodyOpening names).toList ++ content.toList ++ (";\n" ++ bodyEnd).toList =
        (bodyOpening names').toList ++ content'.toList ++ (";\n" ++ bodyEnd).toList := by
      rw [← hbody, ← hbody, h]
    have hopening := List.append_cancel_right hsame
    simpa only [hbefore, hbefore', List.append_assoc, List.cons_append] using hopening
  -- the line of the content is the last one before what stands behind it
  have hline (cs : List Char) (hcs : '\n' ∉ cs) : '\n' ∉ "  return ".toList ++ cs := by
    simpa using hcs
  obtain ⟨-, hlines⟩ := Text.append_cons_inj_last (hline _ hcontent) (hline _ hcontent') hchars
  exact String.toList_inj.mp (List.append_cancel_left hlines)

mutual

/-- The creation of a plain tree is proper. -/
theorem isProper_creation : ∀ {n : Node}, (∀ e ∈ n.elements, IsPlainElement e) →
    (creation n).IsProper
  | .root children, h => ⟨by simp, allProper_creationAll h⟩
  | .element tag attributes children, h => by
    obtain ⟨hplain, hchildren⟩ := List.forall_mem_cons.mp h
    refine ⟨fun p hp => ?_, allProper_creationAll hchildren⟩
    obtain ⟨entry, hentry, rfl⟩ := List.mem_map.mp hp
    exact fun hname => hplain.noChildren entry hentry (eq_of_propertyName_eq (by decide) hname)
  | .leaf _ _, _ => trivial

theorem allProper_creationAll : ∀ {ns : List Node}, (∀ e ∈ Node.elementsAll ns, IsPlainElement e) →
    Creation.AllProper (creationAll ns)
  | [], _ => trivial
  | n :: rest, h => by
    obtain ⟨hfirst, hrest⟩ := List.forall_mem_append.mp h
    exact ⟨isProper_creation hfirst, allProper_creationAll hrest⟩

end

/-- Plain trees have the same function body if and only if they create the same: the same texts,
fragments and elements in the same order, with properties that have the same names and the same
values. -/
theorem functionBody_eq_iff_creation_eq {n m : Node} (hn : IsPlain n) (hm : IsPlain m) :
    functionBody n = functionBody m ↔ creation n = creation m := by
  rw [functionBody_eq_of_isPlain hn, functionBody_eq_of_isPlain hm]
  constructor
  · intro hbody
    have hcode := bodyOf_content_inj (newline_notMem_code _) (newline_notMem_code _) hbody
    have hread := uniquelyRead (isProper_creation hn.elements)
    exact (hread _ (isProper_creation hm.elements) [] [] (by rw [hcode])).1
  · intro hcreation
    rw [hcreation]

/-- A paragraph with a list of classes and an empty attribute that means `true`. -/
def classedParagraph : Node :=
  .root [.element "p" ⟨[("class", .list ["note", "wide"]), ("hidden", .text "")], by decide⟩
    [.text "See ", .element "Chart" ∅ [.text "one"]]]

/-- The same paragraph with the classes as a text, under the name of the property. -/
def renamedParagraph : Node :=
  .root [.element "p" ⟨[("className", .text "note wide"), ("hidden", .text "")], by decide⟩
    [.text "See ", .element "Chart" ∅ [.text "one"]]]

/-- Both paragraphs create the same, so that they have the same body. -/
theorem functionBody_classedParagraph :
    IsPlain classedParagraph ∧ IsPlain renamedParagraph ∧
      functionBody classedParagraph = functionBody renamedParagraph := by
  have hchart : IsPlainElement ⟨"Chart", ∅, [.text "one"]⟩ :=
    ⟨fun h => absurd h (by decide), fun _ h => absurd h List.not_mem_nil,
      fun _ h => absurd h List.not_mem_nil⟩
  have hclassed : IsPlain classedParagraph := by
    refine ⟨by decide, List.forall_mem_cons.mpr ⟨?_, List.forall_mem_singleton.mpr hchart⟩⟩
    exact ⟨fun _ => ⟨by decide, by simp⟩, by simp, by simp⟩
  have hrenamed : IsPlain renamedParagraph := by
    refine ⟨by decide, List.forall_mem_cons.mpr ⟨?_, List.forall_mem_singleton.mpr hchart⟩⟩
    exact ⟨fun _ => ⟨by decide, by simp⟩, by simp, by simp⟩
  have hproperties : [("class", .list ["note", "wide"]), ("hidden", .text "")].map
        (plainProperty (!isComponent "p")) =
      [("className", .text "note wide"), ("hidden", .text "")].map
        (plainProperty (!isComponent "p")) := by
    decide +kernel
  have hcreation : creation classedParagraph = creation renamedParagraph :=
    congrArg (fun properties => Creation.call .fragment []
      [Creation.call (.element "p") properties (creationAll [.text "See ",
        .element "Chart" ∅ [.text "one"]])]) hproperties
  exact ⟨hclassed, hrenamed, (functionBody_eq_iff_creation_eq hclassed hrenamed).mpr hcreation⟩

end Manuscript.Script
