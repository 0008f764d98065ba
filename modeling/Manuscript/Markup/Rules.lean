import Manuscript.Markup.Builder
import Manuscript.Markup.ForeignNames
import Manuscript.Markup.DocumentMode

/-!
# The rules of tree construction

What a token does to the tree in each insertion mode. A rule either finishes with the token or hands it
on to another mode.

## Main definitions

* `step` — the rules of an insertion mode
* `stepForeign` — the rules within vector images and formulas
* `process` — all that a token does
-/

namespace Manuscript.Markup

/-- What a rule comes to. -/
inductive Outcome where
  /-- The token has been dealt with. -/
  | done
  /-- The token goes to another mode. -/
  | reprocess (mode : Mode) (token : Token)
  /-- The token is looked at again. -/
  | again (token : Token)
  deriving Inhabited

/-- Whether a text is blank. -/
def isBlankRun (text : String) : Bool := text.toList.all isMarkupBlank

/-- Whether the type of an input field is `hidden`. -/
def Tag.isHidden (tag : Tag) : Bool :=
  (tag.attributes.lookup "type").any fun value =>
    String.ofList (value.toList.map Char.toLower) = "hidden"

/-! ### Head -/

/-- The end of a template. -/
def endTemplate : Build Unit := do
  if ← isOpen "template" then
    impliedEnd thoroughImpliedEndNames ""
    popThroughNamed "template"
    clearFormatting
    modify fun b => { b with templateModes := b.templateModes.drop 1 }
    resetMode

/-- A start tag of `html` where the element exists: it only adds attributes. -/
def mergeRoot (tag : Tag) : Build Unit := do
  if !(← isOpen "template") then
    let b ← get
    match b.stack.getLast? with
    | some root => Build.onDraft fun d => d.addMissingAttributes root tag.attributes
    | none => pure ()

/-- The start tags of `inHead` that stand for something in the head. -/
def headTags : List String := [
  "base", "basefont", "bgsound", "link", "meta", "noframes", "script", "style", "template", "title"]

/-- A start tag of something in the head. -/
def startInHead (tag : Tag) : Build Unit := do
  match tag.name with
  | "base" | "basefont" | "bgsound" | "link" | "meta" => do let _ ← insertVoid tag
  | "title" => insertRaw tag .escapableText
  | "noframes" | "style" | "noscript" => insertRaw tag .rawText
  | "script" => insertRaw tag .script
  | _ => do
    openElement tag
    pushMarker
    Build.refuseFrameset
    Build.setMode .inTemplate
    modify fun b => { b with templateModes := .inTemplate :: b.templateModes }

/-- The rules of `inHead`. -/
def inHead (token : Token) : Build Outcome := do
  let leave : Build Outcome := do
    pop
    return .reprocess .afterHead token
  match token with
  | .text t =>
    if isBlankRun t then
      insertText t
      return .done
    else leave
  | .comment t => do
    insertComment t
    return .done
  | .startTag tag =>
    if tag.name = "html" then
      mergeRoot tag
      return .done
    else if headTags.contains tag.name || tag.name = "noscript" then
      startInHead tag
      return .done
    else if tag.name = "head" then return .done
    else leave
  | .endTag tag =>
    match tag.name with
    | "head" => do
      pop
      Build.setMode .afterHead
      return .done
    | "template" => do
      endTemplate
      return .done
    | "body" | "html" | "br" => leave
    | _ => return .done
  | _ => leave

/-! ### Body -/

/-- Puts an element of another vocabulary. -/
def insertForeign (vocabulary : Vocabulary) (tag : Tag) : Build Unit := do
  let tag := match vocabulary with
    | .svg => tag.withSvgAttributes
    | .mathml => tag.withMathAttributes
    | .html => tag
  let tag := tag.withForeignAttributes
  let id ← insertClosed ⟨vocabulary, tag.name⟩ tag.attributes
  if !tag.selfClosing then push id

/-- A start tag of an item: the item that is open in the list is closed first. -/
def startItem (tag : Tag) : Build Unit := do
  Build.refuseFrameset
  let b ← get
  let closable := if tag.name = "li" then ["li"] else ["dd", "dt"]
  let stops := specialNames.filter fun n => !(["address", "div", "p"].contains n)
  let found := b.stack.find? fun id =>
    let n := b.draft.nameOf id
    n.isHtml closable || n.isHtml stops
  match found.map b.draft.nameOf with
  | some n =>
    if n.isHtml closable then
      impliedEnd impliedEndNames n.name
      popThroughNamed n.name
  | none => pure ()
  closeParagraphInScope
  openElement tag

/-- A start tag of a link: one that is open is closed first. -/
def startAnchor (tag : Tag) : Build Unit := do
  let b ← get
  match b.activeEntries.find? fun e => (b.draft.nameOf e.1).isHtml ["a"] with
  | some (id, _) =>
    adoptionAgency "a"
    removeFormatting id
    removeFromStack id
  | none => pure ()
  reconstructFormatting
  openFormatting tag

/-- A start tag of an element without content within text. -/
def startVoid (tag : Tag) : Build Unit := do
  reconstructFormatting
  let _ ← insertVoid tag
  if !(tag.name = "input" && tag.isHidden) then Build.refuseFrameset

/-- A start tag of a form. -/
def startForm (tag : Tag) : Build Unit := do
  let b ← get
  let inTemplate ← isOpen "template"
  if b.form.isNone || inTemplate then
    closeParagraphInScope
    let id ← insertElement tag
    if !inTemplate then modify fun b => { b with form := some id }

/-- The end tag of a form. -/
def endForm : Build Unit := do
  if ← isOpen "template" then
    if ← namedInScope .ordinary ["form"] then
      impliedEnd impliedEndNames ""
      popThroughNamed "form"
  else
    let form := (← get).form
    modify fun b => { b with form := none }
    match form with
    | none => pure ()
    | some id =>
      if ← inScope .ordinary (· = id) then
        impliedEnd impliedEndNames ""
        removeFromStack id

/-- A start tag of `body` where the element exists: it only adds attributes. -/
def mergeBody (tag : Tag) : Build Unit := do
  let b ← get
  match b.stack.reverse with
  | _ :: body :: _ =>
    if (b.draft.nameOf body).isHtml ["body"] && !(← isOpen "template") then
      Build.refuseFrameset
      Build.onDraft fun d => d.addMissingAttributes body tag.attributes
  | _ => pure ()

/-- A start tag of a frame set, which may take the place of the body. -/
def replaceBody (tag : Tag) : Build Unit := do
  let b ← get
  match b.stack.reverse with
  | root :: body :: _ =>
    if b.framesetOk && (b.draft.nameOf body).isHtml ["body"] then
      Build.onDraft fun d => d.detach body
      modify fun b => { b with stack := [root] }
      openElement tag
      Build.setMode .inFrameset
  | _ => pure ()

/-- The start tags of blocks, which end a paragraph. -/
def blockTags : List String := [
  "address", "article", "aside", "blockquote", "center", "details", "dialog", "dir", "div", "dl",
  "fieldset", "figcaption", "figure", "footer", "header", "hgroup", "main", "menu", "nav", "ol",
  "p", "section", "summary", "ul"]

/-- The end tags of blocks, which close what is open in them. -/
def blockEndTags : List String := [
  "address", "article", "aside", "blockquote", "button", "center", "details", "dialog", "dir",
  "div", "dl", "fieldset", "figcaption", "figure", "footer", "header", "hgroup", "listing", "main",
  "menu", "nav", "ol", "pre", "section", "summary", "ul"]

/-- The formatting elements. -/
def formattingTags : List String := [
  "b", "big", "code", "em", "font", "i", "s", "small", "strike", "strong", "tt", "u"]

/-- A start tag in the body. -/
def startInBody (tag : Tag) : Build Unit := do
  let name := tag.name
  if name = "html" then mergeRoot tag
  else if headTags.contains name then startInHead tag
  else if name = "body" then mergeBody tag
  else if name = "frameset" then replaceBody tag
  else if blockTags.contains name then
    closeParagraphInScope
    openElement tag
  else if headingNames.contains name then
    closeParagraphInScope
    if ← currentIs headingNames then pop
    openElement tag
  else if name = "pre" || name = "listing" then
    closeParagraphInScope
    openElement tag
    modify fun b => { b with skipLineFeed := true, framesetOk := false }
  else if name = "form" then startForm tag
  else if ["li", "dd", "dt"].contains name then startItem tag
  else if name = "plaintext" then
    closeParagraphInScope
    openElement tag
    modify fun b => { b with switch := some .plainText }
  else if name = "button" then
    if ← namedInScope .ordinary ["button"] then
      impliedEnd impliedEndNames ""
      popThroughNamed "button"
    reconstructFormatting
    openElement tag
    Build.refuseFrameset
  else if name = "a" then startAnchor tag
  else if formattingTags.contains name then
    reconstructFormatting
    openFormatting tag
  else if name = "nobr" then
    reconstructFormatting
    if ← namedInScope .ordinary ["nobr"] then
      adoptionAgency "nobr"
      reconstructFormatting
    openFormatting tag
  else if ["applet", "marquee", "object"].contains name then
    reconstructFormatting
    openElement tag
    pushMarker
    Build.refuseFrameset
  else if name = "table" then
    if !(← get).quirks then closeParagraphInScope
    openElement tag
    Build.refuseFrameset
    Build.setMode .inTable
  else if ["area", "br", "embed", "img", "keygen", "wbr", "input"].contains name then startVoid tag
  else if name = "image" then startVoid { tag with name := "img" }
  else if ["param", "source", "track"].contains name then
    let _ ← insertVoid tag
  else if name = "hr" then
    closeParagraphInScope
    let _ ← insertVoid tag
    Build.refuseFrameset
  else if name = "textarea" then
    modify fun b => { b with skipLineFeed := true, framesetOk := false }
    insertRaw tag .escapableText
  else if name = "xmp" then
    closeParagraphInScope
    reconstructFormatting
    Build.refuseFrameset
    insertRaw tag .rawText
  else if name = "iframe" then
    Build.refuseFrameset
    insertRaw tag .rawText
  else if name = "noembed" || name = "noscript" then insertRaw tag .rawText
  else if name = "select" then
    reconstructFormatting
    openElement tag
    Build.refuseFrameset
    let mode := (← get).mode
    let inTable := [Mode.inTable, .inCaption, .inTableBody, .inRow, .inCell].contains mode
    Build.setMode (if inTable then .inSelectInTable else .inSelect)
  else if name = "optgroup" || name = "option" then
    if ← currentIs ["option"] then pop
    reconstructFormatting
    openElement tag
  else if name = "rb" || name = "rtc" then
    if ← namedInScope .ordinary ["ruby"] then impliedEnd impliedEndNames ""
    openElement tag
  else if name = "rp" || name = "rt" then
    if ← namedInScope .ordinary ["ruby"] then impliedEnd impliedEndNames "rtc"
    openElement tag
  else if name = "math" then insertForeign .mathml tag
  else if name = "svg" then insertForeign .svg tag
  else if ["caption", "col", "colgroup", "frame", "head", "tbody", "td", "tfoot", "th", "thead",
      "tr"].contains name then pure ()
  else
    reconstructFormatting
    openElement tag

/-- An end tag in the body, other than those of the body itself. -/
def endInBody (tag : Tag) : Build Unit := do
  let name := tag.name
  if name = "template" then endTemplate
  else if blockEndTags.contains name then
    if ← namedInScope .ordinary [name] then
      impliedEnd impliedEndNames ""
      popThroughNamed name
  else if name = "form" then endForm
  else if name = "p" then
    if !(← namedInScope .button ["p"]) then openPhantom "p"
    closeParagraph
  else if name = "li" || name = "dd" || name = "dt" then
    if ← namedInScope (if name = "li" then .listItem else .ordinary) [name] then
      impliedEnd impliedEndNames name
      popThroughNamed name
  else if headingNames.contains name then
    if ← namedInScope .ordinary headingNames then
      impliedEnd impliedEndNames ""
      popThrough (·.isHtml headingNames)
  else if formattingTags.contains name || name = "a" || name = "nobr" then adoptionAgency name
  else if ["applet", "marquee", "object"].contains name then
    if ← namedInScope .ordinary [name] then
      impliedEnd impliedEndNames ""
      popThroughNamed name
      clearFormatting
  else if name = "br" then startVoid { name := "br" }
  else closeOrdinary name

/-- The end of the input within a template. -/
def eofInTemplate : Build Outcome := do
  if ← isOpen "template" then
    popThroughNamed "template"
    clearFormatting
    modify fun b => { b with templateModes := b.templateModes.drop 1 }
    resetMode
    return .reprocess (← fittingMode) .eof
  else return .done

/-- The rules of `inBody`. -/
def inBody (token : Token) : Build Outcome := do
  match token with
  | .null | .doctype _ => return .done
  | .text t => do
    reconstructFormatting
    if !isBlankRun t then Build.refuseFrameset
    insertText t
    return .done
  | .comment t => do
    insertComment t
    return .done
  | .startTag tag => do
    startInBody tag
    return .done
  | .endTag tag =>
    if tag.name = "body" || tag.name = "html" then
      if ← namedInScope .ordinary ["body"] then
        if tag.name = "html" then return .reprocess .afterBody token
        Build.setMode .afterBody
      return .done
    else
      endInBody tag
      return .done
  | .eof =>
    if (← get).templateModes.isEmpty then return .done else eofInTemplate

/-! ### Before and after -/

/-- The rules of `initial`. -/
def initial (token : Token) : Build Outcome := do
  match token with
  | .text t =>
    if isBlankRun t then return .done
    modify fun b => { b with quirks := true }
    return .reprocess .beforeHtml token
  | .comment t => do
    appendComment (← get).document t
    return .done
  | _ => do
    modify fun b => { b with quirks := true }
    return .reprocess .beforeHtml token

/-- The end tags that act like any other token before the body. -/
def earlyEndTags : List String := ["head", "body", "html", "br"]

/-- The rules of `beforeHtml`. -/
def beforeHtml (token : Token) : Build Outcome := do
  let goOn : Build Outcome := do
    createRoot []
    return .reprocess .beforeHead token
  match token with
  | .text t => if isBlankRun t then return .done else goOn
  | .comment t => do
    appendComment (← get).document t
    return .done
  | .startTag tag =>
    if tag.name = "html" then
      createRoot tag.attributes
      Build.setMode .beforeHead
      return .done
    else goOn
  | .endTag tag => if earlyEndTags.contains tag.name then goOn else return .done
  | _ => goOn

/-- The rules of `beforeHead`. -/
def beforeHead (token : Token) : Build Outcome := do
  let goOn : Build Outcome := do
    let id ← insertElement { name := "head" }
    modify fun b => { b with head := some id }
    return .reprocess .inHead token
  match token with
  | .text t => if isBlankRun t then return .done else goOn
  | .comment t => do
    insertComment t
    return .done
  | .startTag tag =>
    if tag.name = "html" then
      mergeRoot tag
      return .done
    else if tag.name = "head" then
      let id ← insertElement tag
      modify fun b => { b with head := some id }
      Build.setMode .inHead
      return .done
    else goOn
  | .endTag tag => if earlyEndTags.contains tag.name then goOn else return .done
  | _ => goOn

/-- The rules of `afterHead`. -/
def afterHead (token : Token) : Build Outcome := do
  let goOn : Build Outcome := do
    openPhantom "body"
    return .reprocess .inBody token
  match token with
  | .text t =>
    if isBlankRun t then
      insertText t
      return .done
    else goOn
  | .comment t => do
    insertComment t
    return .done
  | .startTag tag =>
    if tag.name = "html" then
      mergeRoot tag
      return .done
    else if tag.name = "body" then
      openElement tag
      Build.refuseFrameset
      Build.setMode .inBody
      return .done
    else if tag.name = "frameset" then
      openElement tag
      Build.setMode .inFrameset
      return .done
    else if headTags.contains tag.name then
      match (← get).head with
      | some head =>
        push head
        startInHead tag
        removeFromStack head
      | none => startInHead tag
      return .done
    else if tag.name = "head" then return .done
    else goOn
  | .endTag tag =>
    if tag.name = "template" then
      endTemplate
      return .done
    else if ["body", "html", "br"].contains tag.name then goOn
    else return .done
  | _ => goOn

/-- The rules of `afterBody`. -/
def afterBody (token : Token) : Build Outcome := do
  match token with
  | .text t => if isBlankRun t then inBody token else return .reprocess .inBody token
  | .comment t => do
    let b ← get
    appendComment (b.stack.getLast?.getD b.document) t
    return .done
  | .startTag tag =>
    if tag.name = "html" then inBody token else return .reprocess .inBody token
  | .endTag tag =>
    if tag.name = "html" then
      if !(← get).fragment then Build.setMode .afterAfterBody
      return .done
    else return .reprocess .inBody token
  | .eof => return .done
  | _ => return .reprocess .inBody token

/-- The rules of `afterAfterBody`. -/
def afterAfterBody (token : Token) : Build Outcome := do
  match token with
  | .text t => if isBlankRun t then inBody token else return .reprocess .inBody token
  | .comment t => do
    appendComment (← get).document t
    return .done
  | .startTag tag =>
    if tag.name = "html" then inBody token else return .reprocess .inBody token
  | .eof => return .done
  | _ => return .reprocess .inBody token

/-! ### Text -/

/-- The rules of `text`. -/
def inText (token : Token) : Build Outcome := do
  match token with
  | .text t => do
    insertText t
    return .done
  | .eof => do
    pop
    let b ← get
    return .reprocess b.returnMode token
  | .endTag _ => do
    pop
    modify fun b => { b with mode := b.returnMode }
    return .done
  | _ => return .done

/-! ### Tables -/

/-- The rules of `inBody`, with nodes put before the table where they may not stand in it. -/
def fosterInBody (token : Token) : Build Outcome := do
  modify fun b => { b with fosterParenting := true }
  let outcome ← inBody token
  modify fun b => { b with fosterParenting := false }
  return outcome

/-- The parts of a table outside of its cells. -/
def tableParts : List String := ["table", "tbody", "tfoot", "thead", "tr"]

/-- A start tag in a table. -/
def startInTable (tag : Tag) : Build Outcome := do
  let token := Token.startTag tag
  match tag.name with
  | "caption" => do
    popUntil ["html", "table", "template"]
    pushMarker
    openElement tag
    Build.setMode .inCaption
    return .done
  | "colgroup" => do
    popUntil ["html", "table", "template"]
    openElement tag
    Build.setMode .inColumnGroup
    return .done
  | "col" => do
    popUntil ["html", "table", "template"]
    openPhantom "colgroup"
    return .reprocess .inColumnGroup token
  | "tbody" | "tfoot" | "thead" => do
    popUntil ["html", "table", "template"]
    openElement tag
    Build.setMode .inTableBody
    return .done
  | "td" | "th" | "tr" => do
    popUntil ["html", "table", "template"]
    openPhantom "tbody"
    return .reprocess .inTableBody token
  | "table" =>
    if ← namedInScope .table ["table"] then
      popThroughNamed "table"
      return .reprocess (← fittingMode) token
    else return .done
  | "style" | "script" | "template" => do
    startInHead tag
    return .done
  | "input" =>
    if tag.isHidden then
      let _ ← insertVoid tag
      return .done
    else fosterInBody token
  | "form" => do
    if !(← isOpen "template") && (← get).form.isNone then
      let id ← insertVoid tag
      modify fun b => { b with form := some id }
    return .done
  | _ => fosterInBody token

/-- The rules of `inTable`. -/
def inTable (token : Token) : Build Outcome := do
  match token with
  | .null | .text _ =>
    if ← currentIs tableParts then
      modify fun b => { b with returnMode := b.mode }
      return .reprocess .inTableText token
    else fosterInBody token
  | .comment t => do
    insertComment t
    return .done
  | .startTag tag => startInTable tag
  | .endTag tag =>
    match tag.name with
    | "table" => do
      if ← namedInScope .table ["table"] then
        popThroughNamed "table"
        resetMode
      return .done
    | "template" => do
      endTemplate
      return .done
    | "body" | "caption" | "col" | "colgroup" | "html" | "tbody" | "td" | "tfoot" | "th"
    | "thead" | "tr" => return .done
    | _ => fosterInBody token
  | .eof => inBody token
  | .doctype _ => return .done

/-- Puts texts met in a table, earliest first, before it. -/
def fosterTexts : List String → Build Unit
  | [] => pure ()
  | t :: rest => do
    let _ ← fosterInBody (.text t)
    fosterTexts rest

/-- Puts texts where the next node goes, earliest first. -/
def insertTexts : List String → Build Unit
  | [] => pure ()
  | t :: rest => do
    insertText t
    insertTexts rest

/-- The rules of `inTableText`. -/
def inTableText (token : Token) : Build Outcome := do
  match token with
  | .null => return .done
  | .text t => do
    modify fun b => { b with pendingText := t :: b.pendingText }
    return .done
  | _ => do
    let texts := (← get).pendingText.reverse
    modify fun b => { b with pendingText := [] }
    if texts.all isBlankRun then insertTexts texts else fosterTexts texts
    return .reprocess (← get).returnMode token

/-- The rules of `inCaption`. -/
def inCaption (token : Token) : Build Outcome := do
  let close (outcome : Build Outcome) : Build Outcome := do
    if ← namedInScope .table ["caption"] then
      impliedEnd impliedEndNames ""
      popThroughNamed "caption"
      clearFormatting
      outcome
    else return .done
  match token with
  | .startTag tag =>
    if ["caption", "col", "colgroup", "tbody", "td", "tfoot", "th", "thead", "tr"].contains
        tag.name then
      close (return .reprocess .inTable token)
    else inBody token
  | .endTag tag =>
    match tag.name with
    | "table" => close (return .reprocess .inTable token)
    | "caption" => close do
      Build.setMode .inTable
      return .done
    | "body" | "col" | "colgroup" | "html" | "tbody" | "td" | "tfoot" | "th" | "thead" | "tr" =>
      return .done
    | _ => inBody token
  | _ => inBody token

/-- The rules of `inColumnGroup`. -/
def inColumnGroup (token : Token) : Build Outcome := do
  let leave : Build Outcome := do
    if ← currentIs ["colgroup"] then
      pop
      return .reprocess .inTable token
    else return .done
  match token with
  | .text t =>
    if isBlankRun t then
      insertText t
      return .done
    else leave
  | .comment t => do
    insertComment t
    return .done
  | .startTag tag =>
    match tag.name with
    | "html" => inBody token
    | "col" => do
      let _ ← insertVoid tag
      return .done
    | "template" => do
      startInHead tag
      return .done
    | _ => leave
  | .endTag tag =>
    match tag.name with
    | "colgroup" => do
      if ← currentIs ["colgroup"] then
        pop
        Build.setMode .inTable
      return .done
    | "col" => return .done
    | "template" => do
      endTemplate
      return .done
    | _ => leave
  | .eof => inBody token
  | _ => leave

/-- The elements that a row is put into. -/
def bodyContext : List String := ["tbody", "tfoot", "thead", "template", "html"]

/-- The elements that a cell is put into. -/
def rowContext : List String := ["tr", "template", "html"]

/-- The rules of `inTableBody`. -/
def inTableBody (token : Token) : Build Outcome := do
  let leave : Build Outcome := do
    if ← namedInScope .table ["table", "tbody", "tfoot"] then
      popUntil bodyContext
      pop
      return .reprocess .inTable token
    else return .done
  match token with
  | .startTag tag =>
    match tag.name with
    | "tr" => do
      popUntil bodyContext
      openElement tag
      Build.setMode .inRow
      return .done
    | "th" | "td" => do
      popUntil bodyContext
      openPhantom "tr"
      return .reprocess .inRow token
    | "caption" | "col" | "colgroup" | "tbody" | "tfoot" | "thead" => leave
    | _ => inTable token
  | .endTag tag =>
    match tag.name with
    | "tbody" | "tfoot" | "thead" => do
      if ← namedInScope .table [tag.name] then
        popUntil bodyContext
        pop
        Build.setMode .inTable
      return .done
    | "table" => leave
    | "body" | "caption" | "col" | "colgroup" | "html" | "td" | "th" | "tr" => return .done
    | _ => inTable token
  | _ => inTable token

/-- The rules of `inRow`. -/
def inRow (token : Token) : Build Outcome := do
  let closeRow : Build Unit := do
    popUntil rowContext
    pop
  let leave : Build Outcome := do
    if ← namedInScope .table ["tr"] then
      closeRow
      return .reprocess .inTableBody token
    else return .done
  match token with
  | .startTag tag =>
    match tag.name with
    | "th" | "td" => do
      popUntil rowContext
      openElement tag
      Build.setMode .inCell
      pushMarker
      return .done
    | "caption" | "col" | "colgroup" | "tbody" | "tfoot" | "thead" | "tr" => leave
    | _ => inTable token
  | .endTag tag =>
    match tag.name with
    | "tr" => do
      if ← namedInScope .table ["tr"] then
        closeRow
        Build.setMode .inTableBody
      return .done
    | "table" => leave
    | "tbody" | "tfoot" | "thead" =>
      if ← namedInScope .table [tag.name] then leave else return .done
    | "body" | "caption" | "col" | "colgroup" | "html" | "td" | "th" => return .done
    | _ => inTable token
  | _ => inTable token

/-- The rules of `inCell`. -/
def inCell (token : Token) : Build Outcome := do
  let closeCell : Build Outcome := do
    impliedEnd impliedEndNames ""
    popThrough (·.isHtml ["td", "th"])
    clearFormatting
    return .reprocess .inRow token
  match token with
  | .startTag tag =>
    if ["caption", "col", "colgroup", "tbody", "td", "tfoot", "th", "thead", "tr"].contains
        tag.name then
      if ← namedInScope .table ["td", "th"] then closeCell else return .done
    else inBody token
  | .endTag tag =>
    match tag.name with
    | "td" | "th" => do
      if ← namedInScope .table [tag.name] then
        impliedEnd impliedEndNames ""
        popThroughNamed tag.name
        clearFormatting
        Build.setMode .inRow
      return .done
    | "body" | "caption" | "col" | "colgroup" | "html" => return .done
    | "table" | "tbody" | "tfoot" | "thead" | "tr" =>
      if ← namedInScope .table [tag.name] then closeCell else return .done
    | _ => inBody token
  | _ => inBody token

/-! ### Select -/

/-- The rules of `inSelect`. -/
def inSelect (token : Token) : Build Outcome := do
  match token with
  | .null | .doctype _ => return .done
  | .text t => do
    insertText t
    return .done
  | .comment t => do
    insertComment t
    return .done
  | .startTag tag =>
    match tag.name with
    | "html" => inBody token
    | "option" => do
      if ← currentIs ["option"] then pop
      openElement tag
      return .done
    | "optgroup" => do
      if ← currentIs ["option"] then pop
      if ← currentIs ["optgroup"] then pop
      openElement tag
      return .done
    | "select" => do
      if ← namedInScope .select ["select"] then
        popThroughNamed "select"
        resetMode
      return .done
    | "input" | "keygen" | "textarea" =>
      if ← namedInScope .select ["select"] then
        popThroughNamed "select"
        return .reprocess (← fittingMode) token
      else return .done
    | "script" | "template" => do
      startInHead tag
      return .done
    | _ => return .done
  | .endTag tag =>
    match tag.name with
    | "optgroup" => do
      let b ← get
      let parentIsGroup := (b.stack[1]?).any fun id => (b.draft.nameOf id).isHtml ["optgroup"]
      if (← currentIs ["option"]) && parentIsGroup then pop
      if ← currentIs ["optgroup"] then pop
      return .done
    | "option" => do
      if ← currentIs ["option"] then pop
      return .done
    | "select" => do
      if ← namedInScope .select ["select"] then
        popThroughNamed "select"
        resetMode
      return .done
    | "template" => do
      endTemplate
      return .done
    | _ => return .done
  | .eof => inBody token

/-- The rules of `inSelectInTable`. -/
def inSelectInTable (token : Token) : Build Outcome := do
  let parts := ["caption", "table", "tbody", "tfoot", "thead", "tr", "td", "th"]
  let leave : Build Outcome := do
    popThroughNamed "select"
    return .reprocess (← fittingMode) token
  match token with
  | .startTag tag => if parts.contains tag.name then leave else inSelect token
  | .endTag tag =>
    if parts.contains tag.name then
      if ← namedInScope .table [tag.name] then leave else return .done
    else inSelect token
  | _ => inSelect token

/-! ### Templates and frames -/

/-- The rules of `inTemplate`. -/
def inTemplate (token : Token) : Build Outcome := do
  let goOn (mode : Mode) : Build Outcome := do
    modify fun b => { b with templateModes := mode :: b.templateModes.drop 1 }
    return .reprocess mode token
  match token with
  | .text _ | .comment _ => inBody token
  | .startTag tag =>
    if headTags.contains tag.name then
      startInHead tag
      return .done
    else match tag.name with
      | "caption" | "colgroup" | "tbody" | "tfoot" | "thead" => goOn .inTable
      | "col" => goOn .inColumnGroup
      | "tr" => goOn .inTableBody
      | "td" | "th" => goOn .inRow
      | _ => goOn .inBody
  | .endTag tag => do
    if tag.name = "template" then endTemplate
    return .done
  | .eof => eofInTemplate
  | _ => return .done

/-- The rules of `inFrameset`. -/
def inFrameset (token : Token) : Build Outcome := do
  match token with
  | .text t => do
    if isBlankRun t then insertText t
    return .done
  | .comment t => do
    insertComment t
    return .done
  | .startTag tag =>
    match tag.name with
    | "html" => inBody token
    | "frameset" => do
      openElement tag
      return .done
    | "frame" => do
      let _ ← insertVoid tag
      return .done
    | "noframes" => do
      startInHead tag
      return .done
    | _ => return .done
  | .endTag tag => do
    if tag.name = "frameset" then
      let b ← get
      if b.stack.length ≠ 1 then
        pop
        if !b.fragment && !(← currentIs ["frameset"]) then Build.setMode .afterFrameset
    return .done
  | _ => return .done

/-- The rules of `afterFrameset`. -/
def afterFrameset (token : Token) : Build Outcome := do
  match token with
  | .text t => do
    if isBlankRun t then insertText t
    return .done
  | .comment t => do
    insertComment t
    return .done
  | .startTag tag =>
    match tag.name with
    | "html" => inBody token
    | "noframes" => do
      startInHead tag
      return .done
    | _ => return .done
  | .endTag tag => do
    if tag.name = "html" then Build.setMode .afterAfterFrameset
    return .done
  | _ => return .done

/-- The rules of `afterAfterFrameset`. -/
def afterAfterFrameset (token : Token) : Build Outcome := do
  match token with
  | .text t => if isBlankRun t then inBody token else return .done
  | .comment t => do
    appendComment (← get).document t
    return .done
  | .startTag tag =>
    match tag.name with
    | "html" => inBody token
    | "noframes" => do
      startInHead tag
      return .done
    | _ => return .done
  | _ => return .done

/-- The rules of an insertion mode. -/
def step : Mode → Token → Build Outcome
  | .initial => initial
  | .beforeHtml => beforeHtml
  | .beforeHead => beforeHead
  | .inHead => inHead
  | .afterHead => afterHead
  | .inBody => inBody
  | .text => inText
  | .inTable => inTable
  | .inTableText => inTableText
  | .inCaption => inCaption
  | .inColumnGroup => inColumnGroup
  | .inTableBody => inTableBody
  | .inRow => inRow
  | .inCell => inCell
  | .inSelect => inSelect
  | .inSelectInTable => inSelectInTable
  | .inTemplate => inTemplate
  | .afterBody => afterBody
  | .inFrameset => inFrameset
  | .afterFrameset => afterFrameset
  | .afterAfterBody => afterAfterBody
  | .afterAfterFrameset => afterAfterFrameset

/-! ### Vector images and formulas -/

/-- The start tags that end a vector image or a formula. -/
def breakoutTags : List String := [
  "b", "big", "blockquote", "body", "br", "center", "code", "dd", "div", "dl", "dt", "em", "embed",
  "h1", "h2", "h3", "h4", "h5", "h6", "head", "hr", "i", "img", "li", "listing", "menu", "meta",
  "nobr", "ol", "p", "pre", "ruby", "s", "small", "span", "strong", "strike", "sub", "sup", "table",
  "tt", "u", "ul", "var"]

/-- Whether a start tag ends a vector image or a formula. -/
def Tag.breaksOut (tag : Tag) : Bool :=
  breakoutTags.contains tag.name ||
    (tag.name = "font" &&
      tag.attributes.any fun (name, _) => ["color", "face", "size"].contains name)

/-- A start tag within a vector image or a formula. -/
def startForeign (tag : Tag) : Build Unit := do
  let vocabulary := (← currentName).vocabulary
  insertForeign vocabulary (if vocabulary = .svg then tag.withSvgName else tag)

/-- The open elements, innermost first, without those up to the border of the vector image or
formula. -/
def Builder.outsideForeign (b : Builder) (stack : List Nat) : List Nat :=
  stack.dropWhile fun id =>
    let n := b.draft.nameOf id
    !(n.vocabulary = .html || n.isMathText || n.holdsHtml)

/-- An end tag within a vector image or a formula: it closes the element of its name, in any case of
its letters, or is left to HTML if an element of HTML is met first. -/
def endForeign (tag : Tag) (first : Bool) : List Nat → Build Outcome
  | [] | [_] => return .done
  | id :: rest => do
    let b ← get
    let n := b.draft.nameOf id
    if !first && n.vocabulary = .html then step b.mode (.endTag tag)
    else if String.ofList (n.name.toList.map Char.toLower) = tag.name then
      set { b with stack := rest }
      return .done
    else endForeign tag false rest

/-- The rules within vector images and formulas. -/
def stepForeign (token : Token) : Build Outcome := do
  match token with
  | .null => do
    insertText (String.singleton replacementChar)
    return .done
  | .text t => do
    if !isBlankRun t then Build.refuseFrameset
    insertText t
    return .done
  | .comment t => do
    insertComment t
    return .done
  | .startTag tag => do
    if tag.breaksOut && !(← get).fragment then
      modify fun b => { b with stack := b.outsideForeign (b.stack.drop 1) }
      return .again token
    else
      startForeign tag
      return .done
  | .endTag tag => endForeign tag true (← get).stack
  | _ => return .done

/-- Whether an `annotation-xml` element holds HTML. -/
def Builder.annotationHoldsHtml (b : Builder) (id : Nat) : Bool :=
  ((b.draft.attributesOf id).lookup "encoding").any fun value =>
    ["text/html", "application/xhtml+xml"].contains
      (String.ofList (value.toList.map Char.toLower))

/-- Whether a token goes by the rules within vector images and formulas. -/
def Builder.isForeign (b : Builder) (token : Token) : Bool :=
  match b.stack with
  | [] => false
  | id :: rest =>
    let n := if rest.isEmpty && b.fragment then ⟨.html, "body"⟩ else b.draft.nameOf id
    if n.vocabulary = .html then false
    else match token with
      | .eof => false
      | .text _ | .null =>
        if n.isMathText || n.holdsHtml then false
        else if n = ⟨.mathml, "annotation-xml"⟩ then !b.annotationHoldsHtml id
        else true
      | .startTag tag =>
        if n.isMathText && tag.name ≠ "mglyph" && tag.name ≠ "malignmark" then false
        else if n.holdsHtml then false
        else if n = ⟨.mathml, "annotation-xml"⟩ then
          tag.name ≠ "svg" && !b.annotationHoldsHtml id
        else true
      | _ => true

/-! ### All together -/

/-- Applies the rules to a token, and to what they hand on, at most `fuel` times. -/
def applyRules : (fuel : Nat) → Token → Build Unit
  | 0, _ => pure ()
  | fuel + 1, token => do
    let b ← get
    match ← if b.isForeign token then stepForeign token else step b.mode token with
    | .done => pure ()
    | .reprocess mode token => do
      Build.setMode mode
      applyRules fuel token
    | .again token => applyRules fuel token

/-- A document type, which counts only at the start. -/
def seeDoctype (d : Doctype) : Build Unit := modify fun b =>
  if b.mode = .initial then { b with quirks := d.isQuirky, mode := .beforeHtml } else b

/-- All that a token does to the tree. A token is handed on once for each mode and each open element
at most. -/
def process (token : Token) : Build Unit := do
  let b ← get
  set { b with skipLineFeed := false, switch := none }
  let fuel := 4 * b.stack.length + 64
  match token with
  | .doctype d => seeDoctype d
  | .text t =>
    match b.skipLineFeed, t.toList with
    | true, '\n' :: rest => if rest.isEmpty then pure () else
        applyRules fuel (.text (String.ofList rest))
    | _, _ => applyRules fuel token
  | _ => applyRules fuel token

end Manuscript.Markup
