import Manuscript.Proofs.Markdown.Content

/-!
# The cells of tables

A row of a table becomes a row with as many cells as it has itself. Cells are not filled up to the
columns of the table, and none are dropped. So a table comes out with the same number of cells in
each row exactly if it has them already, and the cells that are there stand in their columns in any
case: each has the alignment of its column, the cells of the first row are those of the head, and
the content of each is lowered behind that of the cells in front of it.

## Main definitions

* `Lowering.rowContents` — what the cells of rows hold
* `Lowering.tableOf` — a table with given contents and a given width of each row

## Main results

* `Lowering.lowerNode_table` — the table that the walk makes
* `Lowering.tableOf_inj_iff` — a table shows the widths of its rows
* `Lowering.rectangular_lowerNode_iff` — which tables are as wide as their columns
-/

namespace Manuscript.Lowering

/-! ### Tables of given widths -/

/-- The cells of a row of a given width: each has the alignment of its column and the content for
it, and none if there is no content. -/
def rowCells (tag : String) (alignment : List Markdown.Alignment) (contents : List (List Node))
    (width : Nat) : List Node :=
  (List.range width).map fun j =>
    .element tag (alignAttributes alignment[j]?) (contents[j]?.getD [])

/-- A row of a given width. -/
def rowOf (tag : String) (alignment : List Markdown.Alignment) (contents : List (List Node))
    (width : Nat) : Node :=
  .element "tr" ∅ (rowCells tag alignment contents width)

/-- A table with the first row in its head and the others in its body, each of the width that its
contents are given. -/
def tableOf (alignment : List Markdown.Alignment) (width : List (List Node) → Nat) :
    List (List (List Node)) → Node
  | [] => .element "table" ∅ []
  | [head] => .element "table" ∅ [.element "thead" ∅ [rowOf "th" alignment head (width head)]]
  | head :: body => .element "table" ∅ [
      .element "thead" ∅ [rowOf "th" alignment head (width head)],
      .element "tbody" ∅ (body.map fun row => rowOf "td" alignment row (width row))]

/-- What parts hold, one after the other. -/
def partContents (d : Definitions) (p : Progress) : List (List Markdown) → List (List Node)
  | [] => []
  | parts :: rest => (lowerAll d p parts).2 :: partContents d (lowerAll d p parts).1 rest

/-- What the cells of rows hold, row by row. -/
def rowContents (d : Definitions) (p : Progress) : List Markdown → List (List (List Node))
  | [] => []
  | row :: rest =>
    partContents d p (row.children.map Markdown.children) ::
      rowContents d (lowerAll d p (row.children.flatMap Markdown.children)).1 rest

variable {d : Definitions} {p : Progress} {tag : String} {alignment : List Markdown.Alignment}
  {contents : List (List Node)} {row : Markdown} {cells rows : List Markdown} {width other : Nat}

theorem rowCells_succ (tag : String) (alignment : List Markdown.Alignment) (content : List Node)
    (contents : List (List Node)) (width : Nat) :
    rowCells tag alignment (content :: contents) (width + 1) =
      .element tag (alignAttributes alignment.head?) content ::
        rowCells tag alignment.tail contents width := by
  simp [rowCells, List.range_succ_eq_map, List.head?_eq_getElem?]

theorem length_partContents (p : Progress) (parts : List (List Markdown)) :
    (partContents d p parts).length = parts.length := by
  induction parts generalizing p with
  | nil => rfl
  | cons first rest ih => rw [partContents, List.length_cons, ih, List.length_cons]

/-- A row shows its width. -/
theorem rowOf_inj_iff :
    rowOf tag alignment contents width = rowOf tag alignment contents other ↔ width = other := by
  constructor
  · intro h
    obtain ⟨-, -, hcells⟩ := Node.element.inj h
    simpa [rowCells] using congrArg List.length hcells
  · rintro rfl
    rfl

/-- A table shows the widths of its rows. -/
theorem tableOf_inj_iff {f g : List (List Node) → Nat} {rows : List (List (List Node))} :
    tableOf alignment f rows = tableOf alignment g rows ↔ ∀ row ∈ rows, f row = g row := by
  match rows with
  | [] => simp [tableOf]
  | [head] => simp [tableOf, rowOf_inj_iff]
  | head :: row :: body =>
    simp [tableOf, rowOf_inj_iff]

/-! ### The walk through a table -/

theorem lowerAll_append_fst (p : Progress) (ms others : List Markdown) :
    (lowerAll d p (ms ++ others)).1 = (lowerAll d (lowerAll d p ms).1 others).1 := by
  induction ms generalizing p with
  | nil => simp [lowerAll]
  | cons m rest ih => simp [lowerAll, ih]

theorem lowerCells_cons (tag : String) (alignment : List Markdown.Alignment) (p : Progress)
    (children rest : List Markdown) :
    lowerCells d tag alignment p (.branch .tableCell children :: rest) =
      ((lowerCells d tag alignment.tail (lowerAll d p children).1 rest).1,
        .element tag (alignAttributes alignment.head?) (lowerAll d p children).2 ::
          (lowerCells d tag alignment.tail (lowerAll d p children).1 rest).2) := by
  rw [lowerCells]

/-- A row is walked through cell by cell. -/
theorem lowerCells_eq (tag : String) (alignment : List Markdown.Alignment) (p : Progress)
    (hcells : ∀ cell ∈ cells, cell.isCell = true) :
    lowerCells d tag alignment p cells =
      ((lowerAll d p (cells.flatMap Markdown.children)).1,
        rowCells tag alignment (partContents d p (cells.map Markdown.children)) cells.length) := by
  induction cells generalizing alignment p with
  | nil => rfl
  | cons cell rest ih =>
    obtain ⟨hcell, hrest⟩ := List.forall_mem_cons.mp hcells
    match cell, hcell with
    | .branch .tableCell children, _ =>
      rw [lowerCells_cons, ih _ _ hrest, List.flatMap_cons, lowerAll_append_fst, List.map_cons,
        partContents, List.length_cons, rowCells_succ]
      rfl

/-- A row becomes a row of its own width, whose cells have the tag that is given for the first one.
-/
theorem lowerRows_cons (alignment : List Markdown.Alignment) (first : String) (p : Progress)
    (hrow : row.isRow = true) (hcells : ∀ cell ∈ row.children, cell.isCell = true)
    (rest : List Markdown) :
    (lowerRows d alignment first p (row :: rest)).2 =
      rowOf first alignment (partContents d p (row.children.map Markdown.children))
          row.children.length ::
        (lowerRows d alignment "td"
          (lowerAll d p (row.children.flatMap Markdown.children)).1 rest).2 := by
  match row, hrow with
  | .branch .tableRow cells, _ =>
    rw [Markdown.children] at hcells ⊢
    rw [lowerRows, lowerCells_eq _ _ _ hcells]
    rfl

/-- The rows of the body. -/
theorem lowerRows_eq (alignment : List Markdown.Alignment) (p : Progress)
    (hrows : ∀ row ∈ rows, row.isRow = true)
    (hcells : ∀ row ∈ rows, ∀ cell ∈ row.children, cell.isCell = true) :
    (lowerRows d alignment "td" p rows).2 =
      (rowContents d p rows).map fun row => rowOf "td" alignment row row.length := by
  induction rows generalizing p with
  | nil => rfl
  | cons row rest ih =>
    obtain ⟨hrow, hrest⟩ := List.forall_mem_cons.mp hrows
    obtain ⟨hrowCells, hrestCells⟩ := List.forall_mem_cons.mp hcells
    rw [lowerRows_cons _ _ _ hrow hrowCells, ih _ hrest hrestCells, rowContents, List.map_cons,
      length_partContents, List.length_map]

/-- A table becomes a table whose rows have their own widths. -/
theorem lowerNode_table (alignment : List Markdown.Alignment) (p : Progress)
    (hrows : ∀ row ∈ rows, row.isRow = true)
    (hcells : ∀ row ∈ rows, ∀ cell ∈ row.children, cell.isCell = true) :
    (lowerNode d p (.branch (.table alignment) rows)).2 =
      [tableOf alignment List.length (rowContents d p rows)] := by
  have htable : (lowerNode d p (.branch (.table alignment) rows)).2 =
      [tableElement (lowerRows d alignment "th" p rows).2] := by
    rw [lowerNode]
  rw [htable]
  refine congrArg (fun table => [table]) ?_
  cases rows with
  | nil => rfl
  | cons row rest =>
    obtain ⟨hrow, hrest⟩ := List.forall_mem_cons.mp hrows
    obtain ⟨hrowCells, hrestCells⟩ := List.forall_mem_cons.mp hcells
    rw [lowerRows_cons _ _ _ hrow hrowCells, lowerRows_eq _ _ hrest hrestCells, rowContents]
    -- the body is left out if there is no row for it
    cases rest with
    | nil => simp [tableElement, rowContents, tableOf, length_partContents]
    | cons next others => simp [tableElement, rowContents, tableOf, length_partContents]

/-- The widths of the contents are those of the rows. -/
theorem map_length_rowContents (p : Progress) (rows : List Markdown) :
    (rowContents d p rows).map List.length = rows.map (·.children.length) := by
  induction rows generalizing p with
  | nil => rfl
  | cons row rest ih =>
    rw [rowContents, List.map_cons, ih, length_partContents, List.length_map, List.map_cons]

/-- A table becomes a table whose rows have as many cells as they had: the first row stands in the
head and the others in the body, in order, and each cell has the alignment of its column and its own
content. So it has one cell for each column in every row, where missing cells are empty and cells
behind the last column are dropped, if and only if each of its rows has one cell for each column. -/
theorem rectangular_lowerNode_iff (d : Definitions) (p : Progress)
    (alignment : List Markdown.Alignment) (rows : List Markdown)
    (hrows : ∀ row ∈ rows, row.isRow = true)
    (hcells : ∀ row ∈ rows, ∀ cell ∈ row.children, cell.isCell = true) :
    (lowerNode d p (.branch (.table alignment) rows)).2 =
        [tableOf alignment List.length (rowContents d p rows)] ∧
      ((lowerNode d p (.branch (.table alignment) rows)).2 =
          [tableOf alignment (fun _ => alignment.length) (rowContents d p rows)] ↔
        ∀ row ∈ rows, row.children.length = alignment.length) := by
  refine ⟨lowerNode_table alignment p hrows hcells, ?_⟩
  rw [lowerNode_table alignment p hrows hcells, List.singleton_inj, tableOf_inj_iff]
  -- both sides speak of the list of all widths
  have hcontents : (∀ row ∈ rowContents d p rows, row.length = alignment.length) ↔
      ∀ n ∈ (rowContents d p rows).map List.length, n = alignment.length := by simp
  rw [hcontents, map_length_rowContents]
  simp

/-- A table with two columns, in which the second row has one cell. -/
def priceList : List Markdown := [
  .branch .tableRow [
    .branch .tableCell [.leaf (.text "Bread")], .branch .tableCell [.leaf (.text "2")]],
  .branch .tableRow [.branch .tableCell [.leaf (.text "Salt")]]]

/-- The list becomes a table with two cells in the head and one in the body. -/
theorem rectangular_lowerNode_iff_priceList :
    (∀ row ∈ priceList, row.isRow = true) ∧
      (∀ row ∈ priceList, ∀ cell ∈ row.children, cell.isCell = true) ∧
      (lowerNode ⟨[], []⟩ {} (.branch (.table [.left, .unset]) priceList)).2 =
        [.element "table" ∅ [
          .element "thead" ∅ [.element "tr" ∅ [
            .element "th" (alignAttributes (some .left)) [.text "Bread"],
            .element "th" ∅ [.text "2"]]],
          .element "tbody" ∅ [.element "tr" ∅ [
            .element "td" (alignAttributes (some .left)) [.text "Salt"]]]]] :=
  ⟨by decide, by decide, (rectangular_lowerNode_iff _ _ _ _ (by decide) (by decide)).1⟩

/-- The head has one cell for each column, and the other row is not filled up. -/
theorem not_rectangular_priceList :
    (∀ row ∈ priceList, row.isRow = true) ∧
      (∀ row ∈ priceList, ∀ cell ∈ row.children, cell.isCell = true) ∧
      priceList.head?.map (·.children.length) = some 2 ∧
      (lowerNode ⟨[], []⟩ {} (.branch (.table [.left, .unset]) priceList)).2 ≠
        [tableOf [.left, .unset] (fun _ => 2) (rowContents ⟨[], []⟩ {} priceList)] := by
  have hrows : ∀ row ∈ priceList, row.isRow = true := by decide
  have hcells : ∀ row ∈ priceList, ∀ cell ∈ row.children, cell.isCell = true := by decide
  refine ⟨hrows, hcells, rfl, ?_⟩
  rw [lowerNode_table _ _ hrows hcells, ne_eq, List.singleton_inj, tableOf_inj_iff]
  decide

end Manuscript.Lowering
