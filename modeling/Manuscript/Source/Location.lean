/-!
# Places in a source

A place is a line and a column, both counted from one.
-/

namespace Manuscript

/-- A place in a source, both numbers counted from one. -/
structure SourceLocation where
  /-- The line. -/
  line : Nat := 1
  /-- The column. -/
  column : Nat := 1
  deriving DecidableEq, Repr, Inhabited

/-- The wording of a place. -/
def SourceLocation.message (l : SourceLocation) : String :=
  toString l.line ++ ":" ++ toString l.column

end Manuscript
