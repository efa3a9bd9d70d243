/-! Sets of characters, given by ranges of code points. -/
namespace WorkflowCanvas.Text

/-- Ranges of code points, first and last. -/
abbrev Ranges := List (Nat × Nat)

def Ranges.has (ranges : Ranges) (c : Char) : Bool :=
  ranges.any fun (first, last) => first ≤ c.toNat && c.toNat ≤ last

end WorkflowCanvas.Text
