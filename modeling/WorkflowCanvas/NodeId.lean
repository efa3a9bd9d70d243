/-! Generated node ids: a number that rises with every id, and the time of creation. -/
namespace WorkflowCanvas

/-- The number of the last id that was given out. -/
structure IdSource where
  count : UInt64 := 0
  deriving DecidableEq, Repr

namespace IdSource

/-- The next id, stamped with the time of its creation. -/
def next (ids : IdSource) (stamp : String) : String × IdSource :=
  let count := ids.count + 1
  (s!"node_{count.toNat}_{stamp}", ⟨count⟩)

end IdSource
end WorkflowCanvas
