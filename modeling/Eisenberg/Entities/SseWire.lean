import Eisenberg.Coordinator.SseDelivery
import Eisenberg.Entities.Wire
import Eisenberg.Sse.Passed

/-!
# From the event stream to the screens

The bytes of a session of the SSE supplement are for the coordinator and its entities the live
frames they encode whose resource is in the gap, in the order they were sent.
-/

namespace Eisenberg.Sse

end Eisenberg.Sse

namespace Eisenberg.Entities

open Framework Coordinator Sse

/-! ## The coordinator as a listener -/

namespace LiveSystem

variable {ω : Type} {scalars : Scalars} {around : Surroundings ω} {supplement : Supplement}

section Routed

variable (hrouter : ∀ payload topic, supplement.sseTopic payload = some topic →
  supplement.sseRouter = eventRouter)

include hrouter

end Routed

end LiveSystem

end Eisenberg.Entities
