import Ois.Library.DateTime
import Ois.Kernel.PyValues

/-!
# Events and the workflows that they trigger

`autonomy/events.py` and the definitions of `autonomy/workflows.py`. The payload of an event is a
JSON object.
-/

namespace Ois.Autonomy

open Ois.Library Ois.Kernel

structure EventEnvelope where
  eventId : String
  tenantId : String
  workspaceId : String
  eventType : String
  aggregateId : String
  payload : Members := []
  createdAt : DateTime
  sourceId : Json := .null
  correlationId : Option String := none
  deriving DecidableEq, Repr

/-- `event == other`. -/
structure EventEnvelope.Same (event other : EventEnvelope) : Prop where
  eventId : event.eventId = other.eventId
  tenantId : event.tenantId = other.tenantId
  workspaceId : event.workspaceId = other.workspaceId
  eventType : event.eventType = other.eventType
  aggregateId : event.aggregateId = other.aggregateId
  payload : pyEquals (.obj event.payload) (.obj other.payload) = true
  createdAt : event.createdAt = other.createdAt
  sourceId : event.sourceId = other.sourceId
  correlationId : event.correlationId = other.correlationId

structure WorkflowTrigger where
  eventType : String
  sourceId : Option String := none
  conditions : Members := []
  deriving DecidableEq, Repr

namespace WorkflowTrigger

def accepts (event : EventEnvelope) (trigger : WorkflowTrigger) : Bool :=
  event.eventType == trigger.eventType &&
    trigger.sourceId.all fun source => event.sourceId == .str source

/-- `matches(event)`. -/
def fires (event : EventEnvelope) (trigger : WorkflowTrigger) : Bool :=
  trigger.accepts event && trigger.conditions.all fun condition =>
    pyEquals ((event.payload.lookup condition.1).getD .null) condition.2

end WorkflowTrigger

inductive WorkflowStatus where
  | enabled | paused | disabled
  deriving DecidableEq, Repr

structure SourceWorkflow where
  workflowId : String
  version : String
  tenantId : String
  workspaceId : String
  trigger : WorkflowTrigger
  status : WorkflowStatus := .enabled
  deriving DecidableEq, Repr

/-- `matches(event)`. -/
def SourceWorkflow.fires (event : EventEnvelope) (flow : SourceWorkflow) : Bool :=
  flow.status == .enabled && event.tenantId == flow.tenantId &&
    event.workspaceId == flow.workspaceId && flow.trigger.fires event

theorem SourceWorkflow.accepts_of_fires {event : EventEnvelope} {flow : SourceWorkflow}
    (fires : flow.fires event = true) : flow.trigger.accepts event = true := by
  simp only [SourceWorkflow.fires, WorkflowTrigger.fires, Bool.and_eq_true] at fires
  exact fires.2.1

end Ois.Autonomy
