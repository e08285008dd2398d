import Eisenberg.Coordinator.Modes
import Eisenberg.Coordinator.SetActiveMode
import Eisenberg.Framework.Replica
import Mathlib.Logic.Function.Basic

/-!
# The modes of Arlo and of the coordinator

Arlo keeps a mode and a revision per location. Calls of `async_set_active_mode` and other clients
change them; the answers to the calls and the activeMode events reach the coordinator in any order.
-/

namespace Eisenberg.Coordinator

open Framework

/-- A location as Arlo has it. -/
structure ArloLocation where
  mode : String
  custom : Dict String String := Dict.empty
  revision : Int
  positive : 0 < revision

namespace ArloLocation

/-- The location after an accepted set. -/
def accept (a : ArloLocation) (mode : String) (custom : Dict String String) : ArloLocation where
  mode := mode
  custom := custom
  revision := a.revision + 1
  positive := by have h := a.positive; omega

/-- The answer to a GET, and to the PUT that brought the location here. -/
def state (a : ArloLocation) : ActiveModeState where
  properties := some ⟨a.mode, a.custom⟩
  revision := a.revision

end ArloLocation

/-- An activeMode event: the location after a change. -/
structure ModeEvent where
  locationId : String
  state : ArloLocation

def ModeEvent.payload (e : ModeEvent) : Json :=
  .obj [("locationId", .str e.locationId),
    ("properties", .obj [("revision", .int e.state.revision),
      ("properties", .obj [("mode", .str e.state.mode),
        ("custom", .obj (e.state.custom.entries.map fun entry => (entry.1, .str entry.2)))])])]

abbrev SetPool := Pool (String × String) CoordinatorState Exc ModeReply Unit

abbrev SetStatus := Status CoordinatorState Exc ModeReply Unit

/-- A call of `async_set_active_mode` on a location and an option. -/
def setActiveModeCall (call : String × String) : ModeAsync Unit :=
  asyncSetActiveMode call.1 call.2

structure ModeSystem where
  pool : SetPool
  arlo : String → ArloLocation
  events : List ModeEvent
  /-- The revision of the PUT reply or event applied last on each location, and the highest one. -/
  last : String → Int
  applied : String → Int
  /-- The revision that the HTTP reply applied last on the location carried, and the highest one. -/
  answered : String → Int
  replied : String → Int
  /-- The last accepted set on the location was another client's. -/
  foreign : String → Bool

inductive ModeAction where
  | select (locationId label : String)
  /-- Arlo accepts another client's set. -/
  | other (locationId mode : String) (custom : Dict String String)
  /-- Arlo refuses the request of a call, or it fails on the way. -/
  | refuse (t : Nat) (err : Exc)
  /-- Arlo serves the request of a call. -/
  | serve (t : Nat) (cookieJar : List Cookie)
  /-- The HTTP reply reaches a call. -/
  | reply (t : Nat)
  /-- The next event reaches the coordinator. -/
  | event

/-- An HTTP reply under way that carries a revision. -/
inductive Carried where
  | put (locationId : String) (state : ActiveModeState)
  | get (locationId : String) (state : ActiveModeState)

namespace Carried

def locationId : Carried → String
  | put locationId _ | get locationId _ => locationId

def state : Carried → ActiveModeState
  | put _ state | get _ state => state

end Carried

def carried : SetStatus → Option Carried
  | .answered (.client (.setActiveMode locationId _ _ _)) (.ok state) _ =>
    some (.put locationId state)
  | .answered (.client (.getActiveMode locationId)) (.ok state) _ => some (.get locationId state)
  | _ => none

namespace ModeSystem

/-- Everything agrees, and nothing is under way. -/
def start (client : CoordinatorState) (arlo : String → ArloLocation) : ModeSystem where
  pool := ⟨client, []⟩
  arlo := arlo
  events := []
  last := fun locationId => (arlo locationId).revision
  applied := fun locationId => (arlo locationId).revision
  answered := fun locationId => (arlo locationId).revision
  replied := fun locationId => (arlo locationId).revision
  foreign := fun _ => false

/-- Arlo accepts a set: the revision goes up, and an event goes out. -/
def publish (sys : ModeSystem) (locationId mode : String) (custom : Dict String String)
    (foreign : Bool) : ModeSystem :=
  let state := (sys.arlo locationId).accept mode custom
  { sys with
    arlo := Function.update sys.arlo locationId state
    events := sys.events ++ [⟨locationId, state⟩]
    foreign := Function.update sys.foreign locationId foreign }

def served (sys : ModeSystem) : Request ModeRequest → ModeSystem
  | .client (.setActiveMode locationId mode _ custom) =>
    sys.publish locationId mode (custom.getD Dict.empty) false
  | _ => sys

def answer (sys : ModeSystem) (cookieJar : List Cookie) :
    (request : Request ModeRequest) → ModeReply request
  | .login => cookieJar
  | .client (.setActiveMode locationId mode _ custom) =>
    ((sys.arlo locationId).accept mode (custom.getD Dict.empty)).state
  | .client (.getActiveMode locationId) => (sys.arlo locationId).state

/-- A mode of this revision is applied to the location. -/
def noteApplied (sys : ModeSystem) (locationId : String) (revision : Int) : ModeSystem :=
  { sys with
    last := Function.update sys.last locationId revision
    applied := Function.update sys.applied locationId (max (sys.applied locationId) revision) }

def noteReplied (sys : ModeSystem) (locationId : String) (revision : Int) : ModeSystem :=
  { sys with
    answered := Function.update sys.answered locationId revision
    replied := Function.update sys.replied locationId (max (sys.replied locationId) revision) }

/-- What a reply that reaches its call means for the ghost fields. -/
def noteReply (sys : ModeSystem) : Option Carried → ModeSystem
  | some (.put locationId state) =>
    (sys.noteApplied locationId state.revision).noteReplied locationId state.revision
  | some (.get locationId state) => sys.noteReplied locationId state.revision
  | none => sys

def step (scalars : Scalars) (sys : ModeSystem) : ModeAction → Option ModeSystem
  | .select locationId label =>
    (Pool.step setActiveModeCall sys.pool (.start (locationId, label))).map fun pool =>
      { sys with pool }
  | .other locationId mode custom => some (sys.publish locationId mode custom true)
  | .refuse t err =>
    (Pool.step setActiveModeCall sys.pool (.answer t fun _ => .error err)).map fun pool =>
      { sys with pool }
  | .serve t cookieJar =>
    match sys.pool.threads[t]? with
    | some ⟨_, _, .waiting request _⟩ =>
      (Pool.step setActiveModeCall sys.pool
          (.answer t fun request => .ok (sys.answer cookieJar request))).map fun pool =>
        { sys.served request with pool }
    | _ => none
  | .reply t =>
    match sys.pool.threads[t]? with
    | some thread =>
      (Pool.step setActiveModeCall sys.pool (.deliver t)).map fun pool =>
        { sys.noteReply (carried thread.status) with pool }
    | none => none
  | .event =>
    match sys.events with
    | [] => none
    | e :: rest =>
      some { sys.noteApplied e.locationId e.state.revision with
        pool := { sys.pool with shared := handleActiveMode scalars e.payload sys.pool.shared }
        events := rest }

def machine (scalars : Scalars) : Machine ModeSystem ModeAction where
  step := step scalars

/-- Nothing is in flight: no event, no request and no reply. -/
def Quiescent (sys : ModeSystem) : Prop :=
  sys.events = [] ∧ ∀ th ∈ sys.pool.threads, ∃ result, th.status = .done result

end ModeSystem

end Eisenberg.Coordinator
