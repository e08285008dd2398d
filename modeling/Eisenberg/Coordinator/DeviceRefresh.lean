import Eisenberg.Coordinator.DeviceStates
import Eisenberg.Framework.Transition

/-!
# The REST refresh beside live frames

`get_devices` is awaited while frames keep arriving. What the refresh merges afterwards is older
than those frames wherever both carry the same field.
-/

namespace Eisenberg.Coordinator

open Framework

/-- The device store, and how many `get_devices` requests have been issued and not merged. -/
structure RefreshState where
  store : DeviceStore
  pending : Nat

inductive RefreshAction where
  /-- `_refresh_device_properties` issues `get_devices`. -/
  | issue
  /-- A state frame is processed. -/
  | frame (event : StateEvent)
  /-- A request is answered and its blocks are merged. -/
  | reply (result : Except Exc (List DeviceInfo))

def StateEvent.isFrame : StateEvent → Bool
  | refresh _ => false
  | _ => true

def refreshStep (scalars : Scalars) (s : RefreshState) : RefreshAction → Option RefreshState
  | .issue => some { s with pending := s.pending + 1 }
  | .frame event =>
    if event.isFrame then some { s with store := event.apply scalars s.store } else none
  | .reply result =>
    if 0 < s.pending then
      some ⟨(StateEvent.refresh result).apply scalars s.store, s.pending - 1⟩
    else none

def refreshMachine (scalars : Scalars) : Machine RefreshState RefreshAction where
  step := refreshStep scalars

namespace RefreshAction

def blocks : RefreshAction → List (String × Json)
  | issue => []
  | frame event => event.blocks
  | reply result => (StateEvent.refresh result).blocks

/-- The blocks a reply merges. -/
def restBlocks : RefreshAction → List (String × Json)
  | reply result => (StateEvent.refresh result).blocks
  | _ => []

end RefreshAction

section Runs

variable {scalars : Scalars} {d : String} {f : DeviceField}

theorem lastValue_append (xs ys : List (String × Json)) :
    lastValue scalars (xs ++ ys) d f = (lastValue scalars ys d f).or (lastValue scalars xs d f) := by
  rw [lastValue, DeviceStore.blockWrites_append, Write.last_append]
  rfl

theorem field_refreshStep {s s' : RefreshState} {a : RefreshAction}
    (h : refreshStep scalars s a = some s') :
    s'.store.field d f = (lastValue scalars a.blocks d f).or (s.store.field d f) := by
  cases a with
  | issue =>
    cases h
    rfl
  | frame event =>
    simp only [refreshStep] at h
    split_ifs at h
    cases h
    simpa [RefreshAction.blocks] using DeviceStore.field_run [event] s.store d f
  | reply result =>
    simp only [refreshStep] at h
    split_ifs at h
    cases h
    simpa [RefreshAction.blocks] using
      DeviceStore.field_run [StateEvent.refresh result] s.store d f

theorem field_refreshRun {as : List RefreshAction} {s t : RefreshState}
    (h : (refreshMachine scalars).run s as = some t) :
    t.store.field d f =
      (lastValue scalars (as.flatMap RefreshAction.blocks) d f).or (s.store.field d f) := by
  induction as generalizing s with
  | nil =>
    cases h
    rfl
  | cons a as ih =>
    obtain ⟨u, hu, hrest⟩ := (refreshMachine scalars).run_cons_eq_some.mp h
    rw [ih hrest, field_refreshStep hu, List.flatMap_cons, lastValue_append, Option.or_assoc]

theorem lastValue_restBlocks {as : List RefreshAction}
    (h : ∀ event, RefreshAction.frame event ∈ as → lastValue scalars event.blocks d f = none) :
    lastValue scalars (as.flatMap RefreshAction.blocks) d f =
      lastValue scalars (as.flatMap RefreshAction.restBlocks) d f := by
  induction as with
  | nil => rfl
  | cons a as ih =>
    have hrest := ih fun event hevent => h event (List.mem_cons_of_mem _ hevent)
    rw [List.flatMap_cons, List.flatMap_cons, lastValue_append, lastValue_append, hrest]
    cases a with
    | issue => rfl
    | frame event => rw [RefreshAction.blocks, h event List.mem_cons_self]; rfl
    | reply result => rfl

/-- After the merge the field holds what the replies since the frame say, else what the frame
said. -/
theorem field_after_merge {s t : RefreshState} {pre mid : List RefreshAction} {event : StateEvent}
    {reply : RefreshAction} {v : Scalar} (hreply : reply.blocks = reply.restBlocks)
    (hrun : (refreshMachine scalars).run s (.issue :: pre ++ .frame event :: (mid ++ [reply])) =
      some t)
    (hframe : lastValue scalars event.blocks d f = some v)
    (hmid : ∀ later, RefreshAction.frame later ∈ mid → lastValue scalars later.blocks d f = none) :
    t.store.field d f =
      (lastValue scalars ((mid ++ [reply]).flatMap RefreshAction.restBlocks) d f).or (some v) := by
  have hafter : lastValue scalars ((mid ++ [reply]).flatMap RefreshAction.blocks) d f =
      lastValue scalars ((mid ++ [reply]).flatMap RefreshAction.restBlocks) d f := by
    rw [List.flatMap_append, List.flatMap_append, lastValue_append, lastValue_append,
      lastValue_restBlocks hmid, List.flatMap_singleton, List.flatMap_singleton, hreply]
  have hsince : lastValue scalars
      ((.frame event :: (mid ++ [reply])).flatMap RefreshAction.blocks) d f =
        (lastValue scalars ((mid ++ [reply]).flatMap RefreshAction.restBlocks) d f).or (some v) := by
    rw [List.flatMap_cons, lastValue_append, hafter, RefreshAction.blocks, hframe]
  rw [field_refreshRun hrun, List.flatMap_append, lastValue_append, hsince]
  cases lastValue scalars ((mid ++ [reply]).flatMap RefreshAction.restBlocks) d f <;> rfl

/-- A frame gave `f` of `d` the value `v` while the request was pending, and no later frame
mentions it: after the merge the value is still `v` exactly when the replies merged since then do
not say otherwise. -/
theorem refresh_keeps_live_iff {s t : RefreshState} {pre mid : List RefreshAction}
    {event : StateEvent} {devices : List DeviceInfo} {v : Scalar}
    (hrun : (refreshMachine scalars).run s
      (.issue :: pre ++ .frame event :: (mid ++ [.reply (.ok devices)])) = some t)
    (hframe : lastValue scalars event.blocks d f = some v)
    (hmid : ∀ later, RefreshAction.frame later ∈ mid → lastValue scalars later.blocks d f = none) :
    t.store.field d f = some v ↔
      ∀ value, lastValue scalars
        ((mid ++ [RefreshAction.reply (.ok devices)]).flatMap RefreshAction.restBlocks) d f =
          some value → value = v := by
  rw [field_after_merge rfl hrun hframe hmid]
  cases lastValue scalars
    ((mid ++ [RefreshAction.reply (.ok devices)]).flatMap RefreshAction.restBlocks) d f with
  | none => simp
  | some value => simp

end Runs

section Sample

def streamingFrame : StateEvent :=
  .camera "d/x/out/cameras/CAM/is"
    (.obj [("properties", .obj [("activityState", .str "userStreamActive")])])

def listedWith (properties : List (String × Json)) : List DeviceInfo :=
  [{ deviceId := "CAM", properties := some properties }]

def refreshed (properties : List (String × Json)) : RefreshState :=
  ((refreshMachine plainScalars).run ⟨.init, 0⟩
    [.issue, .frame streamingFrame, .reply (.ok (listedWith properties))]).getD ⟨.init, 0⟩

theorem refresh_keeps_live_iff_battery :
    (refreshed [("batteryLevel", .int 64)]).store.field "CAM" .activityState =
      some (.str "userStreamActive") := by
  have hrun : (refreshMachine plainScalars).run ⟨.init, 0⟩
      (.issue :: [] ++ .frame streamingFrame ::
        ([] ++ [.reply (.ok (listedWith [("batteryLevel", .int 64)]))])) =
      some (refreshed [("batteryLevel", .int 64)]) := rfl
  exact (refresh_keeps_live_iff hrun (by decide) (by simp)).mpr (by decide)

/-- The reply is older than the frame and still says idle. -/
theorem refresh_overwrites_live :
    lastValue plainScalars streamingFrame.blocks "CAM" .activityState =
        some (.str "userStreamActive") ∧
      (refreshed [("activityState", .str "idle")]).store.field "CAM" .activityState =
        some (.str "idle") := by
  decide

end Sample

end Eisenberg.Coordinator
