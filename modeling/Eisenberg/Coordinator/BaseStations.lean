import Eisenberg.Coordinator.Operations
import Eisenberg.Framework.Trace

/-!
# Bringing up the base stations

`_bring_up_base_stations` with what it records: the connection of each base station by the outcome
of its registration, and one update of the entities if any entry changed. The calls fail with
ordinary exceptions, and no frame comes in between.
-/

namespace Eisenberg.Coordinator.Hubs

open Framework

/-- What of the coordinator is read and written. -/
structure HubState where
  devices : List DeviceInfo
  lastBaseBringup : Nat
  basestationConnection : Dict String String
  /-- How often `_push_to_entities` has been called. -/
  pushes : Nat

namespace HubState

def mark (s : HubState) (baseId connection : String) : HubState :=
  { s with basestationConnection := s.basestationConnection.set baseId connection }

end HubState

abbrev HubAsync := Co HubState Exc ArloReply

/-! ## The loop -/

abbrev register (baseId : String) : Request ArloRequest :=
  .client (.rest (.registerEventSubscription baseId))

abbrev pull (baseId : String) : Request ArloRequest :=
  .client (.rest (.requestDeviceStates baseId))

/-- Set the entry of a base station, and say whether it was another one before. -/
def markConnection (baseId connection : String) : HubAsync Bool := do
  if (← get).basestationConnection.get? baseId ≠ some connection then
    modify (·.mark baseId connection)
    return true
  else return false

def bringUpBase (baseId : String) : HubAsync Bool := do
  let registered ←
    tryCatch (do let _ ← Co.await (register baseId); return true)
      fun err => if err.isException then pure false else throw err
  if registered then
    let changed ← markConnection baseId "available"
    tryCatch (do let _ ← Co.await (pull baseId); return ())
      fun err => if err.isException then pure () else throw err
    return changed
  else
    -- Nothing will answer, so it is not asked.
    markConnection baseId "unavailable"

def bringUpEach (changed : Bool) : List DeviceInfo → HubAsync Bool
  | [] => return changed
  | device :: devices => do
    if device.isBaseStation then
      let changedHere ← bringUpBase device.deviceId
      bringUpEach (changed || changedHere) devices
    else bringUpEach changed devices

/-- Register with every base station, then ask it for its state. -/
def bringUpBaseStations (now : Nat) : HubAsync Unit := do
  modify fun s => { s with lastBaseBringup := now }
  let changed ← bringUpEach false (← get).devices
  if changed then modify fun s => { s with pushes := s.pushes + 1 }

/-! ## What comes of it -/

/-- How the calls turn out. One that fails does so with an ordinary exception. -/
structure Outcomes where
  answer : Nat → (i : Request ArloRequest) → Except Exc (ArloReply i)
  ordinary : ∀ n i err, answer n i = .error err → err.isException = true

/-- What has come of one base station. -/
inductive Contact where
  | refused (baseId : String) (err : Exc)
  /-- It has registered, and its states were asked for, with this outcome. -/
  | registered (baseId : String) (pulled : Except Exc Unit)

namespace Contact

def baseId : Contact → String
  | refused baseId _ | registered baseId _ => baseId

def connection : Contact → String
  | refused _ _ => "unavailable"
  | registered _ _ => "available"

/-- Its calls, each with its answer. -/
def exchanges : Contact → List ((i : Request ArloRequest) × Except Exc (ArloReply i))
  | refused baseId err => [⟨register baseId, .error err⟩]
  | registered baseId pulled => [⟨register baseId, .ok ()⟩, ⟨pull baseId, pulled⟩]

end Contact

/-- What comes of these base stations, from the `n`-th call on. -/
def contacts (o : Outcomes) : Nat → List String → List Contact
  | _, [] => []
  | n, baseId :: baseIds =>
    match o.answer n (register baseId) with
    | .error err => .refused baseId err :: contacts o (n + 1) baseIds
    | .ok _ => .registered baseId (o.answer (n + 1) (pull baseId)) :: contacts o (n + 2) baseIds

/-- The entries once these contacts have been recorded. -/
def recorded (met : List Contact) (entries : Dict String String) : Dict String String :=
  met.foldl (fun d contact => d.set contact.baseId contact.connection) entries

/-- The entry of one of them read otherwise when it was set. -/
def Changes (met : List Contact) (entries : Dict String String) : Prop :=
  ∃ earlier contact later, met = earlier ++ contact :: later ∧
    (recorded earlier entries).get? contact.baseId ≠ some contact.connection

def changes : List Contact → Dict String String → Bool
  | [], _ => false
  | contact :: later, entries =>
    decide (entries.get? contact.baseId ≠ some contact.connection) ||
      changes later (entries.set contact.baseId contact.connection)

theorem changes_iff (met : List Contact) (entries : Dict String String) :
    changes met entries = true ↔ Changes met entries := by
  induction met generalizing entries with
  | nil =>
    constructor
    · intro h
      cases h
    · rintro ⟨earlier, contact, later, h, -⟩
      simp at h
  | cons first later ih =>
    rw [changes, Bool.or_eq_true, ih, decide_eq_true_eq]
    constructor
    · intro h
      rcases h with hfirst | ⟨earlier, contact, rest, rfl, hne⟩
      · exact ⟨[], first, later, rfl, hfirst⟩
      · exact ⟨first :: earlier, contact, rest, rfl, hne⟩
    · rintro ⟨earlier, contact, rest, heq, hne⟩
      cases earlier with
      | nil =>
        obtain ⟨rfl, rfl⟩ := List.cons.inj heq
        exact Or.inl hne
      | cons x earlier =>
        obtain ⟨rfl, rfl⟩ := List.cons.inj heq
        exact Or.inr ⟨earlier, contact, rest, rfl, hne⟩

/-! ## The run -/

section Run

variable (o : Outcomes) {n : Nat} {s : HubState} {baseId : String}

theorem markConnection_run (answers : Nat → (i : Request ArloRequest) → Except Exc (ArloReply i))
    (connection : String) :
    (markConnection baseId connection).run answers n s =
        (s.mark baseId connection,
          .ok (decide (s.basestationConnection.get? baseId ≠ some connection)), n) ∧
      (markConnection baseId connection).trace answers n s = [] := by
  by_cases hentry : s.basestationConnection.get? baseId = some connection
  · have hsame : s.mark baseId connection = s := by rw [HubState.mark, Dict.set_get? hentry]
    unfold markConnection
    rw [hsame]
    simp [Co.trace_bind, hentry]
  · unfold markConnection
    simp [Co.trace_bind, hentry]

theorem bringUpBase_run_refused {err : Exc} (h : o.answer n (register baseId) = .error err) :
    (bringUpBase baseId).run o.answer n s =
        (s.mark baseId "unavailable",
          .ok (decide (s.basestationConnection.get? baseId ≠ some "unavailable")), n + 1) ∧
      (bringUpBase baseId).trace o.answer n s = (Contact.refused baseId err).exchanges := by
  have hordinary := o.ordinary n _ err h
  obtain ⟨hmark, hquiet⟩ := @markConnection_run (n + 1) s baseId o.answer "unavailable"
  unfold bringUpBase
  simp [Co.trace_bind, Co.trace_tryCatch, h, hordinary, hmark, hquiet, Contact.exchanges]

theorem bringUpBase_run_registered (h : o.answer n (register baseId) = .ok ()) :
    (bringUpBase baseId).run o.answer n s =
        (s.mark baseId "available",
          .ok (decide (s.basestationConnection.get? baseId ≠ some "available")), n + 2) ∧
      (bringUpBase baseId).trace o.answer n s =
        (Contact.registered baseId (o.answer (n + 1) (pull baseId))).exchanges := by
  obtain ⟨hmark, hquiet⟩ := @markConnection_run (n + 1) s baseId o.answer "available"
  unfold bringUpBase
  cases hpull : o.answer (n + 1) (pull baseId) with
  | ok u =>
    simp [Co.trace_bind, Co.trace_tryCatch, h, hpull, hmark, hquiet, Contact.exchanges]
  | error err =>
    have hordinary := o.ordinary (n + 1) _ err hpull
    simp [Co.trace_bind, Co.trace_tryCatch, h, hpull, hordinary, hmark, hquiet, Contact.exchanges]

theorem bringUpBase_contact (baseId : String) (n : Nat) :
    ∃ contact m, contact.baseId = baseId ∧
      (∀ baseIds, contacts o n (baseId :: baseIds) = contact :: contacts o m baseIds) ∧
      ∀ s : HubState, (bringUpBase baseId).run o.answer n s =
          (s.mark baseId contact.connection,
            .ok (decide (s.basestationConnection.get? baseId ≠ some contact.connection)), m) ∧
        (bringUpBase baseId).trace o.answer n s = contact.exchanges := by
  cases h : o.answer n (register baseId) with
  | error err =>
    refine ⟨.refused baseId err, n + 1, rfl, ?_, fun s => bringUpBase_run_refused o h⟩
    intro baseIds
    rw [contacts, h]
  | ok u =>
    refine ⟨.registered baseId (o.answer (n + 1) (pull baseId)), n + 2, rfl, ?_,
      fun s => bringUpBase_run_registered o h⟩
    intro baseIds
    rw [contacts, h]

theorem baseIds_cons_of_base {device : DeviceInfo} (h : device.isBaseStation = true)
    (devices : List DeviceInfo) :
    baseIds (device :: devices) = device.deviceId :: baseIds devices := by
  rw [baseIds, List.filter_cons_of_pos h]
  rfl

theorem baseIds_cons_of_other {device : DeviceInfo} (h : ¬ device.isBaseStation = true)
    (devices : List DeviceInfo) : baseIds (device :: devices) = baseIds devices := by
  rw [baseIds, List.filter_cons_of_neg h]
  rfl

theorem bringUpEach_run (devices : List DeviceInfo) (changed : Bool) (n : Nat) (s : HubState) :
    (∃ m, (bringUpEach changed devices).run o.answer n s =
      ({ s with basestationConnection :=
          recorded (contacts o n (baseIds devices)) s.basestationConnection },
        .ok (changed || changes (contacts o n (baseIds devices)) s.basestationConnection), m)) ∧
      (bringUpEach changed devices).trace o.answer n s =
        (contacts o n (baseIds devices)).flatMap Contact.exchanges := by
  induction devices generalizing changed n s with
  | nil =>
    refine ⟨⟨n, ?_⟩, rfl⟩
    simp [bringUpEach, baseIds, contacts, recorded, changes]
  | cons device devices ih =>
    rw [bringUpEach]
    by_cases hbase : device.isBaseStation = true
    · obtain ⟨contact, k, hid, hcontacts, hran⟩ := bringUpBase_contact o device.deviceId n
      obtain ⟨hrun, htrace⟩ := hran s
      obtain ⟨⟨m, hlater⟩, hlaterTrace⟩ :=
        ih (changed || decide (s.basestationConnection.get? device.deviceId ≠
          some contact.connection)) k (s.mark device.deviceId contact.connection)
      rw [if_pos hbase, baseIds_cons_of_base hbase, hcontacts, Co.run_bind, Co.trace_bind, hrun,
        htrace, Co.andThen_ok, Co.traceThen_ok, hlater, hlaterTrace]
      refine ⟨⟨m, ?_⟩, rfl⟩
      rw [changes, hid, Bool.or_assoc, recorded, recorded, List.foldl_cons, hid]
      rfl
    · rw [if_neg hbase, baseIds_cons_of_other hbase]
      exact ih changed n s

end Run

/-! ## The whole call -/

section Recorded

variable {met : List Contact} {entries : Dict String String} {baseId : String}

theorem get?_recorded_of_not_mem (h : baseId ∉ met.map Contact.baseId) :
    (recorded met entries).get? baseId = entries.get? baseId := by
  induction met generalizing entries with
  | nil => rfl
  | cons contact later ih =>
    rw [List.map_cons, List.mem_cons, not_or] at h
    rw [recorded, List.foldl_cons]
    exact (ih h.2).trans (Dict.get?_set_of_ne entries h.1 contact.connection)

/-- The last contact of a base station decides its entry. -/
theorem get?_recorded {earlier later : List Contact} {contact : Contact}
    (h : contact.baseId ∉ later.map Contact.baseId) (entries : Dict String String) :
    (recorded (earlier ++ contact :: later) entries).get? contact.baseId =
      some contact.connection := by
  rw [recorded, List.foldl_append, List.foldl_cons]
  exact (get?_recorded_of_not_mem h).trans (Dict.get?_set_self _ _ _)

/-- Of base stations with ids of their own, an entry changes exactly if it ends otherwise. -/
theorem changes_iff_of_nodup (h : (met.map Contact.baseId).Nodup) (entries : Dict String String) :
    Changes met entries ↔
      ∃ baseId, (recorded met entries).get? baseId ≠ entries.get? baseId := by
  have hsplit : ∀ earlier contact later, met = earlier ++ contact :: later →
      (recorded met entries).get? contact.baseId = some contact.connection ∧
        (recorded earlier entries).get? contact.baseId = entries.get? contact.baseId := by
    rintro earlier contact later rfl
    rw [List.map_append, List.map_cons] at h
    obtain ⟨-, hlater, hdisjoint⟩ := List.nodup_append.mp h
    refine ⟨get?_recorded (List.nodup_cons.mp hlater).1 entries, get?_recorded_of_not_mem ?_⟩
    intro hmem
    exact hdisjoint _ hmem _ List.mem_cons_self rfl
  constructor
  · intro ⟨earlier, contact, later, hmet, hne⟩
    obtain ⟨hlast, hfirst⟩ := hsplit earlier contact later hmet
    refine ⟨contact.baseId, ?_⟩
    rw [hlast, ← hfirst]
    exact Ne.symm hne
  · intro ⟨baseId, hne⟩
    by_cases hmem : baseId ∈ met.map Contact.baseId
    · obtain ⟨contact, hcontact, rfl⟩ := List.mem_map.mp hmem
      obtain ⟨earlier, later, hmet⟩ := List.append_of_mem hcontact
      obtain ⟨hlast, hfirst⟩ := hsplit earlier contact later hmet
      refine ⟨earlier, contact, later, hmet, ?_⟩
      rw [hfirst, ← hlast]
      exact Ne.symm hne
    · exact absurd (get?_recorded_of_not_mem hmem) hne

theorem baseId_contacts (o : Outcomes) (n : Nat) (baseIds : List String) :
    (contacts o n baseIds).map Contact.baseId = baseIds := by
  induction baseIds generalizing n with
  | nil => rfl
  | cons baseId baseIds ih =>
    obtain ⟨contact, m, hid, hcontacts, -⟩ := bringUpBase_contact o baseId n
    rw [hcontacts, List.map_cons, hid, ih]

end Recorded

theorem bringUpBaseStations_run (o : Outcomes) (now : Nat) (s : HubState) :
    (∃ m, (bringUpBaseStations now).run o.answer 0 s =
      ({ s with
          lastBaseBringup := now
          basestationConnection :=
            recorded (contacts o 0 (baseIds s.devices)) s.basestationConnection
          pushes := s.pushes +
            if changes (contacts o 0 (baseIds s.devices)) s.basestationConnection then 1 else 0 },
        .ok (), m)) ∧
      (bringUpBaseStations now).trace o.answer 0 s =
        (contacts o 0 (baseIds s.devices)).flatMap Contact.exchanges := by
  obtain ⟨⟨m, hrun⟩, htrace⟩ :=
    bringUpEach_run o s.devices false 0 { s with lastBaseBringup := now }
  unfold bringUpBaseStations
  simp only [Co.run_bind, Co.trace_bind, Co.run_modify, Co.trace_modify, Co.andThen_ok,
    Co.traceThen_ok, Co.run_get, Co.trace_get, hrun, htrace, Bool.false_or]
  cases changes (contacts o 0 (baseIds s.devices)) s.basestationConnection with
  | true => exact ⟨⟨m, rfl⟩, by simp⟩
  | false => exact ⟨⟨m, rfl⟩, by simp⟩

/-- What the call does: the base stations of the list are contacted in its order, each one for
itself, and their outcomes recorded. Where the list has an id twice, the later outcome counts. -/
structure BroughtUp (before after : HubState) (result : Except Exc Unit)
    (exchanges : List ((i : Request ArloRequest) × Except Exc (ArloReply i)))
    (met : List Contact) : Prop where
  inOrder : met.map Contact.baseId = baseIds before.devices
  exchanged : exchanges = met.flatMap Contact.exchanges
  returned : result = .ok ()
  connection : ∀ earlier contact later, met = earlier ++ contact :: later →
    contact.baseId ∉ later.map Contact.baseId →
    after.basestationConnection.get? contact.baseId = some contact.connection
  others : ∀ deviceId, deviceId ∉ baseIds before.devices →
    after.basestationConnection.get? deviceId = before.basestationConnection.get? deviceId
  pushed : after.pushes = before.pushes + 1 ∧ Changes met before.basestationConnection ∨
    after.pushes = before.pushes ∧ ¬ Changes met before.basestationConnection
  changed : (baseIds before.devices).Nodup → (Changes met before.basestationConnection ↔
    ∃ deviceId, after.basestationConnection.get? deviceId ≠
      before.basestationConnection.get? deviceId)

/-- Bringing the base stations up is ordered and isolated. -/
theorem bring_up_ordered_isolated (o : Outcomes) (now : Nat) (s : HubState) :
    BroughtUp s ((bringUpBaseStations now).run o.answer 0 s).1
      ((bringUpBaseStations now).run o.answer 0 s).2.1
      ((bringUpBaseStations now).trace o.answer 0 s)
      (contacts o 0 (baseIds s.devices)) := by
  obtain ⟨⟨m, hrun⟩, htrace⟩ := bringUpBaseStations_run o now s
  have hids := baseId_contacts o 0 (baseIds s.devices)
  rw [hrun, htrace]
  refine ⟨hids, rfl, rfl, ?_, ?_, ?_, ?_⟩
  · intro earlier contact later hmet hlast
    rw [hmet]
    exact get?_recorded hlast s.basestationConnection
  · intro deviceId hother
    rw [← hids] at hother
    exact get?_recorded_of_not_mem hother
  · rw [← changes_iff]
    cases changes (contacts o 0 (baseIds s.devices)) s.basestationConnection with
    | true => exact Or.inl ⟨rfl, rfl⟩
    | false => exact Or.inr ⟨rfl, Bool.false_ne_true⟩
  · intro hnodup
    rw [← hids] at hnodup
    exact changes_iff_of_nodup hnodup s.basestationConnection

/-- The second base station does not register, and the third does not answer the pull. -/
def patchy : Outcomes where
  answer
    | _, .client (.rest (.registerEventSubscription baseId)) =>
      if baseId = "BASE-2" then .error (.transientAPIError "502") else .ok ()
    | _, .client (.rest (.requestDeviceStates baseId)) =>
      if baseId = "BASE-3" then .error (.builtin .timeoutError "") else .ok ()
    | _, _ => .error (.transientAPIError "503")
  ordinary := by
    intro n i err h
    split at h
    · split at h
      · cases h
        rfl
      · cases h
    · split at h
      · cases h
        rfl
      · cases h
    · cases h
      rfl

def threeBases : HubState where
  devices := [{ deviceId := "BASE-1", deviceType := some "basestation" },
    { deviceId := "CAM-1", parentId := some "BASE-1" },
    { deviceId := "BASE-2", deviceType := some "basestation" },
    { deviceId := "BASE-3", deviceType := some "basestation" }]
  lastBaseBringup := 0
  basestationConnection := Dict.empty
  pushes := 0

theorem three_bases_brought_up :
    contacts patchy 0 (baseIds threeBases.devices) =
        [.registered "BASE-1" (.ok ()), .refused "BASE-2" (.transientAPIError "502"),
          .registered "BASE-3" (.error (.builtin .timeoutError ""))] ∧
      ((bringUpBaseStations 0).run patchy.answer 0 threeBases).1.pushes = 1 ∧
      BroughtUp threeBases ((bringUpBaseStations 0).run patchy.answer 0 threeBases).1
        ((bringUpBaseStations 0).run patchy.answer 0 threeBases).2.1
        ((bringUpBaseStations 0).trace patchy.answer 0 threeBases)
        (contacts patchy 0 (baseIds threeBases.devices)) :=
  ⟨rfl, rfl, bring_up_ordered_isolated patchy 0 threeBases⟩

/-! ## Among the other operations -/

section Operations

variable (o : Outcomes) {n : Nat} {s : CoordinatorState} {baseId : String}

theorem operation_refused {err : Exc} (h : o.answer n (register baseId) = .error err) :
    (Coordinator.bringUpBase baseId).run o.answer n s = (s, .ok (), n + 1) ∧
      (Coordinator.bringUpBase baseId).trace o.answer n s =
        (Contact.refused baseId err).exchanges := by
  have hordinary := o.ordinary n _ err h
  unfold Coordinator.bringUpBase rest
  simp [Co.trace_bind, Co.trace_tryCatch, h, hordinary, Contact.exchanges]

theorem operation_registered (h : o.answer n (register baseId) = .ok ()) :
    (Coordinator.bringUpBase baseId).run o.answer n s = (s, .ok (), n + 2) ∧
      (Coordinator.bringUpBase baseId).trace o.answer n s =
        (Contact.registered baseId (o.answer (n + 1) (pull baseId))).exchanges := by
  unfold Coordinator.bringUpBase rest logged
  cases hpull : o.answer (n + 1) (pull baseId) with
  | ok u => simp [Co.trace_bind, Co.trace_tryCatch, h, hpull, Contact.exchanges]
  | error err =>
    have hordinary := o.ordinary (n + 1) _ err hpull
    simp [Co.trace_bind, Co.trace_tryCatch, h, hpull, hordinary, Contact.exchanges]

theorem operation_trace (baseIds : List String) (n : Nat) (s : CoordinatorState) :
    (Coordinator.bringUpEach baseIds).trace o.answer n s =
      (contacts o n baseIds).flatMap Contact.exchanges := by
  induction baseIds generalizing n s with
  | nil => rfl
  | cons baseId baseIds ih =>
    rw [Coordinator.bringUpEach, Co.trace_bind, contacts]
    cases h : o.answer n (register baseId) with
    | error err =>
      obtain ⟨hrun, htrace⟩ := @operation_refused o n s baseId err h
      rw [hrun, htrace, Co.traceThen_ok, ih]
      rfl
    | ok u =>
      obtain ⟨hrun, htrace⟩ := @operation_registered o n s baseId h
      rw [hrun, htrace, Co.traceThen_ok, ih]
      rfl

theorem operation_trace_eq (now : Nat) (s : CoordinatorState) (t : HubState)
    (hdevices : s.devices = t.devices) :
    (Coordinator.bringUpBaseStations now).trace o.answer 0 s =
      (bringUpBaseStations now).trace o.answer 0 t := by
  rw [(bringUpBaseStations_run o now t).2, ← hdevices]
  exact operation_trace o (baseIds s.devices) 0 { s with lastBaseBringup := now }

end Operations

end Eisenberg.Coordinator.Hubs
