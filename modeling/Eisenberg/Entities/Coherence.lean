import Eisenberg.Coordinator.SseDelivery
import Eisenberg.Entities.LiveEntities
import Eisenberg.Framework.Transition

/-!
# The entities agree with the coordinator

The coordinator, the attributes of its entities, and the bring-ups of the base stations that are
under way, in any order of frames, re-read device lists, mode changes and broadcasts. An entity
shows what the coordinator holds; only a connection that a bring-up has changed waits for the next
broadcast.
-/

namespace Eisenberg.Entities

open Framework Coordinator

/-- An attribute of an entity, on the screen. -/
structure Shown where
  attr : Attribute
  device : DeviceInfo
  screen : Screen LiveState (Option Scalar)
  display : screen.display = attr.display device

namespace Shown

def new (c : LiveState) (attr : Attribute) (device : DeviceInfo) : Shown where
  attr := attr
  device := device
  screen := Screen.new (attr.display device) c
  display := rfl

def follow (c : LiveState) (pushed : Bool) (e : Shown) : Shown where
  attr := e.attr
  device := e.device
  screen := e.screen.follow c pushed
  display := (Screen.display_follow ..).trans e.display

theorem lawful (e : Shown) : e.screen.display.Lawful Known := by
  rw [e.display]
  exact Attribute.display_lawful e.device e.attr

end Shown

/-- `_bring_up_base_stations` under way: the base stations to come, and its `changed`. -/
structure BringUp where
  todo : List String
  changed : Bool := false

structure LiveSystem where
  live : LiveState
  shown : List Shown := []
  lights : List SpotlightBrightness := []
  bringUps : List BringUp := []
  /-- The base stations whose connection has changed since the last broadcast; no variable of the
  source. -/
  unseen : List String := []

/-- The outcome of a registration is the connection of its base station. -/
def registrationState (accepted : Bool) : String := if accepted then "available" else "unavailable"

/-- Also whether the connection has changed. -/
def recordRegistration (baseId : String) (accepted : Bool) (c : LiveState) : LiveState × Bool :=
  if c.store.basestationConnection.get? baseId = some (registrationState accepted) then (c, false)
  else (c.setConnection baseId (registrationState accepted), true)

inductive LiveAct where
  /-- A frame, of MQTT or of the SSE supplement, whose media come through or not. -/
  | frame (topic : String) (payload : Json) (through : Bool)
  /-- `get_devices` answers a refresh of the properties. -/
  | refreshed (reply : Except Exc (List DeviceInfo))
  /-- Setup has discovered the locations; there are no entities yet. -/
  | located (locations : Locations)
  /-- Arlo has accepted a mode. -/
  | modeSet (locationId mode : String) (custom : Option (Dict String String))
      (result : ActiveModeState)
  | modeRefetched (locationId : String) (revision : Int)
  /-- A push of anything else: of media, of a motion event, or of the health tick. -/
  | broadcast
  /-- The platforms add their entities. -/
  | addEntities
  | bringUp
  /-- The next base station of the bring-up at this place has answered. -/
  | registered (i : Nat) (baseId : String) (accepted : Bool)
  | broughtUp (i : Nat)

namespace LiveSystem

def start (devices : List DeviceInfo) : LiveSystem where
  live := { client := { devices := devices } }

/-- The coordinator moves on, and its entities follow if it pushes. -/
def take (sys : LiveSystem) (next : LiveState × Bool) : LiveSystem :=
  { sys with
    live := next.1
    shown := sys.shown.map (Shown.follow next.1 next.2)
    lights := sys.lights.map (SpotlightBrightness.follow next.1 next.2)
    unseen := if next.2 then [] else sys.unseen }

def addEntities (sys : LiveSystem) : LiveSystem :=
  { sys with
    shown := sys.shown ++ (Attribute.built sys.live.client.devices).map fun (attr, device) =>
      Shown.new sys.live attr device
    lights := sys.lights ++ (cameras sys.live.client.devices).map fun device =>
      { device := device } }

def beginBringUp (sys : LiveSystem) : LiveSystem :=
  let bases := (sys.live.client.devices.filter DeviceInfo.isBaseStation).map (·.deviceId)
  { sys with bringUps := sys.bringUps ++ [{ todo := bases }] }

/-- One base station of a bring-up: the connection changes, and nobody is told yet. -/
def register (sys : LiveSystem) (i : Nat) (baseId : String) (accepted : Bool) :
    Option LiveSystem :=
  match sys.bringUps[i]? with
  | none => none
  | some bringUp =>
    if bringUp.todo.head? = some baseId then
      let next := recordRegistration baseId accepted sys.live
      some { sys with
        live := next.1
        bringUps := sys.bringUps.set i ⟨bringUp.todo.tail, bringUp.changed || next.2⟩
        unseen := if next.2 then baseId :: sys.unseen else sys.unseen }
    else none

def endBringUp (sys : LiveSystem) (i : Nat) : Option LiveSystem :=
  match sys.bringUps[i]? with
  | none => none
  | some bringUp =>
    if bringUp.todo = [] then
      some { sys.take (sys.live, bringUp.changed) with bringUps := sys.bringUps.eraseIdx i }
    else none

def step (scalars : Scalars) (sys : LiveSystem) : LiveAct → Option LiveSystem
  | .frame topic payload through => some (sys.take (sys.live.dispatch scalars topic payload through))
  | .refreshed reply => some (sys.take (sys.live.refreshDeviceProperties scalars reply))
  | .located locations =>
    if sys.shown.isEmpty then
      some { sys with live := { sys.live with client := { sys.live.client with locations } } }
    else none
  | .modeSet locationId mode custom result =>
    some (sys.take (sys.live.recordMode locationId mode custom result))
  | .modeRefetched locationId revision =>
    some { sys with live := sys.live.recordRevision locationId revision }
  | .broadcast => some (sys.take (sys.live, true))
  | .addEntities => some sys.addEntities
  | .bringUp => some sys.beginBringUp
  | .registered i baseId accepted => sys.register i baseId accepted
  | .broughtUp i => sys.endBringUp i

def machine (scalars : Scalars) : Machine LiveSystem LiveAct where
  step := step scalars

/-- The entity can be behind: it shows the connection of a base station, and a bring-up has changed
that since the last broadcast. -/
def Behind (sys : LiveSystem) (e : Shown) : Prop :=
  e.attr = .connectivity ∧ e.device.gateway ∈ sys.unseen

instance (sys : LiveSystem) (e : Shown) : Decidable (sys.Behind e) :=
  inferInstanceAs (Decidable (_ ∧ _))

/-! ## The invariant -/

structure Inv (sys : LiveSystem) : Prop where
  lags : ∀ e ∈ sys.shown, e.screen.Lags Known sys.live
  shows : ∀ e ∈ sys.shown, ¬ sys.Behind e → e.screen.Shows sys.live

theorem inv_start (devices : List DeviceInfo) : (start devices).Inv where
  lags := fun _ h => absurd h List.not_mem_nil
  shows := fun _ h => absurd h List.not_mem_nil

section Steps

variable {scalars : Scalars} {sys : LiveSystem}

/-- The coordinator moves on without a push, and no entity shows the difference. -/
theorem Inv.quiet (h : sys.Inv) {live : LiveState} (hknown : Known sys.live live)
    (hsame : ∀ e ∈ sys.shown, e.screen.display.showing live = e.screen.display.showing sys.live) :
    Inv { sys with live := live } where
  lags := fun e he => (h.lags e he).mono fun _ hle => hle.trans hknown
  shows := fun e he hbehind => (h.shows e he hbehind).quiet (hsame e he)

/-- The coordinator moves on, and pushes unless it stays as it is. -/
theorem Inv.take (h : sys.Inv) {next : LiveState × Bool} (hknown : Known sys.live next.1)
    (hquiet : next.2 = false → next.1 = sys.live) : (sys.take next).Inv := by
  obtain ⟨live, pushed⟩ := next
  cases pushed with
  | true =>
    have hshows : ∀ e ∈ sys.shown, (e.screen.follow live true).Shows live := fun e he =>
      ((h.lags e he).mono fun _ hle => hle.trans hknown).update e.lawful
    constructor
    · intro e he
      obtain ⟨old, hold, rfl⟩ := List.mem_map.mp he
      exact (hshows old hold).lags (Known.refl live)
    · intro e he _
      obtain ⟨old, hold, rfl⟩ := List.mem_map.mp he
      exact hshows old hold
  | false =>
    have hlive : live = sys.live := hquiet rfl
    subst hlive
    constructor
    · intro e he
      obtain ⟨old, hold, rfl⟩ := List.mem_map.mp he
      exact h.lags old hold
    · intro e he hbehind
      obtain ⟨old, hold, rfl⟩ := List.mem_map.mp he
      exact h.shows old hold hbehind

theorem Inv.addEntities (h : sys.Inv) : sys.addEntities.Inv := by
  have hnew : ∀ e ∈ (Attribute.built sys.live.client.devices).map
      (fun (attr, device) => Shown.new sys.live attr device), e.screen.Shows sys.live := by
    intro e he
    obtain ⟨⟨attr, device⟩, -, rfl⟩ := List.mem_map.mp he
    exact Screen.shows_new _ _
  constructor
  · intro e he
    rcases List.mem_append.mp he with hold | hadded
    · exact h.lags e hold
    · exact (hnew e hadded).lags (Known.refl _)
  · intro e he hbehind
    rcases List.mem_append.mp he with hold | hadded
    · exact h.shows e hold hbehind
    · exact hnew e hadded

/-- A registration is seen in the connectivity of its base station alone. -/
theorem showing_recordRegistration (e : Shown) {baseId : String}
    (hother : e.attr = .connectivity → e.device.gateway ≠ baseId) (accepted : Bool)
    (c : LiveState) :
    e.screen.display.showing (recordRegistration baseId accepted c).1 =
      e.screen.display.showing c := by
  unfold recordRegistration
  split
  next => rfl
  next =>
    rw [e.display]
    cases hfield : e.attr.field with
    | none =>
      cases hcase : e.attr <;> simp [hcase, Attribute.field] at hfield
      rfl
    | some f =>
      rw [Attribute.showing_eq e.device hfield, Attribute.showing_eq e.device hfield,
        LiveState.view_setConnection]
      cases f with
      | connection =>
        have hattr : e.attr = .connectivity := by
          cases hcase : e.attr <;> simp [hcase, Attribute.field] at hfield ⊢
        have hkey : e.attr.key e.device = e.device.gateway := by rw [hattr]; rfl
        have hne : baseId ≠ e.attr.key e.device := by
          rw [hkey]
          exact (hother hattr).symm
        rw [Write.apply, Write.at?, Report.ofConnection, if_neg hne, Option.none_or]
      | _ => rw [Write.apply_of_none]; rfl

theorem view_recordRegistration (baseId : String) (accepted : Bool) (c : LiveState) :
    (recordRegistration baseId accepted c).1.view =
      [Report.ofConnection baseId (registrationState accepted)].foldl Write.apply c.view := by
  rw [List.foldl_cons, List.foldl_nil, ← LiveState.view_setConnection]
  unfold recordRegistration
  split
  next hsame => rw [LiveState.setConnection, Dict.set_get? hsame]
  next => rfl

theorem known_recordRegistration (baseId : String) (accepted : Bool) (c : LiveState) :
    Known c (recordRegistration baseId accepted c).1 :=
  known_of_reports (view_recordRegistration baseId accepted c)

theorem recordRegistration_quiet {baseId : String} {accepted : Bool} {c : LiveState}
    (h : (recordRegistration baseId accepted c).2 = false) :
    (recordRegistration baseId accepted c).1 = c := by
  unfold recordRegistration at h ⊢
  split_ifs at h ⊢
  rfl

theorem register_eq_some {i : Nat} {baseId : String} {accepted : Bool} {sys' : LiveSystem}
    (h : sys.register i baseId accepted = some sys') :
    ∃ bringUp, sys.bringUps[i]? = some bringUp ∧ sys' =
      { sys with
        live := (recordRegistration baseId accepted sys.live).1
        bringUps := sys.bringUps.set i ⟨bringUp.todo.tail,
          bringUp.changed || (recordRegistration baseId accepted sys.live).2⟩
        unseen := if (recordRegistration baseId accepted sys.live).2 then baseId :: sys.unseen
          else sys.unseen } := by
  unfold register at h
  split at h
  next => cases h
  next bringUp hbringUp =>
    split at h
    next =>
      cases h
      exact ⟨bringUp, hbringUp, rfl⟩
    next => cases h

theorem endBringUp_eq_some {i : Nat} {sys' : LiveSystem} (h : sys.endBringUp i = some sys') :
    ∃ bringUp, sys.bringUps[i]? = some bringUp ∧ sys' =
      { sys.take (sys.live, bringUp.changed) with bringUps := sys.bringUps.eraseIdx i } := by
  unfold endBringUp at h
  split at h
  next => cases h
  next bringUp hbringUp =>
    split at h
    next =>
      cases h
      exact ⟨bringUp, hbringUp, rfl⟩
    next => cases h

theorem Inv.register (h : sys.Inv) {i : Nat} {baseId : String} {accepted : Bool}
    {sys' : LiveSystem} (hstep : sys.register i baseId accepted = some sys') : sys'.Inv := by
  obtain ⟨bringUp, -, rfl⟩ := register_eq_some hstep
  constructor
  · intro e he
    exact (h.lags e he).mono fun _ hle => hle.trans (known_recordRegistration baseId accepted _)
  · intro e he hbehind
    cases hchanged : (recordRegistration baseId accepted sys.live).2 with
    | false =>
      have hlive := recordRegistration_quiet hchanged
      simp only [Behind, hchanged, Bool.false_eq_true, if_false] at hbehind
      rw [hlive]
      exact h.shows e he hbehind
    | true =>
      simp only [Behind, hchanged, if_true, List.mem_cons, not_and, not_or] at hbehind
      apply (h.shows e he fun hold => (hbehind hold.1).2 hold.2).quiet
      exact showing_recordRegistration e (fun hattr => (hbehind hattr).1) accepted sys.live

theorem Inv.endBringUp (h : sys.Inv) {i : Nat} {sys' : LiveSystem}
    (hstep : sys.endBringUp i = some sys') : sys'.Inv := by
  obtain ⟨bringUp, -, rfl⟩ := endBringUp_eq_some hstep
  have htake : (sys.take (sys.live, bringUp.changed)).Inv := h.take (Known.refl _) fun _ => rfl
  exact ⟨htake.lags, htake.shows⟩

theorem inv_located (hnone : sys.shown.isEmpty = true) (locations : Locations) :
    Inv { sys with live := { sys.live with client := { sys.live.client with locations } } } := by
  have hshown : sys.shown = [] := List.isEmpty_iff.mp hnone
  constructor <;> intro e he <;> simp [hshown] at he

theorem Inv.modeRefetched (h : sys.Inv) (locationId : String) (revision : Int) :
    Inv { sys with live := sys.live.recordRevision locationId revision } := by
  apply h.quiet
  · intro d field hnone
    rwa [LiveState.recordRevision, LiveState.view_client] at hnone
  · intro e _
    rw [e.display]
    exact Attribute.showing_congr e.device e.attr (LiveState.view_client _)
      (modeForDevice_setRevision _ _ _)

theorem Inv.step (h : sys.Inv) {act : LiveAct} {sys' : LiveSystem}
    (hstep : LiveSystem.step scalars sys act = some sys') : sys'.Inv := by
  cases act with
  | frame topic payload through =>
    cases hstep
    exact h.take (known_of_reports (LiveState.view_dispatch topic payload through))
      LiveState.dispatch_quiet
  | refreshed reply =>
    cases hstep
    exact h.take (known_of_reports (LiveState.view_refreshDeviceProperties reply))
      LiveState.refreshDeviceProperties_quiet
  | located locations =>
    simp only [LiveSystem.step] at hstep
    split at hstep
    next hnone =>
      cases hstep
      exact inv_located hnone locations
    next => cases hstep
  | modeSet locationId mode custom result =>
    cases hstep
    refine h.take ?_ fun hfalse => by cases hfalse
    exact Known.of_view (LiveState.view_client _)
  | modeRefetched locationId revision =>
    cases hstep
    exact h.modeRefetched locationId revision
  | broadcast =>
    cases hstep
    exact h.take (Known.refl _) fun _ => rfl
  | addEntities =>
    cases hstep
    exact h.addEntities
  | bringUp =>
    cases hstep
    exact ⟨h.lags, h.shows⟩
  | registered i baseId accepted => exact h.register hstep
  | broughtUp i => exact h.endBringUp hstep

end Steps

theorem inv_of_reachable {scalars : Scalars} {devices : List DeviceInfo} {sys : LiveSystem}
    (h : (machine scalars).Reachable (start devices) sys) : sys.Inv :=
  h.invariant (inv_start devices) fun _ _ _ hinv hstep => hinv.step hstep

end LiveSystem

def LiveAct.reports (scalars : Scalars) : LiveAct → List Report
  | .frame topic payload _ => LiveState.frameReports scalars topic payload
  | .refreshed reply => LiveState.stateReports scalars (.refresh reply)
  | .registered _ baseId accepted => [.ofConnection baseId (registrationState accepted)]
  | _ => []

namespace LiveSystem

section Sample

open Mqtt

section Frames

variable {d : String} {fields : List (String × Json)}

end Frames

end Sample

end LiveSystem

end Eisenberg.Entities
