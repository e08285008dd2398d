import Eisenberg.Entities.Coherence

/-!
# The brightness a spotlight shows

A report of a spotlight replaces the one before, with or without an intensity; the light keeps the
last intensity it was given. No intensity is missed, since each one is pushed as it comes in.
-/

namespace Eisenberg.Entities

open Framework Coordinator Mqtt

/-- The spotlight state that an act brings in for the device. -/
def LiveAct.spotlight (scalars : Scalars) (d : String) : LiveAct → Option SpotlightState
  | .frame topic payload _ =>
    if Handler.cameraState ∈ eventRouter.matching topic then
      (LiveState.frameSpotlight scalars topic payload).bind fun (camera, state) =>
        if camera = d then some state else none
    else none
  | _ => none

theorem LiveAct.spotlight_frame (scalars : Scalars) (d topic : String) (payload : Json)
    (through : Bool) : (LiveAct.frame topic payload through).spotlight scalars d =
      if Handler.cameraState ∈ eventRouter.matching topic then
        (LiveState.frameSpotlight scalars topic payload).bind fun (camera, state) =>
          if camera = d then some state else none
      else none := rfl

def LiveAct.intensity (scalars : Scalars) (d : String) (act : LiveAct) : Option Int :=
  (act.spotlight scalars d).bind fun state => state.intensity

section Store

variable {scalars : Scalars} {c : LiveState}

theorem spotlightStates_mergeDeviceState (s : DeviceStore) (d : String) (state : DeviceState) :
    (s.mergeDeviceState d state).spotlightStates = s.spotlightStates := by
  unfold DeviceStore.mergeDeviceState
  split <;> rfl

theorem spotlightStates_recordConnection (s : DeviceStore) (d : String) (state : DeviceState) :
    (s.recordConnection d state).spotlightStates = s.spotlightStates := by
  unfold DeviceStore.recordConnection
  split <;> rfl

theorem spotlightStates_foldl_applyBlock (blocks : List (String × Json)) (s : DeviceStore) :
    (blocks.foldl (fun s entry => s.applyBlock scalars entry.1 entry.2) s).spotlightStates =
      s.spotlightStates := by
  induction blocks generalizing s with
  | nil => rfl
  | cons block blocks ih =>
    rw [List.foldl_cons, ih, DeviceStore.applyBlock]
    split
    · rfl
    · rw [spotlightStates_recordConnection, spotlightStates_mergeDeviceState]

theorem spotlightStates_handleCameraState (topic : String) (payload : Json) :
    (c.handleCameraState scalars topic payload).1.store.spotlightStates =
      match LiveState.frameSpotlight scalars topic payload with
      | some (d, state) => c.store.spotlightStates.set d state
      | none => c.store.spotlightStates := by
  cases payload with
  | obj fields =>
    cases hd : (splitTopic topic)[4]? with
    | none =>
      simp [LiveState.handleCameraState, DeviceStore.handleCameraState, LiveState.frameSpotlight,
        LiveState.topicBlock, hd]
    | some d =>
      cases hvalid : DeviceState.validate scalars (DeviceStore.cameraBlock fields) with
      | none =>
        simp [LiveState.handleCameraState, DeviceStore.handleCameraState,
          LiveState.frameSpotlight, LiveState.topicBlock, hd, hvalid]
      | some state =>
        simp only [LiveState.handleCameraState, DeviceStore.handleCameraState,
          LiveState.frameSpotlight, LiveState.topicBlock, hd, hvalid,
          LiveState.recordSpotlight_eq]
        cases LiveState.spotlightOf scalars (DeviceStore.cameraBlock fields) with
        | none => exact spotlightStates_mergeDeviceState c.store d state
        | some spotlight =>
          exact congrArg (fun states => states.set d spotlight)
            (spotlightStates_mergeDeviceState c.store d state)
  | _ =>
    cases hd : (splitTopic topic)[4]? <;>
      simp [LiveState.handleCameraState, DeviceStore.handleCameraState, LiveState.frameSpotlight,
        hd]

theorem spotlightStates_handle (topic : String) (payload : Json) (through : Bool)
    {handler : Handler} (h : handler ≠ .cameraState) :
    (c.handle scalars topic payload through handler).1.store.spotlightStates =
      c.store.spotlightStates := by
  cases handler with
  | cameraState => exact absurd rfl h
  | sensorState =>
    show (c.store.handleSensorState scalars topic payload).1.spotlightStates = _
    unfold DeviceStore.handleSensorState
    split
    · rfl
    · split
      · split
        · rfl
        · exact spotlightStates_mergeDeviceState ..
      · rfl
  | siren =>
    show (c.handleSiren scalars topic payload).1.store.spotlightStates = _
    unfold LiveState.handleSiren
    split
    · split <;> rfl
    · rfl
  | basestation =>
    show (c.handleBasestation scalars payload).1.store.spotlightStates = _
    unfold LiveState.handleBasestation
    split
    · rfl
    · split
      · rfl
      · split <;> rfl
  | subscriptionAck =>
    show (c.handleSubscriptionAck payload).1.store.spotlightStates = _
    unfold LiveState.handleSubscriptionAck
    split
    · rfl
    · split <;> rfl
  | devicesResponse =>
    cases payload with
    | obj fields => exact spotlightStates_foldl_applyBlock (DeviceStore.responseBlocks fields) _
    | _ => rfl
  | _ => rfl

/-- The spotlights after a frame: the one that it brings in, in its place. -/
theorem get?_spotlightStates_dispatch (topic : String) (payload : Json) (through : Bool)
    (d : String) :
    (c.dispatch scalars topic payload through).1.store.spotlightStates.get? d =
      ((LiveAct.frame topic payload through).spotlight scalars d).or
        (c.store.spotlightStates.get? d) := by
  rw [LiveAct.spotlight_frame]
  rcases LiveState.dispatch_cases scalars topic payload through c with
    ⟨hmatching, hnone⟩ | ⟨handler, hmatching, hone⟩
  · rw [hnone, hmatching]
    rfl
  · rw [hone, hmatching]
    by_cases hcamera : handler = .cameraState
    · subst hcamera
      rw [if_pos (List.mem_singleton_self _)]
      show (c.handleCameraState scalars topic payload).1.store.spotlightStates.get? d = _
      rw [spotlightStates_handleCameraState]
      cases LiveState.frameSpotlight scalars topic payload with
      | none => rfl
      | some report =>
        obtain ⟨camera, state⟩ := report
        by_cases hd : camera = d
        · simp [hd]
        · simp [hd, Dict.get?_set_of_ne _ (Ne.symm hd)]
    · rw [if_neg fun h => hcamera (List.mem_singleton.mp h).symm, Option.none_or,
        spotlightStates_handle topic payload through hcamera]

theorem dispatch_pushed {topic : String} {payload : Json} {through : Bool} {d : String}
    {state : SpotlightState}
    (h : (LiveAct.frame topic payload through).spotlight scalars d = some state) :
    (c.dispatch scalars topic payload through).2 = true := by
  by_contra hquiet
  rw [Bool.not_eq_true] at hquiet
  rw [LiveAct.spotlight_frame] at h
  rcases LiveState.dispatch_cases scalars topic payload through c with
    ⟨hmatching, -⟩ | ⟨handler, hmatching, hone⟩
  · simp [hmatching] at h
  · rw [hmatching] at h
    split at h
    next hcamera =>
      rw [List.mem_singleton] at hcamera
      subst hcamera
      rw [hone] at hquiet
      have hblock : LiveState.topicBlock scalars DeviceStore.cameraBlock topic payload = none := by
        simpa [LiveState.handle, LiveState.handleCameraState] using hquiet
      cases payload with
      | obj fields => simp [LiveState.frameSpotlight, hblock] at h
      | _ => simp [LiveState.frameSpotlight] at h
    next => cases h

end Store

/-! ## The lights after a step -/

namespace SpotlightBrightness

/-- Once updated, the light shows the intensity of its spotlight, if that has one. -/
def Current (l : SpotlightBrightness) (c : LiveState) : Prop :=
  l.updated = true → ∀ i, intensity l.device.deviceId c = some i → l.value = some (brightnessOf i)

/-- What an act makes of a light. -/
structure Follows (scalars : Scalars) (act : LiveAct) (c c' : LiveState)
    (l l' : SpotlightBrightness) : Prop where
  device : l'.device = l.device
  updated : l.updated = true → l'.updated = true
  current : l.Current c → l'.Current c'
  value : l.updated = true → l.Current c →
    l'.value = ((act.intensity scalars l.device.deviceId).map brightnessOf).or l.value

/-- The spotlight states after an act: the one it brings in, or the one before. -/
def Brings (scalars : Scalars) (act : LiveAct) (c c' : LiveState) : Prop :=
  ∀ d, c'.store.spotlightStates.get? d =
    (act.spotlight scalars d).or (c.store.spotlightStates.get? d)

variable {scalars : Scalars} {act : LiveAct} {c c' : LiveState}

theorem intensity_of_brings (h : Brings scalars act c c') {d : String}
    (hnone : act.spotlight scalars d = none) : intensity d c' = intensity d c := by
  rw [intensity, h d, hnone]
  rfl

theorem follows_update (h : Brings scalars act c c') (l : SpotlightBrightness) :
    Follows scalars act c c' l (l.update c') where
  device := rfl
  updated := fun _ => rfl
  current := by
    intro _ _ i hi
    show ((intensity l.device.deviceId c').map brightnessOf).or l.value = some (brightnessOf i)
    have hi' : intensity l.device.deviceId c' = some i := hi
    rw [hi']
    rfl
  value := by
    intro hupdated hcurrent
    show ((intensity l.device.deviceId c').map brightnessOf).or l.value = _
    cases hspotlight : act.spotlight scalars l.device.deviceId with
    | some state => rw [intensity, h, LiveAct.intensity, hspotlight, Option.some_or]
    | none =>
      rw [intensity_of_brings h hspotlight, LiveAct.intensity, hspotlight]
      cases hi : intensity l.device.deviceId c with
      | none => rfl
      | some i => exact (hcurrent hupdated i hi).symm

theorem follows_refl (h : Brings scalars act c c') (hnone : ∀ d, act.spotlight scalars d = none)
    (l : SpotlightBrightness) : Follows scalars act c c' l l where
  device := rfl
  updated := id
  current := fun hcurrent hupdated i hi =>
    hcurrent hupdated i ((intensity_of_brings h (hnone _)).symm.trans hi)
  value := by
    intro _ _
    rw [LiveAct.intensity, hnone]
    rfl

theorem follows_follow {next : LiveState × Bool} (h : Brings scalars act c next.1)
    (hpushed : next.2 = false → ∀ d, act.spotlight scalars d = none) (l : SpotlightBrightness) :
    Follows scalars act c next.1 l (l.follow next.1 next.2) := by
  obtain ⟨live, pushed⟩ := next
  cases pushed with
  | true => exact follows_update h l
  | false => exact follows_refl h (hpushed rfl) l

end SpotlightBrightness

namespace LiveSystem

open SpotlightBrightness

variable {scalars : Scalars} {sys sys' : LiveSystem} {act : LiveAct}

/-- The lights after an act: those there were, each as the act makes it, and new ones. -/
def LightsStep (scalars : Scalars) (act : LiveAct) (sys sys' : LiveSystem) : Prop :=
  ∃ f new, sys'.lights = sys.lights.map f ++ new ∧
    (∀ l, Follows scalars act sys.live sys'.live l (f l)) ∧ ∀ l ∈ new, l.updated = false

theorem lightsStep_take {next : LiveState × Bool} (h : Brings scalars act sys.live next.1)
    (hpushed : next.2 = false → ∀ d, act.spotlight scalars d = none) :
    LightsStep scalars act sys (sys.take next) :=
  ⟨SpotlightBrightness.follow next.1 next.2, [], (List.append_nil _).symm,
    follows_follow h hpushed, by simp⟩

theorem lightsStep_same (hlights : sys'.lights = sys.lights)
    (hstates : sys'.live.store.spotlightStates = sys.live.store.spotlightStates)
    (hnone : ∀ d, act.spotlight scalars d = none) : LightsStep scalars act sys sys' := by
  refine ⟨id, [], by simp [hlights], ?_, by simp⟩
  intro l
  apply follows_refl _ hnone
  intro d
  rw [hstates, hnone, Option.none_or]

theorem spotlightStates_recordRegistration (baseId : String) (accepted : Bool) (c : LiveState) :
    (recordRegistration baseId accepted c).1.store.spotlightStates = c.store.spotlightStates := by
  unfold recordRegistration
  split <;> rfl

theorem lightsStep (h : step scalars sys act = some sys') : LightsStep scalars act sys sys' := by
  cases act with
  | frame topic payload through =>
    cases h
    apply lightsStep_take
    · exact get?_spotlightStates_dispatch topic payload through
    · intro hquiet d
      cases hstate : (LiveAct.frame topic payload through).spotlight scalars d with
      | none => rfl
      | some state =>
        rw [dispatch_pushed hstate] at hquiet
        cases hquiet
  | refreshed reply =>
    cases h
    apply lightsStep_take _ fun _ _ => rfl
    intro d
    cases reply with
    | error err => rfl
    | ok devices =>
      show (DeviceStore.spotlightStates (List.foldl _ _ _)).get? d = _
      rw [spotlightStates_foldl_applyBlock]
      rfl
  | located locations =>
    simp only [step] at h
    split at h
    next =>
      cases h
      exact lightsStep_same rfl rfl fun _ => rfl
    next => cases h
  | modeSet locationId mode custom result =>
    cases h
    exact lightsStep_take (fun _ => rfl) fun _ _ => rfl
  | modeRefetched locationId revision =>
    cases h
    exact lightsStep_same rfl rfl fun _ => rfl
  | broadcast =>
    cases h
    exact lightsStep_take (fun _ => rfl) fun _ _ => rfl
  | addEntities =>
    cases h
    refine ⟨id, (cameras sys.live.client.devices).map fun device => { device := device },
      ?_, ?_, ?_⟩
    · rw [List.map_id]
      rfl
    · exact follows_refl (fun _ => rfl) fun _ => rfl
    · intro l hl
      obtain ⟨device, -, rfl⟩ := List.mem_map.mp hl
      rfl
  | bringUp =>
    cases h
    exact lightsStep_same rfl rfl fun _ => rfl
  | registered i baseId accepted =>
    obtain ⟨bringUp, -, rfl⟩ := register_eq_some h
    exact lightsStep_same rfl (spotlightStates_recordRegistration baseId accepted sys.live)
      fun _ => rfl
  | broughtUp i =>
    obtain ⟨bringUp, -, rfl⟩ := endBringUp_eq_some h
    have hbrings : Brings scalars (.broughtUp i) sys.live (sys.live, bringUp.changed).1 :=
      fun _ => rfl
    exact lightsStep_take hbrings fun _ _ => rfl

theorem current_step (h : step scalars sys act = some sys')
    (hcurrent : ∀ l ∈ sys.lights, l.Current sys.live) :
    ∀ l ∈ sys'.lights, l.Current sys'.live := by
  obtain ⟨f, new, hlights, hfollows, hnew⟩ := lightsStep h
  intro l hl
  rw [hlights] at hl
  rcases List.mem_append.mp hl with hold | hadded
  · obtain ⟨old, hmem, rfl⟩ := List.mem_map.mp hold
    exact (hfollows old).current (hcurrent old hmem)
  · intro hupdated
    rw [hnew l hadded] at hupdated
    cases hupdated

end LiveSystem

end Eisenberg.Entities
