import Eisenberg.Coordinator.ModeConvergence
import Eisenberg.Coordinator.ModeSelect
import Eisenberg.Coordinator.Setup

/-!
# The options of the mode select

What sets a location's modes, in any order: calls of `async_set_active_mode`, the mode events, and
the custom modes that the Arlo app creates, renames and deletes. The option list of the location is
always in order, and the select never shows an option outside of it.
-/

namespace Eisenberg

open Framework

namespace LocationState

/-! ## The option list -/

/-- Something may be added at the end, but nothing twice. -/
def Extends (options more : List String) : Prop :=
  options <+: more ∧ (options.Nodup → more.Nodup)

theorem Extends.refl (options : List String) : Extends options options :=
  ⟨List.prefix_refl _, id⟩

theorem Extends.trans {options more most : List String} (h : Extends options more)
    (h' : Extends more most) : Extends options most :=
  ⟨h.1.trans h'.1, fun hnodup => h'.2 (h.2 hnodup)⟩

theorem addOption_extends (options : List String) (label : String) :
    Extends options (addOption options label) := by
  unfold addOption
  split
  next => exact Extends.refl options
  next hnew =>
    constructor
    · exact List.prefix_append _ _
    · intro hnodup
      exact hnodup.append (List.nodup_singleton _) (List.disjoint_singleton.mpr hnew)

theorem foldl_extends {α : Type} {f : List String → α → List String}
    (hf : ∀ options a, Extends options (f options a)) (as : List α) (options : List String) :
    Extends options (as.foldl f options) := by
  induction as generalizing options with
  | nil => exact Extends.refl options
  | cons a as ih => exact (hf options a).trans (ih (f options a))

theorem modeOptions_extends (l : LocationState) : Extends standardModes l.modeOptions := by
  have hnamed : Extends standardModes (l.customModes.values.foldl
      (fun options modes => modes.values.foldl addOption options) standardModes) := by
    apply foldl_extends
    intro options modes
    exact foldl_extends addOption_extends modes.values options
  unfold modeOptions
  cases l.modeLabel with
  | none => exact hnamed
  | some active => exact hnamed.trans (addOption_extends _ active)

/-- A custom map is there only with the custom mode. -/
def Clean (l : LocationState) : Prop := l.activeMode ≠ some customMode → l.activeCustom = Dict.empty

/-- What the mode select needs of a location. -/
structure Consistent (l : LocationState) : Prop where
  standard : standardModes <+: l.modeOptions
  nodup : l.modeOptions.Nodup
  named : ∀ label, l.Named label → label ∈ l.modeOptions
  shown : ∀ label, l.modeLabel = some label → label ∈ l.modeOptions
  clean : l.Clean

theorem Clean.consistent {l : LocationState} (h : l.Clean) : l.Consistent where
  standard := l.modeOptions_extends.1
  nodup := l.modeOptions_extends.2 (by decide)
  named := fun _ hnamed => mem_modeOptions.mpr (Or.inr (Or.inl hnamed))
  shown := fun _ hshown => mem_modeOptions.mpr (Or.inr (Or.inr hshown))
  clean := h

/-! ## What sets the modes of a location -/

variable {l : LocationState}

theorem clean_setMode (mode : String) (custom : Dict String String) :
    (l.setMode mode custom).Clean := by
  intro hmode
  have hne : mode ≠ customMode := fun heq => hmode (congrArg some heq)
  simp [setMode, recordedCustom, hne]

theorem Clean.setRevision (h : l.Clean) (revision : Int) : (l.setRevision revision).Clean := h

def setCustomModes (l : LocationState) (modes : Dict String (Dict String String)) :
    LocationState :=
  { l with customModes := modes }

theorem Clean.setCustomModes (h : l.Clean) (modes : Dict String (Dict String String)) :
    (l.setCustomModes modes).Clean := h

end LocationState

namespace Locations

def setCustomModes (ls : Locations) (locationId : String)
    (modes : Dict String (Dict String String)) : Locations :=
  ls.modify locationId (·.setCustomModes modes) fun _ => rfl

def Clean (ls : Locations) : Prop := ∀ l ∈ ls.records, l.Clean

variable {ls : Locations}

theorem Clean.modify (h : ls.Clean) (locationId : String) {f : LocationState → LocationState}
    {hf : ∀ l, (f l).locationId = l.locationId} (hclean : ∀ l, l.Clean → (f l).Clean) :
    Clean (ls.modify locationId f hf) := by
  intro l hl
  obtain ⟨old, hold, rfl⟩ := List.mem_map.mp hl
  split
  · exact hclean old (h old hold)
  · exact h old hold

theorem Clean.setMode (h : ls.Clean) (locationId mode : String) (custom : Dict String String) :
    (ls.setMode locationId mode custom).Clean :=
  h.modify locationId fun _ _ => LocationState.clean_setMode mode custom

theorem Clean.setRevision (h : ls.Clean) (locationId : String) (revision : Int) :
    (ls.setRevision locationId revision).Clean :=
  h.modify locationId fun _ hl => hl.setRevision revision

theorem Clean.setCustomModes (h : ls.Clean) (locationId : String)
    (modes : Dict String (Dict String String)) : (ls.setCustomModes locationId modes).Clean :=
  h.modify locationId fun _ hl => hl.setCustomModes modes

end Locations

namespace Coordinator

/-! ## Custom modes events -/

/-- The labels of one gateway as `dict[str, str]`. Arlo's keys are texts. -/
def textKeyed (labels : List (Json × String)) : Option (Dict String String) :=
  (labels.mapM fun entry : Json × String => entry.1.str?.map fun key => (key, entry.2)).map
    Dict.ofEntries

/-- `custom_mode_labels(payload["properties"]["properties"])`, if nothing is raised. -/
def customModesOf (scalars : Scalars) (payload : Json) :
    Option (Dict String (Dict String String)) := do
  let properties ← payload.get? "properties"
  let raw ← properties.get? "properties"
  let labels ← (Client.customModeLabels scalars raw).toOption
  let gateways ← labels.mapM fun gateway => (textKeyed gateway.2).map fun modes =>
    (gateway.1, modes)
  return Dict.ofEntries gateways

/-- `_handle_custom_modes`: custom modes created, renamed or deleted in the Arlo app. -/
def handleCustomModes (scalars : Scalars) (payload : Json) (s : CoordinatorState) :
    CoordinatorState :=
  match (payload.get? "locationId").bind Json.str? with
  | some locationId =>
    match s.locations.get? locationId with
    | some _ =>
      match customModesOf scalars payload with
      | some modes => { s with locations := s.locations.setCustomModes locationId modes }
      | none => s
    | none => s
  | none => s

/-! ## The select -/

/-- `SecurityModeSelect`, with what Home Assistant reads of it. -/
structure SecurityModeSelect where
  locationId : String
  options : List String
  currentOption : Option String

namespace SecurityModeSelect

def new (location : LocationState) : SecurityModeSelect where
  locationId := location.locationId
  options := location.modeOptions
  currentOption := location.modeLabel

/-- `_handle_coordinator_update`. -/
def handleCoordinatorUpdate (locations : Locations) (select : SecurityModeSelect) :
    SecurityModeSelect :=
  match locations.get? select.locationId with
  | some location =>
    { select with options := location.modeOptions, currentOption := location.modeLabel }
  | none => { select with currentOption := none }

/-- Home Assistant accepts what is shown. -/
structure Consistent (select : SecurityModeSelect) : Prop where
  standard : standardModes <+: select.options
  nodup : select.options.Nodup
  current : ∀ label, select.currentOption = some label → label ∈ select.options

theorem consistent_of_location {select : SecurityModeSelect} {l : LocationState}
    (h : l.Consistent) :
    Consistent { select with options := l.modeOptions, currentOption := l.modeLabel } :=
  ⟨h.standard, h.nodup, h.shown⟩

theorem Consistent.handleCoordinatorUpdate {select : SecurityModeSelect} {locations : Locations}
    (h : select.Consistent) (hclean : locations.Clean) :
    (select.handleCoordinatorUpdate locations).Consistent := by
  unfold SecurityModeSelect.handleCoordinatorUpdate
  cases hl : locations.get? select.locationId with
  | some l => exact consistent_of_location (hclean l (Table.mem_of_get? hl)).consistent
  | none =>
    refine ⟨h.standard, h.nodup, ?_⟩
    rintro label ⟨⟩

end SecurityModeSelect

/-! ## Runs -/

/-- The coordinator with its calls under way, and the select of one location. -/
structure SelectSystem where
  pool : SetPool
  select : SecurityModeSelect

inductive SelectAction where
  /-- A call of `async_set_active_mode` starts, is answered in any way, or goes on. -/
  | call (event : PoolEvent (String × String) Exc ModeReply)
  | activeMode (payload : Json)
  | feed (payload : Json)
  | deviceStates (topic : String) (payload : Json)
  | customModes (payload : Json)
  /-- The custom modes of a location are replaced by any others. -/
  | relabel (locationId : String) (modes : Dict String (Dict String String))
  /-- `_push_to_entities`. -/
  | push

namespace SelectSystem

def start (client : CoordinatorState) (location : LocationState) : SelectSystem where
  pool := ⟨client, []⟩
  select := SecurityModeSelect.new location

/-- A handler that awaits nothing. -/
def handle (sys : SelectSystem) (f : CoordinatorState → CoordinatorState) : SelectSystem :=
  { sys with pool := { sys.pool with shared := f sys.pool.shared } }

def step (scalars : Scalars) (sys : SelectSystem) : SelectAction → Option SelectSystem
  | .call event => (Pool.step setActiveModeCall sys.pool event).map fun pool => { sys with pool }
  | .activeMode payload => some (sys.handle (handleActiveMode scalars payload))
  | .feed payload => some (sys.handle (handleFeed scalars payload))
  | .deviceStates topic payload => some (sys.handle (handleDeviceStates topic payload))
  | .customModes payload => some (sys.handle (handleCustomModes scalars payload))
  | .relabel locationId modes =>
    some (sys.handle (updateLocations (·.setCustomModes locationId modes)))
  | .push =>
    some { sys with select := sys.select.handleCoordinatorUpdate sys.pool.shared.locations }

def machine (scalars : Scalars) : Machine SelectSystem SelectAction where
  step := step scalars

end SelectSystem

/-- The location of the house that has one named custom mode. -/
def nightLocation : LocationState :=
  { homeLocation with
    customModes := Dict.ofEntries [("BASE-1", Dict.ofEntries [("mode4", "Night")])] }

section Clean

variable {s : CoordinatorState}

theorem clean_applyMode (h : s.locations.Clean) (locationId : Option String) (mode : String)
    (custom : Dict String String) : (applyMode locationId mode custom s).locations.Clean := by
  unfold applyMode
  split
  · split
    · exact h.setMode _ mode custom
    · exact h
  · split
    · exact h.setMode _ mode custom
    · exact h

theorem clean_handleActiveMode (h : s.locations.Clean) (scalars : Scalars) (payload : Json) :
    (handleActiveMode scalars payload s).locations.Clean := by
  unfold handleActiveMode
  split
  · exact clean_applyMode h _ _ _
  · exact h

theorem clean_handleFeed (h : s.locations.Clean) (scalars : Scalars) (payload : Json) :
    (handleFeed scalars payload s).locations.Clean := by
  unfold handleFeed
  split
  · split
    · split
      · exact clean_applyMode h _ _ _
      · exact h
    · exact h
  · exact h

theorem clean_handleDeviceStates (h : s.locations.Clean) (topic : String) (payload : Json) :
    (handleDeviceStates topic payload s).locations.Clean := by
  unfold handleDeviceStates
  split
  · exact clean_applyMode h _ _ _
  · exact h

theorem clean_handleCustomModes (h : s.locations.Clean) (scalars : Scalars) (payload : Json) :
    (handleCustomModes scalars payload s).locations.Clean := by
  unfold handleCustomModes
  split
  · split
    · split
      · exact h.setCustomModes _ _
      · exact h
    · exact h
  · exact h

theorem clean_recordResult {locations : Locations} (h : locations.Clean)
    (locationId mode : String) (custom : Option (Dict String String)) (result : ActiveModeState) :
    (recordResult locationId mode custom result locations).Clean := by
  have hrevision : Locations.Clean (if result.revision ≠ 0 then
      locations.setRevision locationId result.revision else locations) := by
    split
    · exact h.setRevision locationId _
    · exact h
  unfold recordResult
  cases result.properties with
  | some properties => exact hrevision.setMode locationId _ _
  | none => exact hrevision.setMode locationId _ _

theorem clean_effect {locations : Locations} (h : locations.Clean)
    (cause : Co.Cause Exc ModeReply) : (effect cause locations).Clean := by
  unfold effect
  split
  · exact clean_recordResult h _ _ _ _
  · exact h.setRevision _ _
  · exact h

/-- What the setup makes of a location: its record, with the mode if Arlo tells it, and any custom
modes. -/
def FromSetup (l : LocationState) : Prop :=
  ∃ info modes, l = (LocationState.fromInfo info).setCustomModes modes ∨
    ∃ state, l = (withActiveMode (LocationState.fromInfo info) state).setCustomModes modes

theorem FromSetup.clean {l : LocationState} (h : FromSetup l) : l.Clean := by
  obtain ⟨info, modes, rfl | ⟨state, rfl⟩⟩ := h
  · exact fun _ => rfl
  · apply LocationState.Clean.setCustomModes
    unfold withActiveMode
    cases state.properties with
    | some properties => exact LocationState.clean_setMode _ _
    | none => exact fun _ => rfl

end Clean

namespace SelectSystem

/-- What holds in every state of a run. -/
structure Sound (sys : SelectSystem) : Prop where
  within : ∀ th ∈ sys.pool.threads, th.status.Within ModeEffect
  clean : sys.pool.shared.locations.Clean
  select : sys.select.Consistent

variable {scalars : Scalars} {sys sys' : SelectSystem}

theorem Sound.handle (h : sys.Sound) {f : CoordinatorState → CoordinatorState}
    (hf : (f sys.pool.shared).locations.Clean) : (sys.handle f).Sound where
  within := h.within
  clean := hf
  select := h.select

/-- A call does to the locations what the answer it has got says, and nothing else. -/
theorem Sound.call (h : sys.Sound) {event : PoolEvent (String × String) Exc ModeReply}
    {pool : SetPool} (hstep : Pool.step setActiveModeCall sys.pool event = some pool) :
    Sound { sys with pool } := by
  refine ⟨Pool.step_within setActiveModeCall_within event h.within hstep, ?_, h.select⟩
  cases event with
  | start call =>
    have heffect : ModeEffect .started sys.pool.shared pool.shared := by
      rw [Pool.step_start hstep]
      exact (setActiveModeCall_within call sys.pool.shared).advance.1
    rw [heffect]
    exact clean_effect h.clean .started
  | answer t answers =>
    obtain ⟨call, calls, request, k, ht, rfl⟩ := Pool.step_answer hstep
    exact h.clean
  | deliver t =>
    obtain ⟨call, calls, request, r, k, ht, rfl⟩ := Pool.step_deliver hstep
    have heffect := Pool.deliver_within h.within ht
    show Locations.Clean _
    rw [heffect]
    exact clean_effect h.clean _

theorem Sound.step (h : sys.Sound) {action : SelectAction}
    (hstep : sys.step scalars action = some sys') : sys'.Sound := by
  cases action with
  | call event =>
    obtain ⟨pool, hpool, rfl⟩ := Option.map_eq_some_iff.mp hstep
    exact h.call hpool
  | activeMode payload =>
    cases hstep
    exact h.handle (clean_handleActiveMode h.clean scalars payload)
  | feed payload =>
    cases hstep
    exact h.handle (clean_handleFeed h.clean scalars payload)
  | deviceStates topic payload =>
    cases hstep
    exact h.handle (clean_handleDeviceStates h.clean topic payload)
  | customModes payload =>
    cases hstep
    exact h.handle (clean_handleCustomModes h.clean scalars payload)
  | relabel locationId modes =>
    cases hstep
    exact h.handle (h.clean.setCustomModes locationId modes)
  | push =>
    cases hstep
    exact ⟨h.within, h.clean, h.select.handleCoordinatorUpdate h.clean⟩

theorem sound_start {client : CoordinatorState} {location : LocationState}
    (hclean : client.locations.Clean) (hlocation : location ∈ client.locations.records) :
    (start client location).Sound where
  within := by
    intro th hth
    cases hth
  clean := hclean
  select := by
    have hconsistent := (hclean location hlocation).consistent
    exact ⟨hconsistent.standard, hconsistent.nodup, hconsistent.shown⟩

/-- In every run every location is consistent, and so is the select, whether or not it has heard of
the last change. -/
theorem modes_always_consistent (scalars : Scalars) (client : CoordinatorState)
    (location : LocationState) (hsetUp : ∀ l ∈ client.locations.records, FromSetup l)
    (hlocation : location ∈ client.locations.records) (actions : List SelectAction)
    (hrun : (machine scalars).run (start client location) actions = some sys) :
    (∀ l ∈ sys.pool.shared.locations.records, l.Consistent) ∧ sys.select.Consistent := by
  have hsound : sys.Sound := by
    apply (machine scalars).run_invariant (I := Sound) ?_ ?_ hrun
    · intro s action s' hs hstep
      exact hs.step hstep
    · exact sound_start (fun l hl => (hsetUp l hl).clean) hlocation
  constructor
  · intro l hl
    exact (hsound.clean l hl).consistent
  · exact hsound.select

/-- The house runs `Night`, which is then deleted in the Arlo app. -/
def nightDeleted : List SelectAction :=
  [.activeMode (.obj [("locationId", .str "home"),
    ("properties", .obj [("revision", .int 7),
      ("properties", .obj [("mode", .str "custom"),
        ("custom", .obj [("BASE-1", .str "mode4")])])])]),
   .push,
   .customModes (.obj [("locationId", .str "home"),
    ("properties", .obj [("properties", .obj [("BASE-1", .obj [])])])]),
   .push]

/-- The select then shows the key of the mode, as an option. -/
theorem nightDeleted_consistent :
    ∃ sys, (machine plainScalars).run (start houseWithNight nightLocation) nightDeleted = some sys ∧
      sys.select.currentOption = some "mode4" ∧ "mode4" ∈ sys.select.options := by
  have hsetUp : ∀ l ∈ houseWithNight.locations.records, FromSetup l := by
    intro l hl
    cases List.mem_singleton.mp hl
    exact ⟨⟨"home", none, ["OWNER_BASE-1"]⟩, nightLocation.customModes,
      Or.inr ⟨{ properties := some { mode := "armAway" } }, rfl⟩⟩
  refine ⟨_, rfl, rfl, ?_⟩
  exact (modes_always_consistent plainScalars houseWithNight nightLocation hsetUp
    List.mem_cons_self nightDeleted rfl).2.current "mode4" rfl

end SelectSystem

end Coordinator

end Eisenberg
