import Eisenberg.Coordinator.Session
import Eisenberg.Values.Text

/-!
# Setting a location's mode

`async_set_active_mode` of the coordinator: one PUT under `call_with_session_retry`, and after an
API error a refetch of the revision and one more.
-/

namespace Eisenberg.Coordinator

open Framework

/-- The client's two requests on a location's mode. -/
inductive ModeRequest where
  | setActiveMode (locationId mode : String) (revision : Int)
      (custom : Option (Dict String String))
  | getActiveMode (locationId : String)

abbrev ModeAnswers : ModeRequest → Type := fun _ => ActiveModeState

abbrev ModeReply := Request.Reply ModeAnswers

abbrev ModeAsync := Async ModeAnswers

def unknownMode (locationId mode : String) : Exc :=
  .builtin .valueError s!"Unknown mode {pyRepr mode} for location {locationId}"

/-- What is sent for an option of the select: a standard mode, or a custom mode's label, sent as
"custom" plus the key each gateway runs. -/
def requestedMode (location : LocationState) (locationId mode : String) :
    Except Exc (String × Option (Dict String String)) :=
  if mode ∉ standardModes then
    let custom := location.customTarget mode
    if custom.entries.isEmpty then .error (unknownMode locationId mode)
    else .ok (customMode, some custom)
  else .ok (mode, none)

def updateLocations (f : Locations → Locations) (s : CoordinatorState) : CoordinatorState :=
  { s with locations := f s.locations }

/-- `_do_set`: the revision is read when the request is made. -/
def doSet (location : LocationState) (locationId mode : String)
    (custom : Option (Dict String String)) : ModeAsync ActiveModeState := do
  let current := ((← get).locations.get? locationId).getD location
  Co.await (Request.client (.setActiveMode locationId mode current.modeRevision custom))

/-- `revision or 1`. -/
def revisionOrOne (revision : Int) : Int := if revision = 0 then 1 else revision

/-- The location takes the revision and the mode of an accepted PUT. -/
def recordResult (locationId mode : String) (custom : Option (Dict String String))
    (result : ActiveModeState) (locations : Locations) : Locations :=
  let locations :=
    if result.revision ≠ 0 then locations.setRevision locationId result.revision else locations
  match result.properties with
  | some properties => locations.setMode locationId properties.mode properties.custom
  | none => locations.setMode locationId mode (custom.getD Dict.empty)

/-- The PUT, and after an API error the refetch and the second PUT. -/
def putMode (location : LocationState) (locationId mode : String)
    (custom : Option (Dict String String)) : ModeAsync ActiveModeState := do
  try callWithSessionRetry (doSet location locationId mode custom)
  catch err =>
    if err.isAPIError then
      let state ← Co.await (Request.client (.getActiveMode locationId))
      modify (updateLocations (·.setRevision locationId (revisionOrOne state.revision)))
      callWithSessionRetry (doSet location locationId mode custom)
    else throw err

/-- Set the security mode of one location via the v3 location API. -/
def asyncSetActiveMode (locationId mode : String) : ModeAsync Unit := do
  match (← get).locations.get? locationId with
  | none =>
    throw (.builtin .runtimeError s!"Unknown location {locationId} — cannot set mode")
  | some location =>
    match requestedMode location locationId mode with
    | .error err => throw err
    | .ok (mode, custom) =>
      let result ← putMode location locationId mode custom
      modify (updateLocations (recordResult locationId mode custom result))

/-!
### The three ways a call begins
-/

section Begin

variable {s : CoordinatorState} {l : LocationState} {locationId label mode : String}
variable {custom : Option (Dict String String)}

theorem asyncSetActiveMode_unknown (hl : s.locations.get? locationId = none) :
    (asyncSetActiveMode locationId label).advance s = (s, .done (.error (.builtin .runtimeError
      s!"Unknown location {locationId} — cannot set mode"))) := by
  show (match s.locations.get? locationId with | none => _ | some _ => _ : ModeAsync Unit).advance s
    = _
  rw [hl]
  rfl

theorem asyncSetActiveMode_advance (hl : s.locations.get? locationId = some l)
    (hrequested : requestedMode l locationId label = .ok (mode, custom)) :
    (asyncSetActiveMode locationId label).advance s =
      (putMode l locationId mode custom >>= fun result =>
        modify (updateLocations (recordResult locationId mode custom result))).advance s := by
  show (match s.locations.get? locationId with | none => _ | some _ => _ : ModeAsync Unit).advance s
    = _
  rw [hl]
  dsimp only
  rw [hrequested]

theorem asyncSetActiveMode_refused (hl : s.locations.get? locationId = some l) {err : Exc}
    (hrequested : requestedMode l locationId label = .error err) :
    (asyncSetActiveMode locationId label).advance s = (s, .done (.error err)) := by
  show (match s.locations.get? locationId with | none => _ | some _ => _ : ModeAsync Unit).advance s
    = _
  rw [hl]
  dsimp only
  rw [hrequested]
  rfl

end Begin

/-!
### What an answer does

The requests and their answers decide what a call does to the locations, whatever else runs: an
accepted PUT is recorded, a refetch moves the revision, and nothing else does anything.
-/

def effect : Co.Cause Exc ModeReply → Locations → Locations
  | .answered (.client (.setActiveMode locationId mode _ custom)) (.ok result), locations =>
    recordResult locationId mode custom result locations
  | .answered (.client (.getActiveMode locationId)) (.ok state), locations =>
    locations.setRevision locationId (revisionOrOne state.revision)
  | _, locations => locations

def ModeEffect (cause : Co.Cause Exc ModeReply) (s₀ s : CoordinatorState) : Prop :=
  s.locations = effect cause s₀.locations

/-- Arlo has just accepted a PUT. -/
def Accepted : Co.Cause Exc ModeReply → Prop
  | .answered (.client (.setActiveMode _ _ _ _)) (.ok _) => True
  | _ => False

/-- The effect is there, and the call has more to do: no PUT was accepted. -/
def Unfinished (cause : Co.Cause Exc ModeReply) (s₀ s : CoordinatorState) : Prop :=
  ModeEffect cause s₀ s ∧ ¬ Accepted cause

/-- The answer to a PUT of this mode has just come in. -/
def PutAnswered (locationId mode : String) (custom : Option (Dict String String))
    (cause : Co.Cause Exc ModeReply) (s₀ s : CoordinatorState)
    (result : Except Exc ActiveModeState) : Prop :=
  s = s₀ ∧ ∃ revision,
    cause = .answered (.client (.setActiveMode locationId mode revision custom)) result

/-- An accepted PUT has just come in, or the call has failed. -/
def PutReturned (locationId mode : String) (custom : Option (Dict String String))
    (cause : Co.Cause Exc ModeReply) (s₀ s : CoordinatorState) :
    Except Exc ActiveModeState → Prop
  | .ok result => PutAnswered locationId mode custom cause s₀ s (.ok result)
  | .error _ => Unfinished cause s₀ s

/-- A call returns on an accepted PUT of what its option asks for, and only then. -/
def SetReturned (s : CoordinatorState) (locationId label : String)
    (cause : Co.Cause Exc ModeReply) (s₀ s' : CoordinatorState) (result : Except Exc Unit) :
    Prop :=
  ModeEffect cause s₀ s' ∧ (Accepted cause → result = .ok () ∧
    ∃ location mode custom revision answer, s.locations.get? locationId = some location ∧
      requestedMode location locationId label = .ok (mode, custom) ∧
      cause = .answered (.client (.setActiveMode locationId mode revision custom)) (.ok answer))

section Segments

variable {locationId mode : String} {custom : Option (Dict String String)}
variable {location : LocationState} {cause : Co.Cause Exc ModeReply} {s₀ s : CoordinatorState}

theorem Unfinished.congr {s' : CoordinatorState} (h : Unfinished cause s₀ s)
    (hs : s'.locations = s.locations) : Unfinished cause s₀ s' :=
  ⟨hs.trans h.1, h.2⟩

theorem doSet_segments (h : Unfinished cause s₀ s) :
    Co.Segments Unfinished (PutAnswered locationId mode custom) cause s₀ s
      (doSet location locationId mode custom) :=
  ⟨h, fun _ _ => ⟨rfl, _, rfl⟩⟩

theorem loginSilent_segments (h : Unfinished cause s₀ s) :
    Co.Segments Unfinished (fun cause s₀ s _ => Unfinished cause s₀ s) cause s₀ s
      (loginSilent : ModeAsync Unit) := by
  refine ⟨h, ?_⟩
  intro r t
  cases r with
  | ok cookieJar => exact ⟨saveCookies_locations cookieJar { t with authIsDead := false }, id⟩
  | error err => exact ⟨rfl, id⟩

theorem unfinished_of_refused {err : Exc}
    (h : PutAnswered locationId mode custom cause s₀ s (.error err)) : Unfinished cause s₀ s := by
  obtain ⟨rfl, revision, rfl⟩ := h
  exact ⟨rfl, id⟩

theorem callWithSessionRetry_segments (h : Unfinished cause s₀ s) :
    Co.Segments Unfinished (PutReturned locationId mode custom) cause s₀ s
      (callWithSessionRetry (doSet location locationId mode custom)) := by
  rw [callWithSessionRetry_eq]
  show Co.Segments _ _ _ _ _ (if _ then _ else _)
  split
  · exact h
  · refine (doSet_segments h).handle (fun _ _ _ _ hput => hput) ?_
    intro cause s₀ s err hput
    have hrefused := unfinished_of_refused hput
    rw [retryAfterLogin]
    split
    · refine Co.Segments.bind (P := fun cause s₀ s _ => Unfinished cause s₀ s) ?_ ?_ ?_
      · refine (loginSilent_segments hrefused).handle (fun _ _ _ _ hlogin => hlogin) ?_
        intro cause s₀ s err hlogin
        split
        · exact hlogin.congr (markAuthDead_locations s)
        · exact hlogin
      · intro cause s₀ s _ hlogin
        refine (doSet_segments hlogin).mono (fun _ _ _ hR => hR) ?_
        intro cause s₀ s r hput
        cases r with
        | ok result => exact hput
        | error err => exact unfinished_of_refused hput
      · exact fun _ _ _ _ hlogin => hlogin
    · exact hrefused

theorem putMode_segments (h : Unfinished cause s₀ s) :
    Co.Segments Unfinished (PutReturned locationId mode custom) cause s₀ s
      (putMode location locationId mode custom) := by
  refine (callWithSessionRetry_segments h).handle (fun _ _ _ _ hput => hput) ?_
  intro cause s₀ s err hfailed
  split
  · refine ⟨hfailed, ?_⟩
    intro r t
    cases r with
    | ok state => exact callWithSessionRetry_segments ⟨rfl, id⟩
    | error err => exact ⟨rfl, id⟩
  · exact hfailed

theorem asyncSetActiveMode_segments (locationId label : String) (h : Unfinished cause s₀ s) :
    Co.Segments Unfinished (SetReturned s locationId label) cause s₀ s
      (asyncSetActiveMode locationId label) := by
  show Co.Segments _ _ _ _ _ (match s.locations.get? locationId with | none => _ | some _ => _)
  cases hfind : s.locations.get? locationId with
  | none => exact ⟨h.1, fun haccepted => absurd haccepted h.2⟩
  | some location =>
    dsimp only
    split
    next err _ => exact ⟨h.1, fun haccepted => absurd haccepted h.2⟩
    next mode custom hrequested =>
      refine (putMode_segments h).bind ?_ ?_
      · rintro cause s₀ s' result ⟨rfl, revision, rfl⟩
        exact ⟨rfl, fun _ =>
          ⟨rfl, location, mode, custom, revision, result, hfind, hrequested, rfl⟩⟩
      · intro cause s₀ s' err hfailed
        exact ⟨hfailed.1, fun haccepted => absurd haccepted hfailed.2⟩

/-- What recording an accepted PUT makes of its location. -/
def recorded (mode : String) (custom : Option (Dict String String)) (result : ActiveModeState)
    (l : LocationState) : LocationState :=
  let l := if result.revision ≠ 0 then l.setRevision result.revision else l
  match result.properties with
  | some properties => l.setMode properties.mode properties.custom
  | none => l.setMode mode (custom.getD Dict.empty)

theorem recordResult_get? (locationId mode : String) (custom : Option (Dict String String))
    (result : ActiveModeState) (locations : Locations) (j : String) :
    (recordResult locationId mode custom result locations).get? j =
      if j = locationId then (locations.get? j).map (recorded mode custom result)
      else locations.get? j := by
  unfold recordResult recorded
  by_cases hj : j = locationId
  · subst hj
    cases hproperties : result.properties <;> by_cases hrevision : result.revision = 0 <;>
      simp [hrevision, Locations.get?_setMode, Locations.get?_setRevision, Function.comp_def]
  · cases hproperties : result.properties <;> by_cases hrevision : result.revision = 0 <;>
      simp [hj, hrevision, Locations.get?_setMode, Locations.get?_setRevision]

@[simp] theorem recorded_customModes (mode : String) (custom : Option (Dict String String))
    (result : ActiveModeState) (l : LocationState) :
    (recorded mode custom result l).customModes = l.customModes := by
  unfold recorded
  cases result.properties <;> by_cases hrevision : result.revision = 0 <;>
    simp [hrevision, LocationState.setMode, LocationState.setRevision]

/-- The custom modes of a location are not for a call to change. -/
theorem effect_customModes {modes : Dict String (Dict String String)} {locations : Locations}
    (cause : Co.Cause Exc ModeReply)
    (h : (locations.get? locationId).map (·.customModes) = some modes) :
    ((effect cause locations).get? locationId).map (·.customModes) = some modes := by
  unfold effect
  split
  next putId mode _ custom result =>
    rw [recordResult_get?]
    split
    · rw [Option.map_map, ← h]
      exact congrArg (locations.get? locationId).map (funext (recorded_customModes _ _ _))
    · exact h
  next getId state =>
    rw [Locations.get?_setRevision]
    split
    next hid =>
      subst hid
      rw [Option.map_map, ← h]
      rfl
    · exact h
  next => exact h

theorem unfinished_started (s : CoordinatorState) : Unfinished .started s s := ⟨rfl, id⟩

end Segments

end Eisenberg.Coordinator
