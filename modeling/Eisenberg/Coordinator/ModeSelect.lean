import Eisenberg.Coordinator.Modes
import Eisenberg.Coordinator.SetActiveMode

/-!
# Selecting an offered mode

The options of a location's select against what `async_set_active_mode` makes of them. The options
that name a mode reach Arlo and are shown once accepted; an option that is there only because it is
the running mode is refused before anything is sent.
-/

namespace Eisenberg.Coordinator

open Framework

section Requested

variable {l : LocationState} {locationId label mode : String}
variable {custom : Option (Dict String String)}

theorem requestedMode_eq_ok (h : requestedMode l locationId label = .ok (mode, custom)) :
    l.Selects label mode custom := by
  unfold requestedMode at h
  split at h
  next hstandard =>
    dsimp only at h
    split at h
    next => cases h
    next hnonempty =>
      cases h
      have hnamed : l.Named label := by
        by_contra hnot
        rw [LocationState.customTarget_entries_eq_nil.mpr hnot] at hnonempty
        exact hnonempty rfl
      exact Or.inr ⟨hstandard, hnamed, rfl, rfl⟩
  next hstandard =>
    cases h
    exact Or.inl ⟨not_not.mp hstandard, rfl, rfl⟩

theorem requestedMode_of_offered (locationId : String) (h : label ∈ standardModes ∨ l.Named label) :
    ∃ mode custom, requestedMode l locationId label = .ok (mode, custom) := by
  unfold requestedMode
  by_cases hstandard : label ∈ standardModes
  · exact ⟨label, none, if_neg (not_not.mpr hstandard)⟩
  · have hnamed := h.resolve_left hstandard
    have hnonempty : ¬ (l.customTarget label).entries.isEmpty = true := by
      rw [List.isEmpty_iff]
      exact fun hnil => LocationState.customTarget_entries_eq_nil.mp hnil hnamed
    refine ⟨customMode, some (l.customTarget label), ?_⟩
    rw [if_pos hstandard]
    exact if_neg hnonempty

theorem requestedMode_of_unnamed (hstandard : label ∉ standardModes) (hnamed : ¬ l.Named label) :
    requestedMode l locationId label = .error (unknownMode locationId label) := by
  unfold requestedMode
  rw [if_pos hstandard]
  simp only [LocationState.customTarget_entries_eq_nil.mpr hnamed]
  rfl

end Requested

section Calls

variable {s : CoordinatorState} {l : LocationState} {locationId label mode : String}
variable {custom : Option (Dict String String)}

theorem callWithSessionRetry_advance {ι T : Type} {ρ : ι → Type} (op : Async ρ T)
    (hlive : s.authIsDead = false) :
    (callWithSessionRetry op).advance s = (tryCatch op (retryAfterLogin op)).advance s := by
  rw [callWithSessionRetry_eq, Co.advance_get, hlive]
  rfl

/-- The first thing a call does is send its PUT, with the revision the location has. -/
theorem asyncSetActiveMode_contacts (hlive : s.authIsDead = false)
    (hl : s.locations.get? locationId = some l)
    (hrequested : requestedMode l locationId label = .ok (mode, custom)) :
    ∃ k, (asyncSetActiveMode locationId label).advance s =
      (s, .waiting (.client (.setActiveMode locationId mode l.modeRevision custom)) k) := by
  have hset : (doSet l locationId mode custom).advance s =
      (s, .waiting (.client (.setActiveMode locationId mode l.modeRevision custom)) .ret) := by
    show (s, Co.Stop.waiting (Request.client (ModeRequest.setActiveMode locationId mode
      ((s.locations.get? locationId).getD l).modeRevision custom)) _) = _
    rw [hl]
    rfl
  have hcall := callWithSessionRetry_advance (doSet l locationId mode custom) hlive
  rw [Co.advance_tryCatch_waiting hset] at hcall
  rw [asyncSetActiveMode_advance hl hrequested]
  exact ⟨_, Co.advance_bind_waiting (Co.advance_tryCatch_waiting hcall)⟩

/-- What is changed here is not the custom modes of the location. -/
def KeepsLabels (locationId : String) (others : CoordinatorState → CoordinatorState) : Prop :=
  ∀ t, ((others t).locations.get? locationId).map (·.customModes) =
    (t.locations.get? locationId).map (·.customModes)

/-- A call sends what selects its option. Whatever runs in between, as long as the custom modes of
the location stay: whichever PUT the call is waiting for, when Arlo accepts it and echoes the mode
and the custom map, the call returns and the location shows the option. -/
def Selectable (s : CoordinatorState) (l : LocationState) (locationId label : String) : Prop :=
  (∃ mode custom k, l.Selects label mode custom ∧
    (asyncSetActiveMode locationId label).advance s =
      (s, .waiting (.client (.setActiveMode locationId mode l.modeRevision custom)) k)) ∧
  ∀ turns t putId mode revision custom k others result,
    (∀ turn ∈ turns, KeepsLabels locationId turn.others) →
    (asyncSetActiveMode locationId label).drive turns s =
      (t, .waiting (.client (.setActiveMode putId mode revision custom)) k) →
    KeepsLabels locationId others →
    result.properties = some ⟨mode, custom.getD Dict.empty⟩ →
    putId = locationId ∧ ∃ s' l', (k (.ok result)).advance (others t) = (s', .done (.ok ())) ∧
      s'.locations.get? locationId = some l' ∧ l'.modeLabel = some label

def HasLabels (locationId : String) (modes : Dict String (Dict String String))
    (s : CoordinatorState) : Prop :=
  (s.locations.get? locationId).map (·.customModes) = some modes

theorem KeepsLabels.hasLabels {modes : Dict String (Dict String String)}
    {others : CoordinatorState → CoordinatorState} (hkeeps : KeepsLabels locationId others)
    {t : CoordinatorState} (ht : HasLabels locationId modes t) :
    HasLabels locationId modes (others t) :=
  (hkeeps t).trans ht

theorem Unfinished.hasLabels {modes : Dict String (Dict String String)}
    {cause : Co.Cause Exc ModeReply} {t u : CoordinatorState} (hstep : Unfinished cause t u)
    (ht : HasLabels locationId modes t) : HasLabels locationId modes u := by
  unfold HasLabels
  rw [hstep.1]
  exact effect_customModes cause ht

theorem accepted_put_shows (hl : s.locations.get? locationId = some l)
    {turns : List (Co.Turn CoordinatorState Exc ModeReply)} {t : CoordinatorState}
    {putId : String} {revision : Int} {k : Except Exc ActiveModeState → ModeAsync Unit}
    {others : CoordinatorState → CoordinatorState} {result : ActiveModeState}
    (hturns : ∀ turn ∈ turns, KeepsLabels locationId turn.others)
    (hdrive : (asyncSetActiveMode locationId label).drive turns s =
      (t, .waiting (.client (.setActiveMode putId mode revision custom)) k))
    (hothers : KeepsLabels locationId others)
    (hecho : result.properties = some ⟨mode, custom.getD Dict.empty⟩) :
    putId = locationId ∧ ∃ s' l', (k (.ok result)).advance (others t) = (s', .done (.ok ())) ∧
      s'.locations.get? locationId = some l' ∧ l'.modeLabel = some label := by
  have hstart : HasLabels locationId l.customModes s := by
    rw [HasLabels, hl]
    rfl
  obtain ⟨last, u, hu, hends⟩ := (asyncSetActiveMode_segments locationId label
    (unfinished_started s)).drive (fun _ _ _ hstep => hstep.hasLabels) hstart turns
    fun turn hturn _ => (hturns turn hturn).hasLabels
  rw [hdrive] at hends
  have ht : HasLabels locationId l.customModes (others t) :=
    hothers.hasLabels (hends.1.hasLabels hu)
  have hreturn := (hends.2 (.ok result) (others t)).advance
  cases hstop : (k (.ok result)).advance (others t) with
  | mk s' stop =>
    rw [hstop] at hreturn
    cases stop with
    | waiting i k' => exact absurd trivial hreturn.1.2
    | done returned =>
      obtain ⟨heffect, hreturned⟩ := hreturn
      obtain ⟨rfl, location, mode', custom', revision', answer, hlocation, hrequested, hcause⟩ :=
        hreturned trivial
      rw [hl] at hlocation
      cases hlocation
      cases hcause
      obtain ⟨l', hl', hmodes⟩ := Option.map_eq_some_iff.mp ht
      refine ⟨rfl, s', recorded mode custom result l', rfl, ?_, ?_⟩
      · rw [heffect, effect, recordResult_get?, if_pos rfl, hl']
        rfl
      · have hselects := requestedMode_eq_ok hrequested
        rw [recorded, hecho]
        refine hselects.modeLabel ?_
        rw [← hmodes]
        split <;> rfl

/-- Every option that is a standard mode or names a custom one is selectable; any other option is
the running mode, and selecting it fails before Arlo is contacted. -/
theorem offered_mode_selectable (s : CoordinatorState) (l : LocationState)
    (locationId label : String) (hlive : s.authIsDead = false)
    (hl : s.locations.get? locationId = some l) (hoffered : label ∈ l.modeOptions) :
    (label ∈ standardModes ∨ l.Named label → Selectable s l locationId label) ∧
      (¬ (label ∈ standardModes ∨ l.Named label) → l.modeLabel = some label ∧
        (asyncSetActiveMode locationId label).advance s =
          (s, .done (.error (unknownMode locationId label)))) := by
  constructor
  · intro hnames
    obtain ⟨mode, custom, hrequested⟩ := requestedMode_of_offered locationId hnames
    obtain ⟨k, hk⟩ := asyncSetActiveMode_contacts hlive hl hrequested
    refine ⟨⟨mode, custom, k, requestedMode_eq_ok hrequested, hk⟩, ?_⟩
    intro turns t putId mode revision custom k others result hturns hdrive hothers hecho
    exact accepted_put_shows hl hturns hdrive hothers hecho
  · intro hnames
    obtain ⟨hstandard, hnamed⟩ := not_or.mp hnames
    have hactive := (LocationState.mem_modeOptions.mp hoffered).resolve_left hstandard
    exact ⟨hactive.resolve_left hnamed,
      asyncSetActiveMode_refused hl (requestedMode_of_unnamed hstandard hnamed)⟩

end Calls

/-!
### A house with a custom mode

Arlo migrated the pre-v3 modes in as `armed` and `disarmed`, without a name; the user named one.
-/

def houseWithNight : CoordinatorState where
  locations := ⟨[{ homeLocation with
    customModes := Dict.ofEntries [("BASE-1", Dict.ofEntries [("mode4", "Night")])] }], by decide⟩

theorem offered_mode_selectable_night :
    Selectable houseWithNight
      { homeLocation with
        customModes := Dict.ofEntries [("BASE-1", Dict.ofEntries [("mode4", "Night")])] }
      "home" "Night" :=
  (offered_mode_selectable houseWithNight _ "home" "Night" rfl rfl (by decide)).1
    (Or.inr ⟨"BASE-1", Dict.ofEntries [("mode4", "Night")], "mode4", by decide, by decide⟩)

/-- The house after Arlo says that it runs the nameless `armed`. -/
def houseRunningArmed : CoordinatorState :=
  handleActiveMode plainScalars
    (.obj [("locationId", .str "home"),
      ("properties", .obj [("revision", .int 7),
        ("properties", .obj [("mode", .str "custom"),
          ("custom", .obj [("BASE-1", .str "armed")])])])])
    houseWithNight

/-- The running mode is offered, and selecting it fails before Arlo is contacted; so does every
option once the session is known dead. -/
theorem offered_mode_not_selectable :
    ((houseRunningArmed.locations.get? "home").map (·.modeOptions)) =
        some ["armAway", "armHome", "standby", "Night", "armed"] ∧
      (asyncSetActiveMode "home" "armed").advance houseRunningArmed =
        (houseRunningArmed, .done (.error (unknownMode "home" "armed"))) ∧
      (asyncSetActiveMode "home" "Night").advance { houseWithNight with authIsDead := true } =
        ({ houseWithNight with authIsDead := true }, .done (.error sessionDead)) :=
  ⟨by decide, rfl, rfl⟩

end Eisenberg.Coordinator
