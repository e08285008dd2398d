import Eisenberg.Coordinator.MotionFeed
import Eisenberg.Framework.Transition

/-!
# Detection sensors

`DetectionSensor` of `binary_sensor.py` under the event loop: the coordinator stores the motion
events, every broadcast of it runs `_handle_coordinator_update`, and the resets sleep until their
time. Time does not pass a reset that is due.
-/

namespace Eisenberg.Entities

open Framework

/-! ## The sensor -/

/-- `event.feed_id or str(event.utc_created_date)`. -/
def eventKey (event : MotionEvent) : String :=
  match Coordinator.nonempty event.feedId with
  | some feedId => feedId
  | none => toString event.utcCreatedDate

structure DetectionSensor where
  deviceId : String
  category : String
  isOn : Bool
  /-- The handle of a reset, also of one that is over. -/
  resetTask : Option Nat
  lastSeenEventKey : Option String

/-- A `_reset` that still sleeps. -/
structure Reset where
  id : Nat
  wake : Nat
  deriving DecidableEq

/-- What `async_write_ha_state` publishes: on, by an event and with the timeout of its reset in
seconds, or off. -/
inductive StateWrite where
  | on (event : MotionEvent) (time timeout : Nat)
  | off (time : Nat)
  deriving DecidableEq

def DEFAULT_DETECTION_TIMEOUT : Nat := 30

/-- Seconds on a clock that counts nanoseconds. -/
def seconds (n : Nat) : Nat := n * 1000000000

structure SensorSystem where
  now : Nat
  /-- `entry.options`, changed while the entry is loaded. -/
  detectionTimeout : Option Nat
  motionEvents : Dict String MotionEvent
  sensor : DetectionSensor
  resets : List Reset
  /-- How many resets were created. -/
  created : Nat
  /-- What the sensor published, the last first. -/
  writes : List StateWrite
  /-- Every event that was stored, in order. -/
  stored : List MotionEvent
  /-- The event of the device that no broadcast has followed. -/
  unpublished : Option MotionEvent

namespace SensorSystem

def init (deviceId category : String) (detectionTimeout : Option Nat) (now : Nat) :
    SensorSystem where
  now := now
  detectionTimeout := detectionTimeout
  motionEvents := Dict.empty
  sensor := ⟨deviceId, category, false, none, none⟩
  resets := []
  created := 0
  writes := []
  stored := []
  unpublished := none

variable (s : SensorSystem)

/-- `self._entry.options.get(CONF_DETECTION_TIMEOUT, DEFAULT_DETECTION_TIMEOUT)`. -/
def timeout : Nat := s.detectionTimeout.getD DEFAULT_DETECTION_TIMEOUT

/-- `task.cancel()`, which does nothing to a task that is over. -/
def cancel (task : Nat) : SensorSystem :=
  { s with resets := s.resets.filter fun reset => reset.id ≠ task }

/-- Schedule auto-reset after timeout. -/
def scheduleReset : SensorSystem :=
  let s := match s.sensor.resetTask with
    | some task => s.cancel task
    | none => s
  { s with
    resets := s.resets ++ [⟨s.created, s.now + seconds s.timeout⟩]
    created := s.created + 1
    sensor := { s.sensor with resetTask := some s.created } }

/-- What a new event of the category does. -/
def fire (event : MotionEvent) : SensorSystem :=
  let s := { s with
    sensor := { s.sensor with lastSeenEventKey := some (eventKey event), isOn := true } }.scheduleReset
  { s with writes := .on event s.now s.timeout :: s.writes }

/-- Fire only on a new event for our category. -/
def handleCoordinatorUpdate : SensorSystem :=
  match s.motionEvents.get? s.sensor.deviceId with
  | none => s
  | some event =>
    if event.objCategories.getD [] = [] then s
    else if s.sensor.category ∉ event.objCategories.getD [] then s
    else if s.sensor.lastSeenEventKey = some (eventKey event) then s
    else s.fire event

/-! ## The steps -/

inductive Act where
  /-- A motion event is stored. -/
  | motion (event : MotionEvent)
  | broadcast
  | options (detectionTimeout : Option Nat)
  | pass (time : Nat)
  /-- A reset whose sleep is over. -/
  | wake (reset : Reset)

/-- `self.motion_events[event.device_id] = event`. -/
def store (event : MotionEvent) : SensorSystem :=
  { s with
    motionEvents := s.motionEvents.set event.deviceId event
    stored := s.stored ++ [event]
    unpublished := if event.deviceId = s.sensor.deviceId then some event else s.unpublished }

def broadcast : SensorSystem := { s.handleCoordinatorUpdate with unpublished := none }

/-- The rest of `_reset` after its sleep. -/
def reset (reset : Reset) : SensorSystem :=
  { s with
    resets := s.resets.filter fun other => other.id ≠ reset.id
    sensor := { s.sensor with isOn := false }
    writes := .off s.now :: s.writes }

def step : Act → Option SensorSystem
  | .motion event => some (s.store event)
  | .broadcast => some s.broadcast
  | .options detectionTimeout => some { s with detectionTimeout }
  | .pass time =>
    if s.now ≤ time ∧ ∀ reset ∈ s.resets, time ≤ reset.wake then some { s with now := time }
    else none
  | .wake reset => if reset ∈ s.resets ∧ reset.wake ≤ s.now then some (s.reset reset) else none

def machine : Machine SensorSystem Act := ⟨step⟩

/-- The events of the device have distinct keys, and a broadcast follows each before the next. -/
def Distinct (s : SensorSystem) : Act → Prop
  | .motion event => event.deviceId = s.sensor.deviceId →
      s.unpublished = none ∧
        ∀ other ∈ s.stored, other.deviceId = s.sensor.deviceId → eventKey other ≠ eventKey event
  | _ => True

/-! ## What the sensor is for -/

/-- An event of the device with the category. -/
def Wanted (s : SensorSystem) (event : MotionEvent) : Bool :=
  event.deviceId = s.sensor.deviceId && s.sensor.category ∈ event.objCategories.getD []

/-- The events that turned the sensor on, in order. -/
def turnedOnBy : List StateWrite → List MotionEvent
  | [] => []
  | .on event _ _ :: writes => turnedOnBy writes ++ [event]
  | .off _ :: writes => turnedOnBy writes

/-- Every time the sensor went off, the timeout had just passed since it was last turned on. -/
def OffAtDeadlines : List StateWrite → Prop
  | [] => True
  | .on _ _ _ :: writes => OffAtDeadlines writes
  | .off time :: writes => OffAtDeadlines writes ∧
      ∃ event on timeout, writes.head? = some (.on event on timeout) ∧ time = on + seconds timeout

/-- On since an event, with the one reset that is pending at its deadline. -/
structure OnSince (s : SensorSystem) (event : MotionEvent) (on timeout : Nat) : Prop where
  last : s.writes.head? = some (.on event on timeout)
  pending : ∃ id, s.resets = [⟨id, on + seconds timeout⟩] ∧ s.sensor.resetTask = some id
  started : on ≤ s.now
  ahead : s.now ≤ on + seconds timeout

structure IsOff (s : SensorSystem) : Prop where
  last : ∀ event on timeout, s.writes.head? ≠ some (.on event on timeout)
  none : s.resets = []

structure Timed (s : SensorSystem) : Prop where
  on : s.sensor.isOn = true → ∃ event on timeout, s.OnSince event on timeout
  off : s.sensor.isOn = false → s.IsOff
  deadlines : OffAtDeadlines s.writes

structure FiresOnce (s : SensorSystem) : Prop where
  /-- Turned on once by each wanted event, except one whose broadcast is still to come. -/
  fired : turnedOnBy s.writes ++ (s.unpublished.filter s.Wanted).toList = s.stored.filter s.Wanted
  timed : s.Timed

/-- A sensor that is on goes off when the timeout has passed since its event, and at no other
time. -/
structure GoesOff (s : SensorSystem) : Prop where
  /-- Time passes up to the deadline, and the reset that wakes there turns the sensor off. -/
  due : s.sensor.isOn = true → ∃ event on timeout id t, s.OnSince event on timeout ∧
    machine.run s [.pass (on + seconds timeout), .wake ⟨id, on + seconds timeout⟩] = some t ∧
      t.sensor.isOn = false ∧ t.now = on + seconds timeout
  only : s.sensor.isOn = true → ∀ act t, machine.step s act = some t → t.sensor.isOn = false →
    ∃ event on timeout, s.OnSince event on timeout ∧ s.now = on + seconds timeout

/-- The keys of the sensor against the events of the coordinator. -/
structure Keys (s : SensorSystem) : Prop where
  keyed : ∀ event, s.motionEvents.get? s.sensor.deviceId = some event →
    event.deviceId = s.sensor.deviceId
  seen : ∀ key, s.sensor.lastSeenEventKey = some key →
    ∃ event ∈ s.stored, event.deviceId = s.sensor.deviceId ∧ eventKey event = key
  owed : ∀ event, s.unpublished = some event →
    event ∈ s.stored ∧ s.motionEvents.get? s.sensor.deviceId = some event ∧
      s.sensor.lastSeenEventKey ≠ some (eventKey event)
  settled : s.unpublished = none → ∀ event,
    s.motionEvents.get? s.sensor.deviceId = some event → s.Wanted event = true →
      s.sensor.lastSeenEventKey = some (eventKey event)

structure Invariant (s : SensorSystem) : Prop where
  keys : s.Keys
  fires : s.FiresOnce

/-! ## The steps keep it -/

section Steps

variable {s : SensorSystem} {event : MotionEvent}

/-- A pending reset is the one of the handle. -/
def Handled (s : SensorSystem) : Prop :=
  ∀ reset ∈ s.resets, s.sensor.resetTask = some reset.id

theorem Timed.of_same {t : SensorSystem} (h : s.Timed) (hnow : t.now = s.now)
    (hsensor : t.sensor = s.sensor) (hresets : t.resets = s.resets)
    (hwrites : t.writes = s.writes) : t.Timed where
  on := by
    intro hon
    rw [hsensor] at hon
    obtain ⟨event, on, timeout, hlast, hpending, hstarted, hahead⟩ := h.on hon
    exact ⟨event, on, timeout, by rwa [hwrites], by rwa [hresets, hsensor], by rwa [hnow],
      by rwa [hnow]⟩
  off := by
    intro hoff
    rw [hsensor] at hoff
    obtain ⟨hlast, hnone⟩ := h.off hoff
    exact ⟨by rwa [hwrites], by rwa [hresets]⟩
  deadlines := by
    rw [hwrites]
    exact h.deadlines

theorem Timed.handled (h : s.Timed) : s.Handled := by
  intro reset hreset
  cases hon : s.sensor.isOn with
  | true =>
    obtain ⟨event, on, timeout, hsince⟩ := h.on hon
    obtain ⟨id, hresets, htask⟩ := hsince.pending
    rw [hresets, List.mem_singleton] at hreset
    rw [htask, hreset]
  | false =>
    rw [(h.off hon).none] at hreset
    cases hreset

theorem scheduleReset_eq (h : s.Handled) :
    s.scheduleReset =
      { s with
        resets := [⟨s.created, s.now + seconds s.timeout⟩]
        created := s.created + 1
        sensor := { s.sensor with resetTask := some s.created } } := by
  unfold scheduleReset
  cases htask : s.sensor.resetTask with
  | none =>
    have hnone : s.resets = [] := by
      apply List.eq_nil_iff_forall_not_mem.mpr
      intro reset hreset
      have hhandle := h reset hreset
      rw [htask] at hhandle
      cases hhandle
    simp [hnone]
  | some task =>
    have hnone : (s.resets.filter fun reset => reset.id ≠ task) = [] := by
      apply List.filter_eq_nil_iff.mpr
      intro reset hreset
      have hhandle := h reset hreset
      rw [htask] at hhandle
      simp [Option.some.inj hhandle]
    have hcancel : s.cancel task = { s with resets := [] } := by rw [cancel, hnone]
    dsimp only
    rw [hcancel]
    rfl

theorem fire_eq (h : s.Handled) (event : MotionEvent) :
    s.fire event =
      { s with
        resets := [⟨s.created, s.now + seconds s.timeout⟩]
        created := s.created + 1
        sensor :=
          { s.sensor with
            lastSeenEventKey := some (eventKey event)
            isOn := true
            resetTask := some s.created }
        writes := .on event s.now s.timeout :: s.writes } := by
  have hreset := @scheduleReset_eq
    { s with sensor :=
        { s.sensor with lastSeenEventKey := some (eventKey event), isOn := true } } h
  rw [fire, hreset]
  rfl

/-- The sensor is turned on by an event it has not seen yet, and else left as it is. -/
theorem update_cases (s : SensorSystem) :
    (∃ event, s.motionEvents.get? s.sensor.deviceId = some event ∧
        s.sensor.category ∈ event.objCategories.getD [] ∧
        s.sensor.lastSeenEventKey ≠ some (eventKey event) ∧
        s.handleCoordinatorUpdate = s.fire event) ∨
      s.handleCoordinatorUpdate = s ∧ ∀ event,
        s.motionEvents.get? s.sensor.deviceId = some event →
          s.sensor.category ∈ event.objCategories.getD [] →
            s.sensor.lastSeenEventKey = some (eventKey event) := by
  unfold handleCoordinatorUpdate
  cases hget : s.motionEvents.get? s.sensor.deviceId with
  | none => exact Or.inr ⟨rfl, by rintro event ⟨⟩⟩
  | some event =>
    dsimp only
    split_ifs with hempty hcategory hseen
    · right
      refine ⟨rfl, ?_⟩
      rintro other ⟨⟩ hmem
      rw [hempty] at hmem
      cases hmem
    · right
      refine ⟨rfl, ?_⟩
      rintro other ⟨⟩ -
      exact hseen
    · left
      exact ⟨event, rfl, hcategory, hseen, rfl⟩
    · right
      refine ⟨rfl, ?_⟩
      rintro other ⟨⟩ hmem
      exact absurd hmem hcategory

theorem store_seen (h : s.Keys) (event : MotionEvent) (key : String)
    (hkey : s.sensor.lastSeenEventKey = some key) :
    ∃ other ∈ (s.store event).stored, other.deviceId = s.sensor.deviceId ∧ eventKey other = key := by
  obtain ⟨other, hmem, hother⟩ := h.seen key hkey
  exact ⟨other, List.mem_append_left _ hmem, hother⟩

theorem store_same (h : s.Invariant) (hdevice : event.deviceId = s.sensor.deviceId)
    (hnone : s.unpublished = none)
    (hnew : ∀ other ∈ s.stored, other.deviceId = s.sensor.deviceId →
      eventKey other ≠ eventKey event) : (s.store event).Invariant := by
  have hget : (s.store event).motionEvents.get? s.sensor.deviceId = some event := by
    rw [store, ← hdevice, Dict.get?_set_self]
  have hwaits : (s.store event).unpublished = some event := by rw [store, if_pos hdevice]
  have hmem : event ∈ (s.store event).stored := List.mem_append_right _ List.mem_cons_self
  have hunseen : s.sensor.lastSeenEventKey ≠ some (eventKey event) := by
    intro hseen
    obtain ⟨other, hstored, hother, hkey⟩ := h.keys.seen _ hseen
    exact hnew other hstored hother hkey
  refine ⟨⟨?_, store_seen h.keys event, ?_, ?_⟩, ⟨?_, h.fires.timed.of_same rfl rfl rfl rfl⟩⟩
  · intro other hother
    have heq : event = other := Option.some.inj (hget.symm.trans hother)
    exact heq ▸ hdevice
  · intro other hother
    have heq : event = other := Option.some.inj (hwaits.symm.trans hother)
    exact heq ▸ ⟨hmem, hget, hunseen⟩
  · intro hsettled
    rw [hwaits] at hsettled
    cases hsettled
  · have hfired := h.fires.fired
    rw [hnone] at hfired
    rw [hwaits]
    show turnedOnBy s.writes ++ ((some event).filter s.Wanted).toList =
      (s.stored ++ [event]).filter s.Wanted
    rw [List.filter_append, ← hfired]
    cases hwanted : s.Wanted event <;> simp [Option.filter, hwanted]

theorem store_other (h : s.Invariant) (hdevice : event.deviceId ≠ s.sensor.deviceId) :
    (s.store event).Invariant := by
  have hget : (s.store event).motionEvents.get? s.sensor.deviceId =
      s.motionEvents.get? s.sensor.deviceId := by
    rw [store, Dict.get?_set_of_ne _ (Ne.symm hdevice)]
  have hwaits : (s.store event).unpublished = s.unpublished := by rw [store, if_neg hdevice]
  have hwanted : s.Wanted event = false := by simp [Wanted, hdevice]
  refine ⟨⟨?_, store_seen h.keys event, ?_, ?_⟩, ⟨?_, h.fires.timed.of_same rfl rfl rfl rfl⟩⟩
  · intro other hother
    exact h.keys.keyed other (hget.symm.trans hother)
  · intro other hother
    obtain ⟨hmem, hold, hunseen⟩ := h.keys.owed other (hwaits.symm.trans hother)
    exact ⟨List.mem_append_left _ hmem, hget.trans hold, hunseen⟩
  · intro hsettled other hother
    exact h.keys.settled (hwaits.symm.trans hsettled) other (hget.symm.trans hother)
  · rw [hwaits]
    show turnedOnBy s.writes ++ (s.unpublished.filter s.Wanted).toList =
      (s.stored ++ [event]).filter s.Wanted
    rw [List.filter_append, h.fires.fired]
    simp [hwanted]

theorem store_invariant (h : s.Invariant) (hdistinct : s.Distinct (.motion event)) :
    (s.store event).Invariant := by
  by_cases hdevice : event.deviceId = s.sensor.deviceId
  · obtain ⟨hnone, hnew⟩ := hdistinct hdevice
    exact store_same h hdevice hnone hnew
  · exact store_other h hdevice

theorem broadcast_fires (h : s.Invariant)
    (hget : s.motionEvents.get? s.sensor.deviceId = some event)
    (hcategory : s.sensor.category ∈ event.objCategories.getD [])
    (hunseen : s.sensor.lastSeenEventKey ≠ some (eventKey event)) :
    { s.fire event with unpublished := none }.Invariant := by
  have hwanted : s.Wanted event = true := by
    simp [Wanted, h.keys.keyed event hget, hcategory]
  have hwaits : s.unpublished = some event := by
    cases hwaiting : s.unpublished with
    | none => exact absurd (h.keys.settled hwaiting event hget hwanted) hunseen
    | some other =>
      obtain ⟨-, hother, -⟩ := h.keys.owed other hwaiting
      rw [hget] at hother
      rw [hother]
  obtain ⟨hmem, -, -⟩ := h.keys.owed event hwaits
  rw [fire_eq h.fires.timed.handled]
  refine ⟨⟨h.keys.keyed, ?_, ?_, ?_⟩, ⟨?_, ⟨?_, ?_, h.fires.timed.deadlines⟩⟩⟩
  · intro key hkey
    cases hkey
    exact ⟨event, hmem, h.keys.keyed event hget, rfl⟩
  · intro other howed
    cases howed
  · intro _ other hother _
    have heq : event = other := Option.some.inj (hget.symm.trans hother)
    rw [heq]
  · have hfired := h.fires.fired
    simp only [hwaits, Option.filter, hwanted, if_true, Option.toList_some] at hfired
    show turnedOnBy s.writes ++ [event] ++ [] = s.stored.filter s.Wanted
    rw [List.append_nil, hfired]
  · intro _
    refine ⟨event, s.now, s.timeout, ⟨rfl, ⟨s.created, rfl, rfl⟩, Nat.le_refl _, Nat.le_add_right _ _⟩⟩
  · intro hoff
    cases hoff

theorem broadcast_invariant (h : s.Invariant) : s.broadcast.Invariant := by
  unfold broadcast
  obtain ⟨event, hget, hcategory, hunseen, hupdate⟩ | ⟨hupdate, hseen⟩ := update_cases s
  · rw [hupdate]
    exact broadcast_fires h hget hcategory hunseen
  · rw [hupdate]
    refine ⟨⟨h.keys.keyed, h.keys.seen, by rintro event ⟨⟩, ?_⟩,
      ⟨?_, h.fires.timed.of_same rfl rfl rfl rfl⟩⟩
    · intro _ event hget hwanted
      simp only [Wanted, Bool.and_eq_true, decide_eq_true_eq] at hwanted
      exact hseen event hget hwanted.2
    · have hfired := h.fires.fired
      have howed : s.unpublished.filter s.Wanted = none := by
        cases hwaits : s.unpublished with
        | none => rfl
        | some event =>
          obtain ⟨-, hget, hunseen⟩ := h.keys.owed event hwaits
          have hunwanted : s.Wanted event = false := by
            by_contra hwanted
            simp only [Wanted, Bool.not_eq_false, Bool.and_eq_true, decide_eq_true_eq] at hwanted
            exact hunseen (hseen event hget hwanted.2)
          simp [Option.filter, hunwanted]
      rw [howed] at hfired
      exact hfired

theorem wake_invariant (h : s.Invariant) {reset : Reset} (hreset : reset ∈ s.resets)
    (hdue : reset.wake ≤ s.now) : (s.reset reset).Invariant := by
  have hon : s.sensor.isOn = true := by
    by_contra hoff
    rw [Bool.not_eq_true] at hoff
    rw [(h.fires.timed.off hoff).none] at hreset
    cases hreset
  obtain ⟨event, on, timeout, hlast, ⟨id, hresets, -⟩, -, hahead⟩ := h.fires.timed.on hon
  rw [hresets, List.mem_singleton] at hreset
  subst hreset
  have htime : s.now = on + seconds timeout := Nat.le_antisymm hahead hdue
  refine ⟨⟨h.keys.keyed, h.keys.seen, h.keys.owed, h.keys.settled⟩, ⟨h.fires.fired, ?_, ?_, ?_⟩⟩
  · intro hon
    cases hon
  · intro _
    refine ⟨by rintro event on timeout ⟨⟩, ?_⟩
    show (s.resets.filter fun other => other.id ≠ id) = []
    simp [hresets]
  · exact ⟨h.fires.timed.deadlines, event, on, timeout, hlast, htime⟩

theorem pass_invariant (h : s.Invariant) {time : Nat} (hnow : s.now ≤ time)
    (hresets : ∀ reset ∈ s.resets, time ≤ reset.wake) : { s with now := time }.Invariant := by
  refine ⟨⟨h.keys.keyed, h.keys.seen, h.keys.owed, h.keys.settled⟩,
    ⟨h.fires.fired, ?_, ?_, h.fires.timed.deadlines⟩⟩
  · intro hon
    obtain ⟨event, on, timeout, hlast, ⟨id, hpending, htask⟩, hstarted, -⟩ := h.fires.timed.on hon
    have hwake : time ≤ on + seconds timeout := by
      apply hresets ⟨id, on + seconds timeout⟩
      rw [hpending]
      exact List.mem_singleton_self _
    exact ⟨event, on, timeout, hlast, ⟨id, hpending, htask⟩, Nat.le_trans hstarted hnow, hwake⟩
  · intro hoff
    obtain ⟨hlast, hnone⟩ := h.fires.timed.off hoff
    exact ⟨hlast, hnone⟩

theorem step_invariant {act : Act} {t : SensorSystem} (h : s.Invariant)
    (hdistinct : s.Distinct act) (hstep : machine.step s act = some t) : t.Invariant := by
  cases act with
  | motion event =>
    cases hstep
    exact store_invariant h hdistinct
  | broadcast =>
    cases hstep
    exact broadcast_invariant h
  | options detectionTimeout =>
    cases hstep
    exact ⟨⟨h.keys.keyed, h.keys.seen, h.keys.owed, h.keys.settled⟩,
      ⟨h.fires.fired, h.fires.timed.of_same rfl rfl rfl rfl⟩⟩
  | pass time =>
    simp only [machine, step] at hstep
    split_ifs at hstep with hpass
    cases hstep
    exact pass_invariant h hpass.1 hpass.2
  | wake reset =>
    simp only [machine, step] at hstep
    split_ifs at hstep with hdue
    cases hstep
    exact wake_invariant h hdue.1 hdue.2

end Steps

/-! ## Runs -/

theorem init_invariant (deviceId category : String) (detectionTimeout : Option Nat) (now : Nat) :
    (init deviceId category detectionTimeout now).Invariant where
  keys := by
    refine ⟨?_, ?_, ?_, ?_⟩
    · intro event hget
      cases hget
    · intro key hkey
      cases hkey
    · intro event howed
      cases howed
    · intro _ event hget
      cases hget
  fires := by
    refine ⟨rfl, ?_, ?_, trivial⟩
    · intro hon
      cases hon
    · intro _
      exact ⟨by rintro event on timeout ⟨⟩, rfl⟩

/-- A sensor that is on can go off, and does so at its deadline. -/
theorem Timed.goes_off {s : SensorSystem} (h : s.Timed) (hon : s.sensor.isOn = true) :
    ∃ event on timeout id t, s.OnSince event on timeout ∧
      machine.run s [.pass (on + seconds timeout), .wake ⟨id, on + seconds timeout⟩] = some t ∧
        t.sensor.isOn = false ∧ t.now = on + seconds timeout := by
  obtain ⟨event, on, timeout, hsince⟩ := h.on hon
  obtain ⟨id, hresets, htask⟩ := hsince.pending
  let due : SensorSystem := { s with now := on + seconds timeout }
  have hpass : s.step (.pass (on + seconds timeout)) = some due := by
    rw [step, if_pos]
    simp [hresets, hsince.ahead]
  have hwake : due.step (.wake ⟨id, on + seconds timeout⟩) =
      some (due.reset ⟨id, on + seconds timeout⟩) := by
    rw [step, if_pos]
    simp [due, hresets]
  have hrun : machine.run s [.pass (on + seconds timeout), .wake ⟨id, on + seconds timeout⟩] =
      some (due.reset ⟨id, on + seconds timeout⟩) :=
    machine.run_cons_eq_some.mpr ⟨due, hpass, machine.run_cons_eq_some.mpr ⟨_, hwake, rfl⟩⟩
  exact ⟨event, on, timeout, id, _, hsince, hrun, rfl, rfl⟩

theorem broadcast_isOn {s : SensorSystem} (h : s.Timed) (hon : s.sensor.isOn = true) :
    s.broadcast.sensor.isOn = true := by
  obtain ⟨event, -, -, -, hupdate⟩ | ⟨hupdate, -⟩ := update_cases s
  · rw [broadcast, hupdate, fire_eq h.handled]
  · rw [broadcast, hupdate]
    exact hon

/-- Nothing but a reset that wakes turns the sensor off, and its time is the deadline. -/
theorem Timed.off_only {s t : SensorSystem} {act : Act} (h : s.Timed)
    (hon : s.sensor.isOn = true) (hstep : machine.step s act = some t)
    (hoff : t.sensor.isOn = false) :
    ∃ event on timeout, s.OnSince event on timeout ∧ s.now = on + seconds timeout := by
  cases act with
  | motion event =>
    cases hstep
    exact absurd (hon.symm.trans hoff) (by decide)
  | broadcast =>
    cases hstep
    rw [broadcast_isOn h hon] at hoff
    cases hoff
  | options detectionTimeout =>
    cases hstep
    exact absurd (hon.symm.trans hoff) (by decide)
  | pass time =>
    simp only [machine, step] at hstep
    split_ifs at hstep
    cases hstep
    exact absurd (hon.symm.trans hoff) (by decide)
  | wake reset =>
    simp only [machine, step] at hstep
    split_ifs at hstep with hdue
    obtain ⟨event, on, timeout, hsince⟩ := h.on hon
    obtain ⟨id, hresets, -⟩ := hsince.pending
    obtain ⟨hmem, hwake⟩ := hdue
    rw [hresets, List.mem_singleton] at hmem
    subst hmem
    exact ⟨event, on, timeout, hsince, Nat.le_antisymm hsince.ahead hwake⟩

theorem Timed.goesOff {s : SensorSystem} (h : s.Timed) : s.GoesOff where
  due := h.goes_off
  only hon _ _ hstep hoff := h.off_only hon hstep hoff

/-- Over any run the sensor is turned on once by each of its events and by nothing else; a reset is
pending exactly while it is on, and it goes off exactly when the timeout has passed since the last
event. -/
theorem fires_once {deviceId category : String} {detectionTimeout : Option Nat} {now : Nat}
    {acts : List Act} {s : SensorSystem}
    (hrun : machine.run (init deviceId category detectionTimeout now) acts = some s)
    (hdistinct : machine.Along Distinct (init deviceId category detectionTimeout now) acts) :
    s.FiresOnce ∧ s.GoesOff := by
  have hinvariant : s.Invariant :=
    hdistinct.invariant (fun _ _ _ h hc hstep => step_invariant h hc hstep)
      (init_invariant deviceId category detectionTimeout now) hrun
  exact ⟨hinvariant.fires, hinvariant.fires.timed.goesOff⟩

section Sample

def personEvent : MotionEvent where
  deviceId := "A"
  objCategory := some "Person"
  objCategories := some ["Person"]
  duration := none
  contentUrl := none
  thumbnailUrl := none
  activeMode := none
  utcCreatedDate := 1000
  feedId := some "feed-1"

/-- One event and two broadcasts of it. -/
def personSeen : List Act := [.motion personEvent, .broadcast, .broadcast]

/-- The reset that follows, and a broadcast after it. -/
def personOver : List Act :=
  personSeen ++ [.pass (seconds 30), .wake ⟨0, seconds 30⟩, .broadcast]

theorem fires_once_person :
    (∃ s, machine.run (init "A" "Person" none 0) personSeen = some s ∧ s.sensor.isOn = true ∧
      s.FiresOnce ∧ s.GoesOff) ∧
    ∃ s, machine.run (init "A" "Person" none 0) personOver = some s ∧ s.sensor.isOn = false ∧
      s.writes = [.off (seconds 30), .on personEvent 0 30] ∧ s.FiresOnce ∧ s.GoesOff := by
  have hfirst : (init "A" "Person" none 0).Distinct (.motion personEvent) := by
    intro _
    exact ⟨rfl, by rintro other ⟨⟩⟩
  have hseen : machine.Along Distinct (init "A" "Person" none 0) personSeen :=
    ⟨hfirst, fun _ _ => ⟨trivial, fun _ _ => ⟨trivial, fun _ _ => trivial⟩⟩⟩
  have hover : machine.Along Distinct (init "A" "Person" none 0) personOver :=
    ⟨hfirst, fun _ _ => ⟨trivial, fun _ _ => ⟨trivial, fun _ _ => ⟨trivial, fun _ _ =>
      ⟨trivial, fun _ _ => ⟨trivial, fun _ _ => trivial⟩⟩⟩⟩⟩⟩
  have hon : ∃ s, machine.run (init "A" "Person" none 0) personSeen = some s ∧
      s.sensor.isOn = true := ⟨_, rfl, rfl⟩
  have hoff : ∃ s, machine.run (init "A" "Person" none 0) personOver = some s ∧
      s.sensor.isOn = false ∧ s.writes = [.off (seconds 30), .on personEvent 0 30] :=
    ⟨_, rfl, rfl, rfl⟩
  obtain ⟨s, hs, hison⟩ := hon
  obtain ⟨t, ht, hisoff, hwrites⟩ := hoff
  exact ⟨⟨s, hs, hison, fires_once hs hseen⟩, t, ht, hisoff, hwrites, fires_once ht hover⟩

end Sample

end SensorSystem

end Eisenberg.Entities
