import Eisenberg.Coordinator.ModeAgreement

/-!
# Agreement of the modes

Seen from one location, the system is a replica of a versioned value: Arlo's mode is the master, the
events are the feed, and the coordinator's record is the copy.
-/

namespace Eisenberg.Coordinator

open Framework

/-- An active mode as a location record shows it. -/
abbrev ShownMode := Option String × Dict String String

def shown (p : ActiveModeProperties) : ShownMode :=
  (some p.mode, LocationState.recordedCustom p.mode p.custom)

def ArloLocation.shown (a : ArloLocation) : ShownMode := Coordinator.shown ⟨a.mode, a.custom⟩

namespace Carried

def reply : Carried → Reply ShownMode
  | put _ state => .written ((state.properties.map shown).getD (none, Dict.empty)) state.revision
  | get _ state => .read state.revision

/-- The reply is Arlo's: it has a revision and a mode. -/
def Genuine (c : Carried) : Prop := ∃ a : ArloLocation, c.state = a.state

end Carried

def CarriedBy (threads : List (Thread (String × String) CoordinatorState Exc ModeReply Unit))
    (c : Carried) : Prop :=
  ∃ th ∈ threads, carried th.status = some c

def replies (threads : List (Thread (String × String) CoordinatorState Exc ModeReply Unit))
    (locationId : String) : Set (Reply ShownMode) :=
  { r | ∃ c, CarriedBy threads c ∧ c.locationId = locationId ∧ c.reply = r }

/-- The replica a location is. -/
def replica (sys : ModeSystem) (locationId : String) (l : LocationState) : Replica ShownMode where
  value := (sys.arlo locationId).shown
  version := (sys.arlo locationId).revision
  feed := (sys.events.filter fun e => e.locationId = locationId).map fun e =>
    (e.state.shown, e.state.revision)
  replies := replies sys.pool.threads locationId
  copy := (l.activeMode, l.activeCustom)
  known := l.modeRevision
  last := sys.last locationId
  applied := sys.applied locationId
  answered := sys.answered locationId
  replied := sys.replied locationId
  foreign := sys.foreign locationId

section Threads

variable {threads : List (Thread (String × String) CoordinatorState Exc ModeReply Unit)}
variable {old new : Thread (String × String) CoordinatorState Exc ModeReply Unit}
variable {t : Nat} {c d : Carried} {locationId : String}

theorem carried_stopped (call : String × String) (calls : List (Request ModeRequest))
    (stop : Co.Stop CoordinatorState Exc ModeReply Unit) :
    carried (Pool.stopped call calls stop).status = none := by
  cases stop <;> rfl

theorem carried_refused (request : Request ModeRequest) (err : Exc)
    (k : Except Exc (ModeReply request) → ModeAsync Unit) :
    carried (.answered request (.error err) k) = none := by
  cases request with
  | login => rfl
  | client request => cases request <;> rfl

theorem carriedBy_append (hnew : carried new.status = none) :
    CarriedBy (threads ++ [new]) c ↔ CarriedBy threads c := by
  constructor
  · rintro ⟨th, hth, hc⟩
    rcases List.mem_append.mp hth with hth | hth
    · exact ⟨th, hth, hc⟩
    · rw [List.mem_singleton.mp hth, hnew] at hc
      cases hc
  · rintro ⟨th, hth, hc⟩
    exact ⟨th, List.mem_append_left _ hth, hc⟩

theorem carriedBy_of_set (h : CarriedBy (threads.set t new) c) :
    CarriedBy threads c ∨ carried new.status = some c := by
  obtain ⟨th, hth, hc⟩ := h
  rcases List.mem_or_eq_of_mem_set hth with hth | rfl
  · exact Or.inl ⟨th, hth, hc⟩
  · exact Or.inr hc

theorem carriedBy_set (ht : threads[t]? = some old) (h : CarriedBy threads c) :
    carried old.status = some c ∨ CarriedBy (threads.set t new) c := by
  obtain ⟨th, hth, hc⟩ := h
  obtain ⟨j, hj⟩ := List.mem_iff_getElem?.mp hth
  by_cases hjt : j = t
  · subst hjt
    rw [ht] at hj
    cases hj
    exact Or.inl hc
  · right
    refine ⟨th, ?_, hc⟩
    rw [List.mem_iff_getElem?]
    exact ⟨j, by rw [List.getElem?_set_ne (Ne.symm hjt), hj]⟩

theorem carriedBy_set_new (ht : threads[t]? = some old) (hc : carried new.status = some c) :
    CarriedBy (threads.set t new) c := by
  refine ⟨new, ?_, hc⟩
  rw [List.mem_iff_getElem?]
  exact ⟨t, by rw [List.getElem?_set_self (List.getElem?_eq_some_iff.mp ht).1]⟩

theorem replies_append (hnew : carried new.status = none) :
    replies (threads ++ [new]) locationId = replies threads locationId := by
  ext r
  simp only [replies, Set.mem_ofPred_eq, carriedBy_append hnew]

theorem carriedBy_set_iff (ht : threads[t]? = some old) (hold : carried old.status = none) :
    CarriedBy (threads.set t new) c ↔ CarriedBy threads c ∨ carried new.status = some c := by
  constructor
  · exact carriedBy_of_set
  · rintro (h | h)
    · exact (carriedBy_set ht h).resolve_left (by rw [hold]; exact nofun)
    · exact carriedBy_set_new ht h

theorem replies_set_none (ht : threads[t]? = some old) (hold : carried old.status = none)
    (hnew : carried new.status = none) :
    replies (threads.set t new) locationId = replies threads locationId := by
  ext r
  simp only [replies, Set.mem_ofPred_eq, carriedBy_set_iff ht hold, hnew, reduceCtorEq, or_false]

theorem mem_replies_set (ht : threads[t]? = some old) (hold : carried old.status = none)
    (hnew : carried new.status = some c) {r : Reply ShownMode} :
    r ∈ replies (threads.set t new) locationId ↔
      (c.locationId = locationId ∧ r = c.reply) ∨ r ∈ replies threads locationId := by
  simp only [replies, Set.mem_ofPred_eq, carriedBy_set_iff ht hold, hnew, Option.some.injEq]
  constructor
  · rintro ⟨d, hd | rfl, hid, hr⟩
    · exact Or.inr ⟨d, hd, hid, hr⟩
    · exact Or.inl ⟨hid, hr.symm⟩
  · rintro (⟨hid, hr⟩ | ⟨d, hd, hid, hr⟩)
    · exact ⟨c, Or.inr rfl, hid, hr.symm⟩
    · exact ⟨d, Or.inl hd, hid, hr⟩

theorem replies_set_carried (ht : threads[t]? = some old) (hold : carried old.status = none)
    (hnew : carried new.status = some c) (hid : c.locationId = locationId) :
    replies (threads.set t new) locationId = insert c.reply (replies threads locationId) := by
  ext r
  simp only [mem_replies_set ht hold hnew, hid, true_and, Set.mem_insert_iff]

theorem replies_set_carried_of_ne (ht : threads[t]? = some old) (hold : carried old.status = none)
    (hnew : carried new.status = some c) (hid : c.locationId ≠ locationId) :
    replies (threads.set t new) locationId = replies threads locationId := by
  ext r
  simp only [mem_replies_set ht hold hnew, hid, false_and, false_or]

theorem replies_taken (ht : threads[t]? = some old) (hold : carried old.status = some c)
    (hnew : carried new.status = none) (hid : c.locationId = locationId) :
    Replica.Taken c.reply (replies threads locationId)
      (replies (threads.set t new) locationId) := by
  refine ⟨⟨c, ⟨old, List.mem_of_getElem? ht, hold⟩, hid, rfl⟩, ?_, ?_⟩
  · rintro r ⟨d, hd, hdid, hr⟩
    refine ⟨d, (carriedBy_of_set hd).resolve_right ?_, hdid, hr⟩
    rw [hnew]
    exact nofun
  · rintro r ⟨d, hd, hdid, hr⟩
    rcases carriedBy_set ht hd with hcd | hleft
    · rw [hold] at hcd
      cases hcd
      exact Or.inl hr.symm
    · exact Or.inr ⟨d, hleft, hdid, hr⟩

theorem replies_set_of_ne (ht : threads[t]? = some old) (hold : carried old.status = some c)
    (hnew : carried new.status = none) (hid : c.locationId ≠ locationId) :
    replies (threads.set t new) locationId = replies threads locationId := by
  ext r
  constructor
  · rintro ⟨d, hd, hdid, hr⟩
    refine ⟨d, (carriedBy_of_set hd).resolve_right ?_, hdid, hr⟩
    rw [hnew]
    exact nofun
  · rintro ⟨d, hd, hdid, hr⟩
    refine ⟨d, (carriedBy_set ht hd).resolve_left ?_, hdid, hr⟩
    rw [hold]
    rintro ⟨⟩
    exact hid hdid

end Threads

/-- What holds of every system: the calls keep to the effects of their answers, and the replies
under way are Arlo's. -/
structure Sound (sys : ModeSystem) : Prop where
  within : ∀ th ∈ sys.pool.threads, th.status.Within ModeEffect
  genuine : ∀ c, CarriedBy sys.pool.threads c → c.Genuine

section Refinement

variable {scalars : Scalars} {sys sys' : ModeSystem} {pool : SetPool} {l : LocationState}
variable {locationId : String}

theorem setActiveModeCall_within (call : String × String) (s : CoordinatorState) :
    (setActiveModeCall call).Within ModeEffect .started s s :=
  (asyncSetActiveMode_segments call.1 call.2 (unfinished_started s)).mono
    (fun _ _ _ h => h.1) (fun _ _ _ _ h => h.1)

theorem Sound.pool_within (hsound : Sound sys)
    {event : PoolEvent (String × String) Exc ModeReply}
    (h : Pool.step setActiveModeCall sys.pool event = some pool) :
    ∀ th ∈ pool.threads, th.status.Within ModeEffect :=
  Pool.step_within setActiveModeCall_within event hsound.within h

/-!
#### The replica of a location, action by action
-/

theorem replica_pool (sys : ModeSystem) (pool : SetPool) :
    replica { sys with pool } locationId l =
      { replica sys locationId l with replies := replies pool.threads locationId } := rfl

theorem replica_publish_self (mode : String) (custom : Dict String String) (foreign : Bool) :
    replica (sys.publish locationId mode custom foreign) locationId l =
      (replica sys locationId l).write ((sys.arlo locationId).accept mode custom).shown
        (replies sys.pool.threads locationId) foreign := by
  simp [replica, Replica.write, ModeSystem.publish, ArloLocation.accept, List.filter_append]

theorem replica_publish_of_ne {putId : String} (hid : putId ≠ locationId) (mode : String)
    (custom : Dict String String) (foreign : Bool) :
    replica (sys.publish putId mode custom foreign) locationId l = replica sys locationId l := by
  simp [replica, ModeSystem.publish, Function.update_of_ne hid.symm, List.filter_append, hid]

theorem replica_noteReply_of_ne {c : Carried} (hid : c.locationId ≠ locationId) :
    replica (sys.noteReply (some c)) locationId l = replica sys locationId l := by
  cases c with
  | put putId state =>
    have hne : locationId ≠ putId := Ne.symm hid
    simp [replica, ModeSystem.noteReply, ModeSystem.noteApplied, ModeSystem.noteReplied, hne]
  | get getId state =>
    have hne : locationId ≠ getId := Ne.symm hid
    simp [replica, ModeSystem.noteReply, ModeSystem.noteReplied, hne]

theorem idle_of_eq {r r' : Replica ShownMode} (h : r' = r) : r.Step r' := by
  rw [h]
  exact .idle

theorem select_refines {call : String × String}
    (hl : sys.pool.shared.locations.get? locationId = some l)
    (h : Pool.step setActiveModeCall sys.pool (.start call) = some pool) :
    pool.shared.locations.get? locationId = some l ∧
      (replica sys locationId l).Step (replica { sys with pool } locationId l) := by
  have hpool := Pool.step_start h
  have heffect : ModeEffect .started sys.pool.shared pool.shared := by
    rw [hpool]
    exact (setActiveModeCall_within call sys.pool.shared).advance.1
  refine ⟨by rw [heffect]; exact hl, idle_of_eq ?_⟩
  have hreplies : replies pool.threads locationId = replies sys.pool.threads locationId := by
    rw [hpool]
    exact replies_append (carried_stopped call [] _)
  rw [replica_pool, hreplies]
  rfl

theorem refuse_refines {t : Nat} {err : Exc}
    (hl : sys.pool.shared.locations.get? locationId = some l)
    (h : Pool.step setActiveModeCall sys.pool (.answer t fun _ => .error err) = some pool) :
    pool.shared.locations.get? locationId = some l ∧
      (replica sys locationId l).Step (replica { sys with pool } locationId l) := by
  obtain ⟨call, calls, request, k, ht, rfl⟩ := Pool.step_answer h
  refine ⟨hl, idle_of_eq ?_⟩
  rw [replica_pool, replies_set_none ht rfl (carried_refused request err k)]
  rfl

theorem other_refines (mode : String) (custom : Dict String String) (putId : String) :
    (replica sys locationId l).Step
      (replica (sys.publish putId mode custom true) locationId l) := by
  by_cases hid : putId = locationId
  · subst hid
    rw [replica_publish_self]
    exact .foreignWrite _
  · exact idle_of_eq (replica_publish_of_ne hid mode custom true)

theorem serve_refines {t : Nat} {cookieJar : List Cookie} {call : String × String}
    {calls : List (Request ModeRequest)} {request : Request ModeRequest}
    {k : Except Exc (ModeReply request) → ModeAsync Unit}
    (ht : sys.pool.threads[t]? = some ⟨call, calls, .waiting request k⟩)
    (hpool : pool = ⟨sys.pool.shared, sys.pool.threads.set t
      ⟨call, calls, .answered request (.ok (sys.answer cookieJar request)) k⟩⟩) :
    (replica sys locationId l).Step
      (replica { sys.served request with pool } locationId l) := by
  subst hpool
  rw [replica_pool (sys.served request)]
  cases request with
  | login =>
    rw [replies_set_none ht rfl rfl]
    exact .idle
  | client request =>
    cases request with
    | getActiveMode getId =>
      by_cases hid : getId = locationId
      · rw [replies_set_carried (c := .get getId (sys.arlo getId).state) ht rfl rfl hid]
        subst hid
        exact .read
      · rw [replies_set_carried_of_ne (c := .get getId (sys.arlo getId).state) ht rfl rfl hid]
        exact .idle
    | setActiveMode putId mode revision custom =>
      let accepted := (sys.arlo putId).accept mode (custom.getD Dict.empty)
      by_cases hid : putId = locationId
      · rw [replies_set_carried (c := .put putId accepted.state) ht rfl rfl hid]
        subst hid
        rw [ModeSystem.served, replica_publish_self]
        exact .ownWrite _
      · rw [replies_set_carried_of_ne (c := .put putId accepted.state) ht rfl rfl hid,
          ModeSystem.served, replica_publish_of_ne hid]
        exact .idle

theorem recorded_state (mode : String) (custom : Option (Dict String String)) (a : ArloLocation)
    (l : LocationState) :
    recorded mode custom a.state l = (l.setRevision a.revision).setMode a.mode a.custom := by
  have hrevision : a.revision ≠ 0 := Int.ne_of_gt a.positive
  simp [recorded, ArloLocation.state, hrevision]

theorem revisionOrOne_state (a : ArloLocation) : revisionOrOne a.state.revision = a.revision :=
  if_neg (Int.ne_of_gt a.positive)

section Delivery

variable {t : Nat} {call : String × String} {calls : List (Request ModeRequest)}
variable {request : Request ModeRequest} {r : Except Exc (ModeReply request)}
variable {k : Except Exc (ModeReply request) → ModeAsync Unit}

/-- A reply that carries nothing moves nothing. -/
theorem effect_of_not_carried (hc : carried (.answered request r k) = none)
    (locations : Locations) : effect (.answered request r) locations = locations := by
  cases request with
  | login => rfl
  | client request =>
    cases r with
    | error err => cases request <;> rfl
    | ok state => cases request <;> cases hc

theorem effect_of_put {putId : String} {state : ActiveModeState}
    (hc : carried (.answered request r k) = some (.put putId state)) :
    ∃ mode custom, ∀ locations, effect (.answered request r) locations =
      recordResult putId mode custom state locations := by
  cases request with
  | login => cases hc
  | client request =>
    cases r with
    | error err => cases request <;> cases hc
    | ok state' =>
      cases request with
      | getActiveMode getId => cases hc
      | setActiveMode putId' mode revision custom =>
        cases hc
        exact ⟨mode, custom, fun _ => rfl⟩

theorem effect_of_get {getId : String} {state : ActiveModeState}
    (hc : carried (.answered request r k) = some (.get getId state)) (locations : Locations) :
    effect (.answered request r) locations =
      locations.setRevision getId (revisionOrOne state.revision) := by
  cases request with
  | login => cases hc
  | client request =>
    cases r with
    | error err => cases request <;> cases hc
    | ok state' =>
      cases request with
      | setActiveMode putId mode revision custom => cases hc
      | getActiveMode getId' =>
        cases hc
        rfl

theorem deliver_refines (hsound : Sound sys)
    (hl : sys.pool.shared.locations.get? locationId = some l)
    (ht : sys.pool.threads[t]? = some ⟨call, calls, .answered request r k⟩)
    (hthreads : pool.threads =
      sys.pool.threads.set t (Pool.stopped call calls ((k r).advance sys.pool.shared).2))
    (heffect : pool.shared.locations =
      effect (.answered request r) sys.pool.shared.locations) :
    ∃ l', pool.shared.locations.get? locationId = some l' ∧
      (replica sys locationId l).Step
        (replica { sys.noteReply (carried (.answered request r k)) with pool } locationId l') := by
  have hstopped := carried_stopped call calls ((k r).advance sys.pool.shared).2
  cases hc : carried (.answered request r k) with
  | none =>
    refine ⟨l, by rw [heffect, effect_of_not_carried hc, hl], idle_of_eq ?_⟩
    rw [replica_pool, hthreads, replies_set_none ht hc hstopped]
    rfl
  | some c =>
    obtain ⟨a, ha⟩ := hsound.genuine c ⟨_, List.mem_of_getElem? ht, hc⟩
    by_cases hid : c.locationId = locationId
    · have htaken := replies_taken ht hc hstopped hid
      rw [← hthreads] at htaken
      cases c with
      | put putId state =>
        obtain ⟨mode, custom, hrecord⟩ := effect_of_put hc
        have hstate : state = a.state := ha
        have hputId : putId = locationId := hid
        subst hstate hputId
        refine ⟨recorded mode custom a.state l, ?_, ?_⟩
        · rw [heffect, hrecord, recordResult_get?, if_pos rfl, hl]
          rfl
        · simp only [replica, ModeSystem.noteReply, ModeSystem.noteApplied,
            ModeSystem.noteReplied, Function.update_self, recorded_state]
          exact .writeAnswered a.shown a.revision _ htaken
      | get getId state =>
        have hstate : state = a.state := ha
        have hgetId : getId = locationId := hid
        subst hstate hgetId
        refine ⟨l.setRevision a.revision, ?_, ?_⟩
        · rw [heffect, effect_of_get hc, revisionOrOne_state, Locations.get?_setRevision,
            if_pos rfl, hl]
          rfl
        · simp only [replica, ModeSystem.noteReply, ModeSystem.noteReplied, Function.update_self]
          exact .readAnswered a.revision _ htaken
    · refine ⟨l, ?_, idle_of_eq ?_⟩
      · cases c with
        | put putId state =>
          obtain ⟨mode, custom, hrecord⟩ := effect_of_put hc
          have hne : locationId ≠ putId := Ne.symm hid
          rw [heffect, hrecord, recordResult_get?, if_neg hne, hl]
        | get getId state =>
          have hne : locationId ≠ getId := Ne.symm hid
          rw [heffect, effect_of_get hc, Locations.get?_setRevision, if_neg hne, hl]
      · rw [replica_pool, hthreads, replies_set_of_ne ht hc hstopped hid,
          replica_noteReply_of_ne hid]
        rfl

end Delivery

theorem mapM_str (hstr : ∀ text, scalars.str (.str text) = some text)
    (entries : List (String × String)) :
    (entries.map fun entry => (entry.1, Json.str entry.2)).mapM
      (fun entry => (scalars.str entry.2).map (Prod.mk entry.1)) = some entries := by
  induction entries with
  | nil => rfl
  | cons entry rest ih =>
    rw [List.map_cons, List.mapM_cons, hstr, ih]
    rfl

/-- The coordinator reads an event as Arlo meant it. -/
theorem validate_payload (hstr : ∀ text, scalars.str (.str text) = some text)
    (hint : ∀ n, scalars.int (.int n) = some n) (e : ModeEvent) :
    ActiveMode.validate scalars ((e.payload.get? "properties").getD (.obj [])) =
      some ⟨⟨e.state.mode, e.state.custom⟩, e.state.revision⟩ := by
  have hcustom : customField scalars [("mode", .str e.state.mode),
      ("custom", .obj (e.state.custom.entries.map fun entry => (entry.1, .str entry.2)))] =
      some e.state.custom := by
    show ((e.state.custom.entries.map fun entry => (entry.1, Json.str entry.2)).mapM
      (fun entry => (scalars.str entry.2).map (Prod.mk entry.1))).map Dict.ofEntries = _
    rw [mapM_str hstr, Option.map_some, Dict.ofEntries_entries]
  have hproperties : ActiveModeProperties.validate scalars (.obj [("mode", .str e.state.mode),
      ("custom", .obj (e.state.custom.entries.map fun entry => (entry.1, .str entry.2)))]) =
      some ⟨e.state.mode, e.state.custom⟩ := by
    simp [ActiveModeProperties.validate, Json.lookup, hstr, hcustom]
  simp [ActiveMode.validate, ModeEvent.payload, Json.get?, Json.lookup, hproperties, hint]

theorem handleActiveMode_payload (hstr : ∀ text, scalars.str (.str text) = some text)
    (hint : ∀ n, scalars.int (.int n) = some n) (e : ModeEvent) (s : CoordinatorState) :
    handleActiveMode scalars e.payload s =
      applyMode (some e.locationId) e.state.mode e.state.custom s := by
  rw [handleActiveMode, validate_payload hstr hint]
  rfl

theorem event_refines (hstr : ∀ text, scalars.str (.str text) = some text)
    (hint : ∀ n, scalars.int (.int n) = some n) {e : ModeEvent} {rest : List ModeEvent}
    (hl : sys.pool.shared.locations.get? locationId = some l) (hevents : sys.events = e :: rest)
    (hsys' : sys' = { sys.noteApplied e.locationId e.state.revision with
      pool := { sys.pool with shared := handleActiveMode scalars e.payload sys.pool.shared }
      events := rest }) :
    ∃ l', sys'.pool.shared.locations.get? locationId = some l' ∧
      (replica sys locationId l).Step (replica sys' locationId l') := by
  subst hsys'
  rw [handleActiveMode_payload hstr hint]
  by_cases hid : locationId = e.locationId
  · refine ⟨l.setMode e.state.mode e.state.custom, ?_, ?_⟩
    · rw [applyMode_some_get?, if_pos hid, hl]
      rfl
    · have hfeed : (replica sys locationId l).feed = (e.state.shown, e.state.revision) ::
          (rest.filter fun e => e.locationId = locationId).map fun e =>
            (e.state.shown, e.state.revision) := by
        simp [replica, hevents, hid]
      subst hid
      simp only [replica, ModeSystem.noteApplied, Function.update_self]
      exact .fed e.state.shown e.state.revision _ hfeed
  · refine ⟨l, ?_, idle_of_eq ?_⟩
    · rw [applyMode_some_get?, if_neg hid, hl]
    · simp [replica, ModeSystem.noteApplied, hevents, hid, Ne.symm hid]

theorem genuine_answer (cookieJar : List Cookie) (request : Request ModeRequest)
    (k : Except Exc (ModeReply request) → ModeAsync Unit) {c : Carried}
    (hc : carried (.answered request (.ok (sys.answer cookieJar request)) k) = some c) :
    c.Genuine := by
  cases request with
  | login => cases hc
  | client request =>
    cases request with
    | setActiveMode putId mode revision custom =>
      cases hc
      exact ⟨_, rfl⟩
    | getActiveMode getId =>
      cases hc
      exact ⟨_, rfl⟩

theorem Sound.step (hsound : Sound sys) {action : ModeAction}
    (h : sys.step scalars action = some sys') : Sound sys' := by
  cases action with
  | select locationId label =>
    rw [ModeSystem.step, Option.map_eq_some_iff] at h
    obtain ⟨pool, hpool, rfl⟩ := h
    refine ⟨hsound.pool_within hpool, ?_⟩
    intro c hc
    rw [Pool.step_start hpool, carriedBy_append (carried_stopped _ _ _)] at hc
    exact hsound.genuine c hc
  | other locationId mode custom =>
    cases h
    exact ⟨hsound.within, hsound.genuine⟩
  | refuse t err =>
    rw [ModeSystem.step, Option.map_eq_some_iff] at h
    obtain ⟨pool, hpool, rfl⟩ := h
    refine ⟨hsound.pool_within hpool, ?_⟩
    intro c hc
    obtain ⟨call, calls, request, k, ht, rfl⟩ := Pool.step_answer hpool
    rw [carriedBy_set_iff ht rfl, carried_refused] at hc
    exact hsound.genuine c (hc.resolve_right nofun)
  | serve t cookieJar =>
    simp only [ModeSystem.step] at h
    split at h
    next call calls request k ht =>
      obtain ⟨pool, hpool, rfl⟩ := Option.map_eq_some_iff.mp h
      refine ⟨hsound.pool_within hpool, ?_⟩
      intro c hc
      obtain ⟨call', calls', request', k', ht', rfl⟩ := Pool.step_answer hpool
      rcases (carriedBy_set_iff ht' rfl).mp hc with hold | hnew
      · exact hsound.genuine c hold
      · exact genuine_answer cookieJar request' k' hnew
    next => cases h
  | reply t =>
    simp only [ModeSystem.step] at h
    split at h
    next th ht =>
      obtain ⟨pool, hpool, rfl⟩ := Option.map_eq_some_iff.mp h
      refine ⟨hsound.pool_within hpool, ?_⟩
      intro c hc
      obtain ⟨call, calls, request, r, k, ht', rfl⟩ := Pool.step_deliver hpool
      rcases carriedBy_of_set hc with hold | hnew
      · exact hsound.genuine c hold
      · rw [carried_stopped] at hnew
        cases hnew
    next => cases h
  | event =>
    simp only [ModeSystem.step] at h
    split at h
    next => cases h
    next e rest hevents =>
      cases h
      exact ⟨hsound.within, hsound.genuine⟩

/-- Whatever the system does is, for each location the coordinator knows, a step of its replica. -/
theorem step_refines (hstr : ∀ text, scalars.str (.str text) = some text)
    (hint : ∀ n, scalars.int (.int n) = some n) (hsound : Sound sys) {action : ModeAction}
    (hl : sys.pool.shared.locations.get? locationId = some l)
    (h : sys.step scalars action = some sys') :
    ∃ l', sys'.pool.shared.locations.get? locationId = some l' ∧
      (replica sys locationId l).Step (replica sys' locationId l') := by
  cases action with
  | select selectedId label =>
    rw [ModeSystem.step, Option.map_eq_some_iff] at h
    obtain ⟨pool, hpool, rfl⟩ := h
    exact ⟨l, select_refines hl hpool⟩
  | other putId mode custom =>
    cases h
    exact ⟨l, hl, other_refines mode custom putId⟩
  | refuse t err =>
    rw [ModeSystem.step, Option.map_eq_some_iff] at h
    obtain ⟨pool, hpool, rfl⟩ := h
    exact ⟨l, refuse_refines hl hpool⟩
  | serve t cookieJar =>
    simp only [ModeSystem.step] at h
    split at h
    next call calls request k ht =>
      obtain ⟨pool, hpool, rfl⟩ := Option.map_eq_some_iff.mp h
      obtain ⟨call', calls', request', k', ht', rfl⟩ := Pool.step_answer hpool
      rw [ht] at ht'
      cases ht'
      exact ⟨l, hl, serve_refines ht rfl⟩
    next => cases h
  | reply t =>
    simp only [ModeSystem.step] at h
    split at h
    next th ht =>
      obtain ⟨pool, hpool, rfl⟩ := Option.map_eq_some_iff.mp h
      obtain ⟨call, calls, request, r, k, ht', rfl⟩ := Pool.step_deliver hpool
      rw [ht] at ht'
      cases ht'
      exact deliver_refines hsound hl ht rfl (Pool.deliver_within hsound.within ht)
    next => cases h
  | event =>
    simp only [ModeSystem.step] at h
    split at h
    next => cases h
    next e rest hevents =>
      cases h
      exact event_refines hstr hint hl hevents rfl

end Refinement

section Runs

variable {scalars : Scalars} {client : CoordinatorState} {arlo : String → ArloLocation}
variable {sys : ModeSystem} {locationId : String}

/-- The mode of a location is Arlo's: the custom map with it while the mode is custom, and no map
under any other mode. -/
structure ShowsMode (l : LocationState) (a : ArloLocation) : Prop where
  activeMode : l.activeMode = some a.mode
  custom : a.mode = "custom" → l.activeCustom = a.custom
  standard : a.mode ≠ "custom" → l.activeCustom = Dict.empty

/-- The record of a location is what Arlo has. -/
structure Agrees (l : LocationState) (a : ArloLocation) : Prop extends ShowsMode l a where
  modeRevision : l.modeRevision = a.revision

theorem showsMode_iff {l : LocationState} {a : ArloLocation} :
    ShowsMode l a ↔ (l.activeMode, l.activeCustom) = a.shown := by
  have hshown : a.shown = (some a.mode, if a.mode = "custom" then a.custom else Dict.empty) := rfl
  rw [hshown, Prod.mk.injEq]
  constructor
  · rintro ⟨hmode, hcustom, hstandard⟩
    refine ⟨hmode, ?_⟩
    split_ifs with hmode
    · exact hcustom hmode
    · exact hstandard hmode
  · rintro ⟨hmode, hmap⟩
    refine ⟨hmode, ?_, ?_⟩
    · intro hcustom
      rw [hmap, if_pos hcustom]
    · intro hstandard
      rw [hmap, if_neg hstandard]

theorem sound_start : Sound (.start client arlo) where
  within := by
    intro th hth
    cases hth
  genuine := by
    rintro c ⟨th, hth, -⟩
    cases hth

theorem replica_start_inv {l : LocationState} (h : Agrees l (arlo locationId)) :
    (replica (.start client arlo) locationId l).Inv where
  written := by
    rintro v n ⟨c, ⟨th, hth, -⟩, -⟩
    cases hth
  read := by
    rintro n ⟨c, ⟨th, hth, -⟩, -⟩
    cases hth
  feed := by
    rintro entry hentry
    cases hentry
  owed := le_rfl
  copy := ⟨le_rfl, fun _ => showsMode_iff.mp h.toShowsMode⟩
  applied := le_rfl
  known := h.modeRevision
  replied := ⟨le_rfl, le_rfl⟩
  own _ := Or.inl rfl

theorem reachable_replica (hstr : ∀ text, scalars.str (.str text) = some text)
    (hint : ∀ n, scalars.int (.int n) = some n)
    (hstart : ∀ locationId l, client.locations.get? locationId = some l →
      Agrees l (arlo locationId))
    (hreach : (ModeSystem.machine scalars).Reachable (.start client arlo) sys) :
    Sound sys ∧ ∀ locationId, (client.locations.get? locationId).isSome →
      ∃ l, sys.pool.shared.locations.get? locationId = some l ∧ (replica sys locationId l).Inv := by
  refine hreach.invariant (I := fun sys => Sound sys ∧ ∀ locationId,
    (client.locations.get? locationId).isSome → ∃ l,
      sys.pool.shared.locations.get? locationId = some l ∧ (replica sys locationId l).Inv) ?_ ?_
  · refine ⟨sound_start, ?_⟩
    intro locationId hsome
    obtain ⟨l, hl⟩ := Option.isSome_iff_exists.mp hsome
    exact ⟨l, hl, replica_start_inv (hstart locationId l hl)⟩
  · rintro sys action sys' ⟨hsound, hinv⟩ hstep
    refine ⟨hsound.step hstep, ?_⟩
    intro locationId hsome
    obtain ⟨l, hl, hreplica⟩ := hinv locationId hsome
    obtain ⟨l', hl', hrefines⟩ := step_refines hstr hint hsound hl hstep
    exact ⟨l', hl', hreplica.step hrefines⟩

theorem replies_of_quiescent (hquiet : sys.Quiescent) :
    replies sys.pool.threads locationId = ∅ := by
  rw [Set.eq_empty_iff_forall_notMem]
  rintro r ⟨c, ⟨th, hth, hc⟩, -⟩
  obtain ⟨result, hdone⟩ := hquiet.2 th hth
  rw [hdone] at hc
  cases hc

/-- Once nothing is in flight, a location shows Arlo's mode if the PUT reply or event applied last
is the newest one applied; it has Arlo's revision if the last set was the coordinator's own and the
HTTP reply applied last is the newest one. -/
theorem modes_agree_at_quiescence (hstr : ∀ text, scalars.str (.str text) = some text)
    (hint : ∀ n, scalars.int (.int n) = some n)
    (hstart : ∀ locationId l, client.locations.get? locationId = some l →
      Agrees l (arlo locationId))
    (hreach : (ModeSystem.machine scalars).Reachable (.start client arlo) sys)
    (hquiet : sys.Quiescent) (hknown : (client.locations.get? locationId).isSome) :
    ∃ l, sys.pool.shared.locations.get? locationId = some l ∧
      l.modeRevision ≤ (sys.arlo locationId).revision ∧
      (sys.last locationId = sys.applied locationId → ShowsMode l (sys.arlo locationId)) ∧
      (sys.foreign locationId = false → sys.answered locationId = sys.replied locationId →
        l.modeRevision = (sys.arlo locationId).revision) := by
  obtain ⟨l, hl, hinv⟩ := (reachable_replica hstr hint hstart hreach).2 locationId hknown
  have hfeed : (replica sys locationId l).feed = [] := by
    simp [replica, hquiet.1]
  obtain ⟨hcopy, hrevision⟩ := hinv.agreement hfeed (replies_of_quiescent hquiet)
  refine ⟨l, hl, ?_, fun hlast => showsMode_iff.mpr (hcopy hlast), hrevision⟩
  exact (le_of_eq hinv.known).trans (hinv.replied.1.trans hinv.replied.2)

end Runs

/-!
### One house
-/

def oneHouse : CoordinatorState where
  locations := ⟨[homeLocation], by decide⟩

def arloHouse : String → ArloLocation := fun _ =>
  { mode := "armAway", revision := 1, positive := by decide }

def houseRun (actions : List ModeAction) : ModeSystem :=
  ((ModeSystem.machine plainScalars).run (.start oneHouse arloHouse) actions).getD
    (.start oneHouse arloHouse)

/-- The user disarms the house, and its reply comes in before its event. -/
def userDisarms : List ModeAction :=
  [.select "home" "standby", .serve 0 [], .reply 0, .event]

/-- The reply comes in after another client's armHome and both events. -/
def replyComesLate : List ModeAction :=
  [.select "home" "standby", .serve 0 [], .other "home" "armHome" Dict.empty, .event, .event,
    .reply 0]

def otherArmsHome : List ModeAction := [.other "home" "armHome" Dict.empty, .event]

theorem modes_agree_at_quiescence_userDisarms :
    ∃ l, (houseRun userDisarms).pool.shared.locations.get? "home" = some l ∧
      l.activeMode = some "standby" ∧ l.activeCustom = Dict.empty ∧ l.modeRevision = 2 := by
  have hstart : ∀ locationId l, oneHouse.locations.get? locationId = some l →
      Agrees l (arloHouse locationId) := by
    intro locationId l hl
    have hhome : l ∈ [homeLocation] := Table.mem_of_get? hl
    rw [List.mem_singleton.mp hhome]
    have hstandard : (arloHouse locationId).mode ≠ "custom" := by simp [arloHouse]
    exact ⟨⟨rfl, fun hcustom => absurd hcustom hstandard, fun _ => rfl⟩, rfl⟩
  have hquiet : (houseRun userDisarms).Quiescent :=
    ⟨rfl, List.forall_mem_singleton.mpr ⟨.ok (), rfl⟩⟩
  have hreach : (ModeSystem.machine plainScalars).Reachable (.start oneHouse arloHouse)
      (houseRun userDisarms) := ⟨userDisarms, rfl⟩
  have hknown : (oneHouse.locations.get? "home").isSome := rfl
  obtain ⟨l, hl, -, hmode, hrevision⟩ :=
    modes_agree_at_quiescence (fun _ => rfl) (fun _ => rfl) hstart hreach hquiet hknown
  obtain ⟨hactive, -, hstandard⟩ := hmode rfl
  have hnotCustom : ((houseRun userDisarms).arlo "home").mode ≠ "custom" := by decide
  exact ⟨l, hl, hactive, hstandard hnotCustom, hrevision rfl rfl⟩

/-- A reply that comes in behind a newer event leaves the house shown in the wrong mode, and another
client's set leaves the revision behind. -/
theorem modes_disagree_at_quiescence :
    ((houseRun replyComesLate).Quiescent ∧
      ((houseRun replyComesLate).pool.shared.locations.get? "home").map
          (fun l => (l.activeMode, l.modeRevision)) = some (some "standby", 2) ∧
      ((houseRun replyComesLate).arlo "home").mode = "armHome" ∧
      ((houseRun replyComesLate).arlo "home").revision = 3) ∧
    ((houseRun otherArmsHome).Quiescent ∧
      ((houseRun otherArmsHome).pool.shared.locations.get? "home").map
          (fun l => (l.activeMode, l.modeRevision)) = some (some "armHome", 1) ∧
      ((houseRun otherArmsHome).arlo "home").mode = "armHome" ∧
      ((houseRun otherArmsHome).arlo "home").revision = 2) :=
  ⟨⟨⟨rfl, List.forall_mem_singleton.mpr ⟨.ok (), rfl⟩⟩, rfl, rfl, rfl⟩,
    ⟨rfl, fun _ hth => nomatch hth⟩, rfl, rfl, rfl⟩

end Eisenberg.Coordinator
