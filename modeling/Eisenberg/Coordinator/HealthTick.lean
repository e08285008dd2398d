import Eisenberg.Coordinator.Operations
import Eisenberg.Framework.Runs

/-!
# The steps of a health tick

`_async_update_data` down to what each step awaits: the MQTT reconnect behind its lock, and the
pruning of the archive with every call of the file system. A step that raises takes the later ones
with it.
-/

namespace Eisenberg

namespace Coordinator

open Framework

/-! ## The archive -/

/-- What the calls on a path that `rglob("*")` yields come back with. -/
structure FoundPath where
  isFile : Except Exc Bool
  mtime : Except Exc Nat
  unlink : Except Exc Unit

/-- What the calls on an entry of the archive come back with; `occupied` is `any(path.iterdir())`. -/
structure SweptPath where
  isDir : Except Exc Bool
  occupied : Except Exc Bool
  rmdir : Except Exc Unit

/-- What the file system answers one pruning. -/
structure Archive where
  exist : Except Exc Bool
  found : List FoundPath
  /-- The iteration of `rglob` is over, or raises after these. -/
  foundAll : Except Exc Unit
  /-- `sorted(media_path.iterdir(), reverse=True)` -/
  listing : Except Exc (List SweptPath)

def pruneFile (cutoff : Nat) (path : FoundPath) : Except Exc Nat := do
  if ← path.isFile then
    suppressOSError 0 do
      if (← path.mtime) < cutoff then
        path.unlink
        return 1
      else return 0
  else return 0

def pruneFiles (cutoff : Nat) : List FoundPath → Except Exc Nat
  | [] => return 0
  | path :: paths => do
    let removed ← pruneFile cutoff path
    return removed + (← pruneFiles cutoff paths)

def sweepDir (path : SweptPath) : Except Exc Unit := do
  if ← path.isDir then
    if ← path.occupied then return ()
    else suppressOSError () path.rmdir
  else return ()

def sweepDirs : List SweptPath → Except Exc Unit
  | [] => return ()
  | path :: paths => do
    sweepDir path
    sweepDirs paths

/-- The executor job of `_prune_old_media`. -/
def prune (cutoff : Nat) (archive : Archive) : Except Exc Nat := do
  if ← archive.exist then
    let removed ← pruneFiles cutoff archive.found
    archive.foundAll
    sweepDirs (← archive.listing)
    return removed
  else return 0

/-- No call that is not guarded raises, and the guarded ones raise `OSError` only. -/
structure FoundPath.Readable (cutoff : Nat) (path : FoundPath) : Prop where
  isFile : Returns path.isFile
  mtime : path.isFile = .ok true → Raises (fun err => err.isOSError = true) path.mtime
  unlink : path.isFile = .ok true → ∀ mtime, path.mtime = .ok mtime → mtime < cutoff →
    Raises (fun err => err.isOSError = true) path.unlink

structure SweptPath.Readable (path : SweptPath) : Prop where
  isDir : Returns path.isDir
  occupied : path.isDir = .ok true → Returns path.occupied
  rmdir : path.isDir = .ok true → path.occupied = .ok false →
    Raises (fun err => err.isOSError = true) path.rmdir

structure Archive.Readable (cutoff : Nat) (archive : Archive) : Prop where
  exist : Returns archive.exist
  found : archive.exist = .ok true → ∀ path ∈ archive.found, path.Readable cutoff
  foundAll : archive.exist = .ok true → Returns archive.foundAll
  listing : archive.exist = .ok true → Returns archive.listing
  swept : archive.exist = .ok true → ∀ paths, archive.listing = .ok paths →
    ∀ path ∈ paths, path.Readable

theorem pruneFile_returns_iff (cutoff : Nat) (path : FoundPath) :
    Returns (pruneFile cutoff path) ↔ path.Readable cutoff := by
  have hguarded : Raises (fun err => err.isOSError = true) (do
      if (← path.mtime) < cutoff then
        path.unlink
        return 1
      else return 0 : Except Exc Nat) ↔
      Raises (fun err => err.isOSError = true) path.mtime ∧
        ∀ mtime, path.mtime = .ok mtime → mtime < cutoff →
          Raises (fun err => err.isOSError = true) path.unlink := by
    rw [raises_bind]
    apply and_congr_right
    intro _
    apply forall₂_congr
    intro mtime _
    by_cases hold : mtime < cutoff
    · simp [hold]
    · simp [hold]
  rw [pruneFile, returns_when, returns_suppressOSError, hguarded]
  constructor
  · intro h
    exact ⟨h.1, fun htrue => (h.2 htrue).1, fun htrue => (h.2 htrue).2⟩
  · intro h
    exact ⟨h.isFile, fun htrue => ⟨h.mtime htrue, h.unlink htrue⟩⟩

theorem pruneFiles_returns_iff (cutoff : Nat) (paths : List FoundPath) :
    Returns (pruneFiles cutoff paths) ↔ ∀ path ∈ paths, path.Readable cutoff := by
  induction paths with
  | nil => simp [pruneFiles, Returns]
  | cons path paths ih =>
    have hrest : ∀ removed, Returns (do
        return removed + (← pruneFiles cutoff paths) : Except Exc Nat) ↔
        ∀ path ∈ paths, path.Readable cutoff := by
      intro removed
      rw [returns_bind, ih]
      exact and_iff_left fun _ _ => trivial
    rw [pruneFiles, returns_seq hrest, pruneFile_returns_iff, List.forall_mem_cons]

theorem sweepDir_returns_iff (path : SweptPath) : Returns (sweepDir path) ↔ path.Readable := by
  rw [sweepDir, returns_when, returns_bind]
  constructor
  · intro h
    refine ⟨h.1, fun htrue => (h.2 htrue).1, ?_⟩
    intro htrue hfree
    exact returns_suppressOSError.mp ((h.2 htrue).2 false hfree)
  · intro h
    refine ⟨h.isDir, fun htrue => ⟨h.occupied htrue, ?_⟩⟩
    intro occupied hocc
    cases occupied with
    | true => exact trivial
    | false => exact returns_suppressOSError.mpr (h.rmdir htrue hocc)

theorem sweepDirs_returns_iff (paths : List SweptPath) :
    Returns (sweepDirs paths) ↔ ∀ path ∈ paths, path.Readable := by
  induction paths with
  | nil => simp [sweepDirs, Returns]
  | cons path paths ih =>
    rw [sweepDirs, returns_seq fun _ => ih, sweepDir_returns_iff, List.forall_mem_cons]

/-- The pruning comes to its end if and only if no unguarded call that it makes raises. -/
theorem prune_returns_iff (cutoff : Nat) (archive : Archive) :
    Returns (prune cutoff archive) ↔ archive.Readable cutoff := by
  have hswept : ∀ removed, Returns (do
      sweepDirs (← archive.listing)
      return removed : Except Exc Nat) ↔
      Returns archive.listing ∧ ∀ paths, archive.listing = .ok paths →
        ∀ path ∈ paths, path.Readable := by
    intro removed
    rw [returns_bind]
    apply and_congr_right
    intro _
    apply forall₂_congr
    intro paths _
    rw [returns_bind, sweepDirs_returns_iff]
    exact and_iff_left fun _ _ => trivial
  have hrest : ∀ removed, Returns (do
      archive.foundAll
      sweepDirs (← archive.listing)
      return removed : Except Exc Nat) ↔
      Returns archive.foundAll ∧ Returns archive.listing ∧
        ∀ paths, archive.listing = .ok paths → ∀ path ∈ paths, path.Readable :=
    fun removed => returns_seq fun _ => hswept removed
  rw [prune, returns_when, returns_seq hrest, pruneFiles_returns_iff]
  constructor
  · intro h
    exact ⟨h.1, fun htrue => (h.2 htrue).1, fun htrue => (h.2 htrue).2.1,
      fun htrue => (h.2 htrue).2.2.1, fun htrue => (h.2 htrue).2.2.2⟩
  · intro h
    refine ⟨h.exist, ?_⟩
    intro htrue
    exact ⟨h.found htrue, h.foundAll htrue, h.listing htrue, h.swept htrue⟩

/-! ## The tick -/

/-- What the tick awaits below `_ensure_mqtt` and `_prune_old_media`. The lock is granted with what
the coordinator then holds. -/
inductive TickRequest where
  | arlo (i : Request ArloRequest)
  | mqttLock
  | connect
  | syncSse
  | pruneJob
  /-- `time.monotonic()` of `_maybe_renew_base_stations`. -/
  | monotonic

/-- Behind the lock: whether a stream is up, and whether there is everything to build one. -/
structure MqttView where
  up : Bool
  ready : Bool

@[reducible] def TickReply : TickRequest → Type
  | .arlo i => ArloReply i
  | .mqttLock => MqttView
  | .connect | .syncSse => Unit
  | .pruneJob | .monotonic => Nat

abbrev Tick := Co CoordinatorState Exc TickReply

/-- Bring the MQTT stream up if it is down. True when it is up. -/
def ensureMqtt : Tick Bool := do
  let view ← Co.await TickRequest.mqttLock
  if view.up then return true
  else if view.ready then
    let connected ← tryCatch (do
        Co.await TickRequest.connect
        return true)
      fun err => if err.isException then pure false else throw err
    if connected then
      tryCatch (Co.await TickRequest.syncSse)
        fun err => if err.isException then pure () else throw err
      return true
    else return false
  else return false

/-- The pruning, if media is archived at all, and the clock of the renewal after it. -/
def pruneThenClock (mediaPath : Bool) : Tick Nat := do
  if mediaPath then
    let _ ← Co.await TickRequest.pruneJob
  Co.await TickRequest.monotonic

def tickProgram (mediaPath : Bool) : (i : Request ArloRequest) → Tick (ArloReply i)
  | .login => Co.await (TickRequest.arlo .login)
  | .client (.rest method) => Co.await (TickRequest.arlo (.client (.rest method)))
  | .client .ensureMqtt => ensureMqtt
  | .client .pruneOldMedia => pruneThenClock mediaPath

/-- Periodic health check: token refresh, MQTT reconnect, device sync. -/
def asyncUpdateData (mediaPath stale : Bool) : Tick Unit :=
  (healthTick stale).interpret (tickProgram mediaPath)

/-! ## What a tick attempts -/

/-- A verdict on the credentials, which ends the tick. -/
def authVerdict (err : Exc) : Bool := err.isAuthenticationError || err.isRateLimitedError

/-- The answers of a tick: the token refresh comes to no verdict, what raises raises ordinary
exceptions, and the file system answers as the archive says. -/
def TickAnswers (cutoff : Nat) (archive : Archive) :
    (i : TickRequest) → Except Exc (TickReply i) → Prop
  | .arlo .login, r => Raises (fun err => err.isException = true ∧ authVerdict err = false) r
  | .arlo (.client _), r => Raises (fun err => err.isException = true) r
  | .mqttLock, r => Returns r
  | .connect, r => Raises (fun err => err.isException = true) r
  | .syncSse, r => Raises (fun err => err.isException = true) r
  | .pruneJob, r => r = prune cutoff archive
  | .monotonic, r => Returns r

section Steps

variable {A : (i : Request ArloRequest) → Except Exc (ArloReply i) → Prop}
  {E : CoordinatorState → CoordinatorState → Prop}

/-- What the methods of the client raise is ordinary. -/
def RestOrdinary (A : (i : Request ArloRequest) → Except Exc (ArloReply i) → Prop) : Prop :=
  ∀ method err, A (.client (.rest method)) (.error err) → err.isException = true

theorem rest_ordinary (hrest : RestOrdinary A) (method : Client.Method) :
    Co.RaisesOnly A E (fun err => err.isException = true) (rest method) :=
  Co.raisesOnly_await (hrest method)

theorem logged_quiet {c : ArloAsync Unit}
    (h : Co.RaisesOnly A E (fun err => err.isException = true) c) :
    Co.RaisesOnly A E (fun _ => False) (logged c) := by
  refine Co.RaisesOnly.tryCatch h fun err herr => ?_
  rw [if_pos herr]
  exact Co.raisesOnly_pure ()

theorem bringUpBase_quiet (hrest : RestOrdinary A) (baseId : String) :
    Co.RaisesOnly A E (fun _ => False) (bringUpBase baseId) := by
  have hregister : Co.RaisesOnly A E (fun err => err.isException = true) (do
      let _ ← rest (.registerEventSubscription baseId)
      return true : ArloAsync Bool) :=
    (rest_ordinary hrest _).bind fun _ => Co.raisesOnly_pure true
  refine Co.RaisesOnly.bind (Co.RaisesOnly.tryCatch hregister fun err herr => ?_) fun registered => ?_
  · rw [if_pos herr]
    exact Co.raisesOnly_pure false
  · cases registered with
    | true => exact logged_quiet (rest_ordinary hrest (.requestDeviceStates baseId))
    | false => exact Co.raisesOnly_pure ()

theorem bringUpEach_quiet (hrest : RestOrdinary A) (ids : List String) :
    Co.RaisesOnly A E (fun _ => False) (bringUpEach ids) := by
  induction ids with
  | nil => exact Co.raisesOnly_pure ()
  | cons baseId ids ih => exact (bringUpBase_quiet hrest baseId).bind fun _ => ih

theorem maybeRenewBaseStations_quiet (hrest : RestOrdinary A) (now : Nat) :
    Co.RaisesOnly A E (fun _ => False) (maybeRenewBaseStations now) := by
  refine Co.raisesOnly_get_bind fun s => ?_
  split
  · exact Co.raisesOnly_pure ()
  · refine Co.RaisesOnly.bind (Co.raisesOnly_modify _) fun _ => ?_
    exact Co.raisesOnly_get_bind fun t => bringUpEach_quiet hrest _

theorem refreshToken_quiet
    (hlogin : ∀ err, A .login (.error err) → err.isException = true ∧ authVerdict err = false) :
    Co.RaisesOnly A E (fun _ => False) refreshToken := by
  have hsilent : Co.RaisesOnly A E
      (fun err => err.isException = true ∧ authVerdict err = false) (loginSilent (ρ := ArloAnswers)) :=
    Co.RaisesOnly.bind (Co.raisesOnly_await hlogin) fun _ =>
      Co.RaisesOnly.bind (Co.raisesOnly_modify _) fun _ => Co.raisesOnly_modify _
  refine Co.RaisesOnly.tryCatch hsilent fun err herr => ?_
  obtain ⟨hexception, hverdict⟩ := herr
  have hmfa : err.isMfaRequired = false := by
    cases err <;> first | rfl | cases hverdict
  change Co.RaisesOnly A E _ (if err.isMfaRequired then _ else if authVerdict err then _ else
    if err.isException then _ else _)
  rw [hmfa, hverdict, hexception]
  exact Co.raisesOnly_pure ()

theorem refreshToken_asks : Co.AsksOnly A E (fun i => i = .login) refreshToken := by
  have hsilent : Co.AsksOnly A E (fun i => i = .login) (loginSilent (ρ := ArloAnswers)) :=
    Co.AsksOnly.bind (Co.asksOnly_await rfl) fun _ =>
      Co.AsksOnly.bind (Co.asksOnly_modify _) fun _ => Co.asksOnly_modify _
  refine Co.AsksOnly.tryCatch hsilent fun err => ?_
  split
  · exact Co.asksOnly_throw _
  · split
    · exact Co.asksOnly_throw _
    · split
      · exact Co.asksOnly_pure ()
      · exact Co.asksOnly_throw _

theorem refreshDevices_calls {s t : CoordinatorState} {calls : List (Request ArloRequest)}
    {r : Except Exc Unit} (hran : Co.Ran A E s refreshDevices calls t r) :
    .client (.rest .getDevices) ∈ calls := by
  have hread : ∀ {s t : CoordinatorState} {calls : List (Request ArloRequest)}
      {r : Except Exc Unit}, Co.Ran A E s (do
        let _ ← rest .getDevices
        return () : ArloAsync Unit) calls t r → .client (.rest .getDevices) ∈ calls := by
    intro s t calls r h
    rcases Co.ran_bind_iff.mp h with ⟨first, u, devices, rest, hfirst, -, rfl⟩ | ⟨err, hfirst, -⟩
    · obtain ⟨rfl, -⟩ := Co.ran_await_iff.mp hfirst
      simp
    · obtain ⟨rfl, -⟩ := Co.ran_await_iff.mp hfirst
      simp
  rcases Co.ran_tryCatch_iff.mp hran with ⟨_, h, -⟩ | ⟨earlier, u, err, later, h, -, rfl⟩
  · exact hread h
  · exact List.mem_append_left later (hread h)

/-- The device list is read once the pruning has come back with a clock. -/
theorem maintain_calls (hrest : RestOrdinary A)
    (hmqtt : ∀ a, A (.client .ensureMqtt) a → Returns a) {s t : CoordinatorState}
    {calls : List (Request ArloRequest)} {r : Except Exc Unit}
    (hran : Co.Ran A E s maintain calls t r) :
    .client .ensureMqtt ∈ calls ∧ .client .pruneOldMedia ∈ calls ∧
      ∃ a, A (.client .pruneOldMedia) a ∧
        (Returns a ↔ .client (.rest .getDevices) ∈ calls) := by
  unfold maintain at hran
  rcases Co.ran_bind_iff.mp hran with ⟨first, u, up, rest, hfirst, hrestRan, rfl⟩ |
    ⟨err, hfirst, -⟩
  · obtain ⟨rfl, -, -⟩ := Co.ran_await_iff.mp hfirst
    rcases Co.ran_bind_iff.mp hrestRan with ⟨second, v, now, later, hsecond, hlater, rfl⟩ |
      ⟨err, hsecond, -⟩
    · obtain ⟨rfl, hprune, -⟩ := Co.ran_await_iff.mp hsecond
      have hlist : .client (.rest .getDevices) ∈ later := by
        rcases Co.ran_bind_iff.mp hlater with ⟨third, w, _, fourth, -, hfourth, rfl⟩ |
          ⟨err, hthird, -⟩
        · exact List.mem_append_right third (refreshDevices_calls hfourth)
        · exact (maybeRenewBaseStations_quiet hrest now v later t err hthird).elim
      exact ⟨by simp, by simp, .ok now, hprune, by simp [Returns, hlist]⟩
    · obtain ⟨rfl, hprune, -⟩ := Co.ran_await_iff.mp hsecond
      exact ⟨by simp, by simp, .error err, hprune, by simp [Returns]⟩
  · obtain ⟨-, hA, -⟩ := Co.ran_await_iff.mp hfirst
    exact absurd (hmqtt _ hA) (by simp [Returns])

theorem healthTick_calls (hrest : RestOrdinary A)
    (hlogin : ∀ err, A .login (.error err) → err.isException = true ∧ authVerdict err = false)
    (hmqtt : ∀ a, A (.client .ensureMqtt) a → Returns a) {stale : Bool}
    {s t : CoordinatorState} {calls : List (Request ArloRequest)} {r : Except Exc Unit}
    (hran : Co.Ran A E s (healthTick stale) calls t r) :
    .client .ensureMqtt ∈ calls ∧ .client .pruneOldMedia ∈ calls ∧
      ∃ a, A (.client .pruneOldMedia) a ∧
        (Returns a ↔ .client (.rest .getDevices) ∈ calls) := by
  cases stale with
  | false => exact maintain_calls hrest hmqtt hran
  | true =>
    have hran : Co.Ran A E s (refreshToken >>= fun _ => maintain) calls t r := hran
    rcases Co.ran_bind_iff.mp hran with ⟨first, u, _, rest, hfirst, hmaintain, rfl⟩ |
      ⟨err, hfirst, -⟩
    · obtain ⟨hensure, hprune, a, ha, hlist⟩ := maintain_calls hrest hmqtt hmaintain
      have hfirst : .client (.rest .getDevices) ∉ first := by
        intro hmem
        cases refreshToken_asks s first u _ hfirst _ hmem
      refine ⟨List.mem_append_right first hensure, List.mem_append_right first hprune, a, ha, ?_⟩
      rw [List.mem_append, or_iff_right hfirst]
      exact hlist
    · exact (refreshToken_quiet hlogin s calls t err hfirst).elim

end Steps

/-! ## The programs of the requests -/

/-- `_ensure_mqtt` raises nothing, if the lock is granted and what raises is ordinary. -/
theorem ensureMqtt_raisesNothing {A : (i : TickRequest) → Except Exc (TickReply i) → Prop}
    {E : CoordinatorState → CoordinatorState → Prop} (hlock : ∀ err, ¬ A .mqttLock (.error err))
    (hconnect : ∀ err, A .connect (.error err) → err.isException = true)
    (hsync : ∀ err, A .syncSse (.error err) → err.isException = true) :
    Co.RaisesOnly A E (fun _ => False) ensureMqtt := by
  have hbuild : Co.RaisesOnly A E (fun err => err.isException = true) (do
        Co.await TickRequest.connect
        return true : Tick Bool) :=
    Co.RaisesOnly.bind (Co.raisesOnly_await hconnect) fun _ => Co.raisesOnly_pure true
  have hsupplement : Co.RaisesOnly A E (fun err => err.isException = true)
      (Co.await TickRequest.syncSse : Tick Unit) := Co.raisesOnly_await hsync
  refine Co.RaisesOnly.bind (Co.raisesOnly_await hlock) fun view => ?_
  split
  · exact Co.raisesOnly_pure true
  · split
    · refine Co.RaisesOnly.bind (Co.RaisesOnly.tryCatch hbuild fun err herr => ?_)
        fun connected => ?_
      · rw [if_pos herr]
        exact Co.raisesOnly_pure false
      · split
        · refine Co.RaisesOnly.bind (Co.RaisesOnly.tryCatch hsupplement fun err herr => ?_)
            fun _ => Co.raisesOnly_pure true
          rw [if_pos herr]
          exact Co.raisesOnly_pure ()
        · exact Co.raisesOnly_pure false
    · exact Co.raisesOnly_pure false

section Programs

variable {cutoff : Nat} {archive : Archive} {E : CoordinatorState → CoordinatorState → Prop}
  {mediaPath : Bool} {s t : CoordinatorState} {calls : List TickRequest}

theorem ensureMqtt_quiet :
    Co.RaisesOnly (TickAnswers cutoff archive) E (fun _ => False) ensureMqtt :=
  ensureMqtt_raisesNothing (fun _ h => h) (fun _ h => h) fun _ h => h

theorem ensureMqtt_calls {r : Except Exc Bool}
    (h : Co.Ran (TickAnswers cutoff archive) E s ensureMqtt calls t r) : .mqttLock ∈ calls := by
  rcases Co.ran_bind_iff.mp h with ⟨first, u, view, later, hfirst, -, rfl⟩ | ⟨err, hfirst, -⟩
  · obtain ⟨rfl, -⟩ := Co.ran_await_iff.mp hfirst
    simp
  · obtain ⟨rfl, -⟩ := Co.ran_await_iff.mp hfirst
    simp

/-- The clock is read, and with it the renewal begins, if and only if the pruning comes to its
end. -/
theorem pruneThenClock_ran {r : Except Exc Nat}
    (h : Co.Ran (TickAnswers cutoff archive) E s (pruneThenClock mediaPath) calls t r) :
    (.monotonic ∈ calls ↔ (mediaPath = true → archive.Readable cutoff)) ∧
      (Returns r ↔ (mediaPath = true → archive.Readable cutoff)) := by
  have hclock : ∀ {u : CoordinatorState} {calls : List TickRequest} {r : Except Exc Nat},
      Co.Ran (TickAnswers cutoff archive) E u (Co.await TickRequest.monotonic) calls t r →
        .monotonic ∈ calls ∧ Returns r := by
    intro u calls r hrun
    obtain ⟨rfl, hr, -⟩ := Co.ran_await_iff.mp hrun
    exact ⟨by simp, hr⟩
  cases mediaPath with
  | false =>
    obtain ⟨hmem, hreturns⟩ := hclock h
    simp [hmem, hreturns]
  | true =>
    have h : Co.Ran (TickAnswers cutoff archive) E s
        (Co.await TickRequest.pruneJob >>= fun _ => Co.await TickRequest.monotonic) calls t r := h
    rw [← prune_returns_iff]
    rcases Co.ran_bind_iff.mp h with ⟨first, u, removed, later, hfirst, hlater, rfl⟩ |
      ⟨err, hfirst, rfl⟩
    · obtain ⟨rfl, hprune, -⟩ := Co.ran_await_iff.mp hfirst
      have hprune : Except.ok removed = prune cutoff archive := hprune
      obtain ⟨hmem, hreturns⟩ := hclock hlater
      simp only [← hprune, Returns, raises_ok, implies_true, iff_true]
      exact ⟨List.mem_append_right _ hmem, hreturns⟩
    · obtain ⟨rfl, hprune, -⟩ := Co.ran_await_iff.mp hfirst
      have hprune : Except.error err = prune cutoff archive := hprune
      simp [← hprune, Returns]

/-- What the program of each request asks. -/
def Asked : Request ArloRequest → TickRequest → Prop
  | .login, j => j = .arlo .login
  | .client (.rest method), j => j = .arlo (.client (.rest method))
  | .client .ensureMqtt, j => j = .mqttLock ∨ j = .connect ∨ j = .syncSse
  | .client .pruneOldMedia, j => j = .pruneJob ∨ j = .monotonic

theorem ensureMqtt_asks : Co.AsksOnly (TickAnswers cutoff archive) E
    (Asked (.client .ensureMqtt)) ensureMqtt := by
  refine Co.AsksOnly.bind (Co.asksOnly_await (Or.inl rfl)) fun view => ?_
  split
  · exact Co.asksOnly_pure true
  · split
    · refine Co.AsksOnly.bind (Co.AsksOnly.tryCatch ?_ fun err => ?_) fun connected => ?_
      · exact Co.AsksOnly.bind (Co.asksOnly_await (Or.inr (Or.inl rfl))) fun _ =>
          Co.asksOnly_pure true
      · split
        · exact Co.asksOnly_pure false
        · exact Co.asksOnly_throw err
      · split
        · refine Co.AsksOnly.bind (Co.AsksOnly.tryCatch ?_ fun err => ?_) fun _ =>
            Co.asksOnly_pure true
          · exact Co.asksOnly_await (Or.inr (Or.inr rfl))
          · split
            · exact Co.asksOnly_pure ()
            · exact Co.asksOnly_throw err
        · exact Co.asksOnly_pure false
    · exact Co.asksOnly_pure false

theorem tickProgram_asks (i : Request ArloRequest) :
    Co.AsksOnly (TickAnswers cutoff archive) E (Asked i) (tickProgram mediaPath i) := by
  match i with
  | .login => exact Co.asksOnly_await rfl
  | .client (.rest method) => exact Co.asksOnly_await rfl
  | .client .ensureMqtt => exact ensureMqtt_asks
  | .client .pruneOldMedia =>
    cases mediaPath with
    | false => exact Co.asksOnly_await (Or.inr rfl)
    | true =>
      exact Co.AsksOnly.bind (Co.asksOnly_await (Or.inl rfl)) fun _ =>
        Co.asksOnly_await (Or.inr rfl)

/-- The reconnect, the renewal and the refresh of one tick have begun. -/
structure AttemptsAll (calls : List TickRequest) : Prop where
  reconnect : .mqttLock ∈ calls
  renewal : .monotonic ∈ calls
  refresh : .arlo (.client (.rest .getDevices)) ∈ calls

/-- A tick whose token refresh comes to no verdict attempts the reconnect, the renewal and the
refresh, whatever ordinary exceptions its steps raise, if and only if no call of the file system
that the pruning leaves unguarded raises. -/
theorem health_tick_attempts_iff {stale : Bool} {r : Except Exc Unit}
    (hran : Co.Ran (TickAnswers cutoff archive) E s (asyncUpdateData mediaPath stale) calls t r) :
    AttemptsAll calls ↔ (mediaPath = true → archive.Readable cutoff) := by
  obtain ⟨parts, hcoarse, rfl, hparts⟩ := Co.Ran.interpret hran
  have hrest : RestOrdinary (Co.Answered (tickProgram mediaPath)
      (TickAnswers cutoff archive) E) := by
    rintro method err ⟨u, js, v, h⟩
    exact (Co.ran_await_iff.mp h).2.1
  have hlogin : ∀ err, Co.Answered (tickProgram mediaPath) (TickAnswers cutoff archive) E .login
      (.error err) → err.isException = true ∧ authVerdict err = false := by
    rintro err ⟨u, js, v, h⟩
    exact (Co.ran_await_iff.mp h).2.1
  have hmqtt : ∀ a, Co.Answered (tickProgram mediaPath) (TickAnswers cutoff archive) E
      (.client .ensureMqtt) a → Returns a := by
    rintro a ⟨u, js, v, h⟩
    exact returns_iff.mpr (h.returns ensureMqtt_quiet)
  obtain ⟨hensure, hprune, a, ⟨u, js, v, ha⟩, hlist⟩ :=
    healthTick_calls hrest hlogin hmqtt hcoarse
  rw [(pruneThenClock_ran ha).2] at hlist
  have hpart : ∀ i, i ∈ parts.map Prod.fst → ∃ part ∈ parts, part.1 = i := by
    intro i hi
    obtain ⟨part, hmem, heq⟩ := List.mem_map.mp hi
    exact ⟨part, hmem, heq⟩
  constructor
  · intro hall
    obtain ⟨part, hmem, hasked⟩ := List.mem_flatMap.mp hall.refresh
    obtain ⟨u, v, b, hb⟩ := hparts part hmem
    have hkind := tickProgram_asks part.1 u part.2 v b hb _ hasked
    have hdevices : part.1 = .client (.rest .getDevices) := by
      match hfirst : part.1, hkind with
      | .client (.rest method), hkind =>
        cases hkind
        rfl
      | .login, hkind => cases hkind
      | .client .ensureMqtt, hkind => rcases hkind with hkind | hkind | hkind <;> cases hkind
      | .client .pruneOldMedia, hkind => rcases hkind with hkind | hkind <;> cases hkind
    exact hlist.mpr (List.mem_map.mpr ⟨part, hmem, hdevices⟩)
  · intro hgood
    refine ⟨?_, ?_, ?_⟩
    · obtain ⟨⟨i, js'⟩, hmem, rfl⟩ := hpart _ hensure
      obtain ⟨u, v, b, hb⟩ := hparts _ hmem
      exact List.mem_flatMap.mpr ⟨_, hmem, ensureMqtt_calls hb⟩
    · obtain ⟨⟨i, js'⟩, hmem, rfl⟩ := hpart _ hprune
      obtain ⟨u, v, b, hb⟩ := hparts _ hmem
      exact List.mem_flatMap.mpr ⟨_, hmem, (pruneThenClock_ran hb).1.mpr hgood⟩
    · obtain ⟨⟨i, js'⟩, hmem, rfl⟩ := hpart _ (hlist.mp hgood)
      obtain ⟨u, v, b, hb⟩ := hparts _ hmem
      obtain ⟨hcalls, -⟩ := Co.ran_await_iff.mp hb
      exact List.mem_flatMap.mpr ⟨_, hmem, by rw [hcalls]; simp⟩

end Programs

/-! ### An archive that cannot be listed -/

/-- The archive's directory has gone between `exists()` and `iterdir()`. -/
def goneArchive : Archive where
  exist := .ok true
  found := []
  foundAll := .ok ()
  listing := .error (.builtin .osError "[Errno 2] No such file or directory")

/-- Two days' directories: a clip older than the cutoff, the only file of its day, and a newer one. -/
def datedArchive : Archive where
  exist := .ok true
  found :=
    [{ isFile := .ok false, mtime := .ok 0, unlink := .ok () },
      { isFile := .ok true, mtime := .ok 50, unlink := .ok () },
      { isFile := .ok false, mtime := .ok 0, unlink := .ok () },
      { isFile := .ok true, mtime := .ok 150, unlink := .ok () }]
  foundAll := .ok ()
  listing := .ok
    [{ isDir := .ok true, occupied := .ok true, rmdir := .ok () },
      { isDir := .ok true, occupied := .ok false, rmdir := .ok () }]

/-- Two base stations, whose registration has run out. -/
def twoBases : CoordinatorState where
  devices := [{ deviceId := "BASE-1", deviceType := some "basestation" },
    { deviceId := "BASE-2", deviceType := some "basestation" }]

/-- A tick with the stream up: the pruning raises, and nothing after it is attempted. -/
theorem gone_archive_starves :
    ∃ calls r, Co.Ran (TickAnswers 0 goneArchive) Eq ({} : CoordinatorState)
        (asyncUpdateData true false) calls {} r ∧ ¬ AttemptsAll calls := by
  refine ⟨[.mqttLock, .pruneJob],
    .error (.builtin .osError "[Errno 2] No such file or directory"), ?_, ?_⟩
  · refine .call (a := .ok ⟨true, true⟩) trivial rfl ?_
    refine .call (i := TickRequest.pruneJob) rfl rfl ?_
    exact .ret
  · intro h
    have hrenewal := h.renewal
    simp at hrenewal

/-- The stream cannot be built, the first base station does not register and the device list is
refused; the old clip is removed, and everything has been attempted. -/
theorem failing_steps_attempt_all :
    prune 100 datedArchive = .ok 1 ∧ (true = true → datedArchive.Readable 100) ∧
      AttemptsAll [.mqttLock, .connect, .pruneJob, .monotonic,
        .arlo (.client (.rest (.registerEventSubscription "BASE-1"))),
        .arlo (.client (.rest (.registerEventSubscription "BASE-2"))),
        .arlo (.client (.rest (.requestDeviceStates "BASE-2"))),
        .arlo (.client (.rest .getDevices))] := by
  have hpruned : prune 100 datedArchive = .ok 1 := rfl
  have hgood : datedArchive.Readable 100 := (prune_returns_iff 100 datedArchive).mp trivial
  have hdown : TickAnswers 100 datedArchive .connect (.error (.builtin .osError "refused")) := rfl
  have hrefused : ∀ method, TickAnswers 100 datedArchive (.arlo (.client (.rest method)))
      (.error (.transientAPIError "502")) := fun _ => rfl
  have hran : Co.Ran (TickAnswers 100 datedArchive) Eq twoBases (asyncUpdateData true false)
      [.mqttLock, .connect, .pruneJob, .monotonic,
        .arlo (.client (.rest (.registerEventSubscription "BASE-1"))),
        .arlo (.client (.rest (.registerEventSubscription "BASE-2"))),
        .arlo (.client (.rest (.requestDeviceStates "BASE-2"))),
        .arlo (.client (.rest .getDevices))]
      { twoBases with lastBaseBringup := BASE_STATION_RENEW_INTERVAL } (.ok ()) := by
    refine .call (a := .ok ⟨false, true⟩) trivial rfl ?_
    refine .call hdown rfl ?_
    refine .call (i := TickRequest.pruneJob) (a := .ok 1) hpruned.symm rfl ?_
    refine .call (i := TickRequest.monotonic) (a := .ok BASE_STATION_RENEW_INTERVAL) trivial rfl ?_
    refine .get (.get (.set (.get ?_)))
    refine .call (hrefused (.registerEventSubscription "BASE-1")) rfl ?_
    refine .call (a := .ok ()) trivial rfl ?_
    refine .call (a := .ok ()) trivial rfl ?_
    refine .call (hrefused .getDevices) rfl ?_
    exact .ret
  exact ⟨hpruned, fun _ => hgood, (health_tick_attempts_iff hran).mpr fun _ => hgood⟩

end Coordinator

end Eisenberg
