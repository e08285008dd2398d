import Eisenberg.Framework.FileSystem
import Eisenberg.Framework.Transition
import Mathlib.Data.List.Sort

/-!
# Pruning against archiving

`_archive_media`, `archive_bytes` and `_prune_old_media` on one file system. Each of their jobs runs
in a thread of the executor, so that the operations of one fall between those of another: between
the directory a call has made and the file it writes there, the sweep of a prune takes the directory
away as empty.

Paths are those under `media_path`, which is set. Times are nanoseconds of the system clock, which
may be set to anything.
-/

namespace Eisenberg.Coordinator

open Framework

/-! ## Names -/

/-- Year, month and day of a day counted from 1970-01-01. -/
def civilDate (day : Nat) : Nat × Nat × Nat :=
  let z := day + 719468
  let era := z / 146097
  let doe := z % 146097
  let yoe := (doe - doe / 1460 + doe / 36524 - doe / 146096) / 365
  let doy := doe - (365 * yoe + yoe / 4 - yoe / 100)
  let mp := (5 * doy + 2) / 153
  let month := if mp < 10 then mp + 3 else mp - 9
  (yoe + era * 400 + (if month ≤ 2 then 1 else 0), month, doy - (153 * mp + 2) / 5 + 1)

def zeroPadded (width n : Nat) : String :=
  String.ofList ((toString n).toList.leftpad width '0')

def DAY : Nat := 86400 * 1000000000

/-- `now.strftime("%Y-%m-%d")`. -/
def dateName (now : Nat) : String :=
  let (year, month, day) := civilDate (now / DAY)
  zeroPadded 4 year ++ "-" ++ zeroPadded 2 month ++ "-" ++ zeroPadded 2 day

example : [dateName 0, dateName (19782 * DAY), dateName (20454 * DAY - 1)] =
    ["1970-01-01", "2024-02-29", "2025-12-31"] := by decide +kernel

/-- `f"{timestamp}_{device_id}_{media_type}.{ext}"`. -/
def archiveName (now : Nat) (deviceId mediaType ext : String) : String :=
  toString (now / 1000000000) ++ "_" ++ deviceId ++ "_" ++ mediaType ++ "." ++ ext

/-- The parts a name adds to a path. -/
def pathParts (name : String) : Path :=
  ((name.toList.splitOn '/').map String.ofList).filter fun part => part ≠ "" ∧ part ≠ "."

def codePoints (part : String) : List Nat := part.toList.map Char.toNat

/-- The order of paths: part by part, each by its code points. -/
def pathLt (p q : Path) : Bool :=
  (p.map codePoints).lex (q.map codePoints) fun a b => a.lex b Nat.blt

/-- `sorted(paths, reverse=True)`. -/
def sortedReverse (paths : List Path) : List Path :=
  paths.insertionSort fun p q => pathLt p q = false

example : sortedReverse [["2024-02-29"], ["2025-12-31"], ["2024-02"]] =
    [["2025-12-31"], ["2024-02-29"], ["2024-02"]] := by decide +kernel

/-! ## The calls and the jobs -/

abbrev Content := List UInt8

inductive CallPhase where
  /-- Before the job that makes the directory. -/
  | ensuring
  | downloading
  | writing
  /-- The job is over, and the call about to return. -/
  | returning
  | returned
  deriving DecidableEq

/-- A call of `_archive_media`, or of `archive_bytes`, which has its content from the start. -/
structure ArchiveCall where
  dateDir : Path
  name : Path
  content : Option Content
  phase : CallPhase
  deriving DecidableEq

def ArchiveCall.filepath (call : ArchiveCall) : Path := call.dateDir ++ call.name

inductive PrunePhase where
  | starting
  /-- In the loop over `media_path.rglob("*")`. -/
  | scanning
  /-- Before `path.unlink()`. -/
  | stale (path : Path)
  | sweeping (remaining : List Path)
  /-- Before `path.rmdir()`. -/
  | empty (path : Path) (remaining : List Path)
  | over
  deriving DecidableEq

/-- The directory that was found empty. -/
def PrunePhase.sweeps : PrunePhase → Option Path
  | empty path _ => some path
  | _ => none

structure PruneJob where
  cutoff : Int
  phase : PrunePhase
  deriving DecidableEq

structure MediaSystem where
  clock : Nat
  fs : FileSystem Content Nat
  calls : List ArchiveCall
  prunes : List PruneJob
  /-- The time of each file that was unlinked, and the cutoff of the prune that did it. -/
  removed : List (Nat × Int)

namespace MediaSystem

def init (clock : Nat) (fs : FileSystem Content Nat) : MediaSystem := ⟨clock, fs, [], [], []⟩

inductive Act where
  | setClock (clock : Nat)
  | archiveMedia (deviceId mediaType ext : String)
  | archiveBytes (deviceId : String) (content : Content) (mediaType : String)
  /-- `date_dir.mkdir(parents=True, exist_ok=True)` -/
  | mkdir (call : Nat)
  /-- The body of an answer with status 200, or nothing: another status, an exception, no session. -/
  | download (call : Nat) (content : Option Content)
  /-- `filepath.write_bytes(content)` -/
  | write (call : Nat)
  | finish (call : Nat)
  | prune (days : Int)
  /-- `media_path.exists()` -/
  | start (job : Nat)
  /-- A path that `rglob` yields; which ones it does while others write is left open. -/
  | visit (job : Nat) (path : Path)
  | unlink (job : Nat)
  | endScan (job : Nat)
  /-- `path.is_dir() and not any(path.iterdir())` -/
  | check (job : Nat)
  | rmdir (job : Nat)

variable (s : MediaSystem)

def begin (name : String) (content : Option Content) : MediaSystem :=
  { s with calls := s.calls ++ [⟨[dateName s.clock], pathParts name, content, .ensuring⟩] }

def setCall (i : Nat) (call : ArchiveCall) : MediaSystem :=
  { s with calls := s.calls.set i call }

def setPrune (j : Nat) (job : PruneJob) : MediaSystem :=
  { s with prunes := s.prunes.set j job }

def mkdirFor (i : Nat) (call : ArchiveCall) : MediaSystem :=
  { s with fs := s.fs.mkdir call.dateDir }.setCall i
    { call with phase := if call.content.isSome then .writing else .downloading }

def downloaded (i : Nat) (call : ArchiveCall) (content : Option Content) : MediaSystem :=
  s.setCall i
    { call with content := content, phase := if content.isSome then .writing else .returning }

/-- The call is told of an exception as of a success: both are only logged. -/
def writeFor (i : Nat) (call : ArchiveCall) : MediaSystem :=
  { s with
    fs := (s.fs.write? call.filepath (call.content.getD []) s.clock).getD s.fs }.setCall i
    { call with phase := .returning }

def visited (j : Nat) (job : PruneJob) (path : Path) : MediaSystem :=
  match s.fs.mtime? path with
  | some mtime => if (mtime : Int) < job.cutoff then s.setPrune j { job with phase := .stale path }
    else s
  | none => s

def unlinked (j : Nat) (job : PruneJob) (path : Path) : MediaSystem :=
  match s.fs.unlink? path with
  | some fs =>
    { s with fs, removed := s.removed ++ [((s.fs.mtime? path).getD 0, job.cutoff)] }.setPrune j
      { job with phase := .scanning }
  | none => s.setPrune j { job with phase := .scanning }

def step : Act → Option MediaSystem
  | .setClock clock => some { s with clock }
  | .archiveMedia deviceId mediaType ext =>
    some (s.begin (archiveName s.clock deviceId mediaType ext) none)
  | .archiveBytes deviceId content mediaType =>
    some (s.begin (archiveName s.clock deviceId mediaType "jpg") (some content))
  | .mkdir i => do
    let call ← s.calls[i]?
    if call.phase = .ensuring then some (s.mkdirFor i call) else none
  | .download i content => do
    let call ← s.calls[i]?
    if call.phase = .downloading then some (s.downloaded i call content) else none
  | .write i => do
    let call ← s.calls[i]?
    if call.phase = .writing then some (s.writeFor i call) else none
  | .finish i => do
    let call ← s.calls[i]?
    if call.phase = .returning then some (s.setCall i { call with phase := .returned }) else none
  | .prune days =>
    some { s with prunes := s.prunes ++ [⟨s.clock - days * DAY, .starting⟩] }
  | .start j => do
    let job ← s.prunes[j]?
    if job.phase = .starting then
      some (s.setPrune j { job with phase := if s.fs.IsDir [] then .scanning else .over })
    else none
  | .visit j path => do
    let job ← s.prunes[j]?
    if job.phase = .scanning then some (s.visited j job path) else none
  | .unlink j => do
    let job ← s.prunes[j]?
    match job.phase with
    | .stale path => some (s.unlinked j job path)
    | _ => none
  | .endScan j => do
    let job ← s.prunes[j]?
    if job.phase = .scanning then
      some (s.setPrune j { job with phase := .sweeping (sortedReverse (s.fs.listDir [])) })
    else none
  | .check j => do
    let job ← s.prunes[j]?
    match job.phase with
    | .sweeping [] => some (s.setPrune j { job with phase := .over })
    | .sweeping (path :: remaining) =>
      some (s.setPrune j { job with
        phase := if s.fs.IsDir path ∧ s.fs.listDir path = [] then .empty path remaining
          else .sweeping remaining })
    | _ => none
  | .rmdir j => do
    let job ← s.prunes[j]?
    match job.phase with
    | .empty path remaining =>
      some ({ s with fs := (s.fs.rmdir? path).getD s.fs }.setPrune j
        { job with phase := .sweeping remaining })
    | _ => none

def machine : Machine MediaSystem Act := ⟨step⟩

/-- What each step needs and does. -/
inductive Stepped (s : MediaSystem) : Act → MediaSystem → Prop
  | setClock (clock : Nat) : Stepped s (.setClock clock) { s with clock }
  | archiveMedia (deviceId mediaType ext : String) :
      Stepped s (.archiveMedia deviceId mediaType ext)
        (s.begin (archiveName s.clock deviceId mediaType ext) none)
  | archiveBytes (deviceId : String) (content : Content) (mediaType : String) :
      Stepped s (.archiveBytes deviceId content mediaType)
        (s.begin (archiveName s.clock deviceId mediaType "jpg") (some content))
  | mkdir {i : Nat} {call : ArchiveCall} (hcall : s.calls[i]? = some call) :
      Stepped s (.mkdir i) (s.mkdirFor i call)
  | download {i : Nat} {call : ArchiveCall} (content : Option Content)
      (hcall : s.calls[i]? = some call) (hphase : call.phase = .downloading) :
      Stepped s (.download i content) (s.downloaded i call content)
  | write {i : Nat} {call : ArchiveCall} (hcall : s.calls[i]? = some call)
      (hphase : call.phase = .writing) : Stepped s (.write i) (s.writeFor i call)
  | finish {i : Nat} {call : ArchiveCall} (hcall : s.calls[i]? = some call) :
      Stepped s (.finish i) (s.setCall i { call with phase := .returned })
  | prune (days : Int) :
      Stepped s (.prune days)
        { s with prunes := s.prunes ++ [⟨s.clock - days * DAY, .starting⟩] }
  /-- A step of a prune that leaves the files alone and finds none of them old. -/
  | looks {act : Act} (j : Nat) (job : PruneJob) (hphase : ∀ path, job.phase ≠ .stale path) :
      Stepped s act (s.setPrune j job)
  | visit {j : Nat} {job : PruneJob} (hjob : s.prunes[j]? = some job) (path : Path) :
      Stepped s (.visit j path) (s.visited j job path)
  | unlink {j : Nat} {job : PruneJob} {path : Path} (hjob : s.prunes[j]? = some job)
      (hphase : job.phase = .stale path) : Stepped s (.unlink j) (s.unlinked j job path)
  | rmdir {j : Nat} {job : PruneJob} {path : Path} {remaining : List Path}
      (hjob : s.prunes[j]? = some job) (hphase : job.phase = .empty path remaining) :
      Stepped s (.rmdir j)
        ({ s with fs := (s.fs.rmdir? path).getD s.fs }.setPrune j
          { job with phase := .sweeping remaining })

theorem of_phase {β : Type} {value : Option β} {P : β → Prop} [DecidablePred P]
    {next : β → MediaSystem} {t : MediaSystem}
    (h : (value.bind fun b => if P b then some (next b) else none) = some t) :
    ∃ b, value = some b ∧ P b ∧ t = next b := by
  obtain ⟨b, hvalue, hrest⟩ := Option.bind_eq_some_iff.mp h
  by_cases hphase : P b
  · rw [if_pos hphase] at hrest
    exact ⟨b, hvalue, hphase, (Option.some.inj hrest).symm⟩
  · rw [if_neg hphase] at hrest
    cases hrest

theorem stepped_of_step {s t : MediaSystem} {act : Act} (h : machine.step s act = some t) :
    Stepped s act t := by
  cases act with
  | setClock clock =>
    cases h
    exact .setClock clock
  | archiveMedia deviceId mediaType ext =>
    cases h
    exact .archiveMedia deviceId mediaType ext
  | archiveBytes deviceId content mediaType =>
    cases h
    exact .archiveBytes deviceId content mediaType
  | mkdir i =>
    obtain ⟨call, hcall, -, rfl⟩ := of_phase h
    exact .mkdir hcall
  | download i content =>
    obtain ⟨call, hcall, hphase, rfl⟩ := of_phase h
    exact .download content hcall hphase
  | write i =>
    obtain ⟨call, hcall, hphase, rfl⟩ := of_phase h
    exact .write hcall hphase
  | finish i =>
    obtain ⟨call, hcall, -, rfl⟩ := of_phase h
    exact .finish hcall
  | prune days =>
    cases h
    exact .prune days
  | start j =>
    obtain ⟨job, -, -, rfl⟩ := of_phase h
    refine .looks j _ ?_
    intro path
    dsimp only
    split_ifs <;> simp
  | visit j path =>
    obtain ⟨job, hjob, -, rfl⟩ := of_phase h
    exact .visit hjob path
  | unlink j =>
    obtain ⟨job, hjob, hrest⟩ := Option.bind_eq_some_iff.mp h
    split at hrest
    · rename_i path hphase
      cases hrest
      exact .unlink hjob hphase
    · cases hrest
  | endScan j =>
    obtain ⟨job, -, -, rfl⟩ := of_phase h
    exact .looks j _ (by simp)
  | check j =>
    obtain ⟨job, hjob, hrest⟩ := Option.bind_eq_some_iff.mp h
    split at hrest
    · cases hrest
      exact .looks j _ (by simp)
    · cases hrest
      refine .looks j _ ?_
      intro path
      dsimp only
      split_ifs <;> simp
    · cases hrest
  | rmdir j =>
    obtain ⟨job, hjob, hrest⟩ := Option.bind_eq_some_iff.mp h
    split at hrest
    · rename_i path remaining hphase
      cases hrest
      exact .rmdir hjob hphase
    · cases hrest

/-! ## What is kept -/

/-- The call has made its directory and not yet written there. -/
def Waits (call : ArchiveCall) : Prop := call.phase = .downloading ∨ call.phase = .writing

/-- The call has an item, and is about to return. -/
def Holds (call : ArchiveCall) : Prop := call.phase = .returning ∧ call.content.isSome

structure KeepsFresh (s : MediaSystem) : Prop where
  /-- An item is on disk when its call returns. -/
  present : ∀ call ∈ s.calls, call.phase = .returning → ∀ content, call.content = some content →
    ∃ mtime, s.fs.files.get? call.filepath = some ⟨content, mtime⟩
  /-- What was removed was older than the cutoff. -/
  removed : ∀ entry ∈ s.removed, (entry.1 : Int) < entry.2

/-- A file that a step takes away is recorded with its time. -/
def RecordsRemovals (s : MediaSystem) : Prop :=
  ∀ act t, machine.step s act = some t → ∀ path file, s.fs.files.get? path = some file →
    (t.fs.files.get? path).isSome ∨ ∃ cutoff, t.removed = s.removed ++ [(file.mtime, cutoff)]

/-- What a step must not meet: a name that is more than a name; a write over the item of a call that
has not returned, or to a file between the stat and the unlink of a prune; a stat by a prune whose
cutoff the item of a call that has not returned is past already; and the removal of a directory that
a call has made and not yet written to. -/
def Safe (s : MediaSystem) : Act → Prop
  | .archiveMedia deviceId mediaType ext =>
    '/' ∉ (archiveName s.clock deviceId mediaType ext).toList
  | .archiveBytes deviceId _ mediaType =>
    '/' ∉ (archiveName s.clock deviceId mediaType "jpg").toList
  | .write i => ∀ call, s.calls[i]? = some call →
    (∀ other ∈ s.calls, Holds other → other.filepath ≠ call.filepath) ∧
      ∀ job ∈ s.prunes, job.phase ≠ .stale call.filepath
  | .visit j path => ∀ job, s.prunes[j]? = some job →
    ∀ call ∈ s.calls, Holds call → call.filepath = path →
      ∀ mtime, s.fs.mtime? path = some mtime → job.cutoff ≤ mtime
  | .rmdir j => ∀ job, s.prunes[j]? = some job →
    ∀ call ∈ s.calls, Waits call → job.phase.sweeps ≠ some call.dateDir
  | _ => True

instance (call : ArchiveCall) : Decidable (Waits call) :=
  inferInstanceAs (Decidable (_ ∨ _))

instance (call : ArchiveCall) : Decidable (Holds call) :=
  inferInstanceAs (Decidable (_ ∧ _))

instance (s : MediaSystem) (act : Act) : Decidable (s.Safe act) := by
  cases act <;> simp only [Safe] <;> infer_instance

/-- A call against the file system. -/
structure CallKept (fs : FileSystem Content Nat) (call : ArchiveCall) : Prop where
  named : ∃ name, call.name = [name]
  made : Waits call → call.dateDir ∈ fs.dirs
  present : call.phase = .returning → ∀ content, call.content = some content →
    ∃ mtime, fs.files.get? call.filepath = some ⟨content, mtime⟩

/-- What a prune has found old is old still, and no call is about to return with it. -/
structure FoundOld (fs : FileSystem Content Nat) (calls : List ArchiveCall) (cutoff : Int)
    (path : Path) : Prop where
  old : ∀ mtime, fs.mtime? path = some mtime → (mtime : Int) < cutoff
  unheld : ∀ call ∈ calls, Holds call → call.filepath ≠ path

structure Invariant (s : MediaSystem) : Prop where
  calls : ∀ call ∈ s.calls, CallKept s.fs call
  found : ∀ job ∈ s.prunes, ∀ path, job.phase = .stale path →
    FoundOld s.fs s.calls job.cutoff path
  removed : ∀ entry ∈ s.removed, (entry.1 : Int) < entry.2

section Steps

variable {s t : MediaSystem} {call : ArchiveCall}

theorem pathParts_archiveName {now : Nat} {deviceId mediaType ext : String}
    (h : '/' ∉ (archiveName now deviceId mediaType ext).toList) :
    pathParts (archiveName now deviceId mediaType ext) = [archiveName now deviceId mediaType ext] := by
  have hmark : '_' ∈ (archiveName now deviceId mediaType ext).toList := by
    simp [archiveName]
  have hempty : archiveName now deviceId mediaType ext ≠ "" := by
    intro heq
    rw [heq] at hmark
    cases hmark
  have hdot : archiveName now deviceId mediaType ext ≠ "." := by
    intro heq
    rw [heq] at hmark
    revert hmark
    decide
  rw [pathParts, List.splitOn_eq_singleton h, List.map_singleton, String.ofList_toList]
  simp [hempty, hdot]

theorem filepath_of_name {name : String} (h : call.name = [name]) :
    call.filepath ≠ [] ∧ call.filepath.dropLast = call.dateDir := by
  simp [ArchiveCall.filepath, h]

/-- A call keeps what it has where the directories and its own item stay. -/
theorem CallKept.of_kept {fs gs : FileSystem Content Nat} (h : CallKept fs call)
    (hdirs : Waits call → call.dateDir ∈ fs.dirs → call.dateDir ∈ gs.dirs)
    (hfiles : Holds call → gs.files.get? call.filepath = fs.files.get? call.filepath) :
    CallKept gs call where
  named := h.named
  made hwaits := hdirs hwaits (h.made hwaits)
  present := by
    intro hphase content hcontent
    rw [hfiles ⟨hphase, by simp [hcontent]⟩]
    exact h.present hphase content hcontent

/-- The calls are kept when one of them moves on and the others keep what they have. -/
theorem setCall_kept {fs : FileSystem Content Nat} {calls : List ArchiveCall} {i : Nat}
    (hcalls : ∀ other ∈ calls, CallKept fs other) (hcall : CallKept fs call) :
    ∀ other ∈ calls.set i call, CallKept fs other := by
  intro other hother
  rcases List.mem_or_eq_of_mem_set hother with hmem | rfl
  · exact hcalls other hmem
  · exact hcall

/-- What is found old stays so where its file is not written and no call comes to hold it. -/
theorem FoundOld.of_kept {fs gs : FileSystem Content Nat} {calls more : List ArchiveCall}
    {cutoff : Int} {path : Path} (h : FoundOld fs calls cutoff path)
    (hfiles : ∀ mtime, gs.mtime? path = some mtime → fs.mtime? path = some mtime)
    (hcalls : ∀ call ∈ more, Holds call → call ∈ calls ∨ call.filepath ≠ path) :
    FoundOld gs more cutoff path where
  old mtime hmtime := h.old mtime (hfiles mtime hmtime)
  unheld call hcall hholds := by
    rcases hcalls call hcall hholds with hmem | hne
    · exact h.unheld call hmem hholds
    · exact hne

/-- A call that moves on without an item leaves what is found old alone. -/
theorem FoundOld.setCall {fs : FileSystem Content Nat} {calls : List ArchiveCall} {cutoff : Int}
    {path : Path} (h : FoundOld fs calls cutoff path) {i : Nat} (hcall : ¬ Holds call) :
    FoundOld fs (calls.set i call) cutoff path := by
  refine h.of_kept (fun _ hmtime => hmtime) ?_
  intro other hother hholds
  rcases List.mem_or_eq_of_mem_set hother with hmem | rfl
  · exact Or.inl hmem
  · exact absurd hholds hcall

/-- The other prunes keep what they found where one of them has nothing to unlink. -/
theorem setPrune_found {fs : FileSystem Content Nat} {calls : List ArchiveCall}
    {prunes : List PruneJob}
    (h : ∀ job ∈ prunes, ∀ path, job.phase = .stale path → FoundOld fs calls job.cutoff path)
    {j : Nat} {job : PruneJob} (hphase : ∀ path, job.phase ≠ .stale path) :
    ∀ other ∈ prunes.set j job, ∀ path, other.phase = .stale path →
      FoundOld fs calls other.cutoff path := by
  intro other hother path hstale
  rcases List.mem_or_eq_of_mem_set hother with hmem | rfl
  · exact h other hmem path hstale
  · exact absurd hstale (hphase path)

theorem begin_invariant (h : s.Invariant) {name : String} (hname : pathParts name = [name])
    (content : Option Content) : (s.begin name content).Invariant where
  calls := by
    intro call hcall
    rcases List.mem_append.mp hcall with hmem | hnew
    · exact h.calls call hmem
    · rw [List.mem_singleton.mp hnew]
      refine ⟨⟨name, hname⟩, ?_, ?_⟩
      · rintro (hphase | hphase) <;> cases hphase
      · intro hphase
        cases hphase
  found := by
    intro job hjob path hstale
    refine (h.found job hjob path hstale).of_kept (fun _ hmtime => hmtime) ?_
    intro call hcall hholds
    rcases List.mem_append.mp hcall with hmem | hnew
    · exact Or.inl hmem
    · rw [List.mem_singleton.mp hnew] at hholds
      cases hholds.1
  removed := h.removed

theorem mkdirFor_invariant (h : s.Invariant) {i : Nat} (hcall : s.calls[i]? = some call) :
    (s.mkdirFor i call).Invariant where
  calls := by
    apply setCall_kept
    · intro other hother
      apply (h.calls other hother).of_kept
      · intro _ hdir
        exact FileSystem.mem_dirs_mkdir hdir _
      · intro _
        rfl
    · refine ⟨(h.calls call (List.mem_of_getElem? hcall)).named, ?_, ?_⟩
      · intro _
        exact FileSystem.mem_dirs_mkdir_self _ _
      · intro hphase
        dsimp only at hphase
        split_ifs at hphase
  found := by
    intro job hjob path hstale
    have hmade : FoundOld (s.fs.mkdir call.dateDir) s.calls job.cutoff path :=
      (h.found job hjob path hstale).of_kept (fun _ hmtime => hmtime) (fun _ hmem _ => Or.inl hmem)
    apply hmade.setCall
    rintro ⟨hphase, -⟩
    dsimp only at hphase
    split_ifs at hphase
  removed := h.removed

theorem downloaded_invariant (h : s.Invariant) {i : Nat} (hcall : s.calls[i]? = some call)
    (hphase : call.phase = .downloading) (content : Option Content) :
    (s.downloaded i call content).Invariant where
  calls := by
    have hkept := h.calls call (List.mem_of_getElem? hcall)
    apply setCall_kept h.calls
    refine ⟨hkept.named, fun _ => hkept.made (Or.inl hphase), ?_⟩
    intro hreturns item hitem
    cases content with
    | none => cases hitem
    | some body => cases hreturns
  found := by
    intro job hjob path hstale
    apply (h.found job hjob path hstale).setCall
    rintro ⟨hreturns, hitem⟩
    cases content with
    | none => cases hitem
    | some body => cases hreturns
  removed := h.removed

theorem writeFor_invariant (h : s.Invariant) {i : Nat} (hcall : s.calls[i]? = some call)
    (hphase : call.phase = .writing)
    (hothers : ∀ other ∈ s.calls, Holds other → other.filepath ≠ call.filepath)
    (hprunes : ∀ job ∈ s.prunes, job.phase ≠ .stale call.filepath) :
    (s.writeFor i call).Invariant := by
  have hkept := h.calls call (List.mem_of_getElem? hcall)
  obtain ⟨name, hname⟩ := hkept.named
  obtain ⟨hroot, hparent⟩ := filepath_of_name hname
  have hdir : call.filepath.dropLast ∈ s.fs.dirs := by
    rw [hparent]
    exact hkept.made (Or.inr hphase)
  obtain ⟨fs, hwrite, hdirs, hfiles⟩ :=
    FileSystem.write?_of_mem hroot hdir (call.content.getD []) s.clock
  unfold writeFor
  rw [hwrite]
  refine ⟨setCall_kept ?_ ?_, ?_, h.removed⟩
  · intro other hother
    apply (h.calls other hother).of_kept
    · intro _ hmade
      exact hdirs ▸ hmade
    · intro hholds
      show fs.files.get? other.filepath = _
      rw [hfiles, Dict.get?_set_of_ne _ (hothers other hother hholds)]
  · refine ⟨⟨name, hname⟩, ?_, ?_⟩
    · rintro (hwaits | hwaits) <;> cases hwaits
    · intro _ content hcontent
      refine ⟨s.clock, ?_⟩
      show fs.files.get? call.filepath = _
      rw [hfiles, Dict.get?_set_self]
      simp only at hcontent
      rw [hcontent]
      rfl
  · intro job hjob path hstale
    have hne : path ≠ call.filepath := by
      rintro rfl
      exact hprunes job hjob hstale
    apply (h.found job hjob path hstale).of_kept
    · intro mtime hmtime
      have hmtime' : fs.mtime? path = some mtime := hmtime
      rwa [FileSystem.mtime?, hfiles, Dict.get?_set_of_ne _ hne] at hmtime'
    · intro other hother _
      rcases List.mem_or_eq_of_mem_set hother with hmem | rfl
      · exact Or.inl hmem
      · exact Or.inr (Ne.symm hne)

theorem finish_invariant (h : s.Invariant) {i : Nat} (hcall : s.calls[i]? = some call) :
    (s.setCall i { call with phase := .returned }).Invariant where
  calls := by
    apply setCall_kept h.calls
    refine ⟨(h.calls call (List.mem_of_getElem? hcall)).named, ?_, ?_⟩
    · rintro (hwaits | hwaits) <;> cases hwaits
    · intro hphase
      cases hphase
  found := by
    intro job hjob path hstale
    apply (h.found job hjob path hstale).setCall
    rintro ⟨hphase, -⟩
    cases hphase
  removed := h.removed

theorem prune_invariant (h : s.Invariant) (days : Int) :
    Invariant { s with prunes := s.prunes ++ [⟨s.clock - days * DAY, .starting⟩] } where
  calls := h.calls
  found := by
    intro job hjob path hstale
    rcases List.mem_append.mp hjob with hmem | hnew
    · exact h.found job hmem path hstale
    · rw [List.mem_singleton.mp hnew] at hstale
      cases hstale
  removed := h.removed

theorem looks_invariant (h : s.Invariant) (j : Nat) {job : PruneJob}
    (hphase : ∀ path, job.phase ≠ .stale path) : (s.setPrune j job).Invariant where
  calls := h.calls
  found := setPrune_found h.found hphase
  removed := h.removed

/-- A file that the age test finds old is the item of no call that has not returned. -/
theorem visited_invariant (h : s.Invariant) (j : Nat) (job : PruneJob) (path : Path)
    (hfresh : ∀ call ∈ s.calls, Holds call → call.filepath = path →
      ∀ mtime, s.fs.mtime? path = some mtime → job.cutoff ≤ mtime) :
    (s.visited j job path).Invariant := by
  unfold visited
  split
  · rename_i mtime hmtime
    split_ifs with hold
    · refine ⟨h.calls, ?_, h.removed⟩
      intro other hother stale hstale
      rcases List.mem_or_eq_of_mem_set hother with hmem | rfl
      · exact h.found other hmem stale hstale
      · cases hstale
        refine ⟨?_, ?_⟩
        · intro time htime
          have hsame : s.fs.mtime? path = some time := htime
          rw [hmtime] at hsame
          cases hsame
          exact hold
        · intro call hcall hholds hpath
          exact absurd hold (Int.not_lt.mpr (hfresh call hcall hholds hpath mtime hmtime))
    · exact h
  · exact h

theorem unlinked_invariant (h : s.Invariant) {j : Nat} {job : PruneJob} {path : Path}
    (hjob : s.prunes[j]? = some job) (hphase : job.phase = .stale path) :
    (s.unlinked j job path).Invariant := by
  have hfound := h.found job (List.mem_of_getElem? hjob) path hphase
  unfold unlinked
  cases hunlink : s.fs.unlink? path with
  | none => exact looks_invariant h j (by simp)
  | some fs =>
    obtain ⟨hdirs, hfiles, file, hfile⟩ := FileSystem.unlink?_eq_some hunlink
    have hmtime : s.fs.mtime? path = some file.mtime := by rw [FileSystem.mtime?, hfile]; rfl
    refine ⟨?_, setPrune_found ?_ (by simp), ?_⟩
    · intro call hcall
      apply (h.calls call hcall).of_kept
      · intro _ hmade
        exact hdirs ▸ hmade
      · intro hkept
        show fs.files.get? call.filepath = _
        rw [hfiles, Dict.get?_erase_of_ne _ (hfound.unheld call hcall hkept)]
    · intro other hother stale hstale
      refine (h.found other hother stale hstale).of_kept ?_ (fun _ hmem _ => Or.inl hmem)
      intro mtime hmtime
      have hleft : fs.mtime? stale = some mtime := hmtime
      rw [FileSystem.mtime?, hfiles, Dict.get?_erase] at hleft
      split_ifs at hleft
      · cases hleft
      · exact hleft
    · intro entry hentry
      rcases List.mem_append.mp hentry with hmem | hnew
      · exact h.removed entry hmem
      · rw [List.mem_singleton.mp hnew, hmtime]
        exact hfound.old file.mtime hmtime

theorem rmdir_invariant (h : s.Invariant) {j : Nat} {job : PruneJob} {path : Path}
    {remaining : List Path} (hwaits : ∀ call ∈ s.calls, Waits call → call.dateDir ≠ path) :
    ({ s with fs := (s.fs.rmdir? path).getD s.fs }.setPrune j
      { job with phase := .sweeping remaining }).Invariant := by
  cases hrmdir : s.fs.rmdir? path with
  | none => exact looks_invariant h j (by simp)
  | some fs =>
    obtain ⟨hfiles, hdirs⟩ := FileSystem.rmdir?_eq_some hrmdir
    refine ⟨?_, setPrune_found ?_ (by simp), h.removed⟩
    · intro call hcall
      apply (h.calls call hcall).of_kept
      · intro hwaiting hmade
        exact hdirs _ hmade (hwaits call hcall hwaiting)
      · intro _
        show fs.files.get? call.filepath = _
        rw [hfiles]
    · intro other hother stale hstale
      refine (h.found other hother stale hstale).of_kept ?_ (fun _ hmem _ => Or.inl hmem)
      intro mtime hmtime
      have hsame : fs.mtime? stale = some mtime := hmtime
      rwa [FileSystem.mtime?, hfiles] at hsame

theorem step_invariant {act : Act} (h : s.Invariant) (hsafe : s.Safe act)
    (hstep : machine.step s act = some t) : t.Invariant := by
  cases stepped_of_step hstep with
  | setClock clock => exact ⟨h.calls, h.found, h.removed⟩
  | archiveMedia deviceId mediaType ext =>
    exact begin_invariant h (pathParts_archiveName hsafe) none
  | archiveBytes deviceId content mediaType =>
    exact begin_invariant h (pathParts_archiveName hsafe) (some content)
  | mkdir hcall => exact mkdirFor_invariant h hcall
  | download content hcall hphase => exact downloaded_invariant h hcall hphase content
  | write hcall hphase =>
    obtain ⟨hothers, hprunes⟩ := hsafe _ hcall
    exact writeFor_invariant h hcall hphase hothers hprunes
  | finish hcall => exact finish_invariant h hcall
  | prune days => exact prune_invariant h days
  | looks j job hphase => exact looks_invariant h j hphase
  | visit hjob path => exact visited_invariant h _ _ path (hsafe _ hjob)
  | unlink hjob hphase => exact unlinked_invariant h hjob hphase
  | @rmdir j job path remaining hjob hphase =>
    apply rmdir_invariant h
    rintro call hcall hwaits rfl
    exact hsafe job hjob call hcall hwaits (by rw [hphase]; rfl)

theorem visited_fs (s : MediaSystem) (j : Nat) (job : PruneJob) (path : Path) :
    (s.visited j job path).fs = s.fs := by
  unfold visited
  split
  · split_ifs <;> rfl
  · rfl

/-- A file goes by an unlink only. -/
theorem recordsRemovals (s : MediaSystem) : s.RecordsRemovals := by
  intro act t hstep path file hfile
  have hthere : (s.fs.files.get? path).isSome := by simp [hfile]
  cases stepped_of_step hstep with
  | setClock clock => exact Or.inl hthere
  | archiveMedia deviceId mediaType ext => exact Or.inl hthere
  | archiveBytes deviceId content mediaType => exact Or.inl hthere
  | mkdir hcall => exact Or.inl hthere
  | download content hcall hphase => exact Or.inl hthere
  | @write i call hcall hphase =>
    left
    unfold writeFor
    cases hwrite : s.fs.write? call.filepath (call.content.getD []) s.clock with
    | none => exact hthere
    | some fs =>
      have hfiles := FileSystem.write?_eq_some hwrite
      show (fs.files.get? path).isSome
      rw [hfiles, Dict.get?_set]
      split_ifs
      · rfl
      · exact hthere
  | finish hcall => exact Or.inl hthere
  | prune days => exact Or.inl hthere
  | looks j job hphase => exact Or.inl hthere
  | visit hjob visited =>
    left
    rw [visited_fs]
    exact hthere
  | @unlink j job gone hjob hphase =>
    unfold unlinked
    cases hunlink : s.fs.unlink? gone with
    | none => exact Or.inl hthere
    | some fs =>
      obtain ⟨-, hfiles, -⟩ := FileSystem.unlink?_eq_some hunlink
      by_cases hpath : path = gone
      · right
        subst hpath
        refine ⟨job.cutoff, ?_⟩
        show s.removed ++ [((s.fs.mtime? path).getD 0, job.cutoff)] = _
        rw [FileSystem.mtime?, hfile]
        rfl
      · left
        show (fs.files.get? path).isSome
        rw [hfiles, Dict.get?_erase_of_ne _ hpath]
        exact hthere
  | @rmdir j job emptied remaining hjob hphase =>
    left
    cases hrmdir : s.fs.rmdir? emptied with
    | none => simpa [setPrune] using hthere
    | some fs =>
      obtain ⟨hfiles, -⟩ := FileSystem.rmdir?_eq_some hrmdir
      simpa [setPrune, hfiles] using hthere

end Steps

/-! ## Runs -/

/-- Over every run of safe steps no item is lost and nothing fresh is removed. -/
theorem keeps_fresh {clock : Nat} {fs : FileSystem Content Nat} {acts : List Act} {s : MediaSystem}
    (hrun : machine.run (init clock fs) acts = some s)
    (hsafe : machine.Along Safe (init clock fs) acts) : s.KeepsFresh ∧ s.RecordsRemovals := by
  have hinit : (init clock fs).Invariant := by
    refine ⟨?_, ?_, ?_⟩
    · intro call hmem
      cases hmem
    · intro job hmem
      cases hmem
    · intro entry hmem
      cases hmem
  have hinvariant : s.Invariant :=
    hsafe.invariant (fun _ _ _ h hc hstep => step_invariant h hc hstep) hinit hrun
  exact ⟨⟨fun call hcall => (hinvariant.calls call hcall).present, hinvariant.removed⟩,
    s.recordsRemovals⟩

section Sample

def oldFiles : FileSystem Content Nat :=
  ((FileSystem.empty.mkdir ["2025-12-01"]).write? ["2025-12-01", "old.jpg"] [9] 0).getD
    FileSystem.empty

/-- 2026-01-01, with an item of last month. -/
def newYear : MediaSystem := init (20454 * DAY) oldFiles

def clip : Path := ["2026-01-01", "1767225600_D_motion_person.mp4"]

/-- A prune looks at the first clip of the day before its call returns, unlinks the old item and
sweeps its directory away. -/
def keptActs : List Act :=
  [.archiveMedia "D" "motion_person" "mp4", .mkdir 0, .prune 14, .start 0,
    .download 0 (some [1, 2, 3]), .write 0, .visit 0 ["2025-12-01", "old.jpg"], .unlink 0,
    .visit 0 clip, .endScan 0, .check 0, .check 0, .rmdir 0, .check 0]

theorem keeps_fresh_newYear :
    ∃ s, machine.run newYear keptActs = some s ∧ (s.KeepsFresh ∧ s.RecordsRemovals) ∧
      s.removed.map Prod.fst = [0] ∧ s.fs.dirs = [[], ["2026-01-01"]] ∧
      s.fs.files.keys = [clip] := by
  have hsafe : machine.Along Safe newYear keptActs := by decide +kernel
  have hrun : (machine.run newYear keptActs).map
      (fun s => (s.removed.map Prod.fst, s.fs.dirs, s.fs.files.keys)) =
      some ([0], [[], ["2026-01-01"]], [clip]) := by decide +kernel
  obtain ⟨s, hs, heq⟩ := Option.map_eq_some_iff.mp hrun
  simp only [Prod.mk.injEq] at heq
  exact ⟨s, hs, keeps_fresh hs hsafe, heq⟩

/-- The same with the sweep during the download. -/
def sweptActs : List Act :=
  [.archiveMedia "D" "motion_person" "mp4", .mkdir 0, .prune 14, .start 0, .endScan 0, .check 0,
    .rmdir 0, .download 0 (some [1, 2, 3]), .write 0]

theorem swept_not_keepsFresh :
    ∃ s, machine.run newYear sweptActs = some s ∧ ¬ s.KeepsFresh := by
  have hrun : (machine.run newYear sweptActs).map (fun s => (s.calls, s.fs.files.keys)) =
      some ([⟨["2026-01-01"], ["1767225600_D_motion_person.mp4"], some [1, 2, 3], .returning⟩],
        [["2025-12-01", "old.jpg"]]) := by decide +kernel
  obtain ⟨s, hs, heq⟩ := Option.map_eq_some_iff.mp hrun
  simp only [Prod.mk.injEq] at heq
  refine ⟨s, hs, ?_⟩
  intro hkeeps
  obtain ⟨mtime, hfile⟩ := hkeeps.present _ (heq.1 ▸ List.mem_singleton_self _) rfl _ rfl
  have hkey := Dict.mem_keys hfile
  rw [heq.2] at hkey
  revert hkey
  decide

end Sample

end MediaSystem

end Eisenberg.Coordinator
