import Eisenberg.Coordinator.MediaPrune
import Eisenberg.Framework.BestOf
import Eisenberg.Framework.Separator
import Eisenberg.Values.Models

/-!
# The image cache after a restart

`archive_bytes` and `_archive_media` put a time, a device id and a media type into one file name,
and `_seed_image_cache_from_disk` takes it apart again: the newest JPEG of each device goes into
the image cache. The name is split at its first two underscores, so that an id with an underscore
is cut short.
-/

namespace Eisenberg.Coordinator.ImageSeed

open Framework

/-! ## Writing -/

/-- A JPEG that `archive_bytes` or `_archive_media` goes to write: what its clock read, and when
the file system says that it was written. -/
structure Archival where
  now : Nat
  mtime : Nat
  deviceId : String
  mediaType : String
  content : Content
  deriving DecidableEq

namespace Archival

variable (a : Archival)

def name : String := archiveName a.now a.deviceId a.mediaType "jpg"

def dateDir : Path := [dateName a.now]

def filepath : Path := a.dateDir ++ pathParts a.name

/-- `_write`; an OSError of `write_bytes` is only logged. -/
def write? (fs : FileSystem Content Nat) : Option (FileSystem Content Nat) :=
  (fs.mkdir a.dateDir).write? a.filepath a.content a.mtime

end Archival

/-- The archive, with the JPEGs that were written in their order. -/
structure Archive where
  fs : FileSystem Content Nat
  written : List Archival

def Archive.add (s : Archive) (a : Archival) : Archive :=
  match a.write? s.fs with
  | some fs => ⟨fs, s.written ++ [a]⟩
  | none => ⟨s.fs.mkdir a.dateDir, s.written⟩

theorem add_fs_eq_jobs (s : MediaSystem) (written : List Archival) (a : Archival) (i : Nat)
    (hclock : s.clock = a.mtime) :
    (Archive.add ⟨s.fs, written⟩ a).fs =
      ((s.mkdirFor i ⟨a.dateDir, pathParts a.name, some a.content, .ensuring⟩).writeFor i
        ⟨a.dateDir, pathParts a.name, some a.content, .writing⟩).fs := by
  have hjobs : ((s.mkdirFor i ⟨a.dateDir, pathParts a.name, some a.content, .ensuring⟩).writeFor i
      ⟨a.dateDir, pathParts a.name, some a.content, .writing⟩).fs =
        (a.write? s.fs).getD (s.fs.mkdir a.dateDir) := by
    simp only [MediaSystem.mkdirFor, MediaSystem.writeFor, MediaSystem.setCall,
      ArchiveCall.filepath, Archival.write?, Archival.filepath, Option.getD_some, hclock]
  rw [hjobs, Archive.add]
  cases a.write? s.fs with
  | none => rfl
  | some fs => rfl

/-- The archive after this history. -/
def archived (history : List Archival) : Archive :=
  history.foldl Archive.add ⟨FileSystem.empty, []⟩

/-! ## Reading back -/

/-- `PurePath.stem`: the name up to its last dot, where that is neither its first character nor
its last. -/
def stem (name : String) : List Char :=
  let ext := name.toList.reverse.takeWhile (· ≠ '.')
  let rest := (name.toList.reverse.dropWhile (· ≠ '.')).tail
  if ext = [] ∨ rest = [] then name.toList else rest.reverse

/-- `text.split(sep, maxsplit)`. -/
def splitMax (sep : Char) : Nat → List Char → List (List Char)
  | 0, text => [text]
  | n + 1, text =>
    if sep ∈ text then
      text.takeWhile (· ≠ sep) :: splitMax sep n (text.dropWhile (· ≠ sep)).tail
    else [text]

def fileName (path : Path) : String := path.getLast?.getD ""

/-- `path.stem.split("_", 2)[1]`, if there are three parts. -/
def fileDevice (path : Path) : Option String :=
  match splitMax '_' 2 (stem (fileName path)) with
  | [_, deviceId, _] => some (String.ofList deviceId)
  | _ => none

example : fileDevice ["2026-01-01", "1767225600_CAM_motion_person_thumb.jpg"] = some "CAM" := by
  decide +kernel

def isJpeg (path : Path) : Bool := ".jpg".toList.isSuffixOf (fileName path).toList

/-- `media_path.rglob("*.jpg")`, which yields these paths in some order. -/
def rglobJpegs (fs : FileSystem Content Nat) : List Path :=
  (fs.dirs ++ fs.files.keys).filter isJpeg

/-- `device_id not in newest or newest[device_id][0] < mtime`. -/
def isNewer (found : Option (Nat × Path)) (mtime : Nat) : Bool :=
  match found with
  | none => true
  | some (time, _) => decide (time < mtime)

/-- The loop over the files; a path that cannot be asked for its time raises. -/
def scan (fs : FileSystem Content Nat) (deviceIds : List String) :
    List Path → Dict String (Nat × Path) → Option (Dict String (Nat × Path))
  | [], newest => some newest
  | path :: paths, newest =>
    match fileDevice path with
    | none => scan fs deviceIds paths newest
    | some deviceId =>
      if deviceId ∈ deviceIds then do
        let mtime ← fs.mtime? path
        scan fs deviceIds paths
          (if isNewer (newest.get? deviceId) mtime then newest.set deviceId (mtime, path)
           else newest)
      else scan fs deviceIds paths newest

/-- The newest file of each device, with its time. -/
def newestFiles (fs : FileSystem Content Nat) (devices : List DeviceInfo) (listing : List Path) :
    Option (Dict String (Nat × Path)) :=
  if fs.IsDir [] then scan fs (devices.map fun device => device.deviceId) listing Dict.empty
  else some Dict.empty

/-- Load the newest archived JPEG of each device into the cache. -/
def seedImageCacheFromDisk (fs : FileSystem Content Nat) (devices : List DeviceInfo)
    (listing : List Path) (imageBytes : Dict String Content) : Option (Dict String Content) :=
  if devices.isEmpty then some imageBytes
  else do
    let newest ← newestFiles fs devices listing
    let loaded ← newest.traverse fun file => fs.read? file.2
    return loaded.entries.foldl (fun images entry => images.set entry.1 entry.2) imageBytes

/-! ## Names -/

section Names

variable {a : Archival} {sep : Char} {first rest : List Char}

/-- The device that the name of a file says, of one written for this id. -/
def namedDevice (deviceId : String) : String :=
  String.ofList (deviceId.toList.takeWhile (· ≠ '_'))

theorem not_mem_natText {c : Char} (hc : c.isDigit = false) (n : Nat) :
    c ∉ (toString n).toList := by
  intro h
  have hdigit : c.isDigit = true := by
    change c ∈ (Nat.repr n).toList at h
    rw [Nat.toList_repr] at h
    exact Nat.isDigit_of_mem_toDigits (by decide) (by decide) h
  rw [hc] at hdigit
  cases hdigit

theorem toList_name (a : Archival) :
    a.name.toList = ((toString (a.now / 1000000000)).toList ++
      '_' :: (a.deviceId.toList ++ '_' :: a.mediaType.toList)) ++ ".jpg".toList := by
  simp [Archival.name, archiveName]

theorem splitMax_one (first rest : List Char) :
    ∃ last, splitMax sep 1 (first ++ sep :: rest) = [first.takeWhile (· ≠ sep), last] := by
  refine ⟨((first ++ sep :: rest).dropWhile (· ≠ sep)).tail, ?_⟩
  rw [splitMax, if_pos (by simp), takeWhile_append_sep, splitMax]

theorem splitMax_append (h : sep ∉ first) (n : Nat) :
    splitMax sep (n + 1) (first ++ sep :: rest) = first :: splitMax sep n rest := by
  rw [splitMax, if_pos (by simp), takeWhile_append_sep, takeWhile_of_sep_not_mem h,
    dropWhile_append_sep h, List.tail_cons]

theorem stem_jpeg {name : String} {body : List Char} (hbody : body ≠ [])
    (h : name.toList = body ++ ".jpg".toList) : stem name = body := by
  rw [stem, h]
  simp [hbody]

theorem fileDevice_of_name {path : Path} (h : fileName path = a.name) :
    fileDevice path = some (namedDevice a.deviceId) := by
  obtain ⟨last, hlast⟩ := @splitMax_one '_' a.deviceId.toList a.mediaType.toList
  rw [fileDevice, h, stem_jpeg (by simp) (toList_name a),
    splitMax_append (not_mem_natText (by decide) _), hlast]
  rfl

theorem isJpeg_of_name {path : Path} (h : fileName path = a.name) : isJpeg path = true := by
  rw [isJpeg, h, List.isSuffixOf_iff_suffix, toList_name]
  exact List.suffix_append _ _

theorem not_mem_zeroPadded (width n : Nat) : '.' ∉ (zeroPadded width n).toList := by
  intro h
  rw [zeroPadded, String.toList_ofList, List.leftpad, List.mem_append, List.mem_replicate] at h
  rcases h with h | h
  · exact absurd h.2 (by decide)
  · exact not_mem_natText (by decide) n h

theorem not_mem_dateName (now : Nat) : '.' ∉ (dateName now).toList := by
  unfold dateName
  generalize civilDate (now / DAY) = date
  obtain ⟨year, month, day⟩ := date
  simp [not_mem_zeroPadded]

theorem not_isJpeg_dateDir (now : Nat) : isJpeg [dateName now] = false := by
  rw [Bool.eq_false_iff]
  intro h
  rw [isJpeg, List.isSuffixOf_iff_suffix] at h
  exact not_mem_dateName now (h.subset (by decide))

/-- Names of different seconds are different. -/
theorem seconds_of_name {a b : Archival} (h : a.name = b.name) :
    a.now / 1000000000 = b.now / 1000000000 := by
  have hsplit : ∀ c : Archival, (c.name.toList.takeWhile (· ≠ '_')) =
      (toString (c.now / 1000000000)).toList := by
    intro c
    rw [toList_name, List.append_assoc, List.cons_append, takeWhile_append_sep]
    exact takeWhile_of_sep_not_mem (not_mem_natText (by decide) _)
  have hdigits : (toString (a.now / 1000000000)).toList =
      (toString (b.now / 1000000000)).toList := by
    rw [← hsplit a, ← hsplit b, h]
  change (Nat.repr _).toList = (Nat.repr _).toList at hdigits
  rw [Nat.toList_repr, Nat.toList_repr] at hdigits
  have hvalue := congrArg (fun digits => Nat.ofDigitChars 10 digits 0) hdigits
  simpa [Nat.ofDigitChars_toDigits] using hvalue

end Names

/-! ## What the archive holds -/

section Archived

variable {a b : Archival} {s : Archive} {fs : FileSystem Content Nat}

/-- What is in a text, and is not the separator, is in one of its pieces. -/
theorem mem_piece {sep c : Char} (hsep : c ≠ sep) {text : List Char} (h : c ∈ text) :
    ∃ piece ∈ text.splitOn sep, c ∈ piece := by
  induction text with
  | nil => cases h
  | cons d text ih =>
    obtain ⟨first, others, hsplit⟩ := List.exists_cons_of_ne_nil (List.splitOn_ne_nil sep text)
    rw [List.splitOn_cons_eq_if_modifyHead, hsplit]
    rw [hsplit] at ih
    by_cases hd : d = sep
    · have htext : c ∈ text := List.mem_of_ne_of_mem (hd ▸ hsep) h
      obtain ⟨piece, hpiece, hc⟩ := ih htext
      rw [if_pos (by simpa using hd)]
      exact ⟨piece, List.mem_cons_of_mem _ hpiece, hc⟩
    · rw [if_neg (by simpa using hd), List.modifyHead_cons]
      rcases List.mem_cons.mp h with rfl | htext
      · exact ⟨c :: first, List.mem_cons_self, List.mem_cons_self⟩
      · obtain ⟨piece, hpiece, hc⟩ := ih htext
        rcases List.mem_cons.mp hpiece with rfl | hothers
        · exact ⟨d :: piece, List.mem_cons_self, List.mem_cons_of_mem d hc⟩
        · exact ⟨piece, List.mem_cons_of_mem _ hothers, hc⟩

/-- A piece with a character that is no dot counts as a part. -/
theorem counted_of_mem {c : Char} (hc : c ≠ '.') {piece : List Char} (h : c ∈ piece) :
    String.ofList piece ≠ "" ∧ String.ofList piece ≠ "." := by
  constructor
  · intro heq
    have hlist := congrArg String.toList heq
    rw [String.toList_ofList] at hlist
    rw [hlist] at h
    cases h
  · intro heq
    have hlist := congrArg String.toList heq
    rw [String.toList_ofList] at hlist
    rw [hlist] at h
    exact hc (List.mem_singleton.mp h)

theorem parts_of_slash (h : '/' ∈ a.name.toList) : 2 ≤ (pathParts a.name).length := by
  obtain ⟨first, rest, hname, hfirst⟩ := List.eq_append_cons_of_mem h
  have htext := toList_name a
  have hmark : '_' ∈ first := by
    have hsplit := hname.symm.trans htext
    rw [List.append_assoc, List.cons_append] at hsplit
    rcases List.append_eq_append_iff.mp hsplit with ⟨mid, htime, hmid⟩ | ⟨mid, hmid, htail⟩
    · cases mid with
      | nil => exact absurd (List.cons.inj hmid).1 (by decide)
      | cons c mid =>
        have hslash : '/' ∈ (toString (a.now / 1000000000)).toList := by
          rw [htime, (List.cons.inj hmid).1]
          simp
        exact absurd hslash (not_mem_natText (by decide) _)
    · cases mid with
      | nil => exact absurd (List.cons.inj htail).1 (by decide)
      | cons c mid =>
        rw [hmid, (List.cons.inj htail).1]
        simp
  have htail : 'g' ∈ rest := by
    have hlast : (first ++ '/' :: rest).getLast? = some 'g' := by
      rw [← hname, htext, List.getLast?_append]
      rfl
    cases rest with
    | nil => simp at hlast
    | cons c rest =>
      rw [List.getLast?_append_cons, List.getLast?_cons_cons] at hlast
      exact List.mem_of_getLast? hlast
  obtain ⟨piece, hpiece, hg⟩ := mem_piece (by decide : 'g' ≠ '/') htail
  have hfirstPart := counted_of_mem (by decide : '_' ≠ '.') hmark
  have hpart := counted_of_mem (by decide : 'g' ≠ '.') hg
  have hlater : String.ofList piece ∈ ((rest.splitOn '/').map String.ofList).filter
      fun part => part ≠ "" ∧ part ≠ "." :=
    List.mem_filter.mpr ⟨List.mem_map_of_mem hpiece, by simpa using hpart⟩
  have hpos := List.length_pos_of_mem hlater
  rw [pathParts, hname, List.splitOn_append_cons_self, List.splitOn_eq_singleton hfirst,
    List.singleton_append, List.map_cons, List.filter_cons_of_pos (by simpa using hfirstPart),
    List.length_cons]
  omega

/-- The file of a JPEG, once written. -/
def Archival.file (a : Archival) : File Content Nat := ⟨a.content, a.mtime⟩

/-- The directories are those of dates, and the files those that were written. -/
structure Sound (s : Archive) : Prop where
  dirs : ∀ dir ∈ s.fs.dirs, dir = [] ∨ ∃ now, dir = [dateName now]
  root : s.written ≠ [] → [] ∈ s.fs.dirs
  plain : ∀ a ∈ s.written, '/' ∉ a.name.toList
  files : s.fs.files = Dict.ofEntries (s.written.map fun a => (a.filepath, a.file))

theorem filepath_of_plain (h : '/' ∉ a.name.toList) : a.filepath = [dateName a.now, a.name] := by
  rw [Archival.filepath, Archival.dateDir, Archival.name, MediaSystem.pathParts_archiveName h]
  rfl

theorem mem_dirs_archive (h : ∀ dir ∈ fs.dirs, dir = [] ∨ ∃ now, dir = [dateName now])
    (a : Archival) : ∀ dir ∈ (fs.mkdir a.dateDir).dirs, dir = [] ∨ ∃ now, dir = [dateName now] := by
  intro dir hdir
  rcases List.mem_append.mp hdir with hdir | hdir
  · exact h dir hdir
  · have hprefix := (List.mem_inits _ _).mp (List.mem_filter.mp hdir).1
    rcases List.prefix_cons_iff.mp hprefix with hroot | ⟨rest, hdate, hrest⟩
    · exact Or.inl hroot
    · rw [List.prefix_nil.mp hrest] at hdate
      exact Or.inr ⟨a.now, hdate⟩

theorem plain_of_write (h : ∀ dir ∈ fs.dirs, dir = [] ∨ ∃ now, dir = [dateName now])
    {gs : FileSystem Content Nat} (hwrite : a.write? fs = some gs) : '/' ∉ a.name.toList := by
  intro hslash
  have hparts := parts_of_slash hslash
  have hdir : a.filepath.dropLast ∈ (fs.mkdir a.dateDir).dirs :=
    (FileSystem.write?_isSome hwrite).2
  have hlength : a.filepath.dropLast.length ≤ 1 := by
    rcases mem_dirs_archive h a _ hdir with heq | ⟨now, heq⟩
    · rw [heq]
      exact Nat.zero_le 1
    · rw [heq]
      exact Nat.le_refl 1
  rw [List.length_dropLast, Archival.filepath, List.length_append, Archival.dateDir,
    List.length_singleton] at hlength
  omega

theorem add_sound (h : Sound s) (a : Archival) : Sound (s.add a) := by
  have hdirs := mem_dirs_archive h.dirs a
  unfold Archive.add
  cases hwrite : a.write? s.fs with
  | none =>
    refine ⟨hdirs, ?_, h.plain, h.files⟩
    intro hne
    exact FileSystem.mem_dirs_mkdir (h.root hne) a.dateDir
  | some gs =>
    have hfiles := FileSystem.write?_eq_some hwrite
    have hsame := FileSystem.dirs_write? hwrite
    refine ⟨?_, ?_, ?_, ?_⟩
    · rw [hsame]
      exact hdirs
    · intro _
      rw [hsame]
      exact FileSystem.mem_dirs_mkdir_of_prefix _ List.nil_prefix
    · intro b hb
      rcases List.mem_append.mp hb with hb | hb
      · exact h.plain b hb
      · rw [List.mem_singleton] at hb
        rw [hb]
        exact plain_of_write h.dirs hwrite
    · rw [hfiles, FileSystem.files_mkdir, h.files, List.map_append, List.map_singleton,
        Dict.ofEntries_append]
      rfl

theorem archived_sound (history : List Archival) : Sound (archived history) := by
  induction history using List.reverseRecOn with
  | nil =>
    refine ⟨?_, fun h => absurd rfl h, ?_, rfl⟩
    · intro dir hdir
      cases hdir
    · intro a ha
      cases ha
  | append_singleton history a ih =>
    rw [archived, List.foldl_append]
    exact add_sound ih a

end Archived

/-! ## What the scan finds -/

section Scan

variable {fs : FileSystem Content Nat} {deviceIds : List String}

/-- What a file is worth to the scan. -/
def candidate (fs : FileSystem Content Nat) (deviceIds : List String) (path : Path) :
    Option (String × Nat × Path) :=
  match fileDevice path with
  | none => none
  | some deviceId =>
    if deviceId ∈ deviceIds then (fs.mtime? path).map fun mtime => (deviceId, mtime, path) else none

theorem improve_eq (newest : Dict String (Nat × Path)) (deviceId : String) (mtime : Nat)
    (path : Path) :
    (if isNewer (newest.get? deviceId) mtime then newest.set deviceId (mtime, path) else newest) =
      newest.improve (later Prod.fst) deviceId (mtime, path) := by
  unfold Dict.improve
  cases newest.get? deviceId with
  | none => rfl
  | some found => rfl

/-- The scan collects the newest candidate of each device. -/
theorem scan_eq {paths : List Path} (h : ∀ path ∈ paths, ∃ mtime, fs.mtime? path = some mtime)
    (newest : Dict String (Nat × Path)) :
    scan fs deviceIds paths newest =
      some ((paths.filterMap (candidate fs deviceIds)).foldl
        (fun d entry => d.improve (later Prod.fst) entry.1 entry.2) newest) := by
  induction paths generalizing newest with
  | nil => rfl
  | cons path paths ih =>
    have hrest := ih fun p hp => h p (List.mem_cons_of_mem path hp)
    obtain ⟨mtime, hmtime⟩ := h path List.mem_cons_self
    rw [scan]
    cases hdevice : fileDevice path with
    | none =>
      have hnone : candidate fs deviceIds path = none := by rw [candidate, hdevice]
      rw [List.filterMap_cons_none hnone]
      exact hrest newest
    | some deviceId =>
      by_cases hlisted : deviceId ∈ deviceIds
      · have hsome : candidate fs deviceIds path = some (deviceId, mtime, path) := by
          rw [candidate, hdevice]
          simp [hlisted, hmtime]
        rw [List.filterMap_cons_some hsome, List.foldl_cons, ← improve_eq, ← hrest]
        dsimp only
        rw [if_pos hlisted, hmtime]
        rfl
      · have hnone : candidate fs deviceIds path = none := by
          rw [candidate, hdevice]
          simp [hlisted]
        rw [List.filterMap_cons_none hnone]
        dsimp only
        rw [if_neg hlisted]
        exact hrest newest

end Scan

section Found

variable {s : Archive} {devices : List DeviceInfo} {listing : List Path}

/-- The newest of the JPEGs written for a device. -/
def newestFor (written : List Archival) (deviceId : String) : Option Archival :=
  best (later Archival.mtime) (written.filter fun a => a.deviceId = deviceId)

/-- The newest of the JPEGs whose names say a device. -/
def newestNamed (written : List Archival) (deviceId : String) : Option Archival :=
  best (later Archival.mtime) (written.filter fun a => namedDevice a.deviceId = deviceId)

/-- What is assumed of a history: the files were written in seconds of their own, and at times of
their own. -/
structure Distinct (written : List Archival) : Prop where
  seconds : (written.map fun a => a.now / 1000000000).Nodup
  mtimes : (written.map Archival.mtime).Nodup

theorem eq_of_mtime {written : List Archival} (h : Distinct written) {a b : Archival}
    (ha : a ∈ written) (hb : b ∈ written) (heq : a.mtime = b.mtime) : a = b :=
  List.inj_on_of_nodup_map h.mtimes ha hb heq

theorem newest_eq_some_iff {written : List Archival} (h : Distinct written) (p : Archival → Bool)
    {a : Archival} :
    best (later Archival.mtime) (written.filter p) = some a ↔
      (a ∈ written ∧ p a = true) ∧ ∀ b ∈ written, p b = true → b.mtime ≤ a.mtime := by
  rw [best_later_eq_some_iff Archival.mtime fun b hb c hc => eq_of_mtime h
    (List.mem_filter.mp hb).1 (List.mem_filter.mp hc).1, List.mem_filter]
  simp only [List.mem_filter, and_imp]

theorem eq_of_filepath (hs : Sound s) (h : Distinct s.written) {a b : Archival}
    (ha : a ∈ s.written) (hb : b ∈ s.written) (heq : a.filepath = b.filepath) : a = b := by
  rw [filepath_of_plain (hs.plain a ha), filepath_of_plain (hs.plain b hb)] at heq
  have hname : a.name = b.name := by
    simpa using congrArg (·.getLast?) heq
  exact List.inj_on_of_nodup_map h.seconds ha hb (seconds_of_name hname)

theorem nodup_filepath (hs : Sound s) (h : Distinct s.written) :
    (s.written.map Archival.filepath).Nodup :=
  h.mtimes.of_map.map_on fun _ ha _ hb => eq_of_filepath hs h ha hb

theorem entries_archived (hs : Sound s) (h : Distinct s.written) :
    s.fs.files.entries = s.written.map fun a => (a.filepath, a.file) := by
  rw [hs.files]
  apply Dict.entries_ofEntries
  rw [List.map_map]
  exact nodup_filepath hs h

theorem get?_archived (hs : Sound s) (h : Distinct s.written) {a : Archival}
    (ha : a ∈ s.written) : s.fs.files.get? a.filepath = some a.file := by
  apply Dict.mem_entries_iff.mp
  rw [entries_archived hs h]
  exact List.mem_map.mpr ⟨a, ha, rfl⟩

theorem fileName_of_plain {a : Archival} (h : '/' ∉ a.name.toList) :
    fileName a.filepath = a.name := by
  rw [filepath_of_plain h, fileName, List.getLast?_cons_cons, List.getLast?_singleton,
    Option.getD_some]

theorem rglobJpegs_archived (hs : Sound s) (h : Distinct s.written) :
    rglobJpegs s.fs = s.written.map Archival.filepath := by
  have hdirs : s.fs.dirs.filter isJpeg = [] := by
    rw [List.filter_eq_nil_iff]
    intro dir hdir
    rcases hs.dirs dir hdir with rfl | ⟨now, rfl⟩
    · decide
    · rw [not_isJpeg_dateDir]
      exact Bool.false_ne_true
  have hkeys : s.fs.files.keys = s.written.map Archival.filepath := by
    rw [Dict.keys, entries_archived hs h, List.map_map]
    rfl
  rw [rglobJpegs, List.filter_append, hdirs, List.nil_append, hkeys, List.filter_eq_self]
  intro path hpath
  obtain ⟨a, ha, rfl⟩ := List.mem_map.mp hpath
  exact isJpeg_of_name (fileName_of_plain (hs.plain a ha))

/-- The file of a JPEG as the scan records it. -/
def Archival.found (a : Archival) : Nat × Path := (a.mtime, a.filepath)

theorem candidate_archived (hs : Sound s) (h : Distinct s.written) (deviceIds : List String)
    {a : Archival} (ha : a ∈ s.written) :
    candidate s.fs deviceIds a.filepath =
      if namedDevice a.deviceId ∈ deviceIds then some (namedDevice a.deviceId, a.found)
      else none := by
  have hmtime : s.fs.mtime? a.filepath = some a.mtime := by
    rw [FileSystem.mtime?, get?_archived hs h ha]
    rfl
  rw [candidate, fileDevice_of_name (fileName_of_plain (hs.plain a ha))]
  dsimp only
  rw [hmtime]
  rfl

theorem mem_offered (hs : Sound s) (h : Distinct s.written)
    (hlisting : listing.Perm (s.written.map Archival.filepath)) {deviceIds : List String}
    {deviceId : String} (hlisted : deviceId ∈ deviceIds) {v : Nat × Path} :
    v ∈ ((listing.filterMap (candidate s.fs deviceIds)).filter
        fun entry => entry.1 = deviceId).map Prod.snd ↔
      ∃ a ∈ s.written.filter (fun a => namedDevice a.deviceId = deviceId), a.found = v := by
  constructor
  · intro hv
    obtain ⟨entry, hentry, rfl⟩ := List.mem_map.mp hv
    obtain ⟨hmem, hkey⟩ := List.mem_filter.mp hentry
    obtain ⟨path, hpath, hcandidate⟩ := List.mem_filterMap.mp hmem
    obtain ⟨a, ha, rfl⟩ := List.mem_map.mp (hlisting.mem_iff.mp hpath)
    rw [candidate_archived hs h deviceIds ha] at hcandidate
    split_ifs at hcandidate
    cases hcandidate
    exact ⟨a, List.mem_filter.mpr ⟨ha, hkey⟩, rfl⟩
  · rintro ⟨a, ha, rfl⟩
    obtain ⟨ha, hnamed⟩ := List.mem_filter.mp ha
    rw [decide_eq_true_eq] at hnamed
    have hcandidate := candidate_archived hs h deviceIds ha
    rw [hnamed, if_pos hlisted] at hcandidate
    have hpath : a.filepath ∈ listing := hlisting.mem_iff.mpr (List.mem_map_of_mem ha)
    have hentry := List.mem_filterMap.mpr ⟨a.filepath, hpath, hcandidate⟩
    exact List.mem_map.mpr ⟨_, List.mem_filter.mpr ⟨hentry, by simp⟩, rfl⟩

/-- In whatever order the files are listed, the scan ends with the newest file that names the
device. -/
theorem best_offered (hs : Sound s) (h : Distinct s.written)
    (hlisting : listing.Perm (s.written.map Archival.filepath)) {deviceIds : List String}
    {deviceId : String} (hlisted : deviceId ∈ deviceIds) :
    best (later Prod.fst) (((listing.filterMap (candidate s.fs deviceIds)).filter
        fun entry => entry.1 = deviceId).map Prod.snd) =
      (newestNamed s.written deviceId).map Archival.found := by
  have hmem := @mem_offered s listing hs h hlisting deviceIds deviceId hlisted
  have hnamed : ∀ a ∈ s.written.filter (fun a => namedDevice a.deviceId = deviceId),
      a ∈ s.written := fun a ha => (List.mem_filter.mp ha).1
  have hinj : ∀ v ∈ ((listing.filterMap (candidate s.fs deviceIds)).filter
        fun entry => entry.1 = deviceId).map Prod.snd,
      ∀ w ∈ ((listing.filterMap (candidate s.fs deviceIds)).filter
        fun entry => entry.1 = deviceId).map Prod.snd, v.1 = w.1 → v = w := by
    intro v hv w hw heq
    obtain ⟨a, ha, rfl⟩ := hmem.mp hv
    obtain ⟨b, hb, rfl⟩ := hmem.mp hw
    rw [eq_of_mtime h (hnamed a ha) (hnamed b hb) heq]
  cases hbest : newestNamed s.written deviceId with
  | none =>
    have hnone := best_eq_none_iff.mp hbest
    have hoffered : ((listing.filterMap (candidate s.fs deviceIds)).filter
        fun entry => entry.1 = deviceId).map Prod.snd = [] := by
      apply List.eq_nil_iff_forall_not_mem.mpr
      intro v hv
      obtain ⟨a, ha, -⟩ := hmem.mp hv
      rw [hnone] at ha
      cases ha
    rw [hoffered]
    rfl
  | some a =>
    obtain ⟨ha, hmax⟩ := (best_later_eq_some_iff Archival.mtime fun b hb c hc =>
      eq_of_mtime h (hnamed b hb) (hnamed c hc)).mp hbest
    apply (best_later_eq_some_iff Prod.fst hinj).mpr
    refine ⟨hmem.mpr ⟨a, ha, rfl⟩, ?_⟩
    intro v hv
    obtain ⟨b, hb, rfl⟩ := hmem.mp hv
    exact hmax b hb

/-- The newest file of each listed device, and no file that was not written. -/
theorem newestFiles_archived (hs : Sound s) (h : Distinct s.written)
    (hlisting : listing.Perm (s.written.map Archival.filepath)) (devices : List DeviceInfo) :
    ∃ newest, newestFiles s.fs devices listing = some newest ∧
      (∀ device ∈ devices, newest.get? device.deviceId =
        (newestNamed s.written device.deviceId).map Archival.found) ∧
      ∀ deviceId v, newest.get? deviceId = some v → ∃ a ∈ s.written, a.found = v := by
  have hmtime : ∀ path ∈ listing, ∃ mtime, s.fs.mtime? path = some mtime := by
    intro path hpath
    obtain ⟨a, ha, rfl⟩ := List.mem_map.mp (hlisting.mem_iff.mp hpath)
    rw [FileSystem.mtime?, get?_archived hs h ha]
    exact ⟨a.mtime, rfl⟩
  by_cases hroot : s.fs.IsDir []
  · refine ⟨Dict.collect (later Prod.fst) (listing.filterMap
      (candidate s.fs (devices.map fun device => device.deviceId))), ?_, ?_, ?_⟩
    · rw [newestFiles, if_pos hroot, scan_eq hmtime]
      rfl
    · intro device hdevice
      rw [Dict.get?_collect]
      exact best_offered hs h hlisting (List.mem_map.mpr ⟨device, hdevice, rfl⟩)
    · intro deviceId v hv
      obtain ⟨path, hpath, hcandidate⟩ := List.mem_filterMap.mp (Dict.mem_of_get?_collect hv)
      obtain ⟨a, ha, rfl⟩ := List.mem_map.mp (hlisting.mem_iff.mp hpath)
      rw [candidate_archived hs h _ ha] at hcandidate
      split_ifs at hcandidate
      cases hcandidate
      exact ⟨a, ha, rfl⟩
  · have hnone : s.written = [] := by
      by_contra hne
      exact hroot (hs.root hne)
    refine ⟨Dict.empty, by rw [newestFiles, if_neg hroot], ?_, ?_⟩
    · intro device _
      rw [hnone]
      rfl
    · intro deviceId v hv
      cases hv

/-- The cache holds the bytes of those files, over what it held. -/
theorem seed_archived (hs : Sound s) (h : Distinct s.written)
    (hlisting : listing.Perm (s.written.map Archival.filepath)) (devices : List DeviceInfo)
    (imageBytes : Dict String Content) :
    ∃ images, seedImageCacheFromDisk s.fs devices listing imageBytes = some images ∧
      ∀ device ∈ devices, images.get? device.deviceId =
        ((newestNamed s.written device.deviceId).map Archival.content).or
          (imageBytes.get? device.deviceId) := by
  obtain ⟨newest, hnewest, hlisted, hwritten⟩ := newestFiles_archived hs h hlisting devices
  have hread : ∀ a ∈ s.written, s.fs.read? a.found.2 = some a.content := by
    intro a ha
    rw [FileSystem.read?, Archival.found, get?_archived hs h ha]
    rfl
  obtain ⟨loaded, hloaded, hget⟩ :=
    newest.traverse_of_forall (f := fun file => s.fs.read? file.2) (by
      intro deviceId v hv
      obtain ⟨a, ha, rfl⟩ := hwritten deviceId v hv
      exact ⟨a.content, hread a ha⟩)
  unfold seedImageCacheFromDisk
  cases devices with
  | nil => exact ⟨imageBytes, rfl, fun device hdevice => absurd hdevice List.not_mem_nil⟩
  | cons first others =>
    refine ⟨_, by rw [hnewest]; simp [hloaded]; rfl, ?_⟩
    intro device hdevice
    rw [Dict.get?_foldl_set_entries, hget, hlisted device hdevice]
    cases hbest : newestNamed s.written device.deviceId with
    | none => rfl
    | some a =>
      have ha := (mem_of_best_filter hbest).1
      rw [Option.map_some, Option.bind_some, hread a ha]
      rfl

end Found

/-! ## When the archive is read back as it was written -/

/-- Whatever order the files are listed in, each listed device gets the newest JPEG written for it,
from its own file, and otherwise keeps what it has. -/
def ReadBack (s : Archive) (devices : List DeviceInfo) : Prop :=
  ∀ (listing : List Path) (imageBytes : Dict String Content), listing.Perm (rglobJpegs s.fs) →
    ∃ newest images, newestFiles s.fs devices listing = some newest ∧
      seedImageCacheFromDisk s.fs devices listing imageBytes = some images ∧
      ∀ device ∈ devices,
        newest.get? device.deviceId =
          (newestFor s.written device.deviceId).map Archival.found ∧
        images.get? device.deviceId =
          ((newestFor s.written device.deviceId).map Archival.content).or
            (imageBytes.get? device.deviceId)

/-- The id with an underscore after it begins the other one. -/
def Extends (deviceId other : String) : Prop := deviceId.toList ++ ['_'] <+: other.toList

/-- An id with an underscore has no JPEGs, and the JPEGs of ids that extend another one's by an
underscore are older than one of its own. -/
structure Separable (written : List Archival) (devices : List DeviceInfo) : Prop where
  plain : ∀ device ∈ devices, '_' ∈ device.deviceId.toList →
    ∀ a ∈ written, a.deviceId ≠ device.deviceId
  older : ∀ device ∈ devices, '_' ∉ device.deviceId.toList →
    ∀ a ∈ written, Extends device.deviceId a.deviceId →
      ∃ b ∈ written, b.deviceId = device.deviceId ∧ a.mtime < b.mtime

section Separable

variable {written : List Archival} {deviceId other : String}

theorem not_mem_namedDevice (other : String) : '_' ∉ (namedDevice other).toList := by
  rw [namedDevice, String.toList_ofList]
  exact sep_not_mem_takeWhile '_' other.toList

theorem namedDevice_of_plain (h : '_' ∉ deviceId.toList) : namedDevice deviceId = deviceId := by
  rw [namedDevice, takeWhile_of_sep_not_mem h, String.ofList_toList]

/-- A file names an id if it was written for it, or for one that extends it. -/
theorem namedDevice_eq_iff (h : '_' ∉ deviceId.toList) :
    namedDevice other = deviceId ↔ other = deviceId ∨ Extends deviceId other := by
  constructor
  · intro hnamed
    by_cases hmark : '_' ∈ other.toList
    · obtain ⟨first, rest, hother, hfirst⟩ := List.eq_append_cons_of_mem hmark
      have hlist : deviceId.toList = first := by
        rw [← hnamed, namedDevice, String.toList_ofList, hother, takeWhile_append_sep]
        have hplain : namedDevice (String.ofList first) = String.ofList first :=
          namedDevice_of_plain (by rwa [String.toList_ofList])
        simpa [namedDevice] using congrArg String.toList hplain
      right
      rw [Extends, hlist, hother]
      exact ⟨rest, by simp⟩
    · left
      rw [← hnamed, namedDevice_of_plain hmark]
  · rintro (rfl | ⟨rest, hother⟩)
    · exact namedDevice_of_plain h
    · rw [List.append_assoc, List.singleton_append] at hother
      rw [namedDevice, ← hother, takeWhile_append_sep]
      exact namedDevice_of_plain h

theorem named_iff (h : '_' ∉ deviceId.toList) (a : Archival) :
    decide (namedDevice a.deviceId = deviceId) = true ↔
      a.deviceId = deviceId ∨ Extends deviceId a.deviceId := by
  rw [decide_eq_true_eq]
  exact namedDevice_eq_iff h

theorem not_extends_self (deviceId : String) : ¬ Extends deviceId deviceId := by
  intro h
  have hlength := h.length_le
  rw [List.length_append, List.length_singleton] at hlength
  omega

/-- Where the newest that names a plain id was written for it, it is newer than those of the ids
that extend it. -/
theorem exceeded_of_newestNamed (hd : Distinct written) (h : '_' ∉ deviceId.toList)
    (heq : newestNamed written deviceId = newestFor written deviceId) {a : Archival}
    (ha : a ∈ written) (hextends : Extends deviceId a.deviceId) :
    ∃ b ∈ written, b.deviceId = deviceId ∧ a.mtime < b.mtime := by
  have hnamed := (named_iff h a).mpr (Or.inr hextends)
  cases hbest : newestNamed written deviceId with
  | none =>
    have hmem : a ∈ written.filter fun a => namedDevice a.deviceId = deviceId :=
      List.mem_filter.mpr ⟨ha, hnamed⟩
    rw [best_eq_none_iff.mp hbest] at hmem
    cases hmem
  | some b =>
    obtain ⟨-, hmax⟩ := (newest_eq_some_iff hd _).mp hbest
    obtain ⟨⟨hb, hdevice⟩, -⟩ := (newest_eq_some_iff hd _).mp (heq.symm.trans hbest)
    rw [decide_eq_true_eq] at hdevice
    have hne : a.mtime ≠ b.mtime := by
      intro hsame
      rw [eq_of_mtime hd ha hb hsame, hdevice] at hextends
      exact not_extends_self deviceId hextends
    exact ⟨b, hb, hdevice, lt_of_le_of_ne (hmax a ha hnamed) hne⟩

theorem newestNamed_of_exceeded (hd : Distinct written) (h : '_' ∉ deviceId.toList)
    (holder : ∀ a ∈ written, Extends deviceId a.deviceId →
      ∃ b ∈ written, b.deviceId = deviceId ∧ a.mtime < b.mtime) :
    newestNamed written deviceId = newestFor written deviceId := by
  cases hbest : newestNamed written deviceId with
  | none =>
    have hnone := best_eq_none_iff.mp hbest
    symm
    apply best_eq_none_iff.mpr
    rw [List.filter_eq_nil_iff] at hnone ⊢
    intro a ha hdevice
    rw [decide_eq_true_eq] at hdevice
    exact hnone a ha ((named_iff h a).mpr (Or.inl hdevice))
  | some a =>
    obtain ⟨⟨ha, hname⟩, hmax⟩ := (newest_eq_some_iff hd _).mp hbest
    symm
    apply (newest_eq_some_iff hd _).mpr
    rcases (named_iff h a).mp hname with hdevice | hextends
    · refine ⟨⟨ha, by simpa using hdevice⟩, ?_⟩
      intro b hb hother
      rw [decide_eq_true_eq] at hother
      exact hmax b hb ((named_iff h b).mpr (Or.inl hother))
    · obtain ⟨b, hb, hdevice, hlt⟩ := holder a ha hextends
      exact absurd (hmax b hb ((named_iff h b).mpr (Or.inl hdevice))) (not_le.mpr hlt)

/-- The newest JPEG that names a plain id is the newest written for it exactly if none of an id
that extends it comes after. -/
theorem newestNamed_eq_iff (hd : Distinct written) (h : '_' ∉ deviceId.toList) :
    newestNamed written deviceId = newestFor written deviceId ↔
      ∀ a ∈ written, Extends deviceId a.deviceId →
        ∃ b ∈ written, b.deviceId = deviceId ∧ a.mtime < b.mtime := by
  constructor
  · intro heq a ha hextends
    exact exceeded_of_newestNamed hd h heq ha hextends
  · exact newestNamed_of_exceeded hd h

theorem newestNamed_eq_iff_of_mark (h : '_' ∈ deviceId.toList) :
    newestNamed written deviceId = newestFor written deviceId ↔
      ∀ a ∈ written, a.deviceId ≠ deviceId := by
  have hnone : newestNamed written deviceId = none := by
    apply best_eq_none_iff.mpr
    rw [List.filter_eq_nil_iff]
    intro a _ hname
    rw [decide_eq_true_eq] at hname
    rw [← hname] at h
    exact not_mem_namedDevice a.deviceId h
  rw [hnone, eq_comm, newestFor, best_eq_none_iff, List.filter_eq_nil_iff]
  simp

/-- Files of their own times are told apart by what the scan records. -/
theorem eq_of_found (hd : Distinct written) {found wanted : Option Archival}
    (hfound : ∀ a, found = some a → a ∈ written) (hwanted : ∀ a, wanted = some a → a ∈ written)
    (heq : found.map Archival.found = wanted.map Archival.found) : found = wanted := by
  cases found with
  | none =>
    cases wanted with
    | none => rfl
    | some b => cases heq
  | some a =>
    cases wanted with
    | none => cases heq
    | some b =>
      have hmtime : a.mtime = b.mtime := congrArg Prod.fst (Option.some.inj heq)
      rw [eq_of_mtime hd (hfound a rfl) (hwanted b rfl) hmtime]

theorem separable_iff (hd : Distinct written) (devices : List DeviceInfo) :
    Separable written devices ↔ ∀ device ∈ devices,
      newestNamed written device.deviceId = newestFor written device.deviceId := by
  constructor
  · intro hseparable device hmem
    by_cases hmark : '_' ∈ device.deviceId.toList
    · exact (newestNamed_eq_iff_of_mark hmark).mpr (hseparable.plain device hmem hmark)
    · exact (newestNamed_eq_iff hd hmark).mpr (hseparable.older device hmem hmark)
  · intro heq
    refine ⟨?_, ?_⟩
    · intro device hmem hmark
      exact (newestNamed_eq_iff_of_mark hmark).mp (heq device hmem)
    · intro device hmem hmark
      exact (newestNamed_eq_iff hd hmark).mp (heq device hmem)

end Separable

/-- The archive is read back as it was written exactly if the ids can be told apart. -/
theorem archive_read_back_iff (history : List Archival) (devices : List DeviceInfo)
    (h : Distinct (archived history).written) :
    ReadBack (archived history) devices ↔ Separable (archived history).written devices := by
  have hs := archived_sound history
  rw [separable_iff h, ReadBack, rglobJpegs_archived hs h]
  constructor
  · intro hback device hdevice
    obtain ⟨newest, images, hnewest, -, hread⟩ := hback _ Dict.empty (List.Perm.refl _)
    obtain ⟨found, hfound, hnamed, -⟩ := newestFiles_archived hs h (List.Perm.refl _) devices
    obtain rfl := Option.some.inj (hnewest.symm.trans hfound)
    have hsame := (hnamed device hdevice).symm.trans (hread device hdevice).1
    refine eq_of_found h ?_ ?_ hsame
    · intro a ha
      exact (mem_of_best_filter ha).1
    · intro a ha
      exact (mem_of_best_filter ha).1
  · intro heq listing imageBytes hlisting
    obtain ⟨newest, hnewest, hnamed, -⟩ := newestFiles_archived hs h hlisting devices
    obtain ⟨images, himages, hcontent⟩ := seed_archived hs h hlisting devices imageBytes
    refine ⟨newest, images, hnewest, himages, ?_⟩
    intro device hdevice
    rw [hnamed device hdevice, hcontent device hdevice, heq device hdevice]
    exact ⟨rfl, rfl⟩

/-- A snapshot and a thumbnail of one camera, and a frame of another one. -/
def twoDevices : List Archival :=
  [⟨1767225600000000000, 1, "CAM", "snapshot", [1]⟩,
    ⟨1767225700000000000, 2, "DOOR", "stream_thumb", [2]⟩,
    ⟨1767312000000000000, 3, "CAM", "motion_person_thumb", [3]⟩]

def cameraAndDoorbell : List DeviceInfo := [{ deviceId := "CAM" }, { deviceId := "DOOR" }]

theorem twoDevices_readBack : ReadBack (archived twoDevices) cameraAndDoorbell := by
  have hwritten : (archived twoDevices).written = twoDevices := by decide +kernel
  have hdistinct : Distinct (archived twoDevices).written := by
    rw [hwritten]
    exact ⟨by decide, by decide⟩
  apply (archive_read_back_iff twoDevices cameraAndDoorbell hdistinct).mpr
  rw [hwritten]
  refine ⟨by decide, ?_⟩
  have hnone : ∀ device ∈ cameraAndDoorbell, ∀ a ∈ twoDevices,
      ¬ device.deviceId.toList ++ ['_'] <+: a.deviceId.toList := by decide
  intro device hdevice _ a ha hextends
  exact absurd hextends (hnone device hdevice a ha)

/-- A camera, and a later picture of one whose id extends its own. -/
def twoCameras : List Archival :=
  [⟨1767225600000000000, 1, "CAM", "snapshot", [1]⟩,
    ⟨1767225700000000000, 2, "CAM_2", "stream_thumb", [2]⟩]

def camera : List DeviceInfo := [{ deviceId := "CAM" }]

/-- The camera is shown the other one's picture. -/
theorem twoCameras_not_readBack : Distinct (archived twoCameras).written ∧
    ¬ ReadBack (archived twoCameras) camera := by
  have hwritten : (archived twoCameras).written = twoCameras := by decide +kernel
  refine ⟨?_, ?_⟩
  · rw [hwritten]
    exact ⟨by decide, by decide⟩
  · intro hback
    obtain ⟨newest, images, -, himages, hread⟩ := hback _ Dict.empty (List.Perm.refl _)
    have hcamera := (hread { deviceId := "CAM" } (List.mem_singleton_self _)).2
    have hshown : (seedImageCacheFromDisk (archived twoCameras).fs camera
        (rglobJpegs (archived twoCameras).fs) Dict.empty).bind (·.get? "CAM") = some [2] := by
      decide +kernel
    have hwanted : (newestFor (archived twoCameras).written "CAM").map Archival.content =
        some [1] := by decide +kernel
    rw [himages, Option.bind_some] at hshown
    rw [hshown, hwanted] at hcamera
    exact absurd hcamera (by decide)

end Eisenberg.Coordinator.ImageSeed
