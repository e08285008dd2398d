import Eisenberg.Framework.Dict
import Eisenberg.Framework.Transition
import Mathlib.Logic.Function.Basic

/-!
# The cached pictures

`_cache_image_bytes` of the coordinator, and `async_camera_image` and `_cache_last_stream_frame` of
the camera entity. Each decides that it has something to fetch, awaits it, and then writes it to
`image_bytes`, so that fetches overlap.
-/

namespace Eisenberg.Camera

open Framework

abbrev ImageBytes := List UInt8

/-- Where a fetch is suspended: at the answer to a download, in reading its body, or at a frame of
the Stream. -/
inductive FetchPc where
  | requesting | reading | grabbing | done
  deriving DecidableEq, Repr

structure Fetch where
  device : String
  pc : FetchPc
  deriving DecidableEq, Repr

/-- What the camera entity of a device knows of its live view. -/
structure LiveView where
  /-- `self.stream is not None`. -/
  stream : Bool
  /-- `self._attr_is_streaming`. -/
  isStreaming : Bool

/-- `fetches` holds every fetch in the order they were started, and `storedBy` the one whose bytes
`imageBytes` has for a device. -/
structure ImageState where
  imageBytes : Dict String ImageBytes
  storedBy : String → Option Nat
  views : String → LiveView
  fetches : List Fetch

inductive ImageAction where
  /-- A picture's URL arrives: `_cache_image_bytes`. -/
  | cacheImageBytes (device : String)
  /-- The picture of a camera is asked for: `async_camera_image`. -/
  | cameraImage (device : String)
  /-- `_cache_last_stream_frame`. -/
  | cacheLastStreamFrame (device : String)
  /-- A download is answered with a status, or raises. -/
  | responded (i : Nat) (status : Option Nat)
  /-- The body has been read, or reading it raises. -/
  | received (i : Nat) (body : Option ImageBytes)
  /-- `async_get_image` returns a frame or `None`, or raises. -/
  | grabbed (i : Nat) (frame : Option ImageBytes)
  /-- The entity's Stream or its streaming flag changes. -/
  | view (device : String) (view : LiveView)

namespace ImageState

/-- What is there when the entry is set up: pictures from the archive, and no fetch. -/
def init (seeded : Dict String ImageBytes) (views : String → LiveView) : ImageState where
  imageBytes := seeded
  storedBy := fun _ => none
  views := views
  fetches := []

def start (s : ImageState) (device : String) (pc : FetchPc) : ImageState :=
  { s with fetches := s.fetches ++ [⟨device, pc⟩] }

def setPc (s : ImageState) (i : Nat) (f : Fetch) (pc : FetchPc) : ImageState :=
  { s with fetches := s.fetches.set i { f with pc } }

/-- The bytes of a fetch, if it has any, go into the cache. -/
def store (s : ImageState) (i : Nat) (device : String) : Option ImageBytes → ImageState
  | some content =>
    { s with imageBytes := s.imageBytes.set device content,
             storedBy := Function.update s.storedBy device (some i) }
  | none => s

end ImageState

open ImageState

/-- The bytes with which an action ends a fetch; of a Stream, only a frame that is not empty
counts. -/
def ImageAction.bytes : ImageAction → Option (Nat × ImageBytes)
  | received i body => body.map (i, ·)
  | grabbed i frame => (frame.filter fun frame => !frame.isEmpty).map (i, ·)
  | _ => none

def imageStep (s : ImageState) : ImageAction → Option ImageState
  | .cacheImageBytes device => some (s.start device .requesting)
  | .cameraImage device =>
    -- Only while Arlo reports the stream running; otherwise what is cached is served.
    if (s.views device).stream && (s.views device).isStreaming then
      some (s.start device .grabbing)
    else some s
  | .cacheLastStreamFrame device =>
    if (s.views device).stream then some (s.start device .grabbing) else some s
  | .responded i status =>
    match s.fetches[i]? with
    | some ⟨device, .requesting⟩ =>
      some (s.setPc i ⟨device, .requesting⟩ (if status = some 200 then .reading else .done))
    | _ => none
  | .received i body =>
    match s.fetches[i]? with
    | some ⟨device, .reading⟩ =>
      some ((s.store i device body).setPc i ⟨device, .reading⟩ .done)
    | _ => none
  | .grabbed i frame =>
    match s.fetches[i]? with
    | some ⟨device, .grabbing⟩ =>
      some ((s.store i device (frame.filter fun frame => !frame.isEmpty)).setPc i
        ⟨device, .grabbing⟩ .done)
    | _ => none
  | .view device view => some { s with views := Function.update s.views device view }

def imageMachine : Machine ImageState ImageAction where
  step := imageStep

/-! ## What a step does -/

/-- A step starts a fetch, moves one on, ends one, or changes what the entities know. -/
inductive ImageStep (s : ImageState) : ImageAction → ImageState → Prop
  | kept {a : ImageAction} {s' : ImageState} : a.bytes = none → s'.storedBy = s.storedBy →
      s'.fetches = s.fetches → ImageStep s a s'
  | started {a : ImageAction} {device : String} {pc : FetchPc} : a.bytes = none →
      ImageStep s a (s.start device pc)
  | moved {a : ImageAction} {i : Nat} {f : Fetch} {pc : FetchPc} : a.bytes = none →
      s.fetches[i]? = some f → f.pc ≠ .done → ImageStep s a (s.setPc i f pc)
  | stored {a : ImageAction} {i : Nat} {f : Fetch} {content : ImageBytes} :
      a.bytes = some (i, content) → s.fetches[i]? = some f → f.pc ≠ .done →
      ImageStep s a ((s.store i f.device (some content)).setPc i f .done)

theorem imageStep_of_step {s s' : ImageState} {a : ImageAction} (h : imageStep s a = some s') :
    ImageStep s a s' := by
  cases a with
  | cacheImageBytes device =>
    cases h
    exact .started rfl
  | cameraImage device =>
    simp only [imageStep] at h
    split at h
    · cases h
      exact .started rfl
    · cases h
      exact .kept rfl rfl rfl
  | cacheLastStreamFrame device =>
    simp only [imageStep] at h
    split at h
    · cases h
      exact .started rfl
    · cases h
      exact .kept rfl rfl rfl
  | responded i status =>
    simp only [imageStep] at h
    split at h
    next device hf =>
      cases h
      exact .moved rfl hf (by simp)
    next => cases h
  | received i body =>
    simp only [imageStep] at h
    split at h
    next device hf =>
      cases h
      cases body with
      | none => exact .moved rfl hf (by simp)
      | some content => exact .stored rfl hf (by simp)
    next => cases h
  | grabbed i frame =>
    simp only [imageStep] at h
    split at h
    next device hf =>
      cases h
      cases hframe : frame.filter fun frame => !frame.isEmpty with
      | none => exact .moved (by simp [ImageAction.bytes, hframe]) hf (by simp)
      | some content => exact .stored (by simp [ImageAction.bytes, hframe]) hf (by simp)
    next => cases h
  | view device view =>
    cases h
    exact .kept rfl rfl rfl

/-! ## The order of the fetches -/

/-- No picture is replaced by one whose fetch started earlier. -/
def Forward (s s' : ImageState) : Prop :=
  ∀ device i j, s.storedBy device = some i → s'.storedBy device = some j → i ≤ j

/-- When the bytes of a fetch arrive, the fetches for the device that started before it are over. -/
def InOrder (s : ImageState) (a : ImageAction) : Prop :=
  ∀ i content f, a.bytes = some (i, content) → s.fetches[i]? = some f →
    ∀ earlier ∈ s.fetches.take i, earlier.device = f.device → earlier.pc = .done

theorem inOrder_of_bytes_none {s : ImageState} {a : ImageAction} (h : a.bytes = none) :
    InOrder s a := by
  intro i content f hbytes
  rw [h] at hbytes
  cases hbytes

/-- Whatever is still under way started after the picture that is cached. -/
structure Fresh (s : ImageState) : Prop where
  started : ∀ device i, s.storedBy device = some i → i < s.fetches.length
  later : ∀ device i, s.storedBy device = some i → ∀ j f, s.fetches[j]? = some f →
    f.device = device → f.pc ≠ .done → i < j

theorem fresh_init (seeded : Dict String ImageBytes) (views : String → LiveView) :
    Fresh (init seeded views) := by
  refine ⟨?_, ?_⟩
  · intro device i h
    cases h
  · intro device i h
    cases h

theorem Fresh.start {s : ImageState} (h : Fresh s) (device : String) (pc : FetchPc) :
    Fresh (s.start device pc) where
  started d i hi := by
    have hlt := h.started d i hi
    simp only [ImageState.start, List.length_append, List.length_singleton]
    omega
  later d i hi j f hj hd hpc := by
    have hlt := h.started d i hi
    by_cases hold : j < s.fetches.length
    · rw [ImageState.start, List.getElem?_append_left hold] at hj
      exact h.later d i hi j f hj hd hpc
    · omega

theorem Fresh.setPc {s : ImageState} (h : Fresh s) {i : Nat} {f : Fetch}
    (hf : s.fetches[i]? = some f) (hopen : f.pc ≠ .done) (pc : FetchPc) :
    Fresh (s.setPc i f pc) where
  started d k hk := by
    simpa [ImageState.setPc] using h.started d k hk
  later d k hk j g hj hd hpc := by
    by_cases hji : j = i
    · subst hji
      have hlt : j < s.fetches.length := (List.getElem?_eq_some_iff.mp hf).1
      have hg : ({ f with pc } : Fetch) = g := by
        simpa [ImageState.setPc, hlt] using hj
      subst hg
      exact h.later d k hk j f hf hd hopen
    · have hj : s.fetches[j]? = some g := by
        simpa [ImageState.setPc, List.getElem?_set, Ne.symm hji] using hj
      exact h.later d k hk j g hj hd hpc

/-- The fetch whose bytes are stored ends, and those before it for the device are over. -/
theorem Fresh.stored {s : ImageState} (h : Fresh s) {i : Nat} {f : Fetch} {content : ImageBytes}
    (hf : s.fetches[i]? = some f)
    (horder : ∀ earlier ∈ s.fetches.take i, earlier.device = f.device → earlier.pc = .done) :
    Fresh ((s.store i f.device (some content)).setPc i f .done) := by
  have hlt : i < s.fetches.length := (List.getElem?_eq_some_iff.mp hf).1
  have hother : ∀ {j g}, j ≠ i →
      ((s.store i f.device (some content)).setPc i f .done).fetches[j]? = some g →
        s.fetches[j]? = some g := by
    intro j g hji hj
    simpa [ImageState.setPc, ImageState.store, List.getElem?_set, Ne.symm hji] using hj
  have hself : ∀ {g}, ((s.store i f.device (some content)).setPc i f .done).fetches[i]? = some g →
      g.pc = .done := by
    intro g hg
    have hover : ({ f with pc := .done } : Fetch) = g := by
      simpa [ImageState.setPc, ImageState.store, hlt] using hg
    rw [← hover]
  refine ⟨?_, ?_⟩
  · intro d k hk
    by_cases hd : d = f.device
    · subst hd
      have hki : i = k := by
        simpa [ImageState.setPc, ImageState.store] using hk
      subst hki
      simpa [ImageState.setPc, ImageState.store] using hlt
    · have hk : s.storedBy d = some k := by
        simpa [ImageState.setPc, ImageState.store, hd] using hk
      simpa [ImageState.setPc, ImageState.store] using h.started d k hk
  · intro d k hk j g hj hg hpc
    by_cases hji : j = i
    · subst hji
      exact absurd (hself hj) hpc
    · have hj' := hother hji hj
      by_cases hd : d = f.device
      · subst hd
        have hki : i = k := by
          simpa [ImageState.setPc, ImageState.store] using hk
        subst hki
        by_contra hle
        have hji : j < i := by omega
        have hmem : g ∈ s.fetches.take i := by
          rw [List.mem_take_iff_getElem]
          obtain ⟨hjlt, hget⟩ := List.getElem?_eq_some_iff.mp hj'
          exact ⟨j, by omega, hget⟩
        exact hpc (horder g hmem hg)
      · have hk : s.storedBy d = some k := by
          simpa [ImageState.setPc, ImageState.store, hd] using hk
        exact h.later d k hk j g hj' hg hpc

theorem Fresh.step {s s' : ImageState} {a : ImageAction} (h : Fresh s) (horder : InOrder s a)
    (hstep : imageStep s a = some s') : Fresh s' := by
  cases imageStep_of_step hstep with
  | kept hbytes hstored hfetches =>
    refine ⟨?_, ?_⟩
    · rw [hstored, hfetches]
      exact h.started
    · rw [hstored, hfetches]
      exact h.later
  | started hbytes => exact h.start _ _
  | moved hbytes hf hopen => exact h.setPc hf hopen _
  | stored hbytes hf hopen => exact h.stored hf (horder _ _ _ hbytes hf)

theorem forward_of_step {s s' : ImageState} {a : ImageAction} (h : Fresh s)
    (hstep : imageStep s a = some s') : Forward s s' := by
  intro device i j hi hj
  cases imageStep_of_step hstep with
  | kept hbytes hstored hfetches =>
    rw [hstored, hi] at hj
    cases hj
    exact Nat.le_refl _
  | started hbytes =>
    have hj : s.storedBy device = some j := hj
    rw [hi] at hj
    cases hj
    exact Nat.le_refl _
  | moved hbytes hf hopen =>
    have hj : s.storedBy device = some j := hj
    rw [hi] at hj
    cases hj
    exact Nat.le_refl _
  | @stored k f content hbytes hf hopen =>
    by_cases hd : device = f.device
    · have hkj : k = j := by
        simpa [ImageState.setPc, ImageState.store, hd] using hj
      subst hkj
      exact Nat.le_of_lt (h.later device i hi k f hf hd.symm hopen)
    · have hj : s.storedBy device = some j := by
        simpa [ImageState.setPc, ImageState.store, hd] using hj
      rw [hi] at hj
      cases hj
      exact Nat.le_refl _

/-- In a run in which no picture arrives while an earlier fetch for its device is under way, the
cached pictures never go backwards. -/
theorem images_forward (seeded : Dict String ImageBytes) (views : String → LiveView)
    {actions : List ImageAction} (h : imageMachine.Along InOrder (init seeded views) actions) :
    imageMachine.Along (fun s a => ∀ s', imageStep s a = some s' → Forward s s')
      (init seeded views) actions :=
  h.imp (fun _ _ _ hfresh horder hstep => hfresh.step horder hstep)
    (fun _ _ hfresh _ _ hstep => forward_of_step hfresh hstep) (fresh_init seeded views)

theorem storedBy_store (s : ImageState) (i : Nat) (f : Fetch) (content : ImageBytes) :
    ((s.store i f.device (some content)).setPc i f .done).storedBy f.device = some i := by
  simp [ImageState.setPc, ImageState.store]

theorem received_of_reading {s : ImageState} {i : Nat} {device : String}
    (hf : s.fetches[i]? = some ⟨device, .reading⟩) :
    imageStep s (.received i (some [])) =
      some ((s.store i device (some [])).setPc i ⟨device, .reading⟩ .done) := by
  simp [imageStep, hf]

/-- A fetch that is under way can still put its bytes into the cache. -/
theorem store_possible {s : ImageState} {i : Nat} {f : Fetch} (hf : s.fetches[i]? = some f)
    (hopen : f.pc ≠ .done) :
    ∃ before t a t', imageMachine.run s before = some t ∧ t.storedBy = s.storedBy ∧
      imageStep t a = some t' ∧ t'.storedBy f.device = some i := by
  have hlt : i < s.fetches.length := (List.getElem?_eq_some_iff.mp hf).1
  obtain ⟨device, pc⟩ := f
  cases pc with
  | requesting =>
    have hresponded : imageStep s (.responded i (some 200)) =
        some (s.setPc i ⟨device, .requesting⟩ .reading) := by
      simp [imageStep, hf]
    have hreading : (s.setPc i ⟨device, .requesting⟩ .reading).fetches[i]? =
        some ⟨device, .reading⟩ := by
      simp [ImageState.setPc, hlt]
    have hrun : imageMachine.run s [.responded i (some 200)] =
        some (s.setPc i ⟨device, .requesting⟩ .reading) :=
      imageMachine.run_cons_eq_some.mpr ⟨_, hresponded, rfl⟩
    exact ⟨_, _, _, _, hrun, rfl, received_of_reading hreading,
      storedBy_store _ i ⟨device, .reading⟩ []⟩
  | reading =>
    exact ⟨[], s, _, _, rfl, rfl, received_of_reading hf,
      storedBy_store s i ⟨device, .reading⟩ []⟩
  | grabbing =>
    have hgrabbed : imageStep s (.grabbed i (some [0])) =
        some ((s.store i device (some [0])).setPc i ⟨device, .grabbing⟩ .done) := by
      simp [imageStep, hf, Option.filter]
    exact ⟨[], s, _, _, rfl, rfl, hgrabbed, storedBy_store s i ⟨device, .grabbing⟩ [0]⟩
  | done => exact absurd rfl hopen

/-- A picture that arrives out of order can be overwritten by that of an earlier fetch which was under
way then. -/
theorem backwards_of_disorder {s s' : ImageState} {a : ImageAction} (h : ¬ InOrder s a)
    (hstep : imageStep s a = some s') :
    ∃ device i j earlier, j < i ∧ s.fetches[j]? = some earlier ∧ earlier.pc ≠ .done ∧
      s'.storedBy device = some i ∧ ∃ later t b t', imageMachine.run s' later = some t ∧
        t.storedBy device = some i ∧ imageStep t b = some t' ∧ t'.storedBy device = some j ∧
        ¬ Forward t t' := by
  simp only [InOrder, not_forall] at h
  obtain ⟨i, content, f, hbytes, hf, earlier, hmem, hdevice, hopen⟩ := h
  obtain ⟨j, hj, hget⟩ := List.mem_take_iff_getElem.mp hmem
  have hji : j < i := by omega
  have hold : s.fetches[j]? = some earlier := by
    rw [List.getElem?_eq_some_iff]
    exact ⟨by omega, hget⟩
  cases imageStep_of_step hstep with
  | kept hnone => exact absurd (hnone.symm.trans hbytes) (by simp)
  | started hnone => exact absurd (hnone.symm.trans hbytes) (by simp)
  | moved hnone => exact absurd (hnone.symm.trans hbytes) (by simp)
  | @stored i' g content' hsome hg hgopen =>
    cases hsome.symm.trans hbytes
    cases hg.symm.trans hf
    have hstill : ((s.store i f.device (some content)).setPc i f .done).fetches[j]? =
        some earlier := by
      have hne : i ≠ j := by omega
      simpa [ImageState.setPc, ImageState.store, hne] using hold
    obtain ⟨before, t, b, t', hrun, hsame, hstep', hstored⟩ := store_possible hstill hopen
    have hnew : ((s.store i f.device (some content)).setPc i f .done).storedBy earlier.device =
        some i := by
      rw [hdevice]
      exact storedBy_store s i f content
    have hkept : t.storedBy earlier.device = some i := by rw [hsame, hnew]
    refine ⟨earlier.device, i, j, earlier, hji, hold, hopen, hnew, before, t, b, t', hrun, hkept,
      hstep', hstored, ?_⟩
    intro hforward
    exact absurd (hforward earlier.device i j hkept hstored) (by omega)

/-! ### A keyframe that comes late -/

section Sample

def liveView : LiveView := ⟨true, true⟩

def idleView : LiveView := ⟨true, false⟩

/-- A keyframe is asked for while the camera streams; the stream ends, and a snapshot is taken and
downloaded. -/
def lateKeyframe : List ImageAction :=
  [.cameraImage "CAM", .view "CAM" idleView, .cacheImageBytes "CAM", .responded 1 (some 200),
   .received 1 (some [2])]

/-- The keyframe overwrites the snapshot. -/
theorem keyframe_overwrites_snapshot :
    ∃ s s', imageMachine.run (init Dict.empty fun _ => liveView) lateKeyframe = some s ∧
      imageStep s (.grabbed 0 (some [1])) = some s' ∧ s.imageBytes.get? "CAM" = some [2] ∧
      s'.imageBytes.get? "CAM" = some [1] ∧ ¬ Forward s s' := by
  refine ⟨_, _, rfl, rfl, rfl, rfl, ?_⟩
  intro h
  exact absurd (h "CAM" 1 0 rfl rfl) (by decide)

/-- The same pictures, the keyframe before the stream ends. -/
def timelyKeyframe : List ImageAction :=
  [.cameraImage "CAM", .grabbed 0 (some [1]), .view "CAM" idleView, .cacheImageBytes "CAM",
   .responded 1 (some 200), .received 1 (some [2])]

theorem images_forward_timely :
    imageMachine.Along (fun s a => ∀ s', imageStep s a = some s' → Forward s s')
      (init Dict.empty fun _ => liveView) timelyKeyframe := by
  apply images_forward
  have hnone : ∀ (s : ImageState) (a : ImageAction), a.bytes = none → InOrder s a :=
    fun _ _ => inOrder_of_bytes_none
  refine (imageMachine.along_cons_of_step rfl).mpr ⟨hnone _ _ rfl, ?_⟩
  refine (imageMachine.along_cons_of_step rfl).mpr ⟨?_, ?_⟩
  · intro i content f hbytes hf earlier hmem
    cases hbytes
    cases hmem
  refine (imageMachine.along_cons_of_step rfl).mpr ⟨hnone _ _ rfl, ?_⟩
  refine (imageMachine.along_cons_of_step rfl).mpr ⟨hnone _ _ rfl, ?_⟩
  refine (imageMachine.along_cons_of_step rfl).mpr ⟨hnone _ _ rfl, ?_⟩
  refine (imageMachine.along_cons_of_step rfl).mpr ⟨?_, trivial⟩
  intro i content f hbytes hf earlier hmem hdevice
  cases hbytes
  cases List.mem_singleton.mp hmem
  rfl

end Sample

end Eisenberg.Camera
