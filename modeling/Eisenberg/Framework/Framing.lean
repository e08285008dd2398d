import Mathlib.Data.List.Basic
import Mathlib.Tactic.Common

/-!
# Incremental framing

A byte stream carries frames back to back, cut into chunks at arbitrary places. A `Framing`
recognises one frame at the front of a buffer; its laws say that the frame is a non-empty prefix
and that appended input never changes a frame once recognised.
-/

namespace Framework

universe u

structure Framing (α : Type u) where
  take : List α → Option (List α × List α)
  take_sound : ∀ {buf p rest}, take buf = some (p, rest) → p ≠ [] ∧ buf = p ++ rest
  take_append : ∀ {buf p rest} (more : List α),
    take buf = some (p, rest) → take (buf ++ more) = some (p, rest ++ more)

namespace Framing

variable {α : Type u} (f : Framing α)

def splitFuel : Nat → List α → List (List α) × List α
  | 0, buf => ([], buf)
  | fuel + 1, buf =>
    match f.take buf with
    | none => ([], buf)
    | some (p, rest) => (p :: (splitFuel fuel rest).1, (splitFuel fuel rest).2)

/-- Every complete frame of the buffer, and the incomplete tail. -/
def split (buf : List α) : List (List α) × List α := f.splitFuel buf.length buf

def IsFrame (p : List α) : Prop := f.take p = some (p, [])

theorem take_rest_length {buf p rest : List α} (h : f.take buf = some (p, rest)) :
    rest.length < buf.length := by
  obtain ⟨hp, rfl⟩ := f.take_sound h
  have : 0 < p.length := List.length_pos_iff.mpr hp
  simp only [List.length_append]
  omega

theorem take_nil : f.take [] = none := by
  rcases h : f.take [] with _ | ⟨p, rest⟩
  · rfl
  · have := f.take_rest_length h
    simp at this

/-- Fuel beyond the length of the buffer changes nothing: every frame uses up input. -/
theorem splitFuel_of_le {fuel : Nat} {buf : List α} (h : buf.length ≤ fuel) :
    f.splitFuel fuel buf = f.split buf := by
  suffices key : ∀ (n m : Nat) (buf : List α), buf.length ≤ n → buf.length ≤ m →
      f.splitFuel n buf = f.splitFuel m buf from key _ _ _ h (Nat.le_refl _)
  intro n
  induction n with
  | zero =>
    intro m buf hn _
    have hbuf : buf = [] := List.length_eq_zero_iff.mp (by omega)
    subst hbuf
    cases m with
    | zero => rfl
    | succ m => simp [splitFuel, f.take_nil]
  | succ n ih =>
    intro m buf hn hm
    cases m with
    | zero =>
      have hbuf : buf = [] := List.length_eq_zero_iff.mp (by omega)
      subst hbuf
      simp [splitFuel, f.take_nil]
    | succ m =>
      rcases ht : f.take buf with _ | ⟨p, rest⟩
      · simp [splitFuel, ht]
      · have hlt := f.take_rest_length ht
        simp only [splitFuel, ht]
        rw [ih m rest (by omega) (by omega)]

theorem split_of_none {buf : List α} (h : f.take buf = none) : f.split buf = ([], buf) := by
  unfold split
  cases hl : buf.length with
  | zero => rfl
  | succ n => simp [splitFuel, h]

theorem split_of_some {buf p rest : List α} (h : f.take buf = some (p, rest)) :
    f.split buf = (p :: (f.split rest).1, (f.split rest).2) := by
  have hlt := f.take_rest_length h
  have hrest : f.splitFuel (buf.length - 1) rest = f.split rest := f.splitFuel_of_le (by omega)
  unfold split at hrest ⊢
  obtain ⟨n, hn⟩ : ∃ n, buf.length = n + 1 := ⟨buf.length - 1, by omega⟩
  rw [hn] at hrest ⊢
  simp only [splitFuel, h]
  rw [show n + 1 - 1 = n by omega] at hrest
  rw [hrest]

@[simp] theorem split_nil : f.split [] = ([], []) := f.split_of_none f.take_nil

theorem IsFrame.take_append {f : Framing α} {p : List α} (h : f.IsFrame p) (rest : List α) :
    f.take (p ++ rest) = some (p, rest) := by
  simpa using f.take_append rest h

theorem split_frame_append {p : List α} (h : f.IsFrame p) (rest : List α) :
    f.split (p ++ rest) = (p :: (f.split rest).1, (f.split rest).2) :=
  f.split_of_some (h.take_append rest)

/-- A stream of whole frames is split into exactly these frames. -/
theorem split_frames {ps : List (List α)} (h : ∀ p ∈ ps, f.IsFrame p) :
    f.split ps.flatten = (ps, []) := by
  induction ps with
  | nil => simp
  | cons p ps ih =>
    have hp := h p (by simp)
    have hps := ih (fun q hq => h q (by simp [hq]))
    rw [List.flatten_cons, f.split_frame_append hp, hps]

/-- Induction along the split: over a buffer without a frame, and over a buffer whose first frame is
taken off. -/
theorem take_induction {motive : List α → Prop}
    (stuck : ∀ buf, f.take buf = none → motive buf)
    (taken : ∀ buf p rest, f.take buf = some (p, rest) → motive rest → motive buf)
    (buf : List α) : motive buf := by
  induction hn : buf.length using Nat.strongRecOn generalizing buf with
  | ind n ih =>
    rcases ht : f.take buf with _ | ⟨p, rest⟩
    · exact stuck buf ht
    · have hlt := f.take_rest_length ht
      exact taken buf p rest ht (ih rest.length (by omega) rest rfl)

/-- The frames and the tail make up the buffer. -/
theorem split_flatten_append (buf : List α) :
    (f.split buf).1.flatten ++ (f.split buf).2 = buf := by
  induction buf using f.take_induction with
  | stuck buf ht => simp [f.split_of_none ht]
  | taken buf p rest ht ih =>
    obtain ⟨-, hbuf⟩ := f.take_sound ht
    rw [f.split_of_some ht, List.flatten_cons, List.append_assoc, ih, hbuf]

/-- The tail holds no further frame. -/
theorem take_split_tail (buf : List α) : f.take (f.split buf).2 = none := by
  induction buf using f.take_induction with
  | stuck buf ht => rwa [f.split_of_none ht]
  | taken buf p rest ht ih => rwa [f.split_of_some ht]

/-- Input that arrives later is split with the tail of what came before. -/
theorem split_append (buf more : List α) :
    f.split (buf ++ more) =
      ((f.split buf).1 ++ (f.split ((f.split buf).2 ++ more)).1,
        (f.split ((f.split buf).2 ++ more)).2) := by
  induction buf using f.take_induction with
  | stuck buf ht => simp [f.split_of_none ht]
  | taken buf p rest ht ih =>
    rw [f.split_of_some (f.take_append more ht), f.split_of_some ht, ih]
    simp

/-- The front of a stream of frames, some of it in the buffer and the rest still to come: either
the next frame is taken, or more of the stream has to be read. -/
theorem take_front {p rest buf more : List α} (hp : f.IsFrame p)
    (hstream : buf ++ more = p ++ rest) :
    (∃ left, f.take buf = some (p, left) ∧ left ++ more = rest) ∨
      (f.take buf = none ∧ more ≠ []) := by
  have hwhole := hp.take_append rest
  rw [← hstream] at hwhole
  cases ht : f.take buf with
  | some r =>
    obtain ⟨q, left⟩ := r
    have happ := f.take_append more ht
    rw [hwhole] at happ
    simp only [Option.some.injEq, Prod.mk.injEq] at happ
    obtain ⟨rfl, rfl⟩ := happ
    exact Or.inl ⟨left, rfl, rfl⟩
  | none =>
    refine Or.inr ⟨rfl, ?_⟩
    rintro rfl
    rw [List.append_nil, ht] at hwhole
    cases hwhole

/-- Part of a stream of frames in the buffer: the split yields the frames that are complete, and the
tail continues the stream. -/
theorem split_prefix {ps : List (List α)} (hps : ∀ p ∈ ps, f.IsFrame p) {buf more : List α}
    (hstream : buf ++ more = ps.flatten) :
    ∃ done todo, ps = done ++ todo ∧ (f.split buf).1 = done ∧
      (f.split buf).2 ++ more = todo.flatten := by
  induction ps generalizing buf with
  | nil =>
    obtain ⟨rfl, rfl⟩ := List.append_eq_nil_iff.mp hstream
    exact ⟨[], [], rfl, by simp, by simp⟩
  | cons p ps ih =>
    rcases f.take_front (hps p (by simp)) hstream with ⟨left, ht, hleft⟩ | ⟨ht, -⟩
    · obtain ⟨done, todo, rfl, hdone, htodo⟩ := ih (fun q hq => hps q (by simp [hq])) hleft
      have hsplit := f.split_of_some ht
      exact ⟨p :: done, todo, rfl, by rw [hsplit, hdone], by rw [hsplit, htodo]⟩
    · have hsplit := f.split_of_none ht
      exact ⟨[], p :: ps, rfl, by rw [hsplit], by rw [hsplit, hstream]⟩

end Framing

end Framework
