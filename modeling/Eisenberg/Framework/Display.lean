import Mathlib.Tactic.Common

/-!
# Displays of a store

A display is created from a store and takes it in at each broadcast; between two broadcasts it keeps
what it shows. A display that forgets what it showed, as far as the store still tells, shows at
every moment what a new one would.
-/

namespace Framework

universe u v

structure Display (σ : Type u) (α : Type v) where
  /-- What it shows when it is created. -/
  initial : σ → α
  /-- What it shows after a broadcast. -/
  update : σ → α → α

namespace Display

variable {σ : Type u} {α : Type v}

/-- What a display created from the store shows after its first broadcast. -/
def showing (d : Display σ α) (s : σ) : α := d.update s (d.initial s)

/-- A display that keeps its value while the store has none. -/
def sticky (read : σ → Option α) (seed : Option α) : Display σ (Option α) where
  initial _ := seed
  update s shown := (read s).or shown

/-- A display that reads its value from the store each time. -/
def direct (initial read : σ → α) : Display σ α where
  initial := initial
  update s _ := read s

/-- Where the store goes on from `s` to `s'`, what was shown for `s` does not matter for `s'`. -/
structure Lawful (d : Display σ α) (le : σ → σ → Prop) : Prop where
  absorb : ∀ s s' shown, le s s' → d.update s' (d.update s shown) = d.update s' shown
  seeded : ∀ s s' t, d.update t (d.initial s) = d.update t (d.initial s')

theorem sticky_lawful {le : σ → σ → Prop} {read : σ → Option α} (seed : Option α)
    (hread : ∀ s s', le s s' → read s' = none → read s = none) : (sticky read seed).Lawful le where
  absorb := by
    intro s s' shown hle
    show (read s').or ((read s).or shown) = (read s').or shown
    cases hs' : read s' with
    | none => rw [hread s s' hle hs', Option.none_or]
    | some value => rfl
  seeded := fun _ _ _ => rfl

theorem direct_lawful (le : σ → σ → Prop) (initial read : σ → α) :
    (direct initial read).Lawful le where
  absorb := fun _ _ _ _ => rfl
  seeded := fun _ _ _ => rfl

theorem showing_sticky (read : σ → Option α) (seed : Option α) (s : σ) :
    (sticky read seed).showing s = (read s).or seed := rfl

theorem showing_direct (initial read : σ → α) (s : σ) :
    (direct initial read).showing s = read s := rfl

end Display

/-- A display with what it shows, the store it was created from, and whether a broadcast has
reached it. -/
structure Screen (σ : Type u) (α : Type v) where
  display : Display σ α
  value : α
  created : σ
  updated : Bool

namespace Screen

variable {σ : Type u} {α : Type v}

def new (display : Display σ α) (s : σ) : Screen σ α where
  display := display
  value := display.initial s
  created := s
  updated := false

def update (screen : Screen σ α) (s : σ) : Screen σ α :=
  { screen with value := screen.display.update s screen.value, updated := true }

/-- The screen after a change of the store, which may be broadcast. -/
def follow (screen : Screen σ α) (s : σ) (pushed : Bool) : Screen σ α :=
  if pushed then screen.update s else screen

@[simp] theorem display_follow (screen : Screen σ α) (s : σ) (pushed : Bool) :
    (screen.follow s pushed).display = screen.display := by
  cases pushed <;> rfl

/-- Once updated, the screen shows what one created now would; before that, it shows what it was
created with, and nothing has changed that it would show. -/
structure Shows (screen : Screen σ α) (s : σ) : Prop where
  value : screen.value =
    if screen.updated then screen.display.showing s else screen.display.initial screen.created
  still : screen.updated = false → screen.display.showing s = screen.display.showing screen.created

theorem shows_new (display : Display σ α) (s : σ) : (new display s).Shows s := ⟨rfl, fun _ => rfl⟩

theorem Shows.update {screen : Screen σ α} {s s' : σ} {le : σ → σ → Prop} (h : screen.Shows s)
    (hlawful : screen.display.Lawful le) (hle : le s s') : (screen.update s').Shows s' where
  value := by
    show screen.display.update s' screen.value = screen.display.showing s'
    rw [h.value]
    split
    · rw [Display.showing, hlawful.absorb s s' _ hle]
      exact hlawful.seeded s s' s'
    · exact hlawful.seeded screen.created s' s'
  still := fun hupdated => by cases hupdated

/-- A change that no broadcast follows is harmless where the display does not see it. -/
theorem Shows.quiet {screen : Screen σ α} {s s' : σ} (h : screen.Shows s)
    (hsame : screen.display.showing s' = screen.display.showing s) : screen.Shows s' where
  value := by
    rw [hsame]
    exact h.value
  still := fun hupdated => hsame.trans (h.still hupdated)

theorem Shows.follow {screen : Screen σ α} {s s' : σ} {le : σ → σ → Prop} {pushed : Bool}
    (h : screen.Shows s) (hlawful : screen.display.Lawful le) (hle : le s s')
    (hquiet : pushed = false → screen.display.showing s' = screen.display.showing s) :
    (screen.follow s' pushed).Shows s' := by
  cases pushed with
  | true => exact h.update hlawful hle
  | false => exact h.quiet (hquiet rfl)

/-- The screen shows a store that came before this one. -/
def Lags (le : σ → σ → Prop) (screen : Screen σ α) (s : σ) : Prop :=
  ∃ s₀, le s₀ s ∧ screen.Shows s₀

theorem Shows.lags {screen : Screen σ α} {s : σ} {le : σ → σ → Prop} (h : screen.Shows s)
    (hrefl : le s s) : screen.Lags le s := ⟨s, hrefl, h⟩

theorem Lags.mono {screen : Screen σ α} {s s' : σ} {le : σ → σ → Prop} (h : screen.Lags le s)
    (htrans : ∀ s₀, le s₀ s → le s₀ s') : screen.Lags le s' := by
  obtain ⟨s₀, hle, hshows⟩ := h
  exact ⟨s₀, htrans s₀ hle, hshows⟩

/-- A broadcast makes up for what the screen has missed. -/
theorem Lags.update {screen : Screen σ α} {s : σ} {le : σ → σ → Prop} (h : screen.Lags le s)
    (hlawful : screen.display.Lawful le) : (screen.update s).Shows s := by
  obtain ⟨s₀, hle, hshows⟩ := h
  exact hshows.update hlawful hle

end Screen

end Framework
