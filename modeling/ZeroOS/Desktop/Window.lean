import ZeroOS.Lib.Run

/-!
The states of a window (`zos-desktop/src/window/manager.rs`).
-/

namespace ZeroOS

inductive WindowState where
  | Normal
  | Minimized
  | Maximized
  | Fullscreen
deriving DecidableEq

-- `restoreRect` is the geometry before maximize, `prevState` the state before minimize.
structure Window (Vec2 Size : Type) where
  position : Vec2
  size : Size
  state : WindowState
  restoreRect : Option (Vec2 × Size)
  prevState : Option WindowState

-- The calls of the window manager on one window.
inductive WindowCall (Vec2 Size : Type) where
  | Minimize
  | Maximize (bounds : Option (Vec2 × Size))
  | Restore

namespace Window

variable {Vec2 Size : Type} (window : Window Vec2 Size)

def minimize : Window Vec2 Size :=
  if window.state ≠ .Minimized then
    { window with prevState := some window.state, state := .Minimized }
  else window

def maximize (bounds : Option (Vec2 × Size)) : Window Vec2 Size :=
  if window.state = .Maximized then
    match window.restoreRect with
    | some (position, size) =>
      { window with state := .Normal, restoreRect := none, position, size }
    | none => { window with state := .Normal }
  else
    let window :=
      { window with restoreRect := some (window.position, window.size), state := .Maximized }
    match bounds with
    | some (position, size) => { window with position, size }
    | none => window

def restore : Window Vec2 Size :=
  if window.state = .Minimized then
    { window with state := window.prevState.getD .Normal, prevState := none }
  else window

def call (window : Window Vec2 Size) : WindowCall Vec2 Size → Window Vec2 Size
  | .Minimize => window.minimize
  | .Maximize bounds => window.maximize bounds
  | .Restore => window.restore

def rect : Vec2 × Size := (window.position, window.size)

-- A window that was minimized while it was maximized is maximized again. The rectangle it
-- has then takes the place of the one that was saved.
def Overwrites (window : Window Vec2 Size) : WindowCall Vec2 Size → Prop
  | .Maximize _ =>
    window.state = .Minimized ∧ window.prevState = some .Maximized ∧
      window.restoreRect ≠ some window.rect
  | _ => False

-- The rectangle to which the window comes back, whatever its state is.
def Remembers (saved : Vec2 × Size) (window : Window Vec2 Size) : Prop :=
  window.state = .Normal ∧ window.rect = saved ∨
  window.state = .Maximized ∧ window.restoreRect = some saved ∨
  window.state = .Minimized ∧
    (window.prevState = some .Normal ∧ window.rect = saved ∨
      window.prevState = some .Maximized ∧ window.restoreRect = some saved)

variable {window} {saved : Vec2 × Size}

lemma Remembers.minimize (h : window.Remembers saved) : window.minimize.Remembers saved := by
  obtain ⟨hs, hr⟩ | ⟨hs, hr⟩ | ⟨hs, hr⟩ := h
  · right; right
    simpa [Window.minimize, hs, rect] using hr
  · right; right
    simpa [Window.minimize, hs] using hr
  · right; right
    simpa [Window.minimize, hs] using hr

lemma Remembers.restore (h : window.Remembers saved) : window.restore.Remembers saved := by
  obtain ⟨hs, hr⟩ | ⟨hs, hr⟩ | ⟨hs, ⟨hp, hr⟩ | ⟨hp, hr⟩⟩ := h
  · left
    simpa [Window.restore, hs] using hr
  · right; left
    simpa [Window.restore, hs] using hr
  · left
    simpa [Window.restore, hs, hp, rect] using hr
  · right; left
    simpa [Window.restore, hs, hp] using hr

lemma maximize_remembers (hs : window.state ≠ .Maximized) :
    (window.maximize bounds).Remembers window.rect := by
  right; left
  cases bounds <;> simp [Window.maximize, hs, rect]

lemma Remembers.maximize (h : window.Remembers saved) (bounds : Option (Vec2 × Size))
    (hc : ¬ window.Overwrites (.Maximize bounds)) : (window.maximize bounds).Remembers saved := by
  obtain ⟨hs, hr⟩ | ⟨hs, hr⟩ | ⟨hs, ⟨hp, hr⟩ | ⟨hp, hr⟩⟩ := h
  · rw [← hr]
    exact maximize_remembers (by simp [hs])
  · left
    simp [Window.maximize, hs, hr, rect]
  · rw [← hr]
    exact maximize_remembers (by simp [hs])
  · have he : window.rect = saved := by
      by_contra hn
      refine hc ⟨hs, hp, ?_⟩
      rw [hr]
      exact fun hq => hn (Option.some.inj hq).symm
    rw [← he]
    exact maximize_remembers (by simp [hs])

lemma Remembers.call (c : WindowCall Vec2 Size) (h : window.Remembers saved)
    (hc : ¬ window.Overwrites c) : (window.call c).Remembers saved := by
  cases c with
  | Minimize => exact h.minimize
  | Maximize bounds => exact h.maximize bounds hc
  | Restore => exact h.restore

theorem rect_of_back_to_normal (window : Window Vec2 Size) (calls : List (WindowCall Vec2 Size))
    (hn : window.state = .Normal)
    (hc : Run.Along call (fun window c => ¬ window.Overwrites c) window calls)
    (hback : (Run.run call window calls).state = .Normal) :
    (Run.run call window calls).rect = window.rect := by
  have hr : (Run.run call window calls).Remembers window.rect :=
    Run.run_invariant call _ (Remembers window.rect) (fun _ c h => h.call c) (.inl ⟨hn, rfl⟩) hc
  obtain ⟨-, hr⟩ | ⟨hs, -⟩ | ⟨hs, -⟩ := hr
  · exact hr
  · cases hs.symm.trans hback
  · cases hs.symm.trans hback

def opened : Window Nat Nat where
  position := 1
  size := 2
  state := .Normal
  restoreRect := none
  prevState := none

theorem rect_of_back_to_normal_opened :
    (Run.run call opened [.Minimize, .Maximize (some (5, 6)), .Minimize, .Restore,
      .Maximize none]).rect = (1, 2) :=
  rect_of_back_to_normal opened _ rfl (by simp [Run.Along, Overwrites, call, opened,
    Window.minimize, Window.maximize, Window.restore]) rfl

theorem maximize_minimize_maximize_loses_rect :
    (Run.run call opened [.Maximize (some (5, 6)), .Minimize, .Maximize (some (5, 6)),
      .Maximize none]).state = .Normal ∧
    (Run.run call opened [.Maximize (some (5, 6)), .Minimize, .Maximize (some (5, 6)),
      .Maximize none]).rect = (5, 6) :=
  ⟨rfl, rfl⟩

end Window

end ZeroOS
