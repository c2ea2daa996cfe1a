import Mathlib.Data.List.Induction
import Warehouse.Library
import Warehouse.Proofs.Dialogue.Computation

/-! # Setting the logger up again

The logger may be set up more than once, under other settings and on other days. It has handlers
after the first time, and these stay what they are: later times change nothing but its level
(`Log.Setup.foldl_again`). So when the library is loaded once more, its records go where they
went before (`Host.logging_of_load_again`). -/

namespace Warehouse

namespace Log.Setup

/-- The logger that was set up before, under new settings on some day. -/
def again (setup : Setup) (time : Settings × String) : Setup :=
  ofSettings time.1 time.2 setup.handlers

theorem handlers_ne_nil (settings : Settings) (day : String) (existing : List Handler) :
    (ofSettings settings day existing).handlers ≠ [] := by
  unfold ofSettings
  dsimp only
  split
  · exact List.cons_ne_nil _ _
  · assumption

/-- A logger with handlers gets a new level and keeps them. -/
theorem again_eq {setup : Setup} (present : setup.handlers ≠ []) (time : Settings × String) :
    setup.again time = { setup with level := time.1.level } := by
  simp only [again, ofSettings, if_neg present]

/-- However often the logger is set up again, its handlers stay, and its level is that of the
last time. -/
theorem foldl_again (settings : Settings) (day : String) (existing : List Handler)
    (times : List (Settings × String)) :
    let first := ofSettings settings day existing
    times.foldl again first =
      { first with level := ((times.getLast?.map Prod.fst).getD settings).level } := by
  intro first
  induction times using List.reverseRecOn with
  | nil => rfl
  | append_singleton times time ih =>
      have present : (times.foldl again first).handlers ≠ [] := by
        rw [ih]
        exact handlers_ne_nil settings day existing
      rw [List.foldl_append, List.foldl_cons, List.foldl_nil, again_eq present, ih]
      simp

end Log.Setup

namespace Host

variable {host later : Host} {environment other : Variables} {library next : Library}

theorem logging_of_load (loaded : host.load environment = .ok library) :
    library.logging = .ofSettings library.settings host.day host.handlers := by
  obtain ⟨place, -, read⟩ := Computation.bind_eq_ok_iff.mp loaded
  split at read <;> cases read
  rfl

/-- Where the logger already has the handlers of a library, another loading keeps them. -/
theorem logging_of_load_again (first : host.load environment = .ok library)
    (kept : later.handlers = library.logging.handlers) (again : later.load other = .ok next) :
    next.logging = { library.logging with level := next.settings.level } := by
  have present : library.logging.handlers ≠ [] := by
    rw [logging_of_load first]
    exact Log.Setup.handlers_ne_nil _ _ _
  rw [logging_of_load again, kept]
  exact Log.Setup.again_eq present (next.settings, later.day)

end Host

end Warehouse
