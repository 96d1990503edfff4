/-
Work that reads a clock, may let time pass, and has effects.

A piece of timed work starts at some instant and comes to a value at some instant,
with a list of effects on the way.  Doing one piece after another appends their
effects, and the second starts when the first is done.  Nothing else is shared
between them, so what a piece of work does is settled by what it is given and by the
instant at which it starts.
-/
import Telemetry.Effect

namespace Telemetry

/-- What timed work comes to. -/
structure Outcome (α : Type) where
  value : α
  /-- The clock when the work is done. -/
  now : Instant
  /-- What was done, in order. -/
  effects : List Effect

/-- Work that reads a clock and has effects. -/
@[ext] structure Timed (α : Type) where
  /-- The work, started at an instant. -/
  run : Instant → Outcome α

namespace Timed

instance : Monad Timed where
  pure a := ⟨fun now => ⟨a, now, []⟩⟩
  bind work next :=
    ⟨fun now =>
      let first := work.run now
      let second := (next first.value).run first.now
      ⟨second.value, second.now, first.effects ++ second.effects⟩⟩

/-- Reads the clock. -/
def now : Timed Instant := ⟨fun now => ⟨now, now, []⟩⟩

/-- Lets time pass. -/
def advance (d : Duration) : Timed Unit := ⟨fun now => ⟨(), now.after d, []⟩⟩

/-- Has an effect. -/
def emit (effect : Effect) : Timed Unit := ⟨fun now => ⟨(), now, [effect]⟩⟩

/-- Writes to the log. -/
def log (record : LogRecord) : Timed Unit := emit (.log record)

/-! ### Running the pieces -/

variable {α β : Type}

@[simp] theorem run_pure (a : α) (t : Instant) : (pure a : Timed α).run t = ⟨a, t, []⟩ := rfl

@[simp] theorem run_bind (work : Timed α) (next : α → Timed β) (t : Instant) :
    (work >>= next).run t =
      ⟨((next (work.run t).value).run (work.run t).now).value,
       ((next (work.run t).value).run (work.run t).now).now,
       (work.run t).effects ++ ((next (work.run t).value).run (work.run t).now).effects⟩ := rfl

@[simp] theorem run_map (f : α → β) (work : Timed α) (t : Instant) :
    (f <$> work).run t = ⟨f (work.run t).value, (work.run t).now, (work.run t).effects⟩ := by
  show (work >>= fun a => pure (f a)).run t = _
  simp

@[simp] theorem run_now (t : Instant) : now.run t = ⟨t, t, []⟩ := rfl

@[simp] theorem run_advance (d : Duration) (t : Instant) :
    (advance d).run t = ⟨(), t.after d, []⟩ := rfl

@[simp] theorem run_emit (effect : Effect) (t : Instant) :
    (emit effect).run t = ⟨(), t, [effect]⟩ := rfl

@[simp] theorem run_log (record : LogRecord) (t : Instant) :
    (log record).run t = ⟨(), t, [.log record]⟩ := rfl

instance : LawfulMonad Timed :=
  LawfulMonad.mk' Timed
    (fun work => Timed.ext (funext fun t => by simp))
    (fun _ _ => rfl)
    (fun work f g => Timed.ext (funext fun t => by simp [List.append_assoc]))

end Timed

end Telemetry
