import CatalogConsole.History
import CatalogConsole.Proofs.ConsoleRun

/-! # What a registry shows after a history

A registry is determined by the command that it holds under each name (`Registry.eq_of_lookup`): its
commands are in the order of their names, so there is only one list of them.  What is held under a
name after a history is the command that was registered last with that name, or else what was held
there at the start (`Registry.lookup_replay`).  Inquiries leave nothing behind.

So all that a registry answers after a history depends on the last command of each name only
(`registry_reflects_history`), and registering commands of different names in another order makes no
difference (`Registry.register_comm`).
-/
namespace CatalogConsole

/-- The code points of a text. -/
def Text.codePoints (s : String) : List Nat :=
  s.toList.map Char.toNat

/-- Texts are in the order of their code points. -/
theorem Text.codePoints_lt {s t : String} (h : s < t) : codePoints s < codePoints t := by
  refine List.map_lt (fun c d lt => ?_) (String.lt_iff.mp h)
  exact UInt32.lt_iff_toNat_lt.mp (Char.lt_def.mp lt)

namespace Registry

variable {α : Type} {r r' : Registry α} {c : Command α} {name : String}

/-! ## What is held under a name -/

/-- Of commands in order, each is the one that its name leads to. -/
theorem find?_of_mem {commands : List (Command α)}
    (ordered : commands.Pairwise fun c d => c.name < d.name) (h : c ∈ commands) :
    commands.find? (·.name = c.name) = some c := by
  induction commands with
  | nil => cases h
  | cons d rest ih =>
    obtain ⟨least, ordered⟩ := List.pairwise_cons.mp ordered
    rcases List.mem_cons.mp h with rfl | later
    · exact List.find?_cons_of_pos (decide_eq_true rfl)
    · have other : d.name ≠ c.name := String.ne_of_lt (least c later)
      rw [List.find?_cons_of_neg (by simpa using other)]
      exact ih ordered later

theorem lookup_eq_some_iff : r.lookup name = some c ↔ c ∈ r.commands ∧ c.name = name := by
  constructor
  · intro found
    exact ⟨List.mem_of_find?_eq_some found, by simpa using List.find?_some found⟩
  · rintro ⟨held, rfl⟩
    exact find?_of_mem r.ordered held

theorem mem_commands_iff : c ∈ r.commands ↔ r.lookup c.name = some c := by
  rw [lookup_eq_some_iff, and_iff_left rfl]

/-- **A registry is determined by what it holds** under each name. -/
theorem eq_of_lookup (same : ∀ name, r.lookup name = r'.lookup name) : r = r' := by
  have members (c : Command α) : c ∈ r.commands ↔ c ∈ r'.commands := by
    rw [mem_commands_iff, same, ← mem_commands_iff]
  obtain ⟨commands, ordered⟩ := r
  obtain ⟨commands', ordered'⟩ := r'
  have once {commands : List (Command α)}
      (ordered : commands.Pairwise fun c d => c.name < d.name) : commands.Nodup := by
    refine ordered.imp ?_
    rintro c d lt rfl
    exact String.lt_irrefl _ lt
  have permuted : commands.Perm commands' :=
    (List.perm_ext_iff_of_nodup (once ordered) (once ordered')).mpr members
  obtain rfl : commands = commands' := permuted.eq_of_pairwise
    (fun _ _ _ _ lt gt => absurd gt (String.lt_asymm lt)) ordered ordered'
  rfl

theorem mem_names_iff : name ∈ r.names ↔ (r.lookup name).isSome := by
  rw [Option.isSome_iff_exists, names, List.mem_map]
  simp only [lookup_eq_some_iff]

/-- The names are in the order of their code points, and none occurs twice. -/
theorem increasing_names (r : Registry α) : (r.names.map Text.codePoints).Pairwise (· < ·) := by
  rw [names, List.map_map, List.pairwise_map]
  exact r.ordered.imp Text.codePoints_lt

/-- **Commands of different names** can be registered in any order. -/
theorem register_comm (r : Registry α) {c d : Command α} (different : c.name ≠ d.name) :
    (r.register c).register d = (r.register d).register c := by
  refine eq_of_lookup fun name => ?_
  simp only [lookup_register]
  by_cases isC : c.name = name
  · have notD : d.name ≠ name := fun isD => different (isC.trans isD.symm)
    simp only [isC, notD, if_true, if_false]
  · simp only [isC, if_false]

/-! ## Histories -/

/-- The last of the commands that has this name. -/
def lastNamed (name : String) (commands : List (Command α)) : Option (Command α) :=
  commands.reverse.find? (·.name = name)

theorem isSome_lastNamed_iff {commands : List (Command α)} :
    (lastNamed name commands).isSome ↔ ∃ c ∈ commands, c.name = name := by
  simp [lastNamed]

theorem lookup_foldl_register (r : Registry α) (commands : List (Command α)) (name : String) :
    (commands.foldl register r).lookup name = (lastNamed name commands).or (r.lookup name) := by
  induction commands generalizing r with
  | nil => rfl
  | cons c rest ih =>
    rw [List.foldl_cons, ih, lookup_register, lastNamed, lastNamed, List.reverse_cons,
      List.find?_append, Option.or_assoc]
    by_cases isC : c.name = name <;> simp [isC]

/-- The command that a step registers. -/
def Step.command? : Step α → Option (Command α)
  | register c => some c
  | ask _ => none

/-- The commands that a history registers, in order. -/
def registered (steps : List (Step α)) : List (Command α) :=
  steps.filterMap Step.command?

/-- **What is held under a name after a history**: the command registered last with it, or else what
was held at the start. -/
def heldAfter (start : Registry α) (steps : List (Step α)) (name : String) : Option (Command α) :=
  (lastNamed name (registered steps)).or (start.lookup name)

/-- A history comes to what it registers. -/
theorem replay_step (start : Registry α) (steps : List (Step α)) :
    (replay step start steps).1 = (registered steps).foldl register start := by
  induction steps generalizing start with
  | nil => rfl
  | cons s rest ih =>
    cases s with
    | register c => exact ih (start.register c)
    | ask inquiry => exact ih start

theorem lookup_replay (start : Registry α) (steps : List (Step α)) (name : String) :
    (replay step start steps).1.lookup name = start.heldAfter steps name := by
  rw [replay_step, lookup_foldl_register]
  rfl

/-- **Histories with the same last command of each name** lead to the same registry. -/
theorem replay_eq_of_heldAfter {start start' : Registry α} {steps steps' : List (Step α)}
    (same : ∀ name, start.heldAfter steps name = start'.heldAfter steps' name) :
    (replay step start steps).1 = (replay step start' steps').1 := by
  refine eq_of_lookup fun name => ?_
  rw [lookup_replay, lookup_replay, same]

theorem mem_names_replay_iff {start : Registry α} {steps : List (Step α)} :
    name ∈ (replay step start steps).1.names ↔
      name ∈ start.names ∨ ∃ c ∈ registered steps, c.name = name := by
  rw [mem_names_iff, lookup_replay, heldAfter, Option.isSome_or, Bool.or_eq_true,
    isSome_lastNamed_iff, ← mem_names_iff, or_comm]

theorem registered_map_register (commands : List (Command α)) :
    registered (commands.map .register) = commands := by
  induction commands with
  | nil => rfl
  | cons c rest ih => exact congrArg (c :: ·) ih

end Registry

/-- **A registry shows the last command of each name.**  After any history, its names are in the
order of their code points and are those from the start and those registered since.  Under each name
it holds the command that was registered last with it, or else the one from the start.  A word gets
the command held under the word in lower case, and the help text has a line for each name, about the
command held under it.  Inquiries change nothing, and each is answered by the registry that the
steps before it lead to.

So histories that come to the same last command for each name cannot be told apart, by an inquiry or
by whatever is done next, and commands of different names can be registered in any order. -/
theorem registry_reflects_history {α : Type} :
    (∀ (start : Registry α) (steps : List (Registry.Step α)),
      let after := (replay Registry.step start steps).1
      let held := start.heldAfter steps
      (after.names.map Text.codePoints).Pairwise (· < ·) ∧
      (∀ name, name ∈ after.names ↔
        name ∈ start.names ∨ ∃ c ∈ Registry.registered steps, c.name = name) ∧
      (∀ name, after.lookup name = held name) ∧
      (∀ word, after.get? word = held (Text.lowercase word)) ∧
      (∃ commands : List (Command α), commands.map (·.name) = after.names ∧
        (∀ c ∈ commands, held c.name = some c) ∧
        after.helpText = String.intercalate "\n"
          ("Available commands:" ::
            commands.map (fun c => "  " ++
              String.intercalate " " (c.name :: c.params.map fun p => "<" ++ p ++ ">") ++
                " - " ++ c.help) ++
            ["  help - Show this message"])) ∧
      after = (replay Registry.step start ((Registry.registered steps).map .register)).1 ∧
      (∀ (k : Nat) (inquiry : Inquiry), steps[k]? = some (.ask inquiry) →
        (replay Registry.step start steps).2[k]? =
          some (some ((replay Registry.step start (steps.take k)).1.answer inquiry)))) ∧
    (∀ (start start' : Registry α) (steps steps' : List (Registry.Step α)),
      (∀ name, start.heldAfter steps name = start'.heldAfter steps' name) →
      (∀ inquiry, (replay Registry.step start steps).1.answer inquiry =
        (replay Registry.step start' steps').1.answer inquiry) ∧
      ∀ later, (replay Registry.step start (steps ++ later)).2.drop steps.length =
        (replay Registry.step start' (steps' ++ later)).2.drop steps'.length) ∧
    ∀ (start : Registry α) (before later : List (Registry.Step α)) (c d : Command α),
      c.name ≠ d.name →
      replay Registry.step start (before ++ .register c :: .register d :: later) =
        replay Registry.step start (before ++ .register d :: .register c :: later) := by
  refine ⟨?_, ?_, ?_⟩
  · intro start steps after held
    have looked : after.lookup = held := funext (Registry.lookup_replay start steps)
    refine ⟨after.increasing_names, fun name => Registry.mem_names_replay_iff, congrFun looked,
      fun word => congrFun looked _, ?_, ?_, ?_⟩
    · exact ⟨after.commands, rfl, fun c h => looked ▸ Registry.mem_commands_iff.mp h, rfl⟩
    · simp only [after]
      rw [Registry.replay_step, Registry.replay_step, Registry.registered_map_register]
    · intro k inquiry asked
      rw [getElem?_replay, asked]
      rfl
  · intro start start' steps steps' same
    have reached := Registry.replay_eq_of_heldAfter same
    have drops (r : Registry α) (steps later : List (Registry.Step α)) :
        (replay Registry.step r (steps ++ later)).2.drop steps.length =
          (replay Registry.step (replay Registry.step r steps).1 later).2 := by
      rw [replay_append, List.drop_left' (length_replay _ _ _)]
    exact ⟨fun inquiry => by rw [reached], fun later => by rw [drops, drops, reached]⟩
  · intro start before later c d different
    have swapped := (replay Registry.step start before).1.register_comm different
    rw [replay_append, replay_append]
    simp only [replay_cons, Registry.step, swapped]

/-- A built-in command that is changed and then restored leaves no trace, whatever is asked and
registered meanwhile. -/
theorem restored_command_leaves_no_trace :
    let changed := { Builtin.getProductSet with help := "Show one product set" }
    let added := { Builtin.listProductSets with name := "Sets" }
    let steps : List (Registry.Step Operation) :=
      [.register changed, .ask .help, .register added, .register Builtin.getProductSet]
    let steps' : List (Registry.Step Operation) := [.register added]
    (∀ name, Builtin.registry.heldAfter steps name = Builtin.registry.heldAfter steps' name) ∧
      (replay Registry.step Builtin.registry steps).1.answer .help =
        (replay Registry.step Builtin.registry steps').1.answer .help ∧
      (replay Registry.step Builtin.registry steps).2[1]? =
        some (some ((Builtin.registry.register changed).answer .help)) ∧
      "Sets" ∈ (replay Registry.step Builtin.registry steps').1.names ∧
      replay Registry.step Builtin.registry [.register changed, .register added] =
        replay Registry.step Builtin.registry [.register added, .register changed] := by
  intro changed added steps steps'
  have builtin : Builtin.getProductSet ∈ Builtin.commands := by simp [Builtin.commands]
  have registers : Registry.registered steps = [changed, added, Builtin.getProductSet] := rfl
  have registers' : Registry.registered steps' = [added] := rfl
  have same (name : String) :
      Builtin.registry.heldAfter steps name = Builtin.registry.heldAfter steps' name := by
    rw [Registry.heldAfter, Registry.heldAfter, registers, registers']
    by_cases restored : Builtin.getProductSet.name = name
    · have fresh : added.name ≠ Builtin.getProductSet.name := by decide
      rw [← restored, Builtin.lookup_name builtin]
      simp [Registry.lastNamed, fresh]
    · have other : changed.name ≠ name := restored
      by_cases isAdded : added.name = name <;> simp [Registry.lastNamed, restored, other, isAdded]
  obtain ⟨shown, alike, swap⟩ := registry_reflects_history (α := Operation)
  obtain ⟨-, -, -, -, -, -, answered⟩ := shown Builtin.registry steps
  obtain ⟨-, listed, -⟩ := shown Builtin.registry steps'
  refine ⟨same, (alike _ _ _ _ same).1 .help, answered 1 .help rfl, ?_, ?_⟩
  · exact (listed "Sets").mpr (.inr ⟨added, List.mem_singleton.mpr rfl, rfl⟩)
  · exact swap Builtin.registry [] [] changed added (by decide)

end CatalogConsole
