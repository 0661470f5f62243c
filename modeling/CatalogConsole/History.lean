/-! # Histories

A machine that takes one step at a time has a history for every list of inputs: the outputs of its
steps, and the state it is in at the end.
-/
namespace CatalogConsole

variable {State Input Output : Type}

/-- Takes one step for each input, and collects the outputs in order. -/
def replay (step : State → Input → State × Output) : State → List Input → State × List Output
  | state, [] => (state, [])
  | state, input :: rest =>
    let now := step state input
    let later := replay step now.1 rest
    (later.1, now.2 :: later.2)

variable (step : State → Input → State × Output)

@[simp] theorem replay_nil (state : State) : replay step state [] = (state, []) := rfl

@[simp] theorem replay_cons (state : State) (input : Input) (rest : List Input) :
    replay step state (input :: rest) =
      ((replay step (step state input).1 rest).1,
        (step state input).2 :: (replay step (step state input).1 rest).2) := rfl

/-- A history can be cut anywhere: what comes later starts from the state reached before. -/
theorem replay_append (state : State) (first second : List Input) :
    replay step state (first ++ second) =
      ((replay step (replay step state first).1 second).1,
        (replay step state first).2 ++ (replay step (replay step state first).1 second).2) := by
  induction first generalizing state with
  | nil => rfl
  | cons input rest ih => simp [ih]

/-- Every input has its output. -/
@[simp] theorem length_replay (state : State) (inputs : List Input) :
    (replay step state inputs).2.length = inputs.length := by
  induction inputs generalizing state with
  | nil => rfl
  | cons input rest ih => simp [ih]

/-- Each output is that of its own step, in the state that the inputs before it lead to. -/
theorem getElem?_replay (state : State) (inputs : List Input) (k : Nat) :
    (replay step state inputs).2[k]? =
      inputs[k]?.map fun input => (step (replay step state (inputs.take k)).1 input).2 := by
  induction inputs generalizing state k with
  | nil => rfl
  | cons input rest ih =>
    cases k with
    | zero => rfl
    | succ k => exact ih (step state input).1 k

/-- What is true of every step by itself is true of every step of a history. -/
theorem forall_mem_zip_replay (holds : Input → Output → Prop)
    (each : ∀ state input, holds input (step state input).2) (state : State)
    (inputs : List Input) :
    ∀ p ∈ inputs.zip (replay step state inputs).2, holds p.1 p.2 := by
  induction inputs generalizing state with
  | nil => exact fun p hp => absurd hp List.not_mem_nil
  | cons input rest ih =>
    intro p hp
    rcases List.mem_cons.mp hp with rfl | later
    · exact each state input
    · exact ih (step state input).1 p later

/-- **How one machine follows another**, on the inputs that are admitted: from related states it takes
the corresponding step, with the corresponding output, and gets to related states. -/
structure Simulation {State' Input' Output' : Type} (step : State → Input → State × Output)
    (step' : State' → Input' → State' × Output') where
  admitted : Input → Prop
  input : Input → Input'
  output : Output → Output'
  related : State → State' → Prop
  output_step : ∀ {state state' i}, admitted i → related state state' →
    (step' state' (input i)).2 = output (step state i).2
  related_step : ∀ {state state' i}, admitted i → related state state' →
    related (step state i).1 (step' state' (input i)).1

/-- What corresponds step by step corresponds over a whole history. -/
theorem Simulation.outputs_replay {State' Input' Output' : Type}
    {step : State → Input → State × Output} {step' : State' → Input' → State' × Output'}
    (sim : Simulation step step') {state : State} {state' : State'}
    (start : sim.related state state') {inputs : List Input}
    (admits : ∀ i ∈ inputs, sim.admitted i) :
    (replay step' state' (inputs.map sim.input)).2 =
      (replay step state inputs).2.map sim.output := by
  induction inputs generalizing state state' with
  | nil => rfl
  | cons i rest ih =>
    have admitted := admits i List.mem_cons_self
    have later := ih (sim.related_step admitted start)
      fun j hj => admits j (List.mem_cons_of_mem _ hj)
    rw [List.map_cons, replay_cons, replay_cons, sim.output_step admitted start, later]
    rfl

end CatalogConsole
