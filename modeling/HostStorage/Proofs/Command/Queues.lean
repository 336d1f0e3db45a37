import HostStorage.Command.Script

/-!
# A script as one queue for each program

All answers of a script wait in one list, from which they are taken at any place. A program sees
nothing of that: what its commands lead to is what a queue of its own would yield
(`run_takes_own_queue` for one command, `outcomes_of_own_queue` for any steps), and the calls are
the commands that were run.
-/
namespace HostStorage

inductive QueueStep where
  | put (output : CommandOutput)
  | take

/-- What is taken from a queue in turn: the output that waits longest, or a silent one if none
waits. -/
def queueYield : List CommandOutput → List QueueStep → List CommandOutput
  | _, [] => []
  | waiting, .put output :: rest => queueYield (waiting ++ [output]) rest
  | [], .take :: rest => .silent :: queueYield [] rest
  | output :: waiting, .take :: rest => output :: queueYield waiting rest

namespace Script

inductive Step where
  | respond (program : String) (output : CommandOutput)
  | run (i : Invocation)

namespace Step

def invocation? : Step → Option Invocation
  | respond _ _ => none
  | run i => some i

/-- What a step is to the queue of a program. -/
def onQueue? (program : String) : Step → Option QueueStep
  | respond p output => if p = program then some (.put output) else none
  | run i => if i.program = program then some .take else none

end Step

/-- The commands among some steps, with what they lead to. -/
def events (s : Script) : List Step → Trace
  | [] => []
  | .respond program output :: rest => (s.respond program output).events rest
  | .run i :: rest => ⟨i, (s.run i).1⟩ :: (s.run i).2.events rest

def next (s : Script) : Step → Script
  | .respond program output => s.respond program output
  | .run i => (s.run i).2

def outcomesOf (program : String) (trace : Trace) : List Outcome :=
  (trace.filter (·.invocation.program = program)).map (·.outcome)

/-- The answers that wait for a program, oldest first. -/
def waiting (program : String) (answers : List (String × CommandOutput)) : List CommandOutput :=
  (answers.filter (·.1 = program)).map (·.2)

/-! ## Taking an entry -/

section

variable {α : Type} {key : String} {value : α} {entries rest : List (String × α)}

theorem take?_eq_none_iff : take? key entries = none ↔ ∀ e ∈ entries, e.1 ≠ key := by
  induction entries with
  | nil => simp [take?]
  | cons e others ih =>
    rw [take?, List.forall_mem_cons, ← ih]
    by_cases here : e.1 = key <;> simp [here]

/-- The entry that is taken is the first one for its key, and the others stay in their order. -/
theorem take?_eq_some (taken : take? key entries = some (value, rest)) :
    ∃ before after, entries = before ++ (key, value) :: after ∧ (∀ e ∈ before, e.1 ≠ key) ∧
      rest = before ++ after := by
  induction entries generalizing rest with
  | nil => cases taken
  | cons e others ih =>
    rw [take?] at taken
    split at taken
    next here =>
      cases taken
      exact ⟨[], others, by rw [← here, List.nil_append], by simp, rfl⟩
    next elsewhere =>
      obtain ⟨⟨found, left⟩, later, same⟩ := Option.map_eq_some_iff.1 taken
      cases same
      obtain ⟨before, after, whole, free, rfl⟩ := ih later
      exact ⟨e :: before, after, by rw [whole, List.cons_append],
        List.forall_mem_cons.2 ⟨elsewhere, free⟩, rfl⟩

end

/-! ## The queue of a program -/

section

variable {program other : String} {output : CommandOutput}
  {answers left : List (String × CommandOutput)}

theorem waiting_append (program : String) (before after : List (String × CommandOutput)) :
    waiting program (before ++ after) = waiting program before ++ waiting program after := by
  rw [waiting, List.filter_append, List.map_append]
  rfl

theorem waiting_singleton (program p : String) (output : CommandOutput) :
    waiting program [(p, output)] = if p = program then [output] else [] := by
  by_cases own : p = program <;> simp [waiting, own]

theorem waiting_eq_nil (free : ∀ e ∈ answers, e.1 ≠ program) : waiting program answers = [] := by
  rw [waiting, List.filter_eq_nil_iff.2 (by simpa using free), List.map_nil]

/-- What is taken for a program waited longest for it. -/
theorem waiting_of_take? (taken : take? program answers = some (output, left)) :
    waiting program answers = output :: waiting program left := by
  obtain ⟨before, after, rfl, free, rfl⟩ := take?_eq_some taken
  rw [List.append_cons, waiting_append, waiting_append, waiting_append, waiting_eq_nil free,
    waiting_singleton, if_pos rfl]
  rfl

/-- What is taken for a program did not wait for another one. -/
theorem waiting_of_take?_other (different : program ≠ other)
    (taken : take? program answers = some (output, left)) :
    waiting other left = waiting other answers := by
  obtain ⟨before, after, rfl, _, rfl⟩ := take?_eq_some taken
  rw [List.append_cons, waiting_append, waiting_append, waiting_append, waiting_singleton,
    if_neg different, List.append_nil]

end

/-! ## One command -/

/-- A command takes the next output of its program's queue and leaves the other queues. -/
theorem run_takes_own_queue (answers : List (String × CommandOutput)) (calls : List Invocation)
    (i : Invocation) :
    ∃ output left,
      run { answers, calls } i = (.ok output, { answers := left, calls := calls ++ [i] })
      ∧ (∀ steps, queueYield (waiting i.program answers) (.take :: steps) =
        output :: queueYield (waiting i.program left) steps)
      ∧ ∀ other, i.program ≠ other → waiting other left = waiting other answers := by
  cases found : take? i.program answers with
  | none =>
    have nothing := waiting_eq_nil (take?_eq_none_iff.1 found)
    refine ⟨.silent, answers, by simp [run, take?, found], fun steps => ?_, fun _ _ => rfl⟩
    rw [nothing, queueYield]
  | some taken =>
    obtain ⟨output, left⟩ := taken
    refine ⟨output, left, by simp [run, take?, found], fun steps => ?_,
      fun other different => waiting_of_take?_other different found⟩
    rw [waiting_of_take? found, queueYield]

/-! ## Steps -/

theorem outcomesOf_cons (program : String) (e : CommandEvent) (trace : Trace) :
    outcomesOf program (e :: trace) =
      if e.invocation.program = program then e.outcome :: outcomesOf program trace
      else outcomesOf program trace := by
  by_cases own : e.invocation.program = program <;> simp [outcomesOf, own]

/-- Whatever the steps of other programs are, the commands of a program lead to what its own steps
make of a queue, and the calls are the commands that were run, each as it was given. -/
theorem outcomes_of_own_queue (answers : List (String × CommandOutput)) (calls : List Invocation)
    (steps : List Step) :
    (∀ program, outcomesOf program (events { answers, calls } steps) =
      (queueYield (waiting program answers) (steps.filterMap (Step.onQueue? program))).map .ok) ∧
    (steps.foldl next { answers, calls }).calls = calls ++ steps.filterMap Step.invocation? ∧
    (events { answers, calls } steps).map (·.invocation) = steps.filterMap Step.invocation? := by
  induction steps generalizing answers calls with
  | nil => exact ⟨fun _ => rfl, (List.append_nil calls).symm, rfl⟩
  | cons step rest ih =>
    cases step with
    | respond p output =>
      obtain ⟨outcomes, made, ran⟩ := ih (answers ++ [(p, output)]) calls
      refine ⟨fun program => ?_, made, ran⟩
      rw [events, respond, outcomes program, waiting_append, waiting_singleton]
      by_cases own : p = program
      · simp [Step.onQueue?, own, queueYield]
      · simp [Step.onQueue?, own]
    | run i =>
      obtain ⟨output, left, answered, yields, others⟩ := run_takes_own_queue answers calls i
      obtain ⟨outcomes, made, ran⟩ := ih left (calls ++ [i])
      refine ⟨fun program => ?_, ?_, ?_⟩
      · rw [events, answered, outcomesOf_cons, outcomes program]
        by_cases own : i.program = program
        · subst own
          simp [Step.onQueue?, yields]
        · simp [Step.onQueue?, own, others program own]
      · rw [List.foldl_cons, next, answered, made]
        simp [Step.invocation?]
      · rw [events, answered, List.map_cons, ran]
        rfl

end Script
end HostStorage
