import ContentService.Proofs.Program

/-! # Transcripts

What a program has asked and been answered, in order. Whoever answers, and whatever it answers, the
program runs through a transcript of it. The transcript of two programs in sequence is that of the
one and then that of the other, unless the one fails.
-/

namespace ContentService

universe u v

/-- A request and what it was answered. -/
structure Exchange (Request : Type → Type u) (Fault : Type) where
  {Answer : Type}
  request : Request Answer
  reply : Except Fault Answer

/-- The request was not refused. -/
def Exchange.Succeeded {Request : Type → Type u} {Fault : Type}
    (exchange : Exchange Request Fault) : Prop :=
  ∃ answer, exchange.reply = .ok answer

namespace Program

variable {Request : Type → Type u} {Fault α : Type}

/-- A program that is answered as the transcript tells ends with the value. -/
inductive Runs : Program Request Fault α → List (Exchange Request Fault) → α → Prop
  | done (value : α) : Runs (.done value) [] value
  | ask {β : Type} {request : Request β} {next : Except Fault β → Program Request Fault α}
      {value : α} {said : List (Exchange Request Fault)} (reply : Except Fault β)
      (rest : Runs (next reply) said value) :
      Runs (.ask request next) (⟨request, reply⟩ :: said) value

section Record

variable {σ : Type v}
  (answer : {β : Type} → List (Exchange Request Fault) → Request β → σ → Except Fault β × σ)

/-- A run that is recorded: the value that the program ends with, the state, and the transcript.
What a request is answered may depend on all that was said before. -/
def record (program : Program Request Fault α) (s : σ) : α × σ × List (Exchange Request Fault) :=
  program.run
    (fun request (s, said) =>
      let (reply, s) := answer said request s
      (reply, s, said ++ [⟨request, reply⟩]))
    (s, [])

variable {answer} in
/-- Related states that give the same answers pass through the same transcript. -/
theorem record_of_related {τ : Type v}
    {other : {β : Type} → List (Exchange Request Fault) → Request β → τ → Except Fault β × τ}
    (related : σ → τ → Prop)
    (follows : ∀ {β : Type} (said : List (Exchange Request Fault)) (request : Request β) {s : σ}
      {t : τ}, related s t → (answer said request s).1 = (other said request t).1 ∧
        related (answer said request s).2 (other said request t).2)
    (program : Program Request Fault α) {s : σ} {t : τ} (begins : related s t) :
    (program.record answer s).1 = (program.record other t).1 ∧
      related (program.record answer s).2.1 (program.record other t).2.1 ∧
      (program.record answer s).2.2 = (program.record other t).2.2 := by
  unfold record
  let together (p : σ × List (Exchange Request Fault)) (q : τ × List (Exchange Request Fault)) :=
    related p.1 q.1 ∧ p.2 = q.2
  have start : together (s, []) (t, []) := ⟨begins, rfl⟩
  refine Program.run_of_related together ?_ (.of_all (fun _ => trivial) program) start
  rintro β request - ⟨s, said⟩ ⟨t, -⟩ ⟨here, rfl⟩
  obtain ⟨reply, onwards⟩ := follows said request here
  have spoken := congrArg (fun reply => said ++ [⟨request, reply⟩]) reply
  exact ⟨reply, onwards, spoken⟩

/-- After what was said before, the exchanges lead from the one state to the other. -/
inductive Passes : List (Exchange Request Fault) → σ → List (Exchange Request Fault) → σ → Prop
  | nil (before : List (Exchange Request Fault)) (s : σ) : Passes before s [] s
  | cons {β : Type} {before said : List (Exchange Request Fault)} {request : Request β}
      {s after : σ}
      (rest : Passes (before ++ [⟨request, (answer before request s).1⟩])
        (answer before request s).2 said after) :
      Passes before s (⟨request, (answer before request s).1⟩ :: said) after

variable {answer} in
theorem Passes.of_cons {β : Type} {before said : List (Exchange Request Fault)}
    {request : Request β} {reply : Except Fault β} {s after : σ}
    (passes : Passes answer before s (⟨request, reply⟩ :: said) after) :
    (answer before request s).1 = reply ∧
      Passes answer (before ++ [⟨request, reply⟩]) (answer before request s).2 said after := by
  cases passes with
  | cons rest => exact ⟨rfl, rest⟩

variable {answer} in
theorem Passes.of_append {before first rest : List (Exchange Request Fault)} {s after : σ}
    (passes : Passes answer before s (first ++ rest) after) :
    ∃ middle, Passes answer before s first middle ∧
      Passes answer (before ++ first) middle rest after := by
  induction first generalizing before s with
  | nil => exact ⟨s, .nil before s, (List.append_nil before).symm ▸ passes⟩
  | cons exchange first ih =>
      cases passes with
      | cons onwards =>
          obtain ⟨middle, early, late⟩ := ih onwards
          rw [List.append_assoc] at late
          exact ⟨middle, .cons early, late⟩

/-- The program runs through what is recorded, and the state passes through it. -/
theorem record_passes (program : Program Request Fault α) (s : σ) :
    program.Runs (program.record answer s).2.2 (program.record answer s).1 ∧
      Passes answer [] s (program.record answer s).2.2 (program.record answer s).2.1 := by
  let listener : {β : Type} → Request β → σ × List (Exchange Request Fault) →
      Except Fault β × σ × List (Exchange Request Fault) := fun request (s, said) =>
    let (reply, s) := answer said request s
    (reply, s, said ++ [⟨request, reply⟩])
  have continues (program : Program Request Fault α) (s : σ)
      (before : List (Exchange Request Fault)) :
      ∃ said, (program.run listener (s, before)).2.2 = before ++ said ∧
        program.Runs said (program.run listener (s, before)).1 ∧
        Passes answer before s said (program.run listener (s, before)).2.1 := by
    induction program generalizing s before with
    | done value => exact ⟨[], (List.append_nil _).symm, .done value, .nil before s⟩
    | ask request next ih =>
        let answered := answer before request s
        obtain ⟨said, reached, runs, passes⟩ :=
          ih answered.1 answered.2 (before ++ [⟨request, answered.1⟩])
        exact ⟨_ :: said, reached.trans (List.append_assoc ..), .ask _ runs, .cons passes⟩
  obtain ⟨said, reached, runs, passes⟩ := continues program s []
  have whole : (program.record answer s).2.2 = said := reached.trans (List.nil_append said)
  rw [whole]
  exact ⟨runs, passes⟩

end Record

/-- A program in conversation with whatever answers it: the value that the program ends with, and
the transcript. -/
def converse (answers : {β : Type} → List (Exchange Request Fault) → Request β → Except Fault β)
    (program : Program Request Fault α) : α × List (Exchange Request Fault) :=
  let (value, _, said) := program.record (fun said request (_ : Unit) => (answers said request, ()))
    ()
  (value, said)

theorem runs_converse
    (answers : {β : Type} → List (Exchange Request Fault) → Request β → Except Fault β)
    (program : Program Request Fault α) :
    program.Runs (program.converse answers).2 (program.converse answers).1 :=
  (program.record_passes (fun said request (_ : Unit) => (answers said request, ())) ()).1

/-- A transcript shows only what the program may ask for. -/
theorem Asks.of_runs {allowed : {β : Type} → Request β → Prop} {program : Program Request Fault α}
    (asks : program.Asks allowed) {said : List (Exchange Request Fault)} {value : α}
    (runs : program.Runs said value) : ∀ e ∈ said, allowed e.request := by
  induction runs with
  | done value => exact fun e absent => nomatch absent
  | ask reply rest ih =>
      intro e member
      rcases List.mem_cons.mp member with rfl | later
      · exact asks.1
      · exact ih (asks.2 reply) e later

variable {β : Type}

theorem Runs.of_done {said : List (Exchange Request Fault)} {a value : α}
    (runs : (Program.done a : Program Request Fault α).Runs said value) :
    said = [] ∧ value = a := by
  cases runs
  exact ⟨rfl, rfl⟩

theorem Runs.of_ask {request : Request β} {next : Except Fault β → Program Request Fault α}
    {said : List (Exchange Request Fault)} {value : α}
    (runs : (Program.ask request next).Runs said value) :
    ∃ reply rest, said = ⟨request, reply⟩ :: rest ∧ (next reply).Runs rest value := by
  cases runs with
  | ask reply rest => exact ⟨reply, _, rfl, rest⟩

theorem Runs.of_bind {program : Program Request Fault α} {next : α → Program Request Fault β}
    {said : List (Exchange Request Fault)} {value : β}
    (runs : (program.bind next).Runs said value) :
    ∃ a first rest, said = first ++ rest ∧ program.Runs first a ∧ (next a).Runs rest value := by
  induction program generalizing said with
  | done a => exact ⟨a, [], said, rfl, .done a, runs⟩
  | ask request onward ih =>
      obtain ⟨reply, later, rfl, onwards⟩ := runs.of_ask
      obtain ⟨a, first, rest, rfl, early, late⟩ := ih reply onwards
      exact ⟨a, _ :: first, rest, rfl, .ask reply early, late⟩

end Program

/-! ## Programs that may fail -/

namespace Program.Runs

variable {Request : Type → Type u} {Fault ε α β : Type} {said : List (Exchange Request Fault)}

/-- A sequence ends with a failure of its first part, or goes on from the result of that. -/
theorem of_exceptBind {first : ExceptT ε (Program Request Fault) α}
    {next : α → ExceptT ε (Program Request Fault) β} {result : Except ε β}
    (runs : Program.Runs (first >>= next : ExceptT ε (Program Request Fault) β) said result) :
    (∃ failure, Program.Runs first said (.error failure) ∧ result = .error failure) ∨
      ∃ a early late, said = early ++ late ∧ Program.Runs first early (.ok a) ∧
        Program.Runs (next a) late result := by
  obtain ⟨outcome, early, late, rfl, head, tail⟩ := Program.Runs.of_bind runs
  cases outcome with
  | error failure =>
      cases tail
      rw [List.append_nil]
      exact .inl ⟨failure, head, rfl⟩
  | ok a => exact .inr ⟨a, early, late, rfl, head, tail⟩

/-- A sequence that succeeds consists of two parts that do. -/
theorem of_exceptBind_ok {first : ExceptT ε (Program Request Fault) α}
    {next : α → ExceptT ε (Program Request Fault) β} {b : β}
    (runs : Program.Runs (first >>= next : ExceptT ε (Program Request Fault) β) said (.ok b)) :
    ∃ a early late, said = early ++ late ∧ Program.Runs first early (.ok a) ∧
      Program.Runs (next a) late (.ok b) := by
  rcases of_exceptBind runs with ⟨failure, -, same⟩ | both
  · cases same
  · exact both

theorem of_pure {a : α} {result : Except ε α}
    (runs : Program.Runs (pure a : ExceptT ε (Program Request Fault) α) said result) :
    said = [] ∧ result = .ok a := by
  cases runs
  exact ⟨rfl, rfl⟩

theorem of_throw {failure : ε} {result : Except ε α}
    (runs : Program.Runs (throw failure : ExceptT ε (Program Request Fault) α) said result) :
    said = [] ∧ result = .error failure := by
  cases runs
  exact ⟨rfl, rfl⟩

theorem of_ofExcept {outcome result : Except ε α}
    (runs : Program.Runs (ofExcept outcome : ExceptT ε (Program Request Fault) α) said result) :
    said = [] ∧ result = outcome := by
  cases outcome with
  | error failure => exact of_throw runs
  | ok a => exact of_pure runs

/-- One request that need not succeed. -/
theorem of_attempt {request : Request α} {result : Except Fault α}
    (runs : (Program.attempt request).Runs said result) : said = [⟨request, result⟩] := by
  obtain ⟨reply, rest, rfl, ended⟩ := runs.of_ask
  cases ended
  rfl

end Program.Runs

end ContentService
