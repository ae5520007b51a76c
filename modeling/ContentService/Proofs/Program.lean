import ContentService.Action

/-! # Programs in sequence

A program that consists of two is run by running the one and then, from where it has led, the other.
What a program may ask for, whatever it is answered, is what its parts may ask for.
-/

namespace ContentService

namespace Program

universe u v

variable {Request : Type → Type u} {Fault α β : Type} {σ : Type v}

theorem run_bind (answer : {γ : Type} → Request γ → σ → Except Fault γ × σ)
    (program : Program Request Fault α) (next : α → Program Request Fault β) (s : σ) :
    (program.bind next).run answer s =
      (next (program.run answer s).1).run answer (program.run answer s).2 := by
  induction program generalizing s with
  | done value => rfl
  | ask request rest ih => exact ih (answer request s).1 (answer request s).2

/-- A program that may fail, and what follows it if it does not. -/
theorem run_exceptBind {ε : Type} (answer : {γ : Type} → Request γ → σ → Except Fault γ × σ)
    (first : ExceptT ε (Program Request Fault) α)
    (next : α → ExceptT ε (Program Request Fault) β) (s : σ) :
    Program.run answer (first >>= next : ExceptT ε (Program Request Fault) β) s =
      match Program.run answer first s with
      | (.ok a, s) => Program.run answer (next a) s
      | (.error failure, s) => (.error failure, s) := by
  refine Eq.trans (run_bind answer first (ExceptT.bindCont next) s) ?_
  obtain ⟨result, after⟩ := Program.run answer first s
  cases result <;> rfl

/-- Whatever it is answered, a program asks only for what is allowed. -/
def Asks (allowed : {γ : Type} → Request γ → Prop) : Program Request Fault α → Prop
  | .done _ => True
  | .ask request next => allowed request ∧ ∀ reply, (next reply).Asks allowed

/-- Requests that a program may make give the same answers in related states and lead to related
states. -/
theorem run_of_related {τ : Type v} {allowed : {γ : Type} → Request γ → Prop}
    (related : σ → τ → Prop) {answer : {γ : Type} → Request γ → σ → Except Fault γ × σ}
    {other : {γ : Type} → Request γ → τ → Except Fault γ × τ}
    (follows : ∀ {γ : Type} (request : Request γ), allowed request → ∀ {s : σ} {t : τ},
      related s t → (answer request s).1 = (other request t).1 ∧
        related (answer request s).2 (other request t).2)
    {program : Program Request Fault α} (asks : program.Asks allowed) {s : σ} {t : τ}
    (begins : related s t) :
    (program.run answer s).1 = (program.run other t).1 ∧
      related (program.run answer s).2 (program.run other t).2 := by
  induction program generalizing s t with
  | done value => exact ⟨rfl, begins⟩
  | ask request next ih =>
      obtain ⟨same, onwards⟩ := follows request asks.1 begins
      have rest := ih (answer request s).1 (asks.2 _) onwards
      rw [Program.run, Program.run]
      simp only [← same]
      exact rest

namespace Asks

variable {allowed : {γ : Type} → Request γ → Prop}

theorem of_all (all : ∀ {γ : Type} (request : Request γ), allowed request)
    (program : Program Request Fault α) : program.Asks allowed := by
  induction program with
  | done value => trivial
  | ask request next ih => exact ⟨all request, ih⟩

theorem imp {permitted : {γ : Type} → Request γ → Prop} {program : Program Request Fault α}
    (asks : program.Asks allowed)
    (follows : ∀ {γ : Type} (request : Request γ), allowed request → permitted request) :
    program.Asks permitted := by
  induction program with
  | done value => trivial
  | ask request next ih => exact ⟨follows request asks.1, fun reply => ih reply (asks.2 reply)⟩

theorem bind {program : Program Request Fault α} {next : α → Program Request Fault β}
    (first : program.Asks allowed) (rest : ∀ value, (next value).Asks allowed) :
    (program.bind next).Asks allowed := by
  induction program with
  | done value => exact rest value
  | ask request next ih => exact ⟨first.1, fun reply => ih reply (first.2 reply)⟩

/-- A run keeps what every request keeps that the program may make. -/
theorem run_keeps {answer : {γ : Type} → Request γ → σ → Except Fault γ × σ} {keeps : σ → Prop}
    (request_keeps : ∀ {γ : Type} (request : Request γ), allowed request → ∀ {s : σ}, keeps s →
      keeps (answer request s).2)
    {program : Program Request Fault α} (asks : program.Asks allowed) {s : σ} (begins : keeps s) :
    keeps (program.run answer s).2 := by
  induction program generalizing s with
  | done value => exact begins
  | ask request next ih => exact ih _ (asks.2 _) (request_keeps request asks.1 begins)

/-- Programs that may fail, in sequence. -/
theorem exceptBind {ε : Type} {first : ExceptT ε (Program Request Fault) α}
    {next : α → ExceptT ε (Program Request Fault) β} (asks : Program.Asks allowed first)
    (rest : ∀ a, Program.Asks allowed (next a)) :
    Program.Asks allowed (first >>= next : ExceptT ε (Program Request Fault) β) := by
  refine Asks.bind asks fun result => ?_
  cases result with
  | ok a => exact rest a
  | error failure => trivial

end Asks

end Program

namespace Call

variable {allowed : {γ : Type} → Action γ → Prop} {α β : Type}

/-- Whatever it is answered, a call asks only for what is allowed. -/
structure Asks (allowed : {γ : Type} → Action γ → Prop) (call : Call α) : Prop where
  program : Program.Asks allowed call

namespace Asks

theorem pure (value : α) : Asks allowed (pure value : Call α) := ⟨trivial⟩

theorem throwBind (failure : Failure) (next : α → Call β) :
    Asks allowed (throw failure >>= next : Call β) :=
  ⟨trivial⟩

theorem throw (failure : Failure) : Asks allowed (throw failure : Call α) := ⟨trivial⟩

/-- A call that fails at once, or goes on from a known value. -/
theorem ofExceptBind {result : Except Failure α} {next : α → Call β}
    (rest : ∀ value, result = .ok value → (next value).Asks allowed) :
    Asks allowed (ofExcept result >>= next) := by
  cases result with
  | error failure => exact ⟨trivial⟩
  | ok value => exact rest value rfl

theorem ofExcept (result : Except Failure α) : Asks allowed (ofExcept result : Call α) := by
  cases result <;> exact ⟨trivial⟩

theorem imp {permitted : {γ : Type} → Action γ → Prop} {call : Call α} (asks : call.Asks allowed)
    (follows : ∀ {γ : Type} (action : Action γ), allowed action → permitted action) :
    call.Asks permitted :=
  ⟨asks.program.imp follows⟩

theorem perform {action : Action α} (permitted : allowed action) :
    Asks allowed (perform action) :=
  ⟨permitted, fun _ => trivial⟩

theorem attempt {action : Action α} (permitted : allowed action) :
    Asks allowed (attempt action) :=
  ⟨permitted, fun _ => trivial⟩

theorem announce {stale : Collection} (permitted : allowed (.announce stale)) :
    Asks allowed (announce stale) :=
  ⟨permitted, fun _ => trivial⟩

theorem bind {call : Call α} {next : α → Call β} (first : call.Asks allowed)
    (rest : ∀ value, (next value).Asks allowed) : Asks allowed (call >>= next) :=
  ⟨first.program.exceptBind fun value => (rest value).program⟩

end Asks

section Run

universe v

variable {σ : Type v} (answer : {γ : Type} → Action γ → σ → Except Failure γ × σ)

/-- A call that begins with an action ends with the failure of that, or goes on from the answer. -/
theorem run_performBind (action : Action α) (next : α → Call β) (s : σ) :
    Program.run answer (perform action >>= next : Call β) s =
      match answer action s with
      | (.ok a, s) => Program.run answer (next a) s
      | (.error failure, s) => (.error failure, s) := by
  have asked : Program.run answer (perform action) s = answer action s := rfl
  rw [Program.run_exceptBind, asked]
  obtain ⟨reply, after⟩ := answer action s
  cases reply <;> rfl

end Run

end Call

end ContentService
