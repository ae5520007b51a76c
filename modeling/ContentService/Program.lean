/-!
# Programs of requests

A call of the service is a program: it makes one request at a time to its surroundings, each of
which is answered or fails, and goes on from the answer. What a request does is left to whoever runs
the program, so that the same program can be run alone, step by step among others, or with failing
surroundings.
-/

namespace ContentService

universe u v

/-- A course of requests that ends with a value. A request is of the type of its answers. -/
inductive Program (Request : Type → Type u) (Fault : Type) (α : Type) : Type (max 1 u)
  | done (value : α)
  | ask {β : Type} (request : Request β) (next : Except Fault β → Program Request Fault α)

namespace Program

variable {Request : Type → Type u} {Fault α β : Type} {σ : Type v}

/-- One program after another. -/
def bind : Program Request Fault α → (α → Program Request Fault β) → Program Request Fault β
  | .done value, f => f value
  | .ask request next, f => .ask request fun answer => (next answer).bind f

instance : Monad (Program Request Fault) where
  pure := .done
  bind := bind

/-- Makes one request and ends with its answer or fault. -/
def attempt (request : Request β) : Program Request Fault (Except Fault β) :=
  .ask request .done

/-- Runs a program to its end on a state, given what requests answer and do to the state. -/
def run (answer : {β : Type} → Request β → σ → Except Fault β × σ) :
    Program Request Fault α → σ → α × σ
  | .done value, s => (value, s)
  | .ask request next, s =>
    let (reply, s) := answer request s
    (next reply).run answer s

end Program

end ContentService
