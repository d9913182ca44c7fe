import DocScript.Failure

/-!
# Steps

A step works on a state and gives a result or fails. What it did to the state before it failed
stays done.
-/

namespace DocScript

def Step (σ α : Type) : Type := σ → Except Failure α × σ

namespace Step

variable {σ τ α β : Type}

/-- Goes on with the result of a step, unless it failed. -/
def andThen (m : Step σ α) (f : α → Step σ β) : Step σ β := fun s =>
  match m s with
  | (.ok a, s') => f a s'
  | (.error e, s') => (.error e, s')

instance : Monad (Step σ) where
  pure a := fun s => (.ok a, s)
  bind := andThen

def fail (e : Failure) : Step σ α := fun s => (.error e, s)

def read (f : σ → α) : Step σ α := fun s => (.ok (f s), s)

def change (f : σ → σ) : Step σ Unit := fun s => (.ok (), f s)

/-- A step that changes the state and has a result. -/
def act (f : σ → α × σ) : Step σ α := fun s =>
  let (a, s') := f s
  (.ok a, s')

/-- The results of a step for each of some things, one after the other. -/
def collect (f : α → Step σ (List β)) : List α → Step σ (List β)
  | [] => pure []
  | a :: rest => do
    let bs ← f a
    let more ← collect f rest
    return bs ++ more

end Step

end DocScript
