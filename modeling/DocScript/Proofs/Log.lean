import DocScript.Proofs.Step

/-!
# Steps that keep a log

A logged step also tells what happened while it ran, in order. Without its log it is an ordinary
step, and a relation between the states before and after and the log is carried from one step to
the next.
-/

namespace DocScript

/-- A step with what happened while it ran. -/
def Logged (ε σ α : Type) : Type := σ → (Except Failure α × σ) × List ε

namespace Logged

variable {ε σ α β : Type}

def run (m : Logged ε σ α) : Step σ α := fun s => (m s).1

def log (m : Logged ε σ α) (s : σ) : List ε := (m s).2

def andThen (m : Logged ε σ α) (f : α → Logged ε σ β) : Logged ε σ β := fun s =>
  match m s with
  | ((.ok a, t), log) => ((f a t).1, log ++ (f a t).2)
  | ((.error e, t), log) => ((.error e, t), log)

instance : Monad (Logged ε σ) where
  pure a := fun s => ((.ok a, s), [])
  bind := andThen

/-- A step of which nothing is told. -/
def quiet (m : Step σ α) : Logged ε σ α := fun s => (m s, [])

def note (event : ε) : Logged ε σ Unit := fun s => ((.ok (), s), [event])

def collect (f : α → Logged ε σ (List β)) : List α → Logged ε σ (List β)
  | [] => pure []
  | a :: rest => do
    let bs ← f a
    let more ← collect f rest
    return bs ++ more

/-! ### Without the log -/

@[simp] theorem run_pure (a : α) : (pure a : Logged ε σ α).run = pure a := rfl

@[simp] theorem run_quiet (m : Step σ α) : (quiet m : Logged ε σ α).run = m := rfl

@[simp] theorem run_note (event : ε) : (note event : Logged ε σ Unit).run = pure () := rfl

@[simp] theorem run_bind (m : Logged ε σ α) (f : α → Logged ε σ β) :
    (m >>= f).run = m.run >>= fun a => (f a).run := by
  funext s
  show (andThen m f s).1 = Step.andThen m.run (fun a => (f a).run) s
  unfold andThen Step.andThen run
  rcases m s with ⟨⟨a | e, t⟩, log⟩ <;> rfl

theorem run_collect (f : α → Logged ε σ (List β)) (as : List α) :
    (collect f as).run = Step.collect (fun a => (f a).run) as := by
  induction as with
  | nil => rfl
  | cons a rest ih => simp only [collect, Step.collect, run_bind, run_pure, ih]

/-! ### The log of a step and the next -/

theorem log_bind_ok {m : Logged ε σ α} {f : α → Logged ε σ β} {s t : σ} {a : α}
    (ran : m.run s = (.ok a, t)) : (m >>= f).log s = m.log s ++ (f a).log t := by
  show (andThen m f s).2 = _
  unfold run at ran
  unfold andThen log
  rcases whole : m s with ⟨⟨result, t'⟩, events⟩
  rw [whole] at ran
  obtain ⟨rfl, rfl⟩ := Prod.mk.inj ran
  rfl

theorem log_bind_error {m : Logged ε σ α} {f : α → Logged ε σ β} {s t : σ} {e : Failure}
    (ran : m.run s = (.error e, t)) : (m >>= f).log s = m.log s := by
  show (andThen m f s).2 = _
  unfold run at ran
  unfold andThen log
  rcases whole : m s with ⟨⟨result, t'⟩, events⟩
  rw [whole] at ran
  obtain ⟨rfl, rfl⟩ := Prod.mk.inj ran
  rfl

theorem bind_ok {m : Logged ε σ α} {f : α → Logged ε σ β} {s u : σ} {b : β}
    (ran : (m >>= f).run s = (.ok b, u)) :
    ∃ a t, m.run s = (.ok a, t) ∧ (f a).run t = (.ok b, u) ∧
      (m >>= f).log s = m.log s ++ (f a).log t := by
  rw [run_bind] at ran
  obtain ⟨a, t, first, next⟩ := Step.bind_ok ran
  exact ⟨a, t, first, next, log_bind_ok first⟩

@[simp] theorem log_pure (a : α) (s : σ) : (pure a : Logged ε σ α).log s = [] := rfl

/-- A step of which nothing is told leaves the log to the next one. -/
theorem quiet_bind_ok {m : Step σ α} {f : α → Logged ε σ β} {s u : σ} {b : β}
    (ran : (quiet m >>= f).run s = (.ok b, u)) :
    ∃ a t, m s = (.ok a, t) ∧ (f a).run t = (.ok b, u) ∧ (quiet m >>= f).log s = (f a).log t :=
  bind_ok ran

/-! ### What relates a log to the states around it -/

variable {R : σ → List ε → σ → Prop}

/-- The relation holds of the run of a step from a state. -/
def Obeys (R : σ → List ε → σ → Prop) (m : Logged ε σ α) (s : σ) : Prop :=
  R s (m.log s) (m.run s).2

theorem Obeys.bind {m : Logged ε σ α} {f : α → Logged ε σ β} {s : σ}
    (trans : ∀ {s t u log more}, R s log t → R t more u → R s (log ++ more) u)
    (first : Obeys R m s) (next : ∀ a t, m.run s = (.ok a, t) → Obeys R (f a) t) :
    Obeys R (m >>= f) s := by
  unfold Obeys at *
  obtain ⟨result, t, ran⟩ := Step.exists_run m.run s
  rw [run_bind, Step.bind_eq, ran]
  rw [ran] at first
  cases result with
  | error e =>
    rw [log_bind_error ran]
    exact first
  | ok a =>
    rw [log_bind_ok ran]
    exact trans first (next a t ran)

theorem obeys_collect {f : α → Logged ε σ (List β)} {as : List α}
    (refl : ∀ s, R s [] s)
    (trans : ∀ {s t u log more}, R s log t → R t more u → R s (log ++ more) u)
    (each : ∀ a ∈ as, ∀ s, Obeys R (f a) s) (s : σ) : Obeys R (collect f as) s := by
  induction as generalizing s with
  | nil => exact refl s
  | cons a rest ih =>
    have others := ih fun b member => each b (List.mem_cons_of_mem a member)
    refine Obeys.bind trans (each a List.mem_cons_self s) fun _ t _ => ?_
    exact Obeys.bind trans (others t) fun _ u _ => refl u

end Logged

end DocScript
