import DocScript.Compile.Step

/-!
# Taking steps apart

A step that ended well is taken apart into the steps it was made of, and so is one that failed. What
each of them preserves all of them preserve.
-/

namespace DocScript

theorem except_bind_ok {ε α β : Type} {x : Except ε α} {f : α → Except ε β} {b : β}
    (h : (x >>= f) = .ok b) : ∃ a, x = .ok a ∧ f a = .ok b := by
  cases x with
  | error e => cases h
  | ok a => exact ⟨a, rfl, h⟩

theorem except_map_ok {ε α β : Type} {x : Except ε α} {f : α → β} {b : β}
    (h : x.map f = .ok b) : ∃ a, x = .ok a ∧ f a = b := by
  cases x with
  | error e => cases h
  | ok a => exact ⟨a, rfl, Except.ok.inj h⟩

namespace Step

variable {σ α β : Type}

theorem pure_ok {a b : α} {s t : σ} (h : (pure a : Step σ α) s = (.ok b, t)) : b = a ∧ t = s := by
  obtain ⟨value, state⟩ := Prod.mk.inj h
  exact ⟨(Except.ok.inj value).symm, state.symm⟩

theorem pure_not_error {a : α} {s t : σ} {e : Failure} (h : (pure a : Step σ α) s = (.error e, t)) :
    False := by
  cases (Prod.mk.inj h).1

theorem fail_ok {a : α} {s t : σ} {e : Failure} (h : (fail e : Step σ α) s = (.ok a, t)) : False := by
  cases (Prod.mk.inj h).1

theorem fail_error {s t : σ} {e f : Failure} (h : (fail e : Step σ α) s = (.error f, t)) :
    f = e ∧ t = s := by
  obtain ⟨value, state⟩ := Prod.mk.inj h
  exact ⟨(Except.error.inj value).symm, state.symm⟩

theorem bind_eq (m : Step σ α) (f : α → Step σ β) (s : σ) :
    (m >>= f) s = match m s with
      | (.ok a, t) => f a t
      | (.error e, t) => (.error e, t) := rfl

/-- Two steps that do the same from a state, followed by steps that do the same from there. -/
theorem bind_congr {m m' : Step σ α} {f f' : α → Step σ β} {s : σ} (first : m s = m' s)
    (next : ∀ a t, m' s = (.ok a, t) → f a t = f' a t) : (m >>= f) s = (m' >>= f') s := by
  rw [bind_eq, bind_eq, first]
  split
  · next a t ran => exact next a t ran
  · rfl

theorem exists_run (m : Step σ α) (s : σ) : ∃ result t, m s = (result, t) := ⟨_, _, rfl⟩

theorem exists_ok {m : Step σ α} {s : σ} (ends : (m s).1.toBool = true) :
    ∃ a t, m s = (.ok a, t) := by
  obtain ⟨result, t, ran⟩ := exists_run m s
  rw [ran] at ends
  cases result with
  | error e => cases ends
  | ok a => exact ⟨a, t, ran⟩

theorem pure_then (a : α) (f : α → Step σ β) : (pure a : Step σ α) >>= f = f a := rfl

theorem bind_ok {m : Step σ α} {f : α → Step σ β} {s u : σ} {b : β}
    (h : (m >>= f) s = (.ok b, u)) : ∃ a t, m s = (.ok a, t) ∧ f a t = (.ok b, u) := by
  rw [bind_eq] at h
  split at h
  · next a t first => exact ⟨a, t, first, h⟩
  · cases (Prod.mk.inj h).1

theorem bind_error {m : Step σ α} {f : α → Step σ β} {s u : σ} {e : Failure}
    (h : (m >>= f) s = (.error e, u)) :
    m s = (.error e, u) ∨ ∃ a t, m s = (.ok a, t) ∧ f a t = (.error e, u) := by
  rw [bind_eq] at h
  split at h
  · next a t first => exact Or.inr ⟨a, t, first, h⟩
  · next failure t first =>
    obtain ⟨value, rfl⟩ := Prod.mk.inj h
    obtain rfl := Except.error.inj value
    exact Or.inl first

theorem collect_cons (f : α → Step σ (List β)) (a : α) (rest : List α) :
    collect f (a :: rest) = do
      let bs ← f a
      let more ← collect f rest
      return bs ++ more := rfl

theorem collect_cons_ok {f : α → Step σ (List β)} {a : α} {rest : List α} {s u : σ} {cs : List β}
    (h : collect f (a :: rest) s = (.ok cs, u)) :
    ∃ bs t more, f a s = (.ok bs, t) ∧ collect f rest t = (.ok more, u) ∧ cs = bs ++ more := by
  rw [collect_cons] at h
  obtain ⟨bs, t, first, h⟩ := bind_ok h
  obtain ⟨more, v, others, h⟩ := bind_ok h
  obtain ⟨rfl, rfl⟩ := pure_ok h
  exact ⟨bs, t, more, first, others, rfl⟩

theorem collect_cons_error {f : α → Step σ (List β)} {a : α} {rest : List α} {s u : σ} {e : Failure}
    (h : collect f (a :: rest) s = (.error e, u)) :
    f a s = (.error e, u) ∨ ∃ bs t, f a s = (.ok bs, t) ∧ collect f rest t = (.error e, u) := by
  rw [collect_cons] at h
  rcases bind_error h with first | ⟨bs, t, first, h⟩
  · exact Or.inl first
  · rcases bind_error h with others | ⟨more, v, _, h⟩
    · exact Or.inr ⟨bs, t, first, others⟩
    · exact (pure_not_error h).elim

theorem collect_singleton {f : α → Step σ (List β)} {a : α} {s t : σ} {bs : List β}
    (h : f a s = (.ok bs, t)) : collect f [a] s = (.ok bs, t) := by
  rw [collect_cons, bind_eq, h]
  show (Except.ok (bs ++ []), t) = _
  rw [List.append_nil]

/-- What each step of several does to the state and what holds of its results hold of all of them
together. -/
theorem collect_ok {f : α → Step σ (List β)} {as : List α} {R : σ → σ → Prop} {P : β → Prop}
    (refl : ∀ s, R s s) (trans : ∀ {s t u}, R s t → R t u → R s u)
    (each : ∀ a ∈ as, ∀ {s t bs}, f a s = (.ok bs, t) → R s t ∧ ∀ b ∈ bs, P b) {s t : σ}
    {bs : List β} (h : collect f as s = (.ok bs, t)) : R s t ∧ ∀ b ∈ bs, P b := by
  induction as generalizing s bs with
  | nil =>
    obtain ⟨rfl, rfl⟩ := pure_ok h
    exact ⟨refl _, nofun⟩
  | cons a rest ih =>
    obtain ⟨cs, u, more, first, others, rfl⟩ := collect_cons_ok h
    obtain ⟨step, holds⟩ := each a List.mem_cons_self first
    obtain ⟨steps, hold⟩ := ih (fun b member => each b (List.mem_cons_of_mem _ member)) others
    refine ⟨trans step steps, fun b member => ?_⟩
    rcases List.mem_append.mp member with early | late
    · exact holds b early
    · exact hold b late

theorem collect_ran {f : α → Step σ (List β)} {as : List α} {s t : σ} {bs : List β}
    (h : collect f as s = (.ok bs, t)) : ∀ a ∈ as, ∃ u cs v, f a u = (.ok cs, v) := by
  induction as generalizing s bs with
  | nil => exact nofun
  | cons a rest ih =>
    obtain ⟨cs, u, more, first, others, _⟩ := collect_cons_ok h
    intro b member
    rcases List.mem_cons.mp member with rfl | later
    · exact ⟨s, cs, u, first⟩
    · exact ih others b later

theorem collect_error {f : α → Step σ (List β)} {as : List α} {s t : σ} {e : Failure}
    (h : collect f as s = (.error e, t)) : ∃ a ∈ as, ∃ u v, f a u = (.error e, v) := by
  induction as generalizing s with
  | nil => exact (pure_not_error h).elim
  | cons a rest ih =>
    rcases collect_cons_error h with first | ⟨bs, u, _, others⟩
    · exact ⟨a, List.mem_cons_self, s, t, first⟩
    · obtain ⟨b, member, failed⟩ := ih others
      exact ⟨b, List.mem_cons_of_mem _ member, failed⟩

/-! ### What steps preserve -/

variable {P : σ → Prop}

/-- Whatever comes of a step, what holds before it holds after it. -/
def Preserves (P : σ → Prop) (m : Step σ α) : Prop := ∀ s, P s → P (m s).2

theorem Preserves.ran {m : Step σ α} {result : Except Failure α} {s t : σ} (h : Preserves P m)
    (ran : m s = (result, t)) (holds : P s) : P t := by
  have after := h s holds
  rw [ran] at after
  exact after

theorem preserves_pure (a : α) : Preserves P (pure a : Step σ α) := fun _ holds => holds

theorem preserves_fail (e : Failure) : Preserves P (fail e : Step σ α) := fun _ holds => holds

theorem preserves_read (f : σ → α) : Preserves P (read f) := fun _ holds => holds

theorem Preserves.bind {m : Step σ α} {f : α → Step σ β} (first : Preserves P m)
    (next : ∀ a, Preserves P (f a)) : Preserves P (m >>= f) := by
  intro s holds
  rw [bind_eq]
  split
  · next a t ran => exact next a t (first.ran ran holds)
  · next e t ran => exact first.ran ran holds

theorem preserves_collect {f : α → Step σ (List β)} {as : List α}
    (each : ∀ a ∈ as, Preserves P (f a)) : Preserves P (collect f as) := by
  induction as with
  | nil => exact preserves_pure []
  | cons a rest ih =>
    have others := ih fun b member => each b (List.mem_cons_of_mem a member)
    rw [collect_cons]
    exact (each a List.mem_cons_self).bind fun _ => others.bind fun _ => preserves_pure _

end Step

end DocScript
