import DocScript.Proofs.Step
import Mathlib.Data.List.Forall2

/-!
# Steps side by side

Two steps match if, from states that are like each other, both fail for the same reason, or both
end well with results that are related, in states that are like each other again.
-/

namespace DocScript.Step

variable {σ τ α β γ δ : Type} {S : σ → τ → Prop} {R : α → β → Prop} {Q : γ → δ → Prop}

inductive Ends (S : σ → τ → Prop) (R : α → β → Prop) :
    Except Failure α × σ → Except Failure β × τ → Prop
  | ok {a : α} {b : β} {s : σ} {t : τ} (related : R a b) (like : S s t) : Ends S R (.ok a, s) (.ok b, t)
  | error (e : Failure) (s : σ) (t : τ) : Ends S R (.error e, s) (.error e, t)

theorem Ends.cases {x : Except Failure α × σ} {y : Except Failure β × τ} (ends : Ends S R x y) :
    (∃ a b s t, x = (.ok a, s) ∧ y = (.ok b, t) ∧ R a b ∧ S s t) ∨
    ∃ e s t, x = (.error e, s) ∧ y = (.error e, t) := by
  cases ends with
  | ok related like => exact Or.inl ⟨_, _, _, _, rfl, rfl, related, like⟩
  | error e s t => exact Or.inr ⟨e, s, t, rfl, rfl⟩

def Matches (S : σ → τ → Prop) (R : α → β → Prop) (m : Step σ α) (m' : Step τ β) : Prop :=
  ∀ s t, S s t → Ends S R (m s) (m' t)

theorem matches_pure {a : α} {b : β} (related : R a b) : Matches S R (pure a) (pure b) :=
  fun _ _ like => .ok related like

theorem matches_fail (e : Failure) : Matches S R (fail e) (fail e) := fun s t _ => .error e s t

theorem matches_self (m : Step σ α) : Matches Eq Eq m m := by
  rintro s _ rfl
  obtain ⟨result, t, ran⟩ := exists_run m s
  rw [ran]
  cases result with
  | ok a => exact .ok rfl rfl
  | error e => exact .error e t t

theorem matches_read {f : σ → α} {g : τ → β} (related : ∀ s t, S s t → R (f s) (g t)) :
    Matches S R (read f) (read g) := fun s t like => .ok (related s t like) like

theorem matches_change {f : σ → σ} {g : τ → τ} (like : ∀ s t, S s t → S (f s) (g t)) :
    Matches S (fun _ _ => True) (change f) (change g) := fun s t before => .ok trivial (like s t before)

theorem Matches.bind {m : Step σ α} {m' : Step τ β} {f : α → Step σ γ} {g : β → Step τ δ}
    (first : Matches S R m m') (next : ∀ a b, R a b → Matches S Q (f a) (g b)) :
    Matches S Q (m >>= f) (m' >>= g) := by
  intro s t like
  rw [bind_eq, bind_eq]
  rcases (first s t like).cases with ⟨a, b, s', t', ran, ran', related, like'⟩ | ⟨e, s', t', ran, ran'⟩
  · rw [ran, ran']
    exact next a b related s' t' like'
  · rw [ran, ran']
    exact .error e s' t'

/-- Steps with the same result go on with it. -/
theorem Matches.bind_same {m : Step σ α} {m' : Step τ α} {f : α → Step σ γ} {g : α → Step τ δ}
    (first : Matches S Eq m m') (next : ∀ a, Matches S Q (f a) (g a)) :
    Matches S Q (m >>= f) (m' >>= g) := by
  refine first.bind fun a _ same => ?_
  subst same
  exact next a

theorem forall₂_append {as cs : List α} {bs ds : List β} (first : List.Forall₂ R as bs)
    (next : List.Forall₂ R cs ds) : List.Forall₂ R (as ++ cs) (bs ++ ds) :=
  List.rel_append first next

theorem forall₂_map_same {f : α → γ} {g : α → δ} {as : List α} (each : ∀ a ∈ as, Q (f a) (g a)) :
    List.Forall₂ Q (as.map f) (as.map g) := by
  rw [List.forall₂_map_left_iff, List.forall₂_map_right_iff]
  exact List.forall₂_same.mpr each

theorem matches_collect {f : α → Step σ (List γ)} {g : β → Step τ (List δ)} {as : List α}
    {bs : List β} (same : List.Forall₂ R as bs)
    (each : ∀ a b, R a b → Matches S (List.Forall₂ Q) (f a) (g b)) :
    Matches S (List.Forall₂ Q) (collect f as) (collect g bs) := by
  induction same with
  | nil => exact matches_pure .nil
  | cons first _ ih =>
    rw [collect_cons, collect_cons]
    refine (each _ _ first).bind fun _ _ here => ?_
    exact ih.bind fun _ _ there => matches_pure (forall₂_append here there)

/-- The same steps for the same things. -/
theorem matches_collect_same {f : α → Step σ (List γ)} {g : α → Step τ (List δ)} {as : List α}
    (each : ∀ a ∈ as, Matches S (List.Forall₂ Q) (f a) (g a)) :
    Matches S (List.Forall₂ Q) (collect f as) (collect g as) := by
  refine matches_collect (R := fun a b => a = b ∧ a ∈ as) ?_ ?_
  · exact List.forall₂_same.mpr fun a member => ⟨rfl, member⟩
  · rintro a _ ⟨rfl, member⟩
    exact each a member

end DocScript.Step
