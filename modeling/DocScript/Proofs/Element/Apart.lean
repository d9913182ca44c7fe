import DocScript.Proofs.Element.Variables

/-!
# Variables that are live together

While an element is built its own variable and those of its values are live, and with them those of
its ancestors. The plan of an element never uses a live variable for anything else; whether the
same holds for the names depends on the names.
-/

namespace DocScript

namespace Plan

variable {β : Type}

mutual

/-- What is live together has different labels, where some other labels are live already. -/
def Distinct (f : Variable → β) : List β → Plan → Prop
  | live, bare c => (f c.holder :: live).Nodup
  | live, full vs c _ _ _ ps =>
    (f c.holder :: (vs.map fun v => f v.holder) ++ live).Nodup ∧ DistinctBelow f (f c.holder :: live) ps

/-- What is live together has different labels in each of some plans. -/
def DistinctBelow (f : Variable → β) : List β → List Plan → Prop
  | _, [] => True
  | live, p :: rest => Distinct f live p ∧ DistinctBelow f live rest

end

mutual

def holders : Plan → List Variable
  | bare c => [c.holder]
  | full vs c _ _ _ ps => c.holder :: vs.map (·.holder) ++ holdersBelow ps

def holdersBelow : List Plan → List Variable
  | [] => []
  | p :: rest => holders p ++ holdersBelow rest

end

theorem holder_mem_holders (p : Plan) : p.holder ∈ p.holders := by
  cases p with
  | bare c => exact List.mem_cons_self
  | full vs c ds simple enums ps =>
    rw [holders]
    exact List.mem_append_left _ List.mem_cons_self

section

variable [DecidableEq β]

mutual

/-- Whether labels are different can be computed. -/
def decideDistinct (f : Variable → β) : ∀ (live : List β) (p : Plan), Decidable (Distinct f live p)
  | _, bare _ => inferInstanceAs (Decidable (List.Nodup _))
  | live, full _ c _ _ _ ps =>
    have := decideDistinctBelow f (f c.holder :: live) ps
    inferInstanceAs (Decidable (List.Nodup _ ∧ _))

/-- Whether labels are different in each of some plans can be computed. -/
def decideDistinctBelow (f : Variable → β) :
    ∀ (live : List β) (ps : List Plan), Decidable (DistinctBelow f live ps)
  | _, [] => inferInstanceAs (Decidable True)
  | live, p :: rest =>
    have := decideDistinct f live p
    have := decideDistinctBelow f live rest
    inferInstanceAs (Decidable (_ ∧ _))

end

instance (f : Variable → β) (live : List β) (p : Plan) : Decidable (Distinct f live p) :=
  decideDistinct f live p

end

theorem nodup_map {α : Type} {f : α → β} {xs : List α} (nodup : xs.Nodup)
    (inj : ∀ x ∈ xs, ∀ y ∈ xs, f x = f y → x = y) : (xs.map f).Nodup := by
  rw [List.Nodup, List.pairwise_map]
  exact nodup.imp_of_mem fun hx hy different same => different (inj _ hx _ hy same)

section

variable {f : Variable → β}

theorem DistinctBelow.label {among : List Variable} {ps : List Plan} {live : List Variable}
    (each : ∀ p ∈ ps, p.Distinct id live → p.holders ⊆ among → p.Distinct f (live.map f))
    (distinct : DistinctBelow id live ps) (few : holdersBelow ps ⊆ among) :
    DistinctBelow f (live.map f) ps := by
  induction ps with
  | nil => trivial
  | cons p rest ih =>
    rw [DistinctBelow] at distinct ⊢
    rw [holdersBelow, List.append_subset] at few
    exact ⟨each p List.mem_cons_self distinct.1 few.1,
      ih (fun q member => each q (List.mem_cons_of_mem _ member)) distinct.2 few.2⟩

/-- Labels that tell the variables of a plan apart are as good as the variables. -/
theorem Distinct.label (among : List Variable) (inj : ∀ v ∈ among, ∀ x ∈ among, f v = f x → v = x) {p : Plan}
    {live : List Variable} (distinct : p.Distinct id live) (few : p.holders ⊆ among)
    (known : live ⊆ among) : p.Distinct f (live.map f) := by
  have nodup {xs : List Variable} (h : xs.Nodup) (sub : xs ⊆ among) : (xs.map f).Nodup :=
    nodup_map h fun x hx y hy => inj x (sub hx) y (sub hy)
  induction p using Plan.induction generalizing live with
  | step p ih =>
    cases p with
    | bare c =>
      rw [Distinct] at distinct ⊢
      exact nodup distinct (List.cons_subset.mpr ⟨few List.mem_cons_self, known⟩)
    | full vs c ds simple enums ps =>
      rw [Distinct] at distinct ⊢
      rw [holders, List.append_subset] at few
      have self : c.holder ∈ among := few.1 List.mem_cons_self
      have known' := List.cons_subset.mpr ⟨self, known⟩
      refine ⟨?_, ?_⟩
      · have labels := nodup distinct.1 (List.append_subset.mpr ⟨few.1, known⟩)
        simpa [Function.comp_def] using labels
      · exact DistinctBelow.label (fun p member h sub => ih p member h sub known') distinct.2 few.2

end

end Plan

namespace Compile

variable {ctx : Context} {typeName : TypeId → String} {stocks : Stocks} {live : List Variable}

/-- Some variables are live: they are in use, each counted once. -/
def Live (stocks : Stocks) (live : List Variable) : Prop :=
  live.Nodup ∧ ∀ x ∈ live, stocks.InUse x

theorem distinctBelow_plans {es : List Element} (sound : stocks.Sound ctx.settings.uniqueNames)
    (each : ∀ e ∈ es, ∀ stocks, stocks.Sound ctx.settings.uniqueNames → Live stocks live →
      ∀ p, (plan ctx typeName e stocks).1 = some p → p.Distinct id live)
    (used : Live stocks live) : Plan.DistinctBelow id live (plans ctx typeName es stocks).1 := by
  induction es generalizing stocks with
  | nil =>
    rw [plans]
    trivial
  | cons e rest ih =>
    obtain ⟨sound', kept⟩ := balanced_plan ctx typeName e stocks sound
    have others := ih sound' (fun c member => each c (List.mem_cons_of_mem _ member))
      ⟨used.1, fun x member => kept x (used.2 x member)⟩
    have first := each e List.mem_cons_self stocks sound used
    rw [plans_cons]
    dsimp only
    cases planned : (plan ctx typeName e stocks).1 with
    | none => exact others
    | some p => exact ⟨first p planned, others⟩

/-- The pools never hand out a live variable: the variables of a plan are told apart wherever two
of them are live together. -/
theorem distinct_plan (ctx : Context) (typeName : TypeId → String) (e : Element) :
    ∀ stocks live, stocks.Sound ctx.settings.uniqueNames → Live stocks live →
      ∀ p, (plan ctx typeName e stocks).1 = some p → p.Distinct id live := by
  induction e using Element.induction with
  | step e ih =>
    intro stocks live sound used p planned
    rcases plan_cases ctx typeName e stocks with ⟨_, eq⟩ | ⟨r, _, _, ⟨_, eq⟩ | ⟨_, eq⟩⟩
    · rw [eq] at planned
      cases planned
    · rw [eq] at planned
      obtain rfl := Option.some.inj planned
      rw [Plan.Distinct, List.nodup_cons]
      exact ⟨fun member => sound.inUse_take.2 (used.2 _ member), used.1⟩
    · rw [eq] at planned
      obtain rfl := Option.some.inj planned
      have self := holder_takeHead_inUse ctx.settings.uniqueNames e.type
        (madeExpr ctx typeName e r.spec) (ownedObjects ctx typeName e r) sound
      have fresh := holder_takeHead_fresh ctx.settings.uniqueNames e.type
        (madeExpr ctx typeName e r.spec) (ownedObjects ctx typeName e r) sound
      -- All that is live is in use while the children are planned, so no child is given any of it.
      have values := allInUse_takeAll sound (ownedObjects ctx typeName e r)
      have others := takeAll_fresh sound (ownedObjects ctx typeName e r)
      have outside : (takeHead ctx.settings.uniqueNames e.type (madeExpr ctx typeName e r.spec)
          (ownedObjects ctx typeName e r) stocks).1.2.holder ∉ live :=
        fun member => fresh (used.2 _ member)
      rw [Plan.Distinct]
      refine ⟨?_, ?_⟩
      · rw [List.cons_append, List.nodup_cons, List.nodup_append]
        refine ⟨?_, values.1, used.1, ?_⟩
        · rw [List.mem_append, not_or]
          refine ⟨fun member => ?_, outside⟩
          obtain ⟨v, member, same⟩ := List.mem_map.mp member
          exact self.2 v member same.symm
        · rintro x member y live' rfl
          obtain ⟨v, taken, rfl⟩ := List.mem_map.mp member
          exact others v taken (used.2 _ live')
      · refine distinctBelow_plans (sound_takeHead _ _ _ _ sound)
          (fun c member stocks sound live => ih c member stocks _ sound live) ⟨?_, ?_⟩
        · exact List.nodup_cons.mpr ⟨outside, used.1⟩
        · intro x member
          rcases List.mem_cons.mp member with rfl | member
          · exact self.1
          · exact inUse_takeHead _ _ _ _ sound (used.2 x member)

end Compile

end DocScript
