import DocScript.Proofs.Element.Plan

/-!
# Variables of plans

A plan takes variables that are not in use, for as long as their objects are needed: the values of
an element until it has been made, the element itself until its children have been appended. All
of them are given back, and no variable that was in use before is touched.
-/

namespace DocScript.Compile

variable {ctx : Context} {typeName : TypeId → String} {unique : Bool} {stocks : Stocks}
  {x : Variable}

/-- Some variables are in use, each counted once. -/
def AllInUse (stocks : Stocks) (vs : List Attachment) : Prop :=
  (vs.map (·.holder)).Nodup ∧ ∀ v ∈ vs, stocks.InUse v.holder

theorem takeAll_cons (o : Owned) (rest : List Owned) (stocks : Stocks) :
    takeAll unique (o :: rest) stocks =
      (⟨⟨(stocks.take unique o.type).1.1, (stocks.take unique o.type).1.2, o.made⟩, o.property, o.fields⟩
          :: (takeAll unique rest (stocks.take unique o.type).2).1,
        (takeAll unique rest (stocks.take unique o.type).2).2) := rfl

theorem sound_takeAll (sound : stocks.Sound unique) (os : List Owned) :
    (takeAll unique os stocks).2.Sound unique := by
  induction os generalizing stocks with
  | nil => exact sound
  | cons o rest ih => exact ih sound.take

theorem inUse_takeAll (used : stocks.InUse x) (os : List Owned) :
    (takeAll unique os stocks).2.InUse x := by
  induction os generalizing stocks with
  | nil => exact used
  | cons o rest ih => exact ih used.take

theorem takeAll_fresh (sound : stocks.Sound unique) (os : List Owned) :
    ∀ v ∈ (takeAll unique os stocks).1, ¬ stocks.InUse v.holder := by
  induction os generalizing stocks with
  | nil => simp [takeAll]
  | cons o rest ih =>
    intro v member used
    rw [takeAll_cons] at member
    rcases List.mem_cons.mp member with rfl | later
    · exact sound.inUse_take.2 used
    · exact ih sound.take v later used.take

/-- The taken variables are in use afterwards, each for one object. -/
theorem allInUse_takeAll (sound : stocks.Sound unique) (os : List Owned) :
    AllInUse (takeAll unique os stocks).2 (takeAll unique os stocks).1 := by
  induction os generalizing stocks with
  | nil => exact ⟨List.nodup_nil, by simp [takeAll]⟩
  | cons o rest ih =>
    obtain ⟨nodup, used⟩ := ih (sound.take : (stocks.take unique o.type).2.Sound unique)
    have first := sound.inUse_take (t := o.type)
    rw [takeAll_cons]
    refine ⟨?_, fun v member => ?_⟩
    · rw [List.map_cons, List.nodup_cons]
      refine ⟨fun again => ?_, nodup⟩
      obtain ⟨v, member, same⟩ := List.mem_map.mp again
      apply takeAll_fresh sound.take rest v member
      rw [same]
      exact first.1
    · rcases List.mem_cons.mp member with rfl | later
      · exact inUse_takeAll first.1 rest
      · exact used v later

theorem AllInUse.tail {v : Attachment} {vs : List Attachment} (h : AllInUse stocks (v :: vs)) :
    AllInUse (stocks.give unique v.holder) vs := by
  obtain ⟨nodup, used⟩ := h
  rw [List.map_cons, List.nodup_cons] at nodup
  refine ⟨nodup.2, fun w member => (used w (List.mem_cons_of_mem _ member)).give fun same => ?_⟩
  exact nodup.1 (List.mem_map.mpr ⟨w, member, same⟩)

theorem sound_giveAll {vs : List Attachment} (sound : stocks.Sound unique) (h : AllInUse stocks vs) :
    (giveAll unique vs stocks).Sound unique := by
  induction vs generalizing stocks with
  | nil => exact sound
  | cons v rest ih => exact ih (sound.give (h.2 v List.mem_cons_self)) h.tail

theorem inUse_giveAll {vs : List Attachment} (used : stocks.InUse x)
    (other : ∀ v ∈ vs, x ≠ v.holder) : (giveAll unique vs stocks).InUse x := by
  induction vs generalizing stocks with
  | nil => exact used
  | cons v rest ih =>
    exact ih (used.give (other v List.mem_cons_self))
      fun w member => other w (List.mem_cons_of_mem _ member)

section

variable (unique) (t : TypeId) (made : Expr) (os : List Owned)

theorem holder_takeHead_inUse (sound : stocks.Sound unique) :
    (takeHead unique t made os stocks).2.InUse (takeHead unique t made os stocks).1.2.holder ∧
      ∀ v ∈ (takeHead unique t made os stocks).1.1,
        (takeHead unique t made os stocks).1.2.holder ≠ v.holder := by
  have heldSound := sound_takeAll sound os
  have values := allInUse_takeAll sound os
  obtain ⟨self, fresh⟩ := heldSound.inUse_take (t := t)
  have apart : ∀ v ∈ (takeAll unique os stocks).1,
      ((takeAll unique os stocks).2.take unique t).1.1 ≠ v.holder := by
    intro v member same
    apply fresh
    rw [same]
    exact values.2 v member
  exact ⟨inUse_giveAll self apart, apart⟩

theorem sound_takeHead (sound : stocks.Sound unique) :
    (takeHead unique t made os stocks).2.Sound unique := by
  have values := allInUse_takeAll sound os
  exact sound_giveAll (sound_takeAll sound os).take
    ⟨values.1, fun v member => (values.2 v member).take⟩

theorem inUse_takeHead (sound : stocks.Sound unique) (used : stocks.InUse x) :
    (takeHead unique t made os stocks).2.InUse x := by
  refine inUse_giveAll (inUse_takeAll used os).take fun v member same => ?_
  rw [same] at used
  exact takeAll_fresh sound os v member used

theorem holder_takeHead_fresh (sound : stocks.Sound unique) :
    ¬ stocks.InUse (takeHead unique t made os stocks).1.2.holder :=
  fun used => (sound_takeAll sound os).inUse_take.2 (inUse_takeAll used os)

end

theorem plans_cons (e : Element) (rest : List Element) (stocks : Stocks) :
    plans ctx typeName (e :: rest) stocks =
      ((plan ctx typeName e stocks).1.toList ++ (plans ctx typeName rest (plan ctx typeName e stocks).2).1,
        (plans ctx typeName rest (plan ctx typeName e stocks).2).2) := by
  rw [plans]

/-- What a plan leaves: sound stocks, in which everything is in use that was before. -/
def Balanced (unique : Bool) (f : Stocks → Stocks) : Prop :=
  ∀ stocks, stocks.Sound unique → (f stocks).Sound unique ∧ ∀ x, stocks.InUse x → (f stocks).InUse x

theorem balanced_plans_of {es : List Element}
    (h : ∀ e ∈ es, Balanced ctx.settings.uniqueNames fun stocks => (plan ctx typeName e stocks).2) :
    Balanced ctx.settings.uniqueNames fun stocks => (plans ctx typeName es stocks).2 := by
  induction es with
  | nil =>
    intro stocks sound
    simp only [plans]
    exact ⟨sound, fun _ used => used⟩
  | cons e rest ih =>
    intro stocks sound
    obtain ⟨sound₁, used₁⟩ := h e List.mem_cons_self stocks sound
    obtain ⟨sound₂, used₂⟩ := ih (fun c member => h c (List.mem_cons_of_mem _ member)) _ sound₁
    simp only [plans_cons]
    exact ⟨sound₂, fun x used => used₂ x (used₁ x used)⟩

theorem balanced_plan (ctx : Context) (typeName : TypeId → String) (e : Element) :
    Balanced ctx.settings.uniqueNames fun stocks => (plan ctx typeName e stocks).2 := by
  induction e using Element.induction with
  | step e ih =>
    intro stocks sound
    rcases plan_cases ctx typeName e stocks with ⟨_, eq⟩ | ⟨r, _, _, ⟨_, eq⟩ | ⟨_, eq⟩⟩
    · simp only [eq]
      exact ⟨sound, fun _ used => used⟩
    · simp only [eq]
      obtain ⟨self, fresh⟩ := sound.inUse_take (t := e.type)
      refine ⟨sound.take.give self, fun x used => used.take.give fun same => fresh ?_⟩
      exact same ▸ used
    · simp only [eq]
      have fresh := holder_takeHead_fresh ctx.settings.uniqueNames e.type
        (madeExpr ctx typeName e r.spec) (ownedObjects ctx typeName e r) sound
      obtain ⟨below, kept⟩ := balanced_plans_of ih _ (sound_takeHead ctx.settings.uniqueNames e.type
        (madeExpr ctx typeName e r.spec) (ownedObjects ctx typeName e r) sound)
      have self := kept _ (holder_takeHead_inUse ctx.settings.uniqueNames e.type
        (madeExpr ctx typeName e r.spec) (ownedObjects ctx typeName e r) sound).1
      refine ⟨below.give self, fun x used => ?_⟩
      refine (kept x (inUse_takeHead _ _ _ _ sound used)).give fun same => fresh ?_
      exact same ▸ used

theorem balanced_plans (ctx : Context) (typeName : TypeId → String) (es : List Element) :
    Balanced ctx.settings.uniqueNames fun stocks => (plans ctx typeName es stocks).2 :=
  balanced_plans_of fun e _ => balanced_plan ctx typeName e

end DocScript.Compile
