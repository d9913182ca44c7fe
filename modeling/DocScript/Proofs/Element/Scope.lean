import DocScript.Proofs.Element.Apart
import DocScript.Proofs.Script.Scope

/-!
# What plans declare

The variables that a plan declares are those that are made while it is carried out, each once. A
variable that is taken again was made before. So the code of a plan only mentions what is declared,
and declares a name twice only if two variables have it.
-/

namespace DocScript

/-- Some variables are those that were made from one state of the stocks to the other. -/
structure Stocks.Yields (before after : Stocks) (vs : List Variable) : Prop where
  grows : ∀ t, (before t).made ≤ (after t).made
  nodup : vs.Nodup
  made : ∀ v, v ∈ vs ↔ (before v.type).made ≤ v.number ∧ v.number < (after v.type).made

namespace Stocks.Yields

variable {stocks after last : Stocks} {vs more : List Variable} {t : TypeId}

theorem refl (stocks : Stocks) : Yields stocks stocks [] :=
  ⟨fun _ => Nat.le_refl _, List.nodup_nil, fun v => ⟨nofun, fun h => by omega⟩⟩

theorem trans (first : Yields stocks after vs) (second : Yields after last more) :
    Yields stocks last (vs ++ more) := by
  refine ⟨fun t => Nat.le_trans (first.grows t) (second.grows t), ?_, fun v => ?_⟩
  · refine List.nodup_append.mpr ⟨first.nodup, second.nodup, ?_⟩
    rintro v early x late rfl
    have := ((first.made v).mp early).2
    have := ((second.made v).mp late).1
    omega
  · rw [List.mem_append, first.made, second.made]
    have := first.grows v.type
    have := second.grows v.type
    omega

theorem give (unique : Bool) (stocks : Stocks) (v : Variable) : Yields stocks (stocks.give unique v) [] := by
  have same (t : TypeId) : (stocks.give unique v t).made = (stocks t).made := by
    unfold Stocks.give
    by_cases h : t = v.type
    · rw [h, Stocks.set_self, Stock.made_give]
    · rw [Stocks.set_of_ne _ _ h]
  refine ⟨fun t => Nat.le_of_eq (same t).symm, List.nodup_nil, fun x => ?_⟩
  rw [same]
  exact ⟨nofun, fun h => by omega⟩

/-- Taking a variable makes it unless it is taken again. -/
theorem take (unique : Bool) (stocks : Stocks) (t : TypeId) :
    Yields stocks (stocks.take unique t).2
      (if (stocks.take unique t).1.2 then [] else [(stocks.take unique t).1.1]) := by
  have others (u : TypeId) (h : u ≠ t) : (stocks.take unique t).2 u = stocks u :=
    Stocks.set_of_ne _ _ h
  have self : (stocks.take unique t).2 t = ((stocks t).take unique).2 := Stocks.set_self _ _ _
  have flag : (stocks.take unique t).1.2 = ((stocks t).take unique).1.2 := rfl
  have number : (stocks.take unique t).1.1 = ⟨t, ((stocks t).take unique).1.1⟩ := rfl
  rw [flag, number]
  rcases Stock.take_cases unique (stocks t) with ⟨n, rest, _, _, taken⟩ | ⟨_, taken⟩
  · have same (u : TypeId) : ((stocks.take unique t).2 u).made = (stocks u).made := by
      by_cases h : u = t
      · rw [h, self, taken]
      · rw [others u h]
    rw [taken, if_pos rfl]
    refine ⟨fun u => Nat.le_of_eq (same u).symm, List.nodup_nil, fun v => ?_⟩
    rw [same]
    exact ⟨nofun, fun h => by omega⟩
  · rw [taken, if_neg Bool.false_ne_true]
    refine ⟨fun u => ?_, by simp, fun v => ?_⟩
    · by_cases h : u = t
      · rw [h, self, taken]
        exact Nat.le_succ _
      · exact Nat.le_of_eq (congrArg Stock.made (others u h).symm)
    · obtain ⟨u, n⟩ := v
      rw [List.mem_singleton, Variable.mk.injEq]
      by_cases h : u = t
      · subst h
        rw [self, taken]
        simp only [true_and]
        omega
      · rw [others u h]
        simp only [h, false_and, false_iff]
        omega

end Stocks.Yields

/-- The variable that a creation declares, unless it is taken again. -/
def Creation.fresh (c : Creation) : List Variable := if c.again then [] else [c.holder]

namespace Plan

mutual

/-- The variables that a plan declares, in order. -/
def fresh : Plan → List Variable
  | bare c => c.fresh
  | full vs c _ _ _ ps => vs.flatMap (·.creation.fresh) ++ c.fresh ++ freshBelow ps

/-- The variables that some plans declare, in order. -/
def freshBelow : List Plan → List Variable
  | [] => []
  | p :: rest => fresh p ++ freshBelow rest

end

end Plan

namespace Compile

open Stocks

variable {ctx : Context} {typeName : TypeId → String}

theorem yields_takeAll (unique : Bool) (os : List Owned) (stocks : Stocks) :
    Yields stocks (takeAll unique os stocks).2
      ((takeAll unique os stocks).1.flatMap (·.creation.fresh)) := by
  induction os generalizing stocks with
  | nil => exact Yields.refl stocks
  | cons o rest ih =>
    rw [takeAll_cons, List.flatMap_cons]
    exact (Yields.take unique stocks o.type).trans (ih _)

theorem yields_giveAll (unique : Bool) (vs : List Attachment) (stocks : Stocks) :
    Yields stocks (giveAll unique vs stocks) [] := by
  induction vs generalizing stocks with
  | nil => exact Yields.refl stocks
  | cons v rest ih => exact (Yields.give unique stocks v.holder).trans (ih _)

theorem yields_takeHead (unique : Bool) (t : TypeId) (made : Expr) (os : List Owned) (stocks : Stocks) :
    Yields stocks (takeHead unique t made os stocks).2
      ((takeHead unique t made os stocks).1.1.flatMap (·.creation.fresh) ++
        (takeHead unique t made os stocks).1.2.fresh) := by
  have all := ((yields_takeAll unique os stocks).trans (Yields.take unique _ t)).trans
    (yields_giveAll unique (takeAll unique os stocks).1 _)
  rw [List.append_nil] at all
  exact all

theorem yields_plans_of {es : List Element}
    (each : ∀ e ∈ es, ∀ stocks, Yields stocks (plan ctx typeName e stocks).2
      ((plan ctx typeName e stocks).1.toList.flatMap Plan.fresh)) (stocks : Stocks) :
    Yields stocks (plans ctx typeName es stocks).2
      (Plan.freshBelow (plans ctx typeName es stocks).1) := by
  induction es generalizing stocks with
  | nil =>
    rw [plans]
    exact Yields.refl stocks
  | cons e rest ih =>
    have first := each e List.mem_cons_self stocks
    have others := ih (fun c member => each c (List.mem_cons_of_mem _ member))
      (plan ctx typeName e stocks).2
    have both := first.trans others
    rw [plans_cons]
    cases planned : (plan ctx typeName e stocks).1 with
    | none => simpa [planned] using both
    | some p => simpa [planned, Plan.freshBelow] using both

/-- A plan declares the variables that are made while it is carried out, each once. -/
theorem yields_plan (ctx : Context) (typeName : TypeId → String) (e : Element) (stocks : Stocks) :
    Yields stocks (plan ctx typeName e stocks).2
      ((plan ctx typeName e stocks).1.toList.flatMap Plan.fresh) := by
  induction e using Element.induction generalizing stocks with
  | step e ih =>
    rcases plan_cases ctx typeName e stocks with ⟨_, eq⟩ | ⟨r, _, _, ⟨_, eq⟩ | ⟨_, eq⟩⟩
    · rw [eq]
      exact Yields.refl stocks
    · rw [eq]
      have both := (Yields.take ctx.settings.uniqueNames stocks e.type).trans
        (Yields.give ctx.settings.uniqueNames _ (stocks.take ctx.settings.uniqueNames e.type).1.1)
      simpa [Plan.fresh, Creation.fresh] using both
    · rw [eq]
      have head := yields_takeHead ctx.settings.uniqueNames e.type
        (madeExpr ctx typeName e r.spec) (ownedObjects ctx typeName e r) stocks
      have below := yields_plans_of ih (takeHead ctx.settings.uniqueNames e.type
        (madeExpr ctx typeName e r.spec) (ownedObjects ctx typeName e r) stocks).2
      have all := (head.trans below).trans (Yields.give ctx.settings.uniqueNames _
        (takeHead ctx.settings.uniqueNames e.type (madeExpr ctx typeName e r.spec)
          (ownedObjects ctx typeName e r) stocks).1.2.holder)
      simpa [Plan.fresh] using all

end Compile

/-! ### What the code of a plan declares -/

section

open Instr

variable {sp : Spelling} {owner : String}

theorem declares_creation (sp : Spelling) (c : Creation) :
    (c.instr sp).declares = c.fresh.map sp.variableName := by
  unfold Creation.instr Creation.fresh
  cases c.again <;> rfl

theorem declares_setting (setting : Setting) : (setting.instr owner).declares = [] := by
  cases setting <;> rfl

theorem declaredIn_value (sp : Spelling) (v : Attachment) :
    declaredIn (v.code sp) = v.creation.fresh.map sp.variableName := by
  rw [Attachment.code, List.cons_append, declaredIn, List.flatMap_cons, declares_creation]
  refine (congrArg (_ ++ ·) (declaredIn_eq_nil fun i member => ?_)).trans (List.append_nil _)
  rcases List.mem_append.mp member with field | blank
  · obtain ⟨d, _, rfl⟩ := List.mem_map.mp field
    rfl
  · rw [List.mem_singleton.mp blank]
    rfl

theorem declaredIn_values (sp : Spelling) (vs : List Attachment) :
    declaredIn (vs.flatMap (·.code sp)) = (vs.flatMap (·.creation.fresh)).map sp.variableName := by
  induction vs with
  | nil => rfl
  | cons v rest ih =>
    rw [List.flatMap_cons, List.flatMap_cons, declaredIn_append, declaredIn_value, ih,
      List.map_append]

/-- The instructions between the creation of an element and its children. -/
def settingsCode (sp : Spelling) (owner : String) (vs : List Attachment)
    (ds : List (String × String)) (simple enums : List Setting) : List Instr :=
  ds.map (declarationInstr owner) ++ simple.map (·.instr owner) ++ vs.map (·.wiring sp owner)
    ++ enums.map (·.instr owner) ++ [.blank]

theorem headCode_eq (sp : Spelling) (vs : List Attachment) (c : Creation)
    (ds : List (String × String)) (simple enums : List Setting) :
    Plan.headCode sp vs c ds simple enums = vs.flatMap (·.code sp) ++
      c.instr sp :: settingsCode sp (sp.variableName c.holder) vs ds simple enums := by
  simp only [Plan.headCode, settingsCode, List.append_assoc, List.cons_append]

theorem declares_settingsCode (sp : Spelling) (owner : String) (vs : List Attachment)
    (ds : List (String × String)) (simple enums : List Setting) :
    ∀ i ∈ settingsCode sp owner vs ds simple enums, i.declares = [] := by
  intro i member
  simp only [settingsCode, List.mem_append, List.mem_map, List.mem_singleton] at member
  rcases member with (((⟨d, _, rfl⟩ | ⟨s, _, rfl⟩) | ⟨v, _, rfl⟩) | ⟨s, _, rfl⟩) | rfl
  · rfl
  · exact declares_setting s
  · rfl
  · exact declares_setting s
  · rfl

theorem declaredIn_headCode (sp : Spelling) (vs : List Attachment) (c : Creation)
    (ds : List (String × String)) (simple enums : List Setting) :
    declaredIn (Plan.headCode sp vs c ds simple enums) =
      (vs.flatMap (·.creation.fresh) ++ c.fresh).map sp.variableName := by
  rw [headCode_eq, declaredIn_append, declaredIn_values, declaredIn, List.flatMap_cons, ← declaredIn,
    declares_creation, declaredIn_eq_nil (declares_settingsCode _ _ _ _ _ _), List.append_nil,
    List.map_append]

theorem declares_append (owner child : String) : ∀ i ∈ Compile.append owner child, i.declares = [] := by
  intro i member
  unfold Compile.append at member
  split at member
  · cases member
  · simp only [List.mem_cons, List.not_mem_nil, or_false] at member
    rcases member with rfl | rfl <;> rfl

theorem declaredIn_codeBelow (ps : List Plan)
    (each : ∀ p ∈ ps, declaredIn (p.code sp) = p.fresh.map sp.variableName) :
    declaredIn (Plan.codeBelow sp owner ps) = (Plan.freshBelow ps).map sp.variableName := by
  induction ps with
  | nil => rfl
  | cons p rest ih =>
    rw [Plan.codeBelow, Plan.freshBelow, declaredIn_append, declaredIn_append,
      each p List.mem_cons_self, declaredIn_eq_nil (declares_append _ _), List.append_nil,
      ih fun q member => each q (List.mem_cons_of_mem _ member), List.map_append]

/-- The code of a plan declares the names of the variables that the plan declares. -/
theorem declaredIn_code (sp : Spelling) (p : Plan) :
    declaredIn (p.code sp) = p.fresh.map sp.variableName := by
  induction p using Plan.induction with
  | step p ih =>
    cases p with
    | bare c =>
      rw [Plan.code, Plan.fresh, declaredIn, List.flatMap_cons, declares_creation]
      exact List.append_nil _
    | full vs c ds simple enums ps =>
      rw [Plan.code, Plan.fresh, declaredIn_append, declaredIn_headCode, declaredIn_codeBelow ps ih,
        ← List.map_append]

end

/-! ### What the code of a plan mentions -/

section

open Instr Compile Stocks

variable {ctx : Context} {typeName : TypeId → String} {sp : Spelling} {known : List String}
  {stocks later : Stocks}

/-- The names of all variables that were made are known. -/
def Stocks.Named (sp : Spelling) (known : List String) (stocks : Stocks) : Prop :=
  ∀ v : Variable, v.number < (stocks v.type).made → sp.variableName v ∈ known

theorem Stocks.Named.after {vs : List Variable} (named : stocks.Named sp known)
    (yields : Yields stocks later vs) : later.Named sp (vs.map sp.variableName ++ known) := by
  intro v made
  by_cases old : v.number < (stocks v.type).made
  · exact List.mem_append_right _ (named v old)
  · have new := (yields.made v).mpr ⟨Nat.le_of_not_lt old, made⟩
    exact List.mem_append_left _ (List.mem_map.mpr ⟨v, new, rfl⟩)

/-- A taken variable was made before if it is taken again. -/
theorem made_of_again {unique : Bool} (sound : stocks.Sound unique) {t : TypeId}
    (again : (stocks.take unique t).1.2 = true) :
    (stocks.take unique t).1.1.number < (stocks t).made := by
  have flag : (stocks.take unique t).1.2 = ((stocks t).take unique).1.2 := rfl
  have number : (stocks.take unique t).1.1.number = ((stocks t).take unique).1.1 := rfl
  rw [number]
  rw [flag] at again
  rcases Stock.take_cases unique (stocks t) with ⟨n, rest, _, free, taken⟩ | ⟨_, taken⟩
  · rw [taken]
    exact (sound t).made n (by rw [free]; exact List.mem_cons_self)
  · rw [taken] at again
    cases again

/-- A variable is put to use before anything that relies on it. -/
theorem scoped_take {unique : Bool} (sound : stocks.Sound unique) (named : stocks.Named sp known)
    (t : TypeId) {made : Expr} (closed : made.mentions = []) {rest : List Instr}
    (others : Scoped ((Creation.fresh ⟨(stocks.take unique t).1.1, (stocks.take unique t).1.2,
      made⟩).map sp.variableName ++ known) rest) :
    Scoped known (Creation.instr sp ⟨(stocks.take unique t).1.1, (stocks.take unique t).1.2, made⟩
      :: rest) := by
  refine ⟨fun x read => ?_, ?_⟩
  · unfold Creation.instr at read
    dsimp only at read
    split at read
    · next again =>
      simp only [reads, Expr.mentions, closed, List.append_nil, List.mem_singleton] at read
      rw [read]
      exact named _ (made_of_again sound again)
    · simp only [reads, Expr.mentionsTarget, closed, List.not_mem_nil] at read
  · rw [declares_creation]
    exact others

theorem scoped_values {unique : Bool} (sound : stocks.Sound unique) (named : stocks.Named sp known)
    {os : List Owned} (closed : ∀ o ∈ os, o.made.mentions = []) :
    Scoped known ((takeAll unique os stocks).1.flatMap (·.code sp)) := by
  induction os generalizing stocks known with
  | nil => trivial
  | cons o rest ih =>
    have named' := named.after (Yields.take unique stocks o.type)
    rw [takeAll_cons, List.flatMap_cons, Attachment.code, List.cons_append, List.cons_append]
    refine scoped_take sound named o.type (closed o List.mem_cons_self) (Scoped.append ?_ ?_)
    · refine scoped_of_reads (fun i member => ?_) fun i member x read => ?_
      · rcases List.mem_append.mp member with field | blank
        · obtain ⟨d, _, rfl⟩ := List.mem_map.mp field
          rfl
        · rw [List.mem_singleton.mp blank]
          rfl
      · rcases List.mem_append.mp member with field | blank
        · obtain ⟨d, _, rfl⟩ := List.mem_map.mp field
          simp only [Instr.set, reads, Expr.mentions, Expr.text, List.append_nil,
            List.mem_singleton] at read
          rw [read]
          exact named' _ sound.inUse_take.1.1
        · rw [List.mem_singleton.mp blank] at read
          cases read
    · refine (ih sound.take named' fun o' member => closed o' (List.mem_cons_of_mem _ member)).mono ?_
      exact fun x member => List.mem_append_right _ member

/-- The instruction for a property only mentions the element. -/
def Setting.Quiet (s : Setting) : Prop := ∀ owner, ∀ x ∈ (s.instr owner).reads, x = owner

theorem scoped_settingsCode {owner : String} {vs : List Attachment} (ds : List (String × String))
    {simple enums : List Setting} (self : owner ∈ known)
    (values : ∀ v ∈ vs, sp.variableName v.holder ∈ known) (quiet : ∀ s ∈ simple ++ enums, s.Quiet) :
    Scoped known (settingsCode sp owner vs ds simple enums) := by
  refine scoped_of_reads (declares_settingsCode _ _ _ _ _ _) fun i member x read => ?_
  simp only [settingsCode, List.mem_append, List.mem_map, List.mem_singleton] at member
  rcases member with (((⟨d, _, rfl⟩ | ⟨s, member, rfl⟩) | ⟨v, member, rfl⟩) | ⟨s, member, rfl⟩) | rfl
  · have same : x = owner := by
      simpa [declarationInstr, invokeOn, reads, Expr.mentionsTarget, Expr.mentionsAll,
        Expr.mentions, Expr.text] using read
    rw [same]
    exact self
  · rw [quiet s (List.mem_append_left _ member) owner x read]
    exact self
  · simp only [Attachment.wiring, Instr.set, reads, Expr.mentions, List.cons_append,
      List.nil_append, List.mem_cons, List.not_mem_nil, or_false] at read
    rcases read with rfl | rfl
    · exact self
    · exact values v member
  · rw [quiet s (List.mem_append_right _ member) owner x read]
    exact self
  · cases read

/-- Up to its children, the code of an element only mentions what is known or declared before. -/
theorem scoped_head {unique : Bool} (sound : stocks.Sound unique) (named : stocks.Named sp known)
    (t : TypeId) {made : Expr} (closed : made.mentions = []) {os : List Owned}
    (parts : ∀ o ∈ os, o.made.mentions = []) (ds : List (String × String)) {simple enums : List Setting}
    (quiet : ∀ s ∈ simple ++ enums, s.Quiet) :
    Scoped known (Plan.headCode sp (takeHead unique t made os stocks).1.1
      (takeHead unique t made os stocks).1.2 ds simple enums) := by
  have soundAll := sound_takeAll sound os
  have namedAll := named.after (yields_takeAll unique os stocks)
  have namedSelf := namedAll.after (Yields.take unique _ t)
  have values := allInUse_takeAll sound os
  rw [headCode_eq]
  refine Scoped.append (scoped_values sound named parts) ?_
  rw [declaredIn_values]
  refine scoped_take soundAll namedAll t closed
    (scoped_settingsCode ds ?_ (fun v member => ?_) quiet)
  · exact namedSelf _ soundAll.inUse_take.1.1
  · exact List.mem_append_right _ (namedAll _ (values.2 v member).1)

theorem scoped_append {owner child : String} (self : owner ∈ known) (value : child ∈ known) :
    Scoped known (Compile.append owner child) := by
  refine scoped_of_reads (declares_append owner child) fun i member x read => ?_
  unfold Compile.append at member
  split at member
  · cases member
  · simp only [List.mem_cons, List.not_mem_nil, or_false] at member
    rcases member with rfl | rfl
    · simp only [invokeOn, reads, Expr.mentionsTarget, Expr.mentionsAll, Expr.mentions,
        List.append_nil, List.cons_append, List.nil_append, List.mem_cons, List.not_mem_nil,
        or_false] at read
      rcases read with rfl | rfl
      · exact self
      · exact value
    · cases read

/-! ### The expressions of a plan mention no variables -/

theorem mentions_madeExpr (ctx : Context) (typeName : TypeId → String) (e : Element)
    (spec : ElementSpec) : (madeExpr ctx typeName e spec).mentions = [] := by
  unfold madeExpr
  cases spec.category <;> rfl

theorem mentions_ownedObjects (ctx : Context) (typeName : TypeId → String) (e : Element)
    (r : ResolvedElement) : ∀ o ∈ ownedObjects ctx typeName e r, o.made.mentions = [] := by
  intro o member
  rcases List.mem_append.mp member with part | bag
  · obtain ⟨p, _, made⟩ := List.mem_filterMap.mp part
    obtain ⟨raw, _, rfl⟩ := Option.map_eq_some_iff.mp made
    rfl
  · obtain ⟨rules, _, rfl⟩ := Option.map_eq_some_iff.mp (Option.mem_toList.mp bag)
    rfl

theorem quiet_simpleSetting {e : Element} {p : String × Primitive} {s : Setting}
    (h : simpleSetting typeName e p = some s) : s.Quiet := by
  obtain ⟨raw, _, rfl⟩ := Option.map_eq_some_iff.mp h
  intro owner x read
  split at read
  · cases read
  · simpa [Setting.instr, Instr.set, reads, Expr.mentions] using read
  · simpa [Setting.instr, Instr.set, reads, Expr.mentions, Expr.mentionsAll, momentObject] using read

theorem quiet_enumSetting {e : Element} {p : String × EnumSpec} {s : Setting}
    (h : enumSetting typeName e p = some s) : s.Quiet := by
  obtain ⟨raw, _, rfl⟩ := Option.map_eq_some_iff.mp h
  intro owner x read
  split at read
  · cases read
  · simpa [Setting.instr, Instr.set, reads, Expr.mentions] using read

/-! ### Whole trees -/

/-- The variable of an element is made by its plan. -/
theorem holder_made (e : Element) (sound : stocks.Sound ctx.settings.uniqueNames) {p : Plan}
    (planned : (plan ctx typeName e stocks).1 = some p) :
    p.holder.number < ((plan ctx typeName e stocks).2 p.holder.type).made := by
  have kept (v x : Variable) (stocks : Stocks) (used : stocks.InUse v) :
      v.number < ((stocks.give ctx.settings.uniqueNames x) v.type).made :=
    Nat.lt_of_lt_of_le used.1 ((Yields.give _ stocks x).grows v.type)
  rcases plan_cases ctx typeName e stocks with ⟨_, eq⟩ | ⟨r, _, _, ⟨_, eq⟩ | ⟨_, eq⟩⟩
  · rw [eq] at planned
    cases planned
  · rw [eq] at planned ⊢
    obtain rfl := Option.some.inj planned
    exact kept _ _ _ sound.inUse_take.1
  · rw [eq] at planned ⊢
    obtain rfl := Option.some.inj planned
    have self := holder_takeHead_inUse ctx.settings.uniqueNames e.type
      (madeExpr ctx typeName e r.spec) (ownedObjects ctx typeName e r) sound
    exact kept _ _ _ ((balanced_plans ctx typeName e.children _
      (sound_takeHead _ _ _ _ sound)).2 _ self.1)

theorem scoped_codeBelow {es : List Element} {owner : String}
    (each : ∀ e ∈ es, ∀ stocks known, stocks.Sound ctx.settings.uniqueNames → stocks.Named sp known →
      ∀ p, (plan ctx typeName e stocks).1 = some p → Scoped known (p.code sp))
    (sound : stocks.Sound ctx.settings.uniqueNames) (named : stocks.Named sp known)
    (self : owner ∈ known) :
    Scoped known (Plan.codeBelow sp owner (plans ctx typeName es stocks).1) := by
  induction es generalizing stocks known with
  | nil =>
    rw [plans]
    trivial
  | cons e rest ih =>
    have sound' := (balanced_plan ctx typeName e stocks sound).1
    have named' := named.after (yields_plan ctx typeName e stocks)
    have others := ih (fun c member => each c (List.mem_cons_of_mem _ member)) sound' named'
      (List.mem_append_right _ self)
    rw [plans_cons]
    cases planned : (plan ctx typeName e stocks).1 with
    | none =>
      rw [planned] at others
      exact others
    | some p =>
      have first := each e List.mem_cons_self stocks known sound named p planned
      -- What the child declares stays declared for its siblings, even when its variable is given back.
      have holder := named' p.holder (holder_made e sound planned)
      rw [planned] at others holder
      simp only [Option.toList_some, List.flatMap_cons, List.flatMap_nil, List.append_nil]
        at others holder
      simp only [Option.toList_some, List.singleton_append, Plan.codeBelow]
      refine Scoped.append (Scoped.append first ?_) ?_
      · rw [declaredIn_code]
        exact scoped_append (List.mem_append_right _ self) holder
      · rw [declaredIn_append, declaredIn_code, declaredIn_eq_nil (declares_append _ _),
          List.append_nil]
        exact others

/-- The code of a plan only mentions variables that were made before or that it has declared. -/
theorem scoped_code (ctx : Context) (typeName : TypeId → String) (sp : Spelling) (e : Element) :
    ∀ stocks known, stocks.Sound ctx.settings.uniqueNames → stocks.Named sp known →
      ∀ p, (plan ctx typeName e stocks).1 = some p → Scoped known (p.code sp) := by
  induction e using Element.induction with
  | step e ih =>
    intro stocks known sound named p planned
    have closed (r : ResolvedElement) := mentions_madeExpr ctx typeName e r.spec
    rcases plan_cases ctx typeName e stocks with ⟨_, eq⟩ | ⟨r, _, _, ⟨_, eq⟩ | ⟨_, eq⟩⟩
    · rw [eq] at planned
      cases planned
    · rw [eq] at planned
      obtain rfl := Option.some.inj planned
      exact scoped_take sound named e.type (closed r) trivial
    · rw [eq] at planned
      obtain rfl := Option.some.inj planned
      have self := holder_takeHead_inUse ctx.settings.uniqueNames e.type
        (madeExpr ctx typeName e r.spec) (ownedObjects ctx typeName e r) sound
      have named' := named.after (yields_takeHead ctx.settings.uniqueNames e.type
        (madeExpr ctx typeName e r.spec) (ownedObjects ctx typeName e r) stocks)
      rw [Plan.code]
      refine Scoped.append (scoped_head sound named e.type (closed r)
        (mentions_ownedObjects ctx typeName e r) _ fun s member => ?_) ?_
      · rcases List.mem_append.mp member with simple | enum
        · obtain ⟨q, _, set⟩ := List.mem_filterMap.mp simple
          exact quiet_simpleSetting set
        · obtain ⟨q, _, set⟩ := List.mem_filterMap.mp enum
          exact quiet_enumSetting set
      · rw [declaredIn_headCode]
        exact scoped_codeBelow ih (sound_takeHead _ _ _ _ sound) named' (named' _ self.1.1)

/-! ### The code of a plan has no scopes -/

theorem walk_creation (sp : Spelling) (c : Creation) : (c.instr sp).walk = [c.instr sp] := by
  unfold Creation.instr
  split <;> rfl

theorem walk_setting (owner : String) (s : Setting) : (s.instr owner).walk = [s.instr owner] := by
  cases s <;> rfl

theorem walk_headCode (sp : Spelling) (vs : List Attachment) (c : Creation)
    (ds : List (String × String)) (simple enums : List Setting) :
    walkAll (Plan.headCode sp vs c ds simple enums) = Plan.headCode sp vs c ds simple enums := by
  refine walkAll_eq fun i member => ?_
  simp only [headCode_eq, settingsCode, Attachment.code, List.mem_append, List.mem_cons,
    List.mem_flatMap, List.mem_map, List.cons_append, List.not_mem_nil, or_false] at member
  rcases member with ⟨v, _, rfl | ⟨d, _, rfl⟩ | rfl⟩ | rfl |
    (((⟨d, _, rfl⟩ | ⟨s, _, rfl⟩) | ⟨v, _, rfl⟩) | ⟨s, _, rfl⟩) | rfl
  · exact walk_creation sp v.creation
  · rfl
  · rfl
  · exact walk_creation sp c
  · rfl
  · exact walk_setting _ s
  · rfl
  · exact walk_setting _ s
  · rfl

theorem walk_codeBelow {owner : String} (ps : List Plan)
    (each : ∀ p ∈ ps, walkAll (p.code sp) = p.code sp) :
    walkAll (Plan.codeBelow sp owner ps) = Plan.codeBelow sp owner ps := by
  induction ps with
  | nil => rfl
  | cons p rest ih =>
    have appended : walkAll (Compile.append owner (p.name sp)) = Compile.append owner (p.name sp) := by
      unfold Compile.append
      split <;> rfl
    rw [Plan.codeBelow, walkAll_append, walkAll_append, each p List.mem_cons_self, appended,
      ih fun q member => each q (List.mem_cons_of_mem _ member)]

theorem walk_code (sp : Spelling) (p : Plan) : walkAll (p.code sp) = p.code sp := by
  induction p using Plan.induction with
  | step p ih =>
    cases p with
    | bare c =>
      rw [Plan.code, walkAll, walk_creation]
      rfl
    | full vs c ds simple enums ps =>
      rw [Plan.code, walkAll_append, walk_headCode, walk_codeBelow ps ih]

end

end DocScript
