import DocScript.Proofs.Element.Registers
import DocScript.Proofs.Element.Variables

/-!
# Runs write out plans

Every step of the work on an element only adds namespaces, so all names that it writes are those
of the table at the end of the run. The pools hand out the names of the variables that the plan
takes. Together: a run that ends well has written out the plan of its element.
-/

namespace DocScript

open Compile

namespace Build

variable {ctx : Context} {w w' : Workspace} {t : TypeId} {s : String}

theorem typeName_ok (ran : typeName ctx t w = (.ok s, w')) :
    s = w.shared.namespaces.typeName ctx.settings.policy t ∧ w' = w := by
  obtain ⟨value, state⟩ := Prod.mk.inj ran
  exact ⟨(Except.ok.inj value).symm, state.symm⟩

theorem register_ok {u : Unit} (ran : register ctx t w = (.ok u, w')) :
    w.shared.namespaces ≤ w'.shared.namespaces ∧
      w'.shared.namespaces.contains t.space = true ∧ w'.pools = w.pools := by
  obtain ⟨_, rfl⟩ := Prod.mk.inj ran
  exact ⟨Namespaces.le_register _ _ _, Namespaces.contains_register _ _ _, rfl⟩

theorem addPlain_ok {space : String} {u : Unit} (ran : addPlain space w = (.ok u, w')) :
    w.shared.namespaces ≤ w'.shared.namespaces ∧
      w'.shared.namespaces.contains space = true ∧ w'.pools = w.pools := by
  obtain ⟨_, rfl⟩ := Prod.mk.inj ran
  exact ⟨Namespaces.le_addPlain _ _, Namespaces.contains_addPlain _ _, rfl⟩

theorem release_ok {name : String} {u : Unit} (ran : release t name w = (.ok u, w')) :
    w' = { w with pools := w.pools.release t name } := (Prod.mk.inj ran).2.symm

theorem acquire_ok {taken : String × Bool} (ran : acquire ctx t w = (.ok taken, w')) :
    taken = (w.pools.acquire w.shared.namespaces ctx.settings.uniqueNames t).1 ∧
      w' = { w with pools :=
        (w.pools.acquire w.shared.namespaces ctx.settings.uniqueNames t).2 } := by
  obtain ⟨value, state⟩ := Prod.mk.inj ran
  exact ⟨(Except.ok.inj value).symm, state.symm⟩

theorem checkCancelled_ok {u : Unit} (ran : checkCancelled w = (.ok u, w')) :
    w.shared.cancelled = false ∧ w = w' := by
  unfold checkCancelled at ran
  split at ran
  · cases (Prod.mk.inj ran).1
  · next running => exact ⟨Bool.eq_false_iff.mpr running, (Prod.mk.inj ran).2⟩

end Build

/-- The pools of a workspace track the variables of all types. -/
def Workspace.Tracks (ctx : Context) (w : Workspace) (stocks : Stocks) : Prop :=
  w.pools.Tracks w.shared.namespaces ctx.settings.uniqueNames stocks

theorem Pools.Tracks.known {ns : Namespaces} {unique : Bool} {ps : Pools} {stocks : Stocks}
    {v : Variable} (h : ps.Tracks ns unique stocks) (used : stocks.InUse v) :
    ns.contains v.type.space = true := by
  cases found : ps.get? v.type with
  | none =>
    have none : ¬ (stocks v.type).InUse v.number := by
      rw [h.missing _ found]
      exact fun used => Nat.not_lt_zero _ used.1
    exact (none used).elim
  | some p => exact (h.found _ p found).2.1

theorem Workspace.Tracks.step {ctx : Context} {w w' : Workspace} {stocks : Stocks}
    (h : w.Tracks ctx stocks) (le : w.shared.namespaces ≤ w'.shared.namespaces)
    (pools : w'.pools = w.pools) : w'.Tracks ctx stocks := by
  unfold Tracks
  rw [pools]
  exact Pools.Tracks.of_le h le

def Attachment.wire (sp : Spelling) (v : Attachment) : Wire :=
  ⟨v.holder.type, v.property, sp.variableName v.holder⟩

/-- An object as the work on its element makes it: instructions, and how it will be wired. -/
def Attachment.steps (sp : Spelling) (v : Attachment) : List (Instr × Option Wire) :=
  (v.creation.instr sp, some (v.wire sp)) ::
    (v.fields.map fun (field, text) =>
      (.set (sp.variableName v.holder) field (.text text), none)) ++ [(.blank, none)]

theorem Attachment.instrs_steps (sp : Spelling) (vs : List Attachment) :
    (vs.flatMap (·.steps sp)).map (·.1) = vs.flatMap (·.code sp) := by
  induction vs with
  | nil => rfl
  | cons v rest ih =>
    rw [List.flatMap_cons, List.flatMap_cons, List.map_append, ih]
    simp [steps, code, Function.comp_def]

theorem Attachment.wires_steps (sp : Spelling) (vs : List Attachment) :
    (vs.flatMap (·.steps sp)).filterMap (·.2) = vs.map (·.wire sp) := by
  induction vs with
  | nil => rfl
  | cons v rest ih =>
    rw [List.flatMap_cons, List.filterMap_append, ih]
    simp [steps, List.filterMap_map]

namespace Compile

variable {ctx : Context} {e : Element} {w w' : Workspace} {stocks : Stocks} {t : TypeId}
  {path : List String} {table : Namespaces}

theorem declare_ok {value : Expr} {made : Instr × String} (tracks : w.Tracks ctx stocks)
    (known : w.shared.namespaces.contains t.space = true)
    (ran : Build.declare ctx t value w = (.ok made, w')) (le : w'.shared.namespaces ≤ table) :
    w'.Tracks ctx (stocks.take ctx.settings.uniqueNames t).2 ∧ w'.shared = w.shared ∧
      made = (Creation.instr (table.spelling ctx.settings.policy)
        ⟨(stocks.take ctx.settings.uniqueNames t).1.1,
          (stocks.take ctx.settings.uniqueNames t).1.2, value⟩,
        (stocks.take ctx.settings.uniqueNames t).1.1.name table) := by
  unfold Build.declare at ran
  obtain ⟨taken, u, acquired, ran⟩ := Step.bind_ok ran
  obtain ⟨rfl, rfl⟩ := Build.acquire_ok acquired
  obtain ⟨name, tracks'⟩ := Pools.Tracks.acquire tracks known
  simp only [name] at ran
  have spelled (le : w.shared.namespaces ≤ table) :
      (stocks.take ctx.settings.uniqueNames t).1.1.name w.shared.namespaces =
        (stocks.take ctx.settings.uniqueNames t).1.1.name table :=
    (Variable.name_of_le le known).symm
  split at ran
  · next again =>
    obtain ⟨rfl, rfl⟩ := Step.pure_ok ran
    refine ⟨tracks', rfl, ?_⟩
    simp only [Creation.instr, again, if_true, Namespaces.spelling, spelled le]
  · next fresh =>
    obtain ⟨typeName, u, named, ran⟩ := Step.bind_ok ran
    obtain ⟨rfl, rfl⟩ := Build.typeName_ok named
    obtain ⟨rfl, rfl⟩ := Step.pure_ok ran
    refine ⟨tracks', rfl, ?_⟩
    have type := Namespaces.typeName_of_le ctx.settings.policy le known
    simp only [Creation.instr, fresh, Namespaces.spelling, spelled le, Stocks.type_take, type]
    rfl

/-! ### The values of properties -/

theorem takeAll_append (unique : Bool) (os more : List Owned) (stocks : Stocks) :
    takeAll unique (os ++ more) stocks =
      ((takeAll unique os stocks).1 ++ (takeAll unique more (takeAll unique os stocks).2).1,
        (takeAll unique more (takeAll unique os stocks).2).2) := by
  induction os generalizing stocks with
  | nil => rfl
  | cons o rest ih => rw [List.cons_append, takeAll_cons, takeAll_cons, ih, List.cons_append]

/-- A step makes some objects, each in the variable that is taken for it. -/
def Makes (ctx : Context) (table : Namespaces) (m : Build (List (Instr × Option Wire)))
    (os : List Owned) : Prop :=
  ∀ w objects w' stocks, w.Tracks ctx stocks → m w = (.ok objects, w') →
    w'.shared.namespaces ≤ table →
    w'.Tracks ctx (takeAll ctx.settings.uniqueNames os stocks).2 ∧
      objects = (takeAll ctx.settings.uniqueNames os stocks).1.flatMap
        (·.steps (table.spelling ctx.settings.policy))

theorem makes_nil (ctx : Context) (table : Namespaces) : Makes ctx table (pure []) [] := by
  intro w objects w' stocks tracks ran le
  obtain ⟨rfl, rfl⟩ := Step.pure_ok ran
  exact ⟨tracks, rfl⟩

theorem makes_collect {α : Type} {f : α → Build (List (Instr × Option Wire))} {g : α → Option Owned}
    (each : ∀ a, Makes ctx table (f a) (g a).toList) (registers : ∀ a, Build.Extends ctx (f a))
    (as : List α) : Makes ctx table (Step.collect f as) (as.filterMap g) := by
  induction as with
  | nil => exact makes_nil ctx table
  | cons a rest ih =>
    intro w objects w' stocks tracks ran le
    obtain ⟨first, u, others, ran₁, ran₂, rfl⟩ := Step.collect_cons_ok ran
    have le₁ := Namespaces.le_trans ((Step.extends_collect registers rest).le ran₂) le
    obtain ⟨tracks₁, rfl⟩ := each a w _ u stocks tracks ran₁ le₁
    obtain ⟨tracks₂, rfl⟩ := ih u _ w' _ tracks₁ ran₂ le
    have split : (a :: rest).filterMap g = (g a).toList ++ rest.filterMap g := by
      cases h : g a <;> simp [h]
    rw [split, takeAll_append, List.flatMap_append]
    exact ⟨tracks₂, rfl⟩

theorem makes_ownedSteps (ctx : Context) (table : Namespaces) (type : TypeId) (property : String)
    (arguments : List String) (fields : List (String × String)) :
    Makes ctx table (ownedSteps ctx type property arguments fields)
      [⟨type, property, .construct (table.typeName ctx.settings.policy type) arguments [], fields⟩] := by
  intro w objects w' stocks tracks ran le
  obtain ⟨_, u, registered, ran⟩ := Step.bind_ok ran
  obtain ⟨grown, known, pools⟩ := Build.register_ok registered
  obtain ⟨typeName, v, named, ran⟩ := Step.bind_ok ran
  obtain ⟨rfl, rfl⟩ := Build.typeName_ok named
  obtain ⟨made, v, declared, ran⟩ := Step.bind_ok ran
  obtain ⟨rfl, rfl⟩ := Step.pure_ok ran
  obtain ⟨tracks', shared, rfl⟩ := declare_ok (tracks.step grown pools) known declared le
  have spelled := Namespaces.typeName_of_le ctx.settings.policy (shared ▸ le) known
  rw [← spelled]
  exact ⟨tracks', (List.append_nil _).symm⟩

theorem makes_complexValue (ctx : Context) (table : Namespaces) (e : Element) (p : String × TypeId) :
    Makes ctx table (complexValue ctx e p)
      (complexObject (table.typeName ctx.settings.policy) e p).toList := by
  rw [complexValue_eq, complexObject]
  cases e.value? p.1 with
  | none => exact makes_nil ctx table
  | some raw => exact makes_ownedSteps ctx table _ _ _ _

theorem makes_markupBag (ctx : Context) (table : Namespaces) (e : Element) :
    Makes ctx table (markupBag ctx e)
      (bagObject (table.typeName ctx.settings.policy) ctx.registry.bag e).toList := by
  rw [markupBag_eq, bagObject]
  cases e.markup with
  | none => exact makes_nil ctx table
  | some rules => exact makes_ownedSteps ctx table _ _ _ _

/-- The objects that an element owns are made in order, those of its properties first. -/
theorem ownedObjects_ok {r : ResolvedElement} {values bag : List (Instr × Option Wire)}
    {u : Workspace} (tracks : w.Tracks ctx stocks)
    (ran : Step.collect (complexValue ctx e) r.complex w = (.ok values, u))
    (ran' : markupBag ctx e u = (.ok bag, w')) (le : w'.shared.namespaces ≤ table) :
    let os := ownedObjects ctx (table.typeName ctx.settings.policy) e r
    w'.Tracks ctx (takeAll ctx.settings.uniqueNames os stocks).2 ∧
      values ++ bag = (takeAll ctx.settings.uniqueNames os stocks).1.flatMap
        (·.steps (table.spelling ctx.settings.policy)) := by
  intro os
  have le₁ := Namespaces.le_trans (extends_markupBag.le ran') le
  obtain ⟨tracks₁, rfl⟩ := makes_collect (makes_complexValue ctx table e) extends_complexValue
    r.complex w _ u stocks tracks ran le₁
  obtain ⟨tracks₂, rfl⟩ := makes_markupBag ctx table e u _ w' _ tracks₁ ran' le
  have both := takeAll_append ctx.settings.uniqueNames
    (r.complex.filterMap (complexObject (table.typeName ctx.settings.policy) e))
    (bagObject (table.typeName ctx.settings.policy) ctx.registry.bag e).toList stocks
  simp only [os, ownedObjects, both, List.flatMap_append]
  exact ⟨tracks₂, trivial⟩

/-! ### The element itself -/

/-- The expression that creates an element is the planned one. -/
theorem creation_ok {spec : ElementSpec} {value : Expr}
    (known : w.shared.namespaces.contains e.type.space = true)
    (ran : creation ctx e spec path w = (.ok value, w')) (le : w'.shared.namespaces ≤ table) :
    w'.pools = w.pools ∧ value = madeExpr ctx (table.typeName ctx.settings.policy) e spec := by
  have grown := extends_creation.le ran
  have type := Namespaces.typeName_of_le ctx.settings.policy
    (Namespaces.le_trans grown le) known
  unfold creation at ran
  obtain ⟨name, u, named, ran⟩ := Step.bind_ok ran
  obtain ⟨rfl, rfl⟩ := Build.typeName_ok named
  unfold madeExpr
  rw [type]
  cases category : spec.category with
  | regular | leafText | opaqueNode =>
    simp only [category] at ran ⊢
    obtain ⟨rfl, rfl⟩ := Step.pure_ok ran
    exact ⟨rfl, rfl⟩
  | rawPayload =>
    simp only [category] at ran ⊢
    split at ran
    · exact (Step.fail_ok ran).elim
    · obtain ⟨_, u, registered, ran⟩ := Step.bind_ok ran
      obtain ⟨_, known', pools⟩ := Build.register_ok registered
      obtain ⟨owner, v, named', ran⟩ := Step.bind_ok ran
      obtain ⟨rfl, rfl⟩ := Build.typeName_ok named'
      obtain ⟨rfl, rfl⟩ := Step.pure_ok ran
      rw [Namespaces.typeName_of_le _ le known']
      exact ⟨pools, rfl⟩

/-- A step writes what becomes of some properties, and leaves the pools alone. -/
def Sets (table : Namespaces) (m : Build (List Instr)) (code : List Instr) : Prop :=
  ∀ w instrs w', m w = (.ok instrs, w') → w'.shared.namespaces ≤ table →
    w'.pools = w.pools ∧ instrs = code

theorem sets_collect {α : Type} {f : α → Build (List Instr)} {g : α → Option Setting} {name : String}
    (each : ∀ a, Sets table (f a) ((g a).toList.map (·.instr name)))
    (registers : ∀ a, Build.Extends ctx (f a)) (as : List α) :
    Sets table (Step.collect f as) ((as.filterMap g).map (·.instr name)) := by
  induction as with
  | nil =>
    intro w instrs w' ran le
    obtain ⟨rfl, rfl⟩ := Step.pure_ok ran
    exact ⟨rfl, rfl⟩
  | cons a rest ih =>
    intro w instrs w' ran le
    obtain ⟨first, u, others, ran₁, ran₂, rfl⟩ := Step.collect_cons_ok ran
    have le₁ := Namespaces.le_trans ((Step.extends_collect registers rest).le ran₂) le
    obtain ⟨pools₁, rfl⟩ := each a w _ u ran₁ le₁
    obtain ⟨pools₂, rfl⟩ := ih u _ w' ran₂ le
    refine ⟨pools₂.trans pools₁, ?_⟩
    cases h : g a <;> simp [h]

theorem momentExpr_ok {m : Calendar.Moment} {value : Expr}
    (ran : momentExpr ctx m w = (.ok value, w')) (le : w'.shared.namespaces ≤ table) :
    w'.pools = w.pools ∧ value = momentObject (table.typeName ctx.settings.policy) m := by
  unfold momentExpr at ran
  obtain ⟨_, u, added, ran⟩ := Step.bind_ok ran
  obtain ⟨_, known, pools⟩ := Build.addPlain_ok added
  obtain ⟨name, v, named, ran⟩ := Step.bind_ok ran
  obtain ⟨rfl, rfl⟩ := Build.typeName_ok named
  unfold momentObject
  cases ticks : m.ticks? with
  | none =>
    simp only [ticks] at ran
    exact (Step.fail_ok ran).elim
  | some n =>
    simp only [ticks] at ran
    obtain ⟨kind, u, named', ran⟩ := Step.bind_ok ran
    obtain ⟨rfl, rfl⟩ := Build.typeName_ok named'
    obtain ⟨rfl, rfl⟩ := Step.pure_ok ran
    have type (t : TypeId) (same : t.space = momentType.space) :
        table.typeName ctx.settings.policy t =
          w'.shared.namespaces.typeName ctx.settings.policy t :=
      Namespaces.typeName_of_le _ le (same ▸ known)
    rw [type momentType rfl, type momentKindType rfl]
    exact ⟨pools, rfl⟩

theorem sets_simpleProperty (ctx : Context) (table : Namespaces) (e : Element) (name : String)
    (p : String × Primitive) :
    Sets table (simpleProperty ctx e name p)
      ((simpleSetting (table.typeName ctx.settings.policy) e p).toList.map (·.instr name)) := by
  intro w instrs w' ran le
  unfold simpleProperty at ran
  unfold simpleSetting
  cases found : e.value? p.1 with
  | none =>
    simp only [found] at ran
    obtain ⟨rfl, rfl⟩ := Step.pure_ok ran
    exact ⟨rfl, rfl⟩
  | some raw =>
    simp only [found] at ran
    simp only [Option.map_some]
    cases fits : (Raw.json raw).coerce? p.2 with
    | none =>
      simp only [fits] at ran
      obtain ⟨rfl, rfl⟩ := Step.pure_ok ran
      exact ⟨rfl, rfl⟩
    | some value =>
      cases value with
      | literal l =>
        simp only [fits] at ran
        obtain ⟨rfl, rfl⟩ := Step.pure_ok ran
        exact ⟨rfl, rfl⟩
      | moment m =>
        simp only [fits] at ran
        obtain ⟨value, u, made, ran⟩ := Step.bind_ok ran
        obtain ⟨rfl, rfl⟩ := Step.pure_ok ran
        obtain ⟨pools, rfl⟩ := momentExpr_ok made le
        exact ⟨pools, rfl⟩

theorem sets_enumProperty (ctx : Context) (table : Namespaces) (e : Element) (name : String)
    (p : String × EnumSpec) :
    Sets table (enumProperty ctx e name p)
      ((enumSetting (table.typeName ctx.settings.policy) e p).toList.map (·.instr name)) := by
  intro w instrs w' ran le
  unfold enumProperty at ran
  unfold enumSetting
  cases found : e.value? p.1 with
  | none =>
    simp only [found] at ran
    obtain ⟨rfl, rfl⟩ := Step.pure_ok ran
    exact ⟨rfl, rfl⟩
  | some raw =>
    simp only [found] at ran
    obtain ⟨_, u, registered, ran⟩ := Step.bind_ok ran
    obtain ⟨_, known, pools⟩ := Build.register_ok registered
    obtain ⟨owner, v, named, ran⟩ := Step.bind_ok ran
    obtain ⟨rfl, rfl⟩ := Build.typeName_ok named
    simp only [Option.map_some]
    cases constant : p.2.constant? raw with
    | none | some member =>
      simp only [constant] at ran
      obtain ⟨rfl, rfl⟩ := Step.pure_ok ran
      simp only [Namespaces.typeName_of_le _ le known]
      exact ⟨pools, rfl⟩

theorem released_tracks {v : Variable} (tracks : w.Tracks ctx stocks) (used : stocks.InUse v)
    (le : w.shared.namespaces ≤ table) :
    Workspace.Tracks ctx ⟨w.shared, w.pools.release v.type (v.name table)⟩
      (stocks.give ctx.settings.uniqueNames v) := by
  rw [Variable.name_of_le le (Pools.Tracks.known tracks used)]
  exact Pools.Tracks.release tracks used

/-- The values are set in order, and their variables are given back. -/
theorem wires_ok {vs : List Attachment} {name : String} {instrs : List Instr}
    (tracks : w.Tracks ctx stocks) (used : AllInUse stocks vs)
    (ran : Step.collect (wire name) (vs.map (·.wire (table.spelling ctx.settings.policy))) w =
      (.ok instrs, w'))
    (le : w.shared.namespaces ≤ table) :
    w'.Tracks ctx (giveAll ctx.settings.uniqueNames vs stocks) ∧
      instrs = vs.map (·.wiring (table.spelling ctx.settings.policy) name) := by
  induction vs generalizing w stocks instrs with
  | nil =>
    obtain ⟨rfl, rfl⟩ := Step.pure_ok ran
    exact ⟨tracks, rfl⟩
  | cons v rest ih =>
    rw [List.map_cons] at ran
    obtain ⟨first, u, others, ran₁, ran₂, rfl⟩ := Step.collect_cons_ok ran
    obtain ⟨_, x, released, ran₁⟩ := Step.bind_ok ran₁
    obtain ⟨rfl, rfl⟩ := Step.pure_ok ran₁
    rw [Build.release_ok released, Attachment.wire, Namespaces.spelling_variableName] at ran₂
    have tracks₁ := released_tracks tracks (used.2 v List.mem_cons_self) le
    obtain ⟨tracks₂, rfl⟩ := ih tracks₁ used.tail ran₂ le
    exact ⟨tracks₂, rfl⟩

/-- The work on an element up to its children writes out that part of the plan. -/
theorem elementHead_ok {r : ResolvedElement} {head : List Instr × String}
    (known : w.shared.namespaces.contains e.type.space = true) (tracks : w.Tracks ctx stocks)
    (ran : elementHead ctx e r path w = (.ok head, w')) (le : w'.shared.namespaces ≤ table) :
    let typeName := table.typeName ctx.settings.policy
    let sp := table.spelling ctx.settings.policy
    let planned := takeHead ctx.settings.uniqueNames e.type (madeExpr ctx typeName e r.spec)
      (ownedObjects ctx typeName e r) stocks
    w'.Tracks ctx planned.2 ∧
      head = (Plan.headCode sp planned.1.1 planned.1.2 e.declarations.entries
        (r.simple.filterMap (simpleSetting typeName e)) (r.enums.filterMap (enumSetting typeName e)),
        sp.variableName planned.1.2.holder) := by
  intro typeName sp planned
  unfold elementHead at ran
  obtain ⟨values, w₁, ran₁, ran⟩ := Step.bind_ok ran
  obtain ⟨bag, w₂, ran₂, ran⟩ := Step.bind_ok ran
  obtain ⟨value, w₃, ran₃, ran⟩ := Step.bind_ok ran
  obtain ⟨⟨declaration, name⟩, w₄, ran₄, ran⟩ := Step.bind_ok ran
  obtain ⟨simple, w₅, ran₅, ran⟩ := Step.bind_ok ran
  obtain ⟨wires, w₆, ran₆, ran⟩ := Step.bind_ok ran
  obtain ⟨enums, w₇, ran₇, ran⟩ := Step.bind_ok ran
  obtain ⟨rfl, rfl⟩ := Step.pure_ok ran
  -- Every table on the way is part of the last one.
  have le₆ := Namespaces.le_trans ((Step.extends_collect (extends_enumProperty _) _).le ran₇) le
  have le₅ := Namespaces.le_trans ((Step.extends_collect (extends_wire ctx _) _).le ran₆) le₆
  have grown₅ := (Step.extends_collect (extends_simpleProperty _) _).le ran₅
  have le₄ := Namespaces.le_trans grown₅ le₅
  have le₃ := Namespaces.le_trans (Build.extends_declare.le ran₄) le₄
  have grown₃ := extends_creation.le ran₃
  have le₂ := Namespaces.le_trans grown₃ le₃
  have grown₂ := Namespaces.le_trans ((Step.extends_collect extends_complexValue _).le ran₁)
    (extends_markupBag.le ran₂)
  have known₂ := Namespaces.contains_of_le grown₂ known
  have known₃ := Namespaces.contains_of_le grown₃ known₂
  obtain ⟨tracks₂, objects⟩ := ownedObjects_ok tracks ran₁ ran₂ le₂
  obtain ⟨pools₃, rfl⟩ := creation_ok known₂ ran₃ le₃
  obtain ⟨tracks₄, shared₄, made⟩ := declare_ok (tracks₂.step grown₃ pools₃) known₃ ran₄ le₄
  obtain ⟨rfl, rfl⟩ := Prod.mk.inj made
  obtain ⟨pools₅, rfl⟩ := sets_collect (sets_simpleProperty ctx table e _) (extends_simpleProperty _)
    r.simple w₄ _ w₅ ran₅ le₅
  have used := allInUse_takeAll (Pools.Tracks.sound tracks) (ownedObjects ctx typeName e r)
  rw [objects, Attachment.wires_steps] at ran₆
  obtain ⟨tracks₆, rfl⟩ := wires_ok (tracks₄.step grown₅ pools₅)
    ⟨used.1, fun v member => (used.2 v member).take⟩ ran₆ le₅
  obtain ⟨pools₇, rfl⟩ := sets_collect (sets_enumProperty ctx table e _) (extends_enumProperty _)
    r.enums w₆ _ w' ran₇ le
  refine ⟨tracks₆.step ((Step.extends_collect (extends_enumProperty _) _).le ran₇) pools₇, ?_⟩
  rw [objects, Attachment.instrs_steps]
  rfl

/-! ### The whole tree -/

/-- A run for an element is over at once if the element is skipped, or it takes one of two ways. -/
theorem element_ok (plain : ctx.handlers = .none) {out : ElementOutput}
    (ran : element ctx path e w = (.ok out, w')) :
    (absent ctx e = true ∧ out = ⟨[], ""⟩ ∧ w' = w) ∨
    ∃ r w₁, ctx.registry.element? e.type = some r ∧ skips ctx.settings (some r) e = false ∧
      Build.register ctx e.type w = (.ok (), w₁) ∧
      ((r.spec.category = .opaqueNode ∧ ∃ value w₂ instr w₃,
          creation ctx e r.spec (path ++ [e.type.name]) w₁ = (.ok value, w₂) ∧
          Build.declare ctx e.type value w₂ = (.ok (instr, out.name), w₃) ∧
          Build.release e.type out.name w₃ = (.ok (), w') ∧ out.instructions = [instr]) ∨
        (r.spec.category ≠ .opaqueNode ∧ ∃ head w₂ body w₃,
          elementHead ctx e r (path ++ [e.type.name]) w₁ = (.ok (head, out.name), w₂) ∧
          elements ctx (path ++ [e.type.name]) out.name e.children w₂ = (.ok body, w₃) ∧
          Build.release e.type out.name w₃ = (.ok (), w') ∧ out.instructions = head ++ body)) := by
  obtain ⟨type, children, properties, declarations, text, payload, rawKind, markup⟩ := e
  rw [element] at ran
  obtain ⟨_, u, checked, ran⟩ := Step.bind_ok ran
  obtain ⟨_, rfl⟩ := Build.checkCancelled_ok checked
  cases known : ctx.registry.element? type with
  | none =>
    simp only [known, skips, handled_plain plain] at ran
    obtain ⟨_, v, nothing, ran⟩ := Step.bind_ok ran
    obtain ⟨rfl, rfl⟩ := Step.pure_ok nothing
    exact (Step.fail_ok ran).elim
  | some r =>
    simp only [known] at ran
    split at ran
    · next skipped =>
      obtain ⟨rfl, rfl⟩ := Step.pure_ok ran
      exact Or.inl ⟨by simp [absent, known, skipped], rfl, rfl⟩
    · next kept =>
      rw [handled_plain plain, Step.pure_then] at ran
      obtain ⟨_, w₁, registered, ran⟩ := Step.bind_ok ran
      refine Or.inr ⟨r, w₁, rfl, Bool.eq_false_iff.mpr kept, registered, ?_⟩
      split at ran
      · next only =>
        obtain ⟨value, w₂, created, ran⟩ := Step.bind_ok ran
        obtain ⟨⟨instr, name⟩, w₃, declared, ran⟩ := Step.bind_ok ran
        obtain ⟨_, w₄, released, ran⟩ := Step.bind_ok ran
        obtain ⟨rfl, rfl⟩ := Step.pure_ok ran
        exact Or.inl ⟨only, value, w₂, instr, w₃, created, declared, released, rfl⟩
      · next more =>
        obtain ⟨⟨head, name⟩, w₂, headed, ran⟩ := Step.bind_ok ran
        obtain ⟨_, w₃, checked, ran⟩ := Step.bind_ok ran
        obtain ⟨_, rfl⟩ := Build.checkCancelled_ok checked
        obtain ⟨body, w₄, below, ran⟩ := Step.bind_ok ran
        obtain ⟨_, w₅, released, ran⟩ := Step.bind_ok ran
        obtain ⟨rfl, rfl⟩ := Step.pure_ok ran
        exact Or.inr ⟨more, head, w₂, body, w₄, headed, below, released, rfl⟩

/-- A child is passed over, or rebuilt and appended. -/
theorem elements_cons_ok {child : Element} {rest : List Element} {name : String}
    {code : List Instr} (ran : elements ctx path name (child :: rest) w = (.ok code, w')) :
    (absent ctx child = true ∧ elements ctx path name rest w = (.ok code, w')) ∨
    ∃ out u more, element ctx path child w = (.ok out, u) ∧
      elements ctx path name rest u = (.ok more, w') ∧
      code = out.instructions ++ append name out.name ++ more := by
  rw [elements] at ran
  split at ran
  · next skipped =>
    refine Or.inl ⟨?_, ran⟩
    rw [skipsOpaque, Bool.and_eq_true] at skipped
    obtain ⟨skip, category⟩ := skipped
    unfold absent
    cases known : ctx.registry.element? child.type with
    | none => rfl
    | some r =>
      rw [known] at category
      have only : r.spec.category = .opaqueNode := by simpa using category
      simp [skips, only, skip]
  · obtain ⟨out, u, first, ran⟩ := Step.bind_ok ran
    obtain ⟨more, v, others, ran⟩ := Step.bind_ok ran
    obtain ⟨rfl, rfl⟩ := Step.pure_ok ran
    exact Or.inr ⟨out, u, more, first, others, rfl⟩

/-- A step for an element does what the plan of the element says. -/
def Follows (ctx : Context) (table : Namespaces) (e : Element) : Prop :=
  ∀ path w out w' stocks, w.Tracks ctx stocks → element ctx path e w = (.ok out, w') →
    w'.shared.namespaces ≤ table →
    w'.Tracks ctx (plan ctx (table.typeName ctx.settings.policy) e stocks).2 ∧
      out = Plan.output (table.spelling ctx.settings.policy)
        (plan ctx (table.typeName ctx.settings.policy) e stocks).1

theorem elements_follow (plain : ctx.handlers = .none) {es : List Element} {name : String}
    {code : List Instr} (each : ∀ c ∈ es, Follows ctx table c) (tracks : w.Tracks ctx stocks)
    (ran : elements ctx path name es w = (.ok code, w')) (le : w'.shared.namespaces ≤ table) :
    w'.Tracks ctx (plans ctx (table.typeName ctx.settings.policy) es stocks).2 ∧
      code = Plan.codeBelow (table.spelling ctx.settings.policy) name
        (plans ctx (table.typeName ctx.settings.policy) es stocks).1 := by
  induction es generalizing w stocks code with
  | nil =>
    rw [elements] at ran
    obtain ⟨rfl, rfl⟩ := Step.pure_ok ran
    simp only [plans, Plan.codeBelow]
    exact ⟨tracks, trivial⟩
  | cons child rest ih =>
    have others := fun c member => each c (List.mem_cons_of_mem child member)
    rw [plans_cons]
    rcases elements_cons_ok ran with ⟨skipped, ran⟩ | ⟨out, u, more, first, others', rfl⟩
    · have none : plan ctx (table.typeName ctx.settings.policy) child stocks = (none, stocks) := by
        rcases plan_cases ctx (table.typeName ctx.settings.policy) child stocks with
          ⟨_, none⟩ | ⟨r, known, kept, _⟩
        · exact none
        · simp [absent, known, kept] at skipped
      rw [none]
      exact ih others tracks ran
    · have grown := (extends_elements (fun c _ => extends_element plain c) _).le others'
      obtain ⟨tracks₁, rfl⟩ := each child List.mem_cons_self path w out u stocks tracks first
        (Namespaces.le_trans grown le)
      obtain ⟨tracks₂, rfl⟩ := ih others tracks₁ others'
      refine ⟨tracks₂, ?_⟩
      dsimp only
      cases (plan ctx (table.typeName ctx.settings.policy) child stocks).1 with
      | none => rfl
      | some p => simp only [Plan.output, Option.toList_some, List.singleton_append, Plan.codeBelow]

/-- A run that ends well writes out the plan of its element, and the pools track the stocks that
the plan leaves. -/
theorem element_follows (plain : ctx.handlers = .none) (table : Namespaces) (e : Element) :
    Follows ctx table e := by
  induction e using Element.induction with
  | step e ih =>
    intro path w out w' stocks tracks ran le
    obtain ⟨code, name⟩ := out
    have sound := Pools.Tracks.sound tracks
    rcases element_ok plain ran with ⟨skipped, out, rfl⟩ | ⟨r, w₁, known, kept, registered, ways⟩
    · rcases plan_cases ctx (table.typeName ctx.settings.policy) e stocks with
        ⟨_, none⟩ | ⟨r, known, kept, _⟩
      · rw [none]
        exact ⟨tracks, out⟩
      · simp [absent, known, kept] at skipped
    · obtain ⟨grown₁, known₁, pools₁⟩ := Build.register_ok registered
      have tracks₁ := tracks.step grown₁ pools₁
      rcases plan_cases ctx (table.typeName ctx.settings.policy) e stocks with
        ⟨skipped, _⟩ | ⟨r', known', _, planned⟩
      · simp [absent, known, kept] at skipped
      obtain rfl : r = r' := Option.some.inj (known.symm.trans known')
      rcases ways with ⟨only, value, w₂, instr, w₃, created, declared, released, rfl⟩ |
        ⟨more, head, w₂, body, w₃, headed, below, released, rfl⟩
      · obtain rfl := Build.release_ok released
        have grown₂ := extends_creation.le created
        have le₂ := Namespaces.le_trans (Build.extends_declare.le declared) le
        rcases planned with ⟨_, planned⟩ | ⟨more, _⟩
        · obtain ⟨pools₂, rfl⟩ := creation_ok known₁ created le₂
          obtain ⟨tracks₃, _, made⟩ := declare_ok (tracks₁.step grown₂ pools₂)
            (Namespaces.contains_of_le grown₂ known₁) declared le
          obtain ⟨rfl, rfl⟩ := Prod.mk.inj made
          rw [planned]
          exact ⟨released_tracks tracks₃ sound.inUse_take.1 le, rfl⟩
        · exact (more only).elim
      · obtain rfl := Build.release_ok released
        -- Names are read against the last table, which agrees with every earlier one where it counts.
        have grown₃ := (extends_elements (fun c _ => extends_element plain c) _).le below
        rcases planned with ⟨only, _⟩ | ⟨_, planned⟩
        · exact (more only).elim
        · obtain ⟨tracks₂, made⟩ := elementHead_ok known₁ tracks₁ headed (Namespaces.le_trans grown₃ le)
          obtain ⟨rfl, rfl⟩ := Prod.mk.inj made
          obtain ⟨tracks₃, body_eq⟩ := elements_follow plain ih tracks₂ below le
          dsimp only at body_eq
          subst body_eq
          have self := holder_takeHead_inUse ctx.settings.uniqueNames e.type
            (madeExpr ctx (table.typeName ctx.settings.policy) e r.spec)
            (ownedObjects ctx (table.typeName ctx.settings.policy) e r) sound
          have kept := (balanced_plans ctx (table.typeName ctx.settings.policy) e.children _
            (sound_takeHead _ _ _ _ sound)).2 _ self.1
          rw [planned]
          exact ⟨released_tracks tracks₃ kept le, rfl⟩

/-- What an element tree gives that is rebuilt on its own. -/
theorem root_ok (plain : ctx.handlers = .none) {shared : Shared} {out : ElementOutput}
    (ran : root ctx (some e) ⟨shared, .empty⟩ = (.ok out, w')) :
    out = Plan.output (w'.shared.namespaces.spelling ctx.settings.policy)
      (plan ctx (w'.shared.namespaces.typeName ctx.settings.policy) e .empty).1 :=
  (element_follows plain w'.shared.namespaces e [] ⟨shared, .empty⟩ out w' .empty
    (Pools.Tracks.empty _ _) ran (Namespaces.le_refl _)).2

end Compile

end DocScript
