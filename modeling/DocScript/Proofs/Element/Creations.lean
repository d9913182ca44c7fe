import DocScript.Proofs.Element.Contribution
import DocScript.Proofs.Element.Scope

/-!
# The objects of a tree

A tree is rebuilt of objects: for each element that is reached the values of its complex properties,
its bag of rules and the element itself. The instructions that put an object into a variable, by a
declaration or by an assignment to the variable as a whole, are just those for these objects, in
this order. Each of them holds the type that its object has in the schema.
-/

namespace DocScript

open Compile Stocks

/-- An object of a tree: its type and the expression that makes it. -/
structure Made where
  type : TypeId
  value : Expr

/-- An instruction that puts a value into a variable as a whole. -/
def Instr.creates : Instr → Bool
  | declare _ _ _ _ => true
  | assign _ none _ => true
  | _ => false

/-- The instruction puts the object into a variable of its type. -/
def Made.Put (typeName : TypeId → String) (m : Made) (i : Instr) : Prop :=
  ∃ name again, i = putIn typeName m.type name again m.value

def Owned.object (o : Owned) : Made := ⟨o.type, o.made⟩

namespace Compile

mutual

/-- The objects of a tree in the order in which they are made: nothing for what is skipped, and for
an opaque element only itself. -/
def objects (ctx : Context) (typeName : TypeId → String) : Element → List Made
  | e@⟨type, children, _, _, _, _, _, _⟩ =>
    match ctx.registry.element? type with
    | none => []
    | some r =>
      let self : Made := ⟨type, madeExpr ctx typeName e r.spec⟩
      if skips ctx.settings (some r) e then []
      else if r.spec.category = .opaqueNode then [self]
      else (ownedObjects ctx typeName e r).map (·.object)
        ++ self :: objectsAll ctx typeName children

def objectsAll (ctx : Context) (typeName : TypeId → String) : List Element → List Made
  | [] => []
  | e :: rest => objects ctx typeName e ++ objectsAll ctx typeName rest

end

variable {ctx : Context} {table : Namespaces} {typeName : TypeId → String} {e : Element}

theorem objectsAll_eq (es : List Element) :
    objectsAll ctx typeName es = es.flatMap (objects ctx typeName) := by
  induction es with
  | nil => rw [objectsAll, List.flatMap_nil]
  | cons e rest ih => rw [objectsAll, ih, List.flatMap_cons]

theorem objects_of_absent (absent : absent ctx e = true) : objects ctx typeName e = [] := by
  obtain ⟨type, children, properties, declarations, text, payload, rawKind, markup⟩ := e
  rw [objects]
  unfold Compile.absent at absent
  cases known : ctx.registry.element? type with
  | none => rfl
  | some r => simp_all

section

variable {r : ResolvedElement} (known : ctx.registry.element? e.type = some r)
  (kept : skips ctx.settings (some r) e = false)

include known kept

theorem objects_of_bare (only : r.spec.category = .opaqueNode) :
    objects ctx typeName e = [⟨e.type, madeExpr ctx typeName e r.spec⟩] := by
  obtain ⟨type, children, properties, declarations, text, payload, rawKind, markup⟩ := e
  dsimp only at known
  rw [objects, known]
  simp [kept, only]

theorem objects_of_full (more : r.spec.category ≠ .opaqueNode) :
    objects ctx typeName e = (ownedObjects ctx typeName e r).map (·.object)
      ++ ⟨e.type, madeExpr ctx typeName e r.spec⟩ :: e.children.flatMap (objects ctx typeName) := by
  obtain ⟨type, children, properties, declarations, text, payload, rawKind, markup⟩ := e
  dsimp only at known
  rw [objects, known, objectsAll_eq]
  simp [kept, more]

end

/-- What holds of every object of a tree: it holds of what factories make, and of what each element
that is made with its properties comes to. -/
theorem forall_objects_iff {P : Made → Prop} {Q : Element → ResolvedElement → Prop}
    (bare : ∀ n (spec : ElementSpec), spec.category = .opaqueNode →
      P ⟨n.type, madeExpr ctx typeName n spec⟩)
    (full : ∀ n r, r.spec.category ≠ .opaqueNode →
      (((∀ o ∈ ownedObjects ctx typeName n r, P o.object) ∧
        P ⟨n.type, madeExpr ctx typeName n r.spec⟩) ↔ Q n r)) (e : Element) :
    (∀ m ∈ objects ctx typeName e, P m) ↔ ∀ n r, (n, r) ∈ furnished ctx e → Q n r := by
  induction e using Element.induction with
  | step e ih =>
    rw [furnished_eq]
    cases known : ctx.registry.element? e.type with
    | none => simp [objects_of_absent, absent, known]
    | some r =>
      cases skipped : skips ctx.settings (some r) e with
      | true => simp [objects_of_absent, absent, known, skipped]
      | false =>
        by_cases only : r.spec.category = .opaqueNode
        · simp [objects_of_bare known skipped only, only, bare e r.spec only]
        · simp only [skipped, only, Bool.false_or, decide_false, Bool.false_eq_true, if_false]
          rw [objects_of_full known skipped only, List.forall_mem_append, List.forall_mem_cons,
            List.forall_mem_map, ← and_assoc, full e r only]
          constructor
          · rintro ⟨own, below⟩ n s member
            rcases List.mem_cons.mp member with same | inside
            · obtain ⟨rfl, rfl⟩ := Prod.mk.inj same
              exact own
            · obtain ⟨c, child, inside⟩ := List.mem_flatMap.mp inside
              refine (ih c child).mp (fun m made => below m ?_) n s inside
              exact List.mem_flatMap.mpr ⟨c, child, made⟩
          · intro each
            refine ⟨each e r List.mem_cons_self, fun m member => ?_⟩
            obtain ⟨c, child, made⟩ := List.mem_flatMap.mp member
            refine (ih c child).mpr (fun n s inside => each n s ?_) m made
            exact List.mem_cons_of_mem _ (List.mem_flatMap.mpr ⟨c, child, inside⟩)

/-! ### What is written -/

section

open Instr

variable {is : List Instr}

theorem creates_putIn (t : TypeId) (name : String) (again : Bool) (value : Expr) :
    (putIn typeName t name again value).creates = true := by
  unfold putIn
  split <;> rfl

theorem creates_setting (owner : String) (s : Setting) : (s.instr owner).creates = false := by
  cases s <;> rfl

theorem filter_creates_eq_nil (silent : ∀ i ∈ is, i.creates = false) : is.filter creates = [] :=
  List.filter_eq_nil_iff.mpr fun i member => by simp [silent i member]

theorem filter_creates_append (owner child : String) : (append owner child).filter creates = [] := by
  unfold append
  split <;> rfl

theorem filter_creates_kept (k : Kept) :
    (k.code typeName).filter creates =
      [putIn typeName k.object.type k.name k.again k.object.made] := by
  have rest : ((k.object.fields.map fun (field, text) => Instr.set k.name field (.text text))
      ++ [Instr.blank]).filter creates = [] := by
    refine filter_creates_eq_nil fun i member => ?_
    rcases List.mem_append.mp member with field | blank
    · obtain ⟨d, _, rfl⟩ := List.mem_map.mp field
      rfl
    · rw [List.mem_singleton.mp blank]
      rfl
  rw [Kept.code, List.cons_append, List.filter_cons_of_pos (creates_putIn _ _ _ _), rest]

theorem filter_creates_headCode {r : ResolvedElement} {objects : List Kept} {name : String}
    {again : Bool} :
    (headCode ctx typeName e r objects name again).filter creates =
      objects.map (fun k => putIn typeName k.object.type k.name k.again k.object.made)
        ++ [putIn typeName e.type name again (madeExpr ctx typeName e r.spec)] := by
  have values : (objects.flatMap (·.code typeName)).filter creates =
      objects.map (fun k => putIn typeName k.object.type k.name k.again k.object.made) := by
    induction objects with
    | nil => rfl
    | cons k rest ih =>
      rw [List.flatMap_cons, List.filter_append, filter_creates_kept, ih, List.map_cons]
      rfl
  have declared : (declarations e name).filter creates = [] := by
    refine filter_creates_eq_nil fun i member => ?_
    obtain ⟨d, _, rfl⟩ := List.mem_map.mp member
    rfl
  have settings (ss : List Setting) : (ss.map (·.instr name)).filter creates = [] := by
    refine filter_creates_eq_nil fun i member => ?_
    obtain ⟨s, _, rfl⟩ := List.mem_map.mp member
    exact creates_setting name s
  have wirings : (objects.map (·.wiring name)).filter creates = [] := by
    refine filter_creates_eq_nil fun i member => ?_
    obtain ⟨k, _, rfl⟩ := List.mem_map.mp member
    rfl
  simp only [headCode, List.filter_append, List.filter_cons_of_pos (creates_putIn _ _ _ _), values,
    declared, settings, wirings, List.append_nil]
  exact List.append_nil _

theorem put_all (typeName : TypeId → String) (ks : List Kept) (name : String) (again : Bool)
    (t : TypeId) (value : Expr) :
    List.Forall₂ (Made.Put typeName) ((ks.map (·.object)).map (·.object) ++ [⟨t, value⟩])
      (ks.map (fun k => putIn typeName k.object.type k.name k.again k.object.made)
        ++ [putIn typeName t name again value]) := by
  induction ks with
  | nil => exact .cons ⟨name, again, rfl⟩ .nil
  | cons k rest ih => exact .cons ⟨k.name, k.again, rfl⟩ ih

theorem writtenAll_puts {es : List Element} {name : String} {code : List Instr}
    (each : ∀ c ∈ es, ∀ out, Written ctx table c out →
      List.Forall₂ (Made.Put (table.typeName ctx.settings.policy))
        (objects ctx (table.typeName ctx.settings.policy) c) (out.instructions.filter creates))
    (written : WrittenAll ctx table name es code) :
    List.Forall₂ (Made.Put (table.typeName ctx.settings.policy))
      (es.flatMap (objects ctx (table.typeName ctx.settings.policy))) (code.filter creates) := by
  induction es generalizing code with
  | nil =>
    cases written
    exact .nil
  | cons c rest ih =>
    cases written with
    | cons first others =>
      have own := each c List.mem_cons_self _ first
      have later := ih (fun d member => each d (List.mem_cons_of_mem c member)) others
      rw [List.filter_append, List.filter_append, filter_creates_append, List.append_nil,
        List.flatMap_cons]
      exact List.rel_append own later

/-- What is written for a tree puts its objects into variables, in order, and nothing else. -/
theorem written_puts (e : Element) : ∀ out, Written ctx table e out →
    List.Forall₂ (Made.Put (table.typeName ctx.settings.policy))
      (objects ctx (table.typeName ctx.settings.policy) e) (out.instructions.filter creates) := by
  induction e using Element.induction with
  | step e ih =>
    intro out written
    cases written with
    | skipped known passed =>
      rw [objects_of_absent (by simp [absent, known, passed])]
      exact .nil
    | bare known kept only name again =>
      rw [objects_of_bare known kept only, List.filter_cons_of_pos (creates_putIn _ _ _ _)]
      exact .cons ⟨name, again, rfl⟩ .nil
    | @full _ r known kept more ks owns name again body below =>
      have later := writtenAll_puts ih below
      have head := put_all (table.typeName ctx.settings.policy) ks name again e.type
        (madeExpr ctx (table.typeName ctx.settings.policy) e r.spec)
      rw [owns] at head
      rw [objects_of_full known kept more, List.filter_append, filter_creates_headCode,
        List.append_cons]
      exact List.rel_append head later

end

end Compile

/-! ### What is planned -/

namespace Plan

mutual

/-- The creations of a plan, in order. -/
def creations : Plan → List Creation
  | bare c => [c]
  | full vs c _ _ _ ps => vs.map (·.creation) ++ c :: creationsBelow ps

def creationsBelow : List Plan → List Creation
  | [] => []
  | p :: rest => creations p ++ creationsBelow rest

end

theorem creationsBelow_eq (ps : List Plan) : creationsBelow ps = ps.flatMap creations := by
  induction ps with
  | nil => rw [creationsBelow, List.flatMap_nil]
  | cons p rest ih => rw [creationsBelow, ih, List.flatMap_cons]

end Plan

def Creation.object (c : Creation) : Made := ⟨c.holder.type, c.made⟩

section

open Instr

variable {sp : Spelling} {owner : String}

theorem creates_creation (sp : Spelling) (c : Creation) : (c.instr sp).creates = true :=
  creates_putIn c.holder.type (sp.variableName c.holder) c.again c.made

theorem filter_creates_values (sp : Spelling) (vs : List Attachment) :
    (vs.flatMap (·.code sp)).filter creates = vs.map (·.creation.instr sp) := by
  induction vs with
  | nil => rfl
  | cons v rest ih =>
    have fields : ((v.fields.map fun (field, text) =>
        Instr.set (sp.variableName v.holder) field (.text text)) ++ [Instr.blank]).filter
          creates = [] := by
      apply filter_creates_eq_nil
      intro i member
      rcases List.mem_append.mp member with field | blank
      · obtain ⟨d, _, rfl⟩ := List.mem_map.mp field
        rfl
      · rw [List.mem_singleton.mp blank]
        rfl
    rw [List.flatMap_cons, List.filter_append, ih, Attachment.code, List.cons_append,
      List.filter_cons_of_pos (creates_creation sp v.creation), fields]
    rfl

theorem filter_creates_settingsCode (vs : List Attachment) (ds : List (String × String))
    (simple enums : List Setting) :
    (settingsCode sp owner vs ds simple enums).filter creates = [] := by
  apply filter_creates_eq_nil
  intro i member
  simp only [settingsCode, List.mem_append, List.mem_map, List.mem_singleton] at member
  rcases member with (((⟨d, _, rfl⟩ | ⟨s, _, rfl⟩) | ⟨v, _, rfl⟩) | ⟨s, _, rfl⟩) | rfl
  · rfl
  · exact creates_setting owner s
  · rfl
  · exact creates_setting owner s
  · rfl

theorem filter_creates_below {ps : List Plan}
    (each : ∀ p ∈ ps, (p.code sp).filter creates = p.creations.map (·.instr sp)) :
    (Plan.codeBelow sp owner ps).filter creates =
      (Plan.creationsBelow ps).map (·.instr sp) := by
  induction ps with
  | nil => rfl
  | cons p rest ih =>
    have others := ih fun q member => each q (List.mem_cons_of_mem p member)
    rw [Plan.codeBelow, Plan.creationsBelow, List.filter_append, List.filter_append,
      filter_creates_append, List.append_nil, each p List.mem_cons_self, others, List.map_append]

/-- The code of a plan puts just what the plan creates into variables. -/
theorem filter_creates_code (sp : Spelling) (p : Plan) :
    (p.code sp).filter creates = p.creations.map (·.instr sp) := by
  induction p using Plan.induction with
  | step p ih =>
    cases p with
    | bare c =>
      rw [Plan.code, Plan.creations, List.filter_cons_of_pos (creates_creation sp c)]
      rfl
    | full vs c ds simple enums ps =>
      have below : (Plan.codeBelow sp (sp.variableName c.holder) ps).filter creates =
          (Plan.creationsBelow ps).map (·.instr sp) := filter_creates_below ih
      have head : c.instr sp :: settingsCode sp (sp.variableName c.holder) vs ds simple enums =
          [c.instr sp] ++ settingsCode sp (sp.variableName c.holder) vs ds simple enums := rfl
      have self : [c.instr sp].filter creates = [c.instr sp] :=
        List.filter_cons_of_pos (creates_creation sp c)
      rw [Plan.code, headCode_eq, head, List.filter_append, List.filter_append, List.filter_append,
        filter_creates_values, filter_creates_settingsCode, below, self,
        List.append_nil, Plan.creations, List.map_append, List.map_cons, List.map_map,
        List.append_assoc]
      rfl

end

namespace Compile

variable {ctx : Context} {typeName : TypeId → String} {stocks : Stocks}

theorem objects_takeAll (unique : Bool) (os : List Owned) (stocks : Stocks) :
    (takeAll unique os stocks).1.map (·.creation.object) = os.map (·.object) := by
  induction os generalizing stocks with
  | nil => rfl
  | cons o rest ih =>
    rw [takeAll_cons, List.map_cons, List.map_cons, ih]
    rfl

theorem plans_objects {es : List Element}
    (each : ∀ e ∈ es, ∀ stocks, ((plan ctx typeName e stocks).1.toList.flatMap
      Plan.creations).map (·.object) = objects ctx typeName e) (stocks : Stocks) :
    (Plan.creationsBelow (plans ctx typeName es stocks).1).map (·.object) =
      es.flatMap (objects ctx typeName) := by
  induction es generalizing stocks with
  | nil =>
    rw [plans]
    rfl
  | cons e rest ih =>
    have others := ih fun c member => each c (List.mem_cons_of_mem e member)
    rw [plans_cons, Plan.creationsBelow_eq, List.flatMap_append, List.map_append,
      each e List.mem_cons_self, ← Plan.creationsBelow_eq, others, List.flatMap_cons]

/-- A plan creates the objects of its tree. -/
theorem plan_objects (e : Element) : ∀ stocks,
    ((plan ctx typeName e stocks).1.toList.flatMap Plan.creations).map (·.object) =
      objects ctx typeName e := by
  induction e using Element.induction with
  | step e ih =>
    intro stocks
    rcases plan_cases ctx typeName e stocks with
      ⟨absent, eq⟩ | ⟨r, known, kept, ⟨only, eq⟩ | ⟨more, eq⟩⟩
    · rw [eq, objects_of_absent absent]
      rfl
    · rw [eq, objects_of_bare known kept only]
      rfl
    · rw [eq, objects_of_full known kept more, ← plans_objects ih]
      have values := objects_takeAll ctx.settings.uniqueNames (ownedObjects ctx typeName e r) stocks
      simp only [Option.toList_some, List.flatMap_cons, List.flatMap_nil, List.append_nil,
        Plan.creations, List.map_append, List.map_cons, List.map_map]
      rw [← values]
      rfl

end Compile

/-! ### Which variables hold the objects -/

/-- The variable was made. -/
def Stocks.Has (stocks : Stocks) (v : Variable) : Prop := v.number < (stocks v.type).made

theorem Stocks.Has.after {stocks later : Stocks} {vs : List Variable} {v : Variable}
    (has : stocks.Has v) (yields : Yields stocks later vs) : later.Has v :=
  Nat.lt_of_lt_of_le has (yields.grows v.type)

namespace Compile

variable {ctx : Context} {typeName : TypeId → String} {stocks : Stocks} {unique : Bool}

theorem has_takeHead (sound : stocks.Sound unique) (t : TypeId) (made : Expr) (os : List Owned) :
    (∀ v ∈ (takeHead unique t made os stocks).1.1,
      (takeHead unique t made os stocks).2.Has v.holder) ∧
    (takeHead unique t made os stocks).2.Has (takeHead unique t made os stocks).1.2.holder := by
  constructor
  · intro v member
    have used := (allInUse_takeAll sound os).2 v member
    exact (Has.after used.1 (Yields.take unique _ t)).after (yields_giveAll unique _ _)
  · exact (holder_takeHead_inUse unique t made os sound).1.1

theorem has_plans {es : List Element}
    (each : ∀ e ∈ es, ∀ stocks, stocks.Sound ctx.settings.uniqueNames →
      ∀ c ∈ (plan ctx typeName e stocks).1.toList.flatMap Plan.creations,
        (plan ctx typeName e stocks).2.Has c.holder)
    (sound : stocks.Sound ctx.settings.uniqueNames) :
    ∀ c ∈ Plan.creationsBelow (plans ctx typeName es stocks).1,
      (plans ctx typeName es stocks).2.Has c.holder := by
  induction es generalizing stocks with
  | nil =>
    intro c member
    rw [plans] at member
    cases member
  | cons e rest ih =>
    intro c member
    have sound' := (balanced_plan ctx typeName e stocks sound).1
    have others := ih (fun d member => each d (List.mem_cons_of_mem e member)) sound'
    rw [Plan.creationsBelow_eq] at others
    rw [plans_cons, Plan.creationsBelow_eq, List.flatMap_append] at member
    rw [plans_cons]
    rcases List.mem_append.mp member with first | later
    · have has := each e List.mem_cons_self stocks sound c first
      exact has.after (yields_plans_of (fun d _ => yields_plan ctx typeName d) _)
    · exact others c later

/-- A plan puts its objects into variables that it makes or that were made before. -/
theorem has_plan (e : Element) : ∀ stocks, stocks.Sound ctx.settings.uniqueNames →
    ∀ c ∈ (plan ctx typeName e stocks).1.toList.flatMap Plan.creations,
      (plan ctx typeName e stocks).2.Has c.holder := by
  induction e using Element.induction with
  | step e ih =>
    intro stocks sound c member
    rcases plan_cases ctx typeName e stocks with ⟨_, eq⟩ | ⟨r, _, _, ⟨_, eq⟩ | ⟨_, eq⟩⟩
    · rw [eq] at member
      cases member
    · rw [eq] at member ⊢
      obtain rfl := List.mem_singleton.mp member
      exact Has.after sound.inUse_take.1.1 (Yields.give _ _ _)
    · obtain ⟨values, self⟩ := has_takeHead sound e.type (madeExpr ctx typeName e r.spec)
        (ownedObjects ctx typeName e r)
      have below := has_plans ih (sound_takeHead ctx.settings.uniqueNames e.type
        (madeExpr ctx typeName e r.spec) (ownedObjects ctx typeName e r) sound)
      have grows := @yields_plans_of ctx typeName e.children
        (fun d _ => yields_plan ctx typeName d) (takeHead ctx.settings.uniqueNames e.type
          (madeExpr ctx typeName e r.spec) (ownedObjects ctx typeName e r) stocks).2
      rw [eq] at member ⊢
      simp only [Option.toList_some, List.flatMap_cons, List.flatMap_nil, List.append_nil,
        Plan.creations, List.mem_append, List.mem_map, List.mem_cons] at member
      apply Has.after _ (Yields.give _ _ _)
      rcases member with ⟨v, inside, rfl⟩ | rfl | later
      · exact (values v inside).after grows
      · exact self.after grows
      · exact below c later

end Compile

end DocScript
