import Mathlib
import DocScript.Proofs.Element.Fault
import DocScript.Proofs.Element.Run

/-!
# What the properties of an element contribute

A run that ends well has written, for each element that it built with its properties, one
instruction for each simple or enum property that has a value, and one object and one wiring for
each complex property that has one. This holds whatever the pools of names have been before.
-/

namespace DocScript

open Compile

/-- An object that an element owns, in the variable of a name; `again` if the variable was in use
before. -/
structure Kept where
  object : Owned
  name : String
  again : Bool

/-- Puts a value into a variable, which may have to be declared. -/
def putIn (typeName : TypeId → String) (t : TypeId) (name : String) (again : Bool) (value : Expr) :
    Instr :=
  if again then .assign (.var name) none value
  else .declare name (typeName t) (t.args.map (·.name)) (some value)

namespace Kept

def wire (k : Kept) : Wire := ⟨k.object.type, k.object.property, k.name⟩

/-- The instruction that makes the object the value of its property. -/
def wiring (owner : String) (k : Kept) : Instr := .set owner k.object.property (.var k.name)

/-- The construction of an object: it is made, its fields are set, and a blank line follows. -/
def steps (typeName : TypeId → String) (k : Kept) : List (Instr × Option Wire) :=
  (putIn typeName k.object.type k.name k.again k.object.made, some k.wire) ::
    (k.object.fields.map fun (field, text) => (.set k.name field (.text text), none))
    ++ [(.blank, none)]

def code (typeName : TypeId → String) (k : Kept) : List Instr :=
  putIn typeName k.object.type k.name k.again k.object.made ::
    (k.object.fields.map fun (field, text) => .set k.name field (.text text)) ++ [.blank]

theorem instrs_steps (typeName : TypeId → String) (ks : List Kept) :
    (ks.flatMap (·.steps typeName)).map (·.1) = ks.flatMap (·.code typeName) := by
  induction ks with
  | nil => rfl
  | cons k rest ih =>
    rw [List.flatMap_cons, List.flatMap_cons, List.map_append, ih]
    simp [steps, code, Function.comp_def]

theorem wires_steps (typeName : TypeId → String) (ks : List Kept) :
    (ks.flatMap (·.steps typeName)).filterMap (·.2) = ks.map wire := by
  induction ks with
  | nil => rfl
  | cons k rest ih =>
    rw [List.flatMap_cons, List.filterMap_append, ih]
    simp [steps, List.filterMap_map]

end Kept

namespace Compile

variable {ctx : Context} {table : Namespaces} {e : Element} {w w' : Workspace} {t : TypeId}
  {path : List String}

/-- Everything about an element up to its children, in the order of the script. -/
def headCode (ctx : Context) (typeName : TypeId → String) (e : Element) (r : ResolvedElement)
    (objects : List Kept) (name : String) (again : Bool) : List Instr :=
  objects.flatMap (·.code typeName)
    ++ putIn typeName e.type name again (madeExpr ctx typeName e r.spec) :: declarations e name
    ++ (r.simple.filterMap (simpleSetting typeName e)).map (·.instr name)
    ++ objects.map (·.wiring name)
    ++ (r.enums.filterMap (enumSetting typeName e)).map (·.instr name)
    ++ [.blank]

mutual

/-- What a run writes for an element: nothing if it is skipped, only its creation if it is opaque,
and else its properties one by one and then its children. The texts are those of a table. -/
inductive Written (ctx : Context) (table : Namespaces) : Element → ElementOutput → Prop
  | skipped {e : Element} {r : ResolvedElement} (known : ctx.registry.element? e.type = some r)
      (passed : skips ctx.settings (some r) e = true) : Written ctx table e ⟨[], ""⟩
  | bare {e : Element} {r : ResolvedElement} (known : ctx.registry.element? e.type = some r)
      (kept : skips ctx.settings (some r) e = false) (only : r.spec.category = .opaqueNode)
      (name : String) (again : Bool) :
      Written ctx table e ⟨[putIn (table.typeName ctx.settings.policy) e.type name again
        (madeExpr ctx (table.typeName ctx.settings.policy) e r.spec)], name⟩
  | full {e : Element} {r : ResolvedElement} (known : ctx.registry.element? e.type = some r)
      (kept : skips ctx.settings (some r) e = false) (more : r.spec.category ≠ .opaqueNode)
      (objects : List Kept)
      (owns : objects.map (·.object) =
        ownedObjects ctx (table.typeName ctx.settings.policy) e r)
      (name : String) (again : Bool) {body : List Instr}
      (below : WrittenAll ctx table name e.children body) :
      Written ctx table e ⟨headCode ctx (table.typeName ctx.settings.policy) e r objects name again
        ++ body, name⟩

/-- What a run writes for the children of the element in a variable: each is followed by the
instruction that appends it. -/
inductive WrittenAll (ctx : Context) (table : Namespaces) :
    String → List Element → List Instr → Prop
  | nil (name : String) : WrittenAll ctx table name [] []
  | cons {name : String} {child : Element} {rest : List Element} {out : ElementOutput}
      {more : List Instr} (first : Written ctx table child out)
      (others : WrittenAll ctx table name rest more) :
      WrittenAll ctx table name (child :: rest)
        (out.instructions ++ append name out.name ++ more)

end

/-! ### One step at a time -/

theorem declare_puts {value : Expr} {instr : Instr} {name : String}
    (known : w.shared.namespaces.contains t.space = true)
    (ran : Build.declare ctx t value w = (.ok (instr, name), w'))
    (le : w'.shared.namespaces ≤ table) :
    w'.shared = w.shared ∧ ∃ again,
      instr = putIn (table.typeName ctx.settings.policy) t name again value := by
  unfold Build.declare at ran
  obtain ⟨⟨taken, existing⟩, u, acquired, ran⟩ := Step.bind_ok ran
  obtain ⟨_, rfl⟩ := Build.acquire_ok acquired
  cases existing with
  | true =>
    obtain ⟨made, rfl⟩ := Step.pure_ok ran
    obtain ⟨rfl, rfl⟩ := Prod.mk.inj made
    exact ⟨rfl, true, rfl⟩
  | false =>
    obtain ⟨typeName, v, named, ran⟩ := Step.bind_ok ran
    obtain ⟨rfl, rfl⟩ := Build.typeName_ok named
    obtain ⟨made, rfl⟩ := Step.pure_ok ran
    obtain ⟨rfl, rfl⟩ := Prod.mk.inj made
    refine ⟨rfl, false, ?_⟩
    have type := Namespaces.typeName_of_le ctx.settings.policy le known
    simp only [putIn, type]
    rfl

/-- A step makes some objects, each in a variable of its own name. -/
def Keeps (ctx : Context) (table : Namespaces) (m : Build (List (Instr × Option Wire)))
    (os : List Owned) : Prop :=
  ∀ w made w', m w = (.ok made, w') → w'.shared.namespaces ≤ table →
    ∃ ks : List Kept, ks.map (·.object) = os ∧
      made = ks.flatMap (·.steps (table.typeName ctx.settings.policy))

theorem keeps_nil (ctx : Context) (table : Namespaces) : Keeps ctx table (pure []) [] := by
  intro w made w' ran le
  obtain ⟨rfl, rfl⟩ := Step.pure_ok ran
  exact ⟨[], rfl, rfl⟩

theorem keeps_collect {α : Type} {f : α → Build (List (Instr × Option Wire))} {g : α → Option Owned}
    (each : ∀ a, Keeps ctx table (f a) (g a).toList) (registers : ∀ a, Build.Extends ctx (f a))
    (as : List α) : Keeps ctx table (Step.collect f as) (as.filterMap g) := by
  induction as with
  | nil => exact keeps_nil ctx table
  | cons a rest ih =>
    intro w made w' ran le
    obtain ⟨first, u, others, ran₁, ran₂, rfl⟩ := Step.collect_cons_ok ran
    have le₁ := Namespaces.le_trans ((Step.extends_collect registers rest).le ran₂) le
    obtain ⟨ks, objects, rfl⟩ := each a w _ u ran₁ le₁
    obtain ⟨more, objects', rfl⟩ := ih u _ w' ran₂ le
    refine ⟨ks ++ more, ?_, List.flatMap_append.symm⟩
    rw [List.map_append, objects, objects']
    cases h : g a <;> simp [h]

theorem keeps_ownedSteps (ctx : Context) (table : Namespaces) (type : TypeId) (property : String)
    (arguments : List String) (fields : List (String × String)) :
    Keeps ctx table (ownedSteps ctx type property arguments fields)
      [⟨type, property, .construct (table.typeName ctx.settings.policy type) arguments [], fields⟩] := by
  intro w made w' ran le
  obtain ⟨_, u, registered, ran⟩ := Step.bind_ok ran
  have known := (Build.register_ok registered).2.1
  obtain ⟨typeName, v, named, ran⟩ := Step.bind_ok ran
  obtain ⟨rfl, rfl⟩ := Build.typeName_ok named
  obtain ⟨⟨instr, name⟩, v, declared, ran⟩ := Step.bind_ok ran
  obtain ⟨rfl, rfl⟩ := Step.pure_ok ran
  obtain ⟨shared, again, rfl⟩ := declare_puts known declared le
  rw [Namespaces.typeName_of_le ctx.settings.policy (shared ▸ le) known]
  exact ⟨[⟨_, name, again⟩], rfl, (List.append_nil _).symm⟩

theorem keeps_complexValue (ctx : Context) (table : Namespaces) (e : Element) (p : String × TypeId) :
    Keeps ctx table (complexValue ctx e p)
      (complexObject (table.typeName ctx.settings.policy) e p).toList := by
  rw [complexValue_eq, complexObject]
  cases e.value? p.1 with
  | none => exact keeps_nil ctx table
  | some raw => exact keeps_ownedSteps ctx table _ _ _ _

theorem keeps_markupBag (ctx : Context) (table : Namespaces) (e : Element) :
    Keeps ctx table (markupBag ctx e)
      (bagObject (table.typeName ctx.settings.policy) ctx.registry.bag e).toList := by
  rw [markupBag_eq, bagObject]
  cases e.markup with
  | none => exact keeps_nil ctx table
  | some rules => exact keeps_ownedSteps ctx table _ _ _ _

theorem wires_write {name : String} {ks : List Kept} {instrs : List Instr}
    (ran : Step.collect (wire name) (ks.map (·.wire)) w = (.ok instrs, w')) :
    instrs = ks.map (·.wiring name) := by
  induction ks generalizing w instrs with
  | nil => exact (Step.pure_ok ran).1
  | cons k rest ih =>
    rw [List.map_cons] at ran
    obtain ⟨first, u, others, ran₁, ran₂, rfl⟩ := Step.collect_cons_ok ran
    obtain ⟨_, v, _, ran₁⟩ := Step.bind_ok ran₁
    obtain ⟨rfl, rfl⟩ := Step.pure_ok ran₁
    rw [ih ran₂]
    rfl

theorem elementHead_writes {r : ResolvedElement} {code : List Instr} {name : String}
    (known : w.shared.namespaces.contains e.type.space = true)
    (ran : elementHead ctx e r path w = (.ok (code, name), w')) (le : w'.shared.namespaces ≤ table) :
    ∃ (objects : List Kept) (again : Bool),
      objects.map (·.object) = ownedObjects ctx (table.typeName ctx.settings.policy) e r ∧
      code = headCode ctx (table.typeName ctx.settings.policy) e r objects name again := by
  unfold elementHead at ran
  obtain ⟨values, w₁, ran₁, ran⟩ := Step.bind_ok ran
  obtain ⟨bag, w₂, ran₂, ran⟩ := Step.bind_ok ran
  obtain ⟨value, w₃, ran₃, ran⟩ := Step.bind_ok ran
  obtain ⟨⟨declaration, owner⟩, w₄, ran₄, ran⟩ := Step.bind_ok ran
  obtain ⟨simple, w₅, ran₅, ran⟩ := Step.bind_ok ran
  obtain ⟨wires, w₆, ran₆, ran⟩ := Step.bind_ok ran
  obtain ⟨enums, w₇, ran₇, ran⟩ := Step.bind_ok ran
  obtain ⟨made, rfl⟩ := Step.pure_ok ran
  obtain ⟨rfl, rfl⟩ := Prod.mk.inj made
  -- As in `elementHead_ok`, every table on the way is part of the last one, which gives the texts.
  have le₆ := Namespaces.le_trans ((Step.extends_collect (extends_enumProperty _) _).le ran₇) le
  have le₅ := Namespaces.le_trans ((Step.extends_collect (extends_wire ctx _) _).le ran₆) le₆
  have grown₅ := (Step.extends_collect (extends_simpleProperty _) _).le ran₅
  have le₄ := Namespaces.le_trans grown₅ le₅
  have le₃ := Namespaces.le_trans (Build.extends_declare.le ran₄) le₄
  have grown₃ := extends_creation.le ran₃
  have le₂ := Namespaces.le_trans grown₃ le₃
  have grown₂ := extends_markupBag.le ran₂
  have le₁ := Namespaces.le_trans grown₂ le₂
  have known₂ := Namespaces.contains_of_le
    (Namespaces.le_trans ((Step.extends_collect extends_complexValue _).le ran₁) grown₂) known
  obtain ⟨ks, objects, rfl⟩ := keeps_collect (keeps_complexValue ctx table e) extends_complexValue
    r.complex w _ w₁ ran₁ le₁
  obtain ⟨bags, rules, rfl⟩ := keeps_markupBag ctx table e w₁ _ w₂ ran₂ le₂
  obtain ⟨_, rfl⟩ := creation_ok known₂ ran₃ le₃
  obtain ⟨_, again, rfl⟩ := declare_puts (Namespaces.contains_of_le grown₃ known₂) ran₄ le₄
  obtain ⟨_, rfl⟩ := sets_collect (sets_simpleProperty ctx table e _) (extends_simpleProperty _)
    r.simple w₄ _ w₅ ran₅ le₅
  obtain ⟨_, rfl⟩ := sets_collect (sets_enumProperty ctx table e _) (extends_enumProperty _)
    r.enums w₆ _ w' ran₇ le
  rw [← List.flatMap_append, Kept.wires_steps] at ran₆
  refine ⟨ks ++ bags, again, ?_, ?_⟩
  · rw [List.map_append, objects, rules]
    rfl
  · rw [wires_write ran₆, ← List.flatMap_append, Kept.instrs_steps]
    rfl

/-! ### The whole tree -/

theorem elements_write {es : List Element} {name : String} {code : List Instr}
    (plain : ctx.handlers = .none)
    (each : ∀ c ∈ es, ∀ path w out w', element ctx path c w = (.ok out, w') →
      w'.shared.namespaces ≤ table → Written ctx table c out)
    (ran : elements ctx path name es w = (.ok code, w')) (le : w'.shared.namespaces ≤ table) :
    WrittenAll ctx table name es code := by
  induction es generalizing w code with
  | nil =>
    rw [elements] at ran
    obtain ⟨rfl, rfl⟩ := Step.pure_ok ran
    exact .nil name
  | cons child rest ih =>
    have others := fun c member => each c (List.mem_cons_of_mem child member)
    rw [elements] at ran
    split at ran
    · next skipped =>
      obtain ⟨r, known, passed⟩ := skips_of_skipsOpaque skipped
      exact .cons (.skipped known passed) (ih others ran)
    · obtain ⟨out, u, first, ran⟩ := Step.bind_ok ran
      obtain ⟨more, v, after, ran⟩ := Step.bind_ok ran
      obtain ⟨rfl, rfl⟩ := Step.pure_ok ran
      have grown := (extends_elements (fun c _ => extends_element plain c) _).le after
      exact .cons (each child List.mem_cons_self path w out u first (Namespaces.le_trans grown le))
        (ih others after)

/-- What a run that ends well has written, read with any table that the run leads to. -/
theorem element_writes (plain : ctx.handlers = .none) (table : Namespaces) (e : Element) :
    ∀ path w out w', element ctx path e w = (.ok out, w') → w'.shared.namespaces ≤ table →
      Written ctx table e out := by
  induction e using Element.induction with
  | step e ih =>
    intro path w out w' ran le
    obtain ⟨r, known, _⟩ := fault_eq_none_iff.mp ((element_ok_iff plain).mp ⟨out, w', ran⟩).2
    obtain ⟨code, name⟩ := out
    rcases element_ok plain ran with ⟨skipped, nothing, rfl⟩ | ⟨r', w₁, known', kept, registered, ways⟩
    · rw [nothing]
      exact .skipped known (by simpa [absent, known] using skipped)
    · have known₁ := (Build.register_ok registered).2.1
      dsimp only at ways
      rcases ways with ⟨only, value, w₂, instr, w₃, created, declared, released, rfl⟩ |
        ⟨more, head, w₂, body, w₃, headed, below, released, rfl⟩
      · obtain rfl := Build.release_ok released
        have grown₂ := extends_creation.le created
        have le₂ := Namespaces.le_trans (Build.extends_declare.le declared) le
        obtain ⟨_, rfl⟩ := creation_ok known₁ created le₂
        obtain ⟨_, again, rfl⟩ := declare_puts (Namespaces.contains_of_le grown₂ known₁) declared le
        exact .bare known' kept only name again
      · obtain rfl := Build.release_ok released
        have grown₃ := (extends_elements (fun c _ => extends_element plain c) _).le below
        obtain ⟨objects, again, owns, rfl⟩ :=
          elementHead_writes known₁ headed (Namespaces.le_trans grown₃ le)
        exact .full known' kept more objects owns name again (elements_write plain ih below le)

/-- A run without handlers fails because of the values of properties only where a date that has
been read has no ticks; it ends well if and only if all dates have some and the tree without its
values is built. What it has then written is one instruction for each simple or enum property with
a value, and one object and one wiring for each complex one. -/
theorem root_ok_iff_and_writes (plain : ctx.handlers = .none) (e : Element) (w : Workspace) :
    ((∃ out w', root ctx (some e) w = (.ok out, w')) ↔
      (∃ out w', root ctx (some e.unset) w = (.ok out, w')) ∧ MomentsInRange ctx e) ∧
    ∀ out w', root ctx (some e) w = (.ok out, w') → Written ctx w'.shared.namespaces e out := by
  constructor
  · show (∃ out w', element ctx [] e w = _) ↔ (∃ out w', element ctx [] e.unset w = _) ∧ _
    rw [element_ok_iff plain, element_ok_iff plain, fault_eq_none_iff_unset, and_assoc]
  · intro out w' ran
    exact element_writes plain _ e [] w out w' ran (Namespaces.le_refl _)

/-- One type of elements, which have a date. -/
def dated : Registry :=
  let type : TypeId := .plain "N" "A"
  ⟨.ofList [(type, ⟨⟨type, .regular, none, [⟨"p", .simple .datetime none⟩], ""⟩, [("p", .datetime)],
      [], []⟩)], .empty, .empty, .empty, [type], Schema.standardRawKind, .standard⟩

def datedContext : Context := ⟨.standard, dated, .none⟩

/-- An element whose date is in the year 1 on its own clock, and before it in universal time. -/
def tooEarly : Element :=
  { Element.ofType (.plain "N" "A") with
    properties := .ofList [("p", .str "0001-01-01T00:00:00+01:00")] }

/-- The date is read, but its run fails; without the date the element is built. -/
theorem tooEarly_fails :
    (root datedContext (some tooEarly) ⟨.start false, .empty⟩).1 = .error .momentOutOfRange ∧
      (∃ out w, root datedContext (some tooEarly.unset) ⟨.start false, .empty⟩ = (.ok out, w)) ∧
      ¬ MomentsInRange datedContext tooEarly := by
  have fails : (root datedContext (some tooEarly) ⟨.start false, .empty⟩).1 =
      .error .momentOutOfRange := by
    cbv
  have built : ∃ out w, root datedContext (some tooEarly.unset) ⟨.start false, .empty⟩ =
      (.ok out, w) :=
    Step.exists_ok (by cbv)
  have plain : datedContext.handlers = .none := rfl
  have exactly := (root_ok_iff_and_writes plain tooEarly ⟨.start false, .empty⟩).1
  refine ⟨fails, built, fun timely => ?_⟩
  obtain ⟨out, w, ran⟩ := exactly.mpr ⟨built, timely⟩
  rw [ran] at fails
  cases fails

end Compile

end DocScript
