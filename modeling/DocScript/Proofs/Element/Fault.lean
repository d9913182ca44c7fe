import DocScript.Proofs.Element.Plan
import DocScript.Proofs.Step

/-!
# Why an element tree is not built

A run that is not cancelled fails at the first element in pre-order that cannot be built, and for a
reason that can be read off the element and the schema. Nothing that happened before matters.
-/

namespace DocScript

open Compile

namespace Element

mutual

/-- The tree without the values of its properties. -/
def unset : Element → Element
  | ⟨type, children, _, declarations, text, payload, rawKind, markup⟩ =>
    ⟨type, unsetAll children, .empty, declarations, text, payload, rawKind, markup⟩

def unsetAll : List Element → List Element
  | [] => []
  | e :: rest => unset e :: unsetAll rest

end

@[simp] theorem type_unset (e : Element) : e.unset.type = e.type := by
  obtain ⟨type, children, properties, declarations, text, payload, rawKind, markup⟩ := e
  rw [unset]

@[simp] theorem rawKind_unset (e : Element) : e.unset.rawKind = e.rawKind := by
  obtain ⟨type, children, properties, declarations, text, payload, rawKind, markup⟩ := e
  rw [unset]

@[simp] theorem value?_unset (e : Element) (name : String) : e.unset.value? name = none := by
  obtain ⟨type, children, properties, declarations, text, payload, rawKind, markup⟩ := e
  rw [unset]
  rfl

theorem children_unset (e : Element) : e.unset.children = e.children.map unset := by
  obtain ⟨type, children, properties, declarations, text, payload, rawKind, markup⟩ := e
  rw [unset]
  dsimp only
  induction children with
  | nil => rw [unsetAll, List.map_nil]
  | cons c rest ih => rw [unsetAll, ih, List.map_cons]

end Element

namespace Build

variable {α β : Type} {ctx : Context} {t : TypeId}

/-- How a step comes out: it ends well and is not cancelled, or fails for a given reason. -/
inductive Outcome : Except Failure α × Workspace → Option Failure → Prop
  | done (a : α) {w : Workspace} (running : w.shared.cancelled = false) : Outcome (.ok a, w) none
  | failed (failure : Failure) (w : Workspace) : Outcome (.error failure, w) (some failure)

/-- A step that is not cancelled fails for the given reason, or ends well if there is none. -/
def Ends (m : Build α) (fault : Option Failure) : Prop :=
  ∀ w : Workspace, w.shared.cancelled = false → Outcome (m w) fault

theorem ends_pure (a : α) : Ends (pure a) none := fun _ running => .done a running

theorem ends_fail (failure : Failure) : Ends (Step.fail failure : Build α) (some failure) :=
  fun w _ => .failed failure w

theorem Ends.bind {m : Build α} {f : α → Build β} {fault fault' : Option Failure}
    (first : Ends m fault) (next : ∀ a, Ends (f a) fault') :
    Ends (m >>= f) (fault.or fault') := by
  intro w running
  rw [Step.bind_eq]
  have start := first w running
  cases h : m w with
  | mk result u =>
    rw [h] at start
    cases start with
    | done a running => exact next a u running
    | failed failure => exact .failed failure u

theorem Ends.after {m : Build α} {f : α → Build β} {fault : Option Failure} (first : Ends m none)
    (next : ∀ a, Ends (f a) fault) : Ends (m >>= f) fault := first.bind next

theorem Ends.before {m : Build α} {f : α → Build β} {fault : Option Failure} (first : Ends m fault)
    (next : ∀ a, Ends (f a) none) : Ends (m >>= f) fault := by
  have both := first.bind next
  rwa [Option.or_none] at both

theorem ends_collect {f : α → Build (List β)} {fault : α → Option Failure}
    (each : ∀ a, Ends (f a) (fault a)) (as : List α) :
    Ends (Step.collect f as) (as.findSome? fault) := by
  induction as with
  | nil => exact ends_pure []
  | cons a rest ih =>
    have step := (each a).bind fun bs => ih.bind fun more => ends_pure (bs ++ more)
    rw [Step.collect_cons]
    cases h : fault a <;> simpa [h] using step

theorem ends_checkCancelled : Ends checkCancelled none := by
  intro w running
  unfold checkCancelled
  rw [running]
  exact .done () running

theorem ends_register : Ends (register ctx t) none := fun _ running => .done () running

theorem ends_addPlain {space : String} : Ends (addPlain space) none :=
  fun _ running => .done () running

theorem ends_typeName : Ends (typeName ctx t) none := fun _ running => .done _ running

theorem ends_release {name : String} : Ends (release t name) none :=
  fun _ running => .done () running

theorem ends_declare {value : Expr} : Ends (declare ctx t value) none := by
  have taken : Ends (acquire ctx t) none := fun _ running => .done _ running
  unfold declare
  refine taken.after fun name => ?_
  split
  split
  · exact ends_pure _
  · exact ends_typeName.after fun _ => ends_pure _

end Build

namespace Compile

open Build

variable {ctx : Context} {e : Element} {path : List String}

/-- A raw payload has to say of what kind it is. -/
def creationFault (e : Element) (spec : ElementSpec) (path : List String) : Option Failure :=
  if spec.category = .rawPayload ∧ e.rawKind.getD "" = "" then
    some (.unsupported (.rawKind e.type) (Location.of? path none))
  else none

/-- A moment that has been read may have no ticks. -/
def simpleFault (e : Element) (p : String × Primitive) : Option Failure :=
  match e.value? p.1 with
  | none => none
  | some raw =>
    match (Raw.json raw).coerce? p.2 with
    | some (.moment m) => if m.ticks? = none then some .momentOutOfRange else none
    | _ => none

/-- Why an element is not built up to its children. -/
def headFault (e : Element) (r : ResolvedElement) (path : List String) : Option Failure :=
  (creationFault e r.spec path).or (r.simple.findSome? (simpleFault e))

mutual

/-- Why an element tree is not built, if it is not. -/
def fault (ctx : Context) (path : List String) : Element → Option Failure
  | e@⟨type, children, _, _, _, _, _, _⟩ =>
    let path := path ++ [type.name]
    match ctx.registry.element? type with
    | none => some (.unsupported (.elementType type) (Location.of? path none))
    | some r =>
      if skips ctx.settings (some r) e || r.spec.category = .opaqueNode then none
      else (headFault e r path).or (faults ctx path children)

def faults (ctx : Context) (path : List String) : List Element → Option Failure
  | [] => none
  | e :: rest => (fault ctx path e).or (faults ctx path rest)

end

theorem ends_creation {spec : ElementSpec} :
    Ends (creation ctx e spec path) (creationFault e spec path) := by
  unfold creation creationFault
  refine ends_typeName.after fun name => ?_
  cases category : spec.category with
  | regular | leafText | opaqueNode => simpa using ends_pure _
  | rawPayload =>
    by_cases missing : e.rawKind.getD "" = ""
    · simpa [missing] using ends_fail _
    · have made (owner : String) := ends_pure (Expr.construct name []
        [.constant owner (e.rawKind.getD ""), .text (e.payload.getD "")])
      simpa [missing] using ends_register.after fun _ => ends_typeName.after made

theorem ends_opaqueCreation {spec : ElementSpec} (only : spec.category = .opaqueNode) :
    Ends (creation ctx e spec path) none := by
  have clean : creationFault e spec path = none := by simp [creationFault, only]
  rw [← clean]
  exact ends_creation

theorem ends_ownedSteps (type : TypeId) (property : String) (arguments : List String)
    (fields : List (String × String)) :
    Ends (ownedSteps ctx type property arguments fields) none :=
  ends_register.after fun _ => ends_typeName.after fun _ => ends_declare.after fun _ => ends_pure _

theorem ends_complexValue (p : String × TypeId) : Ends (complexValue ctx e p) none := by
  rw [complexValue_eq]
  split
  · exact ends_pure _
  · exact ends_ownedSteps _ _ _ _

theorem ends_markupBag : Ends (markupBag ctx e) none := by
  rw [markupBag_eq]
  split
  · exact ends_pure _
  · exact ends_ownedSteps _ _ _ _

theorem ends_momentExpr (m : Calendar.Moment) :
    Ends (momentExpr ctx m) (if m.ticks? = none then some .momentOutOfRange else none) := by
  unfold momentExpr
  refine ends_addPlain.after fun _ => ends_typeName.after fun name => ?_
  cases m.ticks? with
  | none => simpa using ends_fail _
  | some ticks =>
    have made (kind : String) := ends_pure (Expr.construct name []
      [.primitive (.int ticks), .constant kind m.zone.name])
    simpa using ends_typeName.after made

theorem ends_simpleProperty (name : String) (p : String × Primitive) :
    Ends (simpleProperty ctx e name p) (simpleFault e p) := by
  unfold simpleProperty simpleFault
  cases e.value? p.1 with
  | none => exact ends_pure _
  | some raw =>
    dsimp only
    cases (Raw.json raw).coerce? p.2 with
    | none => exact ends_pure _
    | some value =>
      cases value with
      | literal l => exact ends_pure _
      | moment m => exact (ends_momentExpr m).before fun value => ends_pure _

theorem ends_enumProperty (name : String) (p : String × EnumSpec) :
    Ends (enumProperty ctx e name p) none := by
  unfold enumProperty
  split
  · exact ends_pure _
  · refine ends_register.after fun _ => ends_typeName.after fun _ => ?_
    split <;> exact ends_pure _

theorem ends_wire (name : String) (x : Wire) : Ends (wire name x) none :=
  ends_release.after fun _ => ends_pure _

theorem ends_collect_none {α β : Type} {f : α → Build (List β)} (each : ∀ a, Ends (f a) none)
    (as : List α) : Ends (Step.collect f as) none := by
  have all := ends_collect each as
  rwa [List.findSome?_eq_none_iff.mpr fun _ _ => rfl] at all

theorem ends_elementHead {r : ResolvedElement} :
    Ends (elementHead ctx e r path) (headFault e r path) := by
  unfold elementHead
  refine (ends_collect_none ends_complexValue _).after fun values => ?_
  refine ends_markupBag.after fun bag => ?_
  refine ends_creation.bind fun value => ends_declare.after fun made => ?_
  refine (ends_collect (ends_simpleProperty _) _).before fun simple => ?_
  refine (ends_collect_none (ends_wire _) _).after fun wires => ?_
  exact (ends_collect_none (ends_enumProperty _) _).after fun enums => ends_pure _

theorem fault_eq (ctx : Context) (path : List String) (e : Element) :
    fault ctx path e =
      match ctx.registry.element? e.type with
      | none => some (.unsupported (.elementType e.type) (Location.of? (path ++ [e.type.name]) none))
      | some r =>
        if skips ctx.settings (some r) e || r.spec.category = .opaqueNode then none
        else (headFault e r (path ++ [e.type.name])).or
          (faults ctx (path ++ [e.type.name]) e.children) := by
  obtain ⟨type, children, properties, declarations, text, payload, rawKind, markup⟩ := e
  rw [fault]

theorem skips_of_skipsOpaque (skipped : skipsOpaque ctx e = true) :
    ∃ r, ctx.registry.element? e.type = some r ∧ skips ctx.settings (some r) e = true := by
  rw [skipsOpaque, Bool.and_eq_true] at skipped
  obtain ⟨skip, category⟩ := skipped
  cases known : ctx.registry.element? e.type with
  | none => simp [known] at category
  | some r =>
    have only : r.spec.category = .opaqueNode := by simpa [known] using category
    exact ⟨r, rfl, by simp [skips, only, skip]⟩

theorem fault_of_skipsOpaque (skipped : skipsOpaque ctx e = true) : fault ctx path e = none := by
  obtain ⟨r, known, passed⟩ := skips_of_skipsOpaque skipped
  rw [fault_eq, known]
  simp [passed]

theorem ends_elements {es : List Element}
    (each : ∀ c ∈ es, ∀ path, Ends (element ctx path c) (fault ctx path c)) (name : String) :
    Ends (elements ctx path name es) (faults ctx path es) := by
  induction es with
  | nil =>
    rw [elements, faults]
    exact ends_pure []
  | cons c rest ih =>
    have others := ih fun d member => each d (List.mem_cons_of_mem c member)
    rw [elements, faults]
    split
    · next skipped =>
      rw [fault_of_skipsOpaque skipped]
      exact others
    · exact (each c List.mem_cons_self path).bind fun out => others.before fun more => ends_pure _

/-- A run that is not cancelled fails for the first reason that its tree gives, or ends well. -/
theorem ends_element (plain : ctx.handlers = .none) (e : Element) :
    ∀ path, Ends (element ctx path e) (fault ctx path e) := by
  induction e using Element.induction with
  | step e ih =>
    intro path
    rw [fault_eq]
    obtain ⟨type, children, properties, declarations, text, payload, rawKind, markup⟩ := e
    rw [element]
    refine ends_checkCancelled.after fun _ => ?_
    simp only [handled_plain plain, Step.pure_then]
    cases known : ctx.registry.element? type with
    | none => simpa [skips] using ends_fail _
    | some r =>
      simp only [Bool.or_eq_true, decide_eq_true_eq]
      split
      · next skipped => simpa [skipped] using ends_pure _
      · next kept =>
        refine ends_register.after fun _ => ?_
        split
        · next only =>
          simp only [only, or_true, if_true]
          exact (ends_opaqueCreation only).after fun _ => ends_declare.after fun _ =>
            ends_release.after fun _ => ends_pure _
        · next more =>
          -- The element comes before its children, so the reasons stand in pre-order.
          simp only [kept, more]
          refine ends_elementHead.bind fun head => ends_checkCancelled.after fun _ => ?_
          exact (ends_elements ih head.2).before fun body => ends_release.after fun _ => ends_pure _

theorem element_running {w w' : Workspace} {out : ElementOutput}
    (ran : element ctx path e w = (.ok out, w')) : w.shared.cancelled = false := by
  obtain ⟨type, children, properties, declarations, text, payload, rawKind, markup⟩ := e
  rw [element] at ran
  obtain ⟨_, u, checked, _⟩ := Step.bind_ok ran
  unfold checkCancelled at checked
  split at checked
  · cases (Prod.mk.inj checked).1
  · next running => simpa using running

/-- A run ends well if and only if it is not cancelled and its tree gives no reason to fail. -/
theorem element_ok_iff (plain : ctx.handlers = .none) {w : Workspace} :
    (∃ out w', element ctx path e w = (.ok out, w')) ↔
      w.shared.cancelled = false ∧ fault ctx path e = none := by
  constructor
  · rintro ⟨out, w', ran⟩
    have running := element_running ran
    have outcome := ends_element plain e path w running
    rw [ran] at outcome
    generalize fault ctx path e = reason at outcome
    cases outcome
    exact ⟨running, rfl⟩
  · rintro ⟨running, clean⟩
    have outcome := ends_element plain e path w running
    rw [clean] at outcome
    generalize element ctx path e w = result at outcome
    cases outcome with
    | done out running => exact ⟨out, _, rfl⟩

/-! ### Trees that can be built -/

theorem faults_eq_none_iff {es : List Element} :
    faults ctx path es = none ↔ ∀ c ∈ es, fault ctx path c = none := by
  induction es with
  | nil => simp [faults]
  | cons c rest ih => simp [faults, ih]

/-- A tree is clean if its root is passed over, or nothing is wrong with it nor with its children. -/
theorem fault_eq_none_iff :
    fault ctx path e = none ↔ ∃ r, ctx.registry.element? e.type = some r ∧
      ((skips ctx.settings (some r) e = true ∨ r.spec.category = .opaqueNode) ∨
        (headFault e r (path ++ [e.type.name]) = none ∧
          ∀ c ∈ e.children, fault ctx (path ++ [e.type.name]) c = none)) := by
  rw [fault_eq]
  cases ctx.registry.element? e.type with
  | none => simp
  | some r =>
    by_cases passed : skips ctx.settings (some r) e = true ∨ r.spec.category = .opaqueNode
    · simp [passed]
    · simp [passed, faults_eq_none_iff]

mutual

/-- The elements of a tree that are made with their properties: all that are neither skipped nor
opaque nor below such an element. -/
def furnished (ctx : Context) : Element → List (Element × ResolvedElement)
  | e@⟨type, children, _, _, _, _, _, _⟩ =>
    match ctx.registry.element? type with
    | none => []
    | some r =>
      if skips ctx.settings (some r) e || r.spec.category = .opaqueNode then []
      else (e, r) :: furnishedAll ctx children

def furnishedAll (ctx : Context) : List Element → List (Element × ResolvedElement)
  | [] => []
  | e :: rest => furnished ctx e ++ furnishedAll ctx rest

end

/-- Every date that is set on an element of the tree has ticks. -/
def MomentsInRange (ctx : Context) (e : Element) : Prop :=
  ∀ n r, (n, r) ∈ furnished ctx e → ∀ p ∈ r.simple, ∀ raw m, n.value? p.1 = some raw →
    (Raw.json raw).coerce? p.2 = some (.moment m) → m.ticks? ≠ none

theorem simpleFault_eq_none_iff {p : String × Primitive} :
    simpleFault e p = none ↔ ∀ raw m, e.value? p.1 = some raw →
      (Raw.json raw).coerce? p.2 = some (.moment m) → m.ticks? ≠ none := by
  unfold simpleFault
  cases e.value? p.1 with
  | none => simp
  | some raw =>
    simp only [Option.some.injEq]
    constructor
    · rintro clean _ m rfl fits
      simpa [fits] using clean
    · intro timely
      cases fits : (Raw.json raw).coerce? p.2 with
      | none => rfl
      | some value =>
        cases value with
        | literal l => rfl
        | moment m => exact if_neg (timely raw m rfl fits)

theorem simpleFault_unset (p : String × Primitive) : simpleFault e.unset p = none := by
  simp [simpleFault]

theorem headFault_unset_iff {r : ResolvedElement} :
    headFault e r path = none ↔
      headFault e.unset r path = none ∧ ∀ p ∈ r.simple, simpleFault e p = none := by
  have creation : creationFault e.unset r.spec path = creationFault e r.spec path := by
    simp only [creationFault, Element.rawKind_unset, Element.type_unset]
  simp only [headFault, Option.or_eq_none_iff, List.findSome?_eq_none_iff, creation,
    simpleFault_unset, implies_true, and_true]

theorem furnished_eq (ctx : Context) (e : Element) :
    furnished ctx e =
      match ctx.registry.element? e.type with
      | none => []
      | some r =>
        if skips ctx.settings (some r) e || r.spec.category = .opaqueNode then []
        else (e, r) :: e.children.flatMap (furnished ctx) := by
  have all (es : List Element) : furnishedAll ctx es = es.flatMap (furnished ctx) := by
    induction es with
    | nil => rw [furnishedAll, List.flatMap_nil]
    | cons c rest ih => rw [furnishedAll, ih, List.flatMap_cons]
  obtain ⟨type, children, properties, declarations, text, payload, rawKind, markup⟩ := e
  rw [furnished, all]

theorem momentsInRange_of_passed {r : ResolvedElement}
    (known : ctx.registry.element? e.type = some r)
    (passed : skips ctx.settings (some r) e = true ∨ r.spec.category = .opaqueNode) :
    MomentsInRange ctx e := by
  have none : furnished ctx e = [] := by
    rw [furnished_eq]
    simp [known, passed]
  intro n r member
  rw [none] at member
  contradiction

theorem momentsInRange_iff {r : ResolvedElement} (known : ctx.registry.element? e.type = some r)
    (kept : ¬ (skips ctx.settings (some r) e = true ∨ r.spec.category = .opaqueNode)) :
    MomentsInRange ctx e ↔
      (∀ p ∈ r.simple, simpleFault e p = none) ∧ ∀ c ∈ e.children, MomentsInRange ctx c := by
  have nodes : furnished ctx e = (e, r) :: e.children.flatMap (furnished ctx) := by
    rw [furnished_eq]
    simp [known, kept]
  unfold MomentsInRange
  rw [nodes]
  constructor
  · intro timely
    refine ⟨fun p member => ?_, fun c child n s inside => ?_⟩
    · exact simpleFault_eq_none_iff.mpr (timely e r List.mem_cons_self p member)
    · exact timely n s (List.mem_cons_of_mem _ (List.mem_flatMap.mpr ⟨c, child, inside⟩))
  · rintro ⟨own, below⟩ n s member
    rcases List.mem_cons.mp member with same | inside
    · obtain ⟨rfl, rfl⟩ := Prod.mk.inj same
      exact fun p member => simpleFault_eq_none_iff.mp (own p member)
    · obtain ⟨c, child, inside⟩ := List.mem_flatMap.mp inside
      exact below c child n s inside

/-- Of all values of properties, only dates without ticks are a reason to fail. -/
theorem fault_eq_none_iff_unset (e : Element) : ∀ path,
    fault ctx path e = none ↔ fault ctx path e.unset = none ∧ MomentsInRange ctx e := by
  induction e using Element.induction with
  | step e ih =>
    intro path
    -- Skipping asks for no values, so both trees end at the same elements.
    have skipped (r : ResolvedElement) :
        skips ctx.settings (some r) e.unset = skips ctx.settings (some r) e := by
      simp only [skips, Element.rawKind_unset]
    rw [fault_eq_none_iff, fault_eq_none_iff]
    simp only [Element.type_unset, skipped]
    cases known : ctx.registry.element? e.type with
    | none => simp
    | some r =>
      simp only [Option.some.injEq, exists_eq_left']
      by_cases passed : skips ctx.settings (some r) e = true ∨ r.spec.category = .opaqueNode
      · simp [passed, momentsInRange_of_passed known passed]
      · have children : (∀ c ∈ e.children, fault ctx (path ++ [e.type.name]) c = none) ↔
            (∀ c ∈ e.unset.children, fault ctx (path ++ [e.type.name]) c = none) ∧
              ∀ c ∈ e.children, MomentsInRange ctx c := by
          rw [Element.children_unset, List.forall_mem_map]
          constructor
          · intro clean
            exact ⟨fun c child => ((ih c child _).mp (clean c child)).1,
              fun c child => ((ih c child _).mp (clean c child)).2⟩
          · rintro ⟨clean, timely⟩ c child
            exact (ih c child _).mpr ⟨clean c child, timely c child⟩
        rw [momentsInRange_iff known passed, headFault_unset_iff, children]
        simp only [passed, false_or]
        exact and_and_and_comm

end Compile

end DocScript
