import DocScript.Proofs.Json.Reading
import DocScript.Proofs.Script.Codec
import DocScript.Proofs.Script.Imports
import DocScript.Proofs.Script.Target
import DocScript.Proofs.Value.Integers

/-!
# Scripts are legible

The expressions that a run writes are at most a call inside a construction, and its scopes contain
no others; its integers have at most 64 bits. So the text of a script is never too deep to be read
back, and none of its integers is too long.
-/

namespace DocScript

open Json Numeral

/-! ### Room for expressions and instructions -/

section Room

variable {n : Nat}

theorem legible_ofStrings (names : List String) : Legible (n + 1) (.ofStrings names) := by
  simp [Json.ofStrings]

theorem legible_ofString (o : Option String) : Legible n (.ofOption .str o) := by
  cases o <;> simp [Json.ofOption]

theorem legible_ofOption {α : Type} {write : α → Json} {o : Option α} :
    Legible n (.ofOption write o) ↔ ∀ a ∈ o, Legible n (write a) := by
  cases o <;> simp [Json.ofOption]

namespace Expr

@[simp] theorem legible_primitive (l : Literal) :
    Legible (n + 1) (primitive l).toJson ↔ Legible n l.toJson := by
  rw [toJson]
  simp

@[simp] theorem legible_text (s : String) : Legible (n + 1) (text s).toJson := by
  rw [text, legible_primitive]
  exact legible_str s

@[simp] theorem legible_truth (b : Bool) : Legible (n + 1) (truth b).toJson := by
  rw [truth, legible_primitive]
  exact legible_bool b

@[simp] theorem legible_var (name : String) : Legible (n + 1) (var name).toJson := by
  rw [toJson]
  simp

@[simp] theorem legible_type (name : String) : Legible (n + 1) (type name).toJson := by
  rw [toJson]
  simp

@[simp] theorem legible_constant (owner member : String) :
    Legible (n + 1) (constant owner member).toJson := by
  rw [toJson]
  simp

@[simp] theorem legible_byRef (name : String) : Legible (n + 1) (byRef name).toJson := by
  rw [toJson]
  simp

@[simp] theorem legible_construct {typeName : String} {typeArgs : List String} {args : List Expr} :
    Legible (n + 2) (construct typeName typeArgs args).toJson ↔ ∀ e ∈ args, Legible n e.toJson := by
  rw [toJson_construct]
  simp [legible_ofStrings]

@[simp] theorem legible_call {target : Option Expr} {operation : String} {typeArgs : List String}
    {args : List Expr} : Legible (n + 2) (call target operation typeArgs args).toJson ↔
      (∀ e ∈ target, Legible (n + 1) e.toJson) ∧ ∀ e ∈ args, Legible n e.toJson := by
  rw [toJson_call, callJson]
  simp [legible_ofStrings, legible_ofOption]

end Expr

namespace Instr

@[simp] theorem legible_declare {name typeName : String} {typeArgs : List String}
    {value : Option Expr} : Legible (n + 2) (declare name typeName typeArgs value).toJson ↔
      ∀ e ∈ value, Legible (n + 1) e.toJson := by
  rw [toJson]
  simp [legible_ofStrings, legible_ofOption]

@[simp] theorem legible_assign {target value : Expr} {member : Option String} :
    Legible (n + 1) (assign target member value).toJson ↔
      Legible n target.toJson ∧ Legible n value.toJson := by
  rw [toJson]
  simp [legible_ofString]

@[simp] theorem legible_set {name member : String} {value : Expr} :
    Legible (n + 2) (set name member value).toJson ↔ Legible (n + 1) value.toJson := by
  simp [set]

@[simp] theorem legible_invokeOn {target : Option Expr} {operation : String} {args : List Expr} :
    Legible (n + 3) (invokeOn target operation args).toJson ↔
      (∀ e ∈ target, Legible (n + 1) e.toJson) ∧ ∀ e ∈ args, Legible n e.toJson := by
  rw [invokeOn, toJson, Call.toJson]
  simp

@[simp] theorem legible_comment (text : String) : Legible (n + 1) (comment text).toJson := by
  rw [toJson]
  simp

@[simp] theorem legible_blank : Legible (n + 1) blank.toJson := by
  rw [toJson]
  simp

@[simp] theorem legible_scope {acquire body release : List Instr} :
    Legible (n + 2) (scope acquire body release).toJson ↔
      (∀ i ∈ acquire, Legible n i.toJson) ∧ (∀ i ∈ body, Legible n i.toJson) ∧
        ∀ i ∈ release, Legible n i.toJson := by
  rw [toJson, toJsonAll_eq, toJsonAll_eq, toJsonAll_eq]
  simp

end Instr

end Room

/-- No instruction needs more room than a scope with a call inside a construction. -/
def Instr.Shallow (is : List Instr) : Prop := ∀ i ∈ is, Legible 8 i.toJson

namespace Instr

variable {i : Instr} {is js : List Instr}

@[simp] theorem shallow_nil : Shallow [] := nofun

@[simp] theorem shallow_cons : Shallow (i :: is) ↔ Legible 8 i.toJson ∧ Shallow is :=
  List.forall_mem_cons

@[simp] theorem shallow_append : Shallow (is ++ js) ↔ Shallow is ∧ Shallow js :=
  List.forall_mem_append

@[simp] theorem shallow_map {α : Type} {f : α → Instr} {as : List α} :
    Shallow (as.map f) ↔ ∀ a ∈ as, Legible 8 (f a).toJson := List.forall_mem_map

end Instr

/-! ### Literals -/

/-- A number of 64 bits is not too long to be read. -/
theorem legible_int {n : Nat} {k : Int} (small : k.natAbs < 10 ^ 20) : Legible n (.int k) := by
  have short : 10 ^ 20 ≤ 10 ^ maxDigits := Nat.pow_le_pow_right (by decide) (by decide)
  exact (within_scalar rfl).mpr (isPrinted_int.mpr (Nat.lt_of_lt_of_le small short))

theorem Literal.legible_float {n : Nat} (x : Binary64) : Legible n (float x).toJson := by
  cases x <;> exact (within_scalar rfl).mpr trivial

/-- What a property is set to can be stored. -/
theorem Raw.coerce?_legible {n : Nat} {kind : Primitive} {raw : Raw} {l : Literal}
    (fits : raw.coerce? kind = some (.literal l)) : Legible n l.toJson := by
  unfold coerce? at fits
  split at fits
  · next low high range =>
    obtain ⟨k, found, same⟩ := Option.map_eq_some_iff.mp fits
    obtain ⟨_, between⟩ := Option.filter_eq_some_iff.mp found
    obtain ⟨first, last⟩ := Primitive.range?_small range
    cases same
    simp only [Bool.and_eq_true, decide_eq_true_eq] at between
    exact legible_int (by omega)
  · split at fits
    · obtain ⟨b, _, same⟩ := Option.map_eq_some_iff.mp fits
      cases same
      exact legible_bool b
    · obtain ⟨x, _, same⟩ := Option.map_eq_some_iff.mp fits
      cases same
      exact Literal.legible_float x
    · obtain ⟨x, _, same⟩ := Option.map_eq_some_iff.mp fits
      cases same
      exact Literal.legible_float x
    · obtain ⟨d, _, same⟩ := Option.map_eq_some_iff.mp fits
      cases same
      exact legible_str d.text
    · obtain ⟨m, _, same⟩ := Option.map_eq_some_iff.mp fits
      cases same
    · cases fits
      exact legible_str _

namespace Calendar.Moment

theorem ticks?_small {m : Moment} {ticks : Int} (inside : m.ticks? = some ticks) :
    ticks.natAbs < 10 ^ 20 := by
  unfold ticks? at inside
  split at inside
  · next bounds =>
    have last : totalDays * microsPerDay < 10 ^ 18 := by decide
    cases inside
    omega
  · cases inside

end Calendar.Moment

namespace Compile

open Instr

variable {ctx : Context} {graph : Graph} {table : Namespaces} {typeName : TypeId → String}
  {e : Element} {r : ResolvedElement} {t : TypeId} {part : Part} {parentType : TypeId}
  {name owner parent : String} {again : Bool} {value : Expr} {is : List Instr}

/-! ### Elements -/

theorem legible_putIn (made : Legible 7 value.toJson) :
    Legible 8 (putIn typeName t name again value).toJson := by
  unfold putIn
  split <;> simp [made]

theorem legible_madeExpr (ctx : Context) (typeName : TypeId → String) (e : Element)
    (spec : ElementSpec) : Legible 7 (madeExpr ctx typeName e spec).toJson := by
  unfold madeExpr
  cases spec.category <;> simp

theorem legible_owned {o : Owned} (member : o ∈ ownedObjects ctx typeName e r) :
    Legible 7 o.made.toJson := by
  rcases List.mem_append.mp member with value | rules
  · obtain ⟨p, _, object⟩ := List.mem_filterMap.mp value
    obtain ⟨raw, _, rfl⟩ := Option.map_eq_some_iff.mp object
    simp
  · rw [Option.mem_toList] at rules
    obtain ⟨markup, _, rfl⟩ := Option.map_eq_some_iff.mp rules
    simp

theorem shallow_kept {k : Kept} (made : Legible 7 k.object.made.toJson) :
    Shallow (k.code typeName) := by
  simp [Kept.code, legible_putIn made]

theorem legible_simpleSetting {p : String × Primitive} {s : Setting}
    (set : simpleSetting typeName e p = some s) : Legible 8 (s.instr name).toJson := by
  obtain ⟨raw, _, rfl⟩ := Option.map_eq_some_iff.mp set
  cases fits : (Raw.json raw).coerce? p.2 with
  | none => simp [Setting.instr]
  | some value =>
    cases value with
    | literal l => simp [Setting.instr, Raw.coerce?_legible fits]
    | moment m =>
      have small : (m.ticks?.getD 0).natAbs < 10 ^ 20 := by
        cases inside : m.ticks? with
        | none => decide
        | some ticks => exact Calendar.Moment.ticks?_small inside
      simp [Setting.instr, momentObject, Literal.toJson, legible_int small]

theorem legible_enumSetting {p : String × EnumSpec} {s : Setting}
    (set : enumSetting typeName e p = some s) : Legible 8 (s.instr name).toJson := by
  obtain ⟨raw, _, rfl⟩ := Option.map_eq_some_iff.mp set
  cases p.2.constant? raw <;> simp [Setting.instr]

theorem shallow_headCode {objects : List Kept}
    (owns : objects.map (·.object) = ownedObjects ctx typeName e r) :
    Shallow (headCode ctx typeName e r objects name again) := by
  have made : Shallow (objects.flatMap (·.code typeName)) := by
    intro i member
    obtain ⟨k, inside, line⟩ := List.mem_flatMap.mp member
    have object : k.object ∈ ownedObjects ctx typeName e r := owns ▸ List.mem_map.mpr ⟨k, inside, rfl⟩
    exact shallow_kept (legible_owned object) i line
  have simple : Shallow ((r.simple.filterMap (simpleSetting typeName e)).map (·.instr name)) := by
    rw [shallow_map]
    intro s member
    obtain ⟨p, _, set⟩ := List.mem_filterMap.mp member
    exact legible_simpleSetting set
  have coded : Shallow ((r.enums.filterMap (enumSetting typeName e)).map (·.instr name)) := by
    rw [shallow_map]
    intro s member
    obtain ⟨p, _, set⟩ := List.mem_filterMap.mp member
    exact legible_enumSetting set
  have self : Legible 8 (putIn typeName e.type name again (madeExpr ctx typeName e r.spec)).toJson :=
    legible_putIn (legible_madeExpr ctx typeName e r.spec)
  simp [headCode, made, self, simple, coded, declarations, Kept.wiring]

theorem shallow_appended (name child : String) : Shallow (append name child) := by
  unfold append
  split <;> simp

theorem shallow_writtenAll {es : List Element} {code : List Instr}
    (each : ∀ c ∈ es, ∀ out, Written ctx table c out → Shallow out.instructions)
    (written : WrittenAll ctx table name es code) : Shallow code := by
  induction es generalizing code with
  | nil =>
    cases written
    exact shallow_nil
  | cons c rest ih =>
    cases written with
    | @cons _ _ _ out _ first others =>
      have later := ih (fun d member => each d (List.mem_cons_of_mem c member)) others
      simp [each c List.mem_cons_self _ first, shallow_appended, later]

theorem shallow_written (e : Element) : ∀ out, Written ctx table e out → Shallow out.instructions := by
  induction e using Element.induction with
  | step e ih =>
    intro out written
    cases written with
    | skipped known passed => exact shallow_nil
    | bare known kept only name again => simp [legible_putIn, legible_madeExpr]
    | full known kept more objects owns name again below =>
      rw [shallow_append]
      exact ⟨shallow_headCode owns, shallow_writtenAll ih below⟩

/-! ### Graphs -/

theorem shallow_links (typeName : TypeId → String) (owner : String) (hyperlinks : List Hyperlink)
    (externals : List ExternalLink) :
    Shallow (linksCode typeName owner hyperlinks externals) := by
  have calls {is : List Instr} (each : Shallow is) : Shallow (grouped is) := by
    unfold grouped
    split <;> simp [each]
  rw [linksCode, shallow_append]
  exact ⟨calls (by simp [hyperlinkCode, uriCode]), calls (by simp [externalCode, uriCode])⟩

theorem shallow_partCode (e : Edge) :
    Shallow (partCode ctx typeName parent parentType e part name) := by
  have creation : Shallow (creationCode ctx typeName parent parentType e part name) := by
    unfold creationCode
    cases addOperation? ctx.registry parentType part.type with
    | none => simp
    | some op =>
      dsimp only
      split <;> split <;> simp
  simp [partCode, creation, fillCall, shallow_links]

theorem shallow_writes {es : List Edge} {ps : List Part}
    (writes : Writes ctx graph typeName parent parentType es ps is) : Shallow is := by
  induction writes with
  | done => exact shallow_nil
  | again found name others ih => simp [ih]
  | first found name inner others below after => simp [shallow_partCode, below, after]

theorem shallow_content (writes : WritesContent ctx table part is) : Shallow is := by
  cases writes with
  | none content => exact shallow_nil
  | binary content => simp [feedCode]
  | root content tree assigned =>
    rcases rootAssignment_ok assigned with rfl | ⟨_, property, rfl⟩ <;>
      simp [shallow_written _ _ tree]

end Compile

/-! ### Scripts -/

theorem Routine.legible {r : Routine} (body : Instr.Shallow r.body)
    (returns : ∀ e ∈ r.returns, Legible 9 e.toJson) : Legible 10 r.toJson := by
  have parameters : ∀ p ∈ r.parameters, Legible 8 p.toJson := fun p _ => by simp [Parameter.toJson]
  have lines : ∀ i ∈ r.body, Legible 8 i.toJson := body
  have given : Legible 9 (Json.ofOption Expr.toJson r.returns) := legible_ofOption.mpr returns
  simpa [Routine.toJson, Instr.toJsonAll_eq, legible_ofString, given] using And.intro parameters lines

theorem Routine.legible_of_none {r : Routine} (body : Instr.Shallow r.body)
    (none : r.returns = none) : Legible 10 r.toJson := by
  refine Routine.legible body fun e returned => ?_
  rw [none] at returned
  cases returned

namespace Target

open Compile

variable {ctx : Context} {ns : Namespaces} {target : Target} {ps : List Part} {rs : List Routine}
  {cancelled : Bool} {s : Script}

theorem legible_fills {fills : List Routine}
    (filled : List.Forall₂ (WritesRoutine ctx ns) ps fills) : ∀ r ∈ fills, Legible 10 r.toJson := by
  intro r member
  obtain ⟨p, _, name, content⟩ := forall₂_mem_right filled r member
  exact Routine.legible_of_none (shallow_content content) rfl

theorem Written.legible (written : target.Written ctx ns ps rs) : ∀ r ∈ rs, Legible 10 r.toJson := by
  cases written with
  | @element e graph out tree =>
    rw [List.forall_mem_singleton]
    refine Routine.legible (shallow_written e out tree) fun given member => ?_
    split at member
    · cases member
    · cases member
      simp
  | part inside explores edges filled =>
    rw [List.forall_mem_cons]
    refine ⟨Routine.legible_of_none ?_ rfl, legible_fills filled⟩
    simp only [entryCode]
    split <;> simp [fillCall, shallow_links, shallow_writes edges]
  | package explores edges filled =>
    rw [List.forall_mem_cons, List.forall_mem_cons]
    refine ⟨Routine.legible_of_none ?_ rfl, Routine.legible_of_none ?_ rfl, legible_fills filled⟩
    · simp [packageCode, packageEntry]
    · simp [partsCode, shallow_links, shallow_writes edges]

/-- The text of a script is neither too deep nor has it an integer that is too long. -/
theorem script_legible (plain : ctx.handlers = .none)
    (ran : targetScript ctx cancelled target = .ok s) : Legible maxDepth s.toJson := by
  obtain ⟨ns, ps, written, _⟩ := script_written plain ran
  have routines := written.legible
  have imports : ∀ i ∈ s.imports, Legible 10 i.toJson := fun i _ => by simp [Import.toJson]
  have whole : Legible 12 s.toJson := by simpa [Script.toJson] using And.intro imports routines
  exact whole.mono (by decide)

end Target

/-- The text of the script for a document is read back, but it is the same script if and only if it
has no decimals and no numbers that are not finite: these are read as strings and as null. -/
theorem Compile.document_stored {settings : Option Settings} {cancelled : Bool} {m : Model}
    {s : Script} (ran : document settings .none cancelled m = .ok s) :
    (Json.checkText Script.ofJson s.toJson.compact = .valid s.stored ∧
      Json.checkText Script.ofJson s.toJson.pretty = .valid s.stored ∧
      Json.checkText Script.ofJson (s.toJson.pretty ++ "\n") = .valid s.stored) ∧
      (s.stored = s ↔ ∀ l ∈ s.literals,
        (∀ d, l ≠ .decimal d) ∧ ∀ x, l = .float x → ∃ y, x = .finite y) := by
  obtain ⟨registry, built, ran⟩ := except_bind_ok ran
  obtain ⟨ctx, made, ran⟩ := except_bind_ok ran
  cases made
  obtain ⟨compact, lines, closed⟩ := (Target.script_legible rfl ran).checkText Script.ofJson
  rw [compact, lines, closed, s.ofJson_toJson]
  refine ⟨⟨rfl, rfl, rfl⟩, ?_⟩
  simp only [s.stored_eq_self, Literal.stored_eq_self]

/-- A schema with a property that is a number. -/
def measured : Schema :=
  { Schema.empty with
    elements := [⟨.plain "N" "A", .regular, none, [⟨"p", .simple .single none⟩], ""⟩] }

/-- An element whose number is not finite. -/
def unmeasured : Model :=
  ⟨measured, .element { Element.ofType (.plain "N" "A") with properties := .ofList [("p", .str "inf")] }
    none⟩

/-- What is read of the script that sets a property to a number that is not finite is another
script. -/
theorem Compile.unmeasured_lost :
    ∃ s, document none .none false unmeasured = .ok s ∧
      Json.checkText Script.ofJson s.toJson.pretty = .valid s.stored ∧ s.stored ≠ s := by
  have ends : (document none .none false unmeasured).map (·.literals) =
      .ok [.float (.infinite false)] := by
    cbv
  obtain ⟨s, ran, literals⟩ := except_map_ok ends
  obtain ⟨⟨_, read, _⟩, same⟩ := document_stored ran
  refine ⟨s, ran, read, fun kept => ?_⟩
  obtain ⟨y, finite⟩ := (same.mp kept (.float (.infinite false)) (by simp [literals])).2 _ rfl
  cases finite

end DocScript
