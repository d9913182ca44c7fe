import DocScript.Proofs.Element.Mentions
import DocScript.Proofs.Script.Extends
import DocScript.Proofs.Script.TypeNames

/-!
# What a run over a graph writes

The texts for edges, relationships and bytes are read with the table at the end of a run, as those
for elements are. Which types they name can be read off the parts that are found on the walk, and
just these have been registered.
-/

namespace DocScript

open Step Walked

namespace Compile

/-! ### Texts -/

def uriKind (uri : String) : String :=
  match Uri.isAbsolute uri with
  | .ok true => "Absolute"
  | _ => "Relative"

def uriCode (typeName : TypeId → String) (uri : String) : Expr :=
  .construct (typeName uriType) [] [.text uri, .constant (typeName uriKindType) (uriKind uri)]

def hyperlinkCode (typeName : TypeId → String) (owner : String) (h : Hyperlink) : Instr :=
  .invokeOn (some (.var owner)) "AddHyperlinkRelationship"
    [uriCode typeName h.uri, .truth h.isExternal, .text h.id]

def externalCode (typeName : TypeId → String) (owner : String) (x : ExternalLink) : Instr :=
  .invokeOn (some (.var owner)) "AddExternalRelationship"
    [.text x.type, uriCode typeName x.uri, .text x.id]

/-- Some calls after a blank line, if there are any. -/
def grouped (calls : List Instr) : List Instr := if calls.isEmpty then [] else .blank :: calls

/-- The calls that add the relationships of a container. -/
def linksCode (typeName : TypeId → String) (owner : String) (hyperlinks : List Hyperlink)
    (externals : List ExternalLink) : List Instr :=
  grouped (hyperlinks.map (hyperlinkCode typeName owner))
    ++ grouped (externals.map (externalCode typeName owner))

/-- The creation of a part below its parent: by the operation that the schema names, or by the one
that takes the type of the part as an argument. -/
def creationCode (ctx : Context) (typeName : TypeId → String) (parent : String)
    (parentType : TypeId) (e : Edge) (part : Part) (name : String) : List Instr :=
  let id := Expr.text e.id
  let parentExpr := Expr.var parent
  match addOperation? ctx.registry parentType part.type with
  | none =>
    [.declare name (typeName part.type) []
      (some (.call (some parentExpr) "AddNewPart" [typeName part.type] [id]))]
  | some op =>
    let contentType := if op.takesContentType then [.text (part.contentType.getD "")] else []
    let relationship := if op.takesRelationshipId then [id] else []
    let call := Expr.call (some parentExpr) op.operation [] (contentType ++ relationship)
    let rename := Instr.invokeOn (some parentExpr) "ChangeIdOfPart" [.var name, id]
    .declare name (typeName part.type) [] (some call)
      :: if op.takesRelationshipId then [] else [rename]

/-- The instructions for a part that is new, without what hangs on it. -/
def partCode (ctx : Context) (typeName : TypeId → String) (parent : String)
    (parentType : TypeId) (e : Edge) (part : Part) (name : String) : List Instr :=
  creationCode ctx typeName parent parentType e part name ++ fillCall name (fillName name)
    :: linksCode typeName name part.hyperlinks part.externals ++ [.blank]

/-- The instructions for some edges of the container in a variable, and the parts that are found on
the way. The names of the variables are left open. -/
inductive Writes (ctx : Context) (graph : Graph) (typeName : TypeId → String) :
    String → TypeId → List Edge → List Part → List Instr → Prop
  | done (parent : String) (parentType : TypeId) : Writes ctx graph typeName parent parentType [] [] []
  | again {parent : String} {parentType : TypeId} {e : Edge} {rest : List Edge} {p : Part}
      {more : List Part} {is : List Instr} (found : graph.get? e.target = some p) (name : String)
      (others : Writes ctx graph typeName parent parentType rest more is) :
      Writes ctx graph typeName parent parentType (e :: rest) more
        (.invokeOn (some (.var parent)) "AddPart" [.var name, .text e.id] :: is)
  | first {parent : String} {parentType : TypeId} {e : Edge} {rest : List Edge} {p : Part}
      {below more : List Part} {is js : List Instr} (found : graph.get? e.target = some p)
      (name : String) (inner : Writes ctx graph typeName name p.type p.children below is)
      (others : Writes ctx graph typeName parent parentType rest more js) :
      Writes ctx graph typeName parent parentType (e :: rest) (p :: below ++ more)
        (partCode ctx typeName parent parentType e p name ++ is ++ js)

/-- The instructions that feed bytes into a part. -/
def feedCode (typeName : TypeId → String) (bytes : List UInt8) : List Instr :=
  let decoded :=
    Expr.call (some (.type (typeName convertType))) "FromBase64String" [] [.var "base64"]
  [.declare "base64" "string" [] (some (.text (Base64.standard.encode bytes))),
    .blank,
    .scope
      [.declare "mem" (typeName streamType) []
        (some (.construct (typeName memoryStreamType) [] [decoded, .truth false]))]
      [.invokeOn (some (.var partName)) "FeedData" [.var "mem"]]
      [.invokeOn (some (.var "mem")) "Dispose" []]]

/-- The instructions that fill a part. -/
inductive WritesContent (ctx : Context) (table : Namespaces) (part : Part) : List Instr → Prop
  | none (content : part.content = .none) : WritesContent ctx table part []
  | binary {bytes : List UInt8} (content : part.content = .binary bytes) :
      WritesContent ctx table part (feedCode (table.typeName ctx.settings.policy) bytes)
  | root {e : Element} {out : ElementOutput} {assignment : List Instr}
      (content : part.content = .root e) (tree : Written ctx table e out)
      (assigned : rootAssignment ctx part e out.name = .ok assignment) :
      WritesContent ctx table part (out.instructions ++ assignment)

/-- The routine that fills a part, which has the part as its parameter. -/
inductive WritesRoutine (ctx : Context) (table : Namespaces) (part : Part) : Routine → Prop
  | made (name : String) {body : List Instr} (content : WritesContent ctx table part body) :
      WritesRoutine ctx table part
        ⟨name, [⟨partName, table.typeName ctx.settings.policy part.type, true⟩], body, none, none,
          false⟩

/-! ### The types that are named -/

def uriMentions : List Mention := [.library uriType, .library uriKindType]

def linkMentions (hyperlinks : List Hyperlink) (externals : List ExternalLink) : List Mention :=
  hyperlinks.flatMap (fun _ => uriMentions) ++ externals.flatMap fun _ => uriMentions

/-- The types that are named where a part is visited for the first time. -/
def visitMentions (p : Part) : List Mention := .declared p.type :: linkMentions p.hyperlinks p.externals

/-- The types that the routine names that fills a part. -/
def contentMentions (ctx : Context) (p : Part) : List Mention :=
  match p.content with
  | .none => []
  | .binary _ =>
    [.word "string", .library convertType, .library streamType, .library memoryStreamType]
  | .root e => elementMentions ctx e

end Compile

/-! ### What is registered -/

namespace Visit

variable {α : Type} {ctx : Context} {t : TypeId} {calls : List Registration}

abbrev Performs (ctx : Context) (m : Visit α) (calls : List Registration) : Prop :=
  Step.Performs (·.shared.namespaces) ctx.registry m calls

theorem spaces_eq {m : Visit α} {w w' : PartWork} {a : α} (h : Visit.Performs ctx m calls)
    (ran : m w = (.ok a, w')) :
    w'.shared.namespaces = Namespaces.performAll ctx.registry w.shared.namespaces calls :=
  h w a w' ran

theorem performs_register : Visit.Performs ctx (register ctx t) [.type t] := by
  intro w u w' ran
  obtain ⟨ns, changed, rfl⟩ := onNamespaces_ok ran
  obtain ⟨_, rfl⟩ := Prod.mk.inj changed
  rfl

theorem performs_addPlain (ctx : Context) (space : String) :
    Visit.Performs ctx (addPlain space) [.space space] := by
  intro w u w' ran
  obtain ⟨ns, changed, rfl⟩ := onNamespaces_ok ran
  obtain ⟨_, rfl⟩ := Prod.mk.inj changed
  rfl

theorem addPlain_known {space : String} {w w' : PartWork} {u : Unit}
    (ran : addPlain space w = (.ok u, w')) : w'.shared.namespaces.contains space = true := by
  obtain ⟨ns, changed, rfl⟩ := onNamespaces_ok ran
  obtain ⟨_, rfl⟩ := Prod.mk.inj changed
  exact Namespaces.contains_addPlain _ _

theorem performs_onNamespaces {m : Step Namespaces α} (h : Step.Performs id ctx.registry m calls) :
    Visit.Performs ctx (onNamespaces m) calls := by
  intro w a w' ran
  obtain ⟨ns, made, rfl⟩ := onNamespaces_ok ran
  exact h _ a ns made

theorem performs_typeName : Visit.Performs ctx (typeName ctx t) [] := performs_read _

theorem performs_nextName : Visit.Performs ctx (nextName t) [] := performs_of_same fun _ => rfl

theorem performs_checkCancelled : Visit.Performs ctx checkCancelled [] := by
  apply performs_of_same
  intro w
  unfold checkCancelled
  split <;> rfl

theorem performs_enter {b : Blueprint} : Visit.Performs ctx (enter b) [] := by
  apply performs_of_same
  intro w
  unfold enter
  split <;> rfl

end Visit

namespace Compile

open Visit

variable {ctx : Context} {graph : Graph} {parent owner name : String} {parentType : TypeId}
  {part : Part} {e : Edge} {policy : NamePolicy} {schema : Registry}

theorem performs_uriExpr (uri : String) :
    Step.Performs id schema (uriExpr policy uri) (registrationsOf uriMentions) := by
  have added : Step.Performs id schema (uriExpr policy uri) ([] ++ [.space uriType.space]) := by
    have start : Step.Performs id schema (change fun ns : Namespaces => ns.addPlain uriType.space)
        [.space uriType.space] := by
      intro ns u ns' ran
      obtain ⟨_, rfl⟩ := Prod.mk.inj ran
      rfl
    unfold uriExpr
    refine start.before fun _ => ?_
    split
    · exact performs_fail _
    · exact (performs_read _).after fun _ => (performs_read _).after fun _ => performs_pure _
  exact added.twice

theorem performs_group {α : Type} {f : α → Step Namespaces (List Instr)}
    (each : ∀ a, Step.Performs id schema (f a) (registrationsOf uriMentions)) (links : List α) :
    Step.Performs id schema (group f links) (registrationsOf (links.flatMap fun _ => uriMentions)) := by
  rw [registrationsOf_flatMap]
  unfold group
  split
  · next none =>
    rw [List.isEmpty_iff.mp none]
    exact performs_pure []
  · exact (performs_collect each links).before fun _ => performs_pure _

theorem performs_links {hyperlinks : List Hyperlink} {externals : List ExternalLink} :
    Visit.Performs ctx (links ctx owner hyperlinks externals)
      (registrationsOf (linkMentions hyperlinks externals)) := by
  apply performs_onNamespaces
  rw [linkMentions, registrationsOf_append]
  unfold relationships
  refine (performs_group (fun h => ?_) hyperlinks).bind fun _ =>
    (performs_group (fun x => ?_) externals).before fun _ => performs_pure _
  · exact (performs_uriExpr h.uri).before fun _ => performs_pure _
  · exact (performs_uriExpr x.uri).before fun _ => performs_pure _

theorem performs_partCreation :
    Visit.Performs ctx (partCreation ctx parent parentType e part name) [] := by
  unfold partCreation
  refine performs_typeName.after fun _ => ?_
  dsimp only
  split <;> exact performs_pure _

theorem performs_newPart :
    Visit.Performs ctx (newPart ctx parent parentType e part)
      (registrationsOf (visitMentions part)) := by
  unfold newPart
  refine performs_register.bind fun _ => performs_nextName.after fun name => ?_
  refine performs_partCreation.after fun creation => performs_enter.after fun _ => ?_
  exact performs_links.before fun _ => performs_pure _

theorem performs_payloadFeed (bytes : List UInt8) :
    Visit.Performs ctx (payloadFeed ctx bytes)
      ([.space convertType.space] ++ [.space streamType.space, .space memoryStreamType.space]) := by
  have once : Visit.Performs ctx (payloadFeed ctx bytes)
      ([.space convertType.space] ++ [.space streamType.space]) := by
    unfold payloadFeed
    refine (performs_addPlain ctx _).bind fun _ => (performs_addPlain ctx _).before fun _ => ?_
    exact performs_typeName.after fun _ => performs_typeName.after fun _ =>
      performs_typeName.after fun _ => performs_pure _
  exact once.twice

theorem performs_content (plain : ctx.handlers = .none) :
    Visit.Performs ctx (content ctx part) (registrationsOf (contentMentions ctx part)) := by
  unfold content contentMentions
  cases part.content with
  | none => exact performs_pure _
  | binary bytes => exact performs_payloadFeed bytes
  | root e =>
    have built : Visit.Performs ctx (buildAlone (Compile.root ctx (some e)))
        (registrationsOf (elementMentions ctx e)) := by
      intro w out w' ran
      obtain ⟨workspace, made, rfl⟩ := buildAlone_ok ran
      exact performs_element plain e [] _ out workspace made
    refine built.before fun out => ?_
    split
    · exact performs_pure _
    · exact performs_fail _

theorem performs_helper (plain : ctx.handlers = .none) (b : Blueprint) :
    Visit.Performs ctx (helper ctx b) (registrationsOf (contentMentions ctx b.part)) := by
  have filled : Visit.Performs ctx (fillRoutine ctx b)
      (registrationsOf (contentMentions ctx b.part)) :=
    (performs_content plain).before fun _ => performs_typeName.after fun _ => performs_pure _
  unfold helper
  rw [handledRoutine_eq plain, Step.pure_then]
  exact performs_checkCancelled.after fun _ => filled.before fun _ => performs_pure _

/-! ### What is written -/

variable {w w' : PartWork} {is : List Instr} {table : Namespaces}

theorem uriExpr_writes {uri : String} {ns ns' : Namespaces} {made : Expr}
    (ran : uriExpr policy uri ns = (.ok made, ns')) (le : ns' ≤ table) :
    made = uriCode (table.typeName policy) uri := by
  obtain ⟨_, t, added, ran⟩ := Step.bind_ok ran
  obtain ⟨_, rfl⟩ := Prod.mk.inj added
  unfold uriCode uriKind
  cases found : Uri.isAbsolute uri with
  | error fault =>
    simp only [found] at ran
    exact (Step.fail_ok ran).elim
  | ok absolute =>
    simp only [found] at ran
    obtain ⟨typeName, _, first, ran⟩ := Step.bind_ok ran
    obtain ⟨value, rfl⟩ := Prod.mk.inj first
    obtain ⟨kindName, _, second, ran⟩ := Step.bind_ok ran
    obtain ⟨value', rfl⟩ := Prod.mk.inj second
    obtain ⟨rfl, rfl⟩ := Step.pure_ok ran
    have known := Namespaces.contains_addPlain ns uriType.space
    have type := Namespaces.typeName_of_le (t := uriType) policy le known
    have kind := Namespaces.typeName_of_le (t := uriKindType) policy le known
    rw [type, kind, ← Except.ok.inj value, ← Except.ok.inj value']
    cases absolute <;> rfl

theorem group_writes {α : Type} {f : α → Step Namespaces (List Instr)} {g : α → Instr}
    (each : ∀ a ns is ns', f a ns = (.ok is, ns') → ns' ≤ table → is = [g a])
    (registers : ∀ a, Step.Extends id schema (f a)) {links : List α} {ns ns' : Namespaces}
    (ran : group f links ns = (.ok is, ns')) (le : ns' ≤ table) : is = grouped (links.map g) := by
  have lines : ∀ (links : List α) (ns : Namespaces) (is : List Instr),
      collect f links ns = (.ok is, ns') → is = links.map g := by
    intro links
    induction links with
    | nil => exact fun ns is ran => (Step.pure_ok ran).1
    | cons a rest ih =>
      intro ns is ran
      obtain ⟨first, u, others, ran₁, ran₂, rfl⟩ := Step.collect_cons_ok ran
      have grown := (extends_collect registers rest).le ran₂
      rw [each a ns first u ran₁ (Namespaces.le_trans grown le), ih u others ran₂]
      rfl
  unfold group at ran
  split at ran
  · next none =>
    obtain ⟨rfl, _⟩ := Step.pure_ok ran
    rw [List.isEmpty_iff.mp none]
    rfl
  · next some =>
    obtain ⟨calls, u, made, ran⟩ := Step.bind_ok ran
    obtain ⟨rfl, rfl⟩ := Step.pure_ok ran
    rw [lines links ns calls made, grouped, List.isEmpty_map, if_neg some]

theorem links_write {hyperlinks : List Hyperlink} {externals : List ExternalLink}
    (ran : links ctx owner hyperlinks externals w = (.ok is, w'))
    (le : w'.shared.namespaces ≤ table) :
    is = linksCode (table.typeName ctx.settings.policy) owner hyperlinks externals := by
  obtain ⟨ns, made, rfl⟩ := onNamespaces_ok ran
  obtain ⟨calls, u, first, made⟩ := Step.bind_ok made
  obtain ⟨more, v, second, made⟩ := Step.bind_ok made
  obtain ⟨rfl, rfl⟩ := Step.pure_ok made
  have registers (h : Hyperlink) : Step.Extends id ctx.registry
      (hyperlink ctx.settings.policy (.var owner) h) :=
    (extends_uriExpr _ _ h.uri).bind fun _ => extends_pure _
  have registers' (x : ExternalLink) : Step.Extends id ctx.registry
      (externalLink ctx.settings.policy (.var owner) x) :=
    (extends_uriExpr _ _ x.uri).bind fun _ => extends_pure _
  have grown := (extends_group registers' externals).le second
  rw [group_writes (g := hyperlinkCode (table.typeName ctx.settings.policy) owner) ?_ registers first
      (Namespaces.le_trans grown le),
    group_writes (g := externalCode (table.typeName ctx.settings.policy) owner) ?_ registers' second le]
  · rfl
  · intro x ns is ns' ran le
    obtain ⟨uri, t, made, ran⟩ := Step.bind_ok ran
    obtain ⟨rfl, rfl⟩ := Step.pure_ok ran
    rw [uriExpr_writes made le]
    rfl
  · intro h ns is ns' ran le
    obtain ⟨uri, t, made, ran⟩ := Step.bind_ok ran
    obtain ⟨rfl, rfl⟩ := Step.pure_ok ran
    rw [uriExpr_writes made le]
    rfl

theorem newPart_writes {block : List Instr}
    (ran : newPart ctx parent parentType e part w = (.ok (block, name), w'))
    (le : w'.shared.namespaces ≤ table) :
    block = partCode ctx (table.typeName ctx.settings.policy) parent parentType e part name := by
  obtain ⟨_, w₁, registered, ran⟩ := Step.bind_ok ran
  obtain ⟨next, w₂, named, ran⟩ := Step.bind_ok ran
  obtain ⟨creation, w₃, created, ran⟩ := Step.bind_ok ran
  obtain ⟨_, w₄, entered, ran⟩ := Step.bind_ok ran
  obtain ⟨relations, w₅, related, ran⟩ := Step.bind_ok ran
  obtain ⟨same, rfl⟩ := Step.pure_ok ran
  obtain ⟨rfl, rfl⟩ := Prod.mk.inj same
  have known := (register_ok registered).2
  rw [← (nextName_ok named).1] at known
  have grown : w₂.shared.namespaces ≤ w'.shared.namespaces := by
    have linked := (links_ok related).1.grows
    rw [(enter_ok entered).2, (partCreation_ok created).1] at linked
    exact linked
  have type := Namespaces.typeName_of_le ctx.settings.policy (Namespaces.le_trans grown le) known
  obtain ⟨typeName, w₃, typed, created⟩ := Step.bind_ok created
  obtain ⟨text, rfl⟩ := Prod.mk.inj typed
  rw [← Except.ok.inj text] at created
  have creates :
      creation = creationCode ctx (table.typeName ctx.settings.policy) parent parentType e part name := by
    unfold creationCode
    rw [type]
    cases operation : addOperation? ctx.registry parentType part.type with
    | none =>
      simp only [operation] at created
      exact (Step.pure_ok created).1
    | some op =>
      simp only [operation] at created
      exact (Step.pure_ok created).1
  rw [creates, links_write related le]
  rfl

/-- What a run over some edges has found, registered and written. -/
structure Finds (ctx : Context) (graph : Graph) (parent : String) (parentType : TypeId)
    (es : List Edge) (w : PartWork) (ps : List Part) (is : List Instr) (w' : PartWork) : Prop where
  parts : w'.parts = w.parts ++ ps
  spaces : w'.shared.namespaces = Namespaces.performAll ctx.registry w.shared.namespaces
    (registrationsOf (ps.flatMap visitMentions))
  writes : ∀ table, w'.shared.namespaces ≤ table →
    Writes ctx graph (table.typeName ctx.settings.policy) parent parentType es ps is

namespace Finds

variable {es : List Edge} {ps qs : List Part} {js : List Instr} {w₁ w₂ : PartWork}

theorem grows (h : Finds ctx graph parent parentType es w ps is w') :
    w.shared.namespaces ≤ w'.shared.namespaces := by
  rw [h.spaces]
  exact Namespaces.le_performAll _ _ _

theorem first {block : List Instr} (found : graph.get? e.target = some part)
    (made : newPart ctx parent parentType e part w = (.ok (block, name), w₁))
    (below : Finds ctx graph name part.type part.children w₁ ps is w₂)
    (others : Finds ctx graph parent parentType es w₂ qs js w') :
    Finds ctx graph parent parentType (e :: es) w (part :: ps ++ qs) (block ++ is ++ js) w' where
  parts := by
    rw [others.parts, below.parts, (newPart_ok made).1.appended.1]
    simp
  spaces := by
    have start := spaces_eq performs_newPart made
    rw [others.spaces, below.spaces, start]
    simp only [List.cons_append, List.flatMap_cons, List.flatMap_append, registrationsOf_append,
      Namespaces.performAll_append]
  writes := by
    intro table le
    have le₂ := Namespaces.le_trans others.grows le
    have le₁ := Namespaces.le_trans below.grows le₂
    rw [newPart_writes made le₁]
    exact .first found name (below.writes table le₂) (others.writes table le)

end Finds

/-- A run over some edges that ends well has found parts, registered what they name and written it. -/
theorem edges_find (plain : ctx.handlers = .none) {fuel : Nat} {es : List Edge}
    (sound : w.Sound graph) (enough : graph.parts.size < fuel + w.blueprints.size)
    (ran : Step.collect (edge ctx graph fuel parent parentType) es w = (.ok is, w')) :
    ∃ ps, Finds ctx graph parent parentType es w ps is w' := by
  refine edges_walk (motive := fun parent parentType es w is w' =>
    ∃ ps, Finds ctx graph parent parentType es w ps is w') plain ?_ ?_ ?_ sound enough ran
  · intro parent parentType w
    exact ⟨[], (List.append_nil _).symm, rfl, fun _ _ => .done parent parentType⟩
  · rintro parent parentType e es p b w is w' found _ ⟨ps, after⟩
    exact ⟨ps, after.parts, after.spaces, fun table le => .again found b.name (after.writes table le)⟩
  · rintro parent parentType e es p block name w w₁ w₂ is js w' found made ⟨ps, inside⟩ ⟨qs, after⟩
    exact ⟨_, .first found made inside after⟩

theorem content_writes (plain : ctx.handlers = .none) {body : List Instr}
    (ran : content ctx part w = (.ok body, w')) (le : w'.shared.namespaces ≤ table) :
    WritesContent ctx table part body := by
  unfold content at ran
  cases kind : part.content with
  | none =>
    rw [kind] at ran
    obtain ⟨rfl, rfl⟩ := Step.pure_ok ran
    exact .none kind
  | binary bytes =>
    rw [kind] at ran
    obtain ⟨_, w₁, converted, ran⟩ := Step.bind_ok ran
    obtain ⟨_, w₂, streamed, ran⟩ := Step.bind_ok ran
    obtain ⟨convertName, w₃, first, ran⟩ := Step.bind_ok ran
    obtain ⟨streamName, w₄, second, ran⟩ := Step.bind_ok ran
    obtain ⟨memoryName, w₅, third, ran⟩ := Step.bind_ok ran
    obtain ⟨rfl, rfl⟩ := Step.pure_ok ran
    obtain ⟨convert, rfl⟩ := Prod.mk.inj first
    obtain ⟨stream, rfl⟩ := Prod.mk.inj second
    obtain ⟨memory, rfl⟩ := Prod.mk.inj third
    have known := addPlain_known streamed
    have known' := Namespaces.contains_of_le (addPlain_ok streamed).grows (addPlain_known converted)
    have texts : WritesContent ctx table part _ := .binary kind
    unfold feedCode at texts
    rw [Namespaces.typeName_of_le (t := convertType) _ le known',
      Namespaces.typeName_of_le (t := streamType) _ le known,
      Namespaces.typeName_of_le (t := memoryStreamType) _ le known] at texts
    rw [← Except.ok.inj convert, ← Except.ok.inj stream, ← Except.ok.inj memory]
    exact texts
  | root e =>
    rw [kind] at ran
    obtain ⟨out, u, built, ran⟩ := Step.bind_ok ran
    obtain ⟨workspace, made, rfl⟩ := buildAlone_ok built
    cases assigned : rootAssignment ctx part e out.name with
    | error failure =>
      simp only [assigned] at ran
      exact (Step.fail_ok ran).elim
    | ok assignment =>
      simp only [assigned] at ran
      obtain ⟨rfl, rfl⟩ := Step.pure_ok ran
      exact .root kind (element_writes plain table e [] _ out workspace made le) assigned

/-- The routines for some parts whose types are registered. -/
theorem helpers_collect_write (plain : ctx.handlers = .none) {bs : List Blueprint}
    {rs : List Routine}
    (known : ∀ b ∈ bs, w.shared.namespaces.contains b.part.type.space = true)
    (ran : Step.collect (helper ctx) bs w = (.ok rs, w')) (le : w'.shared.namespaces ≤ table) :
    List.Forall₂ (WritesRoutine ctx table) (bs.map (·.part)) rs := by
  induction bs generalizing w rs with
  | nil =>
    obtain ⟨rfl, rfl⟩ := Step.pure_ok ran
    exact .nil
  | cons b rest ih =>
    obtain ⟨_, u, more, first, others, rfl⟩ := Step.collect_cons_ok ran
    have grown := (extends_collect (extends_helper plain) rest).le others
    have start := (extends_helper plain b).le first
    have later := ih (fun c member => Namespaces.contains_of_le start
      (known c (List.mem_cons_of_mem b member))) others
    obtain ⟨r, rfl, filled⟩ := helper_fills plain first
    obtain ⟨body, v, made, filled⟩ := Step.bind_ok filled
    obtain ⟨typeName, v', typed, filled⟩ := Step.bind_ok filled
    obtain ⟨rfl, rfl⟩ := Step.pure_ok filled
    obtain ⟨text, rfl⟩ := Prod.mk.inj typed
    have le₁ := Namespaces.le_trans grown le
    have type := Namespaces.typeName_of_le ctx.settings.policy (Namespaces.le_trans start le₁)
      (known b List.mem_cons_self)
    have type' := Namespaces.typeName_of_le ctx.settings.policy start (known b List.mem_cons_self)
    rw [← Except.ok.inj text]
    have routine := WritesRoutine.made b.routine (content_writes plain made le₁)
    rw [type, ← type'] at routine
    exact .cons routine later

theorem helpers_write (plain : ctx.handlers = .none) {rs : List Routine}
    (known : ∀ p ∈ w.parts, w.shared.namespaces.contains p.type.space = true)
    (ran : helpers ctx w = (.ok rs, w')) :
    w'.shared.namespaces = Namespaces.performAll ctx.registry w.shared.namespaces
        (registrationsOf (w.parts.flatMap (contentMentions ctx))) ∧
      List.Forall₂ (WritesRoutine ctx w'.shared.namespaces) w.parts rs := by
  obtain ⟨bs, u, read, ran⟩ := Step.bind_ok ran
  obtain ⟨value, rfl⟩ := Prod.mk.inj read
  obtain rfl := Except.ok.inj value
  refine ⟨?_, helpers_collect_write plain (fun b member => ?_) ran (Namespaces.le_refl _)⟩
  · have all := spaces_eq (performs_collect (performs_helper plain) w.blueprints.values) ran
    rw [registrationsOf_flatMap, PartWork.parts, List.flatMap_map]
    exact all
  · exact known b.part (List.mem_map.mpr ⟨b, member, rfl⟩)

/-! ### Entry routines -/

variable {shared : Shared} {r r' : Routine}

/-- The routine that fills a part and all that hangs on it. -/
def entryCode (typeName : TypeId → String) (part : Part) (routine : String) (below : List Instr) :
    Routine :=
  let gap := if part.children.isEmpty then [] else [Instr.blank]
  ⟨"Create" ++ part.type.name, [⟨partName, typeName part.type, false⟩],
    fillCall partName routine :: linksCode typeName partName part.hyperlinks part.externals
      ++ gap ++ below, none, none, true⟩

def packageCode (ctx : Context) (typeName : TypeId → String) (package : Package) : Routine :=
  let create := ((ctx.registry.package? package.type).map (·.create)).getD
    PackageSpec.defaultCreate
  packageEntry (typeName package.type) (typeName streamType) create

/-- The routine that creates the parts of a package. -/
def partsCode (typeName : TypeId → String) (package : Package) (below : List Instr) : Routine :=
  ⟨createParts, [⟨packageName, typeName package.type, false⟩],
    below ++ linksCode typeName packageName package.hyperlinks package.externals, none, none, false⟩

theorem partEntry_finds (plain : ctx.handlers = .none) (inside : graph.get? part.uri = some part)
    (ran : partEntry ctx graph part (.start shared) = (.ok r, w)) :
    ∃ ps, w.parts = part :: ps ∧
      w.shared.namespaces = Namespaces.performAll ctx.registry shared.namespaces
        (registrationsOf ((part :: ps).flatMap visitMentions)) ∧
      ∀ table, w.shared.namespaces ≤ table → ∃ routine below,
        Writes ctx graph (table.typeName ctx.settings.policy) partName part.type part.children ps
          below ∧
        r = entryCode (table.typeName ctx.settings.policy) part routine below := by
  obtain ⟨name, w₁, w₂, w₃, w₄, relations, below, registered, named, entered, related, walked, rfl⟩ :=
    partEntry_run ran
  have frame₄ := (links_ok related).1
  have enters := Visit.enters (register_ok registered).1 named entered frame₄
  have sound := (sound_start graph shared).enters enters inside
  obtain ⟨ps, finds⟩ := edges_find plain sound (by unfold depthBound; omega) walked
  have own : w₄.shared.namespaces = Namespaces.performAll ctx.registry shared.namespaces
      (registrationsOf (visitMentions part)) := by
    have start := spaces_eq performs_register registered
    have kept : w₃.shared.namespaces = w₁.shared.namespaces := by
      rw [(enter_ok entered).2]
      exact congrArg Shared.namespaces (nextName_ok named).1
    have linked := spaces_eq performs_links related
    rw [linked, kept, start]
    exact (Namespaces.performAll_append _ _ _ _).symm
  have known : w₄.shared.namespaces.contains part.type.space = true := by
    have start := (register_ok registered).2
    rw [← (nextName_ok named).1] at start
    rw [(enter_ok entered).2] at frame₄
    exact Namespaces.contains_of_le frame₄.grows start
  refine ⟨ps, ?_, ?_, fun table le => ⟨fillName name, below, finds.writes table le, ?_⟩⟩
  · rw [finds.parts, enters.appended.1]
    rfl
  · rw [finds.spaces, own, List.flatMap_cons, registrationsOf_append, Namespaces.performAll_append]
  · have type := Namespaces.typeName_of_le ctx.settings.policy
      (Namespaces.le_trans finds.grows le) known
    have type' := Namespaces.typeName_of_le ctx.settings.policy finds.grows known
    rw [links_write related (Namespaces.le_trans finds.grows le), entryCode, type, ← type']

theorem packageEntries_find (plain : ctx.handlers = .none) {package : Package}
    (ran : packageEntries ctx graph package (.start shared) = (.ok (r, r'), w)) :
    ∃ ps, w.parts = ps ∧
      w.shared.namespaces = Namespaces.performAll ctx.registry shared.namespaces
        (registrationsOf (.library streamType :: .declared package.type :: ps.flatMap visitMentions
          ++ linkMentions package.hyperlinks package.externals)) ∧
      ∀ table, w.shared.namespaces ≤ table → ∃ below,
        Writes ctx graph (table.typeName ctx.settings.policy) packageName package.type
          package.children ps below ∧
        r = packageCode ctx (table.typeName ctx.settings.policy) package ∧
        r' = partsCode (table.typeName ctx.settings.policy) package below := by
  obtain ⟨w₁, w₂, w₃, below, relations, added, registered, walked, related, rfl, rfl⟩ :=
    packageEntries_run ran
  have start := (addPlain_ok added).trans (register_ok registered).1
  obtain ⟨ps, finds⟩ := edges_find plain ((sound_start graph shared).registers start)
    (by unfold depthBound; omega) walked
  have frame := (links_ok related).1
  have first := spaces_eq (performs_addPlain ctx streamType.space) added
  have second := spaces_eq performs_register registered
  have last := spaces_eq performs_links related
  have known := (register_ok registered).2
  have known' := Namespaces.contains_of_le (register_ok registered).1.grows (addPlain_known added)
  refine ⟨ps, ?_, ?_, fun table le => ⟨below, ?_, ?_, ?_⟩⟩
  · rw [frame.parts, finds.parts, start.parts]
    rfl
  · have calls : registrationsOf (.library streamType :: .declared package.type
          :: ps.flatMap visitMentions ++ linkMentions package.hyperlinks package.externals) =
        [.space streamType.space] ++ [.type package.type]
          ++ registrationsOf (ps.flatMap visitMentions)
          ++ registrationsOf (linkMentions package.hyperlinks package.externals) := by
      rw [registrationsOf_append]
      rfl
    rw [last, finds.spaces, second, first, calls, Namespaces.performAll_append,
      Namespaces.performAll_append, Namespaces.performAll_append]
    rfl
  · exact finds.writes table (Namespaces.le_trans frame.grows le)
  · have grown := Namespaces.le_trans finds.grows (Namespaces.le_trans frame.grows le)
    rw [packageCode, Namespaces.typeName_of_le _ grown known,
      Namespaces.typeName_of_le _ grown known']
  · have grown := Namespaces.le_trans finds.grows (Namespaces.le_trans frame.grows le)
    rw [partsCode, Namespaces.typeName_of_le _ grown known, links_write related le]

end Compile

end DocScript
