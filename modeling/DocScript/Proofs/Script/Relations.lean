import Mathlib
import DocScript.Proofs.Graph.Traversal
import DocScript.Proofs.Graph.Calls
import DocScript.Proofs.Script.Writes

/-!
# Relationships are added once

A pass over a graph fails if an edge that can be reached leads nowhere or an address cannot be read.
Else it adds every relationship of every part that can be reached, once and in order, to the variable
of the part. An edge to a part that is known adds none.
-/

namespace DocScript

open Walked

/-- The instruction adds a relationship to what a variable holds. -/
def Instr.addsRelation : Instr → Bool
  | .invoke ⟨some (.var _), operation, _, _⟩ =>
    operation = "AddHyperlinkRelationship" || operation = "AddExternalRelationship"
  | _ => false

namespace Compile

/-- The calls that add some relationships to what a variable holds. -/
def relationCalls (typeName : TypeId → String) (owner : String) (hyperlinks : List Hyperlink)
    (externals : List ExternalLink) : List Instr :=
  hyperlinks.map (hyperlinkCode typeName owner) ++ externals.map (externalCode typeName owner)

/-- The calls that add the relationships of a part to its variable. -/
def blueprintCalls (typeName : TypeId → String) (b : Blueprint) : List Instr :=
  relationCalls typeName b.name b.part.hyperlinks b.part.externals

variable {ctx : Context} {graph : Graph} {typeName : TypeId → String} {parent name : String}
  {parentType : TypeId} {e : Edge} {es : List Edge} {part : Part} {ps : List Part}
  {is : List Instr} {w w' : PartWork}

/-! ### What is written -/

theorem creates_creationCode :
    Creates parent name e.id (creationCode ctx typeName parent parentType e part name) := by
  unfold creationCode
  cases addOperation? ctx.registry parentType part.type with
  | none => exact .labelled [] rfl
  | some op =>
    have closed : Expr.mentionsAll
        (if op.takesContentType then [.text (part.contentType.getD "")] else []) = [] := by
      split <;> rfl
    dsimp only
    by_cases labelled : op.takesRelationshipId = true
    · rw [if_pos labelled, if_pos labelled]
      exact .labelled _ closed
    · rw [if_neg labelled, if_neg labelled, List.append_nil]
      exact .renamed closed

theorem mem_grouped {i : Instr} {calls : List Instr} (member : i ∈ grouped calls) :
    i = .blank ∨ i ∈ calls := by
  unfold grouped at member
  split at member
  · cases member
  · exact List.mem_cons.mp member

theorem relates_linksCode (owner : String) (hyperlinks : List Hyperlink)
    (externals : List ExternalLink) :
    ∀ i ∈ linksCode typeName owner hyperlinks externals, i.Relates owner := by
  intro i member
  rcases List.mem_append.mp member with early | late
  · rcases mem_grouped early with rfl | call
    · exact .blank
    · obtain ⟨h, _, rfl⟩ := List.mem_map.mp call
      exact .adds (by simp) rfl
  · rcases mem_grouped late with rfl | call
    · exact .blank
    · obtain ⟨x, _, rfl⟩ := List.mem_map.mp call
      exact .adds (by simp) rfl

theorem filter_addsRelation_linksCode (owner : String) (hyperlinks : List Hyperlink)
    (externals : List ExternalLink) :
    (linksCode typeName owner hyperlinks externals).filter Instr.addsRelation =
      relationCalls typeName owner hyperlinks externals := by
  have kept (calls : List Instr) (adds : ∀ i ∈ calls, i.addsRelation = true) :
      (grouped calls).filter Instr.addsRelation = calls := by
    cases calls with
    | nil => rfl
    | cons i rest => exact List.filter_eq_self.mpr adds
  rw [linksCode, List.filter_append, kept, kept, relationCalls]
  · intro i member
    obtain ⟨x, _, rfl⟩ := List.mem_map.mp member
    rfl
  · intro i member
    obtain ⟨h, _, rfl⟩ := List.mem_map.mp member
    rfl

theorem Creates.filter_addsRelation {id : String} (h : Creates parent name id is) :
    is.filter Instr.addsRelation = [] := by
  cases h <;> rfl

theorem filter_addsRelation_partCode :
    (partCode ctx typeName parent parentType e part name).filter Instr.addsRelation =
      relationCalls typeName name part.hyperlinks part.externals := by
  rw [partCode, List.append_assoc, List.filter_append, creates_creationCode.filter_addsRelation,
    List.cons_append, List.nil_append, List.filter_cons_of_neg Bool.false_ne_true,
    List.filter_append, filter_addsRelation_linksCode]
  exact List.append_nil _

theorem fills?_partCode :
    (partCode ctx typeName parent parentType e part name).filterMap Instr.fills? =
      [(name, fillName name)] := by
  rw [partCode, List.append_assoc, List.filterMap_append, creates_creationCode.fills?,
    List.cons_append, List.nil_append, List.filterMap_cons, List.filterMap_append,
    filterMap_fills?_of_relates (relates_linksCode name part.hyperlinks part.externals)]
  rfl

/-- The calls of routines and the relationships belong to the same parts, in the same order. -/
theorem Writes.blueprints (h : Writes ctx graph typeName parent parentType es ps is) :
    ∃ bs : List Blueprint, bs.map (·.part) = ps ∧
      is.filterMap Instr.fills? = bs.map Blueprint.call ∧
      is.filter Instr.addsRelation = bs.flatMap (blueprintCalls typeName) := by
  induction h with
  | done => exact ⟨[], rfl, rfl, rfl⟩
  | again _ _ _ ih => exact ih
  | @first _ _ _ _ p _ _ _ _ _ name _ _ inside after =>
    obtain ⟨bs, parts, calls, adds⟩ := inside
    obtain ⟨cs, parts', calls', adds'⟩ := after
    refine ⟨⟨p, name, fillName name⟩ :: bs ++ cs, ?_, ?_, ?_⟩
    · rw [List.cons_append, List.map_cons, List.map_append, parts, parts', List.cons_append]
    · rw [List.filterMap_append, List.filterMap_append, fills?_partCode, calls, calls',
        List.map_append]
      rfl
    · rw [List.filter_append, List.filter_append, filter_addsRelation_partCode, adds, adds',
        List.flatMap_append]
      rfl

/-! ### What is read -/

/-- The addresses in all parts that have been entered can be read. -/
def AllRead (w : PartWork) : Prop :=
  ∀ b ∈ w.blueprints.values, Readable b.part.hyperlinks b.part.externals

theorem AllRead.of_eq (h : AllRead w) (same : w'.blueprints = w.blueprints) : AllRead w' := by
  unfold AllRead
  rwa [same]

theorem AllRead.enters {b : Blueprint} (h : AllRead w) (entered : w.Enters b w')
    (read : Readable b.part.hyperlinks b.part.externals) : AllRead w' := by
  intro c member
  rw [entered.values, List.mem_append, List.mem_singleton] at member
  rcases member with old | rfl
  · exact h c old
  · exact read

theorem newPart_read {block : List Instr}
    (made : newPart ctx parent parentType e part w = (.ok (block, name), w')) (h : AllRead w) :
    AllRead w' := by
  apply h.enters (newPart_ok made).1
  obtain ⟨_, w₁, registered, made⟩ := Step.bind_ok made
  obtain ⟨next, w₂, named, made⟩ := Step.bind_ok made
  obtain ⟨creation, w₃, created, made⟩ := Step.bind_ok made
  obtain ⟨_, w₄, entered, made⟩ := Step.bind_ok made
  obtain ⟨relations, w₅, related, made⟩ := Step.bind_ok made
  exact links_readable related

theorem edges_read (plain : ctx.handlers = .none)
    (walked : edges ctx graph parent parentType es w = (.ok is, w')) : AllRead w → AllRead w' := by
  refine edges_induction (motive := fun w _ w' => AllRead w → AllRead w') plain (fun _ => id) ?_
    (fun _ _ _ _ => id) (fun _ => newPart_read) walked
  intro u v w is js first others read
  exact others (first read)

theorem partEntry_read (plain : ctx.handlers = .none) {shared : Shared} {r : Routine}
    (ran : partEntry ctx graph part (.start shared) = (.ok r, w)) : AllRead w := by
  obtain ⟨name, w₁, w₂, w₃, w₄, relations, below, registered, named, entered, related, walked, _⟩ :=
    partEntry_run ran
  have enters := Visit.enters (Visit.register_ok registered).1 named entered (links_ok related).1
  have start : AllRead (.start shared) := nofun
  exact edges_read plain walked (start.enters enters (links_readable related))

theorem packageEntries_read (plain : ctx.handlers = .none) {package : Package} {shared : Shared}
    {r r' : Routine} (ran : packageEntries ctx graph package (.start shared) = (.ok (r, r'), w)) :
    AllRead w ∧ Readable package.hyperlinks package.externals := by
  obtain ⟨w₁, w₂, w₃, below, relations, added, registered, walked, related, _⟩ :=
    packageEntries_run ran
  have start : AllRead (.start shared) := nofun
  have blueprints := ((Visit.addPlain_ok added).trans (Visit.register_ok registered).1).blueprints
  have read := edges_read plain walked (start.of_eq blueprints)
  exact ⟨read.of_eq (links_ok related).1.blueprints, links_readable related⟩

/-! ### What is added -/

/-- Blueprints are known by their parts and by the calls of their routines. -/
theorem blueprints_eq {bs cs : List Blueprint} (parts : bs.map (·.part) = cs.map (·.part))
    (calls : bs.map Blueprint.call = cs.map Blueprint.call) : bs = cs := by
  induction bs generalizing cs with
  | nil => exact (List.map_eq_nil_iff.mp parts.symm).symm
  | cons b rest ih =>
    cases cs with
    | nil => cases parts
    | cons c more =>
      obtain ⟨part, parts⟩ := List.cons.inj parts
      obtain ⟨call, calls⟩ := List.cons.inj calls
      obtain ⟨name, routine⟩ := Prod.mk.inj call
      have same : b = c := by
        cases b
        cases c
        rw [Blueprint.mk.injEq]
        exact ⟨part, name, routine⟩
      rw [same, ih parts calls]

/-- The relationships that are written are those of the blueprints whose routines are called. -/
theorem Writes.filter_addsRelation
    (h : Writes ctx graph typeName parent parentType es ps is) {bs : List Blueprint}
    (parts : bs.map (·.part) = ps) (calls : is.filterMap Instr.fills? = bs.map Blueprint.call) :
    is.filter Instr.addsRelation = bs.flatMap (blueprintCalls typeName) := by
  obtain ⟨cs, parts', calls', adds⟩ := h.blueprints
  rw [adds, blueprints_eq (parts'.trans parts.symm) (calls'.symm.trans calls)]

theorem fills?_entryCode (routine : String) (below : List Instr) :
    (entryCode typeName part routine below).body.filterMap Instr.fills? =
      (partName, routine) :: below.filterMap Instr.fills? := by
  have gap : (if part.children.isEmpty then [] else [Instr.blank]).filterMap Instr.fills? = [] := by
    split <;> rfl
  have silent : (linksCode typeName partName part.hyperlinks part.externals).filterMap
      Instr.fills? = [] :=
    filterMap_fills?_of_relates (relates_linksCode _ _ _)
  rw [entryCode, List.cons_append, List.cons_append, List.filterMap_cons, List.filterMap_append,
    List.filterMap_append, silent, gap]
  rfl

theorem filter_addsRelation_entryCode (routine : String) (below : List Instr) :
    (entryCode typeName part routine below).body.filter Instr.addsRelation =
      relationCalls typeName partName part.hyperlinks part.externals
        ++ below.filter Instr.addsRelation := by
  have gap : (if part.children.isEmpty then [] else [Instr.blank]).filter Instr.addsRelation = [] := by
    split <;> rfl
  rw [entryCode, List.cons_append, List.cons_append, List.filter_cons_of_neg Bool.false_ne_true,
    List.filter_append, List.filter_append, filter_addsRelation_linksCode, gap, List.append_nil]

/-- A pass from a part adds the relationships of the parts that it enters, and no others. -/
theorem partEntry_adds (plain : ctx.handlers = .none) (inside : graph.get? part.uri = some part)
    {shared : Shared} {r : Routine}
    (ran : partEntry ctx graph part (.start shared) = (.ok r, w)) :
    r.body.filter Instr.addsRelation = w.blueprints.values.flatMap
      (blueprintCalls (w.shared.namespaces.typeName ctx.settings.policy)) := by
  obtain ⟨_, _, new, values, calls, _, _⟩ := partEntry_calls plain ran
  obtain ⟨ps, parts, _, written⟩ := partEntry_finds plain inside ran
  obtain ⟨routine, below, writes, rfl⟩ := written _ (Namespaces.le_refl _)
  rw [fills?_entryCode, values, List.map_cons] at calls
  rw [PartWork.parts, values, List.map_cons] at parts
  have later := writes.filter_addsRelation (List.cons.inj parts).2 (List.cons.inj calls).2
  rw [filter_addsRelation_entryCode, values, List.flatMap_cons, later]
  rfl

/-- A pass from a package adds its relationships after those of the parts that it enters. -/
theorem packageEntries_add (plain : ctx.handlers = .none) {package : Package} {shared : Shared}
    {r r' : Routine} (ran : packageEntries ctx graph package (.start shared) = (.ok (r, r'), w)) :
    r'.body.filter Instr.addsRelation = w.blueprints.values.flatMap
        (blueprintCalls (w.shared.namespaces.typeName ctx.settings.policy))
      ++ relationCalls (w.shared.namespaces.typeName ctx.settings.policy) packageName
        package.hyperlinks package.externals := by
  obtain ⟨_, _, _, calls, _⟩ := packageEntries_call plain ran
  obtain ⟨ps, parts, _, written⟩ := packageEntries_find plain ran
  obtain ⟨below, writes, _, rfl⟩ := written _ (Namespaces.le_refl _)
  rw [partsCode, List.filterMap_append, filterMap_fills?_of_relates (relates_linksCode _ _ _),
    List.append_nil] at calls
  rw [partsCode, List.filter_append, filter_addsRelation_linksCode,
    writes.filter_addsRelation parts calls]

/-! ### Passes -/

/-- What makes a pass fail that starts at some edges, with some parts known and some relationships
to add. -/
inductive Obstacle (graph : Graph) (known : List Part) (es : List Edge)
    (hyperlinks : List Hyperlink) (externals : List ExternalLink) : Failure → Prop
  | dangling {e : Edge} (leads : graph.Leads es e) (out : graph.get? e.target = none) :
      Obstacle graph known es hyperlinks externals (.unmet (.edgeTarget e.id e.target))
  | unreadable {p : Part} {fault : Uri.Fault}
      (reached : p ∈ known ∨ ∃ e, graph.Leads es e ∧ graph.get? e.target = some p)
      (unread : Unreadable p.hyperlinks p.externals fault) :
      Obstacle graph known es hyperlinks externals (.address fault)
  | own {fault : Uri.Fault} (unread : Unreadable hyperlinks externals fault) :
      Obstacle graph known es hyperlinks externals (.address fault)

/-- What a pass comes to that starts at some edges of the container in a variable, with some parts
known and some relationships to add to the container. -/
structure RelatesOnce (graph : Graph) (policy : NamePolicy) (known : List Part)
    (owner : Option String) (holder : String) (es : List Edge) (hyperlinks : List Hyperlink)
    (externals : List ExternalLink) (result : Except Failure (List Instr)) (w : PartWork) : Prop where
  fails_iff : (∃ failure, result = .error failure) ↔
    ∃ failure, Obstacle graph known es hyperlinks externals failure
  reason : ∀ failure, result = .error failure →
    Obstacle graph known es hyperlinks externals failure
  held : ∀ body, result = .ok body → holderIn w.blueprints owner = holder
  adds : ∀ body, result = .ok body → ∃ walk,
    Covers graph (known.map (·.uri)) owner es walk w.blueprints.keys ∧
    Instr.linksIn body = walk.map (Walked.link (holderIn w.blueprints)) ∧
    body.filter Instr.addsRelation =
      (known ++ found walk).flatMap (fun p =>
        relationCalls (w.shared.namespaces.typeName policy) (holderIn w.blueprints (some p.uri))
          p.hyperlinks p.externals)
      ++ relationCalls (w.shared.namespaces.typeName policy) holder hyperlinks externals

/-- A pass that fails at an obstacle, and else adds the relationships of what it has entered. -/
theorem relates_of {known : List Part} {owner : Option String} {holder : String}
    {hyperlinks : List Hyperlink} {externals : List ExternalLink}
    {result : Except Failure (List Instr)}
    (start : Explores.Starts graph (known.map (·.uri)) owner es) (distinct : (known.map (·.uri)).Nodup)
    (failed : ∀ failure, result = .error failure →
      Obstacle graph known es hyperlinks externals failure)
    (passed : ∀ body, result = .ok body → (∃ walk, Pass graph known owner holder es body walk w) ∧
      AllRead w ∧ Readable hyperlinks externals ∧
      body.filter Instr.addsRelation =
        w.blueprints.values.flatMap
          (blueprintCalls (w.shared.namespaces.typeName ctx.settings.policy))
        ++ relationCalls (w.shared.namespaces.typeName ctx.settings.policy) holder hyperlinks
          externals) :
    RelatesOnce graph ctx.settings.policy known owner holder es hyperlinks externals result w := by
  refine ⟨⟨?_, ?_⟩, failed, ?_, ?_⟩
  · rintro ⟨failure, error⟩
    exact ⟨failure, failed failure error⟩
  · rintro ⟨failure, obstacle⟩
    cases result with
    | error failure' => exact ⟨failure', rfl⟩
    | ok body =>
      obtain ⟨⟨walk, pass⟩, read, own, _⟩ := passed body rfl
      cases obstacle with
      | dangling leads out =>
        obtain ⟨v, walked, rfl⟩ := pass.explores.walked start leads
        have inside := (pass.explores.target walked).1
        rw [out] at inside
        cases inside
      | unreadable reached unread =>
        obtain ⟨b, member, rfl⟩ := List.mem_map.mp ((pass.mem_parts start).mpr reached)
        exact ((read b member).not_unreadable unread).elim
      | own unread => exact (own.not_unreadable unread).elim
  · intro body ok
    obtain ⟨⟨walk, pass⟩, _⟩ := passed body ok
    exact pass.held
  · intro body ok
    obtain ⟨⟨walk, pass⟩, _, _, adds⟩ := passed body ok
    refine ⟨walk, pass.explores.covers start distinct, pass.linksIn, ?_⟩
    rw [adds, ← pass.parts, PartWork.parts, List.flatMap_map]
    congr 1
    refine List.flatMap_congr fun b member => ?_
    rw [blueprintCalls, pass.sound.holderIn_eq member]

theorem partEntry_relates (plain : ctx.handlers = .none) (inside : graph.get? part.uri = some part)
    {result : Except Failure Routine}
    (ran : partEntry ctx graph part (.start (.start false)) = (result, w)) :
    RelatesOnce graph ctx.settings.policy [part] (some part.uri) partName part.children [] []
      (result.map (·.body)) w := by
  refine relates_of (.of_get? inside) (by simp) (fun failure error => ?_) fun body ok => ?_
  · cases result with
    | error failure' =>
      obtain rfl := Except.error.inj error
      rcases partEntry_error plain inside ran with ⟨e, leads, stops⟩ | ⟨fault, unread, rfl⟩
      · cases stops with
        | dangling out => exact .dangling leads out
        | unreadable found unread => exact .unreadable (Or.inr ⟨e, leads, found⟩) unread
      · exact .unreadable (Or.inl (List.mem_singleton_self part)) unread
    | ok r => cases error
  · cases result with
    | error failure => cases ok
    | ok r =>
      obtain rfl := Except.ok.inj ok
      refine ⟨(partEntry_ok plain inside ran).2.2, partEntry_read plain ran, ⟨nofun, nofun⟩, ?_⟩
      exact (partEntry_adds plain inside ran).trans (List.append_nil _).symm

theorem packageEntries_relate (plain : ctx.handlers = .none) {package : Package}
    {result : Except Failure (Routine × Routine)}
    (ran : packageEntries ctx graph package (.start (.start false)) = (result, w)) :
    RelatesOnce graph ctx.settings.policy [] none packageName package.children package.hyperlinks
      package.externals (result.map (·.2.body)) w := by
  refine relates_of ⟨nofun, nofun⟩ List.nodup_nil (fun failure error => ?_) fun body ok => ?_
  · cases result with
    | error failure' =>
      obtain rfl := Except.error.inj error
      rcases packageEntries_error plain ran with ⟨e, leads, stops⟩ | ⟨fault, unread, rfl⟩
      · cases stops with
        | dangling out => exact .dangling leads out
        | unreadable found unread => exact .unreadable (Or.inr ⟨e, leads, found⟩) unread
      · exact .own unread
    | ok r => cases error
  · cases result with
    | error failure => cases ok
    | ok r =>
      obtain rfl := Except.ok.inj ok
      obtain ⟨read, own⟩ := packageEntries_read plain ran
      exact ⟨(packageEntries_ok plain ran).2.2.2, read, own, packageEntries_add plain ran⟩

/-- A pass that is not cancelled, from a part of a graph or from a package, fails if and only if it
meets an edge that leads nowhere or an address that cannot be read, and says which. Else it adds the
relationships of each part that can be reached to the variable of the part, once, in depth-first
order: its hyperlinks and then its external relationships, in the order given. -/
theorem entries_relate (plain : ctx.handlers = .none) :
    (∀ part, graph.get? part.uri = some part → ∀ result w,
      partEntry ctx graph part (.start (.start false)) = (result, w) →
      RelatesOnce graph ctx.settings.policy [part] (some part.uri) partName part.children [] []
        (result.map (·.body)) w) ∧
    ∀ package : Package, ∀ result w,
      packageEntries ctx graph package (.start (.start false)) = (result, w) →
      RelatesOnce graph ctx.settings.policy [] none packageName package.children package.hyperlinks
        package.externals (result.map (·.2.body)) w :=
  ⟨fun _ inside _ _ ran => partEntry_relates plain inside ran,
    fun _ _ _ ran => packageEntries_relate plain ran⟩

def postStart : Part := hub "/a" [⟨"r1", "/b"⟩, ⟨"r2", "/b"⟩]

/-- Two edges to one part, which has relationships to an address. -/
def posts (uri : String) : Graph :=
  (Graph.empty.add postStart).add
    { hub "/b" [] with hyperlinks := [⟨"h1", uri, true⟩], externals := [⟨"x1", uri, "image"⟩] }

/-- A package over these parts that has a hyperlink to an address itself. -/
def postPackage (uri : String) : Package :=
  ⟨.plain "N" "Q", posts "docs", [⟨"r0", "/a"⟩], [⟨"h2", uri, false⟩], []⟩

example :
    (partEntry ringContext (posts "docs") postStart (.start (.start false))).1.map
        (fun r => r.body.filter Instr.addsRelation) =
      .ok (relationCalls TypeId.name "p1" [⟨"h1", "docs", true⟩] [⟨"x1", "docs", "image"⟩]) := by
  cbv

/-- An address whose bracket stays open makes a pass fail that reaches it, although no edge leads
out of the graph. -/
theorem open_bracket_fails :
    (∃ w, partEntry ringContext (posts "http://[") postStart (.start (.start false)) =
        (.error (.address .badBrackets), w) ∧
      Obstacle (posts "http://[") [postStart] postStart.children [] [] (.address .badBrackets)) ∧
    ∃ w, packageEntries ringContext (posts "docs") (postPackage "http://[")
        (.start (.start false)) = (.error (.address .badBrackets), w) ∧
      Obstacle (posts "docs") [] (postPackage "http://[").children
        (postPackage "http://[").hyperlinks [] (.address .badBrackets) := by
  have plain : ringContext.handlers = .none := rfl
  have inside : (posts "http://[").get? "/a" = some postStart := by rfl
  obtain ⟨result, w, ran⟩ := Step.exists_run
    (partEntry ringContext (posts "http://[") postStart) (.start (.start false))
  have fails : (partEntry ringContext (posts "http://[") postStart (.start (.start false))).1 =
      .error (.address .badBrackets) := by
    cbv
  obtain ⟨result', w', ran'⟩ := Step.exists_run
    (packageEntries ringContext (posts "docs") (postPackage "http://[")) (.start (.start false))
  have fails' : (packageEntries ringContext (posts "docs") (postPackage "http://[")
      (.start (.start false))).1 = .error (.address .badBrackets) := by
    cbv
  rw [ran] at fails
  rw [ran'] at fails'
  subst fails fails'
  exact ⟨⟨w, ran, ((entries_relate plain).1 postStart inside _ w ran).reason _ rfl⟩,
    w', ran', ((entries_relate plain).2 (postPackage "http://[") _ w' ran').reason _ rfl⟩

end Compile

end DocScript
