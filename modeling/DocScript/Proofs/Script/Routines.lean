import DocScript.Proofs.Graph.Calls
import DocScript.Proofs.Graph.Payload
import DocScript.Proofs.Script.Target

/-!
# Routines that fill parts

A script for a part or a package has one routine for each part that it visits, and calls it once.
A call reaches the first routine of its name. The routines of parts of one type have different
names; those of different types may share one, and then a part is filled by the routine of another.
-/

namespace DocScript

open Compile Walked

/-- The names of the routines for parts of some types, each with the type that it was made for. -/
def fillNames (ns : Namespaces) (types : List TypeId) : List Local :=
  (Variable.numbered [] types).map fun v => ⟨v.type, fillName (v.partName ns)⟩

theorem fillName_inj {ns : Namespaces} {t : TypeId} {m n : Nat}
    (h : fillName (Variable.partName ⟨t, m⟩ ns) = fillName (Variable.partName ⟨t, n⟩ ns)) : m = n := by
  have same := String.append_right_inj "Generate" |>.mp h
  exact attemptText_inj (Text.pascalCase_append_inj isDigit_attemptText isDigit_attemptText same)

theorem numbered_fillNames (ns : Namespaces) (types : List TypeId) :
    Local.Numbered (fillNames ns types) :=
  Local.numbered_of_nodup (fun _ _ _ => fillName_inj) (Variable.nodup_numbered _ _)

/-- The text of the bytes that a routine feeds into its part, if it begins with that. -/
def Routine.payload? (r : Routine) : Option String :=
  match r.body with
  | .declare "base64" _ _ (some (.primitive (.str text))) :: _ => some text
  | _ => none

/-- A script for the parts of a graph. It begins at some parts and edges; its entry routines call
one routine for each part that can be reached, and the routines that they call follow. -/
structure Script.Fills (ctx : Context) (graph : Graph) (known : List Part) (es : List Edge)
    (s : Script) (ns : Namespaces) (entries : List Routine) (bs : List Blueprint)
    (fills : List Routine) : Prop where
  imports : s.imports = ns.imports ctx.settings.policy
  routines : s.routines = entries ++ fills
  visited : ∀ p, p ∈ bs.map (·.part) ↔
    p ∈ known ∨ ∃ e, graph.Leads es e ∧ graph.get? e.target = some p
  once : (bs.map (·.part.uri)).Nodup
  calls : entries.flatMap Routine.fillCalls = bs.map Blueprint.call
  filled : List.Forall₂ (fun b r => ∃ w w', fillRoutine ctx b w = (.ok r, w')) bs fills
  named : bs.map (·.routine) = (fillNames ns (bs.map (·.part.type))).map (·.name)
  distinct : (entries.map (·.name)).Nodup
  created : ∀ r ∈ entries, ∃ rest, r.name = "Create" ++ rest

namespace Script.Fills

variable {ctx : Context} {graph : Graph} {known : List Part} {es : List Edge} {s : Script}
  {ns : Namespaces} {entries fills : List Routine} {bs : List Blueprint}

theorem names (h : s.Fills ctx graph known es ns entries bs fills) :
    fills.map (·.name) = bs.map (·.routine) := by
  have each := h.filled
  clear h
  induction each with
  | nil => rfl
  | cons made _ ih =>
    obtain ⟨w, w', ran⟩ := made
    obtain ⟨body, u, _, ran⟩ := Step.bind_ok ran
    obtain ⟨typeName, v, _, ran⟩ := Step.bind_ok ran
    obtain ⟨rfl, _⟩ := Step.pure_ok ran
    rw [List.map_cons, List.map_cons, ih]

theorem generate_ne_create (name rest : String) : fillName name ≠ "Create" ++ rest := by
  intro same
  have chars := congrArg String.toList same
  simp [fillName] at chars

theorem entry_ne (h : s.Fills ctx graph known es ns entries bs fills) {r : Routine} {b : Blueprint}
    (entry : r ∈ entries) (member : b ∈ bs) : r.name ≠ b.routine := by
  have named : b.routine ∈ bs.map (·.routine) := List.mem_map.mpr ⟨b, member, rfl⟩
  rw [h.named, fillNames, List.map_map] at named
  obtain ⟨v, _, made⟩ := List.mem_map.mp named
  obtain ⟨rest, start⟩ := h.created r entry
  intro same
  exact generate_ne_create _ rest (made.trans (same.symm.trans start))

theorem nodup_iff (h : s.Fills ctx graph known es ns entries bs fills) :
    (s.routines.map (·.name)).Nodup ↔ (bs.map (·.routine)).Nodup := by
  rw [h.routines, List.map_append, h.names, List.nodup_append]
  constructor
  · exact fun distinct => distinct.2.1
  · intro distinct
    refine ⟨h.distinct, distinct, fun x entry y fill same => ?_⟩
    obtain ⟨r, inside, rfl⟩ := List.mem_map.mp entry
    obtain ⟨b, member, rfl⟩ := List.mem_map.mp fill
    exact h.entry_ne inside member same

/-- The names of all routines are different if and only if those for different types are. -/
theorem nodup_iff_apart (h : s.Fills ctx graph known es ns entries bs fills) :
    (s.routines.map (·.name)).Nodup ↔
      ∀ a ∈ fillNames ns (bs.map (·.part.type)), ∀ b ∈ fillNames ns (bs.map (·.part.type)),
        a.type ≠ b.type → a.name ≠ b.name := by
  rw [h.nodup_iff, h.named]
  exact Local.nodup_names_iff (numbered_fillNames _ _)

/-- A call for a part reaches the routine of the first part with a routine of this name. -/
theorem routine?_eq (h : s.Fills ctx graph known es ns entries bs fills) {i : Nat} {b : Blueprint}
    (called : bs[i]? = some b) :
    ∃ j r, j ≤ i ∧ fills[j]? = some r ∧ s.routine? b.routine = some r ∧
      (bs[j]?).map (·.routine) = some b.routine ∧
      ∀ k < j, (bs[k]?).map (·.routine) ≠ some b.routine := by
  have names (k : Nat) : (fills[k]?).map (·.name) = (bs[k]?).map (·.routine) := by
    rw [← List.getElem?_map, ← List.getElem?_map, h.names]
  have own := names i
  rw [called, Option.map_some] at own
  obtain ⟨r₀, filled, named⟩ := Option.map_eq_some_iff.mp own
  have among : (fills.find? (·.name = b.routine)).isSome := by
    refine List.find?_isSome.mpr ⟨r₀, List.mem_of_getElem? filled, ?_⟩
    simp [named]
  obtain ⟨r, found⟩ := Option.isSome_iff_exists.mp among
  -- No entry routine has the name, so the search goes on among the routines that fill parts.
  have entry : entries.find? (·.name = b.routine) = none := by
    refine List.find?_eq_none.mpr fun r member => ?_
    simpa using h.entry_ne member (List.mem_of_getElem? called)
  have reached : s.routine? b.routine = some r := by
    rw [Script.routine?, h.routines, List.find?_append, entry, found]
    rfl
  obtain ⟨same, j, inside, rfl, before⟩ := List.find?_eq_some_iff_getElem.mp found
  have filled' : fills[j]? = some fills[j] := List.getElem?_eq_getElem inside
  have earlier (k : Nat) (less : k < j) : (bs[k]?).map (·.routine) ≠ some b.routine := by
    have different := before k less
    rw [← names k, List.getElem?_eq_getElem (Nat.lt_trans less inside)]
    simpa using different
  refine ⟨j, fills[j], ?_, filled', reached, ?_, earlier⟩
  · -- The routine at this place has the name too, so the first one that has it is not later.
    by_contra beyond
    have clash := earlier i (by omega)
    rw [called] at clash
    exact clash rfl
  · rw [← names j, filled']
    simpa using same

/-- There is a routine that feeds the bytes of each part that has some. -/
theorem payload (h : s.Fills ctx graph known es ns entries bs fills) {b : Blueprint}
    (member : b ∈ bs) {bytes : List UInt8} (content : b.part.content = .binary bytes) :
    ∃ r ∈ fills, r.name = b.routine ∧ r.payload? = some (Base64.standard.encode bytes) := by
  obtain ⟨r, fill, w, w', ran⟩ := forall₂_mem_left h.filled b member
  obtain ⟨same, _⟩ := Prod.mk.inj (ran.symm.trans (Part.feeds_of_binary content ctx _ _ w))
  obtain rfl := Except.ok.inj same
  exact ⟨_, fill, rfl, rfl⟩

/-- If all names are different, every call reaches the routine that was made for its part. -/
theorem resolves (h : s.Fills ctx graph known es ns entries bs fills)
    (distinct : (s.routines.map (·.name)).Nodup) {i : Nat} {b : Blueprint}
    (called : bs[i]? = some b) : ∃ r, fills[i]? = some r ∧ s.routine? b.routine = some r := by
  obtain ⟨j, r, _, filled, reached, same, _⟩ := h.routine?_eq called
  have distinct := h.nodup_iff.mp distinct
  have self : (bs.map (·.routine))[i]? = some b.routine := by
    rw [List.getElem?_map, called]
    rfl
  rw [← List.getElem?_map] at same
  have index : j = i := by
    obtain ⟨inside, _⟩ := List.getElem?_eq_some_iff.mp same
    exact (List.getElem?_inj inside distinct).mp (same.trans self.symm)
  exact ⟨r, index ▸ filled, reached⟩

/-- If two names are the same, some call reaches the routine that was made for an earlier part. -/
theorem misses (h : s.Fills ctx graph known es ns entries bs fills)
    (clash : ¬ (s.routines.map (·.name)).Nodup) :
    ∃ (i j : Nat) (b : Blueprint) (r : Routine), j < i ∧ bs[i]? = some b ∧ fills[j]? = some r ∧
      s.routine? b.routine = some r := by
  rw [h.nodup_iff, List.nodup_iff_getElem?_ne_getElem?] at clash
  push Not at clash
  obtain ⟨k, i, less, inside, same⟩ := clash
  rw [List.length_map] at inside
  have called : bs[i]? = some bs[i] := List.getElem?_eq_getElem inside
  rw [List.getElem?_map, List.getElem?_map, called, Option.map_some] at same
  obtain ⟨j, r, _, filled, reached, _, first⟩ := h.routine?_eq called
  refine ⟨i, j, bs[i], r, ?_, called, filled, reached⟩
  by_contra beyond
  exact first k (by omega) same

end Script.Fills

/-! ### What a run visits -/

section

variable {graph : Graph} {w : PartWork} {known : List Part} {owner : Option String}
  {holder : String} {es : List Edge} {body : List Instr} {walk : List Walked}

/-- The blueprints that a pass makes are named by their numbers. -/
theorem Pass.routines_eq (h : Pass graph known owner holder es body walk w) {bs new : List Blueprint}
    (values : w.blueprints.values = bs ++ new) (start : bs.map (·.part) = known)
    (named : ∀ b ∈ new, b.routine = fillName b.name) {ns : Namespaces}
    (le : w.shared.namespaces ≤ ns) :
    new.map (·.routine) =
      (Variable.numbered (known.map (·.type)) (new.map (·.part.type))).map fun v =>
        fillName (v.partName ns) := by
  have parts : new.map (·.part) = found walk := by
    have all := h.parts
    rw [PartWork.parts, values, List.map_append, start] at all
    exact List.append_cancel_left all
  have names : new.map (·.name) =
      (Variable.numbered (known.map (·.type)) (new.map (·.part.type))).map (·.partName ns) := by
    have held := h.names ns le
    rw [← parts, List.map_map, List.map_map] at held
    refine Eq.trans (List.map_congr_left fun b member => ?_) held
    exact (h.sound.holderIn_eq (values ▸ List.mem_append_right _ member)).symm
  have routines : new.map (·.routine) = (new.map (·.name)).map fillName := by
    rw [List.map_map]
    exact List.map_congr_left named
  rw [routines, names, List.map_map]
  rfl

end

namespace Compile

variable {ctx : Context} {cancelled : Bool} {s : Script}

theorem helpers_collect_fill (plain : ctx.handlers = .none) {bs : List Blueprint} {rs : List Routine}
    {w w' : PartWork} (h : Step.collect (helper ctx) bs w = (.ok rs, w')) :
    List.Forall₂ (fun b r => ∃ u u', fillRoutine ctx b u = (.ok r, u')) bs rs := by
  induction bs generalizing w rs with
  | nil =>
    obtain ⟨rfl, _⟩ := Step.pure_ok h
    exact .nil
  | cons b rest ih =>
    obtain ⟨_, v, more, first, others, rfl⟩ := Step.collect_cons_ok h
    obtain ⟨r, rfl, filled⟩ := helper_fills plain first
    exact .cons ⟨_, v, filled⟩ (ih others)

theorem helpers_fill (plain : ctx.handlers = .none) {rs : List Routine} {w w' : PartWork}
    (h : helpers ctx w = (.ok rs, w')) :
    List.Forall₂ (fun b r => ∃ u u', fillRoutine ctx b u = (.ok r, u')) w.blueprints.values rs := by
  obtain ⟨bs, u, read, h⟩ := Step.bind_ok h
  obtain ⟨value, rfl⟩ := Prod.mk.inj read
  obtain rfl := Except.ok.inj value
  exact helpers_collect_fill plain h

theorem partScript_fills (plain : ctx.handlers = .none) {graph : Graph} {uri : String}
    (ran : partScript ctx cancelled (some graph) uri = .ok s) :
    ∃ part, graph.get? uri = some part ∧ ∃ ns entries bs fills,
      s.Fills ctx graph [part] part.children ns entries bs fills := by
  obtain ⟨part, entry, w₁, fills, w, inside, entered, helped, rfl⟩ := partScript_ok ran
  obtain ⟨_, _, walk, pass⟩ := partEntry_ok plain (Graph.get?_uri inside) entered
  obtain ⟨created, routine, new, values, calls, named, start⟩ := partEntry_calls plain entered
  have grown := (helpers_ok plain helped).1
  refine ⟨part, inside, w.shared.namespaces, [entry], w₁.blueprints.values, fills, ?_⟩
  refine ⟨rfl, rfl, fun p => pass.mem_parts (.of_get? (Graph.get?_uri inside)), ?_, ?_,
    helpers_fill plain helped, ?_, ?_, ?_⟩
  · rw [← pass.sound.keys_eq]
    exact w₁.blueprints.nodup
  · rw [List.flatMap_singleton, Routine.fillCalls, Routine.walk, pass.walk_eq, calls]
  · have split : w₁.blueprints.values = [⟨part, partName, routine⟩] ++ new := values
    have later := pass.routines_eq split rfl named grown
    rw [values, List.map_cons, List.map_cons, later, start _ grown, fillNames, List.map_map]
    rfl
  · simp
  · intro r member
    rw [List.mem_singleton.mp member]
    exact ⟨_, created⟩

theorem packageScript_fills (plain : ctx.handlers = .none) {package : Package}
    (ran : packageScript ctx cancelled (some package) = .ok s) :
    ∃ ns entries bs fills,
      s.Fills ctx package.graph [] package.children ns entries bs fills := by
  obtain ⟨entry, parts, w₁, fills, w, entered, helped, rfl⟩ := packageScript_ok ran
  obtain ⟨_, _, _, walk, pass⟩ := packageEntries_ok plain entered
  obtain ⟨created, none, created', calls, named⟩ := packageEntries_call plain entered
  have grown := (helpers_ok plain helped).1
  refine ⟨w.shared.namespaces, [entry, parts], w₁.blueprints.values, fills, ?_⟩
  refine ⟨rfl, rfl, fun p => pass.mem_parts ⟨nofun, nofun⟩, ?_, ?_,
    helpers_fill plain helped, ?_, ?_, ?_⟩
  · rw [← pass.sound.keys_eq]
    exact w₁.blueprints.nodup
  · rw [List.flatMap_cons, List.flatMap_singleton, none, Routine.fillCalls, Routine.walk, pass.walk_eq,
      calls, List.nil_append]
  · rw [pass.routines_eq (List.nil_append _).symm rfl named grown, fillNames, List.map_map]
    rfl
  · rw [List.map_cons, List.map_singleton, created, created']
    decide
  · intro r member
    simp only [List.mem_cons, List.not_mem_nil, or_false] at member
    rcases member with rfl | rfl
    · exact ⟨"Package", created⟩
    · exact ⟨"Parts", created'⟩

end Compile

/-- Where the script for a part or a package begins: the parts and edges of its graph. -/
inductive Target.Begins : Target → Graph → List Part → List Edge → Prop
  | part {uri : String} {graph : Graph} {part : Part} (inside : graph.get? uri = some part) :
      Begins (.part uri graph) graph [part] part.children
  | package {package : Package} {graph : Option Graph} :
      Begins (.package package graph) package.graph [] package.children

/-- A script for a part or a package calls a routine of its own for each part that can be reached.
All names of routines are different if and only if those for parts of different types are; then each
call reaches the routine that was made for its part, and otherwise some call reaches the routine that
was made for an earlier part. -/
theorem Target.script_resolves_iff {ctx : Context} (plain : ctx.handlers = .none) {cancelled : Bool}
    {target : Target} (whole : ∀ e graph, target ≠ .element e graph) {s : Script}
    (ran : targetScript ctx cancelled target = .ok s) :
    ∃ graph known es, target.Begins graph known es ∧ ∃ ns entries bs fills,
      s.Fills ctx graph known es ns entries bs fills ∧
      ((s.routines.map (·.name)).Nodup ↔
        ∀ a ∈ fillNames ns (bs.map (·.part.type)), ∀ b ∈ fillNames ns (bs.map (·.part.type)),
          a.type ≠ b.type → a.name ≠ b.name) ∧
      ((s.routines.map (·.name)).Nodup → ∀ (i : Nat) (b : Blueprint), bs[i]? = some b →
        ∃ r, fills[i]? = some r ∧ s.routine? b.routine = some r) ∧
      (¬ (s.routines.map (·.name)).Nodup →
        ∃ (i j : Nat) (b : Blueprint) (r : Routine), j < i ∧ bs[i]? = some b ∧
          fills[j]? = some r ∧ s.routine? b.routine = some r) := by
  cases target with
  | element e graph => exact (whole e graph rfl).elim
  | part uri graph =>
    obtain ⟨part, inside, ns, entries, bs, fills, h⟩ := partScript_fills plain ran
    exact ⟨graph, _, _, .part inside, ns, entries, bs, fills, h, h.nodup_iff_apart,
      fun distinct _ _ called => h.resolves distinct called, h.misses⟩
  | package package graph =>
    obtain ⟨ns, entries, bs, fills, h⟩ := packageScript_fills plain ran
    exact ⟨package.graph, _, _, .package, ns, entries, bs, fills, h, h.nodup_iff_apart,
      fun distinct _ _ called => h.resolves distinct called, h.misses⟩

/-- A part with a single byte. -/
def leaf (uri type : String) (byte : UInt8) : Part :=
  ⟨uri, .plain "N" type, none, .binary [byte], [], [], []⟩

def siblingsStart : Part := hub "/a" [⟨"r1", "/1"⟩, ⟨"r2", "/2"⟩, ⟨"r3", "/3"⟩]

/-- Three parts with bytes below a part. The second part of the first type takes the name that the
first part of the second type has. -/
def siblings : Graph :=
  (((Graph.empty.add siblingsStart).add (leaf "/1" "A" 1)).add (leaf "/2" "A" 2)).add
    (leaf "/3" "A1" 3)

/-- The script has one routine for each of the parts, but the routine that the call for `/3` reaches
feeds the bytes of `/2`. -/
theorem Target.siblings_misdirected :
    ∃ s, targetScript ringContext false (.part "/a" siblings) = .ok s ∧
      ∃ ns entries bs fills,
        s.Fills ringContext siblings [siblingsStart] siblingsStart.children ns entries bs fills ∧
        (∃ (i j : Nat) (b : Blueprint) (r : Routine), j < i ∧ bs[i]? = some b ∧
          fills[j]? = some r ∧ s.routine? b.routine = some r) ∧
        ∃ b ∈ bs, b.part = leaf "/3" "A1" 3 ∧ ∃ r, s.routine? b.routine = some r ∧
          r.payload? = some (Base64.standard.encode [2]) := by
  have ends : (targetScript ringContext false (.part "/a" siblings)).map
      (·.routines.map fun r => (r.name, r.payload?)) =
        .ok [("CreateP", none), ("GenerateP", none), ("GenerateA", some "AQ=="),
          ("GenerateA1", some "Ag=="), ("GenerateA1", some "Aw==")] := by
    cbv
  obtain ⟨s, ran, table⟩ := except_map_ok ends
  have plain : ringContext.handlers = .none := rfl
  have whole : ∀ e graph, Target.part "/a" siblings ≠ .element e graph := by
    intro e graph same
    cases same
  obtain ⟨graph, known, es, begins, ns, entries, bs, fills, h, _, _, misses⟩ :=
    Target.script_resolves_iff plain whole ran
  cases begins with
  | part inside =>
    obtain rfl : siblingsStart = _ := Option.some.inj inside
    have names : s.routines.map (·.name) =
        ["CreateP", "GenerateP", "GenerateA", "GenerateA1", "GenerateA1"] := by
      have firsts := congrArg (List.map Prod.fst) table
      rwa [List.map_map] at firsts
    refine ⟨s, ran, ns, entries, bs, fills, h, misses (by rw [names]; decide), ?_⟩
    have third : leaf "/3" "A1" 3 ∈ bs.map (·.part) :=
      (h.visited _).mpr (Or.inr ⟨⟨"r3", "/3"⟩, .here (by decide), rfl⟩)
    obtain ⟨b, member, part⟩ := List.mem_map.mp third
    refine ⟨b, member, part, ?_⟩
    -- Its own routine is the only one with its bytes, so the call is for the name of that.
    have bytes : b.part.content = .binary [3] := by
      rw [part]
      rfl
    obtain ⟨own, fill, name, payload⟩ := h.payload member bytes
    have row : (own.name, own.payload?) ∈ s.routines.map fun r => (r.name, r.payload?) :=
      List.mem_map.mpr ⟨own, h.routines ▸ List.mem_append_right _ fill, rfl⟩
    rw [table, name, payload, show Base64.standard.encode [3] = "Aw==" by decide +kernel] at row
    have called : b.routine = "GenerateA1" := by simpa using row
    have first : (s.routines.map fun r => (r.name, r.payload?)).find? (·.1 = "GenerateA1") =
        some ("GenerateA1", some "Ag==") := by
      rw [table]
      decide
    rw [List.find?_map] at first
    obtain ⟨r, reached, found⟩ := Option.map_eq_some_iff.mp first
    rw [called, show Base64.standard.encode [2] = "Ag==" by decide +kernel]
    exact ⟨r, reached, (Prod.mk.inj found).2⟩

end DocScript
