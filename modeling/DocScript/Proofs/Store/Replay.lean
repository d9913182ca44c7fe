import DocScript.Proofs.Element.Apart
import DocScript.Proofs.Store.Reference

/-!
# Plans are replayed

As long as what is live together has different names, the code of a plan makes exactly the objects
of the plan, at the end of the store, and leaves the live variables alone. These objects look like
the tree of the plan.
-/

namespace DocScript

open Store

def Attachment.thing (v : Attachment) : Thing :=
  ⟨v.creation.made, v.fields.map fun (f, text) => .member f (.text text)⟩

namespace Plan

/-- The place of the element itself among its objects, which begin at a place. -/
def place (at_ : Nat) (p : Plan) : Nat := at_ + p.values.length

mutual

/-- The objects that a plan makes, from a place on. Only the children that are kept are appended. -/
def objects (keep : Variable → Bool) : Nat → Plan → List Thing
  | _, bare c => [⟨c.made, []⟩]
  | at_, full vs c ds simple enums ps =>
    let parts := (vs.zipIdx at_).map fun (v, i) => Entry.part v.property i
    let below := objectsBelow keep (at_ + vs.length + 1) ps
    vs.map (·.thing) ++ ⟨c.made, headLog ds simple parts enums ++ below.1⟩ :: below.2

/-- The entries for some children, and the objects that are made for them from a place on. -/
def objectsBelow (keep : Variable → Bool) : Nat → List Plan → List (Entry Nat) × List Thing
  | _, [] => ([], [])
  | at_, p :: rest =>
    let first := objects keep at_ p
    let others := objectsBelow keep (at_ + first.length) rest
    ((if keep p.holder then [.child (p.place at_)] else []) ++ others.1, first ++ others.2)

end

end Plan

/-! ### Running the code of a plan -/

section

variable {sp : Spelling} {s : Store} {owner : String} {o : Nat}

theorem exec_creation (sp : Spelling) (c : Creation) (s : Store) :
    exec (c.instr sp) s = some (s.bind (sp.variableName c.holder) c.made) := by
  unfold Creation.instr
  split <;> rfl

/-- Instructions that only add to the record of one object. -/
theorem run_records {α : Type} {instr : α → Instr} {entry : α → Option (Entry Nat)} {xs : List α}
    (each : ∀ a ∈ xs, ∀ s' : Store, s'.env = s.env →
      exec (instr a) s' = some (s'.recordAll o (entry a).toList)) :
    run (xs.map instr) s = some (s.recordAll o (xs.filterMap entry)) := by
  induction xs generalizing s with
  | nil => rfl
  | cons a rest ih =>
    have first := each a List.mem_cons_self s rfl
    have others := ih (s := s.recordAll o (entry a).toList) fun b member s' same =>
      each b (List.mem_cons_of_mem _ member) s' (same.trans (env_recordAll _ _ _))
    rw [List.map_cons, run_cons_of first, others, ← recordAll_append]
    cases h : entry a <;> simp [h]

theorem run_entries {α : Type} {instr : α → Instr} {entry : α → Entry Nat} {xs : List α}
    (each : ∀ a ∈ xs, ∀ s' : Store, s'.env = s.env →
      exec (instr a) s' = some (s'.record o (entry a))) :
    run (xs.map instr) s = some (s.recordAll o (xs.map entry)) := by
  have all : run (xs.map instr) s = some (s.recordAll o (xs.filterMap fun a => some (entry a))) :=
    run_records each
  rwa [List.filterMap_eq_map'] at all

theorem run_declarations (ds : List (String × String)) (held : s.env owner = some o) :
    run (ds.map (declarationInstr owner)) s =
      some (s.recordAll o (ds.map fun (short, uri) => .space short uri)) :=
  run_entries fun _ _ _ same => exec_space (by rw [same, held])

theorem text_plain (text x : String) : Expr.text text ≠ .var x := by
  intro same
  cases same

theorem run_fields (fields : List (String × String)) (held : s.env owner = some o) :
    run (fields.map fun (f, text) => .set owner f (.text text)) s =
      some (s.recordAll o (fields.map fun (f, text) => .member f (.text text))) :=
  run_entries fun d _ _ same => exec_set (text_plain d.2) (by rw [same, held])

theorem run_settings (settings : List Setting) (held : s.env owner = some o) :
    run (settings.map (·.instr owner)) s = some (s.recordAll o (settings.filterMap (·.entry))) := by
  refine run_records fun setting _ s' same => ?_
  cases setting with
  | member name value plain => exact exec_set plain (by rw [same, held])
  | comment text => rfl

theorem run_wirings (vs : List Attachment) (first : Nat) (held : s.env owner = some o)
    (values : ∀ v i, (v, i) ∈ vs.zipIdx first → s.env (sp.variableName v.holder) = some i) :
    run (vs.map (·.wiring sp owner)) s =
      some (s.recordAll o ((vs.zipIdx first).map fun (v, i) => .part v.property i)) := by
  have numbered : vs.map (·.wiring sp owner) =
      (vs.zipIdx first).map fun (v, _) => v.wiring sp owner := by
    conv => lhs; rw [← List.zipIdx_map_fst first vs]
    rw [List.map_map]
    rfl
  rw [numbered]
  exact run_entries fun x member _ same =>
    exec_set_var (by rw [same, held]) (by rw [same, values x.1 x.2 member])

/-- The object for a property is made at the end of the store. -/
theorem run_value (sp : Spelling) (v : Attachment) (s : Store) :
    run (v.code sp) s = some ⟨(s.bind (sp.variableName v.holder) v.creation.made).env,
      s.things ++ [v.thing]⟩ := by
  have self : (s.bind (sp.variableName v.holder) v.creation.made).env (sp.variableName v.holder) =
      some s.things.length := if_pos rfl
  rw [Attachment.code, List.cons_append, run_cons_of (exec_creation sp v.creation s)]
  refine (run_append_of (run_fields v.fields self)).trans ?_
  rw [recordAll_eq _ rfl rfl]
  rfl

/-- The objects for the properties are made one after the other, and each is in its variable at the
end. -/
theorem run_values {vs : List Attachment} (nodup : (vs.map fun v => sp.variableName v.holder).Nodup)
    (s : Store) :
    ∃ env, run (vs.flatMap (·.code sp)) s = some ⟨env, s.things ++ vs.map (·.thing)⟩ ∧
      (∀ v i, (v, i) ∈ vs.zipIdx s.things.length → env (sp.variableName v.holder) = some i) ∧
      ∀ x ∉ vs.map (fun v => sp.variableName v.holder), env x = s.env x := by
  induction vs generalizing s with
  | nil => exact ⟨s.env, by simp [run], by simp, fun _ _ => rfl⟩
  | cons v rest ih =>
    rw [List.map_cons, List.nodup_cons] at nodup
    obtain ⟨env, others, places, frame⟩ := ih nodup.2
      ⟨(s.bind (sp.variableName v.holder) v.creation.made).env, s.things ++ [v.thing]⟩
    refine ⟨env, ?_, ?_, ?_⟩
    · rw [List.flatMap_cons, run_append_of (run_value sp v s), others, List.append_assoc]
      rfl
    · intro u i member
      rw [List.zipIdx_cons] at member
      rcases List.mem_cons.mp member with same | member
      · obtain ⟨rfl, rfl⟩ := Prod.mk.inj same
        rw [frame _ nodup.1]
        exact if_pos rfl
      · refine places u i ?_
        rwa [List.length_append]
    · intro x outside
      rw [List.map_cons, List.mem_cons, not_or] at outside
      rw [frame x outside.2]
      exact if_neg outside.1

/-- Up to its children, an element is made at the end of the store, after the objects for its
properties. -/
theorem run_headCode {vs : List Attachment} {c : Creation} (ds : List (String × String))
    (simple enums : List Setting)
    (nodup : (sp.variableName c.holder :: vs.map fun v => sp.variableName v.holder).Nodup)
    (s : Store) :
    ∃ env, run (Plan.headCode sp vs c ds simple enums) s = some ⟨env,
        s.things ++ vs.map (·.thing) ++ [⟨c.made, headLog ds simple
          ((vs.zipIdx s.things.length).map fun (v, i) => .part v.property i) enums⟩]⟩ ∧
      env (sp.variableName c.holder) = some (s.things.length + vs.length) ∧
      ∀ x ∉ sp.variableName c.holder :: vs.map (fun v => sp.variableName v.holder),
        env x = s.env x := by
  rw [List.nodup_cons] at nodup
  obtain ⟨env, made, places, frame⟩ := run_values nodup.2 s
  let after : Store := Store.bind (sp.variableName c.holder) c.made
    ⟨env, s.things ++ vs.map (·.thing)⟩
  have self : after.env (sp.variableName c.holder) = some (s.things.length + vs.length) := by
    simp [after, Store.bind]
  have values : ∀ v i, (v, i) ∈ vs.zipIdx s.things.length →
      after.env (sp.variableName v.holder) = some i := by
    intro v i member
    have other : sp.variableName v.holder ≠ sp.variableName c.holder := by
      intro same
      refine nodup.1 (List.mem_map.mpr ⟨v, ?_, same⟩)
      rw [← List.zipIdx_map_fst s.things.length vs]
      exact List.mem_map.mpr ⟨(v, i), member, rfl⟩
    rw [← places v i member]
    exact if_neg other
  refine ⟨after.env, ?_, self, ?_⟩
  · simp only [Plan.headCode, List.append_assoc, List.cons_append]
    rw [run_append_of made, run_cons_of (exec_creation sp c _), run_append_of (run_declarations ds self),
      run_append_of (run_settings simple (by rw [env_recordAll]; exact self)),
      run_append_of (run_wirings vs s.things.length (by simp only [env_recordAll]; exact self)
        (by simp only [env_recordAll]; exact values)),
      run_append_of (run_settings enums (by simp only [env_recordAll]; exact self))]
    simp only [← recordAll_append]
    have place : s.things.length + vs.length = (s.things ++ vs.map (·.thing)).length := by simp
    rw [recordAll_eq _ place rfl]
    simp only [headLog, List.nil_append, List.append_assoc]
    rfl
  · intro x outside
    rw [List.mem_cons, not_or] at outside
    rw [← frame x outside.2]
    exact if_neg outside.1

def Spelling.named (sp : Spelling) (v : Variable) : Bool := decide (sp.variableName v ≠ "")

/-- The code of a plan makes the objects of the plan, and leaves live variables alone. -/
def Replays (sp : Spelling) (p : Plan) : Prop :=
  ∀ live s, p.Distinct sp.variableName live →
    ∃ env, run (p.code sp) s = some ⟨env, s.things ++ p.objects sp.named s.things.length⟩ ∧
      env (p.name sp) = some (p.place s.things.length) ∧ ∀ x ∈ live, env x = s.env x

/-- The children are made at the end of the store, and those with a name are appended to their
parent, which is among the objects from before. -/
theorem replays_below (ps : List Plan) (each : ∀ p ∈ ps, Replays sp p) {live : List String}
    (distinct : Plan.DistinctBelow sp.variableName live ps) {made : Expr} {log : List (Entry Nat)}
    {before after : List Thing} (things : s.things = before ++ ⟨made, log⟩ :: after)
    (held : s.env owner = some before.length) (member : owner ∈ live) :
    ∃ env, run (Plan.codeBelow sp owner ps) s = some ⟨env,
        before ++ ⟨made, log ++ (Plan.objectsBelow sp.named s.things.length ps).1⟩ ::
          (after ++ (Plan.objectsBelow sp.named s.things.length ps).2)⟩ ∧
      ∀ x ∈ live, env x = s.env x := by
  induction ps generalizing s log after with
  | nil =>
    refine ⟨s.env, ?_, fun _ _ => rfl⟩
    simp only [Plan.codeBelow, Plan.objectsBelow, List.append_nil, run, ← things]
  | cons p rest ih =>
    rw [Plan.DistinctBelow] at distinct
    obtain ⟨env, first, self, frame⟩ := each p List.mem_cons_self live s distinct.1
    -- The parent is live, so the code of the child has not rebound its name.
    let entries : List (Entry Nat) :=
      if sp.named p.holder then [.child (p.place s.things.length)] else []
    let made_ := p.objects sp.named s.things.length
    have owned : env owner = some before.length := (frame owner member).trans held
    have appended : run (Compile.append owner (p.name sp)) ⟨env, s.things ++ made_⟩ =
        some ⟨env, before ++ ⟨made, log ++ entries⟩ :: (after ++ made_)⟩ := by
      have place : s.things ++ made_ = before ++ ⟨made, log⟩ :: (after ++ made_) := by
        rw [things, List.append_assoc, List.cons_append]
      unfold Compile.append
      by_cases empty : p.name sp = ""
      · have unnamed : sp.named p.holder = false := by
          simpa [Spelling.named, Plan.name] using empty
        simp only [entries, empty, unnamed, if_true, Bool.false_eq_true, if_false, run,
          List.append_nil, place]
      · have named : sp.named p.holder = true := by
          simpa [Spelling.named, Plan.name] using empty
        rw [if_neg empty, run_cons_of (exec_append owned self)]
        have recorded := recordAll_eq (s := ⟨env, s.things ++ made_⟩) entries rfl place
        simp only [entries, named, if_true] at recorded ⊢
        rw [← recorded]
        rfl
    obtain ⟨env', others, frame'⟩ := ih (fun q member => each q (List.mem_cons_of_mem _ member))
      distinct.2 (s := ⟨env, before ++ ⟨made, log ++ entries⟩ :: (after ++ made_)⟩) rfl owned
    refine ⟨env', ?_, fun x live => (frame' x live).trans (frame x live)⟩
    have size : (before ++ (⟨made, log ++ entries⟩ : Thing) :: (after ++ made_)).length =
        s.things.length + made_.length := by
      rw [things]
      simp only [List.length_append, List.length_cons]
      omega
    rw [Plan.codeBelow, List.append_assoc, run_append_of first, run_append_of appended, others]
    simp only [size, Plan.objectsBelow, List.append_assoc, entries, made_]

/-- The code of a plan makes the objects of the plan wherever the names of what is live together
are different. -/
theorem replays (sp : Spelling) (p : Plan) : Replays sp p := by
  induction p using Plan.induction with
  | step p ih =>
    intro live s distinct
    cases p with
    | bare c =>
      rw [Plan.Distinct, List.nodup_cons] at distinct
      refine ⟨(s.bind (sp.variableName c.holder) c.made).env, ?_, if_pos rfl, ?_⟩
      · rw [Plan.code, run_cons_of (exec_creation sp c s), Plan.objects]
        rfl
      · intro x member
        refine if_neg ?_
        rintro rfl
        exact distinct.1 member
    | full vs c ds simple enums ps =>
      rw [Plan.Distinct] at distinct
      obtain ⟨nodup, distinct⟩ := distinct
      rw [List.nodup_append] at nodup
      obtain ⟨own, _, apart⟩ := nodup
      obtain ⟨env, head, self, frame⟩ := run_headCode ds simple enums own s
      let parts := (vs.zipIdx s.things.length).map fun (v, i) => Entry.part v.property i
      let element : Thing := ⟨c.made, headLog ds simple parts enums⟩
      have things : s.things ++ vs.map (·.thing) ++ [element] =
          (s.things ++ vs.map (·.thing)) ++ ⟨c.made, headLog ds simple parts enums⟩ :: [] := rfl
      obtain ⟨env', below, frame'⟩ := replays_below
        (s := ⟨env, s.things ++ vs.map (·.thing) ++ [element]⟩) ps ih distinct things
        (by simpa using self) List.mem_cons_self
      refine ⟨env', ?_, ?_, ?_⟩
      · rw [Plan.code, run_append_of head, below]
        simp only [element, parts, Plan.objects, List.length_append, List.length_map,
          List.length_singleton, List.nil_append, List.append_assoc]
        rfl
      · rw [Plan.name, Plan.holder, Plan.creation, frame' _ List.mem_cons_self]
        exact self
      · intro x member
        rw [frame' x (List.mem_cons_of_mem _ member)]
        exact frame x fun mine => apart x mine x member rfl

end

/-! ### What the objects of a plan look like -/

section

variable {keep : Variable → Bool} {things before after : List Thing}

theorem unfoldsAll_map {α : Type} {f : α → Entry Tree} {g : α → Entry Nat} {xs : List α}
    (each : ∀ a ∈ xs, UnfoldsEntry things (f a) (g a)) :
    UnfoldsAll things (xs.map f) (xs.map g) := by
  induction xs with
  | nil => rfl
  | cons a rest ih =>
    rw [List.map_cons, List.map_cons, UnfoldsAll]
    exact ⟨g a, rest.map g, rfl, each a List.mem_cons_self,
      ih fun b member => each b (List.mem_cons_of_mem _ member)⟩

theorem unfoldsAll_settings (settings : List Setting) :
    UnfoldsAll things (settings.filterMap (·.entry)) (settings.filterMap (·.entry)) := by
  induction settings with
  | nil => rfl
  | cons setting rest ih =>
    cases setting with
    | member name value plain =>
      exact ⟨.member name value, rest.filterMap (·.entry), rfl, rfl, ih⟩
    | comment text => exact ih

theorem unfoldsAll_headLog {ds : List (String × String)} {simple enums : List Setting}
    {parts : List (Entry Tree)} {parts' : List (Entry Nat)} (h : UnfoldsAll things parts parts') :
    UnfoldsAll things (headLog ds simple parts enums) (headLog ds simple parts' enums) := by
  have spaces : UnfoldsAll things (ds.map fun (short, uri) => .space short uri)
      (ds.map fun (short, uri) => .space short uri) := unfoldsAll_map fun _ _ => rfl
  exact unfoldsAll_append (unfoldsAll_append (unfoldsAll_append spaces (unfoldsAll_settings simple)) h)
    (unfoldsAll_settings enums)

theorem unfolds_value (v : Attachment) {i : Nat} (found : things[i]? = some v.thing) :
    Unfolds things v.tree i := by
  rw [Attachment.tree, Unfolds]
  exact ⟨_, found, unfoldsAll_map fun _ _ => rfl⟩

/-- The values of an element look like their trees. -/
theorem unfoldsAll_values (vs : List Attachment) (before after : List Thing) :
    UnfoldsAll (before ++ vs.map (·.thing) ++ after) (vs.map fun v => .part v.property v.tree)
      ((vs.zipIdx before.length).map fun (v, i) => .part v.property i) := by
  have numbered : vs.map (fun v => Entry.part v.property v.tree) =
      (vs.zipIdx before.length).map fun (v, _) => Entry.part v.property v.tree := by
    conv => lhs; rw [← List.zipIdx_map_fst before.length vs]
    rw [List.map_map]
    rfl
  rw [numbered]
  refine unfoldsAll_map fun (v, i) member => ⟨i, rfl, unfolds_value v ?_⟩
  obtain ⟨low, high, value⟩ := List.mem_zipIdx member
  have inside : i - before.length < (vs.map (·.thing)).length := by
    rw [List.length_map]
    omega
  rw [List.append_assoc, List.getElem?_append_right low, List.getElem?_append_left inside,
    List.getElem?_map, List.getElem?_eq_getElem (by rwa [List.length_map] at inside), ← value]
  rfl

/-- The objects of a plan look like its tree, wherever they stand among other objects. -/
theorem unfolds_objects (keep : Variable → Bool) (p : Plan) (before after : List Thing) :
    Unfolds (before ++ p.objects keep before.length ++ after) (p.tree keep)
      (p.place before.length) := by
  induction p using Plan.induction generalizing before after with
  | step p ih =>
    cases p with
    | bare c =>
      rw [Plan.tree, Unfolds]
      exact ⟨[], by simp [Plan.objects, Plan.place, Plan.values], rfl⟩
    | full vs c ds simple enums ps =>
      have below (before after : List Thing) :
          UnfoldsAll (before ++ (Plan.objectsBelow keep before.length ps).2 ++ after)
            (Plan.treesBelow keep ps) (Plan.objectsBelow keep before.length ps).1 := by
        simp only [Plan.children] at ih
        induction ps generalizing before with
        | nil => rfl
        | cons p rest ih' =>
          have first := ih p List.mem_cons_self before
            ((Plan.objectsBelow keep (before.length + (p.objects keep before.length).length) rest).2
              ++ after)
          have others := ih' (fun q member => ih q (List.mem_cons_of_mem _ member))
            (before ++ p.objects keep before.length)
          simp only [List.length_append, List.append_assoc] at first others
          simp only [Plan.objectsBelow, Plan.treesBelow, List.append_assoc]
          refine unfoldsAll_append ?_ others
          split
          · exact ⟨_, [], rfl, ⟨_, rfl, first⟩, rfl⟩
          · rfl
      let parts := (vs.zipIdx before.length).map fun (v, i) => Entry.part v.property i
      let under := Plan.objectsBelow keep (before.length + vs.length + 1) ps
      let element : Thing := ⟨c.made, headLog ds simple parts enums ++ under.1⟩
      have all : before ++ (Plan.full vs c ds simple enums ps).objects keep before.length ++ after =
          before ++ vs.map (·.thing) ++ element :: under.2 ++ after := by
        simp only [Plan.objects, element, under, parts, List.append_assoc]
      have values := unfoldsAll_values vs before (element :: under.2 ++ after)
      have children := below (before ++ vs.map (·.thing) ++ [element]) after
      rw [all, Plan.tree, Unfolds]
      refine ⟨headLog ds simple parts enums ++ under.1, ?_,
        unfoldsAll_append (unfoldsAll_headLog ?_) ?_⟩
      · simp [Plan.place, Plan.values, element]
      · simpa only [List.append_assoc, List.cons_append] using values
      · simp only [List.length_append, List.length_map, List.length_singleton, List.append_assoc,
          List.singleton_append] at children ⊢
        exact children

/-- Of the entries of an element up to its children only the parts refer to objects. -/
theorem mem_parts_of_headLog {ds : List (String × String)} {simple enums : List Setting}
    {parts : List (Entry Nat)} {e : Entry Nat} {j : Nat} (member : e ∈ headLog ds simple parts enums)
    (refers : e.object? = some j) : e ∈ parts := by
  have flat (settings : List Setting) : e ∉ settings.filterMap (·.entry) := by
    intro member
    obtain ⟨setting, _, same⟩ := List.mem_filterMap.mp member
    cases setting with
    | member name value plain =>
      obtain rfl := Option.some.inj same
      cases refers
    | comment text => cases same
  simp only [headLog, List.mem_append] at member
  rcases member with ((spaces | setting) | part) | setting
  · obtain ⟨d, _, rfl⟩ := List.mem_map.mp spaces
    cases refers
  · exact (flat simple setting).elim
  · exact part
  · exact (flat enums setting).elim

/-- Each reference from an object leads to an object at or behind a place. -/
def ReferFrom (at_ : Nat) (log : List (Entry Nat)) : Prop :=
  ∀ e ∈ log, ∀ j, e.object? = some j → at_ ≤ j

theorem objectsBelow_refer (ps : List Plan)
    (each : ∀ p ∈ ps, ∀ at_, ∀ thing ∈ p.objects keep at_, ReferFrom at_ thing.log) (at_ : Nat) :
    ReferFrom at_ (Plan.objectsBelow keep at_ ps).1 ∧
      ∀ thing ∈ (Plan.objectsBelow keep at_ ps).2, ReferFrom at_ thing.log := by
  induction ps generalizing at_ with
  | nil => exact ⟨nofun, nofun⟩
  | cons p rest ih =>
    obtain ⟨entries, things⟩ := ih (fun q member => each q (List.mem_cons_of_mem _ member))
      (at_ + (p.objects keep at_).length)
    have further {j : Nat} (h : at_ + (p.objects keep at_).length ≤ j) : at_ ≤ j := by omega
    simp only [Plan.objectsBelow]
    refine ⟨fun e member j refers => ?_, fun thing member e entry j refers => ?_⟩
    · rcases List.mem_append.mp member with first | others
      · split at first
        · obtain rfl := List.mem_singleton.mp first
          obtain rfl := Option.some.inj refers
          exact Nat.le_add_right _ _
        · cases first
      · exact further (entries e others j refers)
    · rcases List.mem_append.mp member with first | others
      · exact each p List.mem_cons_self at_ thing first e entry j refers
      · exact further (things thing others e entry j refers)

/-- The objects of a plan only refer to each other. -/
theorem objects_refer (keep : Variable → Bool) (p : Plan) :
    ∀ at_, ∀ thing ∈ p.objects keep at_, ReferFrom at_ thing.log := by
  induction p using Plan.induction with
  | step p ih =>
    intro at_ thing member e entry j refers
    cases p with
    | bare c =>
      rw [Plan.objects, List.mem_singleton] at member
      rw [member] at entry
      cases entry
    | full vs c ds simple enums ps =>
      obtain ⟨entries, things⟩ := objectsBelow_refer ps ih (at_ + vs.length + 1)
      simp only [Plan.objects, List.mem_append, List.mem_cons] at member
      rcases member with value | rfl | child
      · obtain ⟨v, _, rfl⟩ := List.mem_map.mp value
        obtain ⟨field, _, rfl⟩ := List.mem_map.mp entry
        cases refers
      · rcases List.mem_append.mp entry with head | child
        · obtain ⟨⟨v, i⟩, part, rfl⟩ := List.mem_map.mp (mem_parts_of_headLog head refers)
          obtain rfl := Option.some.inj refers
          exact (List.mem_zipIdx part).1
        · have later := entries e child j refers
          omega
      · have later := things thing child e entry j refers
        omega

theorem objectsBelow_attached {ps : List Plan} (kept : Plan.KeptBelow keep ps)
    (each : ∀ p ∈ ps, p.Kept keep → ∀ at_ j, at_ ≤ j → j < at_ + (p.objects keep at_).length →
      j ≠ p.place at_ → ∃ thing ∈ p.objects keep at_, ∃ e ∈ thing.log, e.object? = some j)
    (at_ j : Nat) (low : at_ ≤ j) (high : j < at_ + (Plan.objectsBelow keep at_ ps).2.length) :
    (∃ e ∈ (Plan.objectsBelow keep at_ ps).1, e.object? = some j) ∨
      ∃ thing ∈ (Plan.objectsBelow keep at_ ps).2, ∃ e ∈ thing.log, e.object? = some j := by
  induction ps generalizing at_ with
  | nil =>
    simp only [Plan.objectsBelow, List.length_nil] at high
    omega
  | cons p rest ih =>
    rw [Plan.KeptBelow] at kept
    simp only [Plan.objectsBelow, List.length_append] at high
    simp only [Plan.objectsBelow, List.mem_append, kept.1, if_true, List.mem_singleton]
    by_cases first : j < at_ + (p.objects keep at_).length
    · by_cases self : j = p.place at_
      · exact Or.inl ⟨.child (p.place at_), Or.inl rfl, by rw [self]; rfl⟩
      · obtain ⟨thing, member, e, entry, refers⟩ :=
          each p List.mem_cons_self kept.2.1 at_ j low first self
        exact Or.inr ⟨thing, Or.inl member, e, entry, refers⟩
    · rcases ih kept.2.2 (fun q member => each q (List.mem_cons_of_mem _ member))
        (at_ + (p.objects keep at_).length) (by omega) (by omega) with
        ⟨e, entry, refers⟩ | ⟨thing, member, e, entry, refers⟩
      · exact Or.inl ⟨e, Or.inr entry, refers⟩
      · exact Or.inr ⟨thing, Or.inr member, e, entry, refers⟩

/-- If all children are appended, something refers to each object of a plan, except to the element
itself. -/
theorem objects_attached (p : Plan) (kept : p.Kept keep) (at_ j : Nat) (low : at_ ≤ j)
    (high : j < at_ + (p.objects keep at_).length) (other : j ≠ p.place at_) :
    ∃ thing ∈ p.objects keep at_, ∃ e ∈ thing.log, e.object? = some j := by
  induction p using Plan.induction generalizing at_ j with
  | step p ih =>
    cases p with
    | bare c =>
      simp only [Plan.objects, List.length_singleton, Plan.place, Plan.values, List.length_nil]
        at high other
      omega
    | full vs c ds simple enums ps =>
      rw [Plan.Kept] at kept
      simp only [Plan.place, Plan.values] at other
      simp only [Plan.objects, List.length_append, List.length_map, List.length_cons] at high
      simp only [Plan.objects, List.mem_append, List.mem_cons]
      by_cases value : j < at_ + vs.length
      · have inside : j - at_ < vs.length := by omega
        have numbered : (vs[j - at_], j) ∈ vs.zipIdx at_ :=
          List.mk_mem_zipIdx_iff_le_and_getElem?_sub.mpr ⟨low, List.getElem?_eq_getElem inside⟩
        refine ⟨_, Or.inr (Or.inl rfl), .part vs[j - at_].property j, List.mem_append_left _ ?_, rfl⟩
        exact List.mem_append_left _ (List.mem_append_right _ (List.mem_map.mpr
          ⟨(vs[j - at_], j), numbered, rfl⟩))
      · rcases objectsBelow_attached kept (fun p member kept at_ j low high other =>
          ih p member kept at_ j low high other) (at_ + vs.length + 1) j (by omega) (by omega) with ⟨e, entry, refers⟩ | ⟨thing, member, e, entry, refers⟩
        · exact ⟨_, Or.inr (Or.inl rfl), e, List.mem_append_right _ entry, refers⟩
        · exact ⟨thing, Or.inr (Or.inr member), e, entry, refers⟩

end

end DocScript
