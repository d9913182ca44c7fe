import Mathlib.Data.List.Perm.Subperm
import Mathlib.Order.Lattice
import DocScript.Proofs.Element.Fault
import DocScript.Proofs.Element.Run

/-!
# How many names a run makes

Where names are used again, the number of names of a type is the largest number of variables of the
type that are live together: those of the ancestors of an element, those of its values and its own.
A stock grows only when none of its variables is free, so it records just this.
-/

namespace DocScript

namespace Stock

variable {s : Stock} {n : Nat}

/-- How many variables are in use. -/
def live (s : Stock) : Nat := s.made - s.free.length

theorem Sound.free_le (sound : s.Sound false) : s.free.length ≤ s.made := by
  have sub : s.free ⊆ List.range s.made := fun n member => List.mem_range.mpr (sound.made n member)
  have fewer := (sound.nodup.subperm sub).length_le
  rwa [List.length_range] at fewer

/-- Taking a variable makes a new one only where all are in use. -/
theorem live_take (sound : s.Sound false) :
    (s.take false).2.live = s.live + 1 ∧ (s.take false).2.made = max s.made (s.live + 1) := by
  have fewer := sound.free_le
  obtain ⟨made, free⟩ := s
  cases free with
  | nil => simp [take, live]
  | cons n rest =>
    simp only [List.length_cons] at fewer
    simp only [take, live, List.length_cons]
    omega

theorem live_give (sound : s.Sound false) (used : s.InUse n) :
    (s.give false n).live + 1 = s.live ∧ (s.give false n).made = s.made := by
  have fewer := (sound.give used).free_le
  simp only [give, Bool.false_eq_true, if_false, List.length_cons] at fewer
  refine ⟨?_, made_give false n s⟩
  simp only [give, live, Bool.false_eq_true, if_false, List.length_cons]
  omega

/-- Where nothing is in use, every variable is free. -/
theorem mem_free (sound : s.Sound false) (none : s.live = 0) (made : n < s.made) : n ∈ s.free := by
  have sub : s.free ⊆ List.range s.made := fun n member => List.mem_range.mpr (sound.made n member)
  have all : (List.range s.made).length ≤ s.free.length := by
    rw [List.length_range]
    exact Nat.sub_eq_zero_iff_le.mp none
  have perm := (sound.nodup.subperm sub).perm_of_length_le all
  exact perm.mem_iff.mpr (List.mem_range.mpr made)

end Stock

namespace Stocks

variable {stocks : Stocks} {above ts us : List TypeId} {t : TypeId} {v : Variable}

/-- The variables in use are of the given types, each counted as often as it is in use. -/
def Holds (stocks : Stocks) (ts : List TypeId) : Prop := ∀ t, (stocks t).live = ts.count t

theorem holds_empty : empty.Holds [] := fun _ => rfl

theorem Holds.perm (holds : stocks.Holds ts) (perm : ts.Perm us) : stocks.Holds us :=
  fun t => (holds t).trans (perm.count_eq t)

/-- What is in use was made. -/
theorem Holds.count_le (holds : stocks.Holds ts) (u : TypeId) : ts.count u ≤ (stocks u).made := by
  rw [← holds]
  exact Nat.sub_le _ _

theorem Holds.take (holds : stocks.Holds above) (sound : stocks.Sound false) :
    (stocks.take false t).2.Holds (t :: above) ∧
      ∀ u, ((stocks.take false t).2 u).made = max (stocks u).made ((t :: above).count u) := by
  obtain ⟨live, made⟩ := Stock.live_take (sound t)
  refine ⟨fun u => ?_, fun u => ?_⟩
  · change (stocks.set t _ u).live = _
    by_cases same : u = t
    · subst same
      rw [set_self, List.count_cons_self, ← holds u]
      exact live
    · rw [set_of_ne _ _ same, holds, List.count_cons_of_ne (Ne.symm same)]
  · change (stocks.set t _ u).made = _
    by_cases same : u = t
    · subst same
      rw [set_self, List.count_cons_self, ← holds u]
      exact made
    · rw [set_of_ne _ _ same, List.count_cons_of_ne (Ne.symm same), Nat.max_eq_left (holds.count_le u)]

theorem Holds.give (holds : stocks.Holds (v.type :: above)) (sound : stocks.Sound false)
    (used : stocks.InUse v) :
    (stocks.give false v).Holds above ∧ ∀ u, ((stocks.give false v) u).made = (stocks u).made := by
  obtain ⟨live, made⟩ := Stock.live_give (sound v.type) used
  refine ⟨fun u => ?_, fun u => ?_⟩
  · have before := holds u
    change (stocks.set v.type _ u).live = _
    by_cases same : u = v.type
    · subst same
      rw [List.count_cons_self, ← live] at before
      rw [set_self]
      exact Nat.succ.inj before
    · rw [set_of_ne _ _ same, before, List.count_cons_of_ne (Ne.symm same)]
  · change (stocks.set v.type _ u).made = _
    by_cases same : u = v.type
    · subst same
      rw [set_self, made]
    · rw [set_of_ne _ _ same]

end Stocks

/-- How many names the pool of a type keeps; none if there is no pool. -/
def Pools.made (ps : Pools) (t : TypeId) : Nat := ((ps.get? t).map (·.entries.size)).getD 0

namespace Element

/-- The elements of a tree have at every depth only children that those of another tree have there,
but any of them, in any order and any number of times. -/
inductive DrawnFrom : Element → Element → Prop where
  | node {e : Element} {cs : List Element} (like : Element → Element)
      (among : ∀ c ∈ cs, like c ∈ e.children) (drawn : ∀ c ∈ cs, DrawnFrom c (like c)) :
      DrawnFrom { e with children := cs } e

theorem DrawnFrom.refl (e : Element) : e.DrawnFrom e := by
  induction e using Element.induction with
  | step e ih =>
    obtain ⟨type, children, properties, declarations, text, payload, rawKind, markup⟩ := e
    exact .node id (fun _ member => member) ih

theorem DrawnFrom.of_subset {e : Element} {cs : List Element} (sub : cs ⊆ e.children) :
    { e with children := cs }.DrawnFrom e :=
  .node id (fun _ member => sub member) fun c _ => .refl c

end Element

namespace Compile

variable {ctx : Context} {typeName : TypeId → String} {stocks : Stocks} {above : List TypeId}
  {e : Element} {t : TypeId}

/-! ### The elements that a run compiles -/

/-- The types of the objects that an element owns: of its complex properties that have a value, and
of the bag if it has one. -/
def valueTypes (ctx : Context) (e : Element) (r : ResolvedElement) : List TypeId :=
  (r.complex.filter fun p => (e.value? p.1).isSome).map (·.2)
    ++ if e.markup.isSome then [ctx.registry.bag.type] else []

/-- An element that a run compiles, with all types for which it needs variables. -/
structure Compiled where
  /-- The types of its proper ancestors, the nearest one first. -/
  above : List TypeId
  type : TypeId
  /-- The types of the objects that it owns; an opaque element owns none. -/
  values : List TypeId

mutual

/-- The elements of a tree that a run compiles, in pre-order. An element that is skipped is not
compiled, nor is anything below an opaque one. -/
def compiled (ctx : Context) (above : List TypeId) : Element → List Compiled
  | e@⟨type, children, _, _, _, _, _, _⟩ =>
    match ctx.registry.element? type with
    | none => []
    | some r =>
      if skips ctx.settings (some r) e then []
      else if r.spec.category = .opaqueNode then [⟨above, type, []⟩]
      else ⟨above, type, valueTypes ctx e r⟩ :: compiledAll ctx (type :: above) children

def compiledAll (ctx : Context) (above : List TypeId) : List Element → List Compiled
  | [] => []
  | e :: rest => compiled ctx above e ++ compiledAll ctx above rest

end

/-- How many variables of a type are live while an element is compiled, its children apart. -/
def demand (t : TypeId) (c : Compiled) : Nat :=
  c.above.count t + c.values.count t + if c.type = t then 1 else 0

/-- The largest demand of some elements; zero if there are none. -/
def highest (t : TypeId) (cs : List Compiled) : Nat := (cs.map (demand t)).foldr max 0

/-- The largest number of variables of a type that are live together while a tree is compiled. -/
def peak (ctx : Context) (t : TypeId) (e : Element) : Nat := highest t (compiled ctx [] e)

theorem compiled_eq (ctx : Context) (above : List TypeId) (e : Element) :
    compiled ctx above e =
      match ctx.registry.element? e.type with
      | none => []
      | some r =>
        if skips ctx.settings (some r) e then []
        else if r.spec.category = .opaqueNode then [⟨above, e.type, []⟩]
        else ⟨above, e.type, valueTypes ctx e r⟩ :: compiledAll ctx (e.type :: above) e.children := by
  obtain ⟨type, children, properties, declarations, text, payload, rawKind, markup⟩ := e
  rw [compiled]

theorem compiledAll_eq (ctx : Context) (above : List TypeId) (es : List Element) :
    compiledAll ctx above es = es.flatMap (compiled ctx above) := by
  induction es with
  | nil => rw [compiledAll, List.flatMap_nil]
  | cons e rest ih => rw [compiledAll, ih, List.flatMap_cons]

theorem highest_cons (c : Compiled) (cs : List Compiled) :
    highest t (c :: cs) = max (demand t c) (highest t cs) := rfl

theorem highest_append (cs ds : List Compiled) :
    highest t (cs ++ ds) = max (highest t cs) (highest t ds) := by
  induction cs with
  | nil => simp [highest]
  | cons c rest ih => rw [List.cons_append, highest_cons, highest_cons, ih, max_assoc]

theorem highest_le_iff {cs : List Compiled} {n : Nat} :
    highest t cs ≤ n ↔ ∀ c ∈ cs, demand t c ≤ n := by
  induction cs with
  | nil => simp [highest]
  | cons c rest ih => rw [highest_cons, max_le_iff, ih, List.forall_mem_cons]

theorem highest_mono {cs ds : List Compiled} (sub : cs ⊆ ds) : highest t cs ≤ highest t ds :=
  highest_le_iff.mpr fun c member => highest_le_iff.mp le_rfl c (sub member)

theorem types_ownedObjects (e : Element) (r : ResolvedElement) :
    (ownedObjects ctx typeName e r).map (·.type) = valueTypes ctx e r := by
  have values : (r.complex.filterMap (complexObject typeName e)).map (·.type) =
      (r.complex.filter fun p => (e.value? p.1).isSome).map (·.2) := by
    induction r.complex with
    | nil => rfl
    | cons p rest ih =>
      cases value : e.value? p.1 with
      | none => simpa [complexObject, value] using ih
      | some raw => simpa [complexObject, value] using ih
  rw [ownedObjects, List.map_append, values, valueTypes]
  unfold bagObject
  cases e.markup <;> rfl

/-! ### The stocks after a plan -/

theorem holds_takeAll (holds : stocks.Holds above) (sound : stocks.Sound false) (os : List Owned) :
    (takeAll false os stocks).2.Holds (os.map (·.type) ++ above) ∧
      ∀ u, ((takeAll false os stocks).2 u).made =
        max (stocks u).made ((os.map (·.type) ++ above).count u) := by
  induction os generalizing stocks above with
  | nil => exact ⟨holds, fun u => (Nat.max_eq_left (holds.count_le u)).symm⟩
  | cons o rest ih =>
    obtain ⟨held, made⟩ := holds.take sound (t := o.type)
    obtain ⟨all, most⟩ := ih held sound.take
    have order : (rest.map (·.type) ++ o.type :: above).Perm ((o :: rest).map (·.type) ++ above) :=
      List.perm_middle
    rw [takeAll_cons]
    refine ⟨all.perm order, fun u => ?_⟩
    have count := order.count_eq u
    have more : (o.type :: above).count u ≤ (rest.map (·.type) ++ o.type :: above).count u := by
      rw [List.count_append]
      exact Nat.le_add_left _ _
    rw [most, made, max_assoc, Nat.max_eq_right more, count]

theorem types_takeAll (unique : Bool) (os : List Owned) (stocks : Stocks) :
    (takeAll unique os stocks).1.map (·.holder.type) = os.map (·.type) := by
  induction os generalizing stocks with
  | nil => rfl
  | cons o rest ih => rw [takeAll_cons, List.map_cons, List.map_cons, ih]; rfl

theorem holds_giveAll {vs : List Attachment} (used : AllInUse stocks vs) (sound : stocks.Sound false)
    (holds : stocks.Holds (vs.map (·.holder.type) ++ above)) :
    (giveAll false vs stocks).Holds above ∧
      ∀ u, ((giveAll false vs stocks) u).made = (stocks u).made := by
  induction vs generalizing stocks with
  | nil => exact ⟨holds, fun _ => rfl⟩
  | cons v rest ih =>
    have first := used.2 v List.mem_cons_self
    obtain ⟨held, made⟩ := Stocks.Holds.give holds sound first
    obtain ⟨all, kept⟩ := ih used.tail (sound.give first) held
    exact ⟨all, fun u => (kept u).trans (made u)⟩

/-- While the head of an element is compiled its values and itself are live, and then only itself. -/
theorem holds_takeHead (holds : stocks.Holds above) (sound : stocks.Sound false) (type : TypeId)
    (made : Expr) (os : List Owned) :
    (takeHead false type made os stocks).2.Holds (type :: above) ∧
      ∀ u, ((takeHead false type made os stocks).2 u).made =
        max (stocks u).made ((type :: os.map (·.type) ++ above).count u) := by
  have heldSound := sound_takeAll sound os
  have inUse := allInUse_takeAll sound os
  obtain ⟨held, values⟩ := holds_takeAll holds sound os
  obtain ⟨all, most⟩ := held.take heldSound (t := type)
  have used : AllInUse ((takeAll false os stocks).2.take false type).2 (takeAll false os stocks).1 :=
    ⟨inUse.1, fun v member => (inUse.2 v member).take⟩
  have order : (type :: (os.map (·.type) ++ above)).Perm
      ((takeAll false os stocks).1.map (·.holder.type) ++ type :: above) := by
    rw [types_takeAll]
    exact List.perm_middle.symm
  obtain ⟨left, kept⟩ := holds_giveAll used heldSound.take (all.perm order)
  refine ⟨left, fun u => ?_⟩
  have more : (os.map (·.type) ++ above).count u ≤ (type :: (os.map (·.type) ++ above)).count u :=
    List.count_le_count_cons
  rw [List.cons_append]
  calc ((takeHead false type made os stocks).2 u).made
      = (((takeAll false os stocks).2.take false type).2 u).made := kept u
    _ = max (max (stocks u).made ((os.map (·.type) ++ above).count u))
          ((type :: (os.map (·.type) ++ above)).count u) := by rw [most, values]
    _ = max (stocks u).made ((type :: (os.map (·.type) ++ above)).count u) := by
        rw [max_assoc, Nat.max_eq_right more]

/-- A piece of work gives back all that it took, and the stocks grow to what it needed at most. -/
def Grows (stocks after : Stocks) (above : List TypeId) (cs : List Compiled) : Prop :=
  after.Holds above ∧ ∀ u, (after u).made = max (stocks u).made (highest u cs)

theorem grows_plans_of (reuse : ctx.settings.uniqueNames = false) {es : List Element}
    (each : ∀ c ∈ es, ∀ above stocks, stocks.Holds above → stocks.Sound false →
      Grows stocks (plan ctx typeName c stocks).2 above (compiled ctx above c))
    (holds : stocks.Holds above) (sound : stocks.Sound false) :
    Grows stocks (plans ctx typeName es stocks).2 above (compiledAll ctx above es) := by
  induction es generalizing stocks with
  | nil =>
    rw [plans, compiledAll]
    exact ⟨holds, fun u => (Nat.max_zero _).symm⟩
  | cons c rest ih =>
    obtain ⟨held, made⟩ := each c List.mem_cons_self above stocks holds sound
    have balanced := (balanced_plan ctx typeName c stocks (by rwa [reuse])).1
    rw [reuse] at balanced
    obtain ⟨all, most⟩ := ih (fun d member => each d (List.mem_cons_of_mem c member)) held balanced
    rw [plans_cons, compiledAll]
    exact ⟨all, fun u => by rw [most, made, highest_append, max_assoc]⟩

theorem grows_plan (reuse : ctx.settings.uniqueNames = false) (typeName : TypeId → String)
    (e : Element) : ∀ above stocks, stocks.Holds above → stocks.Sound false →
      Grows stocks (plan ctx typeName e stocks).2 above (compiled ctx above e) := by
  induction e using Element.induction with
  | step e ih =>
    intro above stocks holds sound
    rcases plan_cases ctx typeName e stocks with
      ⟨skipped, planned⟩ | ⟨r, known, kept, ⟨only, planned⟩ | ⟨more, planned⟩⟩
    · have none : compiled ctx above e = [] := by
        rw [compiled_eq]
        cases known : ctx.registry.element? e.type with
        | none => rfl
        | some r =>
          rw [absent, known] at skipped
          simp only [Option.all_some] at skipped
          simp [skipped]
      rw [planned, none]
      exact ⟨holds, fun u => (Nat.max_zero _).symm⟩
    · have single : compiled ctx above e = [⟨above, e.type, []⟩] := by
        rw [compiled_eq, known]
        simp [kept, only]
      obtain ⟨held, made⟩ := holds.take sound (t := e.type)
      have self := (sound.inUse_take (t := e.type)).1
      obtain ⟨left, same⟩ := Stocks.Holds.give (v := (stocks.take false e.type).1.1) held sound.take self
      rw [planned, reuse, single]
      refine ⟨left, fun u => ?_⟩
      have need : highest u [⟨above, e.type, []⟩] = (e.type :: above).count u := by
        simp [highest, demand, List.count_cons]
      rw [need]
      exact (same u).trans (made u)
    · have whole : compiled ctx above e =
          ⟨above, e.type, valueTypes ctx e r⟩ :: compiledAll ctx (e.type :: above) e.children := by
        rw [compiled_eq, known]
        simp [kept, more]
      let made := madeExpr ctx typeName e r.spec
      let os := ownedObjects ctx typeName e r
      obtain ⟨held, head⟩ := holds_takeHead holds sound e.type made os
      have headSound := sound_takeHead false e.type made os sound
      obtain ⟨below, most⟩ := grows_plans_of reuse ih held headSound
      -- The variable of the element stays in use until its children have been compiled.
      have self := holder_takeHead_inUse false e.type made os sound
      have balanced := balanced_plans ctx typeName e.children
        (takeHead false e.type made os stocks).2 (by rwa [reuse])
      rw [reuse] at balanced
      obtain ⟨left, same⟩ := Stocks.Holds.give (v := (takeHead false e.type made os stocks).1.2.holder)
        below balanced.1 (balanced.2 _ self.1)
      rw [planned, reuse, whole]
      refine ⟨left, fun u => ?_⟩
      have need : demand u ⟨above, e.type, valueTypes ctx e r⟩ =
          (e.type :: os.map (·.type) ++ above).count u := by
        simp only [demand, os, types_ownedObjects, List.cons_append, List.count_cons,
          List.count_append, beq_iff_eq]
        omega
      rw [highest_cons, need, ← max_assoc, ← head u, ← most u]
      exact same u

/-! ### Trees with other siblings -/

/-- What is compiled for a tree that is drawn from another one is compiled for that as well. -/
theorem compiled_drawn {e' : Element} (drawn : e'.DrawnFrom e) :
    ∀ above, compiled ctx above e' ⊆ compiled ctx above e := by
  induction drawn with
  | @node e cs like among _ ih =>
    intro above
    have below : compiledAll ctx (e.type :: above) cs ⊆
        compiledAll ctx (e.type :: above) e.children := by
      rw [compiledAll_eq, compiledAll_eq]
      intro c member
      obtain ⟨child, inside, member⟩ := List.mem_flatMap.mp member
      exact List.mem_flatMap.mpr ⟨like child, among child inside, ih child inside _ member⟩
    have passed (r : ResolvedElement) :
        skips ctx.settings (some r) { e with children := cs } = skips ctx.settings (some r) e := rfl
    have values (r : ResolvedElement) :
        valueTypes ctx { e with children := cs } r = valueTypes ctx e r := rfl
    rw [compiled_eq, compiled_eq]
    dsimp only
    split
    · exact List.Subset.refl _
    · rw [passed, values]
      split
      · exact List.Subset.refl _
      · split
        · exact List.Subset.refl _
        · exact List.cons_subset_cons _ below

/-- Which children there are may count, but never how often. -/
theorem peak_drawn_le {e' : Element} (drawn : e'.DrawnFrom e) : peak ctx t e' ≤ peak ctx t e :=
  highest_mono (compiled_drawn drawn [])

/-! ### The pools after a run -/

/-- After a run that uses names again every name is free, and of each type as many were made as were
needed together. In particular the number does not grow with the number of siblings, at any
depth. -/
theorem root_names_eq_peak (plain : ctx.handlers = .none) (reuse : ctx.settings.uniqueNames = false)
    {shared : Shared} {out : ElementOutput} {w : Workspace}
    (ran : root ctx (some e) ⟨shared, .empty⟩ = (.ok out, w)) :
    (∀ t p, w.pools.get? t = some p → ∀ name ∈ p.entries.keys, p.isFree name = true) ∧
    (∀ t, w.pools.made t = peak ctx t e) ∧
    (∀ t, ∀ cs ⊆ e.children, peak ctx t { e with children := cs } ≤ peak ctx t e) ∧
    ∀ t e', e'.DrawnFrom e → peak ctx t e' ≤ peak ctx t e := by
  have start : Workspace.Tracks ctx ⟨shared, .empty⟩ .empty := Pools.Tracks.empty _ _
  obtain ⟨tracks, _⟩ := element_follows plain w.shared.namespaces e [] ⟨shared, .empty⟩ out w .empty
    start ran (Namespaces.le_refl _)
  obtain ⟨holds, made⟩ := grows_plan reuse (w.shared.namespaces.typeName ctx.settings.policy) e []
    .empty Stocks.holds_empty (Stocks.sound_empty false)
  unfold Workspace.Tracks at tracks
  rw [reuse] at tracks
  refine ⟨fun t p found name member => ?_, fun t => ?_,
    fun t cs sub => peak_drawn_le (.of_subset sub), fun t e' drawn => peak_drawn_le drawn⟩
  · obtain ⟨type, _, pool⟩ := tracks.found t p found
    obtain ⟨keys, _, flags⟩ := pool.kept rfl
    rw [keys] at member
    obtain ⟨n, among, rfl⟩ := List.mem_map.mp member
    have fewer := List.mem_range.mp among
    have free := Stock.mem_free pool.sound (holds t) fewer
    rw [Pool.isFree, flags n fewer]
    exact decide_eq_true free
  · have total := made t
    rw [show (Stocks.empty t).made = 0 from rfl, Nat.zero_max] at total
    rw [peak, ← total, Pools.made]
    cases found : w.pools.get? t with
    | none =>
      rw [tracks.missing t found]
      rfl
    | some p => exact (tracks.found t p found).2.2.size_entries

/-- A type whose values may be of the type itself. -/
def familyType : TypeId := .plain "N" "A"

def families : Registry :=
  ⟨.ofList [(familyType, ⟨⟨familyType, .regular, none, [], ""⟩, [], [("p", familyType), ("q", familyType)], []⟩)],
    .empty, .empty, .empty, [familyType], Schema.standardRawKind, .standard⟩

def familyContext : Context := ⟨.standard, families, .none⟩

def member (properties : List String) (children : List Element) : Element :=
  { Element.ofType familyType with
    properties := .ofList (properties.map (·, .bool true)), children }

/-- Three elements below another one, two of them with two values each. -/
def family : Element := member ["p"] [member [] [], member ["p", "q"] [], member ["p", "q"] []]

/-- An element, its parent and its two values are live together, and no more names are made, however
often the element stands there. -/
theorem family_names :
    familyContext.settings.uniqueNames = false ∧
    ∃ out w, root familyContext (some family) ⟨.start false, .empty⟩ = (.ok out, w) ∧
      (∀ t p, w.pools.get? t = some p → ∀ name ∈ p.entries.keys, p.isFree name = true) ∧
      w.pools.made familyType = 4 ∧
      ∀ n, peak familyContext familyType
        (member ["p"] (List.replicate n (member ["p", "q"] []))) ≤ 4 := by
  refine ⟨rfl, ?_⟩
  have plain : familyContext.handlers = .none := rfl
  have clean : fault familyContext [] family = none := rfl
  obtain ⟨out, w, ran⟩ : ∃ out w, root familyContext (some family) ⟨.start false, .empty⟩ = (.ok out, w) :=
    (element_ok_iff rfl).mpr ⟨rfl, clean⟩
  obtain ⟨free, made, _, drawn⟩ := root_names_eq_peak plain rfl ran
  have most : peak familyContext familyType family = 4 := by decide +kernel
  refine ⟨out, w, ran, free, (made familyType).trans most, fun n => ?_⟩
  have repeated : List.replicate n (member ["p", "q"] []) ⊆ family.children := by
    intro c among
    rw [List.eq_of_mem_replicate among]
    exact List.mem_of_mem_tail List.mem_cons_self
  exact (drawn familyType _ (.of_subset repeated)).trans_eq most

end Compile

end DocScript
