import DocScript.Proofs.Element.Variables
import DocScript.Proofs.Store.Objects

/-!
# The tree that a script should build

The reference tree of an element is made from the element alone: how it is created, its namespace
declarations, its simple values, the objects of its complex properties and of its bag, its enum
constants and its children, without what is skipped or does not fit. A plan has the same tree.
-/

namespace DocScript

def Setting.entry {α : Type} : Setting → Option (Entry α)
  | member name value _ => some (.member name value)
  | comment _ => none

def Owned.tree (o : Owned) : Tree := .node o.made (o.fields.map fun (f, text) => .member f (.text text))

def Attachment.tree (v : Attachment) : Tree :=
  .node v.creation.made (v.fields.map fun (f, text) => .member f (.text text))

def headLog {α : Type} (declarations : List (String × String)) (simple : List Setting)
    (parts : List (Entry α)) (enums : List Setting) : List (Entry α) :=
  declarations.map (fun (short, uri) => .space short uri) ++ simple.filterMap (·.entry) ++ parts
    ++ enums.filterMap (·.entry)

namespace Compile

mutual

/-- The tree that an element stands for, unless it is skipped. -/
def reference (ctx : Context) (typeName : TypeId → String) : Element → Option Tree
  | e@⟨type, children, _, _, _, _, _, _⟩ =>
    match ctx.registry.element? type with
    | none => none
    | some r =>
      if skips ctx.settings (some r) e then none
      else if r.spec.category = .opaqueNode then some (.node (madeExpr ctx typeName e r.spec) [])
      else
        let parts := (ownedObjects ctx typeName e r).map fun o => Entry.part o.property o.tree
        some (.node (madeExpr ctx typeName e r.spec)
          (headLog e.declarations.entries (r.simple.filterMap (simpleSetting typeName e)) parts
              (r.enums.filterMap (enumSetting typeName e))
            ++ (references ctx typeName children).map .child))

def references (ctx : Context) (typeName : TypeId → String) : List Element → List Tree
  | [] => []
  | e :: rest => (reference ctx typeName e).toList ++ references ctx typeName rest

end

end Compile

namespace Plan

mutual

/-- The tree of a plan, without the children that are not kept. -/
def tree (keep : Variable → Bool) : Plan → Tree
  | bare c => .node c.made []
  | full vs c ds simple enums ps =>
    .node c.made (headLog ds simple (vs.map fun v => .part v.property v.tree) enums ++ treesBelow keep ps)

def treesBelow (keep : Variable → Bool) : List Plan → List (Entry Tree)
  | [] => []
  | p :: rest => (if keep p.holder then [.child (tree keep p)] else []) ++ treesBelow keep rest

end

mutual

def Kept (keep : Variable → Bool) : Plan → Prop
  | bare _ => True
  | full _ _ _ _ _ ps => KeptBelow keep ps

/-- All of some plans are kept, with all their children. -/
def KeptBelow (keep : Variable → Bool) : List Plan → Prop
  | [] => True
  | p :: rest => keep p.holder = true ∧ Kept keep p ∧ KeptBelow keep rest

end

abbrev wholeTree : Plan → Tree := tree fun _ => true

variable {keep : Variable → Bool}

theorem length_treesBelow_le (keep : Variable → Bool) (ps : List Plan) : (treesBelow keep ps).length ≤ ps.length := by
  induction ps with
  | nil => exact Nat.le_refl _
  | cons p rest ih =>
    rw [treesBelow, List.length_append, List.length_cons]
    split <;> simp only [List.length_cons, List.length_nil] <;> omega

theorem length_treesBelow_all (ps : List Plan) :
    (treesBelow (fun _ => true) ps).length = ps.length := by
  induction ps with
  | nil => rfl
  | cons p rest ih =>
    rw [treesBelow, List.length_append, List.length_cons, ih]
    simp only [if_true, List.length_cons, List.length_nil]
    omega

/-- The tree of a plan is whole exactly if all children are kept. -/
theorem tree_eq_wholeTree (p : Plan) : p.tree keep = p.wholeTree ↔ p.Kept keep := by
  induction p using Plan.induction with
  | step p ih =>
    cases p with
    | bare c => simp [wholeTree, tree, Kept]
    | full vs c ds simple enums ps =>
      have below : treesBelow keep ps = treesBelow (fun _ => true) ps ↔ KeptBelow keep ps := by
        simp only [children] at ih
        induction ps with
        | nil => simp [treesBelow, KeptBelow]
        | cons p rest ih' =>
          have others := ih' fun c member => ih c (List.mem_cons_of_mem _ member)
          have first := ih p List.mem_cons_self
          rw [treesBelow, treesBelow, KeptBelow]
          cases kept : keep p.holder with
          | false =>
            -- One child is missing, so the entries are too few.
            have fewer := length_treesBelow_le keep rest
            have all := length_treesBelow_all rest
            constructor
            · intro same
              have lengths := congrArg List.length same
              simp only [Bool.false_eq_true, if_false, if_true, List.length_append,
                List.length_nil, List.length_cons] at lengths
              omega
            · rintro ⟨contra, _⟩
              cases contra
          | true =>
            simp only [if_true, List.singleton_append, List.cons.injEq, Entry.child.injEq, true_and]
            exact and_congr first others
      simp only [wholeTree, tree, Kept, Tree.node.injEq, true_and, List.append_cancel_left_eq]
      exact below

end Plan

namespace Compile

variable {ctx : Context} {typeName : TypeId → String}

theorem parts_takeAll (unique : Bool) (os : List Owned) (stocks : Stocks) :
    (takeAll unique os stocks).1.map (fun v => Entry.part v.property v.tree) =
      os.map fun o => Entry.part o.property o.tree := by
  induction os generalizing stocks with
  | nil => rfl
  | cons o rest ih =>
    rw [takeAll_cons, List.map_cons, List.map_cons, ih]
    rfl

/-- The plan of an element has the tree that the element stands for. -/
theorem reference_eq (ctx : Context) (typeName : TypeId → String) (e : Element) (stocks : Stocks) :
    reference ctx typeName e = (plan ctx typeName e stocks).1.map Plan.wholeTree := by
  induction e using Element.induction generalizing stocks with
  | step e ih =>
    have below (stocks : Stocks) : (references ctx typeName e.children).map Entry.child =
        Plan.treesBelow (fun _ => true) (plans ctx typeName e.children stocks).1 := by
      revert ih
      induction e.children generalizing stocks with
      | nil =>
        intro ih
        simp only [references, plans, Plan.treesBelow, List.map_nil]
      | cons c rest ih' =>
        intro ih
        have others := ih' (plan ctx typeName c stocks).2
          fun d member => ih d (List.mem_cons_of_mem _ member)
        rw [references, plans_cons, List.map_append, others, ih c List.mem_cons_self stocks]
        cases (plan ctx typeName c stocks).1 with
        | none => rfl
        | some p => simp [Plan.treesBelow]
    have unfolded : reference ctx typeName e =
        match ctx.registry.element? e.type with
        | none => none
        | some r =>
          if skips ctx.settings (some r) e then none
          else if r.spec.category = .opaqueNode then some (.node (madeExpr ctx typeName e r.spec) [])
          else
            let parts := (ownedObjects ctx typeName e r).map fun o => Entry.part o.property o.tree
            some (.node (madeExpr ctx typeName e r.spec)
              (headLog e.declarations.entries (r.simple.filterMap (simpleSetting typeName e)) parts
                  (r.enums.filterMap (enumSetting typeName e))
                ++ (references ctx typeName e.children).map .child)) := by
      obtain ⟨type, children, properties, declarations, text, payload, rawKind, markup⟩ := e
      rw [reference]
    rw [unfolded]
    rcases plan_cases ctx typeName e stocks with ⟨skipped, none⟩ | ⟨r, known, kept, ways⟩
    · rw [none]
      unfold absent at skipped
      cases known : ctx.registry.element? e.type with
      | none => rfl
      | some r =>
        rw [known] at skipped
        have skips : skips ctx.settings (some r) e = true := by simpa using skipped
        simp only [skips, if_true, Option.map_none]
    · simp only [known, kept, Bool.false_eq_true, if_false]
      rcases ways with ⟨only, planned⟩ | ⟨more, planned⟩
      · rw [planned, if_pos only]
        rfl
      · rw [planned, if_neg more]
        simp only [Option.map_some, Plan.wholeTree, Plan.tree]
        rw [← below]
        simp only [takeHead, parts_takeAll]

end Compile

end DocScript
