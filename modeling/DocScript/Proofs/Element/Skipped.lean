import DocScript.Proofs.Element.Fault

/-!
# Trees without what is skipped

A skipped element leaves nothing behind: no instructions and no name, no registered namespace and no
variable. So a tree is built as it is without the elements that are skipped, at whatever depth.
-/

namespace DocScript

namespace Element

mutual

/-- The tree without the dropped elements below its root and all that is below these. -/
def without (drop : Element → Bool) : Element → Element
  | ⟨type, children, properties, declarations, text, payload, rawKind, markup⟩ =>
    ⟨type, withoutAll drop children, properties, declarations, text, payload, rawKind, markup⟩

def withoutAll (drop : Element → Bool) : List Element → List Element
  | [] => []
  | e :: rest =>
    if drop e then withoutAll drop rest else without drop e :: withoutAll drop rest

end

/-- An element of the tree other than its root. -/
inductive Inside : Element → Element → Prop
  | child {e c : Element} (member : c ∈ e.children) : Inside e c
  | deeper {e c d : Element} (member : c ∈ e.children) (inside : Inside c d) : Inside e d

variable {drop : Element → Bool}

theorem withoutAll_eq (es : List Element) :
    withoutAll drop es = (es.filter (!drop ·)).map (without drop) := by
  induction es with
  | nil => rw [withoutAll, List.filter_nil, List.map_nil]
  | cons e rest ih =>
    rw [withoutAll, ih]
    cases dropped : drop e with
    | true => simp [dropped]
    | false => simp [dropped]

theorem without_eq (e : Element) :
    e.without drop = { e with children := (e.children.filter (!drop ·)).map (without drop) } := by
  obtain ⟨type, children, properties, declarations, text, payload, rawKind, markup⟩ := e
  rw [without, withoutAll_eq]

theorem kept_of_inside (same : ∀ e : Element, drop (e.without drop) = drop e) (e : Element) :
    ∀ d, Inside (e.without drop) d → drop d = false := by
  induction e using Element.induction with
  | step e ih =>
    intro d inside
    rw [without_eq] at inside
    cases inside with
    | child member =>
      obtain ⟨c, kept, rfl⟩ := List.mem_map.mp member
      rw [same]
      simpa using (List.mem_filter.mp kept).2
    | deeper member inside =>
      obtain ⟨c, kept, rfl⟩ := List.mem_map.mp member
      exact ih c (List.mem_filter.mp kept).1 d inside

end Element

namespace Compile

open Build

variable {ctx : Context} {e : Element} {path : List String}

/-- The settings pass over opaque elements, and over raw payload of some kinds. -/
def Skipped (ctx : Context) (e : Element) : Prop :=
  ∃ r, ctx.registry.element? e.type = some r ∧
    (r.spec.category = .opaqueNode ∧ ctx.settings.skipOpaque = true ∨
      r.spec.category = .rawPayload ∧
        ∃ kind ∈ ctx.settings.skippedRawKinds, e.rawKind = some kind)

theorem skips_iff : skips ctx.settings (ctx.registry.element? e.type) e = true ↔ Skipped ctx e := by
  unfold Skipped
  cases ctx.registry.element? e.type with
  | none => simp [skips]
  | some r =>
    simp only [Option.some.injEq, exists_eq_left']
    cases category : r.spec.category with
    | regular | leafText | opaqueNode => simp [skips, category]
    | rawPayload => cases kind : e.rawKind <;> simp [skips, category, kind]

instance (ctx : Context) (e : Element) : Decidable (Skipped ctx e) :=
  decidable_of_iff _ skips_iff

theorem skipped_without (drop : Element → Bool) : Skipped ctx (e.without drop) ↔ Skipped ctx e := by
  rw [Element.without_eq]
  exact Iff.rfl

theorem skipped_of_skipsOpaque (unseen : skipsOpaque ctx e = true) : Skipped ctx e := by
  obtain ⟨r, known, passed⟩ := skips_of_skipsOpaque unseen
  rw [← known] at passed
  exact skips_iff.mp passed

theorem element_skipped (skipped : Skipped ctx e) {w : Workspace}
    (running : w.shared.cancelled = false) : element ctx path e w = (.ok ⟨[], ""⟩, w) := by
  have passed := skips_iff.mpr skipped
  obtain ⟨type, children, properties, declarations, text, payload, rawKind, markup⟩ := e
  rw [element, Step.bind_eq, checkCancelled]
  simp only [running, passed, Bool.false_eq_true, if_false, if_true]
  rfl

/-- A child that is skipped, before or after it is entered, adds nothing to the others. -/
theorem elements_skipped {c : Element} {rest : List Element} (skipped : Skipped ctx c)
    (name : String) {w : Workspace} (running : w.shared.cancelled = false) :
    elements ctx path name (c :: rest) w = elements ctx path name rest w := by
  rw [elements]
  split
  · rfl
  · rw [Step.bind_eq, element_skipped skipped running]
    show (elements ctx path name rest >>= fun more => pure more) w = _
    rw [Step.bind_eq]
    cases elements ctx path name rest w with
    | mk result u => cases result <;> rfl

theorem elements_without (plain : ctx.handlers = .none) {es : List Element}
    (same : ∀ c ∈ es, ∀ path, element ctx path (c.without (Skipped ctx)) = element ctx path c)
    (name : String) {w : Workspace} (running : w.shared.cancelled = false) :
    elements ctx path name (Element.withoutAll (Skipped ctx) es) w = elements ctx path name es w := by
  induction es generalizing w with
  | nil => rw [Element.withoutAll]
  | cons c rest ih =>
    have others {u : Workspace} := ih (fun d member => same d (List.mem_cons_of_mem c member)) (w := u)
    rw [Element.withoutAll]
    by_cases skipped : Skipped ctx c
    · rw [if_pos (decide_eq_true skipped), others running, elements_skipped skipped name running]
    · have seen : ¬ skipsOpaque ctx c = true := fun unseen => skipped (skipped_of_skipsOpaque unseen)
      have seen' : ¬ skipsOpaque ctx (c.without (Skipped ctx)) = true := fun unseen =>
        skipped ((skipped_without _).mp (skipped_of_skipsOpaque unseen))
      rw [if_neg (by simpa using skipped), elements, elements, if_neg seen, if_neg seen',
        same c List.mem_cons_self, Step.bind_eq, Step.bind_eq]
      have outcome := ends_element plain c path w running
      generalize element ctx path c w = ran, fault ctx path c = reason at outcome
      cases outcome with
      | failed failure u => rfl
      | done output running =>
        dsimp only
        rw [Step.bind_eq, Step.bind_eq, others running]

theorem checked_elements_without (plain : ctx.handlers = .none) {es : List Element}
    (same : ∀ c ∈ es, ∀ path, element ctx path (c.without (Skipped ctx)) = element ctx path c)
    (name : String) {α : Type} (next : List Instr → Build α) :
    (checkCancelled >>= fun _ =>
        elements ctx path name (Element.withoutAll (Skipped ctx) es) >>= next) =
      checkCancelled >>= fun _ => elements ctx path name es >>= next := by
  -- A run that has been cancelled ends here; otherwise the skipped children change nothing.
  funext w
  rw [Step.bind_eq, Step.bind_eq]
  unfold checkCancelled
  cases running : w.shared.cancelled with
  | true => rfl
  | false =>
    simp only [Bool.false_eq_true, if_false]
    rw [Step.bind_eq, elements_without plain same name running]
    rfl

theorem element_without (plain : ctx.handlers = .none) (e : Element) :
    ∀ path, element ctx path (e.without (Skipped ctx)) = element ctx path e := by
  induction e using Element.induction with
  | step e ih =>
    intro path
    obtain ⟨type, children, properties, declarations, text, payload, rawKind, markup⟩ := e
    rw [Element.without, element, element]
    simp only [checked_elements_without plain ih, handled_plain plain, Step.pure_then]
    rfl

/-- A tree, its root skipped or not, is built as the tree without all that is skipped below its root:
with the same instructions and the same name or the same failure, and it leaves the same namespaces
and the same pools. -/
theorem root_without_skipped (plain : ctx.handlers = .none) (e : Element) (w : Workspace) :
    root ctx (some (e.without (Skipped ctx))) w = root ctx (some e) w ∧
      ∀ d, Element.Inside (e.without (Skipped ctx)) d → ¬ Skipped ctx d := by
  constructor
  · exact congrFun (element_without plain e []) w
  · intro d inside
    have same (e : Element) :
        decide (Skipped ctx (e.without (Skipped ctx))) = decide (Skipped ctx e) :=
      decide_eq_decide.mpr (skipped_without _)
    exact of_decide_eq_false (Element.kept_of_inside same e d inside)

def pages : Registry :=
  let entry (name : String) (category : Category) : TypeId × ResolvedElement :=
    (.plain "N" name, ⟨⟨.plain "N" name, category, none, [], "Create"⟩, [], [], []⟩)
  ⟨.ofList [entry "Page" .regular, entry "Mark" .opaqueNode, entry "Media" .rawPayload],
    .empty, .empty, .empty, ["Page", "Mark", "Media"].map (.plain "N"), Schema.standardRawKind,
    .standard⟩

def pagesContext : Context := ⟨{ Settings.standard with skippedRawKinds := ["audio"] }, pages, .none⟩

def page (children : List Element) : Element :=
  { Element.ofType (.plain "N" "Page") with children }

def mark (children : List Element) : Element :=
  { Element.ofType (.plain "N" "Mark") with children }

def media (rawKind : Option String) (children : List Element) : Element :=
  { Element.ofType (.plain "N" "Media") with rawKind, children }

/-- The pages below a mark and below the media that is skipped go with them. -/
theorem album_without_skipped :
    pagesContext.handlers = .none ∧
    root pagesContext (some (page [page [media (some "image") []]])) ⟨.start false, .empty⟩ =
      root pagesContext (some (page [mark [page []],
        page [media (some "audio") [page []], media (some "image") [mark []]]]))
        ⟨.start false, .empty⟩ := by
  have plain : pagesContext.handlers = .none := rfl
  have same := (root_without_skipped plain (page [mark [page []],
    page [media (some "audio") [page []], media (some "image") [mark []]]])
    ⟨.start false, .empty⟩).1
  refine ⟨plain, ?_⟩
  rw [← same]
  rfl

end Compile

end DocScript
