import DocScript.Document.Load
import DocScript.Proofs.Json.Layout

/-!
# Printed text is read back

The tokens of a value drive the machine to the value, if the limit leaves room for its depth. So a
value whose integers are not too long and whose other numbers are finite is printed as a text from
which the same value is read.
-/

namespace DocScript.Json

namespace State

variable {limit : Nat} {stack : List Open} {more : List Token}

/-- There is room for another value in the innermost list or object. -/
def Fits (limit : Nat) (stack : List Open) : Prop := isFresh stack = true → stack.length ≤ limit

theorem fits_old (old : isFresh stack = false) : Fits limit stack := fun fresh => by
  rw [old] at fresh
  cases fresh

theorem Fits.room (fits : Fits limit stack) :
    (decide (stack.length > limit) && isFresh stack) = false := by
  cases fresh : isFresh stack with
  | false => exact Bool.and_false _
  | true => rw [Bool.and_true, decide_eq_false (Nat.not_lt.mpr (fits fresh))]

theorem step_mark {c : Char} (fits : Fits limit stack) :
    step limit (.mark c) (.pending stack) = mark c stack := by
  unfold step
  dsimp only
  rw [fits.room, Bool.false_and, Bool.false_and]
  exact if_neg Bool.false_ne_true

/-- The limit does not keep a list or object that is empty from being closed. -/
theorem step_closing {c : Char} (closing : c = ']' ∨ c = '\x7d') :
    step limit (.mark c) (.pending stack) = mark c stack := by
  have room : ¬ (decide (stack.length > limit) && isFresh stack && c != ']' && c != '\x7d') = true := by
    rcases closing with rfl | rfl <;> simp
  exact if_neg room

theorem step_value {j : Json} (waiting : waits stack = true) (fits : Fits limit stack) :
    step limit (.value j) (.pending stack) = give j stack := by
  unfold step
  dsimp only
  rw [fits.room, if_neg Bool.false_ne_true]
  split
  · cases waiting
  · cases waiting
  · cases waiting
  · cases waiting
  · rfl

theorem run_cons {s s' : State} {t : Token} (first : step limit t s = some s') (ts : List Token) :
    run limit s (t :: ts) = run limit s' ts := by
  rw [run, first, Option.bind_some]

theorem run_value {j : Json} (waiting : waits stack = true) (fits : Fits limit stack)
    (more : List Token) :
    run limit (.pending stack) (.value j :: more) = (give j stack).bind (run limit · more) := by
  rw [run, step_value waiting fits]

/-- The names of members are read where an object waits for one. -/
theorem step_name (k : String) (ms : List (String × Json)) (rest : List Open) :
    step limit (.value (str k)) (.pending (.nextName ms :: rest)) =
      some (.pending (.name ms k :: rest)) := by
  simp [step, isFresh]

theorem step_firstName (k : String) (rest : List Open) (fits : Fits limit (.members :: rest)) :
    step limit (.value (str k)) (.pending (.members :: rest)) =
      some (.pending (.name [] k :: rest)) := by
  unfold step
  dsimp only
  rw [fits.room]
  rfl

theorem step_open {c : Char} {o : Open} (opens : mark c stack = some (.pending (o :: stack)))
    (fits : Fits limit stack) :
    step limit (.mark c) (.pending stack) = some (.pending (o :: stack)) := by
  rw [step_mark fits, opens]

theorem mark_list (waiting : waits stack = true) :
    mark '[' stack = some (.pending (.items :: stack)) := if_pos waiting

theorem mark_object (waiting : waits stack = true) :
    mark '\x7b' stack = some (.pending (.members :: stack)) := if_pos waiting

/-- A list or object that has just been opened fits in if the value inside it does. -/
theorem fits_opened {o : Open} {n : Nat} (room : stack.length + (n + 1) ≤ limit) :
    Fits limit (o :: stack) := fun _ => by
  rw [List.length_cons]
  omega

mutual

/-- The tokens of a value give the value to what waits for it. -/
theorem run_tokens : ∀ (j : Json) (stack : List Open) (more : List Token), waits stack = true →
    Fits limit stack → stack.length + depth j ≤ limit →
    run limit (.pending stack) (j.tokens ++ more) = (give j stack).bind (run limit · more)
  | arr [], stack, more, waiting, fits, _ => by
    rw [tokens, List.cons_append, run_cons (step_open (mark_list waiting) fits), List.cons_append,
      run, step_closing (Or.inl rfl)]
    rfl
  | arr (x :: xs), stack, more, waiting, fits, room => by
    -- One list more is open around the items, and they are one less deep.
    rw [depth, depthOfItems] at room
    have first := run_tokens x (.items :: stack) (itemTokens xs ++ ([.mark ']'] ++ more)) rfl
      (fits_opened room) (by rw [List.length_cons]; omega)
    have others := run_itemTokens xs [x] stack ([.mark ']'] ++ more) (by omega)
    rw [tokens, List.cons_append, run_cons (step_open (mark_list waiting) fits), List.append_assoc,
      List.append_assoc, first]
    change run limit (.pending (.item [x] :: stack)) (itemTokens xs ++ ([.mark ']'] ++ more)) = _
    rw [others, List.cons_append, List.nil_append, run, step_closing (Or.inl rfl)]
    change (give (arr (xs.reverse ++ [x]).reverse) stack).bind _ = _
    rw [List.reverse_append, List.reverse_reverse]
    rfl
  | obj [], stack, more, waiting, fits, _ => by
    rw [tokens, List.cons_append, run_cons (step_open (mark_object waiting) fits), List.cons_append,
      run, step_closing (Or.inr rfl)]
    rfl
  | obj ((k, x) :: ms), stack, more, waiting, fits, room => by
    rw [depth, depthOfMembers] at room
    have colon : step limit (.mark ':') (.pending (.name [] k :: stack)) =
        some (.pending (.colon [] k :: stack)) := step_mark (fits_old rfl)
    have first := run_tokens x (.colon [] k :: stack) (memberTokens ms ++ ([.mark '\x7d'] ++ more)) rfl
      (fits_old rfl) (by rw [List.length_cons]; omega)
    have others := run_memberTokens ms [(k, x)] stack ([.mark '\x7d'] ++ more) (by omega)
    rw [tokens, List.cons_append, run_cons (step_open (mark_object waiting) fits), List.cons_append,
      run_cons (step_firstName k stack (fits_opened room)), List.cons_append, run_cons colon,
      List.append_assoc, List.append_assoc, first]
    change run limit (.pending (.member [(k, x)] :: stack))
      (memberTokens ms ++ ([.mark '\x7d'] ++ more)) = _
    rw [others, List.cons_append, List.nil_append, run, step_closing (Or.inr rfl)]
    change (give (obj (ms.reverse ++ [(k, x)]).reverse) stack).bind _ = _
    rw [List.reverse_append, List.reverse_reverse]
    rfl
  | null, _, more, waiting, fits, _ => run_value waiting fits more
  | bool b, _, more, waiting, fits, _ => run_value waiting fits more
  | int n, _, more, waiting, fits, _ => run_value waiting fits more
  | float x, _, more, waiting, fits, _ => run_value waiting fits more
  | str s, _, more, waiting, fits, _ => run_value waiting fits more

theorem run_itemTokens : ∀ (xs items : List Json) (stack : List Open) (more : List Token),
    stack.length + 1 + depthOfItems xs ≤ limit →
    run limit (.pending (.item items :: stack)) (itemTokens xs ++ more) =
      run limit (.pending (.item (xs.reverse ++ items) :: stack)) more
  | [], items, stack, more, _ => rfl
  | x :: xs, items, stack, more, room => by
    rw [depthOfItems] at room
    have comma : step limit (.mark ',') (.pending (.item items :: stack)) =
        some (.pending (.nextItem items :: stack)) := step_mark (fits_old rfl)
    have first := run_tokens x (.nextItem items :: stack) (itemTokens xs ++ more) rfl (fits_old rfl)
      (by rw [List.length_cons]; omega)
    rw [itemTokens, List.cons_append, run_cons comma, List.append_assoc, first]
    change run limit (.pending (.item (x :: items) :: stack)) (itemTokens xs ++ more) = _
    rw [run_itemTokens xs (x :: items) stack more (by omega), List.reverse_cons, List.append_assoc]
    rfl

theorem run_memberTokens : ∀ (ms members : List (String × Json)) (stack : List Open)
    (more : List Token), stack.length + 1 + depthOfMembers ms ≤ limit →
    run limit (.pending (.member members :: stack)) (memberTokens ms ++ more) =
      run limit (.pending (.member (ms.reverse ++ members) :: stack)) more
  | [], members, stack, more, _ => rfl
  | (k, x) :: ms, members, stack, more, room => by
    rw [depthOfMembers] at room
    have comma : step limit (.mark ',') (.pending (.member members :: stack)) =
        some (.pending (.nextName members :: stack)) := step_mark (fits_old rfl)
    have colon : step limit (.mark ':') (.pending (.name members k :: stack)) =
        some (.pending (.colon members k :: stack)) := step_mark (fits_old rfl)
    have first := run_tokens x (.colon members k :: stack) (memberTokens ms ++ more) rfl
      (fits_old rfl) (by rw [List.length_cons]; omega)
    rw [memberTokens, List.cons_append, run_cons comma, List.cons_append,
      run_cons (step_name k members stack), List.cons_append, run_cons colon, List.append_assoc, first]
    change run limit (.pending (.member ((k, x) :: members) :: stack)) (memberTokens ms ++ more) = _
    rw [run_memberTokens ms ((k, x) :: members) stack more (by omega), List.reverse_cons,
      List.append_assoc]
    rfl

end

end State

/-! ### Legible values -/

section Depth

variable {n : Nat} {items : List Json} {members : List (String × Json)}

theorem depthOfItems_le : depthOfItems items ≤ n ↔ ∀ j ∈ items, depth j ≤ n := by
  induction items with
  | nil => simp [depthOfItems]
  | cons j rest ih => rw [depthOfItems, Nat.max_le, ih, List.forall_mem_cons]

theorem depthOfMembers_le : depthOfMembers members ≤ n ↔ ∀ m ∈ members, depth m.2 ≤ n := by
  induction members with
  | nil => simp [depthOfMembers]
  | cons m rest ih =>
    obtain ⟨k, j⟩ := m
    rw [depthOfMembers, Nat.max_le, ih, List.forall_mem_cons]

theorem depth_arr_le : depth (arr items) ≤ n + 1 ↔ ∀ j ∈ items, depth j ≤ n := by
  cases items with
  | nil => simp [depth]
  | cons j rest => rw [depth, Nat.add_le_add_iff_right, depthOfItems_le]

theorem depth_obj_le : depth (obj members) ≤ n + 1 ↔ ∀ m ∈ members, depth m.2 ≤ n := by
  cases members with
  | nil => simp [depth]
  | cons m rest => rw [depth, Nat.add_le_add_iff_right, depthOfMembers_le]

end Depth

/-- All values without parts have a property, and there is room for the depth. -/
structure Within (p : Json → Prop) (limit : Nat) (j : Json) : Prop where
  every : Every p j
  room : depth j ≤ limit

section Within

variable {p : Json → Prop} {limit more : Nat} {j : Json}

theorem Within.mono (h : Within p limit j) (le : limit ≤ more) : Within p more j :=
  ⟨h.every, Nat.le_trans h.room le⟩

theorem within_scalar (scalar : isScalar j = true) : Within p limit j ↔ p j := by
  cases j with
  | arr _ | obj _ => cases scalar
  | _ => exact ⟨(·.every), fun h => ⟨h, Nat.zero_le limit⟩⟩

theorem within_nothing : Within p limit (arr []) ∧ Within p limit (obj []) :=
  ⟨⟨trivial, Nat.zero_le limit⟩, ⟨trivial, Nat.zero_le limit⟩⟩

/-- A list needs room for its items and for itself. -/
@[simp] theorem within_arr {items : List Json} :
    Within p (limit + 1) (arr items) ↔ ∀ j ∈ items, Within p limit j := by
  constructor
  · rintro ⟨each, room⟩ j member
    rw [Every, everyItem_iff] at each
    exact ⟨each j member, depth_arr_le.mp room j member⟩
  · intro each
    refine ⟨?_, depth_arr_le.mpr fun j member => (each j member).room⟩
    rw [Every, everyItem_iff]
    exact fun j member => (each j member).every

@[simp] theorem within_obj {members : List (String × Json)} :
    Within p (limit + 1) (obj members) ↔ ∀ m ∈ members, Within p limit m.2 := by
  constructor
  · rintro ⟨each, room⟩ m member
    rw [Every, everyMember_iff] at each
    exact ⟨each m member, depth_obj_le.mp room m member⟩
  · intro each
    refine ⟨?_, depth_obj_le.mpr fun m member => (each m member).room⟩
    rw [Every, everyMember_iff]
    exact fun m member => (each m member).every

/-- A list has room for itself if it has any items. -/
theorem Within.items {items : List Json} (h : Within p limit (arr items)) :
    items = [] ∨ ∃ n, limit = n + 1 ∧ ∀ j ∈ items, Within p n j := by
  cases items with
  | nil => exact Or.inl rfl
  | cons j rest =>
    have room := h.room
    rw [depth] at room
    obtain ⟨n, rfl⟩ := Nat.exists_eq_add_of_le' (Nat.le_trans (Nat.le_add_left 1 _) room)
    exact Or.inr ⟨n, rfl, within_arr.mp h⟩

theorem Within.members {members : List (String × Json)} (h : Within p limit (obj members)) :
    members = [] ∨ ∃ n, limit = n + 1 ∧ ∀ m ∈ members, Within p n m.2 := by
  cases members with
  | nil => exact Or.inl rfl
  | cons m rest =>
    have room := h.room
    rw [depth] at room
    obtain ⟨n, rfl⟩ := Nat.exists_eq_add_of_le' (Nat.le_trans (Nat.le_add_left 1 _) room)
    exact Or.inr ⟨n, rfl, within_obj.mp h⟩

end Within

/-- A value that is printed can be read if it is not too deep. -/
abbrev Legible (limit : Nat) (j : Json) : Prop := Within isPrinted limit j

variable {limit : Nat} {j : Json}

@[simp] theorem legible_null : Legible limit null := (within_scalar rfl).mpr trivial

@[simp] theorem legible_bool (b : Bool) : Legible limit (bool b) := (within_scalar rfl).mpr trivial

@[simp] theorem legible_str (s : String) : Legible limit (str s) := (within_scalar rfl).mpr trivial

/-- In every layout, a legible value is read back from its text. -/
theorem Legible.readWithin? (h : Legible limit j) (l : Layout) (after : List Char)
    (blank : ∀ c ∈ after, isSpace c = true) :
    readWithin? limit (l.text 0 j ++ String.ofList after) = some j := by
  have divided : tokens? (l.text 0 j ++ String.ofList after).toList = some j.tokens := by
    have spaces := tokens?_spaces blank []
    rw [List.append_nil, tokens?_nil] at spaces
    rw [String.toList_append, String.toList_ofList,
      l.divides_text j 0 h.every (closes_blank blank), spaces, Option.map_some, List.append_nil]
  have run : State.run limit .start (j.tokens ++ []) = some (.done j) := by
    refine State.run_tokens j [] [] rfl (State.fits_old rfl) ?_
    rw [List.length_nil, Nat.zero_add]
    exact h.room
  rw [List.append_nil] at run
  unfold Json.readWithin?
  rw [divided]
  change (State.run limit .start j.tokens >>= _) = _
  rw [run]
  rfl

/-- A text over several lines is read back, also with another line end behind it. -/
theorem Legible.read?_pretty (h : Legible maxDepth j) :
    read? j.pretty = some j ∧ read? (j.pretty ++ "\n") = some j := by
  rw [pretty, ← Layout.text_lines]
  constructor
  · rw [← String.append_empty (s := Layout.lines.text 0 j)]
    exact h.readWithin? .lines [] nofun
  · exact h.readWithin? .lines ['\n'] (List.forall_mem_singleton.mpr rfl)

theorem Legible.read?_compact (h : Legible maxDepth j) : read? j.compact = some j := by
  rw [← Layout.text_line 0, ← String.append_empty (s := Layout.line.text 0 j)]
  exact h.readWithin? .line [] nofun

/-- What is printed of a legible value is checked as the value itself. -/
theorem Legible.checkText {α : Type} (h : Legible maxDepth j) (check : Json → Checked α) :
    checkText check j.compact = check j ∧ checkText check j.pretty = check j ∧
      checkText check (j.pretty ++ "\n") = check j := by
  obtain ⟨lines, closed⟩ := h.read?_pretty
  unfold Json.checkText
  rw [h.read?_compact, lines, closed]
  exact ⟨rfl, rfl, rfl⟩

end DocScript.Json
