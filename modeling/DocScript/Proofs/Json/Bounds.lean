import DocScript.Proofs.Json.Reading

/-!
# What is read is bounded

The machine holds a stack of open lists and objects. Each value in the one at some height leaves
room for the lists and objects around it, so a value that is read is not deeper than the limit. Its
integers are not too long, as they are read digit by digit.
-/

namespace DocScript.Json

open Numeral

/-- Integers are not too long to be read. -/
def isShort : Json → Prop
  | int n => n.natAbs < 10 ^ maxDigits
  | _ => True

/-- Numbers with a point or an exponent are finite. -/
def isFinite : Json → Prop
  | float (.finite _) => True
  | float _ => False
  | _ => True

theorem isPrinted_of_short {j : Json} (short : isShort j) (finite : isFinite j) : isPrinted j := by
  cases j with
  | int n => exact isPrinted_int.mpr short
  | float x => cases x <;> exact finite
  | _ => trivial

/-! ### Tokens -/

section Tokens

theorem ofDigitChars_lt {ds : List Char} (digits : Digits ds) {n k : Nat} (small : n < 10 ^ k) :
    Nat.ofDigitChars 10 ds n < 10 ^ (k + ds.length) := by
  induction ds generalizing n k with
  | nil => exact small
  | cons d ds ih =>
    have digit := (Char.isDigit_iff_toNat.mp (digits d List.mem_cons_self)).2
    have more : 10 * n + (d.toNat - '0'.toNat) < 10 ^ (k + 1) := by
      have value : d.toNat - '0'.toNat < 10 := by
        change d.toNat ≤ 57 at digit
        change d.toNat - 48 < 10
        omega
      rw [Nat.pow_succ]
      omega
    rw [Nat.ofDigitChars_cons, List.length_cons, Nat.add_comm ds.length, ← Nat.add_assoc]
    exact ih (fun c member => digits c (List.mem_cons_of_mem d member)) more

theorem natAbs_signed (negative : Bool) (n : Nat) : (signed negative n).natAbs = n := by
  cases negative <;> simp [signed]

/-- A token is a mark or a value without parts, and no integer is too long. -/
def Token.Short : Token → Prop
  | .mark _ => True
  | .value j => isScalar j = true ∧ isShort j

variable {negative : Bool} {cs rest : List Char} {j : Json} {t : Token}

theorem number?_short (read : number? negative cs = some (j, rest)) : (Token.value j).Short := by
  rw [number?] at read
  dsimp only at read
  split at read
  · cases read
  · simp only [Option.bind_eq_bind, Option.bind_eq_some_iff, Prod.exists, Option.pure_def] at read
    obtain ⟨fraction, _, _, exponent, _, _, made⟩ := read
    split at made
    · split at made
      · next short =>
        cases made
        have digits : Digits (digitRun cs).1 := fun c member => by
          have all := List.all_takeWhile (p := Char.isDigit) (l := cs)
          exact List.all_eq_true.mp all c member
        have least : Nat.ofDigitChars 10 (digitRun cs).1 0 < 10 ^ (0 + (digitRun cs).1.length) :=
          ofDigitChars_lt digits (by decide)
        rw [Nat.zero_add] at least
        refine ⟨rfl, Nat.lt_of_lt_of_le ?_ (Nat.pow_le_pow_right (by decide) short)⟩
        rw [natAbs_signed, ofDigits_digitValues]
        exact least
      · cases made
    · cases made
      exact ⟨rfl, trivial⟩

theorem words_short : ∀ w ∈ words, (Token.value w.2).Short := by
  simp [words, Token.Short, isScalar, isShort]

theorem token?_short (read : token? cs = some (t, rest)) : t.Short := by
  unfold token? at read
  split at read
  · cases read
  · split at read
    · cases read
      trivial
    · split at read
      · simp only [Option.bind_eq_bind, Option.bind_eq_some_iff, Prod.exists, Option.pure_def] at read
        obtain ⟨s, _, _, made⟩ := read
        cases made
        exact ⟨rfl, trivial⟩
      · split at read
        · next word =>
          cases read
          obtain ⟨w, member, found⟩ := List.exists_of_findSome?_eq_some word
          obtain ⟨_, _, same⟩ := Option.map_eq_some_iff.mp found
          cases same
          exact words_short w member
        · obtain ⟨⟨j, r⟩, number, same⟩ := Option.map_eq_some_iff.mp read
          cases same
          split at number <;> exact number?_short number

theorem tokens?_short {ts : List Token} (read : tokens? cs = some ts) : ∀ t ∈ ts, t.Short := by
  fun_induction tokens? cs generalizing ts with
  | case1 =>
    cases read
    exact nofun
  | case2 => cases read
  | case3 cs c rest start t more first ih =>
    obtain ⟨others, found, rfl⟩ := Option.map_eq_some_iff.mp read
    exact List.forall_mem_cons.mpr ⟨token?_short first, ih found⟩

end Tokens

/-! ### The machine -/

/-- The values inside a list or object whose end has not been read. -/
def Open.values : Open → List Json
  | items | members => []
  | nextItem xs | item xs => xs
  | nextName ms | name ms _ | colon ms _ | member ms => ms.map (·.2)

namespace State

/-- Every open list or object is inside of no more than `limit` others, one that is not empty inside
of fewer, and its values leave room for these. -/
def Sound (limit : Nat) : List Open → Prop
  | [] => True
  | o :: rest => rest.length ≤ limit ∧ (isFresh (o :: rest) = false → rest.length < limit) ∧
      (∀ j ∈ o.values, Within isShort (limit - (rest.length + 1)) j) ∧ Sound limit rest

/-- What has been read is bounded. -/
def Bounded (limit : Nat) : State → Prop
  | .pending stack => Sound limit stack
  | .done j => Within isShort limit j

variable {limit : Nat} {stack rest : List Open} {s s' : State} {j : Json}

theorem Sound.length_le (h : Sound limit stack) (fits : Fits limit stack) : stack.length ≤ limit := by
  cases stack with
  | nil => exact Nat.zero_le limit
  | cons o rest =>
    cases fresh : isFresh (o :: rest) with
    | true => exact fits fresh
    | false => exact h.2.1 fresh

/-- An open list or object gets a value. -/
theorem Sound.put {o o' : Open} (h : Sound limit (o :: rest)) (room : rest.length < limit)
    (values : ∀ v ∈ o'.values, v ∈ o.values ∨ Within isShort (limit - (rest.length + 1)) v) :
    Sound limit (o' :: rest) := by
  refine ⟨h.1, fun _ => room, fun v member => ?_, h.2.2.2⟩
  rcases values v member with old | new
  · exact h.2.2.1 v old
  · exact new

theorem give_bounded (h : Sound limit stack) (room : stack.length ≤ limit)
    (value : Within isShort (limit - stack.length) j) (given : give j stack = some s) :
    s.Bounded limit := by
  unfold give at given
  split at given
  · cases given
    exact value
  · cases given
    refine h.put room fun v member => Or.inr ?_
    obtain rfl := List.mem_singleton.mp member
    exact value
  · cases given
    refine h.put room fun v member => ?_
    rcases List.mem_cons.mp member with rfl | old
    · exact Or.inr value
    · exact Or.inl old
  · cases given
    refine h.put room fun v member => ?_
    rcases List.mem_cons.mp member with rfl | old
    · exact Or.inr value
    · exact Or.inl old
  · cases given

/-- Something that is opened is empty at first. -/
theorem Sound.opened {o : Open} (h : Sound limit stack) (room : stack.length ≤ limit)
    (fresh : isFresh (o :: stack) = true) (empty : o.values = []) : Sound limit (o :: stack) := by
  refine ⟨room, fun old => ?_, fun v member => ?_, h⟩
  · rw [fresh] at old
    cases old
  · rw [empty] at member
    cases member

/-- Something that is not empty leaves room for itself when it is closed. -/
theorem Sound.closed {o : Open} (h : Sound limit (o :: rest)) (old : isFresh (o :: rest) = false) :
    ∃ n, limit - rest.length = n + 1 ∧ ∀ v ∈ o.values, Within isShort n v := by
  have room := h.2.1 old
  exact ⟨limit - (rest.length + 1), by omega, h.2.2.1⟩

theorem mark_bounded {c : Char} (h : Sound limit stack)
    (room : c = '[' ∨ c = '\x7b' → stack.length ≤ limit) (marked : mark c stack = some s) :
    s.Bounded limit := by
  unfold mark at marked
  simp only [beq_iff_eq] at marked
  split at marked
  · next list =>
    split at marked
    · cases marked
      exact h.opened (room (Or.inl list)) rfl rfl
    · cases marked
  · split at marked
    · next object =>
      split at marked
      · cases marked
        exact h.opened (room (Or.inr object)) rfl rfl
      · cases marked
    · split at marked
      · split at marked
        · exact give_bounded h.2.2.2 h.1 within_nothing.1 marked
        · cases marked
      · split at marked
        · obtain ⟨n, one, values⟩ := h.closed rfl
          refine give_bounded h.2.2.2 h.1 ?_ marked
          rw [one, within_arr]
          exact fun v member => values v (List.mem_reverse.mp member)
        · split at marked
          · cases marked
            exact h.put (h.2.1 rfl) fun v member => Or.inl member
          · cases marked
      · split at marked
        · exact give_bounded h.2.2.2 h.1 within_nothing.2 marked
        · cases marked
      · split at marked
        · cases marked
          exact h.put (h.2.1 rfl) fun v member => Or.inl member
        · cases marked
      · split at marked
        · obtain ⟨n, one, values⟩ := h.closed rfl
          refine give_bounded h.2.2.2 h.1 ?_ marked
          rw [one, within_obj]
          exact fun m member => values m.2 (List.mem_map_of_mem (List.mem_reverse.mp member))
        · split at marked
          · cases marked
            exact h.put (h.2.1 rfl) fun v member => Or.inl member
          · cases marked
      · cases marked

theorem step_bounded {t : Token} (h : s.Bounded limit) (short : t.Short)
    (stepped : step limit t s = some s') : s'.Bounded limit := by
  unfold step at stepped
  split at stepped
  · cases stepped
  · next stack =>
    -- What passes the check of the limit finds room on the stack.
    have room (fits : ¬ (decide (stack.length > limit) && isFresh stack) = true) :
        stack.length ≤ limit := by
      refine Sound.length_le h fun fresh => ?_
      rw [fresh, Bool.and_true, decide_eq_true_eq] at fits
      omega
    split at stepped
    · next c =>
      split at stepped
      · cases stepped
      · next fits =>
        refine mark_bounded h (fun opens => room fun full => fits ?_) stepped
        rcases opens with rfl | rfl <;> simp [full]
    · next j =>
      split at stepped
      · cases stepped
      · next fits =>
        split at stepped
        · cases stepped
          exact Sound.put h (room fits) fun v => nofun
        · cases stepped
          exact Sound.put h (h.2.1 rfl) fun v member => Or.inl member
        · cases stepped
        · cases stepped
        · exact give_bounded h (room fits) ((within_scalar short.1).mpr short.2) stepped

theorem run_bounded {ts : List Token} (h : s.Bounded limit) (short : ∀ t ∈ ts, t.Short)
    (ran : run limit s ts = some s') : s'.Bounded limit := by
  induction ts generalizing s with
  | nil =>
    cases ran
    exact h
  | cons t ts ih =>
    obtain ⟨first, others⟩ := List.forall_mem_cons.mp short
    obtain ⟨next, stepped, ran⟩ := Option.bind_eq_some_iff.mp ran
    exact ih (step_bounded h first stepped) others ran

end State

variable {limit : Nat} {s : String} {j : Json}

theorem readWithin?_within (read : readWithin? limit s = some j) : Within isShort limit j := by
  unfold readWithin? at read
  obtain ⟨ts, divided, read⟩ := Option.bind_eq_some_iff.mp read
  obtain ⟨final, ran, read⟩ := Option.bind_eq_some_iff.mp read
  have bounded := State.run_bounded (s := .start) trivial (tokens?_short divided) ran
  cases final with
  | pending stack => cases read
  | done v =>
    cases read
    exact bounded

/-- What is read can be printed and read again if its numbers are finite. -/
theorem read?_legible (read : read? s = some j) (finite : j.Every isFinite) : Legible maxDepth j := by
  have bounded := readWithin?_within read
  exact ⟨every_both (fun _ => isPrinted_of_short) j bounded.every finite, bounded.room⟩

end DocScript.Json
