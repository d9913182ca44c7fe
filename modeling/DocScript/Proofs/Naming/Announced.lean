import DocScript.Proofs.Naming.Trace

/-!
# Names that are announced as new

The two modes count on their own, and both begin with the same name. So a pool announces a name as
new once in each mode, and no name is announced twice just if all calls are in one mode.
-/

namespace DocScript

namespace Pool

def Event.announced? : Event → Option String
  | acquired _ name false => some name
  | _ => none

def announced (history : List Event) : List String := history.filterMap Event.announced?

theorem announced_append (history later : List Event) :
    announced (history ++ later) = announced history ++ announced later :=
  List.filterMap_append

/-- A name is announced in one mode or in the other. -/
theorem announced_perm (history : List Event) :
    (announced (history.filter (Event.acquires true)) ++
      announced (history.filter (Event.acquires false))).Perm (announced history) := by
  have others : announced (history.filter (Event.acquires false)) =
      announced (history.filter (!Event.acquires true ·)) := by
    simp only [announced, List.filterMap_filter]
    apply List.filterMap_congr
    intro event _
    cases event with
    | acquired unique => cases unique <;> rfl
    | registered | released => rfl
  rw [others, ← announced_append]
  exact (List.filter_append_perm (Event.acquires true) history).filterMap Event.announced?

namespace Desk

def made (d : Desk) (unique : Bool) : Nat :=
  if unique then d.pool.uniqueCount else d.pool.entries.size

/-- The names made in a mode, in order. -/
def spelled (d : Desk) (unique : Bool) : List String :=
  (List.range (d.made unique)).map (variableName d.namespaces d.pool.type)

variable {d d' : Desk} {event : Event} {history : List Event} {unique : Bool}

theorem nodup_spelled (d : Desk) (unique : Bool) : (d.spelled unique).Nodup :=
  List.nodup_range.map fun _ _ => variableName_inj

theorem nodup_spelled_iff (d : Desk) :
    (d.spelled true ++ d.spelled false).Nodup ↔ ¬ (0 < d.made true ∧ 0 < d.made false) := by
  have first (unique : Bool) (pos : 0 < d.made unique) :
      variableName d.namespaces d.pool.type 0 ∈ d.spelled unique :=
    List.mem_map_of_mem (List.mem_range.mpr pos)
  have empty (unique : Bool) (zero : ¬ 0 < d.made unique) : d.spelled unique = [] := by
    rw [spelled, Nat.eq_zero_of_not_pos zero]
    rfl
  constructor
  · -- Both modes have made the name of the attempt 0.
    rintro nodup ⟨pos, others⟩
    exact List.disjoint_of_nodup_append nodup (first true pos) (first false others)
  · intro apart
    by_cases pos : 0 < d.made true
    · rw [empty false fun others => apart ⟨pos, others⟩, List.append_nil]
      exact nodup_spelled d true
    · rw [empty true pos, List.nil_append]
      exact nodup_spelled d false

/-- Each name that was made was announced then, and a mode that was asked for has made one. -/
structure Announces (history : List Event) (d : Desk) : Prop where
  sound : d.Sound
  names : ∀ unique, announced (history.filter (Event.acquires unique)) = d.spelled unique
  asked : ∀ unique, history.any (Event.acquires unique) = true → 0 < d.made unique

theorem announces_start {ns : Namespaces} {t : TypeId} (known : ns.contains t.space = true) :
    (start ns t).Announces [] := by
  refine ⟨sound_start known, fun unique => ?_, fun _ asked => ?_⟩
  · cases unique <;> rfl
  · cases asked

theorem Sound.spelling_moves (sound : d.Sound) (moved : d.Moves event d') :
    variableName d'.namespaces d'.pool.type = variableName d.namespaces d.pool.type := by
  cases moved with
  | registered le => exact funext (Namespaces.variableName_of_le le sound.known)
  | counted | reused | made | freed | ignored => rfl

/-- The name that is announced in a mode is the next one that the mode makes. -/
theorem Sound.announced_moves (sound : d.Sound) (moved : d.Moves event d') (unique : Bool) :
    (announced ([event].filter (Event.acquires unique)) = [] ∧ d'.made unique = d.made unique) ∨
    (announced ([event].filter (Event.acquires unique)) =
        [variableName d.namespaces d.pool.type (d.made unique)] ∧
      d'.made unique = d.made unique + 1) := by
  cases moved with
  | registered | ignored => exact Or.inl ⟨rfl, rfl⟩
  | counted spelled =>
    rw [spelled]
    cases unique with
    | true => exact Or.inr ⟨rfl, rfl⟩
    | false => exact Or.inl ⟨rfl, rfl⟩
  | @reused name rest top =>
    have kept := OrderedMap.mem_keys_of_get? (sound.top_free top)
    refine Or.inl ?_
    cases unique with
    | true => exact ⟨rfl, rfl⟩
    | false => exact ⟨rfl, OrderedMap.size_insert_of_mem _ kept⟩
  | @made name none spelled =>
    rw [spelled]
    cases unique with
    | true => exact Or.inl ⟨rfl, rfl⟩
    | false => exact Or.inr ⟨rfl, OrderedMap.size_insert_of_not_mem _ sound.fresh⟩
  | @freed name used =>
    refine Or.inl ?_
    cases unique with
    | true => exact ⟨rfl, rfl⟩
    | false => exact ⟨rfl, OrderedMap.size_insert_of_mem _ (OrderedMap.mem_keys_of_get? used)⟩

theorem Sound.spelled_moves (sound : d.Sound) (moved : d.Moves event d') (unique : Bool) :
    d'.spelled unique = d.spelled unique ++ announced ([event].filter (Event.acquires unique)) := by
  rw [spelled, spelled, sound.spelling_moves moved]
  rcases sound.announced_moves moved unique with ⟨nothing, same⟩ | ⟨next, more⟩
  · rw [nothing, same, List.append_nil]
  · rw [next, more, List.range_succ, List.map_append, List.map_singleton]

/-- A mode that is asked for a name has made one: it uses only its own names again. -/
theorem Sound.asked_moves (sound : d.Sound) (moved : d.Moves event d') {unique : Bool}
    (asked : event.acquires unique = true) : 0 < d'.made unique := by
  cases event with
  | registered | released => cases asked
  | acquired mode name again =>
    obtain rfl : mode = unique := eq_of_beq asked
    cases mode with
    | true =>
      cases moved with
      | counted spelled => exact Nat.succ_pos d.pool.uniqueCount
    | false =>
      have kept : name ∈ d'.pool.entries.keys :=
        OrderedMap.mem_keys_of_get? (sound.inUse_acquired moved).2
      show 0 < d'.pool.entries.size
      rw [OrderedMap.size_eq]
      exact List.length_pos_of_mem kept

theorem Announces.moves (announces : d.Announces history) (moved : d.Moves event d') :
    d'.Announces (history ++ [event]) := by
  obtain ⟨sound, names, asked⟩ := announces
  refine ⟨sound.moves moved, fun unique => ?_, fun unique asks => ?_⟩
  · rw [List.filter_append, announced_append, names, sound.spelled_moves moved]
  · rw [List.any_append, Bool.or_eq_true] at asks
    rcases asks with before | now
    · have before := asked unique before
      rcases sound.announced_moves moved unique with ⟨_, same⟩ | ⟨_, more⟩ <;> omega
    · rw [List.any_cons, List.any_nil, Bool.or_false] at now
      exact sound.asked_moves moved now

theorem any_acquires_run (schema : Registry) (d : Desk) (unique : Bool) (calls : List Call) :
    (d.run schema calls).1.any (Event.acquires unique) = true ↔ Call.acquire unique ∈ calls := by
  induction calls generalizing d with
  | nil => simp [run]
  | cons call rest ih =>
    have here : (d.step schema call).1.acquires unique = true ↔ Call.acquire unique = call := by
      cases call with
      | register | release => simp [step, Event.acquires]
      | acquire mode =>
        show (mode == unique) = true ↔ _
        rw [beq_iff_eq, Call.acquire.injEq, eq_comm]
    rw [run, List.any_cons, Bool.or_eq_true, here, ih, List.mem_cons]

theorem Announces.made_pos_iff (announces : d.Announces history) (unique : Bool) :
    0 < d.made unique ↔ history.any (Event.acquires unique) = true := by
  refine ⟨fun pos => ?_, announces.asked unique⟩
  have names := announces.names unique
  cases asked : history.any (Event.acquires unique) with
  | true => rfl
  | false =>
    have empty : history.filter (Event.acquires unique) = [] := by
      simpa using asked
    rw [empty] at names
    have length := congrArg List.length names
    rw [spelled, List.length_map, List.length_range] at length
    exact absurd length.symm pos.ne'

end Desk

open Desk

/-- Whatever is asked of a pool and given back to it, each mode announces different names as new;
and no name is announced twice if and only if names were not acquired in both modes. -/
theorem announced_nodup_iff (schema : Registry) {ns : Namespaces} {t : TypeId}
    (known : ns.contains t.space = true) (calls : List Call) :
    let history := (run schema (start ns t) calls).1
    (∀ unique, (announced (history.filter (Event.acquires unique))).Nodup) ∧
    ((announced history).Nodup ↔ ¬ (Call.acquire true ∈ calls ∧ Call.acquire false ∈ calls)) := by
  intro history
  have announces : (run schema (start ns t) calls).2.Announces history :=
    run_induction schema (fun announces moved => announces.moves moved) [] calls
      (announces_start known)
  constructor
  · intro unique
    rw [announces.names]
    exact nodup_spelled _ unique
  · rw [← (announced_perm history).nodup_iff, announces.names, announces.names, nodup_spelled_iff,
      announces.made_pos_iff, announces.made_pos_iff, any_acquires_run, any_acquires_run]

/-- A name of the unique mode is announced again by the first call in the other mode. -/
theorem paragraph_announced_twice :
    paragraphSpaces.contains paragraph.space = true ∧
      ¬ (announced (run paragraphs (start paragraphSpaces paragraph)
        [.acquire true, .release "paragraph", .acquire false]).1).Nodup := by
  have known : paragraphSpaces.contains paragraph.space = true := by decide
  have announced := announced_nodup_iff paragraphs known
    [.acquire true, .release "paragraph", .acquire false]
  refine ⟨known, fun nodup => announced.2.mp nodup ⟨?_, ?_⟩⟩
  · exact List.mem_cons_self
  · exact List.mem_cons_of_mem _ (List.mem_cons_of_mem _ List.mem_cons_self)

end Pool

end DocScript
