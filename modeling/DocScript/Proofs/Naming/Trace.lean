import DocScript.Proofs.Naming.Registration

/-!
# A pool over time

A pool is asked for names in both modes and given names back, known to it or not, in any order, and
namespaces are registered in between. What a single call can come to is said once, in `Desk.Moves`;
all that holds after any number of calls is derived from it. A name is released only where it was in
use: any other call for its release is ignored.
-/

namespace DocScript

namespace Pool

inductive Call where
  | register (entry : Registration)
  | acquire (unique : Bool)
  | release (name : String)

/-- What a call comes to. A release is effective if the name was in use. -/
inductive Event where
  | registered
  | acquired (unique : Bool) (name : String) (again : Bool)
  | released (name : String) (effective : Bool)

/-- The pool keeps the name and has given it out. -/
def InUse (p : Pool) (name : String) : Prop := p.entries.get? name = some false

instance (p : Pool) (name : String) : Decidable (p.InUse name) :=
  inferInstanceAs (Decidable (_ = _))

variable {p : Pool} {name : String} {rest : List String}

theorem acquire_unique (ns : Namespaces) (p : Pool) :
    p.acquire ns true =
      ((variableName ns p.type p.uniqueCount, false), { p with uniqueCount := p.uniqueCount + 1 }) :=
  rfl

theorem acquire_reused (ns : Namespaces) (top : p.free = name :: rest) :
    p.acquire ns false =
      ((name, true), { p with entries := p.entries.insert name false, free := rest }) := by
  simp only [acquire, top, Bool.false_eq_true, if_false]

theorem acquire_made (ns : Namespaces) (none : p.free = []) :
    p.acquire ns false =
      ((variableName ns p.type p.entries.size, false),
        { p with entries := p.entries.insert (variableName ns p.type p.entries.size) false }) := by
  simp only [acquire, none, Bool.false_eq_true, if_false]

/-- A pool and the table of namespaces by which its names are spelled. -/
structure Desk where
  namespaces : Namespaces
  pool : Pool

namespace Desk

def start (ns : Namespaces) (t : TypeId) : Desk := ⟨ns, .empty t⟩

def step (schema : Registry) (d : Desk) : Call → Event × Desk
  | .register entry => (.registered, { d with namespaces := d.namespaces.perform schema entry })
  | .acquire unique =>
    let (taken, pool) := d.pool.acquire d.namespaces unique
    (.acquired unique taken.1 taken.2, { d with pool })
  | .release name =>
    (.released name (d.pool.InUse name), { d with pool := d.pool.release name })

def run (schema : Registry) (d : Desk) : List Call → List Event × Desk
  | [] => ([], d)
  | call :: rest =>
    let (event, d) := d.step schema call
    let (events, d) := d.run schema rest
    (event :: events, d)

/-- All that a call can come to. -/
inductive Moves (d : Desk) : Event → Desk → Prop
  | registered {ns : Namespaces} (le : d.namespaces ≤ ns) :
    Moves d .registered { d with namespaces := ns }
  | counted {name : String}
    (spelled : name = variableName d.namespaces d.pool.type d.pool.uniqueCount) :
    Moves d (.acquired true name false)
      { d with pool := { d.pool with uniqueCount := d.pool.uniqueCount + 1 } }
  | reused {name : String} {rest : List String} (top : d.pool.free = name :: rest) :
    Moves d (.acquired false name true)
      { d with pool :=
        { d.pool with entries := d.pool.entries.insert name false, free := rest } }
  | made {name : String} (none : d.pool.free = [])
    (spelled : name = variableName d.namespaces d.pool.type d.pool.entries.size) :
    Moves d (.acquired false name false)
      { d with pool := { d.pool with entries := d.pool.entries.insert name false } }
  | freed {name : String} (used : d.pool.InUse name) :
    Moves d (.released name true)
      { d with pool :=
        { d.pool with entries := d.pool.entries.insert name true, free := name :: d.pool.free } }
  | ignored {name : String} (unused : ¬ d.pool.InUse name) : Moves d (.released name false) d

variable {d d' : Desk} {event : Event} {history : List Event}

theorem moves_acquire (d : Desk) (unique : Bool) :
    d.Moves (.acquired unique (d.pool.acquire d.namespaces unique).1.1
      (d.pool.acquire d.namespaces unique).1.2)
      { d with pool := (d.pool.acquire d.namespaces unique).2 } := by
  cases unique with
  | true =>
    rw [acquire_unique]
    dsimp only
    refine .counted ?_
    rfl
  | false =>
    cases stack : d.pool.free with
    | nil =>
      rw [acquire_made _ stack]
      dsimp only
      refine .made stack ?_
      rfl
    | cons name rest =>
      rw [acquire_reused _ stack]
      exact .reused stack

theorem moves_step (schema : Registry) (d : Desk) (call : Call) :
    d.Moves (d.step schema call).1 (d.step schema call).2 := by
  cases call with
  | register entry => exact .registered (Namespaces.le_perform schema d.namespaces entry)
  | acquire unique => exact moves_acquire d unique
  | release name =>
    by_cases used : d.pool.InUse name
    · have released : d.pool.release name =
          { d.pool with entries := d.pool.entries.insert name true, free := name :: d.pool.free } :=
        if_pos used
      simp only [step, used, decide_true, released]
      exact .freed used
    · have ignored : d.pool.release name = d.pool := if_neg used
      simp only [step, used, decide_false, ignored]
      exact .ignored used

/-- What every move keeps holds after any calls. -/
theorem run_induction {P : List Event → Desk → Prop} (schema : Registry)
    (move : ∀ {history d event d'}, P history d → d.Moves event d' → P (history ++ [event]) d')
    (history : List Event) (calls : List Call) (start : P history d) :
    P (history ++ (d.run schema calls).1) (d.run schema calls).2 := by
  induction calls generalizing d history with
  | nil =>
    rw [run, List.append_nil]
    exact start
  | cons call rest ih =>
    have later := ih _ (move start (moves_step schema d call))
    rw [List.append_assoc] at later
    exact later

/-! ### The names that are kept -/

/-- The pool keeps the names of its first attempts, and each free one is on the stack once. -/
structure Sound (d : Desk) : Prop where
  known : d.namespaces.contains d.pool.type.space = true
  names : d.pool.entries.keys =
    (List.range d.pool.entries.size).map (variableName d.namespaces d.pool.type)
  nodup : d.pool.free.Nodup
  free : ∀ name, name ∈ d.pool.free ↔ d.pool.entries.get? name = some true

theorem sound_start {ns : Namespaces} {t : TypeId} (known : ns.contains t.space = true) :
    (start ns t).Sound :=
  ⟨known, rfl, List.nodup_nil, fun _ => by simp [start, Pool.empty]⟩

theorem Sound.fresh (sound : d.Sound) :
    variableName d.namespaces d.pool.type d.pool.entries.size ∉ d.pool.entries.keys := by
  rw [sound.names]
  intro member
  obtain ⟨attempt, earlier, same⟩ := List.mem_map.mp member
  exact (List.mem_range.mp earlier).ne (variableName_inj same)

theorem Sound.top_free {name : String} {rest : List String} (sound : d.Sound)
    (top : d.pool.free = name :: rest) : d.pool.entries.get? name = some true := by
  rw [← sound.free, top]
  exact List.mem_cons_self

theorem Sound.not_free {name : String} (sound : d.Sound) (used : d.pool.InUse name) :
    name ∉ d.pool.free := by
  intro member
  have free := (sound.free name).mp member
  rw [used] at free
  cases free

theorem Sound.moves (sound : d.Sound) (moved : d.Moves event d') : d'.Sound := by
  have known := sound.known
  have names := sound.names
  have nodup := sound.nodup
  have free := sound.free
  cases moved with
  | registered le =>
    refine ⟨Namespaces.contains_of_le le known, ?_, nodup, free⟩
    rw [names]
    exact congrArg (List.map · _) (funext fun n => (Namespaces.variableName_of_le le known n).symm)
  | counted => exact ⟨known, names, nodup, free⟩
  | @reused name rest top =>
    rw [top] at nodup
    obtain ⟨gone, nodup⟩ := List.nodup_cons.mp nodup
    have kept := OrderedMap.mem_keys_of_get? (sound.top_free top)
    refine ⟨known, ?_, nodup, fun other => ?_⟩
    · rw [OrderedMap.keys_insert, if_pos kept, OrderedMap.size_insert_of_mem _ kept]
      exact names
    · rw [OrderedMap.get?_insert]
      split
      · next same =>
        subst same
        simp [gone]
      · next different =>
        rw [← free, top, List.mem_cons]
        simp [Ne.symm different]
  | @made name none spelled =>
    have new := sound.fresh
    rw [← spelled] at new
    refine ⟨known, ?_, nodup, fun other => ?_⟩
    · rw [OrderedMap.keys_insert, if_neg new, OrderedMap.size_insert_of_not_mem _ new, List.range_succ,
        List.map_append, names, spelled]
      rfl
    · rw [OrderedMap.get?_insert, free]
      split
      · next same =>
        subst same
        simp [OrderedMap.get?_eq_none.mpr new]
      · exact Iff.rfl
  | @freed name used =>
    have kept := OrderedMap.mem_keys_of_get? used
    refine ⟨known, ?_, List.nodup_cons.mpr ⟨sound.not_free used, nodup⟩, fun other => ?_⟩
    · rw [OrderedMap.keys_insert, if_pos kept, OrderedMap.size_insert_of_mem _ kept]
      exact names
    · rw [OrderedMap.get?_insert, List.mem_cons, free]
      split
      · next same => simp [same]
      · next different => simp [Ne.symm different]
  | ignored => exact ⟨known, names, nodup, free⟩

theorem Sound.run (sound : d.Sound) (schema : Registry) (calls : List Call) :
    (d.run schema calls).2.Sound :=
  run_induction schema (P := fun _ d => d.Sound) (fun sound moved => sound.moves moved) [] calls sound

/-! ### What came before -/

end Desk

def Event.freed? : Event → Option String
  | released name true => some name
  | _ => none

/-- The released names, the latest one first; a name is there as often as it was released. -/
def freed (history : List Event) : List String := (history.filterMap Event.freed?).reverse

def Event.acquires (unique : Bool) : Event → Bool
  | acquired mode _ _ => mode == unique
  | _ => false

theorem freed_append (history : List Event) (event : Event) :
    freed (history ++ [event]) = event.freed?.toList ++ freed history := by
  cases known : event.freed? <;> simp [freed, known]

theorem head?_eraseDups (names : List String) : names.eraseDups.head? = names.head? := by
  cases names with
  | nil => rfl
  | cons name rest => rw [List.eraseDups_cons, List.head?_cons, List.head?_cons]

theorem isFree_insert (p : Pool) (name : String) (flag : Bool) (stack : List String) :
    isFree { p with entries := p.entries.insert name flag, free := stack } =
      fun other => if name = other then flag else p.isFree other := by
  funext other
  rw [isFree, OrderedMap.get?_insert]
  split <;> rfl

theorem liveCount_eq (p : Pool) : p.liveCount = p.entries.values.countP (!·) :=
  List.countP_eq_length_filter.symm

namespace Desk

variable {d d' : Desk} {event : Event} {history : List Event}

/-- The stack holds the released names that are still free, each at its latest release, and as many
names are in use as were acquired for reuse and not released. -/
structure Records (history : List Event) (d : Desk) : Prop where
  sound : d.Sound
  stack : d.pool.free = ((freed history).filter d.pool.isFree).eraseDups
  live : d.pool.liveCount + (freed history).length = history.countP (Event.acquires false)

theorem records_start {ns : Namespaces} {t : TypeId} (known : ns.contains t.space = true) :
    (start ns t).Records [] :=
  ⟨sound_start known, rfl, rfl⟩

theorem Records.stack_moves (records : d.Records history) (moved : d.Moves event d') :
    d'.pool.free = ((freed (history ++ [event])).filter d'.pool.isFree).eraseDups := by
  have fresh := records.sound.fresh
  obtain ⟨_, stack, _⟩ := records
  rw [freed_append]
  cases moved with
  | registered | counted | ignored => exact stack
  | @reused name rest top =>
    -- The name on top is the latest released free name; without it, however often it was released,
    -- the next one comes first.
    rw [isFree_insert]
    change rest = ((freed history).filter fun other =>
      if name = other then false else d.pool.isFree other).eraseDups
    have others : ((freed history).filter fun other =>
        if name = other then false else d.pool.isFree other) =
          ((freed history).filter d.pool.isFree).filter (!· == name) := by
      rw [List.filter_filter]
      refine List.filter_congr fun other _ => ?_
      by_cases same : name = other
      · simp [same]
      · simp [same, Ne.symm same]
    rw [top] at stack
    rw [others]
    cases still : (freed history).filter d.pool.isFree with
    | nil =>
      rw [still] at stack
      cases stack
    | cons first more =>
      rw [still, List.eraseDups_cons] at stack
      obtain ⟨rfl, rfl⟩ := List.cons.inj stack
      simp
  | @made name none spelled =>
    rw [← spelled] at fresh
    have unchanged : (fun other => if name = other then false else d.pool.isFree other) =
        d.pool.isFree := by
      funext other
      split
      · next same => rw [← same, isFree, OrderedMap.get?_eq_none.mpr fresh, Option.getD_none]
      · rfl
    rw [isFree_insert, unchanged]
    exact stack
  | @freed name used =>
    have before : d.pool.isFree name = false := by rw [isFree, used, Option.getD_some]
    have others : ((freed history).filter fun other =>
        if name = other then true else d.pool.isFree other).filter (!· == name) =
          (freed history).filter d.pool.isFree := by
      rw [List.filter_filter]
      refine List.filter_congr fun other _ => ?_
      by_cases same : name = other
      · simp [← same, before]
      · simp [same, Ne.symm same]
    -- The name was not free, so its earlier releases did not count.
    rw [isFree_insert]
    change name :: d.pool.free = ((name :: freed history).filter fun other =>
      if name = other then true else d.pool.isFree other).eraseDups
    rw [List.filter_cons_of_pos (by simp), List.eraseDups_cons, others, stack]

theorem Records.live_moves (records : d.Records history) (moved : d.Moves event d') :
    d'.pool.liveCount + (freed (history ++ [event])).length =
      (history ++ [event]).countP (Event.acquires false) := by
  have live := records.live
  have fresh := records.sound.fresh
  rw [liveCount_eq] at live
  rw [freed_append, List.length_append, List.countP_append, liveCount_eq]
  have counted (name : String) (flag : Bool) :=
    OrderedMap.countP_values_insert (!·) d.pool.entries name flag
  cases moved with
  | registered | counted | ignored => simpa [Event.freed?, Event.acquires] using live
  | @reused name rest top =>
    have flags := counted name false
    rw [records.sound.top_free top] at flags
    simp [Event.freed?, Event.acquires] at flags ⊢
    omega
  | @made name none spelled =>
    have flags := counted name false
    rw [spelled, OrderedMap.get?_eq_none.mpr fresh, ← spelled] at flags
    simp [Event.freed?, Event.acquires] at flags ⊢
    omega
  | @freed name used =>
    have flags := counted name true
    rw [used] at flags
    simp [Event.freed?, Event.acquires] at flags ⊢
    omega

theorem Records.moves (records : d.Records history) (moved : d.Moves event d') :
    d'.Records (history ++ [event]) :=
  ⟨records.sound.moves moved, records.stack_moves moved, records.live_moves moved⟩

/-! ### What is acquired for reuse -/

variable {name : String} {again : Bool}

theorem acquired_cases (moved : d.Moves (.acquired false name again) d') :
    (again = true ∧ ∃ rest, d.pool.free = name :: rest) ∨
      (again = false ∧ d.pool.free = [] ∧
        name = variableName d.namespaces d.pool.type d.pool.entries.size) := by
  cases moved with
  | reused top => exact Or.inl ⟨rfl, _, top⟩
  | made none spelled => exact Or.inr ⟨rfl, none, spelled⟩

theorem Sound.again_iff (sound : d.Sound) (moved : d.Moves (.acquired false name again) d') :
    again = true ↔ ∃ other, d.pool.entries.get? other = some true := by
  simp only [← sound.free]
  rcases acquired_cases moved with ⟨again, rest, top⟩ | ⟨new, empty, _⟩
  · simp [again, top]
  · simp [new, empty]

theorem Records.latest (records : d.Records history)
    (moved : d.Moves (.acquired false name true) d') :
    (freed history).find? d.pool.isFree = some name := by
  obtain ⟨_, stack, _⟩ := records
  rcases acquired_cases moved with ⟨_, rest, top⟩ | ⟨new, _⟩
  · rw [top] at stack
    rw [← List.head?_filter, ← head?_eraseDups, ← stack, List.head?_cons]
  · cases new

theorem Sound.not_kept (sound : d.Sound) (moved : d.Moves (.acquired false name false) d') :
    name ∉ d.pool.entries.keys := by
  rcases acquired_cases moved with ⟨again, _⟩ | ⟨_, _, spelled⟩
  · cases again
  · rw [spelled]
    exact sound.fresh

theorem Sound.inUse_acquired (sound : d.Sound) (moved : d.Moves (.acquired false name again) d') :
    ¬ d.pool.InUse name ∧ d'.pool.InUse name := by
  cases moved with
  | reused top =>
    refine ⟨fun used => ?_, OrderedMap.get?_insert_self _ _ _⟩
    rw [Pool.InUse, sound.top_free top] at used
    cases used
  | made none spelled =>
    refine ⟨fun used => sound.fresh ?_, OrderedMap.get?_insert_self _ _ _⟩
    rw [← spelled]
    exact OrderedMap.mem_keys_of_get? used

theorem Sound.inUse_moves (sound : d.Sound) (used : d.pool.InUse name) (moved : d.Moves event d')
    (kept : event ≠ .released name true) : d'.pool.InUse name := by
  cases moved with
  | registered | counted | ignored => exact used
  | @reused other rest top =>
    have different : other ≠ name := by
      rintro rfl
      exact sound.not_free used (top ▸ List.mem_cons_self)
    exact (OrderedMap.get?_insert_of_ne _ _ different).trans used
  | @made other none spelled =>
    have different : other ≠ name := by
      rintro rfl
      exact sound.fresh (spelled ▸ OrderedMap.mem_keys_of_get? used)
    exact (OrderedMap.get?_insert_of_ne _ _ different).trans used
  | @freed other _ =>
    have different : other ≠ name := by
      rintro rfl
      exact kept rfl
    exact (OrderedMap.get?_insert_of_ne _ _ different).trans used

theorem Sound.inUse_run {calls : List Call} (sound : d.Sound) (schema : Registry)
    (used : d.pool.InUse name) (kept : Call.release name ∉ calls) :
    (d.run schema calls).2.pool.InUse name := by
  induction calls generalizing d with
  | nil => exact used
  | cons call rest ih =>
    have moved := moves_step schema d call
    have other : (d.step schema call).1 ≠ .released name true := by
      intro released
      cases call with
      | register | acquire => cases released
      | release given =>
        obtain ⟨rfl, _⟩ := Event.released.inj released
        exact kept List.mem_cons_self
    exact ih (sound.moves moved) (sound.inUse_moves used moved other)
      fun later => kept (List.mem_cons_of_mem call later)

/-- A name that was acquired for reuse is in use until it is released, so it is not acquired again. -/
theorem Sound.other_acquired (sound : d.Sound) (moved : d.Moves (.acquired false name again) d')
    (schema : Registry) {more : List Call} (kept : Call.release name ∉ more) :
    let later := (d'.run schema more).2
    (later.pool.acquire later.namespaces false).1.1 ≠ name := by
  intro later same
  have after := sound.moves moved
  have used := after.inUse_run schema (sound.inUse_acquired moved).2 kept
  rw [← same] at used
  exact ((after.run schema more).inUse_acquired (moves_acquire later false)).1 used

end Desk

open Desk

/-- Whatever has been asked of a pool and given back to it: the stack holds just the names that are
free, each of them once; a name that is used again is the latest released one that is still free,
and there is one unless no name is free; a new name is none that the pool keeps, as names of
different attempts are different; what was acquired for reuse is not handed out for reuse again
before it is released; as many names are in use as were acquired for reuse and not released since;
and names acquired in unique mode, and releases of names that are unknown or free, leave the names
and the stack alone. -/
theorem calls_keep_names (schema : Registry) {ns : Namespaces} {t : TypeId}
    (known : ns.contains t.space = true) (calls : List Call) :
    let history := (run schema (start ns t) calls).1
    let d := (run schema (start ns t) calls).2
    let taken := d.pool.acquire d.namespaces false
    (d.pool.free.Nodup ∧ ∀ name, name ∈ d.pool.free ↔ d.pool.entries.get? name = some true) ∧
    (taken.1.2 = true ↔ ∃ name, d.pool.entries.get? name = some true) ∧
    (taken.1.2 = true → (freed history).find? d.pool.isFree = some taken.1.1) ∧
    (taken.1.2 = false → taken.1.1 ∉ d.pool.entries.keys) ∧
    (∀ table u, Function.Injective (variableName table u)) ∧
    (∀ more, Call.release taken.1.1 ∉ more →
      let later := (run schema ⟨d.namespaces, taken.2⟩ more).2
      (later.pool.acquire later.namespaces false).1.1 ≠ taken.1.1) ∧
    d.pool.liveCount + (freed history).length = history.countP (Event.acquires false) ∧
    ((d.pool.acquire d.namespaces true).2.entries = d.pool.entries ∧
      (d.pool.acquire d.namespaces true).2.free = d.pool.free) ∧
    ∀ name, (d.pool.entries.get? name = none ∨ d.pool.entries.get? name = some true) →
      d.pool.release name = d.pool := by
  intro history d taken
  have records : d.Records history :=
    run_induction schema (fun records moved => records.moves moved) [] calls (records_start known)
  have sound := records.sound
  have moved : d.Moves (.acquired false taken.1.1 taken.1.2) { d with pool := taken.2 } :=
    moves_acquire d false
  refine ⟨⟨sound.nodup, sound.free⟩, sound.again_iff moved, ?_, ?_, ?_, ?_, records.live,
    ⟨rfl, rfl⟩, ?_⟩
  · intro again
    rw [again] at moved
    exact records.latest moved
  · intro new
    rw [new] at moved
    exact sound.not_kept moved
  · intro table u m n
    exact variableName_inj
  · intro more kept
    exact sound.other_acquired moved schema kept
  · rintro name (unknown | free)
    · exact if_neg (by simp [unknown])
    · exact if_neg (by simp [free])

def paragraph : TypeId := .plain "N" "Paragraph"

def paragraphSpaces : Namespaces := ⟨.ofList [("N", "")]⟩

def paragraphs : Registry :=
  ⟨.empty, .empty, .empty, .empty, [paragraph, .plain "M" "Paragraph"], Schema.standardRawKind,
    .standard⟩

/-- Two names are acquired and given back, one of them twice, with a unique name, a foreign name and
a registration in between. -/
def givenBack : List Call :=
  [.acquire false, .register (.type (.plain "M" "Paragraph")), .acquire false, .acquire true,
    .release "paragraph", .release "paragraph7", .release "paragraph1", .release "paragraph"]

/-- The release of a name that is free already does not make it the latest one. -/
theorem latest_acquired_again :
    paragraphSpaces.contains paragraph.space = true ∧
      ∃ history d, run paragraphs (start paragraphSpaces paragraph) givenBack = (history, d) ∧
        d.namespaces.aliasOf "M" = "M" ∧
        (d.pool.acquire d.namespaces false).1 = ("paragraph1", true) ∧
        (freed history).find? d.pool.isFree = some "paragraph1" ∧ d.pool.liveCount = 0 := by
  have known : paragraphSpaces.contains paragraph.space = true := by decide
  obtain ⟨_, _, latest, _, _, _, live, _⟩ := calls_keep_names paragraphs known givenBack
  have ends : ∃ history d, run paragraphs (start paragraphSpaces paragraph) givenBack = (history, d) ∧
      d.namespaces.aliasOf "M" = "M" ∧
      (d.pool.acquire d.namespaces false).1 = ("paragraph1", true) ∧
      (freed history).length = history.countP (Event.acquires false) :=
    ⟨_, _, rfl, by decide +kernel, by decide +kernel, by decide +kernel⟩
  obtain ⟨history, d, ran, aliased, taken, released⟩ := ends
  rw [ran] at latest live
  refine ⟨known, history, d, ran, aliased, taken, ?_, Nat.add_right_cancel (live.trans ?_)⟩
  · rw [latest (by rw [taken]), taken]
  · rw [← released, Nat.zero_add]

end Pool

end DocScript
