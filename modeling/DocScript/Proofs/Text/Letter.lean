import Mathlib.Data.List.Sort
import Mathlib.Data.List.TakeWhile
import DocScript.Proofs.Naming.Spelling

/-!
# Letters stay letters

The mappings to upper and to lower case begin with a letter if and only if they map a letter. The
one exception is the iota subscript, a mark that becomes a capital letter. The tables are compared
run by run: each run of a table that maps letters lies in a run of letters, and so does what it
maps to.
-/

namespace DocScript.Text

def isLetterCode (n : Nat) : Bool := alphabetic.any (·.contains n)

theorem isLetter_eq (c : Char) : isLetter c = isLetterCode c.toNat := rfl

/-! ### Runs among the runs of a class -/

section Runs

variable {r q : CodeRun} {rs qs : List CodeRun} {n : Nat}

theorem CodeRun.contains_iff :
    r.contains n = true ↔ (r.first ≤ n ∧ n ≤ r.last) ∧ (n - r.first) % r.stride = 0 := by
  simp [contains]

/-- The whole run lies in one without gaps. -/
def CodeRun.within (r q : CodeRun) : Bool :=
  Nat.beq q.stride 1 && (Nat.ble q.first r.first && Nat.ble r.last q.last)

theorem CodeRun.contains_of_within (inside : r.within q = true) (member : r.contains n = true) :
    q.contains n = true := by
  simp only [within, Bool.and_eq_true, Nat.beq_eq, Nat.ble_eq] at inside
  rw [contains_iff] at member ⊢
  rw [inside.1]
  omega

/-- Goes through the runs of a class in order and drops what lies in each; nothing is left of runs
that stand in order and each lie in one of the class. -/
def covers : List CodeRun → List CodeRun → Bool
  | [], rs => rs.isEmpty
  | q :: qs, rs => covers qs (rs.dropWhile (·.within q))

theorem any_contains_of_covers (covered : covers qs rs = true) (listed : r ∈ rs)
    (member : r.contains n = true) : qs.any (·.contains n) = true := by
  fun_induction covers qs rs with
  | case1 rs =>
    rw [List.isEmpty_iff.mp covered] at listed
    cases listed
  | case2 q qs rs ih =>
    rw [List.any_cons, Bool.or_eq_true]
    rw [← List.takeWhile_append_dropWhile (p := (·.within q)) (l := rs), List.mem_append] at listed
    rcases listed with taken | left
    · have inside : r.within q = true := List.mem_takeWhile_imp (p := (CodeRun.within · q)) taken
      exact Or.inl (CodeRun.contains_of_within inside member)
    · exact Or.inr (ih covered left)

end Runs

/-! ### The tables of case mappings -/

/-- The code that a shift maps a code to. -/
def CaseShift.apply (s : CaseShift) (n : Nat) : Nat := (n + s.shift).toNat

/-- A run around the codes that a shift maps to. -/
def CaseShift.image (s : CaseShift) : CodeRun := ⟨s.apply s.run.first, s.apply s.run.last, 1⟩

/-- Letters are mapped to letters. -/
def CaseShift.Letters (s : CaseShift) : Prop :=
  ∀ n, s.run.contains n = true → isLetterCode n = true ∧ isLetterCode (s.apply n) = true

def sortedRuns (rs : List CodeRun) : List CodeRun :=
  rs.insertionSort fun r q => Nat.ble r.first q.first = true

/-- The runs of the shifts and those that they map to are covered by the letters. -/
def lettered (shifts : List CaseShift) : Bool :=
  covers alphabetic (shifts.map (·.run)) && covers alphabetic (sortedRuns (shifts.map (·.image)))

theorem letters_of_lettered {shifts : List CaseShift} (checked : lettered shifts = true)
    {s : CaseShift} (listed : s ∈ shifts) : s.Letters := by
  rw [lettered, Bool.and_eq_true] at checked
  intro n member
  have mapped : s.image.contains (s.apply n) = true := by
    rw [CodeRun.contains_iff] at member ⊢
    simp only [CaseShift.image, CaseShift.apply, Nat.mod_one, and_true]
    omega
  refine ⟨any_contains_of_covers checked.1 (List.mem_map_of_mem listed) member, ?_⟩
  exact any_contains_of_covers checked.2
    ((List.mem_insertionSort _).mpr (List.mem_map_of_mem listed)) mapped

/-- The shift is one of those whose runs start at some codes. -/
def CaseShift.startsAt (starts : List Nat) (s : CaseShift) : Bool := starts.any (Nat.beq s.run.first)

/-- A shift by its bounds. -/
def shift (first last stride : Nat) (distance : Int) : CaseShift := ⟨⟨first, last, stride⟩, distance⟩

theorem contains_shift {first last stride n : Nat} {distance : Int}
    (member : (shift first last stride distance).run.contains n = true) :
    (first ≤ n ∧ n ≤ last) ∧ (n - first) % stride = 0 := CodeRun.contains_iff.mp member

/-- Roman numerals and letters in circles have capitals, and none of them is a letter. -/
def Enclosed (n : Nat) : Prop := 0x2160 ≤ n ∧ n ≤ 0x217F ∨ 0x24B6 ≤ n ∧ n ≤ 0x24E9

theorem Enclosed.isLetterCode {n : Nat} (enclosed : Enclosed n) : isLetterCode n = false := by
  have apart : alphabetic.all (fun q =>
      (Nat.blt q.last 0x2160 || Nat.blt 0x217F q.first) &&
        (Nat.blt q.last 0x24B6 || Nat.blt 0x24E9 q.first)) = true := by decide +kernel
  rw [Text.isLetterCode, List.any_eq_false]
  intro q listed inside
  have sides := List.all_eq_true.mp apart q listed
  simp only [Bool.and_eq_true, Bool.or_eq_true, Nat.blt_eq] at sides
  rw [CodeRun.contains_iff] at inside
  unfold Enclosed at enclosed
  omega

/-- What is mapped are numerals or letters in circles, and so is what they are mapped to. -/
def CaseShift.Encloses (s : CaseShift) : Prop :=
  ∀ n, s.run.contains n = true → Enclosed n ∧ Enclosed (s.apply n)

theorem CaseShift.Encloses.isLetterCode {s : CaseShift} (h : s.Encloses) {n : Nat}
    (member : s.run.contains n = true) : Text.isLetterCode n = false ∧
      Text.isLetterCode (s.apply n) = false :=
  ⟨(h n member).1.isLetterCode, (h n member).2.isLetterCode⟩

/-- Letters that lie apart from those before and after them. -/
def scattered : List Nat :=
  [0x3C9, 0x1F51, 0x1F53, 0x1F55, 0x1F57, 0x1F59, 0x1F5B, 0x1F5D, 0x1F5F, 0x2126]

theorem isLetterCode_scattered : ∀ n ∈ scattered, isLetterCode n = true := by decide +kernel

theorem letters_of_scattered {s : CaseShift}
    (listed : ∀ n, s.run.contains n = true → n ∈ scattered ∧ s.apply n ∈ scattered) : s.Letters :=
  fun n member => ⟨isLetterCode_scattered n (listed n member).1,
    isLetterCode_scattered _ (listed n member).2⟩

/-- A shift of a table maps letters or is one of those that are looked at by themselves. -/
theorem letters_or_mem {shifts rest : List CaseShift} {starts : List Nat}
    (checked : lettered (shifts.filter fun s => !s.startsAt starts) = true)
    (others : shifts.filter (·.startsAt starts) = rest) {s : CaseShift} (listed : s ∈ shifts) :
    s.Letters ∨ s ∈ rest := by
  cases kept : s.startsAt starts with
  | false =>
    exact Or.inl (letters_of_lettered checked (List.mem_filter.mpr ⟨listed, by rw [kept]; rfl⟩))
  | true => exact Or.inr (others ▸ List.mem_filter.mpr ⟨listed, kept⟩)

/-- The mark below a letter that becomes a letter beside it in upper case. -/
def iotaSubscript : Char := '\u0345'

theorem upperShifts_cases {s : CaseShift} (listed : s ∈ upperShifts) :
    s.Letters ∨ s.Encloses ∨ s = shift 0x345 0x345 1 84 := by
  have checked : lettered (upperShifts.filter fun s =>
      !s.startsAt [0x345, 0x1F51, 0x2170, 0x24D0]) = true := by decide +kernel
  have others : upperShifts.filter (·.startsAt [0x345, 0x1F51, 0x2170, 0x24D0]) =
      [shift 0x345 0x345 1 84, shift 0x1F51 0x1F57 2 8, shift 0x2170 0x217F 1 (-16),
        shift 0x24D0 0x24E9 1 (-26)] := by decide +kernel
  rcases letters_or_mem checked others listed with letters | member
  · exact Or.inl letters
  · simp only [List.mem_cons, List.not_mem_nil, or_false] at member
    rcases member with iota | rfl | rfl | rfl
    · exact Or.inr (Or.inr iota)
    · refine Or.inl (letters_of_scattered fun n member => ?_)
      have bounds := contains_shift member
      simp only [scattered, CaseShift.apply, shift, List.mem_cons, List.not_mem_nil, or_false]
      omega
    all_goals
      refine Or.inr (Or.inl fun n member => ?_)
      have bounds := contains_shift member
      simp only [Enclosed, CaseShift.apply, shift]
      omega

theorem lowerShifts_cases {s : CaseShift} (listed : s ∈ lowerShifts) : s.Letters ∨ s.Encloses := by
  have checked : lettered (lowerShifts.filter fun s =>
      !s.startsAt [0x1F59, 0x2126, 0x2160, 0x24B6]) = true := by decide +kernel
  have others : lowerShifts.filter (·.startsAt [0x1F59, 0x2126, 0x2160, 0x24B6]) =
      [shift 0x1F59 0x1F5F 2 (-8), shift 0x2126 0x2126 1 (-7517), shift 0x2160 0x216F 1 16,
        shift 0x24B6 0x24CF 1 26] := by decide +kernel
  rcases letters_or_mem checked others listed with letters | member
  · exact Or.inl letters
  · simp only [List.mem_cons, List.not_mem_nil, or_false] at member
    rcases member with rfl | rfl | rfl | rfl
    iterate 2
      refine Or.inl (letters_of_scattered fun n member => ?_)
      have bounds := contains_shift member
      simp only [scattered, CaseShift.apply, shift, List.mem_cons, List.not_mem_nil, or_false]
      omega
    all_goals
      refine Or.inr fun n member => ?_
      have bounds := contains_shift member
      simp only [Enclosed, CaseShift.apply, shift]
      omega

/-- Special cases map letters to texts that begin with letters. -/
def specialLetters (specials : List (Nat × List Nat)) : Bool :=
  covers alphabetic (specials.map fun e => ⟨e.1, e.1, 1⟩) &&
    covers alphabetic (sortedRuns (specials.map fun e => ⟨e.2.headD 0, e.2.headD 0, 1⟩))

theorem letters_of_specialLetters {specials : List (Nat × List Nat)}
    (checked : specialLetters specials = true) {e : Nat × List Nat} (listed : e ∈ specials) :
    isLetterCode e.1 = true ∧ isLetterCode (e.2.headD 0) = true := by
  have own (n : Nat) : CodeRun.contains ⟨n, n, 1⟩ n = true := by simp [CodeRun.contains]
  rw [specialLetters, Bool.and_eq_true] at checked
  refine ⟨any_contains_of_covers checked.1 (List.mem_map_of_mem listed) (own e.1), ?_⟩
  exact any_contains_of_covers checked.2
    ((List.mem_insertionSort _).mpr (List.mem_map_of_mem listed)) (own _)

/-! ### Texts that begin with a letter -/

theorem isLetter_ofNat (n : Nat) : isLetter (Char.ofNat n) = isLetterCode n := by
  have valid : alphabetic.all (fun q =>
      Nat.blt q.last 0xD800 || (Nat.blt 0xDFFF q.first && Nat.blt q.last 0x110000)) = true := by
    decide +kernel
  by_cases scalar : n.isValidChar
  · have code : (Char.ofNat n).toNat = n := by rw [Char.ofNat, dif_pos scalar]; rfl
    rw [isLetter_eq, code]
  · have code : (Char.ofNat n).toNat = 0 := by rw [Char.ofNat, dif_neg scalar]; rfl
    have none : isLetterCode n = false := by
      rw [isLetterCode, List.any_eq_false]
      intro q listed inside
      have bounds := List.all_eq_true.mp valid q listed
      simp only [Bool.or_eq_true, Bool.and_eq_true, Nat.blt_eq] at bounds
      rw [CodeRun.contains_iff] at inside
      exact scalar (by unfold Nat.isValidChar; omega)
    rw [isLetter_eq, code, none]
    decide +kernel

/-- The first character is a letter. -/
def leads (cs : List Char) : Bool := cs.head?.any isLetter

theorem leads_cons (c : Char) (cs : List Char) : leads (c :: cs) = isLetter c := rfl

theorem leads_append {cs ds : List Char} (filled : cs ≠ []) : leads (cs ++ ds) = leads cs := by
  cases cs with
  | nil => exact (filled rfl).elim
  | cons c cs => rfl

theorem leads_ofNat (codes : List Nat) (filled : codes ≠ []) :
    leads (codes.map Char.ofNat) = isLetterCode (codes.headD 0) := by
  cases codes with
  | nil => exact (filled rfl).elim
  | cons n codes => exact isLetter_ofNat n

/-- What a character is mapped to begins with a letter if all entries for it say so. -/
theorem leads_mapCase {shifts : List CaseShift} {specials : List (Nat × List Nat)} {c : Char}
    {letter : Bool}
    (special : ∀ e ∈ specials, e.1 = c.toNat → e.2 ≠ [] ∧ isLetterCode (e.2.headD 0) = letter)
    (shift : ∀ s ∈ shifts, s.run.contains c.toNat = true → isLetterCode (s.apply c.toNat) = letter)
    (plain : (∀ s ∈ shifts, ¬ s.run.contains c.toNat = true) → isLetter c = letter) :
    leads (mapCase shifts specials c) = letter := by
  unfold mapCase
  split
  · next codes found =>
    obtain ⟨filled, same⟩ := special _ (lookup_mem found) rfl
    rw [leads_ofNat codes filled, same]
  · split
    · next s found =>
      have member := List.find?_some found
      rw [leads_cons, isLetter_ofNat]
      exact shift s (List.mem_of_find?_eq_some found) member
    · next none => exact plain (List.find?_eq_none.mp none)

theorem leads_lowerChar (c : Char) : leads (lowerChar c) = isLetter c := by
  have checked : specialLetters lowerSpecials = true := by decide +kernel
  have filled : ∀ e ∈ lowerSpecials, e.2 ≠ [] := by decide
  refine leads_mapCase (fun e listed same => ?_) (fun s listed member => ?_) fun _ => rfl
  · have letters := letters_of_specialLetters checked listed
    exact ⟨filled e listed, by rw [isLetter_eq, ← same, letters.1, letters.2]⟩
  · rcases lowerShifts_cases listed with letters | encloses
    · rw [isLetter_eq, (letters _ member).1, (letters _ member).2]
    · rw [isLetter_eq, (encloses.isLetterCode member).1, (encloses.isLetterCode member).2]

theorem leads_upperChar (c : Char) :
    leads (upperChar c) = (isLetter c || c == iotaSubscript) := by
  have checked : specialLetters upperSpecials = true := by decide +kernel
  have filled : ∀ e ∈ upperSpecials, e.2 ≠ [] := by decide
  have iota (same : c = iotaSubscript) : c.toNat = 0x345 := congrArg Char.toNat same
  refine leads_mapCase (fun e listed same => ?_) (fun s listed member => ?_) fun none => ?_
  · have letters := letters_of_specialLetters checked listed
    rw [same] at letters
    exact ⟨filled e listed, by rw [isLetter_eq, letters.1, letters.2, Bool.true_or]⟩
  · rcases upperShifts_cases listed with letters | encloses | rfl
    · rw [isLetter_eq, (letters _ member).1, (letters _ member).2, Bool.true_or]
    · have other : (c == iotaSubscript) = false := beq_eq_false_iff_ne.mpr fun same => by
        have enclosed := (encloses _ member).1
        unfold Enclosed at enclosed
        have := iota same
        omega
      rw [isLetter_eq, (encloses.isLetterCode member).1, (encloses.isLetterCode member).2, other]
      rfl
    · have bounds := contains_shift member
      have code : c.toNat = 0x345 := by omega
      have same : c = iotaSubscript := Char.toNat_inj.mp code
      rw [same]
      decide +kernel
  · have listed : shift 0x345 0x345 1 84 ∈ upperShifts := by decide +kernel
    have other : c ≠ iotaSubscript := fun same =>
      none _ listed (by rw [iota same]; rfl)
    rw [beq_eq_false_iff_ne.mpr other, Bool.or_false]

theorem leads_upper (s : String) : leads (upper s).toList =
    s.toList.head?.any fun c => isLetter c || c == iotaSubscript := by
  rw [upper, String.toList_ofList]
  cases s.toList with
  | nil => rfl
  | cons c rest =>
    rw [List.flatMap_cons, leads_append (upperChar_ne_nil c), leads_upperChar]
    rfl

theorem leads_lower (s : String) : leads (lower s).toList = leads s.toList := by
  rw [lower, String.toList_ofList]
  cases s.toList with
  | nil => rfl
  | cons c rest =>
    rw [lowerFrom, leads_cons]
    split
    · next sigma =>
      have same : c = capitalSigma := by
        rw [Bool.and_eq_true, Bool.and_eq_true, beq_iff_eq] at sigma
        exact sigma.1.1
      have letters : isLetter 'ς' = true ∧ isLetter capitalSigma = true := by decide +kernel
      rw [same, leads_append (List.cons_ne_nil _ _), leads_cons, letters.1, letters.2]
    · rw [leads_append (lowerChar_ne_nil c), leads_lowerChar]

theorem lower_eq_empty_iff {s : String} : lower s = "" ↔ s = "" := by
  constructor
  · intro empty
    have chars := String.toList_eq_nil_iff.mpr empty
    rw [lower, String.toList_ofList] at chars
    cases given : s.toList with
    | nil => exact String.toList_eq_nil_iff.mp given
    | cons c rest =>
      rw [given, lowerFrom, List.append_eq_nil_iff] at chars
      have first := chars.1
      split at first
      · cases first
      · exact (lowerChar_ne_nil c first).elim
  · rintro rfl
    rfl

theorem leads_camelCase (s : String) : leads (camelCase s).toList = leads s.toList := by
  rw [toList_camelCase]
  split
  · next none => rw [none]
  · next c rest some =>
    rw [some]
    split
    · rfl
    · rw [leads_append (lowerChar_ne_nil c), leads_lowerChar, leads_cons]

end DocScript.Text
