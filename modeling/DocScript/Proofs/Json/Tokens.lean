import DocScript.Proofs.Json.Numeral

/-!
# Printed text divides into tokens

A printed value is divided into the marks and values that it was printed from, whatever spaces
stand between them. The two layouts, over several lines and on one line, differ in these spaces
only.
-/

namespace DocScript.Json

open Numeral Text

section Tokens

theorem tokens?_eq (cs : List Char) : tokens? cs =
    match cs.dropWhile isSpace with
    | [] => some []
    | c :: cs' => (token? (c :: cs')).bind fun t => (tokens? t.2).map (t.1 :: ·) := by
  rw [tokens?]
  split
  · next empty => rw [empty]
  · next c cs' start =>
    rw [start]
    dsimp only
    split
    · next none => rw [none]; rfl
    · next t rest found => rw [found]; rfl

theorem tokens?_nil : tokens? [] = some [] := by
  rw [tokens?_eq]
  rfl

theorem tokens?_space {c : Char} (space : isSpace c = true) (rest : List Char) :
    tokens? (c :: rest) = tokens? rest := by
  rw [tokens?_eq, List.dropWhile_cons_of_pos space, ← tokens?_eq]

theorem tokens?_spaces {spaces : List Char} (blank : ∀ c ∈ spaces, isSpace c = true)
    (rest : List Char) : tokens? (spaces ++ rest) = tokens? rest := by
  induction spaces with
  | nil => rfl
  | cons c spaces ih =>
    rw [List.cons_append, tokens?_space (blank c List.mem_cons_self)]
    exact ih fun d member => blank d (List.mem_cons_of_mem _ member)

theorem tokens?_token {c : Char} {cs rest : List Char} {t : Token} (full : isSpace c = false)
    (first : token? (c :: cs) = some (t, rest)) :
    tokens? (c :: cs) = (tokens? rest).map (t :: ·) := by
  rw [tokens?_eq, List.dropWhile_cons_of_neg (by simp [full])]
  dsimp only
  rw [first, Option.bind_some]

/-- Marks are tokens of one character. -/
def isMark (c : Char) : Bool :=
  c == '[' || c == ']' || c == '\x7b' || c == '\x7d' || c == ',' || c == ':'

theorem tokens?_mark {c : Char} (mark : isMark c = true) (rest : List Char) :
    tokens? (c :: rest) = (tokens? rest).map (.mark c :: ·) := by
  refine tokens?_token ?_ (if_pos mark)
  revert mark
  simp only [isMark, isSpace, Bool.or_eq_true, beq_iff_eq]
  rintro (((((rfl | rfl) | rfl) | rfl) | rfl) | rfl) <;> rfl

end Tokens

section Strings

theorem hexValue?_hexDigit {n : Nat} (small : n < 16) : hexValue? (hexDigit n) = some n := by
  decide +revert

theorem hexQuad?_escape {c : Char} (small : c.toNat < 0x20) :
    hexQuad? '0' '0' (hexDigit (c.toNat / 16)) (hexDigit (c.toNat % 16)) = some c.toNat := by
  have high : hexValue? (hexDigit (c.toNat / 16)) = some (c.toNat / 16) :=
    hexValue?_hexDigit (by omega)
  have low : hexValue? (hexDigit (c.toNat % 16)) = some (c.toNat % 16) :=
    hexValue?_hexDigit (by omega)
  have zero : hexValue? '0' = some 0 := rfl
  simp [hexQuad?, high, low, zero, Nat.div_add_mod']

theorem hexDigits_control {n : Nat} (small : n < 0x20) :
    hexDigits 4 n = ['0', '0', hexDigit (n / 16), hexDigit (n % 16)] := by
  decide +revert

theorem stringBody?_escape {e c : Char} (escape : escaped? e = some c) (rest : List Char) :
    stringBody? ('\\' :: e :: rest) = (stringBody? rest).map fun p => (c :: p.1, p.2) := by
  have letter : e ≠ 'u' := by
    rintro rfl
    cases escape
  rw [stringBody?]
  · simp only [show ('\\' == '"') = false from rfl, show ('\\' == '\\') = true from rfl, if_true,
      Bool.false_eq_true, if_false, escape, Option.bind_eq_bind, Option.bind_some]
    cases stringBody? rest <;> rfl
  · exact fun _ _ _ _ _ same _ => letter same

theorem stringBody?_unicode {a b c d : Char} {n : Nat} (quad : hexQuad? a b c d = some n)
    (plain : n < 0xD800) (rest : List Char) : stringBody? ('\\' :: 'u' :: a :: b :: c :: d :: rest) =
      (stringBody? rest).map fun p => (Char.ofNat n :: p.1, p.2) := by
  rw [stringBody?]
  simp only [show ('\\' == '"') = false from rfl, show ('\\' == '\\') = true from rfl, if_true,
    Bool.false_eq_true, if_false, quad, Option.bind_eq_bind, Option.bind_some]
  rw [if_neg (by omega), if_neg (by omega)]
  cases stringBody? rest <;> rfl

theorem stringBody?_plain {c : Char} (quote : c ≠ '"') (slash : c ≠ '\\') (shown : ¬ c.toNat < 0x20)
    (rest : List Char) :
    stringBody? (c :: rest) = (stringBody? rest).map fun p => (c :: p.1, p.2) := by
  rw [stringBody?.eq_def]
  simp only [beq_iff_eq, quote, slash, shown, if_false, Option.bind_eq_bind]
  cases stringBody? rest <;> rfl

theorem stringBody?_escapedChar (c : Char) (rest : List Char) :
    stringBody? (escapedChar c ++ rest) = (stringBody? rest).map fun p => (c :: p.1, p.2) := by
  unfold escapedChar
  simp only [beq_iff_eq, Bool.or_eq_true]
  split_ifs with special line carriage tab back feed control
  · rcases special with rfl | rfl <;> exact stringBody?_escape rfl rest
  · exact line ▸ stringBody?_escape rfl rest
  · exact carriage ▸ stringBody?_escape rfl rest
  · exact tab ▸ stringBody?_escape rfl rest
  · exact back ▸ stringBody?_escape rfl rest
  · exact feed ▸ stringBody?_escape rfl rest
  · have read := stringBody?_unicode (hexQuad?_escape control) (by omega) rest
    rw [Char.ofNat_toNat] at read
    rw [hexDigits_control control]
    exact read
  · exact stringBody?_plain (fun e => special (Or.inl e)) (fun e => special (Or.inr e)) control rest

theorem stringBody?_escaped (cs rest : List Char) :
    stringBody? (cs.flatMap escapedChar ++ '"' :: rest) = some (cs, rest) := by
  induction cs with
  | nil =>
    rw [List.flatMap_nil, List.nil_append, stringBody?.eq_def]
    rfl
  | cons c cs ih =>
    rw [List.flatMap_cons, List.append_assoc, stringBody?_escapedChar, ih]
    rfl

theorem tokens?_string (s : String) (rest : List Char) :
    tokens? ((stringText s).toList ++ rest) = (tokens? rest).map (.value (str s) :: ·) := by
  have body := stringBody?_escaped s.toList rest
  rw [stringText, String.toList_ofList, List.cons_append, List.cons_append, List.append_assoc]
  refine tokens?_token rfl ?_
  change (stringBody? (s.toList.flatMap escapedChar ++ '"' :: rest) >>= _) = _
  rw [body]
  simp

end Strings

section Scalars

/-- A value without parts that has a text of its own: numbers are finite, and integers are not too
long to be read. -/
def isPrinted : Json → Prop
  | int n => (Nat.toDigits 10 n.natAbs).length ≤ maxDigits
  | float (.finite _) => True
  | float _ => False
  | _ => True

theorem isPrinted_int {n : Int} : isPrinted (int n) ↔ n.natAbs < 10 ^ maxDigits :=
  Nat.length_toDigits_le_iff (by decide) (by decide)

theorem number?_digit {negative : Bool} {cs rest : List Char} {j : Json}
    (read : number? negative cs = some (j, rest)) : ∃ d ds, cs = d :: ds ∧ d.isDigit = true := by
  cases cs with
  | nil => cases read
  | cons d ds =>
    refine ⟨d, ds, rfl, ?_⟩
    by_contra letter
    have run : (digitRun (d :: ds)).1 = [] := List.takeWhile_cons_of_neg letter
    rw [number?] at read
    simp [run] at read

/-- No word starts like a numeral. -/
theorem words_numeral {d : Char} (digit : d.isDigit = true) (rest : List Char) :
    (words.findSome? fun (w, j) => (skipWord? w (d :: rest)).map (j, ·)) = none ∧
      (words.findSome? fun (w, j) => (skipWord? w ('-' :: d :: rest)).map (j, ·)) = none := by
  have ne (c : Char) (letter : c.isDigit = false) : c ≠ d := by
    rintro rfl
    rw [letter] at digit
    cases digit
  simp [words, skipWord?, ne]

theorem token?_numeral {c : Char} {rest : List Char} (mark : isMark c = false) (quote : c ≠ '"')
    (word : (words.findSome? fun (w, j) => (skipWord? w (c :: rest)).map (j, ·)) = none) :
    token? (c :: rest) = (if c == '-' then number? true rest else number? false (c :: rest)).map
      fun (j, rest) => (.value j, rest) := by
  unfold token?
  dsimp only
  change (if isMark c then _ else _) = _
  rw [if_neg (by simp [mark]), if_neg (by simp [quote]), word]

/-- Nothing but numerals starts with a digit or a minus. -/
theorem tokens?_numeral {negative : Bool} {cs rest : List Char} {j : Json}
    (read : number? negative cs = some (j, rest)) :
    tokens? ((if negative then ['-'] else []) ++ cs) = (tokens? rest).map (.value j :: ·) := by
  obtain ⟨d, ds, rfl, digit⟩ := number?_digit read
  obtain ⟨plain, minus⟩ := words_numeral digit ds
  cases negative with
  | true =>
    refine tokens?_token rfl ?_
    change token? ('-' :: d :: ds) = _
    rw [token?_numeral rfl (by decide) minus, if_pos (beq_self_eq_true _), read]
    rfl
  | false =>
    have ne (c : Char) (letter : c.isDigit = false) : d ≠ c := by
      rintro rfl
      rw [letter] at digit
      cases digit
    refine tokens?_token (by simp [isSpace, ne]) ?_
    rw [token?_numeral (by simp [isMark, ne]) (ne _ rfl) plain, if_neg (by simp [ne]), read]
    rfl

theorem tokens?_int {n : Int} (short : isPrinted (int n)) {rest : List Char} (closes : Closes rest) :
    tokens? ((intText n).toList ++ rest) = (tokens? rest).map (.value (int n) :: ·) := by
  have read := number?_int (decide (n < 0)) (digits_toDigits n.natAbs) (leads_toDigits n.natAbs)
    short closes
  have value : signed (decide (n < 0)) n.natAbs = n := by
    rw [signed]
    simp only [decide_eq_true_eq]
    split <;> omega
  have text : (intText n).toList =
      (if decide (n < 0) then ['-'] else []) ++ Nat.toDigits 10 n.natAbs := by
    by_cases below : n < 0 <;> simp [intText, below, String.toList_append, Nat.toList_repr]
  rw [Nat.ofDigitChars_ten_toDigits, value] at read
  rw [text, List.append_assoc]
  exact tokens?_numeral read

theorem tokens?_float (x : Finite64) {rest : List Char} (closes : Closes rest) :
    tokens? ((storedStyle.text x).toList ++ rest) =
      (tokens? rest).map (.value (float (.finite x)) :: ·) := by
  have read := number?_magnitude storedStyle x.negative (s := x.shortest)
    Scientific.normalize_exponent closes
  have text : (storedStyle.text x).toList =
      (if x.negative then ['-'] else []) ++ (storedStyle.magnitude x.shortest).toList := by
    rw [FloatStyle.text, String.toList_append]
    cases x.negative <;> rfl
  rw [x.ofDecimal_shortest] at read
  rw [text, List.append_assoc]
  exact tokens?_numeral read

/-- The value has no items and no members. -/
def isScalar : Json → Bool
  | arr _ | obj _ => false
  | _ => true

theorem tokens?_scalar {j : Json} (scalar : isScalar j = true) (printed : isPrinted j)
    {rest : List Char} (closes : Closes rest) :
    tokens? ((scalarText j).toList ++ rest) = (tokens? rest).map (.value j :: ·) := by
  cases j with
  | null => exact tokens?_token rfl rfl
  | bool b => cases b <;> exact tokens?_token rfl rfl
  | int n => exact tokens?_int printed closes
  | float x =>
    cases x with
    | finite x => exact tokens?_float x closes
    | nan => exact printed.elim
    | infinite negative => exact printed.elim
  | str s => exact tokens?_string s rest
  | arr items => cases scalar
  | obj members => cases scalar

end Scalars

end DocScript.Json
