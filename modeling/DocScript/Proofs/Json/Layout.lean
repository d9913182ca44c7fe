import DocScript.Proofs.Json.Every
import DocScript.Proofs.Json.Tokens

/-!
# Layouts

A value is laid out over several lines or on one line. The layouts differ only in the spaces that
stand before items and members and behind colons, so the text divides into the same tokens.
-/

namespace DocScript.Json

section Layouts

/-- Where spaces stand: before an item or member at some depth, and between a name and its value. -/
structure Layout where
  gap : Nat → String
  afterColon : String
  blank_gap : ∀ depth, ∀ c ∈ (gap depth).toList, isSpace c = true
  blank_afterColon : ∀ c ∈ afterColon.toList, isSpace c = true

namespace Layout

mutual

def text (l : Layout) (depth : Nat) : Json → String
  | arr [] => "[]"
  | arr (x :: rest) =>
    "[" ++ l.gap (depth + 1) ++ l.text (depth + 1) x ++ l.itemTexts (depth + 1) rest
      ++ l.gap depth ++ "]"
  | obj [] => "\x7b\x7d"
  | obj ((k, x) :: rest) =>
    "\x7b" ++ l.gap (depth + 1) ++ stringText k ++ ":" ++ l.afterColon ++ l.text (depth + 1) x
      ++ l.memberTexts (depth + 1) rest ++ l.gap depth ++ "\x7d"
  | j => scalarText j

def itemTexts (l : Layout) (depth : Nat) : List Json → String
  | [] => ""
  | x :: rest => "," ++ l.gap depth ++ l.text depth x ++ l.itemTexts depth rest

def memberTexts (l : Layout) (depth : Nat) : List (String × Json) → String
  | [] => ""
  | (k, x) :: rest =>
    "," ++ l.gap depth ++ stringText k ++ ":" ++ l.afterColon ++ l.text depth x
      ++ l.memberTexts depth rest

end

/-- Over several lines. -/
def lines : Layout where
  gap := newLine
  afterColon := " "
  blank_gap depth c member := by
    simp only [newLine, String.toList_append, String.toList_ofList] at member
    rcases List.mem_append.mp member with line | space
    · rw [List.mem_singleton.mp line]
      rfl
    · rw [List.eq_of_mem_replicate space]
      rfl
  blank_afterColon c member := by
    rw [List.mem_singleton.mp member]
    rfl

/-- On one line and without spaces. -/
def line : Layout := ⟨fun _ => "", "", nofun, nofun⟩

mutual

theorem text_lines : ∀ (depth : Nat) (j : Json), lines.text depth j = prettyAt depth j
  | _, arr [] => rfl
  | depth, arr (x :: rest) => by
    rw [text, prettyAt, text_lines (depth + 1) x, itemTexts_lines (depth + 1) rest]
    rfl
  | _, obj [] => rfl
  | depth, obj ((k, x) :: rest) => by
    rw [text, prettyAt, text_lines (depth + 1) x, memberTexts_lines (depth + 1) rest]
    simp only [String.append_assoc]
    rfl
  | _, null | _, bool _ | _, int _ | _, float _ | _, str _ => rfl

theorem itemTexts_lines : ∀ (depth : Nat) (items : List Json),
    lines.itemTexts depth items = prettyItems depth items
  | _, [] => rfl
  | depth, x :: rest => by
    rw [itemTexts, prettyItems, text_lines depth x, itemTexts_lines depth rest]
    rfl

theorem memberTexts_lines : ∀ (depth : Nat) (members : List (String × Json)),
    lines.memberTexts depth members = prettyMembers depth members
  | _, [] => rfl
  | depth, (k, x) :: rest => by
    rw [memberTexts, prettyMembers, text_lines depth x, memberTexts_lines depth rest]
    simp only [String.append_assoc]
    rfl

end

mutual

theorem text_line : ∀ (depth : Nat) (j : Json), line.text depth j = compact j
  | _, arr [] => rfl
  | depth, arr (x :: rest) => by
    rw [text, compact, text_line (depth + 1) x, itemTexts_line (depth + 1) rest]
    simp [line]
  | _, obj [] => rfl
  | depth, obj ((k, x) :: rest) => by
    rw [text, compact, text_line (depth + 1) x, memberTexts_line (depth + 1) rest]
    simp [line]
  | _, null | _, bool _ | _, int _ | _, float _ | _, str _ => rfl

theorem itemTexts_line : ∀ (depth : Nat) (items : List Json),
    line.itemTexts depth items = compactItems items
  | _, [] => rfl
  | depth, x :: rest => by
    rw [itemTexts, compactItems, text_line depth x, itemTexts_line depth rest]
    simp [line]

theorem memberTexts_line : ∀ (depth : Nat) (members : List (String × Json)),
    line.memberTexts depth members = compactMembers members
  | _, [] => rfl
  | depth, (k, x) :: rest => by
    rw [memberTexts, compactMembers, text_line depth x, memberTexts_line depth rest]
    simp [line]

end

end Layout

end Layouts

mutual

/-- The tokens of a value, however it is laid out. -/
def tokens : Json → List Token
  | arr [] => [.mark '[', .mark ']']
  | arr (x :: rest) => .mark '[' :: (x.tokens ++ itemTokens rest ++ [.mark ']'])
  | obj [] => [.mark '\x7b', .mark '\x7d']
  | obj ((k, x) :: rest) =>
    .mark '\x7b' :: .value (str k) :: .mark ':' :: (x.tokens ++ memberTokens rest ++ [.mark '\x7d'])
  | j => [.value j]

def itemTokens : List Json → List Token
  | [] => []
  | x :: rest => .mark ',' :: (x.tokens ++ itemTokens rest)

def memberTokens : List (String × Json) → List Token
  | [] => []
  | (k, x) :: rest => .mark ',' :: .value (str k) :: .mark ':' :: (x.tokens ++ memberTokens rest)

end

/-- In front of a rest, a text is divided into some tokens. -/
def Divides (cs : List Char) (ts : List Token) (rest : List Char) : Prop :=
  tokens? (cs ++ rest) = (tokens? rest).map (ts ++ ·)

section Divides

variable {cs ds rest : List Char} {ts us : List Token}

theorem Divides.append (first : Divides cs ts (ds ++ rest)) (next : Divides ds us rest) :
    Divides (cs ++ ds) (ts ++ us) rest := by
  rw [Divides, List.append_assoc, first, next, Option.map_map]
  congr 1
  funext more
  exact (List.append_assoc ts us more).symm

theorem divides_mark (c : Char) (mark : isMark c = true) : Divides [c] [.mark c] rest :=
  tokens?_mark mark rest

theorem divides_blank (blank : ∀ c ∈ cs, isSpace c = true) : Divides cs [] rest := by
  rw [Divides, tokens?_spaces blank]
  cases tokens? rest <;> rfl

theorem divides_string (s : String) : Divides (stringText s).toList [.value (str s)] rest :=
  tokens?_string s rest

theorem Closes.append (h : Closes cs) (h' : Closes rest) : Closes (cs ++ rest) := by
  cases cs with
  | nil => exact h'
  | cons c cs => exact h

theorem closes_blank (blank : ∀ c ∈ cs, isSpace c = true) : Closes cs := by
  intro c member
  have space := blank c (List.mem_of_mem_head? member)
  simp only [isSpace, Bool.or_eq_true, beq_iff_eq] at space
  rcases space with ((rfl | rfl) | rfl) | rfl <;> decide

theorem closes_mark {c : Char} (mark : isMark c = true) : Closes (c :: cs) := by
  intro d member
  obtain rfl := Option.some.inj member
  simp only [isMark, Bool.or_eq_true, beq_iff_eq] at mark
  rcases mark with ((((rfl | rfl) | rfl) | rfl) | rfl) | rfl <;> decide

end Divides

namespace Layout

variable (l : Layout)

theorem closes_itemTexts (depth : Nat) (items : List Json) :
    Closes (l.itemTexts depth items).toList := by
  cases items with
  | nil => exact nofun
  | cons x rest =>
    simp only [itemTexts, String.toList_append, List.append_assoc]
    exact closes_mark rfl

theorem closes_memberTexts (depth : Nat) (members : List (String × Json)) :
    Closes (l.memberTexts depth members).toList := by
  cases members with
  | nil => exact nofun
  | cons m rest =>
    simp only [memberTexts, String.toList_append, List.append_assoc]
    exact closes_mark rfl

/-- The end of a list or object that is not empty. -/
theorem divides_end (depth : Nat) {c : Char} (mark : isMark c = true) {rest : List Char} :
    Divides ((l.gap depth).toList ++ [c]) [.mark c] rest :=
  (divides_blank (l.blank_gap depth)).append (divides_mark c mark)

theorem closes_end (depth : Nat) {c : Char} (mark : isMark c = true) (rest : List Char) :
    Closes ((l.gap depth).toList ++ [c] ++ rest) := by
  rw [List.append_assoc]
  exact (closes_blank (l.blank_gap depth)).append (closes_mark mark)

/-- A mark in front of a value, with spaces between them. -/
theorem divides_lead (depth : Nat) {c : Char} (mark : isMark c = true) {cs rest : List Char}
    {ts : List Token} (value : Divides cs ts rest) :
    Divides ([c] ++ ((l.gap depth).toList ++ cs)) (.mark c :: ts) rest :=
  (divides_mark c mark).append ((divides_blank (l.blank_gap depth)).append value)

theorem divides_name (k : String) {cs rest : List Char} {ts : List Token}
    (value : Divides cs ts rest) :
    Divides ((stringText k).toList ++ ([':'] ++ (l.afterColon.toList ++ cs)))
      (.value (str k) :: .mark ':' :: ts) rest :=
  (divides_string k).append <| (divides_mark ':' rfl).append <|
    (divides_blank l.blank_afterColon).append value

theorem toList_marks : "[".toList = ['['] ∧ "]".toList = [']'] ∧ "\x7b".toList = ['\x7b'] ∧
    "\x7d".toList = ['\x7d'] ∧ ",".toList = [','] ∧ ":".toList = [':'] :=
  ⟨rfl, rfl, rfl, rfl, rfl, rfl⟩

mutual

theorem divides_text : ∀ (j : Json) (depth : Nat) {rest : List Char}, Every isPrinted j →
    Closes rest → Divides (l.text depth j).toList j.tokens rest
  | arr [], depth, _, _, _ => by
    rw [text]
    exact (divides_mark '[' rfl).append (divides_mark ']' rfl)
  | arr (x :: xs), depth, rest, printed, closes => by
    obtain ⟨first, others⟩ := printed
    have last := l.closes_end depth (c := ']') rfl rest
    have close := (divides_itemTexts xs (depth + 1) others last).append (l.divides_end depth rfl)
    have after := (l.closes_itemTexts (depth + 1) xs).append last
    rw [← List.append_assoc] at after
    have parts := l.divides_lead (depth + 1) (c := '[') rfl
      ((divides_text x (depth + 1) first after).append close)
    simpa only [text, tokens, String.toList_append, List.append_assoc, toList_marks] using parts
  | obj [], depth, _, _, _ => by
    rw [text]
    exact (divides_mark '\x7b' rfl).append (divides_mark '\x7d' rfl)
  | obj ((k, x) :: ms), depth, rest, printed, closes => by
    obtain ⟨first, others⟩ := printed
    have last := l.closes_end depth (c := '\x7d') rfl rest
    have close := (divides_memberTexts ms (depth + 1) others last).append (l.divides_end depth rfl)
    have after := (l.closes_memberTexts (depth + 1) ms).append last
    rw [← List.append_assoc] at after
    have parts := l.divides_lead (depth + 1) (c := '\x7b') rfl
      (l.divides_name k ((divides_text x (depth + 1) first after).append close))
    simpa only [text, tokens, String.toList_append, List.append_assoc, toList_marks] using parts
  | null, _, _, printed, closes => tokens?_scalar (j := null) rfl printed closes
  | bool b, _, _, printed, closes => tokens?_scalar (j := bool b) rfl printed closes
  | int n, _, _, printed, closes => tokens?_scalar (j := int n) rfl printed closes
  | float x, _, _, printed, closes => tokens?_scalar (j := float x) rfl printed closes
  | str s, _, _, printed, closes => tokens?_scalar (j := str s) rfl printed closes

theorem divides_itemTexts : ∀ (items : List Json) (depth : Nat) {rest : List Char},
    EveryItem isPrinted items → Closes rest →
    Divides (l.itemTexts depth items).toList (itemTokens items) rest
  | [], _, _, _, _ => divides_blank nofun
  | x :: xs, depth, _, printed, closes => by
    obtain ⟨first, others⟩ := printed
    have after := (l.closes_itemTexts depth xs).append closes
    have parts := l.divides_lead depth (c := ',') rfl
      ((divides_text x depth first after).append (divides_itemTexts xs depth others closes))
    simpa only [itemTexts, itemTokens, String.toList_append, List.append_assoc, toList_marks]
      using parts

theorem divides_memberTexts : ∀ (members : List (String × Json)) (depth : Nat) {rest : List Char},
    EveryMember isPrinted members → Closes rest →
    Divides (l.memberTexts depth members).toList (memberTokens members) rest
  | [], _, _, _, _ => divides_blank nofun
  | (k, x) :: ms, depth, _, printed, closes => by
    obtain ⟨first, others⟩ := printed
    have after := (l.closes_memberTexts depth ms).append closes
    have parts := l.divides_lead depth (c := ',') rfl (l.divides_name k
      ((divides_text x depth first after).append (divides_memberTexts ms depth others closes)))
    simpa only [memberTexts, memberTokens, String.toList_append, List.append_assoc, toList_marks]
      using parts

end

end Layout

end DocScript.Json
