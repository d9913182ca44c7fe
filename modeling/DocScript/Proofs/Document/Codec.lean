import DocScript.Document.Load
import DocScript.Proofs.Element.Plan
import DocScript.Proofs.Schema.Codec

/-!
# Documents survive being saved

A model that was read from a text with finite numbers only is written as a text from which the same
model is read: its element trees with their raw values, its parts under their addresses and with
their bytes, its rules for markup compatibility, whatever spelling was used for them.
-/

namespace DocScript

open Json

theorem MarkupRules.saves (m : MarkupRules) : Saves 1 ofJson toJson m := by
  intro n j enough legible read
  rw [ofJson, model_eq_valid] at read
  obtain ⟨_, read⟩ := read
  simp only [Checked.seq_eq_valid, Checked.map_eq_valid] at read
  obtain ⟨_, understand, ⟨_, attributes, ⟨_, elements, ⟨_, process, ⟨ignorable, first, rfl⟩, second,
    rfl⟩, third, rfl⟩, fourth, rfl⟩, fifth, rfl⟩ := read
  obtain ⟨k, rfl⟩ := Nat.exists_eq_add_of_le' enough
  have rule {name other : String} {o : Option String}
      (given : j.aliased name other none (fun v _ => v.asOption asString) = .valid o) :
      Saved k (asOption asString) (ofOption str) o :=
    saves_strings.aliased saved_none (Nat.zero_le k) legible given
  have one := rule first
  have two := rule second
  have three := rule third
  have four := rule fourth
  have five := rule fifth
  constructor
  · simp [toJson, named, one.legible, two.legible, three.legible, four.legible, five.legible]
  · rw [toJson, ofJson, model_eq_valid]
    dsimp only
    rw [aliased_valid rfl fun _ => one.read,
      aliased_valid rfl fun _ => two.read, aliased_valid rfl fun _ => three.read,
      aliased_valid rfl fun _ => four.read, aliased_valid rfl fun _ => five.read]
    exact ⟨⟨_, rfl⟩, rfl⟩

theorem MarkupRules.toJson_ne_null (m : MarkupRules) : m.toJson ≠ .null := nofun

namespace Element

theorem toJsonAll_eq (es : List Element) : toJsonAll es = es.map toJson := by
  induction es with
  | nil => rfl
  | cons e rest ih => rw [toJsonAll, ih, List.map_cons]

theorem toJson_ne_null (e : Element) : e.toJson ≠ .null := by
  obtain ⟨type, children, properties, declarations, text, payload, rawKind, markup⟩ := e
  intro same
  cases same

theorem saves (e : Element) : Saves 0 ofJson toJson e := by
  induction e using Element.induction with
  | step e ih =>
    intro n j _ legible read
    rw [ofJson, model_eq_valid] at read
    obtain ⟨_, read⟩ := read
    simp only [Checked.seq_eq_valid, Checked.map_eq_valid] at read
    obtain ⟨_, markup, ⟨_, rawKind, ⟨_, payload, ⟨_, text, ⟨_, declarations, ⟨_, properties,
      ⟨_, children, ⟨type, first, rfl⟩, second, rfl⟩, third, rfl⟩, fourth, rfl⟩, fifth, rfl⟩, sixth,
      rfl⟩, seventh, rfl⟩, eighth, rfl⟩ := read
    obtain ⟨k, rfl⟩ := legible.room_of_required first
    have free := Nat.zero_le k
    have typed := type.saves.required free legible first
    have below := (Saves.list ih).withDefault saved_nil free legible second
    have values := (Saves.map fun e _ => saves_raw e.2).withDefault saved_empty free legible third
    have spaces := (Saves.map fun e _ => Saved.saves fun _ => saved_string e.2).withDefault
      saved_empty free legible fourth
    have text' := saves_strings.withDefault saved_none free legible fifth
    have payload' := saves_strings.withDefault saved_none free legible sixth
    have kind := saves_strings.withDefault saved_none free legible seventh
    -- The type leaves room for the rules.
    have rules := (Saves.option MarkupRules.toJson_ne_null fun m _ => m.saves).withDefault saved_none
      (TypeId.one_le_of_legible typed.legible) legible eighth
    constructor
    · rw [toJson, toJsonAll_eq]
      simp [typed.legible, below.legible, values.legible, spaces.legible, text'.legible,
        payload'.legible, kind.legible, rules.legible]
    · rw [toJson, toJsonAll_eq, ofJson, model_eq_valid, required_valid rfl fun _ => typed.read,
        withDefault_valid rfl fun _ => below.read, withDefault_valid rfl fun _ => values.read,
        withDefault_valid rfl fun _ => spaces.read, withDefault_valid rfl fun _ => text'.read,
        withDefault_valid rfl fun _ => payload'.read, withDefault_valid rfl fun _ => kind.read,
        withDefault_valid rfl fun _ => rules.read]
      exact ⟨⟨_, rfl⟩, rfl⟩

end Element

theorem Edge.saves (e : Edge) : Saves 0 ofJson toJson e := by
  intro n j _ legible read
  rw [ofJson, model_eq_valid] at read
  obtain ⟨_, read⟩ := read
  simp only [Checked.seq_eq_valid, Checked.map_eq_valid] at read
  obtain ⟨_, target, ⟨id, first, rfl⟩, second, rfl⟩ := read
  obtain ⟨k, rfl⟩ := legible.room_of_required first
  constructor
  · simp [toJson]
  · rw [toJson, ofJson, model_eq_valid, required_valid rfl fun _ => rfl,
      required_valid rfl fun _ => rfl]
    exact ⟨⟨_, rfl⟩, rfl⟩

theorem Hyperlink.saves (h : Hyperlink) : Saves 0 ofJson toJson h := by
  intro n j _ legible read
  rw [ofJson, model_eq_valid] at read
  obtain ⟨_, read⟩ := read
  simp only [Checked.seq_eq_valid, Checked.map_eq_valid] at read
  obtain ⟨_, isExternal, ⟨_, uri, ⟨id, first, rfl⟩, second, rfl⟩, third, rfl⟩ := read
  obtain ⟨k, rfl⟩ := legible.room_of_required first
  constructor
  · simp [toJson]
  · rw [toJson, ofJson, model_eq_valid, required_valid rfl fun _ => rfl,
      required_valid rfl fun _ => rfl, withDefault_valid rfl fun _ => rfl]
    exact ⟨⟨_, rfl⟩, rfl⟩

theorem ExternalLink.saves (x : ExternalLink) : Saves 0 ofJson toJson x := by
  intro n j _ legible read
  rw [ofJson, model_eq_valid] at read
  obtain ⟨_, read⟩ := read
  simp only [Checked.seq_eq_valid, Checked.map_eq_valid] at read
  obtain ⟨_, type, ⟨_, uri, ⟨id, first, rfl⟩, second, rfl⟩, third, rfl⟩ := read
  obtain ⟨k, rfl⟩ := legible.room_of_required first
  constructor
  · simp [toJson]
  · rw [toJson, ofJson, model_eq_valid, required_valid rfl fun _ => rfl,
      required_valid rfl fun _ => rfl, required_valid rfl fun _ => rfl]
    exact ⟨⟨_, rfl⟩, rfl⟩

namespace Part

/-- The members of a part, as it was read from them. -/
def members (p : Part) : PartMembers :=
  ⟨p.uri, p.type, p.contentType, p.root?, p.payload?, p.children, p.hyperlinks, p.externals⟩

theorem members_toPart {m : PartMembers} {p : Part} (made : m.toPart = .ok p) : p.members = m := by
  obtain ⟨uri, type, contentType, root, payload, children, hyperlinks, externals⟩ := m
  cases root <;> cases payload <;> cases made <;> rfl

theorem saves (p : Part) : Saves 0 ofJson toJson p := by
  intro n j _ legible read
  -- The content is settled from the members, so they are what has to be read again.
  change Checked.settle _ PartMembers.toPart = _ at read
  obtain ⟨m, fields, made⟩ := Checked.settle_eq_valid.mp read
  obtain rfl := members_toPart made
  rw [model_eq_valid] at fields
  obtain ⟨_, fields⟩ := fields
  simp only [Checked.seq_eq_valid, Checked.map_eq_valid] at fields
  obtain ⟨_, _, ⟨_, _, ⟨_, _, ⟨_, _, ⟨_, _, ⟨_, _, ⟨_, _, ⟨_, first, rfl⟩, second, rfl⟩, third, rfl⟩,
    fourth, rfl⟩, fifth, rfl⟩, sixth, rfl⟩, seventh, rfl⟩, eighth, same⟩ := fields
  obtain ⟨rfl, rfl, rfl, rfl, rfl, rfl, rfl, rfl⟩ := PartMembers.mk.inj same
  obtain ⟨k, rfl⟩ := legible.room_of_required first
  have free := Nat.zero_le k
  have given (b : List UInt8) : Json.str (Base64.urlSafe.encode b) ≠ .null := nofun
  have typed := p.type.saves.required free legible second
  have content := saves_strings.withDefault saved_none free legible third
  have root := (Saves.option Element.toJson_ne_null fun e _ => e.saves).withDefault saved_none free
    legible fourth
  have payload := (Saves.option given fun b _ => Saved.saves fun _ => saved_bytes b).withDefault
    saved_none free legible fifth
  have edges := (Saves.list fun e _ => Edge.saves e).withDefault saved_nil free legible sixth
  have links := (Saves.list fun h _ => Hyperlink.saves h).withDefault saved_nil free legible seventh
  have outside := (Saves.list fun x _ => ExternalLink.saves x).withDefault saved_nil free legible
    eighth
  constructor
  · simp [toJson, typed.legible, content.legible, root.legible, payload.legible, edges.legible,
      links.legible, outside.legible]
  · refine Checked.settle_eq_valid.mpr ⟨p.members, model_eq_valid.mpr ⟨⟨_, rfl⟩, ?_⟩, made⟩
    rw [toJson, required_valid rfl fun _ => rfl, required_valid rfl fun _ => typed.read,
      withDefault_valid rfl fun _ => content.read, withDefault_valid rfl fun _ => root.read,
      withDefault_valid rfl fun _ => payload.read, withDefault_valid rfl fun _ => edges.read,
      withDefault_valid rfl fun _ => links.read, withDefault_valid rfl fun _ => outside.read]
    rfl

end Part

/-- A graph that was made from its parts is made from them again. -/
theorem Graph.parts_ofParts {parts : OrderedMap String Part} {g : Graph}
    (made : ofParts parts = .ok g) : g.parts = parts := by
  unfold ofParts at made
  split at made <;> cases made
  rfl

theorem Graph.saves (g : Graph) : Saves 1 ofJson toJson g := by
  intro n j enough legible read
  change Checked.settle _ ofParts = _ at read
  obtain ⟨parts, fields, made⟩ := Checked.settle_eq_valid.mp read
  obtain rfl := parts_ofParts made
  rw [model_eq_valid] at fields
  obtain ⟨k, rfl⟩ := Nat.exists_eq_add_of_le' enough
  have mapped := (Saves.map fun e _ => Part.saves e.2).withDefault saved_empty (Nat.zero_le k) legible
    fields.2
  constructor
  · simp [toJson, mapped.legible]
  · refine Checked.settle_eq_valid.mpr ⟨g.parts, model_eq_valid.mpr ⟨⟨_, rfl⟩, ?_⟩, made⟩
    rw [toJson, withDefault_valid rfl fun _ => mapped.read]

theorem Graph.saved_empty {n : Nat} : Saved (n + 1) ofJson toJson empty :=
  empty.saves (n + 1) (.obj []) (Nat.le_add_left 1 n) within_nothing.2 rfl

theorem Graph.toJson_ne_null (g : Graph) : g.toJson ≠ .null := nofun

theorem Package.toJson_ne_null (p : Package) : p.toJson ≠ .null := nofun

theorem Package.saves (p : Package) : Saves 0 ofJson toJson p := by
  intro n j _ legible read
  rw [ofJson, model_eq_valid] at read
  obtain ⟨_, read⟩ := read
  simp only [Checked.seq_eq_valid, Checked.map_eq_valid] at read
  obtain ⟨_, externals, ⟨_, hyperlinks, ⟨_, children, ⟨_, graph, ⟨type, first, rfl⟩, second, rfl⟩,
    third, rfl⟩, fourth, rfl⟩, fifth, rfl⟩ := read
  obtain ⟨k, rfl⟩ := legible.room_of_required first
  have free := Nat.zero_le k
  have typed := type.saves.required free legible first
  -- The type leaves room for a graph that was left out.
  obtain ⟨k, rfl⟩ := Nat.exists_eq_add_of_le' (TypeId.one_le_of_legible typed.legible)
  have parts := graph.saves.withDefault Graph.saved_empty (Nat.le_add_left 1 k) legible second
  have edges := (Saves.list fun e _ => Edge.saves e).withDefault saved_nil free legible third
  have links := (Saves.list fun h _ => Hyperlink.saves h).withDefault saved_nil free legible fourth
  have outside := (Saves.list fun x _ => ExternalLink.saves x).withDefault saved_nil free legible
    fifth
  constructor
  · simp [toJson, typed.legible, parts.legible, edges.legible, links.legible, outside.legible]
  · rw [toJson, ofJson, model_eq_valid, required_valid rfl fun _ => typed.read,
      withDefault_valid rfl fun _ => parts.read, withDefault_valid rfl fun _ => edges.read,
      withDefault_valid rfl fun _ => links.read, withDefault_valid rfl fun _ => outside.read]
    exact ⟨⟨_, rfl⟩, rfl⟩

namespace Model

/-- A model that was made from its members is made from them again. -/
theorem members_toModel {members : ModelMembers} {m : Model} (made : members.toModel = .ok m) :
    m.members = members := by
  obtain ⟨schema, element, graph, part, package⟩ := members
  cases element <;> cases graph <;> cases part <;> cases package <;> cases made <;> rfl

theorem saves (m : Model) : Saves 4 ofJson toJson m := by
  intro n j enough legible read
  change Checked.settle _ ModelMembers.toModel = _ at read
  obtain ⟨members, fields, made⟩ := Checked.settle_eq_valid.mp read
  obtain rfl := members_toModel made
  rw [model_eq_valid] at fields
  obtain ⟨_, fields⟩ := fields
  simp only [Checked.seq_eq_valid, Checked.map_eq_valid] at fields
  obtain ⟨_, package, ⟨_, part, ⟨_, graph, ⟨_, element, ⟨schema, first, rfl⟩, second, rfl⟩, third,
    rfl⟩, fourth, rfl⟩, fifth, same⟩ := fields
  rw [← same] at made
  obtain ⟨k, rfl⟩ := Nat.exists_eq_add_of_le' enough
  have free := Nat.zero_le (k + 3)
  have one : 1 ≤ k + 3 := Nat.le_add_left 1 (k + 2)
  have schema' := schema.saves.aliased Schema.saved_empty (Nat.le_add_left 3 k) legible first
  have element' := (Saves.option Element.toJson_ne_null fun e _ => e.saves).withDefault saved_none free
    legible second
  have graph' := (Saves.option Graph.toJson_ne_null fun g _ => g.saves).withDefault saved_none one
    legible third
  have part' := saves_strings.withDefault saved_none free legible fourth
  have package' := (Saves.option Package.toJson_ne_null fun p _ => p.saves).withDefault saved_none free
    legible fifth
  constructor
  · rw [toJson, ← same]
    simp [schema'.legible, element'.legible, graph'.legible, part'.legible, package'.legible]
  · refine Checked.settle_eq_valid.mpr ⟨_, model_eq_valid.mpr ⟨⟨_, rfl⟩, ?_⟩, made⟩
    rw [toJson, ← same]
    dsimp only
    rw [aliased_valid rfl fun _ => schema'.read, withDefault_valid rfl fun _ => element'.read,
      withDefault_valid rfl fun _ => graph'.read, withDefault_valid rfl fun _ => part'.read,
      withDefault_valid rfl fun _ => package'.read]
    rfl

/-- A model that was read from a text is read again from the text that is written of it, whatever
spelling its bytes and its rules for markup compatibility had. Only numbers that are not finite are
lost; they stand in a text if they overflow, or as words that are no JSON. -/
theorem saved_survives {text : String} {j : Json} {m : Model} (read : Json.read? text = some j)
    (finite : j.Every Json.isFinite) (valid : ofJson j = .valid m) :
    Json.checkText ofJson m.toJson.compact = .valid m ∧
      Json.checkText ofJson m.toJson.pretty = .valid m := by
  have saved := m.saves maxDepth j (by decide) (read?_legible read finite) valid
  obtain ⟨compact, lines, _⟩ := Legible.checkText saved.legible ofJson
  rw [compact, lines]
  exact ⟨saved.read, saved.read⟩

/-- A graph with bytes and rules that are not spelled as they would be written. -/
def respelled : Json :=
  let named (name : String) : Json := .obj [("namespace", .str "N"), ("name", .str name)]
  .obj [("schema_document", .obj [("types", .arr [named "A"])]), ("part", .str "/a"),
    ("graph", .obj [("parts", .obj [
      ("/a", .obj [("uri", .str "/a"), ("type", named "P"), ("root", .obj [("type", named "A"),
        ("properties", .obj [("p", .arr [.bool true, .float (.zero true)])]),
        ("mc_attributes", .obj [("must_understand", .str "x")])])]),
      ("/b", .obj [("uri", .str "/b"), ("type", named "P"), ("payload", .str "+/8")])])])]

/-- The payload is written in the other alphabet and the rule under its other name. -/
theorem respelled_survives : ∃ m, ofJson respelled = .valid m ∧ m.toJson ≠ respelled ∧
    Json.checkText ofJson m.toJson.compact = .valid m ∧
      Json.checkText ofJson m.toJson.pretty = .valid m := by
  have finite : respelled.Every Json.isFinite := by
    simp [respelled, Every, EveryItem, EveryMember, isFinite, Numeral.Binary64.zero]
  have printed : respelled.Every isPrinted := by
    simp [respelled, Every, EveryItem, EveryMember, isPrinted, Numeral.Binary64.zero]
  have legible : Legible maxDepth respelled := ⟨printed, by decide⟩
  have read : (ofJson respelled).toOption.isSome := by decide +kernel
  have other : (ofJson respelled).toOption.map (·.toJson) ≠ some respelled := by decide +kernel
  cases valid : ofJson respelled with
  | invalid issues =>
    rw [valid] at read
    cases read
  | valid m =>
    rw [valid] at other
    exact ⟨m, rfl, fun h => other (congrArg some h),
      saved_survives legible.read?_compact finite valid⟩

end Model

end DocScript
