import DocScript.Compile.Graph
import DocScript.Document.Codec
import DocScript.Proofs.Base64.Bits
import DocScript.Proofs.Json.Check

/-!
# Payloads

The payload of a part is given as a text that denotes some bytes. The routine that fills the part
has a text of its own for them, which denotes the same bytes in the standard alphabet and is padded
to whole groups. No spelling of a payload is seen any more behind its bytes.
-/

namespace DocScript

open Compile

variable {j : Json} {s text : String} {part part' : Part} {bytes : List UInt8}

theorem Json.asBytes_eq_valid :
    Json.asBytes (.str s) = .valid bytes ↔ Base64.Denotes s bytes := by
  rw [← Base64.decode?_eq_some_iff, asBytes]
  cases Base64.decode? s with
  | none => exact ⟨nofun, nofun⟩
  | some read => simp

/-- A payload is accepted for the bytes that its text denotes. -/
theorem Part.content_of_payload (given : j.member? "payload" = some (.str s))
    (accepted : Part.ofJson j = .valid part) :
    ∃ bytes, Base64.Denotes s bytes ∧ part.content = .binary bytes := by
  obtain ⟨members, fields, made⟩ := Checked.settle_eq_valid.mp accepted
  obtain ⟨_, fields⟩ := Json.model_eq_valid.mp fields
  simp only [Checked.seq_eq_valid, Checked.map_eq_valid] at fields
  obtain ⟨_, _, ⟨_, _, ⟨_, _, ⟨_, payload, ⟨_, root, ⟨_, _, ⟨_, _, ⟨_, _, rfl⟩, _, rfl⟩, _, rfl⟩,
    _, rfl⟩, read, rfl⟩, _, rfl⟩, _, rfl⟩, _, rfl⟩ := fields
  obtain ⟨none, _⟩ | ⟨v, _, found, read⟩ := Json.withDefault_eq_valid.mp read
  · rw [given] at none
    cases none
  · rw [given] at found
    obtain rfl := Option.some.inj found
    obtain ⟨bytes, denoted, rfl⟩ := Checked.map_eq_valid.mp read
    refine ⟨bytes, Json.asBytes_eq_valid.mp denoted, ?_⟩
    cases root with
    | none =>
      obtain rfl := Except.ok.inj made
      rfl
    | some e => cases made

/-- The code that takes bytes from a text and feeds them into a part. -/
def feedCode (spelled : TypeId → String) (text : String) : List Instr :=
  let decoded := Expr.call (some (.type (spelled convertType))) "FromBase64String" [] [.var "base64"]
  [.declare "base64" "string" [] (some (.text text)),
    .blank,
    .scope
      [.declare "mem" (spelled streamType) []
        (some (.construct (spelled memoryStreamType) [] [decoded, .truth false]))]
      [.invokeOn (some (.var partName)) "FeedData" [.var "mem"]]
      [.invokeOn (some (.var "mem")) "Dispose" []]]

/-- The routine that fills a part feeds it the bytes of a text and does nothing else. -/
def Part.Feeds (part : Part) (text : String) : Prop :=
  ∀ (ctx : Context) (name routine : String) (w : PartWork),
    let ns := (w.shared.namespaces.addPlain convertType.space).addPlain streamType.space
    let spelled := ns.typeName ctx.settings.policy
    fillRoutine ctx ⟨part, name, routine⟩ w =
      (.ok ⟨routine, [⟨partName, spelled part.type, true⟩], feedCode spelled text, none, none, false⟩,
        { w with shared := { w.shared with namespaces := ns } })

/-- The content has no other effect than its two namespaces, and no bytes make it fail. -/
theorem Part.feeds_of_binary (content : part.content = .binary bytes) :
    part.Feeds (Base64.standard.encode bytes) := by
  intro ctx name routine w
  have run : Compile.content ctx part = payloadFeed ctx bytes := by rw [Compile.content, content]
  rw [fillRoutine, run]
  rfl

/-- There is a text for a payload without bytes as well, the empty one. -/
example (content : part.content = .binary []) : part.Feeds "" := Part.feeds_of_binary content

/-- A payload reaches the routine that fills its part unchanged. The text there is the canonical one
for the bytes that the payload denotes. Another payload gives the same text if and only if it
denotes the same bytes, and then the routines for two parts of one type do not differ. -/
theorem Part.payload_unchanged (given : j.member? "payload" = some (.str s))
    (accepted : Part.ofJson j = .valid part) :
    ∃ bytes text, (∀ others, Base64.Denotes s others ↔ others = bytes) ∧
      (∀ others, Base64.standard.Denotes text others ↔ others = bytes) ∧ text.length % 4 = 0 ∧
      part.Feeds text ∧
      ∀ (j' : Json) (s' : String) (part' : Part), j'.member? "payload" = some (.str s') →
        Part.ofJson j' = .valid part' →
          ∃ text', part'.Feeds text' ∧ (text' = text ↔ Base64.Denotes s' bytes) ∧
            (Base64.Denotes s' bytes → part'.type = part.type → ∀ ctx name routine w,
              fillRoutine ctx ⟨part', name, routine⟩ w = fillRoutine ctx ⟨part, name, routine⟩ w) := by
  obtain ⟨bytes, denotes, content⟩ := Part.content_of_payload given accepted
  have feeds := Part.feeds_of_binary content
  refine ⟨bytes, Base64.standard.encode bytes, fun _ => denotes.denotes_iff,
    fun _ => Base64.Alphabet.denotes_encode_iff Base64.regular_standard,
    ((Base64.standard.eq_encode_iff).mp rfl).2, feeds, fun j' s' part' given' ok => ?_⟩
  obtain ⟨bytes', denotes', content'⟩ := Part.content_of_payload given' ok
  have feeds' := Part.feeds_of_binary content'
  refine ⟨Base64.standard.encode bytes', feeds', ?_, fun same typed ctx name routine w => ?_⟩
  · rw [Base64.Alphabet.encode_inj Base64.regular_standard, denotes'.denotes_iff, eq_comm]
  · obtain rfl := denotes'.denotes_iff.mp same
    rw [feeds', feeds, typed]

/-- A part with a payload, as it may be given. -/
def stored (payload : String) : Json :=
  .obj [("uri", .str "/b"), ("type", .obj [("namespace", .str "N"), ("name", .str "P")]),
    ("payload", .str payload)]

/-- The spellings differ in alphabet and padding. -/
theorem Part.payload_unchanged_respelled : ∃ p q : Part, Part.ofJson (stored "_-8") = .valid p ∧
    Part.ofJson (stored "/+8=") = .valid q ∧ p.Feeds "/+8=" ∧ ∀ ctx name routine w,
      fillRoutine ctx ⟨q, name, routine⟩ w = fillRoutine ctx ⟨p, name, routine⟩ w := by
  have accepted (payload : String) (read : (Part.ofJson (stored payload)).toOption.map (·.type) =
      some (.plain "N" "P")) :
      ∃ p, Part.ofJson (stored payload) = .valid p ∧ p.type = .plain "N" "P" := by
    cases valid : Part.ofJson (stored payload) with
    | invalid issues =>
      rw [valid] at read
      cases read
    | valid p =>
      rw [valid] at read
      exact ⟨p, rfl, Option.some.inj read⟩
  obtain ⟨p, first, typed⟩ := accepted "_-8" (by decide +kernel)
  obtain ⟨q, second, typed'⟩ := accepted "/+8=" (by decide +kernel)
  have spelt : Base64.Denotes "_-8" [0xFF, 0xEF] := Base64.decode?_eq_some_iff.mp (by decide +kernel)
  have spelt' : Base64.Denotes "/+8=" [0xFF, 0xEF] := Base64.decode?_eq_some_iff.mp (by decide +kernel)
  obtain ⟨bytes, text, denoted, canonical, whole, feeds, others⟩ := Part.payload_unchanged rfl first
  obtain rfl := (denoted _).mp spelt
  have written := (Base64.standard.eq_encode_iff).mpr ⟨(canonical _).mpr rfl, whole⟩
  obtain ⟨_, _, _, alike⟩ := others _ _ q rfl second
  refine ⟨p, q, first, second, ?_, alike spelt' (typed'.trans typed.symm)⟩
  rw [show "/+8=" = text by rw [written]; decide +kernel]
  exact feeds

end DocScript
