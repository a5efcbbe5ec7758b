import SqlScribe.Document.Expr
import SqlScribe.Proofs.Calendar.Patterns
import SqlScribe.Proofs.Document.Verdict
import SqlScribe.Proofs.Query.Checked
import SqlScribe.Proofs.Value.Identifiers

/-!
# Values and constants that are written to a document

A value is read as it was written, with its kind; so is a constant, since its value belongs to its
type already and is not converted once more.
-/

namespace SqlScribe

open Json

theorem ColumnType.ofJson_toJson (ty : ColumnType) (room : Nat) :
    ofJson (ty.toJson.upTo room) = .ok ty :=
  readName_eq_ok (by cases ty <;> decide) ty.ofName?_name

namespace Value

theorem readKind_eq_ok {kind : String} (listed : kind ∈ kinds) :
    readKind (.string kind) = .ok kind := by
  apply readName_eq_ok listed
  cases found : kinds.find? (· == kind) with
  | none =>
    have other := List.find?_eq_none.mp found kind listed
    exact absurd (beq_self_eq_true kind) other
  | some other =>
    have same : (other == kind) = true := List.find?_some (p := (· == kind)) found
    rw [eq_of_beq same]

/-- The parts of a value, its kind first. -/
theorem known_eq {members : Members} {kind : String} {contents : List (String × Json)} {room : Nat}
    (hold : members.Hold (("type", .string kind) :: contents) room) (listed : kind ∈ kinds) :
    ∃ first rest, members.known = first :: rest ∧ first.name = "type" ∧
      readKind first.content = .ok kind ∧
      rest.map (fun m => (m.name, m.content)) = contents.map fun d => (d.1, d.2.upTo room) := by
  obtain ⟨first, rest, known, firstIs, restIs⟩ := List.map_eq_cons_iff.mp hold.contents
  obtain ⟨named, kindIs⟩ := Prod.mk.inj firstIs
  have kindRead : readKind first.content = .ok kind := by
    rw [kindIs]
    exact readKind_eq_ok listed
  exact ⟨first, rest, known, named, kindRead, restIs⟩

/-- A value is read from its kind and its content. -/
theorem ofJson_tagged (kind : String) (content : Json) {room : Nat} {v : Value}
    (listed : kind ∈ kinds)
    (read : ∀ inner, room = inner + 1 →
      Verdict (readContent kind (content.upTo inner)) (content.levels ≤ inner) v) :
    Verdict (Value.ofJson ((Json.object [("type", .string kind), ("value", content)]).upTo room))
      ((Json.object [("type", .string kind), ("value", content)]).levels ≤ room) v := by
  apply Members.ofSource_verdict (by simp)
  intro inner members below hold
  have inside := read inner below
  obtain ⟨first, rest, known, named, kindRead, restIs⟩ := known_eq hold listed
  obtain ⟨second, others, rfl, secondIs, othersIs⟩ := List.map_eq_cons_iff.mp restIs
  obtain rfl := List.map_eq_nil_iff.mp othersIs
  obtain ⟨namedToo, contentIs⟩ := Prod.mk.inj secondIs
  have placed : (ofMembers members).Verdict (content.levels ≤ inner) v := by
    rw [← contentIs] at inside
    constructor
    · intro fits
      simp [ofMembers, known, named, namedToo, kindRead, inside.accepted fits, unlessRepeated]
      rfl
    · intro fails
      refine ⟨second.place, ?_⟩
      simp [ofMembers, known, named, namedToo, kindRead, inside.refused fails, Placed.fail]
  apply (placed.within hold.clear).congr
  simp [levelsOfMembers, levels]

theorem ofJson_null (room : Nat) :
    Verdict (Value.ofJson (Value.null.toJson.upTo room))
      (Value.null.toJson.levels ≤ room) .null := by
  apply Members.ofSource_verdict (by simp)
  intro inner members below hold
  obtain ⟨first, rest, known, named, kindRead, restIs⟩ := known_eq hold (by decide)
  obtain rfl := List.map_eq_nil_iff.mp restIs
  have placed : (ofMembers members).Verdict True .null := by
    constructor
    · intro _
      simp [ofMembers, known, named, kindRead, hold.unlisted]
      rfl
    · exact fun fails => absurd trivial fails
  apply (placed.within hold.clear).congr
  simp [levelsOfMembers, levels]

/-- A content that is no list and no object always fits. -/
theorem ofJson_plain {α : Type} (kind : String) (content : Json) {reader : Reader α}
    {wrap : α → Value} {room : Nat} {x : α} (listed : kind ∈ kinds)
    (reads : ∀ doc, readContent kind doc = (reader doc).map wrap) (flat : content.levels = 0)
    (read : ∀ inner, reader (content.upTo inner) = .ok x) :
    Verdict (Value.ofJson ((Json.object [("type", .string kind), ("value", content)]).upTo room))
      ((Json.object [("type", .string kind), ("value", content)]).levels ≤ room) (wrap x) := by
  apply ofJson_tagged kind content listed
  intro inner _
  rw [reads, read inner, flat]
  exact .of_eq_ok rfl (Nat.zero_le _)

theorem readByte_toNat (b : UInt8) : readByte (.integer b.toNat) = .ok b := by
  have range : b.toNat < 256 := b.toNat_lt
  simp [readByte, readNat, range, Except.map]

theorem readBytes_verdict (bytes : List UInt8) (room : Nat) :
    Verdict (readList readByte ((Json.array (bytes.map fun b => .integer b.toNat)).upTo room))
      ((Json.array (bytes.map fun b => .integer b.toNat)).levels ≤ room) bytes := by
  apply readList_verdict
  intro inner _ b _
  exact .of_eq_ok (readByte_toNat b) (Nat.zero_le _)

/-- A value is read as it was written. -/
theorem ofJson_toJson {v : Value} (finite : v.isFinite = true) (room : Nat) :
    Verdict (Value.ofJson (v.toJson.upTo room)) (v.toJson.levels ≤ room) v := by
  cases v with
  | null => exact ofJson_null room
  | bool b => exact ofJson_plain "bool" (.bool b) (by decide) (fun _ => rfl) rfl fun _ => rfl
  | int n =>
    have read : readInt64 (.integer n.toInt) = .ok n := by rw [readInt64, fitInt64?_toInt]
    exact ofJson_plain "int" (.integer n.toInt) (by decide) (fun _ => rfl) rfl fun _ => read
  | float x =>
    have number : (if x.isFinite then Json.real x else .null) = .real x := if_pos finite
    have written : (float x).toJson = .object [("type", .string "float"), ("value", .real x)] := by
      rw [← number]
      rfl
    rw [written]
    exact ofJson_plain "float" (.real x) (by decide) (fun _ => rfl) rfl fun _ => rfl
  | money d =>
    have read : Decimal.ofJson (.string d.toText) = .ok d := by
      rw [Decimal.ofJson, d.ofText?_toText]
      rfl
    exact ofJson_plain "money" (.string d.toText) (by decide) (fun _ => rfl) rfl fun _ => read
  | string s => exact ofJson_plain "string" (.string s) (by decide) (fun _ => rfl) rfl fun _ => rfl
  | date d =>
    have read : readMoment Date.ofText "date" (.string d.toText) = .ok d := by
      rw [readMoment, readText, d.ofText_toText]
      rfl
    exact ofJson_plain "date" (.string d.toText) (by decide) (fun _ => rfl) rfl fun _ => read
  | time t =>
    have read : readMoment Time.ofText "time" (.string t.toText) = .ok t := by
      rw [readMoment, readText, t.ofText_toText]
      rfl
    exact ofJson_plain "time" (.string t.toText) (by decide) (fun _ => rfl) rfl fun _ => read
  | dateTime m =>
    have read : readMoment DateTime.ofText "date and time" (.string m.toText) = .ok m := by
      rw [readMoment, readText, m.ofText_toText]
      rfl
    exact ofJson_plain "datetime" (.string m.toText) (by decide) (fun _ => rfl) rfl fun _ => read
  | guid g =>
    have found : Guid.ofText g.toText = .ok g := by
      rw [Guid.ofText, Guid.toText, String.toList_ofList, g.ofChars?_toChars]
    have read : readGuid (.string g.toText) = .ok g := by
      rw [readGuid, readText, found]
      rfl
    exact ofJson_plain "guid" (.string g.toText) (by decide) (fun _ => rfl) rfl fun _ => read
  | binary bytes =>
    have content (doc : Source) :
        readContent "binary" doc = (readList readByte doc).map Value.binary := rfl
    apply ofJson_tagged "binary" (.array (bytes.map fun b => .integer b.toNat)) (by decide)
    intro inner _
    rw [content]
    exact (readBytes_verdict bytes inner).map Value.binary

end Value

end SqlScribe
