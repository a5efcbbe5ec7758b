import SqlScribe.Document.Reading
import SqlScribe.Proofs.Groups
import SqlScribe.Proofs.Statement.Script

/-!
# What has been read

A reading that succeeds tells what the document holds: for each way of putting readings together,
which documents inside of the one that was read have been read, and with which results.
-/

namespace SqlScribe

theorem inDocument_eq_ok {α : Type} {x : Except Fault α} {y : α} :
    inDocument x = .ok y ↔ x = .ok y := by
  cases x <;> simp [inDocument, Except.mapError]

namespace Json

namespace Source

/-- A document that is another one or stands inside of it. -/
inductive PartOf (inner : Source) : Source → Prop
  | self : PartOf inner inner
  | item {items : List Source} {stop : Option JsonFault} {doc : Source} (member : doc ∈ items)
      (deeper : PartOf inner doc) : PartOf inner (.array items stop)
  | content {members : List (String × Source × Option JsonFault)} {stop : Option JsonFault}
      {name : String} {doc : Source} {passing : Option JsonFault}
      (member : (name, doc, passing) ∈ members) (deeper : PartOf inner doc) :
      PartOf inner (.object members stop)

theorem PartOf.trans {inner middle outer : Source} (first : inner.PartOf middle)
    (second : middle.PartOf outer) : inner.PartOf outer := by
  induction second with
  | self => exact first
  | item member _ ih => exact .item member ih
  | content member _ ih => exact .content member ih

/-- The items of a list. -/
def items : Source → List Source
  | array items _ => items
  | _ => []

/-- The content of a member of a record; members in a list have the names in this order. -/
def member? (names : List String) (name : String) : Source → Option Source
  | object members _ => (members.find? (·.1 == name)).map (·.2.1)
  | array items _ => ((names.zip items).find? (·.1 == name)).map (·.2)
  | _ => none

end Source

namespace Placed

variable {α β : Type} {f : Placed (α → β)} {p : Placed α} {g : α → β} {y : β}

theorem outcome_of_within {members : Members} {x : α} (read : p.within members = .ok x) :
    p.outcome = .ok x := by
  unfold within at read
  split at read <;> cases read
  assumption

theorem pure_eq_ok {x z : α} : (pure x : Placed α).outcome = .ok z ↔ x = z := by
  change (Except.ok x : Except (Nat × DocumentFault) α) = .ok z ↔ x = z
  rw [Except.ok.injEq]

theorem fail_eq_ok {place : Nat} {fault : DocumentFault} {z : α} :
    (fail place fault : Placed α).outcome = .ok z ↔ False := by
  simp [fail]

/-- Two readings that are put together have both succeeded. -/
theorem seq_eq_ok :
    (f <*> p).outcome = .ok y ↔ ∃ g x, f.outcome = .ok g ∧ p.outcome = .ok x ∧ g x = y := by
  change (f.and p).outcome = .ok y ↔ _
  unfold Placed.and
  cases first : f.outcome <;> cases second : p.outcome <;> simp

theorem map_eq_ok : (g <$> p).outcome = .ok y ↔ ∃ x, p.outcome = .ok x ∧ g x = y := by
  change (pure g <*> p).outcome = .ok y ↔ _
  simp [seq_eq_ok, pure_eq_ok]

end Placed

/-- The members of a name. -/
def Members.called (members : Members) (name : String) : List Member :=
  members.known.filter (·.name == name)

variable {α : Type} {members : Members} {name : String} {reader : Reader α}

/-- There is no member of a name, or a single one, which has been read. -/
theorem optional_eq_ok {x : Option α} :
    (optional members name reader).outcome = .ok x ↔
      members.called name = [] ∧ x = none ∨
        ∃ m y, members.called name = [m] ∧ reader m.content = .ok y ∧ x = some y := by
  unfold optional Members.called
  generalize members.known.filter (·.name == name) = called
  rcases called with _ | ⟨m, rest⟩
  · simp [Placed.pure_eq_ok, @eq_comm _ none]
  · cases read : reader m.content with
    | error fault => simp [read, Placed.fail_eq_ok]
    | ok y => cases rest <;>
        simp [read, Placed.pure_eq_ok, Placed.fail_eq_ok, @eq_comm _ (some y)]

theorem required_eq_ok {x : α} :
    (required members name reader).outcome = .ok x ↔
      ∃ m, members.called name = [m] ∧ reader m.content = .ok x := by
  have single : (required members name reader).outcome = .ok x ↔
      (optional members name reader).outcome = .ok (some x) := by
    unfold required
    rcases (optional members name reader).outcome with ⟨place, fault⟩ | (_ | y) <;>
      simp [Placed.pure_eq_ok, Placed.fail_eq_ok]
  rw [single, optional_eq_ok]
  simp

theorem orDefault_eq_ok {default x : α} :
    (orDefault members name default reader).outcome = .ok x ↔
      members.called name = [] ∧ x = default ∨
        ∃ m, members.called name = [m] ∧ reader m.content = .ok x := by
  simp only [orDefault, Placed.map_eq_ok, optional_eq_ok]
  constructor
  · rintro ⟨_, ⟨absent, rfl⟩ | ⟨m, y, single, read, rfl⟩, rfl⟩
    · exact .inl ⟨absent, rfl⟩
    · exact .inr ⟨m, single, read⟩
  · rintro (⟨absent, rfl⟩ | ⟨m, single, read⟩)
    · exact ⟨none, .inl ⟨absent, rfl⟩, rfl⟩
    · exact ⟨some x, .inr ⟨m, x, single, read, rfl⟩, rfl⟩

theorem read_of_orNull {doc : Source} {x : α} (read : orNull reader doc = .ok (some x)) :
    reader doc = .ok x := by
  unfold orNull at read
  split at read
  · cases read
  · cases read
  · obtain ⟨y, made, same⟩ := map_eq_ok_iff.mp read
    cases same
    exact made

/-- What stands in a member that may be missing has been read from one. -/
theorem read_of_orNone {x : α} (read : (orNone members name reader).outcome = .ok (some x)) :
    ∃ m, members.called name = [m] ∧ reader m.content = .ok x := by
  obtain ⟨-, same⟩ | ⟨m, single, made⟩ := orDefault_eq_ok.mp read
  · cases same
  · exact ⟨m, single, read_of_orNull made⟩

/-- A list has been read item by item, and nothing is wrong after its last item. -/
theorem readList_eq_ok {doc : Source} {xs : List α} :
    readList reader doc = .ok xs ↔
      doc = .array doc.items none ∧
        List.Forall₂ (fun item x => reader item = .ok x) doc.items xs := by
  rw [← mapM_eq_ok_iff]
  cases doc with
  | array items stop =>
    simp only [readList, Source.items, bind_eq_ok_iff, Source.array.injEq, true_and]
    cases stop with
    | none => simp [pure, Except.pure]
    | some fault => simp [throw, throwThe, MonadExceptOf.throw]
  | deep isList => cases isList <;> simp [readList, Source.items, Source.mismatch]
  | _ => simp [readList, Source.items]

/-- What is in a list that has been read was read from an item of it. -/
theorem read_of_mem_readList {doc : Source} {xs : List α} {x : α}
    (read : readList reader doc = .ok xs) (member : x ∈ xs) :
    ∃ item : Source, item.PartOf doc ∧ reader item = .ok x := by
  obtain ⟨whole, each⟩ := readList_eq_ok.mp read
  obtain ⟨item, listed, made⟩ := exists_of_mem_mapM (mapM_eq_ok_iff.mpr each) member
  refine ⟨item, ?_, made⟩
  rw [whole]
  exact .item listed .self

/-- A record has been opened, and all that is asked for has been read from its members. -/
theorem read_of_record {what : String} {names : List String} {contents : Members → Placed α}
    {doc : Source} {x : α}
    (read : (do
      let members ← membersOf what names doc
      (contents members).within members) = .ok x) :
    ∃ members, membersOf what names doc = .ok members ∧ (contents members).outcome = .ok x := by
  obtain ⟨members, opened, placed⟩ := bind_eq_ok_iff.mp read
  exact ⟨members, opened, Placed.outcome_of_within placed⟩

/-- One of several things has been read from the content of the one member of an object. -/
theorem read_of_readTagged {known records : List String} {inside : String → Reader α} {doc : Source}
    {x : α} (read : readTagged known records inside doc = .ok x) :
    ∃ kind body, body.PartOf doc ∧ inside kind body = .ok x := by
  unfold readTagged readVariant at read
  split at read
  · split at read <;> cases read
  · rename_i name content passing rest stop
    split at read
    · obtain ⟨y, made, read⟩ := bind_eq_ok_iff.mp read
      split at read <;> cases read
      exact ⟨name, content, .content List.mem_cons_self .self, made⟩
    · cases read
  all_goals cases read

/-- Asking for a name among the known members finds the first member of that name. -/
theorem find?_knownOf {names : List String} (listed : name ∈ names) (place : Nat)
    (contents : List (String × Source × Option JsonFault)) :
    ((Members.knownOf names [] place contents).find? (·.name == name)).map Member.content =
      (contents.find? (·.1 == name)).map (·.2.1) := by
  induction contents generalizing place with
  | nil => rfl
  | cons first rest ih =>
    obtain ⟨other, content, passing⟩ := first
    rw [Members.knownOf, List.lookup_nil, Option.getD_none, List.find?_cons]
    cases same : other == name with
    | true =>
      rw [List.contains_iff_mem.mpr (beq_iff_eq.mp same ▸ listed), if_pos rfl, List.find?_cons]
      dsimp only
      rw [same]
      rfl
    | false =>
      rw [← ih (place + 1)]
      split
      · rw [List.find?_cons]
        dsimp only
        rw [same]
      · rfl

/-- The member of a name is the content that the document has for the name. -/
theorem member?_of_called {what : String} {names : List String} {doc : Source}
    (made : membersOf what names doc = .ok members) (listed : name ∈ names) :
    (members.called name).head?.map Member.content = doc.member? names name := by
  rw [Members.called, List.head?_filter]
  cases doc with
  | object contents stop =>
    cases made
    exact find?_knownOf listed 0 contents
  | array items stop =>
    cases made
    have placed : names.zip items = (names.zip items).zipIdx.map (·.1) := by simp
    rw [Source.member?, List.find?_map, Option.map_map]
    conv => rhs; rw [placed, List.find?_map, Option.map_map]
    rfl
  | nameless found fault =>
    cases made
    rfl
  | _ => cases made

theorem partOf_of_member? {names : List String} {doc content : Source}
    (found : doc.member? names name = some content) : content.PartOf doc := by
  unfold Source.member? at found
  split at found
  · obtain ⟨⟨other, _, passing⟩, listed, rfl⟩ := Option.map_eq_some_iff.mp found
    exact .content (List.mem_of_find?_eq_some listed) .self
  · obtain ⟨⟨other, _⟩, listed, rfl⟩ := Option.map_eq_some_iff.mp found
    exact .item (List.of_mem_zip (List.mem_of_find?_eq_some listed)).2 .self
  · cases found

theorem partOf_of_called {what : String} {names : List String} {doc : Source} {m : Member}
    (made : membersOf what names doc = .ok members) (listed : name ∈ names)
    (single : members.called name = [m]) : m.content.PartOf doc := by
  have found := member?_of_called made listed
  rw [single] at found
  exact partOf_of_member? found.symm

end Json

end SqlScribe
