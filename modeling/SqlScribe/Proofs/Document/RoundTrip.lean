import SqlScribe.Proofs.Document.Queries
import SqlScribe.Proofs.Json.Printed

/-!
# Queries that come back from their documents

A query that was built is the query that its document says, and the query that its text says unless
more than 127 lists and objects stand inside each other in it. Such a text is refused.
-/

namespace SqlScribe

open Json Text

namespace Json

theorem writableItems_iff {items : List Json} :
    WritableItems items ↔ ∀ doc ∈ items, doc.Writable := by
  induction items with
  | nil => exact ⟨fun _ => nofun, fun _ => trivial⟩
  | cons doc rest ih => rw [WritableItems, ih, List.forall_mem_cons]

theorem writableMembers_iff {members : List (String × Json)} :
    WritableMembers members ↔ ∀ m ∈ members, m.2.Writable := by
  induction members with
  | nil => exact ⟨fun _ => nofun, fun _ => trivial⟩
  | cons member rest ih => rw [WritableMembers, ih, List.forall_mem_cons]

theorem writable_array {α : Type} {xs : List α} {toDoc : α → Json}
    (items : ∀ x ∈ xs, (toDoc x).Writable) : (array (xs.map toDoc)).Writable := by
  rw [Writable, writableItems_iff]
  exact List.forall_mem_map.mpr items

theorem writable_single {name : String} {doc : Json} (content : doc.Writable) :
    (object [(name, doc)]).Writable := ⟨content, trivial⟩

theorem writable_pair {name other : String} {doc next : Json} (first : doc.Writable)
    (second : next.Writable) : (object [(name, doc), (other, next)]).Writable :=
  ⟨first, second, trivial⟩

mutual

/-- The floats of a document that a text can hold are finite. -/
theorem Writable.isFinite {x : Binary64} :
    {doc : Json} → doc.Writable → x ∈ doc.reals → x.isFinite = true
  | .real _, writable, member => by
    rw [reals, List.mem_singleton] at member
    rwa [member]
  | .array _, writable, member => WritableItems.isFinite writable member
  | .object _, writable, member => WritableMembers.isFinite writable member
  | .null, _, member | .bool _, _, member | .integer _, _, member | .string _, _, member =>
    nomatch member

theorem WritableItems.isFinite {x : Binary64} :
    {items : List Json} → WritableItems items → x ∈ realsOfItems items → x.isFinite = true
  | [], _, member => nomatch member
  | _ :: _, writable, member =>
    (List.mem_append.mp member).elim writable.1.isFinite (WritableItems.isFinite writable.2)

theorem WritableMembers.isFinite {x : Binary64} :
    {members : List (String × Json)} → WritableMembers members → x ∈ realsOfMembers members →
      x.isFinite = true
  | [], _, member => nomatch member
  | _ :: _, writable, member =>
    (List.mem_append.mp member).elim writable.1.isFinite (WritableMembers.isFinite writable.2)

end

theorem writable_int64 (n : Int64) : (integer n.toInt).Writable := by
  have low := n.le_toInt
  have high := n.toInt_lt
  rw [Writable]
  omega

end Json

namespace Value

theorem writable_toJson (v : Value) : v.toJson.Writable := by
  have tagged (kind : String) (content : Json) (inside : content.Writable) :
      (Json.object [("type", .string kind), ("value", content)]).Writable :=
    writable_pair trivial inside
  cases v with
  | null => exact writable_single trivial
  | bool b => exact tagged "bool" (.bool b) trivial
  | int n => exact tagged "int" _ (writable_int64 n)
  | float x =>
    refine tagged "float" (if x.isFinite then .real x else .null) ?_
    split
    · assumption
    · trivial
  | money d => exact tagged "money" (.string d.toText) trivial
  | string s => exact tagged "string" (.string s) trivial
  | date d => exact tagged "date" (.string d.toText) trivial
  | time t => exact tagged "time" (.string t.toText) trivial
  | dateTime m => exact tagged "datetime" (.string m.toText) trivial
  | guid g => exact tagged "guid" (.string g.toText) trivial
  | binary bytes =>
    refine tagged "binary" _ (writable_array fun b _ => ?_)
    have range := b.toNat_lt
    rw [Writable]
    omega

end Value

theorem Constant.writable_toJson (c : Constant) : c.toJson.Writable :=
  writable_pair c.value.writable_toJson trivial

namespace Expr

mutual

theorem writable_toJson : (e : Expr) → e.toJson.Writable
  | constant c => writable_single c.writable_toJson
  | column _ => writable_single trivial
  | function _ args => writable_single (writable_pair trivial (writable_listToJson args))
  | aggregate _ none => writable_single (writable_pair trivial trivial)
  | aggregate _ (some e) => writable_single (writable_pair trivial (writable_toJson e))

theorem writable_listToJson : (es : List Expr) → WritableItems (listToJson es)
  | [] => trivial
  | e :: rest => ⟨writable_toJson e, writable_listToJson rest⟩

end

end Expr

theorem NamedExpr.writable_toJson (n : NamedExpr) : n.toJson.Writable :=
  writable_pair n.expr.writable_toJson trivial

theorem OrderTerm.writable_toJson (t : OrderTerm) : t.toJson.Writable := by
  obtain ⟨e, direction, substitute⟩ := t
  cases substitute with
  | none => exact writable_pair e.writable_toJson trivial
  | some other => exact ⟨e.writable_toJson, trivial, other.writable_toJson, trivial⟩

theorem Json.writable_optional {α : Type} {y : Option α} {toDoc : α → Json}
    (content : ∀ a, y = some a → (toDoc a).Writable) :
    ∀ doc ∈ (y.map toDoc).toList, doc.Writable := by
  cases y with
  | none => exact nofun
  | some a => exact List.forall_mem_singleton.mpr (content a rfl)

/-- The document of a query is one that a text can hold, given that those of its conditions are. -/
theorem Select.writable_of_conditions {q : Select} (sound : q.Sound)
    (conditions : ∀ f, q.filter = some f ∨ q.having = some f → f.toJson.Writable) :
    (Select.toJson q).Writable := by
  have groups :
      ∀ doc ∈ (if q.groupBy.isEmpty then [] else [Json.array (q.groupBy.map Expr.toJson)]),
        doc.Writable := by
    split
    · exact List.forall_mem_nil _
    · exact List.forall_mem_singleton.mpr (writable_array fun e _ => e.writable_toJson)
  have cap : (Json.integer q.maxRows).Writable := by
    have fits := sound.cap
    rw [Writable]
    omega
  have all : ∀ field ∈ q.fields, ∀ doc ∈ field.2, doc.Writable := by
    simp only [fields, List.forall_mem_cons]
    have nothing : ∀ doc ∈ ([] : List Json), doc.Writable := List.forall_mem_nil _
    refine ⟨⟨trivial, nothing⟩, writable_optional fun _ _ => trivial, ⟨?_, nothing⟩,
      writable_optional fun f present => conditions f (.inl present), groups,
      writable_optional fun f present => conditions f (.inr present),
      writable_optional fun _ _ => writable_array fun t _ => t.writable_toJson, ⟨cap, nothing⟩,
      ⟨trivial, nothing⟩, List.forall_mem_nil _⟩
    exact writable_array fun n _ => n.writable_toJson
  rw [Select.toJson_eq, Writable, writableMembers_iff]
  intro m member
  obtain ⟨field, among, inside⟩ := List.mem_flatMap.mp member
  obtain ⟨doc, content, rfl⟩ := List.mem_map.mp inside
  exact all field among doc content

mutual

/-- The document of a checked filter is one that a text can hold. -/
theorem Filter.writable_toJson : (f : Filter) → f.Checked → f.toJson.Writable
  | .compare e _ c _, _ =>
    writable_single ⟨e.writable_toJson, trivial, c.writable_toJson, trivial, trivial⟩
  | .compareNull e _, _ => writable_single (writable_pair e.writable_toJson trivial)
  | .oneOf e _, _ =>
    writable_single (writable_pair e.writable_toJson (writable_array fun c _ => c.writable_toJson))
  | .startsWith e _, _ => writable_single (writable_pair e.writable_toJson trivial)
  | .contains e _, _ => writable_single (writable_pair e.writable_toJson trivial)
  | .between e low high, _ =>
    writable_single ⟨e.writable_toJson, low.writable_toJson, high.writable_toJson, trivial⟩
  | .constant _, _ => writable_single trivial
  | .inSubquery e q, checked => by
    cases checked with
    | inSubquery expr built same =>
      have sound : QueryOf.Sound q := same ▸ built.sound
      exact writable_single (writable_pair e.writable_toJson (Select.writable_toJson q sound))
  | .and fs, checked => by
    cases checked with
    | and parts => exact writable_single (Filter.writable_listToJson fs parts)
  | .or fs, checked => by
    cases checked with
    | or parts => exact writable_single (Filter.writable_listToJson fs parts)
  | .not f, checked => by
    cases checked with
    | not part => exact writable_single (Filter.writable_toJson f part)

theorem Filter.writable_listToJson : (fs : List Filter) → (∀ f ∈ fs, f.Checked) →
    WritableItems (Filter.listToJson fs)
  | [], _ => trivial
  | f :: rest, checked => by
    rw [List.forall_mem_cons] at checked
    exact ⟨Filter.writable_toJson f checked.1, Filter.writable_listToJson rest checked.2⟩

theorem Filter.writable_condition : (c : Option Filter) → (∀ f, c = some f → f.Checked) →
    ∀ f, c = some f → f.toJson.Writable
  | none, _, _, absent => nomatch absent
  | some f, checked, _, rfl => Filter.writable_toJson f (checked f rfl)

/-- The document of a sound query is one that a text can hold. -/
theorem Select.writable_toJson : (q : QueryOf Filter) → q.Sound → (Select.toJson q).Writable
  | ⟨table, tableAlias, columns, filter, groupBy, having, order, maxRows, distinct⟩, sound => by
    apply Select.writable_of_conditions sound
    rintro f (present | present)
    · exact Filter.writable_condition filter sound.filter f present
    · exact Filter.writable_condition having sound.having f present

end

/-- A reading that comes out as a verdict says. -/
theorem Json.Verdict.eq_ite {α : Type} {outcome : Except DocumentFault α} {fits : Prop}
    [Decidable fits] {x : α} (h : Verdict outcome fits x) :
    outcome = if fits then .ok x else .error (.text .tooDeep) := by
  split
  · exact h.accepted ‹_›
  · exact h.refused ‹_›

/-- A query on a table with one condition. -/
def Draft.filtered (table : String) (f : Filter) : Draft :=
  ⟨⟨table, none, .empty, some f, [], none, none, 0, false⟩, false⟩

theorem Draft.reached_filtered {table : String} {f : Filter} (named : isAllBlank table = false)
    (condition : f.Checked) : (Draft.filtered table f).Reached :=
  .withFilter (d := ⟨⟨table, none, .empty, none, [], none, none, 0, false⟩, false⟩)
    (.start (if_neg (Bool.eq_false_iff.mp named))) condition

theorem Select.levels_toJson_filtered (table : String) (f : Filter) :
    (Select.toJson (Draft.filtered table f).query).levels = max 1 f.toJson.levels + 1 := by
  simp [Draft.filtered, Select.toJson, Filter.memberToJson, levels, levelsOfMembers,
    Projection.toJson, Projection.empty, levelsOfItems]

/-- A condition denied a number of times. -/
def Filter.denied : Nat → Filter → Filter
  | 0, f => f
  | n + 1, f => .not (denied n f)

theorem Filter.checked_denied {f : Filter} (checked : f.Checked) (n : Nat) :
    (f.denied n).Checked := by
  induction n with
  | zero => exact checked
  | succ n ih => exact .not ih

theorem Filter.levels_denied (n : Nat) (f : Filter) :
    (denied n f).toJson.levels = f.toJson.levels + n := by
  induction n with
  | zero => rfl
  | succ n ih =>
    rw [denied, Filter.toJson, levels, levelsOfMembers, levelsOfMembers, ih]
    omega

/-- A query that was built comes back from its document, whatever is nested in it, and so it is
compiled alike for every dialect. It comes back from the text of its document as well, by any reader
of numbers that reads the floats in it back, unless more than 127 lists and objects stand inside
each other; then the text is refused as nested too deep. -/
theorem Select.round_trip {d : Draft} (built : d.Reached) :
    Select.ofJson (.ofJson (Select.toJson d.query)) = .ok d.query ∧
    ∀ float : FloatOf, (∀ x ∈ (Select.toJson d.query).reals, ReadsBack float x) →
      readAs float .text Select.ofJson (Select.toJson d.query).compact =
        if (Select.toJson d.query).levels ≤ 127 then .ok d.query else .error (.text .tooDeep) := by
  have whole := upTo_of_levels_le (Select.toJson d.query) _ (Nat.le_refl _)
  constructor
  · rw [← whole]
    exact (Select.ofJson_toJson built _).accepted (Nat.le_refl _)
  · intro float floats
    rw [readAs_compact _ _ (Select.writable_toJson d.query built.sound) floats]
    exact (Select.ofJson_toJson built 127).eq_ite

/-- The people who work more than half of the time. -/
def Draft.halfTime : Draft :=
  .filtered "People"
    (.compare (.column ⟨["Share"]⟩) .gt ⟨.float (.ofDecimal false 5 (-1)), .float⟩ false)

/-- A query with a float in it comes back both ways. -/
theorem Select.round_trip_halfTime :
    Draft.halfTime.Reached ∧
    (Select.toJson Draft.halfTime.query).reals = [.ofDecimal false 5 (-1)] ∧
    ReadsBack nearest (.ofDecimal false 5 (-1)) ∧
    Select.ofJson (.ofJson (Select.toJson Draft.halfTime.query)) = .ok Draft.halfTime.query ∧
    readAs nearest .text Select.ofJson (Select.toJson Draft.halfTime.query).compact =
      .ok Draft.halfTime.query := by
  have finite : (Binary64.ofDecimal false 5 (-1)).isFinite = true := by decide +kernel
  have column : ColumnPath.parse "Share" = .ok ⟨["Share"]⟩ := by decide
  have built : Draft.halfTime.Reached :=
    Draft.reached_filtered (by decide)
      (.compare (.column ⟨"Share", column⟩) (@Constant.Checked.ofValue (.float _) _ rfl finite))
  have reals : (Select.toJson Draft.halfTime.query).reals = [.ofDecimal false 5 (-1)] := by
    have share : (Value.float (.ofDecimal false 5 (-1))).toJson.reals =
        [.ofDecimal false 5 (-1)] := by
      rw [Value.toJson, if_pos finite]
      rfl
    simp [Draft.halfTime, Draft.filtered, Select.toJson, Filter.memberToJson, Filter.toJson,
      Json.reals, realsOfItems, realsOfMembers, Projection.toJson, Projection.empty, Expr.toJson,
      Constant.toJson, ColumnPath.toJson, ColumnType.toJson, share]
  have back : ReadsBack nearest (.ofDecimal false 5 (-1)) := readsBack_nearest finite
  obtain ⟨tree, text⟩ := Select.round_trip built
  refine ⟨built, reals, back, tree, ?_⟩
  rw [text nearest (by rw [reals]; exact List.forall_mem_singleton.mpr back), if_pos]
  rw [Draft.halfTime, Select.levels_toJson_filtered]
  decide

/-- A condition denied 126 times makes a query that is built, and whose text is refused. -/
theorem Select.text_refused :
    (Draft.filtered "T" (.denied 126 (.constant true))).Reached ∧
    readAs nearest .text Select.ofJson (Select.toJson
      (Draft.filtered "T" (.denied 126 (.constant true))).query).compact =
        .error (.text .tooDeep) := by
  have built : (Draft.filtered "T" (.denied 126 (.constant true))).Reached :=
    Draft.reached_filtered (by decide) (Filter.checked_denied .constant 126)
  have writable := Select.writable_toJson _ built.sound
  refine ⟨built, ?_⟩
  rw [readAs_compact _ _ writable fun x member => readsBack_nearest (writable.isFinite member)]
  apply (Select.ofJson_toJson built 127).refused
  rw [Select.levels_toJson_filtered, Filter.levels_denied]
  decide

end SqlScribe
