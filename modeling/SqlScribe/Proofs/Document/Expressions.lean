import SqlScribe.Document.Select
import SqlScribe.Proofs.Document.Values

/-!
# Expressions that are written to a document

Checked constants, expressions, result columns and orderings are read as they were written, each
unless it is nested too deep.
-/

namespace SqlScribe

open Json

theorem Func.ofJson_name (f : Func) : ofJson (.string f.name) = .ok f :=
  readName_eq_ok (by cases f <;> decide) (by cases f <;> decide)

theorem Aggregate.ofJson_name (f : Aggregate) : ofJson (.string f.name) = .ok f :=
  readName_eq_ok (by cases f <;> decide) (by cases f <;> decide)

theorem Comparison.ofJson_sql (op : Comparison) : ofJson (.string op.sql) = .ok op :=
  readName_eq_ok (by cases op <;> decide) (by cases op <;> decide)

theorem Direction.ofJson_name (direction : Direction) :
    ofJson (.string direction.name) = .ok direction :=
  readName_eq_ok (by cases direction <;> decide) (by cases direction <;> decide)

theorem ColumnPath.ofJson_toJson {path : ColumnPath} (checked : path.Checked) (room : Nat) :
    ofJson (path.toJson.upTo room) = .ok path := by
  simp only [toJson, upTo, ofJson, readString, bind, Except.bind, checked.parse_fullName]
  rfl

/-- A checked constant is read as it was written. -/
theorem Constant.ofJson_toJson {c : Constant} (checked : c.Checked) (room : Nat) :
    Verdict (ofJson (c.toJson.upTo room)) (c.toJson.levels ≤ room) c := by
  apply Members.ofSource_verdict (by simp)
  intro inner members _ hold
  have value := required_verdict hold "value" rfl
    (c.value.ofJson_toJson checked.finite inner)
  have type := orDefault_verdict .unknown hold "type" rfl
    (.of_eq_ok (c.type.ofJson_toJson inner) trivial : Verdict _ True c.type)
  have made : inDocument (Constant.typed c.value c.type) = .ok c := by
    rw [checked.typed_self]
    rfl
  apply ((((value.map Prod.mk).seq type).within hold.clear).bind made).congr
  simp [levelsOfMembers, levels, ColumnType.toJson]

theorem Expr.listToJson_eq_map (es : List Expr) : listToJson es = es.map toJson := by
  induction es with
  | nil => rfl
  | cons e rest ih => rw [listToJson, ih, List.map_cons]

theorem Expr.toJson_ne_null (e : Expr) : e.toJson ≠ .null := by
  cases e with
  | aggregate f arg => cases arg <;> exact nofun
  | _ => exact nofun

/-- A checked expression is read as it was written, if there is enough fuel for its depth. -/
theorem Expr.readLevels_toJson {e : Expr} (checked : e.Checked) {fuel room : Nat}
    (enough : (e.toJson.upTo room).height ≤ fuel) :
    Verdict (readLevels fuel (e.toJson.upTo room)) (e.toJson.levels ≤ room) e := by
  induction checked generalizing fuel room with
  | constant value =>
    obtain ⟨fuel, rfl⟩ := exists_fuel enough
    apply readTagged_verdict (by decide)
    intro inner _
    exact (Constant.ofJson_toJson value inner).bind rfl
  | column named =>
    obtain ⟨fuel, rfl⟩ := exists_fuel enough
    apply readTagged_verdict (by decide)
    intro inner _
    exact (Verdict.of_eq_ok (ColumnPath.ofJson_toJson named inner) (Nat.zero_le _)).bind rfl
  | @function f args _ ih =>
    obtain ⟨fuel, rfl⟩ := exists_fuel enough
    apply readTagged_verdict (by decide)
    rintro inner rfl
    apply Members.ofSource_verdict (by simp)
    rintro inmost members rfl hold
    have func := required_verdict hold "func" rfl
      (.of_eq_ok f.ofJson_name trivial : Verdict (Func.ofJson _) True f)
    have inside : ((Json.array (listToJson args)).upTo inmost).height ≤ fuel := by
      rw [toJson] at enough
      generalize Json.array (listToJson args) = doc at enough ⊢
      simp only [upTo, membersUpTo, Source.height, Source.heightOfMembers] at enough
      omega
    have items : Verdict (readList (readLevels fuel) ((Json.array (listToJson args)).upTo inmost))
        ((Json.array (listToJson args)).levels ≤ inmost) args := by
      rw [listToJson_eq_map] at inside ⊢
      exact readList_verdict_of_height inside fun arg member _ => ih arg member
    have list := required_verdict hold "args" rfl items
    apply (((func.map Expr.function).seq list).within hold.clear).congr
    simp [levelsOfMembers, levels]
  | @rows f =>
    obtain ⟨fuel, rfl⟩ := exists_fuel enough
    apply readTagged_verdict (by decide)
    intro inner _
    apply Members.ofSource_verdict (by simp)
    intro inmost members _ hold
    have func := required_verdict hold "func" rfl
      (.of_eq_ok f.ofJson_name trivial : Verdict (Aggregate.ofJson _) True f)
    have arg : (orAbsent members "arg" (readLevels fuel)).Verdict True none := by
      rw [orAbsent_eq_orNone hold]
      exact orNone_null hold "arg" rfl
    apply (((func.map Expr.aggregate).seq arg).within hold.clear).congr
    simp [levelsOfMembers, levels]
  | @aggregate f e _ ih =>
    obtain ⟨fuel, rfl⟩ := exists_fuel enough
    apply readTagged_verdict (by decide)
    rintro inner rfl
    apply Members.ofSource_verdict (by simp)
    rintro inmost members rfl hold
    have func := required_verdict hold "func" rfl
      (.of_eq_ok f.ofJson_name trivial : Verdict (Aggregate.ofJson _) True f)
    have arg : (orAbsent members "arg" (readLevels fuel)).Verdict (e.toJson.levels ≤ inmost)
        (some e) := by
      rw [orAbsent_eq_orNone hold]
      apply orNone_verdict hold "arg" rfl e.toJson_ne_null
      apply ih
      simp only [toJson, upTo, membersUpTo, Source.height, Source.heightOfMembers] at enough
      omega
    apply (((func.map Expr.aggregate).seq arg).within hold.clear).congr
    simp [levelsOfMembers, levels]

/-- A checked expression is read as it was written. -/
theorem Expr.ofJson_toJson {e : Expr} (checked : e.Checked) (room : Nat) :
    Verdict (ofJson (e.toJson.upTo room)) (e.toJson.levels ≤ room) e :=
  readLevels_toJson checked (Nat.le_refl _)

/-- A checked result column is read as it was written, its alias included. -/
theorem NamedExpr.ofJson_toJson {n : NamedExpr} (checked : n.Checked) (room : Nat) :
    Verdict (ofJson (n.toJson.upTo room)) (n.toJson.levels ≤ room) n := by
  apply Members.ofSource_verdict (by simp)
  intro inner members _ hold
  have expr := required_verdict hold "expr" rfl (Expr.ofJson_toJson checked.parts.1 inner)
  have label := orNone_verdict hold "alias" rfl (nofun : Json.string n.label ≠ .null)
    (.of_eq_ok rfl trivial : Verdict (readString _) True n.label)
  have made : inDocument (named n.expr n.label) = .ok n := by
    rw [checked.named_self]
    rfl
  apply ((((expr.map Prod.mk).seq label).within hold.clear).bind made).congr
  simp [levelsOfMembers, levels]

/-- A term of an ordering is read as it was written, with its substitute if it has one. -/
theorem OrderTerm.ofJson_toJson {t : OrderTerm} (checked : t.Checked) (room : Nat) :
    Verdict (ofJson (t.toJson.upTo room)) (t.toJson.levels ≤ room) t := by
  obtain ⟨e, direction, substitute⟩ := t
  cases substitute with
  | none =>
    apply Members.ofSource_verdict (by simp)
    intro inner members _ hold
    have expr := required_verdict hold "expr" rfl (Expr.ofJson_toJson checked.expr inner)
    have order := orDefault_verdict .asc hold "order" rfl
      (.of_eq_ok direction.ofJson_name trivial : Verdict (Direction.ofJson _) True direction)
    have other := orNone_absent Expr.ofJson hold "null_substitute" rfl
    apply ((((expr.map OrderTerm.mk).seq order).seq other).within hold.clear).congr
    simp [levelsOfMembers, levels]
  | some s =>
    apply Members.ofSource_verdict (by simp)
    intro inner members _ hold
    have expr := required_verdict hold "expr" rfl (Expr.ofJson_toJson checked.expr inner)
    have order := orDefault_verdict .asc hold "order" rfl
      (.of_eq_ok direction.ofJson_name trivial : Verdict (Direction.ofJson _) True direction)
    have other := orNone_verdict hold "null_substitute" rfl s.toJson_ne_null
      (Expr.ofJson_toJson (checked.substitute s rfl) inner)
    apply ((((expr.map OrderTerm.mk).seq order).seq other).within hold.clear).congr
    simp [levelsOfMembers, levels]

theorem Order.ofJson_toJson {order : Order} (checked : ∀ t ∈ order, t.Checked) (room : Nat) :
    Verdict (Order.ofJson (order.toJson.upTo room)) (order.toJson.levels ≤ room) order :=
  readList_verdict fun inner _ t member => OrderTerm.ofJson_toJson (checked t member) inner

end SqlScribe
