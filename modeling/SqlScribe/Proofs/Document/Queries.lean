import SqlScribe.Proofs.Document.Expressions
import SqlScribe.Proofs.Query.Building

/-!
# Queries that are written to a document

A query that was built comes back from its document, whatever it is nested in. From a text it comes
back exactly if the text is not nested too deep to be taken apart.
-/

namespace SqlScribe

open Json Text

namespace Draft

/-- Result columns whose aliases differ are added one after the other. -/
theorem foldlM_withNamed {ns : List NamedExpr} {d : Draft}
    (labels : (d.query.columns.items ++ ns).Pairwise fun a b => sameName a.label b.label = false) :
    ns.foldlM withNamed d =
      .ok { d with query := { d.query with columns := ⟨d.query.columns.items ++ ns⟩ } } := by
  induction ns generalizing d with
  | nil => rw [List.append_nil]; rfl
  | cons n rest ih =>
    have free : ∀ m ∈ d.query.columns.items, sameName m.label n.label = false := fun m inside =>
      (List.pairwise_append.mp labels).2.2 m inside n List.mem_cons_self
    have whole : (d.query.columns.items ++ [n]) ++ rest = d.query.columns.items ++ n :: rest := by
      rw [List.append_assoc, List.singleton_append]
    rw [List.foldlM_cons, withNamed_eq_ok.mpr ⟨free, rfl⟩]
    simp only [bind, Except.bind]
    rw [ih (by rwa [whole]), whole]

/-- Groups that differ are added one after the other. -/
theorem foldl_withGroupBy {es : List Expr} {d : Draft}
    (differing : (d.query.groupBy ++ es).Pairwise fun a b => a.equals b = false) :
    es.foldl withGroupBy d =
      { d with query := { d.query with groupBy := d.query.groupBy ++ es } } := by
  rw [foldl_withGroupBy_eq, foldl_taken_of_pairwise differing]

end Draft

namespace Draft

/-- A cap that fits into an integer is set as it is. -/
theorem withMaxRows_ofInt (d : Draft) {count : Nat} (fits : count ≤ 9223372036854775807) :
    d.withMaxRows (.ofInt count) =
      .ok { d with query := { d.query with maxRows := count } } := by
  have value : (Int64.ofInt count).toInt = count := Int64.toInt_ofInt_of_le (by omega) (by omega)
  have positive : ¬ Int64.ofInt count < 0 := by
    rw [Int64.lt_iff_toInt_lt, value]
    exact Int.not_lt.mpr (Int.natCast_nonneg count)
  rw [withMaxRows, if_neg positive, value, Int.toNat_natCast]

end Draft

namespace QueryParts

/-- The parts of a query. -/
def of (q : Select) : QueryParts :=
  ⟨q.table, q.tableAlias, q.columns.items, q.filter, q.groupBy, false, q.having, q.order,
    .ofInt q.maxRows, q.distinct⟩

/-- A sound query is built from its own parts. -/
theorem build_of {q : Select} (h : q.Sound) : (of q).build = .ok q := by
  obtain ⟨table, tableAlias, columns, filter, groupBy, having, order, maxRows, distinct⟩ := q
  have started : Draft.start table =
      .ok ⟨⟨table, none, .empty, none, [], none, none, 0, false⟩, false⟩ :=
    if_neg (Bool.eq_false_iff.mp h.table)
  have named (shortName : Option String) : columns.items.foldlM Draft.withNamed
      ⟨⟨table, shortName, .empty, none, [], none, none, 0, false⟩, false⟩ =
        .ok ⟨⟨table, shortName, columns, none, [], none, none, 0, false⟩, false⟩ :=
    Draft.foldlM_withNamed h.labels
  have grouped (shortName : Option String) (condition : Option Filter) :
      groupBy.foldl Draft.withGroupBy
        ⟨⟨table, shortName, columns, condition, [], none, none, 0, false⟩, false⟩ =
          ⟨⟨table, shortName, columns, condition, groupBy, none, none, 0, false⟩, false⟩ :=
    Draft.foldl_withGroupBy h.differing
  have capped (d : Draft) := d.withMaxRows_ofInt h.cap
  cases tableAlias with
  | none =>
    cases filter <;> cases having <;> cases order <;> cases distinct <;>
      simp only [of, build, started, named, bind, Except.bind, Draft.withFilter, grouped,
        Draft.withHaving, Draft.withOrder, capped] <;>
      rfl
  | some name =>
    have aliased (d : Draft) :
        d.withAlias name = .ok { d with query := { d.query with tableAlias := some name } } :=
      if_neg (Bool.eq_false_iff.mp (h.shortName name rfl))
    cases filter <;> cases having <;> cases order <;> cases distinct <;>
      simp only [of, build, started, aliased, named, bind, Except.bind, Draft.withFilter, grouped,
        Draft.withHaving, Draft.withOrder, capped] <;>
      rfl

end QueryParts

theorem Filter.listToJson_eq_map (fs : List Filter) : Filter.listToJson fs = fs.map toJson := by
  induction fs with
  | nil => rfl
  | cons f rest ih => rw [Filter.listToJson, ih, List.map_cons]

theorem Filter.toJson_ne_null (f : Filter) : f.toJson ≠ .null := by
  cases f <;> exact nofun

/-- The members of a query's document; those that are left out have no content. -/
def Select.fields (q : Select) : List (String × List Json) :=
  [("table", [.string q.table]), ("alias", (q.tableAlias.map Json.string).toList),
    ("columns", [q.columns.toJson]), ("filter", (q.filter.map Filter.toJson).toList),
    ("group_by", if q.groupBy.isEmpty then [] else [.array (q.groupBy.map Expr.toJson)]),
    ("having", (q.having.map Filter.toJson).toList), ("order", (q.order.map Order.toJson).toList),
    ("max_rows", [.integer q.maxRows]), ("distinct", [.bool q.distinct])]

theorem Select.toJson_eq (q : Select) : Select.toJson q = .object (membersOfFields q.fields) := by
  obtain ⟨table, tableAlias, columns, filter, groupBy, having, order, maxRows, distinct⟩ := q
  cases tableAlias <;> cases filter <;> cases groupBy <;> cases having <;> cases order <;> rfl

/-- A query is read from its members, given that its conditions are. -/
theorem Select.readLevels_succ {q : Select} (h : q.Sound) {fuel room : Nat}
    (conditions : ∀ inner, room = inner + 1 → ∀ f, q.filter = some f ∨ q.having = some f →
      Verdict (Filter.readLevels fuel (f.toJson.upTo inner)) (f.toJson.levels ≤ inner) f) :
    Verdict (Select.readLevels (fuel + 1) ((Select.toJson q).upTo room))
      ((Select.toJson q).levels ≤ room) q := by
  have distinct : (q.fields.map Prod.fst).Nodup := by
    simp [Select.fields]
  have found (name : String) (contents : List Json) (member : (name, contents) ∈ q.fields) :=
    filter_membersOfFields distinct member
  have built : inDocument (QueryParts.of q).build = .ok q := by
    rw [QueryParts.build_of h]
    rfl
  have cap : readInt64 (.integer q.maxRows) = .ok (.ofInt q.maxRows) := by
    have fits := h.cap
    have bounds : -9223372036854775808 ≤ (q.maxRows : Int) ∧
        (q.maxRows : Int) ≤ 9223372036854775807 := by omega
    rw [readInt64, fitInt64?, if_pos bounds]
  rw [Select.toJson_eq]
  unfold Select.readLevels
  apply Members.ofSource_verdict
  · intro m member
    obtain ⟨field, among, named⟩ := List.mem_flatMap.mp member
    obtain ⟨doc, -, rfl⟩ := List.mem_map.mp named
    revert field
    simp [Select.fields]
  intro inner members below hold
  have conditions := conditions inner below
  have table := required_verdict hold "table" (found _ [.string q.table] (by simp [Select.fields]))
    (.of_eq_ok rfl trivial : Verdict (readString (.string q.table)) True q.table)
  have shortName := orNone_field hold "alias"
    (found _ (q.tableAlias.map Json.string).toList (by simp [Select.fields])) (fun _ => by simp)
    fun a _ => (.of_eq_ok rfl (Nat.zero_le _) : Verdict (readString (.string a)) _ a)
  have columns := orDefault_verdict [] hold "columns"
    (found _ [q.columns.toJson] (by simp [Select.fields]))
    (readList_verdict fun below _ n member => NamedExpr.ofJson_toJson (h.columns n member) below)
  have filter := orNone_field hold "filter"
    (found _ (q.filter.map Filter.toJson).toList (by simp [Select.fields])) Filter.toJson_ne_null
    fun f present => conditions f (.inl present)
  have groups := orEmpty_field hold "group_by"
    (found _ (if q.groupBy.isEmpty then [] else [.array (q.groupBy.map Expr.toJson)])
      (by simp only [Select.fields, List.mem_cons, true_or, or_true]))
    (readList_verdict fun below _ e member => Expr.ofJson_toJson (h.groups e member) below)
  have infer := orDefault_absent false readBool hold "infer_group_by"
    (filter_membersOfFields_absent (by simp [Select.fields]))
  have having := orNone_field hold "having"
    (found _ (q.having.map Filter.toJson).toList (by simp [Select.fields])) Filter.toJson_ne_null
    fun f present => conditions f (.inr present)
  have order := orNone_field hold "order"
    (found _ (q.order.map Order.toJson).toList (by simp [Select.fields]))
    (fun _ => by simp [Order.toJson])
    fun terms present => Order.ofJson_toJson (h.order terms present) inner
  have count := orDefault_verdict 0 hold "max_rows"
    (found _ [.integer q.maxRows] (by simp [Select.fields]))
    (.of_eq_ok cap trivial : Verdict (readInt64 (.integer q.maxRows)) True _)
  have unique := orDefault_verdict false hold "distinct"
    (found _ [.bool q.distinct] (by simp [Select.fields]))
    (.of_eq_ok rfl trivial : Verdict (readBool (.bool q.distinct)) True q.distinct)
  apply (((((((((((table.map QueryParts.mk).seq shortName).seq columns).seq filter).seq groups).seq
    infer).seq having).seq order).seq count).seq unique).within hold.clear).bind built |>.congr
  rw [levelsOfMembers_membersOfFields]
  simp [Select.fields, Projection.toJson, levels, and_assoc]

/-- The conditions of a query have less depth than the query. -/
theorem Select.height_condition {q : Select} {f : Filter} {fuel room : Nat}
    (present : q.filter = some f ∨ q.having = some f)
    (enough : ((Select.toJson q).upTo (room + 1)).height ≤ fuel + 1) :
    (f.toJson.upTo room).height ≤ fuel := by
  have member : ∃ name, (name, f.toJson) ∈ membersOfFields q.fields := by
    obtain present | present := present
    · exact ⟨"filter", List.mem_flatMap.mpr ⟨("filter", (q.filter.map Filter.toJson).toList),
        by simp [Select.fields], by simp [present]⟩⟩
    · exact ⟨"having", List.mem_flatMap.mpr ⟨("having", (q.having.map Filter.toJson).toList),
        by simp [Select.fields], by simp [present]⟩⟩
  obtain ⟨name, member⟩ := member
  have inside : (f.toJson.upTo room).height ≤
      Source.heightOfMembers (membersUpTo (membersOfFields q.fields) room) := by
    have taken :
        (name, f.toJson.upTo room, none) ∈ membersUpTo (membersOfFields q.fields) room := by
      rw [membersUpTo_eq_map]
      exact List.mem_map.mpr ⟨_, member, rfl⟩
    exact height_le_of_mem_members taken
  rw [Select.toJson_eq] at enough
  simp only [upTo, Source.height] at enough
  omega

namespace Filter

variable {fuel room : Nat}

theorem readCompare {e : Expr} {op : Comparison} {c : Constant} {nullAsDefault : Bool}
    (expr : e.Checked) (value : c.Checked) :
    Verdict (readLevels (fuel + 1) ((compare e op c nullAsDefault).toJson.upTo room))
      ((compare e op c nullAsDefault).toJson.levels ≤ room) (.compare e op c nullAsDefault) := by
  unfold readLevels
  apply readTagged_verdict (by decide)
  intro inner _
  apply Members.ofSource_verdict (by simp)
  intro inmost members _ hold
  have expr := required_verdict hold "expr" rfl (Expr.ofJson_toJson expr inmost)
  have compared := required_verdict hold "op" rfl
    (.of_eq_ok op.ofJson_sql trivial : Verdict (Comparison.ofJson _) True op)
  have value := required_verdict hold "value" rfl (Constant.ofJson_toJson value inmost)
  have flag := orDefault_verdict false hold "null_as_default" rfl
    (.of_eq_ok rfl trivial : Verdict (readBool (.bool nullAsDefault)) True nullAsDefault)
  apply (((((expr.map Filter.compare).seq compared).seq value).seq flag).within hold.clear).congr
  simp [levelsOfMembers, levels]

theorem readCompareNull {e : Expr} {negated : Bool} (expr : e.Checked) :
    Verdict (readLevels (fuel + 1) ((compareNull e negated).toJson.upTo room))
      ((compareNull e negated).toJson.levels ≤ room) (.compareNull e negated) := by
  unfold readLevels
  apply readTagged_verdict (by decide)
  intro inner _
  apply Members.ofSource_verdict (by simp)
  intro inmost members _ hold
  have expr := required_verdict hold "expr" rfl (Expr.ofJson_toJson expr inmost)
  have flag := orDefault_verdict false hold "negated" rfl
    (.of_eq_ok rfl trivial : Verdict (readBool (.bool negated)) True negated)
  apply (((expr.map Filter.compareNull).seq flag).within hold.clear).congr
  simp [levelsOfMembers, levels]

theorem readOneOf {e : Expr} {cs : List Constant} (expr : e.Checked)
    (values : ∀ c ∈ cs, c.Checked) :
    Verdict (readLevels (fuel + 1) ((oneOf e cs).toJson.upTo room))
      ((oneOf e cs).toJson.levels ≤ room) (.oneOf e cs) := by
  unfold readLevels
  apply readTagged_verdict (by decide)
  intro inner _
  apply Members.ofSource_verdict (by simp)
  intro inmost members _ hold
  have expr := required_verdict hold "expr" rfl (Expr.ofJson_toJson expr inmost)
  have items : Verdict
      (readList Constant.ofJson ((Json.array (cs.map Constant.toJson)).upTo inmost))
      ((Json.array (cs.map Constant.toJson)).levels ≤ inmost) cs :=
    readList_verdict fun below _ c member => Constant.ofJson_toJson (values c member) below
  have list := required_verdict hold "values" rfl items
  apply (((expr.map Filter.oneOf).seq list).within hold.clear).congr
  simp [levelsOfMembers, levels]

theorem readStartsWith {e : Expr} {start : String} (expr : e.Checked) :
    Verdict (readLevels (fuel + 1) ((startsWith e start).toJson.upTo room))
      ((startsWith e start).toJson.levels ≤ room) (.startsWith e start) := by
  unfold readLevels
  apply readTagged_verdict (by decide)
  intro inner _
  apply Members.ofSource_verdict (by simp)
  intro inmost members _ hold
  have expr := required_verdict hold "expr" rfl (Expr.ofJson_toJson expr inmost)
  have text := required_verdict hold "prefix" rfl
    (.of_eq_ok rfl trivial : Verdict (readString (.string start)) True start)
  apply (((expr.map Filter.startsWith).seq text).within hold.clear).congr
  simp [levelsOfMembers, levels]

theorem readContains {e : Expr} {needle : String} (expr : e.Checked) :
    Verdict (readLevels (fuel + 1) ((contains e needle).toJson.upTo room))
      ((contains e needle).toJson.levels ≤ room) (.contains e needle) := by
  unfold readLevels
  apply readTagged_verdict (by decide)
  intro inner _
  apply Members.ofSource_verdict (by simp)
  intro inmost members _ hold
  have expr := required_verdict hold "expr" rfl (Expr.ofJson_toJson expr inmost)
  have text := required_verdict hold "needle" rfl
    (.of_eq_ok rfl trivial : Verdict (readString (.string needle)) True needle)
  apply (((expr.map Filter.contains).seq text).within hold.clear).congr
  simp [levelsOfMembers, levels]

theorem readBetween {e : Expr} {low high : Constant} (expr : e.Checked) (lower : low.Checked)
    (upper : high.Checked) :
    Verdict (readLevels (fuel + 1) ((between e low high).toJson.upTo room))
      ((between e low high).toJson.levels ≤ room) (.between e low high) := by
  unfold readLevels
  apply readTagged_verdict (by decide)
  intro inner _
  apply Members.ofSource_verdict (by simp)
  intro inmost members _ hold
  have expr := required_verdict hold "expr" rfl (Expr.ofJson_toJson expr inmost)
  have lower := required_verdict hold "low" rfl (Constant.ofJson_toJson lower inmost)
  have upper := required_verdict hold "high" rfl (Constant.ofJson_toJson upper inmost)
  apply ((((expr.map Filter.between).seq lower).seq upper).within hold.clear).congr
  simp [levelsOfMembers, and_assoc]

theorem readConstant (b : Bool) :
    Verdict (readLevels (fuel + 1) ((constant b).toJson.upTo room))
      ((constant b).toJson.levels ≤ room) (.constant b) := by
  unfold readLevels
  apply readTagged_verdict (by decide)
  intro inner _
  exact .of_eq_ok rfl (Nat.zero_le _)

/-- The filters of a list are read, given that filters with less depth than the list are. -/
theorem readParts {fs : List Filter}
    (enough : ((Json.array (listToJson fs)).upTo room).height ≤ fuel)
    (parts : ∀ f ∈ fs, ∀ {level : Nat}, (f.toJson.upTo level).height ≤ fuel →
      Verdict (readLevels fuel (f.toJson.upTo level)) (f.toJson.levels ≤ level) f) :
    Verdict (readList (readLevels fuel) ((Json.array (listToJson fs)).upTo room))
      ((Json.array (listToJson fs)).levels ≤ room) fs := by
  rw [listToJson_eq_map] at enough ⊢
  exact readList_verdict_of_height enough parts

theorem height_content {name : String} {doc : Json}
    (enough : ((Json.object [(name, doc)]).upTo (room + 1)).height ≤ fuel + 1) :
    (doc.upTo room).height ≤ fuel := by
  simp only [upTo, membersUpTo, Source.height, Source.heightOfMembers] at enough
  omega

end Filter

mutual

/-- A checked filter is read as it was written, if there is enough fuel for its depth. -/
theorem Filter.readLevels_toJson : (f : Filter) → f.Checked → ∀ {fuel room : Nat},
    (f.toJson.upTo room).height ≤ fuel →
      Verdict (Filter.readLevels fuel (f.toJson.upTo room)) (f.toJson.levels ≤ room) f
  | .compare e op c nullAsDefault, checked, _, _, enough => by
    obtain ⟨fuel, rfl⟩ := exists_fuel enough
    cases checked with
    | compare expr value => exact Filter.readCompare expr value
  | .compareNull e negated, checked, _, _, enough => by
    obtain ⟨fuel, rfl⟩ := exists_fuel enough
    cases checked with
    | compareNull expr => exact Filter.readCompareNull expr
  | .oneOf e cs, checked, _, _, enough => by
    obtain ⟨fuel, rfl⟩ := exists_fuel enough
    cases checked with
    | oneOf expr values => exact Filter.readOneOf expr values
  | .startsWith e start, checked, _, _, enough => by
    obtain ⟨fuel, rfl⟩ := exists_fuel enough
    cases checked with
    | startsWith expr => exact Filter.readStartsWith expr
  | .contains e needle, checked, _, _, enough => by
    obtain ⟨fuel, rfl⟩ := exists_fuel enough
    cases checked with
    | contains expr => exact Filter.readContains expr
  | .between e low high, checked, _, _, enough => by
    obtain ⟨fuel, rfl⟩ := exists_fuel enough
    cases checked with
    | between expr lower upper => exact Filter.readBetween expr lower upper
  | .constant b, _, _, _, enough => by
    obtain ⟨fuel, rfl⟩ := exists_fuel enough
    exact Filter.readConstant b
  | .inSubquery e q, checked, _, _, enough => by
    obtain ⟨fuel, rfl⟩ := exists_fuel enough
    cases checked with
    | inSubquery expr built same =>
      have sound : QueryOf.Sound q := same ▸ built.sound
      unfold Filter.readLevels
      apply readTagged_verdict (by decide)
      rintro inner rfl
      apply Members.ofSource_verdict (by simp)
      rintro inmost members rfl hold
      have expr := required_verdict hold "expr" rfl (Expr.ofJson_toJson expr inmost)
      have inside : ((Select.toJson q).upTo inmost).height ≤ fuel := by
        simp only [Filter.toJson, upTo, membersUpTo, Source.height, Source.heightOfMembers]
          at enough
        omega
      have subquery := required_verdict hold "subquery" rfl
        (Select.readLevels_toJson q sound inside)
      apply (((expr.map Filter.inSubquery).seq subquery).within hold.clear).congr
      simp [levelsOfMembers]
  | .and fs, checked, _, _, enough => by
    obtain ⟨fuel, rfl⟩ := exists_fuel enough
    cases checked with
    | and parts =>
      unfold Filter.readLevels
      apply readTagged_verdict (by decide)
      rintro inner rfl
      have list := Filter.readParts (Filter.height_content enough) fun f member _ =>
        Filter.readAll fs parts f member
      exact list.bind rfl
  | .or fs, checked, _, _, enough => by
    obtain ⟨fuel, rfl⟩ := exists_fuel enough
    cases checked with
    | or parts =>
      unfold Filter.readLevels
      apply readTagged_verdict (by decide)
      rintro inner rfl
      have list := Filter.readParts (Filter.height_content enough) fun f member _ =>
        Filter.readAll fs parts f member
      exact list.bind rfl
  | .not f, checked, _, _, enough => by
    obtain ⟨fuel, rfl⟩ := exists_fuel enough
    cases checked with
    | not part =>
      unfold Filter.readLevels
      apply readTagged_verdict (by decide)
      rintro inner rfl
      exact (Filter.readLevels_toJson f part (Filter.height_content enough)).bind rfl

theorem Filter.readAll : (fs : List Filter) → (∀ f ∈ fs, f.Checked) → ∀ f ∈ fs,
    ∀ {fuel room : Nat}, (f.toJson.upTo room).height ≤ fuel →
      Verdict (Filter.readLevels fuel (f.toJson.upTo room)) (f.toJson.levels ≤ room) f
  | [], _, _, member, _, _, _ => nomatch member
  | first :: rest, checked, f, member, _, _, enough => by
    rw [List.forall_mem_cons] at checked
    cases member with
    | head => exact Filter.readLevels_toJson first checked.1 enough
    | tail _ later => exact Filter.readAll rest checked.2 f later enough

theorem Filter.readCondition : (c : Option Filter) → (∀ f, c = some f → f.Checked) →
    ∀ f, c = some f → ∀ {fuel room : Nat}, (f.toJson.upTo room).height ≤ fuel →
      Verdict (Filter.readLevels fuel (f.toJson.upTo room)) (f.toJson.levels ≤ room) f
  | none, _, _, absent, _, _, _ => nomatch absent
  | some f, checked, _, rfl, _, _, enough => Filter.readLevels_toJson f (checked f rfl) enough

/-- A sound query is read as it was written, if there is enough fuel for its depth. -/
theorem Select.readLevels_toJson : (q : QueryOf Filter) → q.Sound → ∀ {fuel room : Nat},
    ((Select.toJson q).upTo room).height ≤ fuel →
      Verdict (Select.readLevels fuel ((Select.toJson q).upTo room))
        ((Select.toJson q).levels ≤ room) q
  | ⟨table, tableAlias, columns, filter, groupBy, having, order, maxRows, distinct⟩, sound, _, _,
    enough => by
    obtain ⟨fuel, rfl⟩ := exists_fuel enough
    apply Select.readLevels_succ sound
    rintro inner rfl f (present | present)
    · exact Filter.readCondition filter sound.filter f present
        (Select.height_condition (.inl present) enough)
    · exact Filter.readCondition having sound.having f present
        (Select.height_condition (.inr present) enough)

end

/-- A query that was built is read as it was written, or refused as nested too deep. -/
theorem Select.ofJson_toJson {d : Draft} (built : d.Reached) (room : Nat) :
    Verdict (Select.ofJson ((Select.toJson d.query).upTo room))
      ((Select.toJson d.query).levels ≤ room) d.query :=
  Select.readLevels_toJson d.query built.sound (Nat.le_refl _)

end SqlScribe
