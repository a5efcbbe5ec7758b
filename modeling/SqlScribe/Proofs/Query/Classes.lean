import SqlScribe.Proofs.Query.Aggregation

/-!
# What the class of an expression says

The class is found by merging those of the arguments, call by call. It says whether a column stands
outside of every aggregate call and whether an aggregate is called at all, and no more than that:
neither the order of arguments nor their grouping into calls has a part in it.
-/

namespace SqlScribe

theorem Aggregation.of_inj {a b c d : Bool} : of a b = of c d ↔ a = c ∧ b = d := by
  cases a <;> cases b <;> cases c <;> cases d <;> decide

namespace Expr

/-- The part stands in an expression outside of every aggregate call. -/
inductive Outside (part : Expr) : Expr → Prop
  | whole : Outside part part
  | argument {f : Func} {args : List Expr} {e : Expr} (member : e ∈ args)
      (inside : Outside part e) : Outside part (.function f args)

/-- The part stands somewhere in an expression, be it inside of an aggregate call. -/
inductive Anywhere (part : Expr) : Expr → Prop
  | whole : Anywhere part part
  | argument {f : Func} {args : List Expr} {e : Expr} (member : e ∈ args)
      (inside : Anywhere part e) : Anywhere part (.function f args)
  | operand {f : Aggregate} {e : Expr} (inside : Anywhere part e) :
      Anywhere part (.aggregate f (some e))

/-- Some column stands outside of every aggregate call. -/
def HasBareColumn (e : Expr) : Prop := ∃ path, Outside (.column path) e

/-- Some aggregate is called somewhere. -/
def CallsAggregate (e : Expr) : Prop := ∃ f arg, Anywhere (.aggregate f arg) e

variable {part a b e : Expr}

theorem leavesOf_eq_flatMap (es : List Expr) : leavesOf es = es.flatMap leaves := by
  induction es with
  | nil => rfl
  | cons e rest ih => rw [leavesOf, ih, List.flatMap_cons]

mutual

theorem outside_of_mem_leaves : (e : Expr) → part ∈ e.leaves → Outside part e
  | constant c, member => by
    rw [List.mem_singleton.mp member]
    exact .whole
  | column path, member => by
    rw [List.mem_singleton.mp member]
    exact .whole
  | function f args, member => by
    obtain ⟨e, argument, inside⟩ := outside_of_mem_leavesOf args member
    exact .argument argument inside
  | aggregate f arg, member => by
    rw [List.mem_singleton.mp member]
    exact .whole

theorem outside_of_mem_leavesOf : (es : List Expr) → part ∈ leavesOf es →
    ∃ e ∈ es, Outside part e
  | e :: rest, member => by
    obtain here | later := List.mem_append.mp member
    · exact ⟨e, List.mem_cons_self, outside_of_mem_leaves e here⟩
    · obtain ⟨other, listed, inside⟩ := outside_of_mem_leavesOf rest later
      exact ⟨other, List.mem_cons_of_mem e listed, inside⟩

end

/-- What is no function call stands outside of the aggregate calls exactly if it is a leaf. -/
theorem outside_iff_mem_leaves (leaf : part.leaves = [part]) :
    Outside part e ↔ part ∈ e.leaves := by
  constructor
  · intro outside
    induction outside with
    | whole =>
      rw [leaf]
      exact List.mem_singleton_self part
    | argument member _ ih =>
      rw [leaves, leavesOf_eq_flatMap]
      exact List.mem_flatMap.mpr ⟨_, member, ih⟩
  · exact outside_of_mem_leaves e

theorem hasColumn_iff : e.hasColumn = true ↔ e.HasBareColumn := by
  have columnLeaf (path : ColumnPath) : Outside (.column path) e ↔ .column path ∈ e.leaves :=
    outside_iff_mem_leaves rfl
  simp only [hasColumn, HasBareColumn, List.any_eq_true, columnLeaf]
  constructor
  · rintro ⟨leaf, member, isColumn⟩
    cases leaf with
    | column path => exact ⟨path, member⟩
    | _ => cases isColumn
  · rintro ⟨path, member⟩
    exact ⟨.column path, member, rfl⟩

/-- An aggregate call inside of another one comes with that one. -/
theorem outside_of_anywhere {f : Aggregate} {arg : Option Expr}
    (within : Anywhere (.aggregate f arg) e) : ∃ g arg', Outside (.aggregate g arg') e := by
  induction within with
  | whole => exact ⟨f, arg, .whole⟩
  | argument member _ ih =>
    obtain ⟨g, arg', outside⟩ := ih
    exact ⟨g, arg', .argument member outside⟩
  | @operand g e => exact ⟨g, some e, .whole⟩

theorem Outside.anywhere (h : Outside part e) : Anywhere part e := by
  induction h with
  | whole => exact .whole
  | argument member _ ih => exact .argument member ih

theorem hasAggregate_iff : e.hasAggregate = true ↔ e.CallsAggregate := by
  rw [hasAggregate, List.any_eq_true]
  constructor
  · rintro ⟨leaf, member, isCall⟩
    cases leaf with
    | aggregate f arg => exact ⟨f, arg, (outside_of_mem_leaves e member).anywhere⟩
    | _ => cases isCall
  · rintro ⟨f, arg, within⟩
    obtain ⟨g, arg', outside⟩ := outside_of_anywhere within
    exact ⟨.aggregate g arg', (outside_iff_mem_leaves rfl).mp outside, rfl⟩

mutual

theorem containsAggregate_eq : (e : Expr) → e.containsAggregate = e.hasAggregate
  | constant _ => rfl
  | column _ => rfl
  | function _ args => by
    rw [containsAggregate, hasAggregate, leaves, anyAggregate_eq args]
  | aggregate _ _ => rfl

theorem anyAggregate_eq : (es : List Expr) → anyAggregate es = (leavesOf es).any isAggregate
  | [] => rfl
  | e :: rest => by
    rw [anyAggregate, leavesOf, List.any_append, containsAggregate_eq e, anyAggregate_eq rest,
      hasAggregate]

end

/-- Anywhere in the expression, arguments of a function call have changed places, or some that
stand side by side have been put into a call of their own, or taken out of one. -/
inductive Rearranged : Expr → Expr → Prop
  | refl (e : Expr) : Rearranged e e
  | symm {a b : Expr} (back : Rearranged a b) : Rearranged b a
  | trans {a b c : Expr} (first : Rearranged a b) (second : Rearranged b c) : Rearranged a c
  | reorder (f : Func) {args others : List Expr} (same : args.Perm others) :
      Rearranged (.function f args) (.function f others)
  | group (f g : Func) (before together after : List Expr) :
      Rearranged (.function f (before ++ together ++ after))
        (.function f (before ++ .function g together :: after))
  | argument (f : Func) (before after : List Expr) {a b : Expr} (inside : Rearranged a b) :
      Rearranged (.function f (before ++ a :: after)) (.function f (before ++ b :: after))
  | operand (f : Aggregate) {a b : Expr} (inside : Rearranged a b) :
      Rearranged (.aggregate f (some a)) (.aggregate f (some b))

theorem any_leaves_function (holds : Expr → Bool) (f : Func) (args : List Expr) :
    (function f args).leaves.any holds = args.any fun e => e.leaves.any holds := by
  rw [leaves, leavesOf_eq_flatMap, List.any_flatMap]

/-- Whether a leaf of a kind is there does not depend on the arrangement, if the kind of an
aggregate call does not depend on what is aggregated. -/
theorem Rearranged.any_leaves {holds : Expr → Bool}
    (calls : ∀ f a b, holds (.aggregate f (some a)) = holds (.aggregate f (some b)))
    (h : Rearranged a b) : a.leaves.any holds = b.leaves.any holds := by
  induction h with
  | refl => rfl
  | symm _ ih => exact ih.symm
  | trans _ _ first second => exact first.trans second
  | reorder f same =>
    rw [any_leaves_function, any_leaves_function]
    exact same.any_eq
  | group f g before together after =>
    simp only [any_leaves_function, List.any_append, List.any_cons, Bool.or_assoc]
  | argument f before after _ ih =>
    simp only [any_leaves_function, List.any_append, List.any_cons, ih]
  | @operand f a b =>
    rw [leaves, leaves, List.any_cons, List.any_cons, calls f a b, List.any_nil]

theorem Rearranged.aggregation (h : Rearranged a b) : b.aggregation = a.aggregation := by
  have columns : a.hasColumn = b.hasColumn := h.any_leaves fun _ _ _ => rfl
  have aggregates : a.hasAggregate = b.hasAggregate := h.any_leaves fun _ _ _ => rfl
  rw [aggregation_eq, aggregation_eq, columns, aggregates]

/-- The class of an expression tells exactly whether a column stands in it outside of every
aggregate call and whether an aggregate is called, and it stays what it is however arguments are
reordered or regrouped. -/
theorem class_of_contents (e : Expr) :
    (e.aggregation = .mixed ↔ e.HasBareColumn ∧ e.CallsAggregate) ∧
      (e.aggregation = .columns ↔ e.HasBareColumn ∧ ¬ e.CallsAggregate) ∧
      (e.aggregation = .aggregate ↔ ¬ e.HasBareColumn ∧ e.CallsAggregate) ∧
      (e.aggregation = .constant ↔ ¬ e.HasBareColumn ∧ ¬ e.CallsAggregate) ∧
      (e.containsAggregate = true ↔ e.CallsAggregate) ∧
      ∀ other, Rearranged e other → other.aggregation = e.aggregation := by
  have classOf (columns aggregates : Bool) : e.aggregation = .of columns aggregates ↔
      e.hasColumn = columns ∧ e.hasAggregate = aggregates := by
    rw [aggregation_eq, Aggregation.of_inj]
  rw [← hasColumn_iff, ← hasAggregate_iff, containsAggregate_eq, Bool.not_eq_true,
    Bool.not_eq_true]
  exact ⟨classOf true true, classOf true false, classOf false true, classOf false false, Iff.rfl,
    fun other same => same.aggregation⟩

/-- An amount that was agreed on, else the greatest one, else nothing. -/
def agreedOrGreatest : Expr :=
  .function .coalesce [.column ⟨["Agreed"]⟩, .aggregate .max (some (.column ⟨["Amount"]⟩)),
    .constant (.ofInt 0)]

/-- The same arguments from right to left, the first two in a call of their own. -/
def greatestOrAgreed : Expr :=
  .function .coalesce [.function .coalesce [.constant (.ofInt 0),
    .aggregate .max (some (.column ⟨["Amount"]⟩))], .column ⟨["Agreed"]⟩]

theorem class_of_contents_agreed :
    Rearranged agreedOrGreatest greatestOrAgreed ∧ greatestOrAgreed.aggregation = .mixed := by
  have rearranged : Rearranged agreedOrGreatest greatestOrAgreed :=
    .trans (.reorder .coalesce (List.reverse_perm _).symm)
      (.group .coalesce .coalesce [] [_, _] [_])
  obtain ⟨mixed, -, -, -, -, kept⟩ := class_of_contents agreedOrGreatest
  have column : agreedOrGreatest.HasBareColumn := ⟨_, .argument List.mem_cons_self .whole⟩
  have call : agreedOrGreatest.CallsAggregate :=
    ⟨_, _, .argument (List.mem_cons_of_mem _ List.mem_cons_self) .whole⟩
  exact ⟨rearranged, (kept greatestOrAgreed rearranged).trans (mixed.mpr ⟨column, call⟩)⟩

end Expr

end SqlScribe
