import Mathlib.Order.Compare
import SqlScribe.Proofs.Condition.Filters
import SqlScribe.Proofs.Statement.Script
import SqlScribe.Proofs.Value.Ordering

/-!
# Bounds written as text

A day or a moment is compared with a text by converting the text first. The text is converted to a
moment unless the cell is a day or the beginning of one: then it is converted to a day, and its time
is lost. So the text stands for the moment that it denotes except where the cell is the beginning
of the very day of a later moment: there the two count as equal.
-/

namespace SqlScribe

theorem Time.rank_midnight : midnight.rank = 0 := rfl

namespace DateTime

/-- Moments are ordered by their days, and those of one day by their times. -/
theorem compare_rank (m n : DateTime) :
    compare m.rank n.rank =
      (compare m.date.rank n.date.rank).then (compare m.time.rank n.time.rank) := by
  have late := m.time.rank_lt
  have late' := n.time.rank_lt
  unfold rank
  obtain less | same | greater := lt_trichotomy m.date.rank n.date.rank
  · rw [compare_lt_iff_lt.mpr less, compare_lt_iff_lt.mpr (by omega)]
    rfl
  · rw [same, Std.compare_self, Ordering.eq_then]
    obtain less | same | greater := lt_trichotomy m.time.rank n.time.rank
    · rw [compare_lt_iff_lt.mpr less, compare_lt_iff_lt.mpr (by omega)]
    · rw [same, Std.compare_self, Std.compare_self]
    · rw [compare_gt_iff_gt.mpr greater, compare_gt_iff_gt.mpr (by omega)]
  · rw [compare_gt_iff_gt.mpr greater, compare_gt_iff_gt.mpr (by omega)]
    rfl

variable {x m : DateTime}

/-- A moment is the beginning of the day of another one, which is later. -/
def OpensDayOf (x m : DateTime) : Prop := x = startOf m.date ∧ m.time ≠ .midnight

instance : Decidable (x.OpensDayOf m) := inferInstanceAs (Decidable (_ ∧ _))

theorem OpensDayOf.compare_rank (h : x.OpensDayOf m) : compare x.rank m.rank = .lt := by
  have later : Time.midnight.rank < m.time.rank := by
    rw [Time.rank_midnight]
    exact Nat.pos_of_ne_zero fun zero => h.2 (Time.rank_inj.mp (zero.trans Time.rank_midnight.symm))
  rw [DateTime.compare_rank, h.1, startOf, Std.compare_self, Ordering.eq_then]
  exact compare_lt_iff_lt.mpr later

/-- Between the beginning of a day and a moment the days decide, unless they are the same. -/
theorem compare_days (midnight : x.time = .midnight) (m : DateTime) :
    compare x.date.rank m.date.rank =
      if x.OpensDayOf m then .eq else compare x.rank m.rank := by
  split
  · rename_i opening
    rw [opening.1, startOf, Std.compare_self]
  · rename_i other
    rw [DateTime.compare_rank]
    by_cases same : x.date = m.date
    · have start : x = startOf m.date := by
        rw [← same, startOf, ← midnight]
      have begin : m.time = .midnight := by_contra fun later => other ⟨start, later⟩
      rw [same, midnight, begin, Std.compare_self, Std.compare_self]
      rfl
    · have decided : compare x.date.rank m.date.rank ≠ .eq := fun tie =>
        same (Date.rank_inj.mp (compare_eq_iff_eq.mp tie))
      cases order : compare x.date.rank m.date.rank with
      | eq => exact absurd order decided
      | _ => rfl

end DateTime

namespace Value

variable {v : Value} {x m : DateTime} {s : String}

/-- The moment as which a day or a moment is compared. -/
def moment? : Value → Option DateTime
  | date d => some (.startOf d)
  | dateTime m => some m
  | _ => none

theorem isNull_of_moment? (cell : v.moment? = some x) : v.isNull = false := by
  cases v <;> first | rfl | cases cell

theorem compareConverted_moment (cell : v.moment? = some x) (m : DateTime) :
    v.compareConverted (.dateTime m) = .ok (compare x.rank m.rank) := by
  cases v <;> cases cell <;> rfl

theorem compareConverted_of_none {w u : Value} {order : Ordering} (unordered : v.compare? w = none)
    (converted : w.convert? v.columnType = some u) (ordered : v.compare? u = some order) :
    v.compareConverted w = .ok order := by
  unfold compareConverted
  rw [unordered, convert_eq_ok.mpr converted]
  simp [ordered, bind, Except.bind, pure, Except.pure]

/-- A text stands for the moment that it denotes, unless its time is lost. -/
theorem compareConverted_text (cell : v.moment? = some x)
    (denotes : (string s).convert? .dateTime = some (.dateTime m)) :
    v.compareConverted (.string s) =
      .ok (if x.OpensDayOf m then .eq else compare x.rank m.rank) := by
  have read : DateTime.ofFreeText? s = some m := by
    simpa [convert?, isNull, toDateTime?] using denotes
  have day : (string s).convert? .date = some (.date m.date) := by
    simp [convert?, isNull, toDate?, read]
  cases v with
  | date d =>
    cases cell
    rw [← DateTime.compare_days rfl]
    exact compareConverted_of_none rfl day rfl
  | dateTime n =>
    cases cell
    by_cases midnight : x.time = .midnight
    · have type : (dateTime x).columnType = .date := if_pos midnight
      have order : (dateTime x).compare? (date m.date) =
          some (compare x.date.rank m.date.rank) := by
        change some (compare x.rank (DateTime.startOf m.date).rank) = _
        rw [DateTime.compare_rank, DateTime.startOf, midnight, Std.compare_self, Ordering.then_eq]
      rw [← DateTime.compare_days midnight]
      exact compareConverted_of_none rfl (type ▸ day) order
    · have type : (dateTime x).columnType = .dateTime := if_neg midnight
      have ahead : ¬ x.OpensDayOf m := fun opening => midnight (by rw [opening.1]; rfl)
      rw [if_neg ahead]
      exact compareConverted_of_none rfl (type ▸ denotes) rfl
  | _ => cases cell

end Value

/-- Only these two operators do not tell equal from less. -/
theorem Comparison.holds_eq_iff_lt (op : Comparison) :
    op.holds .eq = op.holds .lt ↔ op = .le ∨ op = .gt := by
  cases op <;> decide

/-- A constant is a text, and another one is the moment that it denotes. -/
structure Constant.Spells (c c' : Constant) (m : DateTime) : Prop where
  text : ∃ s, c.value = .string s ∧ (Value.string s).convert? .dateTime = some (.dateTime m)
  moment : c'.value = .dateTime m

/-- A constant is another one, or a text for it that does not lose its time beside a moment. -/
def Constant.Replaces (x : DateTime) (c c' : Constant) : Prop :=
  c = c' ∨ ∃ m, c.Spells c' m ∧ ¬ x.OpensDayOf m

/-- Two constants count alike beside a value. -/
structure Constant.AlikeFor (v : Value) (c c' : Constant) : Prop where
  null : c.isNull = c'.isNull
  order : v.compareConverted c.value = v.compareConverted c'.value

namespace Constant

variable {v : Value} {x m : DateTime} {c c' : Constant}

theorem Spells.isNull (h : c.Spells c' m) : c.isNull = false ∧ c'.isNull = false := by
  obtain ⟨s, text, -⟩ := h.text
  rw [Constant.isNull, Constant.isNull, text, h.moment]
  exact ⟨rfl, rfl⟩

theorem Spells.compare_text (h : c.Spells c' m) (cell : v.moment? = some x) :
    v.compareConverted c.value = .ok (if x.OpensDayOf m then .eq else compare x.rank m.rank) := by
  obtain ⟨s, text, denotes⟩ := h.text
  rw [text]
  exact Value.compareConverted_text cell denotes

theorem Spells.compare_moment (h : c.Spells c' m) (cell : v.moment? = some x) :
    v.compareConverted c'.value = .ok (compare x.rank m.rank) := by
  rw [h.moment]
  exact Value.compareConverted_moment cell m

theorem Replaces.alikeFor (h : Replaces x c c') (cell : v.moment? = some x) : AlikeFor v c c' := by
  obtain rfl | ⟨m, spelled, ahead⟩ := h
  · exact ⟨rfl, rfl⟩
  · refine ⟨spelled.isNull.1.trans spelled.isNull.2.symm, ?_⟩
    rw [spelled.compare_text cell, spelled.compare_moment cell, if_neg ahead]

end Constant

namespace Filter

variable {v : Value} {x m : DateTime} {c c' : Constant} {t : Table} {row : Row} {e : Expr}

open Constant (AlikeFor)

theorem anyEqual_alike {cs cs' : List Constant} (h : List.Forall₂ (AlikeFor v) cs cs') :
    anyEqual v cs = anyEqual v cs' := by
  induction h with
  | nil => rfl
  | cons alike _ ih => rw [anyEqual, anyEqual, alike.null, alike.order, ih]

/-- Constants of which none equals the value are passed over. -/
theorem anyEqual_append {cs : List Constant} (different : anyEqual v cs = .ok false)
    (rest : List Constant) : anyEqual v (cs ++ rest) = anyEqual v rest := by
  induction cs with
  | nil => rfl
  | cons c others ih =>
    rw [anyEqual] at different
    rw [List.cons_append, anyEqual]
    split
    · rename_i null
      rw [if_pos null] at different
      exact ih different
    · rename_i given
      rw [if_neg given] at different
      obtain ⟨order, compared, different⟩ := bind_eq_ok_iff.mp different
      rw [compared]
      cases order with
      | eq => cases different
      | _ => exact ih different

theorem testOneOf_known (known : v.isNull = false) (cs : List Constant) :
    testOneOf v cs = some <$> anyEqual v cs := by
  rw [testOneOf, if_neg (Bool.eq_false_iff.mp known)]

theorem testOneOf_alike (known : v.isNull = false) {cs cs' : List Constant}
    (h : List.Forall₂ (AlikeFor v) cs cs') : testOneOf v cs = testOneOf v cs' := by
  rw [testOneOf_known known, testOneOf_known known, anyEqual_alike h]

/-- Of the upper end of an interval only matters whether the value lies above it. -/
theorem testBetween_alike {low low' high high' : Constant} (lower : AlikeFor v low low')
    (upper : (· != .gt) <$> v.compareConverted high.value =
      (· != .gt) <$> v.compareConverted high'.value) :
    testBetween v low high = testBetween v low' high' := by
  have last (c : Constant) : (do return some ((← v.compareConverted c.value) != .gt)) =
      some <$> (· != .gt) <$> v.compareConverted c.value := by
    cases v.compareConverted c.value <;> rfl
  unfold testBetween
  rw [lower.order, last high, last high', upper]

theorem comparedValue_of_known (known : v.isNull = false) (nullAsDefault : Bool)
    (type : ColumnType) : comparedValue e v nullAsDefault type = v := by
  simp [comparedValue, known]

/-- A comparison with a text says what the comparison with its moment says, unless the time of the
text is lost and the operator tells equal from less. -/
theorem test_compare_spelled (evaluated : t.eval row e = .ok v) (cell : v.moment? = some x)
    (h : c.Spells c' m) (op : Comparison) (nullAsDefault : Bool) :
    t.test row (.compare e op c nullAsDefault) = t.test row (.compare e op c' nullAsDefault) ↔
      (x.OpensDayOf m → op = .le ∨ op = .gt) := by
  have known := Value.isNull_of_moment? cell
  rw [test_compare evaluated op h.isNull.1, test_compare evaluated op h.isNull.2,
    comparedValue_of_known known, comparedValue_of_known known, testCompare, testCompare,
    if_neg (by simp [known]), if_neg (by simp [known]), h.compare_text cell, h.compare_moment cell]
  change Except.ok (some (op.holds _)) = Except.ok (some (op.holds _)) ↔ _
  rw [Except.ok.injEq, Option.some.injEq]
  split
  · rename_i opening
    rw [opening.compare_rank, op.holds_eq_iff_lt]
    exact ⟨fun either _ => either, fun either => either opening⟩
  · rename_i ahead
    exact ⟨fun _ opening => absurd opening ahead, fun _ => rfl⟩

/-- Where a text stands in a list for its moment, or as the lower end of an interval, the answer is
the same unless its time is lost; as the upper end of an interval it is the same always. -/
theorem test_oneOf_spelled (evaluated : t.eval row e = .ok v) (cell : v.moment? = some x)
    {cs cs' : List Constant} (h : List.Forall₂ (Constant.Replaces x) cs cs') :
    t.test row (.oneOf e cs) = t.test row (.oneOf e cs') := by
  have alike : List.Forall₂ (AlikeFor v) cs cs' := h.imp fun _ _ replaces => replaces.alikeFor cell
  rw [Table.test, Table.test, evaluated]
  exact testOneOf_alike (Value.isNull_of_moment? cell) alike

/-- The first text of a list that loses its time makes the answer true; the moment does not equal
the cell, and the rest of the list decides. -/
theorem test_oneOf_lost (evaluated : t.eval row e = .ok v) (cell : v.moment? = some x)
    {before before' : List Constant} (same : List.Forall₂ (Constant.Replaces x) before before')
    (none_equal : t.test row (.oneOf e before') = .ok (some false)) (h : c.Spells c' m)
    (opening : x.OpensDayOf m) (after after' : List Constant) :
    t.test row (.oneOf e (before ++ c :: after)) = .ok (some true) ∧
      t.test row (.oneOf e (before' ++ c' :: after')) = t.test row (.oneOf e after') := by
  have known := Value.isNull_of_moment? cell
  have answer (cs : List Constant) : t.test row (.oneOf e cs) = some <$> anyEqual v cs := by
    rw [Table.test, evaluated]
    exact testOneOf_known known cs
  have passed : anyEqual v before' = .ok false := by
    rw [answer] at none_equal
    cases found : anyEqual v before' with
    | error fault =>
      rw [found] at none_equal
      cases none_equal
    | ok equal =>
      rw [found] at none_equal
      cases none_equal
      rfl
  have passed_texts : anyEqual v before = .ok false :=
    (anyEqual_alike (same.imp fun _ _ replaces => replaces.alikeFor cell)).trans passed
  rw [answer, answer, answer, anyEqual_append passed_texts, anyEqual_append passed, anyEqual,
    anyEqual, h.isNull.1, h.isNull.2, h.compare_text cell, h.compare_moment cell, if_pos opening,
    opening.compare_rank]
  exact ⟨rfl, rfl⟩

theorem test_between_spelled (evaluated : t.eval row e = .ok v) (cell : v.moment? = some x)
    {low low' high high' : Constant} (lower : Constant.Replaces x low low')
    (upper : high = high' ∨ ∃ m, high.Spells high' m) :
    t.test row (.between e low high) = t.test row (.between e low' high') := by
  have lower_alike := lower.alikeFor cell
  have upper_null : high.isNull = high'.isNull := by
    obtain rfl | ⟨m, spelled⟩ := upper
    · rfl
    · exact spelled.isNull.1.trans spelled.isNull.2.symm
  have upper_order : (· != .gt) <$> v.compareConverted high.value =
      (· != .gt) <$> v.compareConverted high'.value := by
    obtain rfl | ⟨m, spelled⟩ := upper
    · rfl
    · rw [spelled.compare_text cell, spelled.compare_moment cell]
      split
      · rename_i opening
        rw [opening.compare_rank]
        rfl
      · rfl
  rw [Table.test, Table.test, evaluated, lower_alike.null, upper_null]
  split
  · rfl
  · exact testBetween_alike lower_alike upper_order

/-- If the text at the lower end loses its time, the cell is not below that end, but it is below the
moment; then the answers are the same exactly if the cell lies above the upper end. -/
theorem test_between_lost (evaluated : t.eval row e = .ok v) (cell : v.moment? = some x)
    (h : c.Spells c' m) (opening : x.OpensDayOf m) {high high' : Constant}
    (given : high.isNull = false) (upper : high = high' ∨ ∃ n, high.Spells high' n) :
    t.test row (.between e c high) = t.test row (.between e c' high') ↔
      v.compareConverted high.value = .ok .gt := by
  have given' : high'.isNull = false := by
    obtain rfl | ⟨n, spelled⟩ := upper
    · exact given
    · exact spelled.isNull.2
  have known := Value.isNull_of_moment? cell
  have answer (low high : Constant) (lower : low.isNull = false) (upper : high.isNull = false) :
      t.test row (.between e low high) = testBetween v low high := by
    rw [Table.test, evaluated, lower, upper]
    rfl
  rw [answer c high h.isNull.1 given, answer c' high' h.isNull.2 given', testBetween, testBetween,
    known, h.compare_text cell, h.compare_moment cell, if_pos opening, opening.compare_rank]
  cases v.compareConverted high.value with
  | error fault => simp [bind, Except.bind, pure, Except.pure]
  | ok order => cases order <;> simp [bind, Except.bind, pure, Except.pure]

/-- A text compares with a day or a moment as the moment does that it denotes, exactly unless the
cell is the beginning of the day of that moment and the moment is later: the text counts as equal
there. So a comparison says the same of both exactly if it does not tell equal from less there. A
list says the same if none of its texts loses its time, and otherwise, unless it is decided before,
exactly if it is true by what stands behind the first such text. An interval says the same if its
lower end does not lose its time, and otherwise exactly if the cell lies above the upper end. -/
theorem text_bound_iff {t : Table} {row : Row} {e : Expr} {v : Value} {x : DateTime}
    (evaluated : t.eval row e = .ok v) (cell : v.moment? = some x) :
    (∀ s m, (Value.string s).convert? .dateTime = some (.dateTime m) →
      v.compareConverted (.dateTime m) = .ok (Ord.compare x.rank m.rank) ∧
      v.compareConverted (.string s) =
        .ok (if x.OpensDayOf m then .eq else Ord.compare x.rank m.rank) ∧
      (v.compareConverted (.string s) = v.compareConverted (.dateTime m) ↔
        ¬ x.OpensDayOf m)) ∧
    (∀ op nullAsDefault (c c' : Constant) m, c.Spells c' m →
      (t.test row (.compare e op c nullAsDefault) = t.test row (.compare e op c' nullAsDefault) ↔
        (x.OpensDayOf m → op = .le ∨ op = .gt))) ∧
    (∀ cs cs' : List Constant, List.Forall₂ (Constant.Replaces x) cs cs' →
      t.test row (.oneOf e cs) = t.test row (.oneOf e cs') ∧
      (t.test row (.oneOf e cs') = .ok (some false) →
        ∀ (c c' : Constant) m, c.Spells c' m → x.OpensDayOf m → ∀ after after',
          t.test row (.oneOf e (cs ++ c :: after)) = .ok (some true) ∧
          t.test row (.oneOf e (cs' ++ c' :: after')) = t.test row (.oneOf e after'))) ∧
    ∀ low low' high high' : Constant, (high = high' ∨ ∃ m, high.Spells high' m) →
      (Constant.Replaces x low low' →
        t.test row (.between e low high) = t.test row (.between e low' high')) ∧
      (∀ m, low.Spells low' m → x.OpensDayOf m → high.isNull = false →
        (t.test row (.between e low high) = t.test row (.between e low' high') ↔
          v.compareConverted high.value = .ok .gt)) := by
  refine ⟨fun s m denotes => ?_, ?_, fun cs cs' same => ⟨?_, ?_⟩,
    fun low low' high high' upper => ?_⟩
  · have moment := Value.compareConverted_moment cell m
    have text := Value.compareConverted_text cell denotes
    refine ⟨moment, text, ?_⟩
    rw [moment, text, Except.ok.injEq]
    split
    · rename_i opening
      simp [opening, opening.compare_rank]
    · rename_i ahead
      simp [ahead]
  · exact fun op nullAsDefault c c' m spelled =>
      test_compare_spelled evaluated cell spelled op nullAsDefault
  · exact test_oneOf_spelled evaluated cell same
  · intro none_equal c c' m spelled opening after after'
    exact test_oneOf_lost evaluated cell same none_equal spelled opening after after'
  · constructor
    · exact fun lower => test_between_spelled evaluated cell lower upper
    · exact fun m spelled opening given =>
        test_between_lost evaluated cell spelled opening given upper

/-- The last day of January of a leap year. -/
def lastOfJanuary : Date := (Date.of? 2024 1 31).get rfl

/-- Noon of that day. -/
def noon : DateTime := ⟨lastOfJanuary, (Time.of? 12 0 0 0).get rfl⟩

/-- A quarter past eight on that day. -/
def quarterPastEight : DateTime := ⟨lastOfJanuary, (Time.of? 8 15 0 0).get rfl⟩

/-- A table of moments. -/
def arrivals : Table := ⟨"Arrivals", [.of "At" .dateTime], []⟩

theorem noon_spelled :
    (Value.string "2024-01-31 12:00:00").convert? .dateTime = some (.dateTime noon) := by
  decide +kernel

/-- An arrival in the morning is before noon, however noon is written. -/
theorem text_bound_morning :
    arrivals.test [.dateTime quarterPastEight]
      (.compare (.column ⟨["At"]⟩) .lt ⟨.string "2024-01-31 12:00:00", .string⟩ false) =
        .ok (some true) := by
  have evaluated : arrivals.eval [.dateTime quarterPastEight] (.column ⟨["At"]⟩) =
      .ok (.dateTime quarterPastEight) := by decide +kernel
  obtain ⟨-, comparisons, -⟩ := text_bound_iff evaluated rfl
  have spelled : Constant.Spells ⟨.string "2024-01-31 12:00:00", .string⟩
      ⟨.dateTime noon, .dateTime⟩ noon := ⟨⟨_, rfl, noon_spelled⟩, rfl⟩
  have later : ¬ quarterPastEight.OpensDayOf noon := by decide
  rw [(comparisons .lt false _ _ noon spelled).mpr fun opening => absurd opening later]
  decide +kernel

/-- An arrival at the beginning of the day is before noon, but it is not before a text for noon. -/
theorem text_bound_lost :
    arrivals.test [.dateTime (.startOf lastOfJanuary)]
      (.compare (.column ⟨["At"]⟩) .lt ⟨.dateTime noon, .dateTime⟩ false) = .ok (some true) ∧
    arrivals.test [.dateTime (.startOf lastOfJanuary)]
      (.compare (.column ⟨["At"]⟩) .lt ⟨.string "2024-01-31 12:00:00", .string⟩ false) =
        .ok (some false) := by
  decide +kernel

end Filter

end SqlScribe
