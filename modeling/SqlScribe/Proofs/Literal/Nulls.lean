import SqlScribe.Proofs.Calendar.LongYears
import SqlScribe.Proofs.Literal.Floats
import SqlScribe.Proofs.Literal.Temporal

/-!
# NULL as a literal

What a built-in dialect writes for a value of a known type is read as NULL for NULL only. There are
two kinds of literals that are not read at all: a typed NULL whose type has parentheses of its own,
and a day that is written without separators behind a year with a sign.
-/

namespace SqlScribe

open SqlScribe.Text

namespace Builtin

open Value Literal Dialect Pattern

/-- The literals that are not read back. -/
inductive Unreadable : Builtin → Value → ColumnType → Prop
  /-- The type of money has parentheses, and its first closing one is taken for the end. -/
  | typedNull : Unreadable postgres .null .money
  | date {d : Date} (long : ¬d.HasShortYear) : Unreadable mssql (.date d) .date
  | dateTime {m : DateTime} (long : ¬m.date.HasShortYear) : Unreadable mssql (.dateTime m) .dateTime

section Readable

/-- The NULL of every type is read, except for the typed NULL of money. -/
theorem ofLiteral_nullLiteral (b : Builtin) {type : ColumnType} {t : String}
    (readable : ¬b.Unreadable .null type) (written : b.dialect.nullLiteral type = .ok t) :
    ofLiteral t type = .ok .null := by
  cases b with
  | postgres =>
    cases type with
    | money => exact absurd .typedNull readable
    | _ =>
      obtain rfl := Except.ok.inj written
      decide +kernel
  | _ =>
    obtain rfl : "NULL" = t := Except.ok.inj written
    rfl

/-- Only without separators it can be unclear where a year ends. -/
theorem endsYear_of_readable (b : Builtin) {d : Date}
    (readable : b = mssql → d.HasShortYear) : b.dayPattern.EndsYear d := by
  intro compact
  cases b with
  | mssql => exact readable rfl
  | _ => exact absurd compact (by decide)

theorem ofLiteral_of_readable_date (b : Builtin) {d : Date}
    (readable : ¬b.Unreadable (.date d) .date) :
    ofLiteral (b.dialect.dateLiteral d) .date = .ok (.date d) := by
  apply b.ofLiteral_dateLiteral
  apply b.endsYear_of_readable
  rintro rfl
  exact Classical.byContradiction fun long => readable (.date long)

theorem ofLiteral_of_readable_dateTime (b : Builtin) {m : DateTime}
    (readable : ¬b.Unreadable (.dateTime m) .dateTime) :
    ofLiteral (b.dialect.dateTimeLiteral m) .dateTime = .ok (b.written (.dateTime m)) := by
  apply b.ofLiteral_dateTimeLiteral
  apply b.endsYear_of_readable
  rintro rfl
  exact Classical.byContradiction fun long => readable (.dateTime long)

theorem ofLiteral_floatLiteral (b : Builtin) {x : Binary64} {t : String}
    (written : b.dialect.literal (.float x) .float = .ok t) :
    ofLiteral t .float = .ok (.float x) := by
  have literal : b.dialect.literal (.float x) .float =
      if x.isFinite then .ok x.toText else .error (.invalid (.nonFiniteLiteral x)) := rfl
  rw [literal] at written
  split at written
  · rename_i finite
    obtain rfl := Except.ok.inj written
    exact ofLiteral_float finite
  · cases written

/-- The literal of a value of a known type is read as what it says of the value. -/
theorem ofLiteral_of_readable (b : Builtin) {w : Value} {type : ColumnType}
    (known : type ≠ .unknown) (belongs : w.belongs type = true)
    (readable : ¬b.Unreadable w type) {t : String} (written : b.dialect.literal w type = .ok t) :
    ofLiteral t type = .ok (b.written w) := by
  by_cases nothing : w.isNull = true
  · obtain rfl := isNull_iff.mp nothing
    have literal : b.dialect.literal .null type = b.dialect.nullLiteral type := by
      rw [Dialect.literal, if_neg known]
      rfl
    rw [literal] at written
    exact b.ofLiteral_nullLiteral readable written
  rw [Bool.not_eq_true] at nothing
  cases type with
  | unknown => exact absurd rfl known
  | float =>
    cases w with
    | float x => exact b.ofLiteral_floatLiteral written
    | null => cases nothing
    | _ => cases belongs
  | date =>
    cases w with
    | date d =>
      obtain rfl : b.dialect.dateLiteral d = t := Except.ok.inj written
      exact b.ofLiteral_of_readable_date readable
    | null => cases nothing
    | _ => cases belongs
  | time =>
    cases w with
    | time v =>
      obtain rfl : b.dialect.timeLiteral v = t := Except.ok.inj written
      exact b.ofLiteral_timeLiteral v
    | null => cases nothing
    | _ => cases belongs
  | dateTime =>
    cases w with
    | dateTime m =>
      obtain rfl : b.dialect.dateTimeLiteral m = t := Except.ok.inj written
      exact b.ofLiteral_of_readable_dateTime readable
    | null => cases nothing
    | _ => cases belongs
  | _ =>
    have kept : b.written w = w := by
      cases w with
      | time v => cases belongs
      | dateTime m => cases belongs
      | _ => rfl
    rw [kept]
    exact b.ofLiteral_of_belongs rfl nothing belongs written

end Readable

section Unreadable

theorem ofLiteral_of_refused {s : String} {type : ColumnType} {cs : List Char}
    (read : ofChars s.toList = .ok (.text cs))
    (refused : (string (.ofList cs)).convert? type = none) :
    ofLiteral s type = .error (.invalid (.conversion (string (.ofList cs)) type)) := by
  have value : (Literal.text cs).toValue type =
      .error (.invalid (.conversion (string (.ofList cs)) type)) := by
    rw [Literal.toValue, convert, refused]
  rw [ofLiteral, read]
  exact value

/-- What cannot be read back is refused; it is not taken for something else. -/
theorem ofLiteral_of_unreadable {b : Builtin} {w : Value} {type : ColumnType}
    (unreadable : b.Unreadable w type) {t : String} (written : b.dialect.literal w type = .ok t) :
    ∃ fault, ofLiteral t type = .error fault := by
  cases unreadable with
  | typedNull =>
    obtain rfl : "CAST(NULL AS NUMERIC(19, 4))" = t := Except.ok.inj written
    exact ⟨.literal (.trailing 27 ")"), by decide +kernel⟩
  | @date d long =>
    obtain rfl : mssql.dialect.dateLiteral d = t := Except.ok.inj written
    refine ⟨_, ofLiteral_of_refused (mssql.ofChars_dateLiteral d) ?_⟩
    change (DateTime.ofFreeText? (.ofList (d.write compactDate))).map (Value.date ·.date) = none
    rw [DateTime.ofFreeText?_long_day long]
    rfl
  | @dateTime m long =>
    obtain rfl : mssql.dialect.dateTimeLiteral m = t := Except.ok.inj written
    obtain ⟨precision, -, -, text⟩ := mssql.ofChars_dateTimeLiteral m
    refine ⟨_, ofLiteral_of_refused text ?_⟩
    change (DateTime.ofFreeText? (.ofList (Pattern.write
      (compactDate ++ .gap :: (clock ++ precision.places)) m))).map Value.dateTime = none
    rw [DateTime.ofFreeText?_long_moment long precision]
    rfl

end Unreadable

theorem isNull_written (b : Builtin) (w : Value) : (b.written w).isNull = w.isNull := by
  cases w <;> rfl

/-- The literal of a value of a known type is read back, and as NULL if and only if the value is
NULL, unless it is one of the two kinds that are not read at all. -/
theorem nullness_survives_iff (b : Builtin) {v : Value} {type : ColumnType}
    (known : type ≠ .unknown) {t : String} (written : b.dialect.literal v type = .ok t) :
    ∃ w, v.convert type = .ok w ∧
      ((∃ u, ofLiteral t type = .ok u ∧ u.isNull = v.isNull) ↔ ¬b.Unreadable w type) ∧
      ∀ u, ofLiteral t type = .ok u → u.isNull = v.isNull := by
  obtain ⟨w, converted⟩ := Dialect.convert?_of_literal written
  have belongs := belongs_of_convert? converted
  have same : b.dialect.literal w type = .ok t :=
    (Dialect.literal_of_convert? converted).trans written
  have null : (b.written w).isNull = v.isNull :=
    (b.isNull_written w).trans (isNull_of_convert? converted)
  refine ⟨w, convert_eq_ok.mpr converted, ?_⟩
  by_cases unreadable : b.Unreadable w type
  · obtain ⟨fault, refused⟩ := ofLiteral_of_unreadable unreadable same
    have unread : ∀ u, ofLiteral t type ≠ .ok u := fun u read => nomatch refused.symm.trans read
    refine ⟨⟨?_, fun readable => absurd unreadable readable⟩, fun u read => absurd read (unread u)⟩
    rintro ⟨u, read, -⟩
    exact absurd read (unread u)
  · have read := b.ofLiteral_of_readable known belongs unreadable same
    refine ⟨⟨fun _ => unreadable, fun _ => ⟨_, read, null⟩⟩, ?_⟩
    intro u again
    obtain rfl := Except.ok.inj (read.symm.trans again)
    exact null

/-- A text that spells NULL is not read as NULL. -/
theorem nullness_survives_spelled :
    ∃ u, ofLiteral "N'NULL'" .string = .ok u ∧ u.isNull = false := by
  have written : mssql.dialect.literal (.string "NULL") .string = .ok "N'NULL'" := by
    decide +kernel
  obtain ⟨w, converted, survives, -⟩ := nullness_survives_iff .mssql (by decide) written
  obtain rfl : .string "NULL" = w := Except.ok.inj converted
  apply survives.mpr
  intro unreadable
  cases unreadable

/-- The typed NULL of money is written and not read, and neither is a day of the year 10000. -/
theorem literals_unread :
    (postgres.dialect.literal .null .money = .ok "CAST(NULL AS NUMERIC(19, 4))" ∧
      ofLiteral "CAST(NULL AS NUMERIC(19, 4))" .money = .error (.literal (.trailing 27 ")"))) ∧
    ∃ d : Date, mssql.dialect.literal (.date d) .date = .ok "'+100000131'" ∧
      ofLiteral "'+100000131'" .date =
        .error (.invalid (.conversion (.string "+100000131") .date)) := by
  refine ⟨⟨by decide +kernel, by decide +kernel⟩,
    ⟨10000, 1, 31, by decide, by decide, by decide⟩, by decide +kernel, by decide +kernel⟩

end Builtin

end SqlScribe
