import SqlScribe.Connection
import SqlScribe.Proofs.Literal.Temporal

/-!
# Values that are sent as text

A value that the driver has no type for is sent as the text that a message shows. That text tells an
amount, a day or an identifier in full, and a time to the second: what comes back is the value
without its fraction of a second. The literal of the same value keeps the fraction.
-/

namespace SqlScribe

open Text

/-- Nothing is cut off a time that a clock shows in full. -/
theorem Time.cut_seconds_eq_iff (t : Time) : t.cut .seconds = t ↔ t.fraction = 0 := by
  obtain ⟨hour, minute, second, nano⟩ := t
  simp only [cut, fraction, Precision.unit, Time.mk.injEq, true_and]
  omega

namespace Value

/-- Values of a type that the driver has no type for. -/
inductive GoesAsText : Value → ColumnType → Prop
  | money (d : Decimal) : GoesAsText (.money d) .money
  | date (d : Date) : GoesAsText (.date d) .date
  | time (t : Time) : GoesAsText (.time t) .time
  | dateTime (m : DateTime) : GoesAsText (.dateTime m) .dateTime
  | guid (g : Guid) : GoesAsText (.guid g) .guid

/-- The value without its fraction of a second. -/
def inSeconds : Value → Value
  | time t => .time (t.cut .seconds)
  | dateTime m => .dateTime ⟨m.date, m.time.cut .seconds⟩
  | v => v

/-- The value holds no fraction of a second. -/
def WholeSeconds : Value → Prop
  | time t => t.fraction = 0
  | dateTime m => m.time.fraction = 0
  | _ => True

theorem inSeconds_eq_iff (v : Value) : v.inSeconds = v ↔ v.WholeSeconds := by
  cases v with
  | time t => simp [inSeconds, WholeSeconds, Time.cut_seconds_eq_iff]
  | dateTime m =>
    obtain ⟨date, t⟩ := m
    simp [inSeconds, WholeSeconds, Time.cut_seconds_eq_iff]
  | _ => simp [inSeconds, WholeSeconds]

variable {v : Value} {type : ColumnType}

theorem GoesAsText.sent_eq (h : v.GoesAsText type) : Connection.sent v = .string v.plainText := by
  cases h with
  | money d => rfl
  | date d => rfl
  | time t => rfl
  | dateTime m => rfl
  | guid g => rfl

theorem convert?_amount (d : Decimal) : (string d.toText).convert? .money = some (money d) := by
  have converted (s : String) :
      (string s).convert? .money = (Decimal.ofText? (trim s)).map money := rfl
  rw [converted, Literal.trim_amount, Decimal.ofText?_toText]
  rfl

/-- The year of the day may have any number of digits. -/
theorem convert?_day (d : Date) :
    (string (.ofList (d.write .dashedDate))).convert? .date = some (date d) := by
  have converted (s : String) :
      (string s).convert? .date = (DateTime.ofFreeText? s).map (date ·.date) := rfl
  have clear : Pattern.dashedDate.EndsYear d := nofun
  rw [converted, DateTime.ofFreeText?_day clear (by decide)]
  rfl

theorem convert?_clock (t : Time) :
    (string (.ofList (t.write .clock))).convert? .time = some (time (t.cut .seconds)) := by
  have converted (s : String) :
      (string s).convert? .time = (Time.ofFreeText? s).map Value.time := rfl
  have read := t.ofFreeText?_write .seconds
  rw [Precision.places, List.append_nil] at read
  rw [converted, read]
  rfl

theorem convert?_moment (m : DateTime) :
    (string (.ofList (Pattern.write (Pattern.dashedDate ++ .gap :: Pattern.clock) m))).convert?
      .dateTime = some (dateTime ⟨m.date, m.time.cut .seconds⟩) := by
  have converted (s : String) :
      (string s).convert? .dateTime = (DateTime.ofFreeText? s).map dateTime := rfl
  have clear : Pattern.dashedDate.EndsYear m.date := nofun
  have read := DateTime.ofFreeText?_moment clear (by decide) .seconds fun _ => rfl
  rw [Precision.places, List.append_nil] at read
  rw [converted, read]
  rfl

theorem convert?_identifier (g : Guid) : (string g.toText).convert? .guid = some (guid g) := by
  have converted (s : String) : (string s).convert? .guid = (readGuid? s).map guid := rfl
  rw [converted, readGuid?_toText]
  rfl

/-- The text of a value is read as the value to the second. -/
theorem GoesAsText.convert_plainText (h : v.GoesAsText type) :
    (string v.plainText).convert type = .ok v.inSeconds := by
  apply convert_eq_ok.mpr
  cases h with
  | money d => exact convert?_amount d
  | date d => exact convert?_day d
  | time t => exact convert?_clock t
  | dateTime m => exact convert?_moment m
  | guid g => exact convert?_identifier g

theorem GoesAsText.prepare_eq (h : v.GoesAsText type) :
    Builtin.sqlite.dialect.prepare v type = .ok (Dialect.Sqlite.bound v) := by
  cases h with
  | money d => rfl
  | date d => rfl
  | time t => rfl
  | dateTime m => rfl
  | guid g => rfl

/-- What SQLite gets for a value comes back as the value to the second. An identifier is bound as
its bytes, all else as it is. -/
theorem GoesAsText.correct_sent (h : v.GoesAsText type) :
    (Builtin.sqlite.dialect.prepare v type >>= fun bound =>
      Builtin.sqlite.dialect.correct (Connection.sent bound) type) = .ok v.inSeconds := by
  rw [h.prepare_eq]
  change (Connection.sent (Dialect.Sqlite.bound v)).convert type = .ok v.inSeconds
  by_cases identifier : ∃ g, v = .guid g
  · obtain ⟨g, rfl⟩ := identifier
    cases h with
    | guid =>
      apply convert_eq_ok.mpr
      change (Guid.ofBlob? g.toBlob).map Value.guid = some (.guid g)
      rw [Guid.ofBlob?_toBlob]
      rfl
  · have kept : Dialect.Sqlite.bound v = v := by
      cases v with
      | guid g => exact absurd ⟨g, rfl⟩ identifier
      | _ => rfl
    rw [kept, h.sent_eq]
    exact h.convert_plainText

/-- The literal of a value tells it in full. -/
theorem GoesAsText.ofLiteral_sqlite (h : v.GoesAsText type) :
    ∃ t, Builtin.sqlite.dialect.literal v type = .ok t ∧ ofLiteral t type = .ok v := by
  have times : Builtin.sqlite.timePrecision = .nanoseconds := rfl
  have moments : Builtin.sqlite.momentPrecision = .nanoseconds := rfl
  cases h with
  | money d => exact ⟨d.toText, rfl, ofLiteral_amount d⟩
  | date d =>
    exact ⟨Builtin.sqlite.dialect.dateLiteral d, rfl, Builtin.sqlite.ofLiteral_dateLiteral nofun⟩
  | time t =>
    have read := Builtin.sqlite.ofLiteral_timeLiteral t
    rw [times, t.cut_nanoseconds] at read
    exact ⟨Builtin.sqlite.dialect.timeLiteral t, rfl, read⟩
  | dateTime m =>
    have clear : Builtin.sqlite.dayPattern.EndsYear m.date := nofun
    have read := Builtin.sqlite.ofLiteral_dateTimeLiteral clear
    rw [moments, m.time.cut_nanoseconds] at read
    exact ⟨Builtin.sqlite.dialect.dateTimeLiteral m, rfl, read⟩
  | guid g =>
    exact ⟨Builtin.sqlite.dialect.guidLiteral g, rfl, Builtin.sqlite.ofLiteral_guidLiteral g⟩

end Value

/-- A value that is sent as text comes back without its fraction of a second, so it comes back as
it was exactly if it has none; its literal always does. So it is for a value that SQLite hands back
as it was sent. -/
theorem Value.sent_back_iff {v : Value} {type : ColumnType} (textual : v.GoesAsText type) :
    Connection.sent v = .string v.plainText ∧
    (Connection.sent v).convert type = .ok v.inSeconds ∧
    (Builtin.sqlite.dialect.prepare v type >>= fun bound =>
      Builtin.sqlite.dialect.correct (Connection.sent bound) type) = .ok v.inSeconds ∧
    (v.inSeconds = v ↔ v.WholeSeconds) ∧
    ∃ t, Builtin.sqlite.dialect.literal v type = .ok t ∧ ofLiteral t type = .ok v := by
  refine ⟨textual.sent_eq, ?_, textual.correct_sent, v.inSeconds_eq_iff,
    textual.ofLiteral_sqlite⟩
  rw [textual.sent_eq]
  exact textual.convert_plainText

/-- Half past noon on a leap day of a year of five digits, half a second into a leap second. -/
def lateLeap : DateTime :=
  ⟨⟨20240, 2, 29, by decide, by decide, by decide⟩,
    ⟨12, 30, 59, 1500000000, by decide, by decide, by decide, by decide⟩⟩

/-- The leap second is sent, its half is not. -/
theorem Value.sent_back_leap :
    Connection.sent (.dateTime lateLeap) = .string "+20240-02-29 12:30:60" ∧
    (Connection.sent (.dateTime lateLeap)).convert .dateTime =
      .ok (.dateTime ⟨lateLeap.date, ⟨12, 30, 59, 1000000000, by decide, by decide, by decide,
        by decide⟩⟩) := by
  obtain ⟨sent, read, -⟩ := Value.sent_back_iff (.dateTime lateLeap)
  have cut : lateLeap.time.cut .seconds =
      ⟨12, 30, 59, 1000000000, by decide, by decide, by decide, by decide⟩ := by
    decide
  rw [Value.inSeconds, cut] at read
  refine ⟨?_, read⟩
  rw [sent]
  decide +kernel

/-- Half a second is lost on the way through a database, and kept by the literal. -/
theorem Value.fraction_lost :
    let t : Time := ⟨12, 34, 56, 500000000, by decide, by decide, by decide, by decide⟩
    Connection.sent (.time t) = .string "12:34:56" ∧
    (Connection.sent (.time t)).convert .time =
      .ok (.time ⟨12, 34, 56, 0, by decide, by decide, by decide, by decide⟩) ∧
    Builtin.sqlite.dialect.literal (.time t) .time = .ok "'12:34:56.500'" := by
  decide +kernel

end SqlScribe
