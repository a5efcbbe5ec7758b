import SqlScribe.Proofs.Calendar.Formats
import SqlScribe.Proofs.Literal.RoundTrip

/-!
# Dates and times as literals

Every built-in dialect writes days in one of the formats that conversion from text knows, and times
to a precision of its own. The literal of a day, a time or a moment is read as the same value, less
what the dialect does not write of a second.
-/

namespace SqlScribe

open SqlScribe.Text

/-- Values that are dates or times of a type, their years written with four digits. -/
inductive Value.IsTemporal : Value → ColumnType → Prop
  | date {d : Date} (short : d.HasShortYear) : IsTemporal (.date d) .date
  | time (t : Time) : IsTemporal (.time t) .time
  | dateTime {m : DateTime} (short : m.date.HasShortYear) : IsTemporal (.dateTime m) .dateTime

namespace Value

variable {s : String} {cs : List Char}

theorem ofLiteral_date {d : Date} (read : Literal.ofChars s.toList = .ok (.text cs))
    (day : DateTime.ofFreeText? (.ofList cs) = some (.startOf d)) :
    ofLiteral s .date = .ok (.date d) := by
  apply ofLiteral_of_ofChars read
  apply convert_eq_ok.mpr
  change (DateTime.ofFreeText? (.ofList cs)).map (date ·.date) = some (.date d)
  rw [day]
  rfl

theorem ofLiteral_time {t : Time} (read : Literal.ofChars s.toList = .ok (.text cs))
    (time : Time.ofFreeText? (.ofList cs) = some t) : ofLiteral s .time = .ok (.time t) := by
  apply ofLiteral_of_ofChars read
  apply convert_eq_ok.mpr
  change (Time.ofFreeText? (.ofList cs)).map Value.time = some (.time t)
  rw [time]
  rfl

theorem ofLiteral_dateTime {m : DateTime} (read : Literal.ofChars s.toList = .ok (.text cs))
    (moment : DateTime.ofFreeText? (.ofList cs) = some m) :
    ofLiteral s .dateTime = .ok (.dateTime m) := by
  apply ofLiteral_of_ofChars read
  apply convert_eq_ok.mpr
  change (DateTime.ofFreeText? (.ofList cs)).map dateTime = some (.dateTime m)
  rw [moment]
  rfl

end Value

namespace Literal

open Dialect

variable {p : Pattern} {m : DateTime}

theorem ofChars_stamped_quoted (plain : ∀ c ∈ p.write m, c ≠ '\x27') :
    ofChars (stamped "'" p "'" m).toList = .ok (text (p.write m)) := by
  have unquoted : ∀ c ∈ (String.ofList (p.write m)).toList, c ≠ '\x27' := by
    rwa [String.toList_ofList]
  have read := ofChars_quotedText (.ofList (p.write m))
  rwa [quotedText_of_plain unquoted, String.toList_ofList] at read

end Literal

namespace Builtin

open Value Literal Dialect Pattern

/-- How a dialect writes days. -/
def dayPattern : Builtin → Pattern
  | mssql => compactDate
  | dataView => slashedDate
  | _ => dashedDate

/-- How much of a second a dialect writes in a time of day. -/
def timePrecision : Builtin → Precision
  | access => .seconds
  | _ => .nanoseconds

/-- How much of a second a dialect writes in a moment. -/
def momentPrecision : Builtin → Precision
  | access | dataView => .seconds
  | db2 => .microseconds
  | _ => .nanoseconds

/-- What the literal of a value says of it. -/
def written (b : Builtin) : Value → Value
  | .time t => .time (t.cut b.timePrecision)
  | .dateTime m => .dateTime ⟨m.date, m.time.cut b.momentPrecision⟩
  | v => v

/-- A dialect that writes nanoseconds keeps all of a value. -/
theorem written_eq_self {b : Builtin} (times : b.timePrecision = .nanoseconds)
    (moments : b.momentPrecision = .nanoseconds) (v : Value) : b.written v = v := by
  cases v with
  | time t => rw [written, times, t.cut_nanoseconds]
  | dateTime m => rw [written, moments, m.time.cut_nanoseconds]
  | _ => rfl

theorem dayPattern_mem_dates (b : Builtin) : b.dayPattern ∈ dates := by cases b <;> decide

theorem ofChars_dateLiteral (b : Builtin) (d : Date) :
    ofChars (b.dialect.dateLiteral d).toList = .ok (text (d.write b.dayPattern)) := by
  have visible := isVisible_date b.dayPattern_mem_dates
  have unquoted : ∀ c ∈ d.write b.dayPattern, c ≠ '\x27' :=
    fun c => ne_of_mem_write visible (by decide)
  have unhashed : ∀ c ∈ d.write b.dayPattern, c ≠ '#' :=
    fun c => ne_of_mem_write visible (by decide)
  have something : d.write b.dayPattern ≠ [] := write_date_ne_nil b.dayPattern_mem_dates
  cases b with
  | mssql | postgres | sqlite => exact ofChars_stamped_quoted unquoted
  | access | dataView => exact ofChars_hashed something unhashed
  | db2 => exact @ofChars_dateCall "TO_DATE" "YYYY-MM-DD" _ (.inl rfl) unquoted (by decide)

theorem ofChars_timeLiteral (b : Builtin) (t : Time) : ofChars (b.dialect.timeLiteral t).toList =
    .ok (text (t.write (clock ++ b.timePrecision.places))) := by
  have visible := isVisible_clock b.timePrecision
  have unquoted : ∀ c ∈ t.write (clock ++ b.timePrecision.places), c ≠ '\x27' :=
    fun c => ne_of_mem_write visible (by decide)
  have unhashed : ∀ c ∈ t.write (clock ++ b.timePrecision.places), c ≠ '#' :=
    fun c => ne_of_mem_write visible (by decide)
  cases b with
  | access => exact ofChars_hashed (write_clock_ne_nil []) unhashed
  | _ => exact ofChars_stamped_quoted unquoted

/-- A moment may be written to a lower precision than the dialect has if that says the same. -/
theorem ofChars_dateTimeLiteral (b : Builtin) (m : DateTime) :
    ∃ precision, (b.dayPattern = slashedDate → precision = .seconds) ∧
      m.time.cut precision = m.time.cut b.momentPrecision ∧
      ofChars (b.dialect.dateTimeLiteral m).toList =
        .ok (text (write (b.dayPattern ++ .gap :: (clock ++ precision.places)) m)) := by
  have outside {c other : Char} (precision : Precision) (mark : other.toNat < 43)
      (blank : other ≠ ' ')
      (member : c ∈ write (b.dayPattern ++ .gap :: (clock ++ precision.places)) m) : c ≠ other := by
    rw [write_append, List.mem_append] at member
    obtain day | time := member
    · exact ne_of_mem_write (isVisible_date b.dayPattern_mem_dates) mark day
    · obtain rfl | inside := List.mem_cons.mp time
      · exact Ne.symm blank
      · exact ne_of_mem_write (isVisible_clock precision) mark inside
  have unquoted (precision : Precision) :
      ∀ c ∈ write (b.dayPattern ++ .gap :: (clock ++ precision.places)) m, c ≠ '\x27' :=
    fun c => outside precision (by decide) (by decide)
  have unhashed : ∀ c ∈ write (b.dayPattern ++ .gap :: (clock ++ Precision.seconds.places)) m,
      c ≠ '#' :=
    fun c => outside .seconds (by decide) (by decide)
  have something : write (b.dayPattern ++ .gap :: (clock ++ Precision.seconds.places)) m ≠ [] := by
    rw [write_append]
    exact List.append_ne_nil_of_left_ne_nil (write_date_ne_nil b.dayPattern_mem_dates) _
  cases b with
  | mssql | postgres | sqlite =>
    exact ⟨.nanoseconds, nofun, rfl, ofChars_stamped_quoted (unquoted .nanoseconds)⟩
  | access | dataView => exact ⟨.seconds, fun _ => rfl, rfl, ofChars_hashed something unhashed⟩
  | db2 =>
    by_cases whole : m.time.nano = 0
    · refine ⟨.seconds, fun _ => rfl, ?_, ?_⟩
      · rw [Time.cut_of_whole _ whole, Time.cut_of_whole _ whole]
      · change ofChars (Db2.dateTimeLiteral m).toList = _
        rw [Db2.dateTimeLiteral, if_pos whole]
        exact @ofChars_dateCall "TO_DATE" "YYYY-MM-DD HH24:MI:SS" _ (.inl rfl) (unquoted .seconds)
          (by decide)
    · refine ⟨.microseconds, nofun, rfl, ?_⟩
      change ofChars (Db2.dateTimeLiteral m).toList = _
      rw [Db2.dateTimeLiteral, if_neg whole]
      exact @ofChars_dateCall "TO_TIMESTAMP" "YYYY-MM-DD HH24:MI:SS.FF6" _ (.inr rfl)
        (unquoted .microseconds) (by decide)

/-- The literal of a day is read as the day, if it is clear where its year ends. -/
theorem ofLiteral_dateLiteral (b : Builtin) {d : Date} (clear : b.dayPattern.EndsYear d) :
    ofLiteral (b.dialect.dateLiteral d) .date = .ok (.date d) :=
  ofLiteral_date (b.ofChars_dateLiteral d) (DateTime.ofFreeText?_day clear b.dayPattern_mem_dates)

theorem ofLiteral_timeLiteral (b : Builtin) (t : Time) :
    ofLiteral (b.dialect.timeLiteral t) .time = .ok (.time (t.cut b.timePrecision)) :=
  ofLiteral_time (b.ofChars_timeLiteral t) (t.ofFreeText?_write b.timePrecision)

theorem ofLiteral_dateTimeLiteral (b : Builtin) {m : DateTime}
    (clear : b.dayPattern.EndsYear m.date) : ofLiteral (b.dialect.dateTimeLiteral m) .dateTime =
      .ok (.dateTime ⟨m.date, m.time.cut b.momentPrecision⟩) := by
  obtain ⟨precision, room, same, text⟩ := b.ofChars_dateTimeLiteral m
  have read := DateTime.ofFreeText?_moment clear b.dayPattern_mem_dates precision room
  rw [same] at read
  exact ofLiteral_dateTime text read

/-- The literal of a day, a time or a moment is read as what it says of the value; leap seconds are
no exception. -/
theorem ofLiteral_temporal (b : Builtin) {v : Value} {type : ColumnType}
    (temporal : v.IsTemporal type) :
    ∃ t, b.dialect.literal v type = .ok t ∧ ofLiteral t type = .ok (b.written v) := by
  cases temporal with
  | @date d short =>
    exact ⟨b.dialect.dateLiteral d, rfl, b.ofLiteral_dateLiteral fun _ => short⟩
  | time t => exact ⟨b.dialect.timeLiteral t, rfl, b.ofLiteral_timeLiteral t⟩
  | @dateTime m short =>
    exact ⟨b.dialect.dateTimeLiteral m, rfl, b.ofLiteral_dateTimeLiteral fun _ => short⟩

/-- Db2 writes six of nine places, and those are read. -/
theorem ofLiteral_temporal_microseconds :
    ofLiteral "TO_TIMESTAMP('2024-02-29 23:59:58.123456', 'YYYY-MM-DD HH24:MI:SS.FF6')" .dateTime =
      .ok (.dateTime ⟨⟨2024, 2, 29, by decide, by decide, by decide⟩,
        ⟨23, 59, 58, 123456000, by decide, by decide, by decide, by decide⟩⟩) := by
  let day : Date := ⟨2024, 2, 29, by decide, by decide, by decide⟩
  let time : Time := ⟨23, 59, 58, 123456789, by decide, by decide, by decide, by decide⟩
  have short : day.HasShortYear := ⟨by decide, by decide⟩
  have literal : db2.dialect.literal (.dateTime ⟨day, time⟩) .dateTime =
      .ok "TO_TIMESTAMP('2024-02-29 23:59:58.123456', 'YYYY-MM-DD HH24:MI:SS.FF6')" := by
    decide +kernel
  have cut : time.cut .microseconds =
      ⟨23, 59, 58, 123456000, by decide, by decide, by decide, by decide⟩ := by
    decide
  obtain ⟨t, same, read⟩ := ofLiteral_temporal .db2 (@Value.IsTemporal.dateTime ⟨day, time⟩ short)
  obtain rfl := Except.ok.inj (literal.symm.trans same)
  rw [Builtin.written, momentPrecision, cut] at read
  exact read

end Builtin

end SqlScribe
