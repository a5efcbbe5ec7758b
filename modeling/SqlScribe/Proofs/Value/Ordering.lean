import SqlScribe.Proofs.Calendar.Patterns
import SqlScribe.Proofs.Value.Preparation
import SqlScribe.Value.Order

/-!
# Order and sameness

Each kind of value is ordered by a number that tells its values apart. So two values that one column
holds, other than floating-point numbers, always have an order, and neither comes before the other
exactly if they count as one in a key.
-/

namespace SqlScribe

theorem Date.rank_inj {d e : Date} : d.rank = e.rank ↔ d = e := by
  refine ⟨fun same => ?_, congrArg rank⟩
  have last := daysInMonth_le d.year d.month
  have last' := daysInMonth_le e.year e.month
  obtain ⟨year, month, day, _, monthRange, dayRange⟩ := d
  obtain ⟨year', month', day', _, monthRange', dayRange'⟩ := e
  simp only [rank] at same last last'
  have days : day = day' := by omega
  have months : month = month' := by omega
  have years : year = year' := by omega
  subst days months years
  rfl

theorem Time.rank_lt (t : Time) : t.rank < 172800000000000 := by
  have hour := t.hour_lt
  have minute := t.minute_lt
  have second := t.second_lt
  have nano := t.nano_in_range
  unfold rank
  omega

theorem Time.rank_inj {t u : Time} : t.rank = u.rank ↔ t = u := by
  refine ⟨fun same => ?_, congrArg rank⟩
  obtain ⟨hour, minute, second, nano, _, minuteLt, secondLt, range⟩ := t
  obtain ⟨hour', minute', second', nano', _, minuteLt', secondLt', range'⟩ := u
  simp only [rank] at same
  have nanos : nano = nano' := by omega
  have seconds : second = second' := by omega
  have minutes : minute = minute' := by omega
  have hours : hour = hour' := by omega
  subst nanos seconds minutes hours
  rfl

theorem DateTime.rank_inj {m n : DateTime} : m.rank = n.rank ↔ m = n := by
  refine ⟨fun same => ?_, congrArg rank⟩
  obtain ⟨day, time⟩ := m
  obtain ⟨day', time'⟩ := n
  have low := time.rank_lt
  have low' := time'.rank_lt
  simp only [rank] at same
  rw [Date.rank_inj.mp (by omega : day.rank = day'.rank),
    Time.rank_inj.mp (by omega : time.rank = time'.rank)]

/-- Sequences of one length that stand for one number in base 256 are the same. -/
theorem Guid.foldl_bytes_inj {a b : List UInt8} (length : a.length = b.length) {m n : Nat}
    (same : a.foldl (fun n b => n * 256 + b.toNat) m = b.foldl (fun n b => n * 256 + b.toNat) n) :
    m = n ∧ a = b := by
  induction a generalizing b m n with
  | nil =>
    obtain rfl := List.length_eq_zero_iff.mp length.symm
    exact ⟨same, rfl⟩
  | cons x rest ih =>
    obtain ⟨y, others, rfl⟩ := List.exists_cons_of_length_eq_add_one length.symm
    obtain ⟨front, rfl⟩ := ih (Nat.succ.inj length) same
    have low := x.toNat_lt
    have low' := y.toNat_lt
    dsimp only at front
    have bytes : x = y := UInt8.toNat_inj.mp (by omega)
    exact ⟨by omega, by rw [bytes]⟩

theorem Guid.rank_inj {g h : Guid} : g.rank = h.rank ↔ g = h := by
  refine ⟨fun same => ?_, congrArg rank⟩
  obtain ⟨bytes, length⟩ := g
  obtain ⟨bytes', length'⟩ := h
  obtain ⟨-, rfl⟩ := foldl_bytes_inj (length.trans length'.symm) same
  rfl

theorem Guid.toBlob_inj {g h : Guid} : g.toBlob = h.toBlob ↔ g = h := by
  refine ⟨fun same => ?_, congrArg toBlob⟩
  have stored := ofBlob?_toBlob g
  rw [same, ofBlob?_toBlob h] at stored
  exact (Option.some.inj stored).symm

namespace Value

theorem compareTexts_eq_iff {s t : String} : compareTexts s t = .eq ↔ s = t := by
  rw [compareTexts, Std.LawfulEqCmp.compare_eq_iff_eq,
    List.map_inj_right fun _ _ same => Char.toNat_inj.mp same, String.toList_inj]

theorem compareBytes_eq_iff {a b : List UInt8} : compareBytes a b = .eq ↔ a = b := by
  rw [compareBytes, Std.LawfulEqCmp.compare_eq_iff_eq,
    List.map_inj_right fun _ _ same => UInt8.toNat_inj.mp same]

/-- Two values of one kind other than floating-point numbers, or NULL and a value. -/
inductive Paired : Value → Value → Prop
  | null_left (w : Value) : Paired null w
  | null_right (v : Value) : Paired v null
  | bool (a b : Bool) : Paired (bool a) (bool b)
  | int (m n : Int64) : Paired (int m) (int n)
  | money (a b : Decimal) : Paired (money a) (money b)
  | string (s t : String) : Paired (string s) (string t)
  | date (d e : Date) : Paired (date d) (date e)
  | time (t u : Time) : Paired (time t) (time u)
  | dateTime (m n : DateTime) : Paired (dateTime m) (dateTime n)
  | guid (g h : Guid) : Paired (guid g) (guid h)
  | binary (a b : List UInt8) : Paired (binary a) (binary b)

/-- A column of a known type holds values of one kind. -/
theorem paired_of_belongs {v w : Value} {ty : ColumnType} (known : ty ≠ .unknown)
    (exact : ty ≠ .float) (left : v.belongs ty = true) (right : w.belongs ty = true) :
    Paired v w := by
  cases ty with
  | unknown => exact absurd rfl known
  | float => exact absurd rfl exact
  | _ => cases v <;> first | contradiction | (cases w <;> first | contradiction | constructor)

/-- Two values of one column have an order, unless they are floating-point numbers, and that says
whether they count as one in a key. -/
theorem compare?_of_belongs {v w : Value} {ty : ColumnType} (known : ty ≠ .unknown)
    (exact : ty ≠ .float) (left : v.belongs ty = true) (right : w.belongs ty = true) :
    ∃ order, v.compare? w = some order ∧ (order = .eq ↔ v.keyImage = w.keyImage) := by
  cases paired_of_belongs known exact left right with
  | null_left => cases w <;> simp [compare?, keyImage]
  | null_right => cases v <;> simp [compare?, keyImage]
  | bool a b => exact ⟨_, rfl, by cases a <;> cases b <;> decide⟩
  | int m n =>
    exact ⟨_, rfl, by simp [keyImage, Std.LawfulEqCmp.compare_eq_iff_eq, Int64.toInt_inj]⟩
  | money a b =>
    exact ⟨_, rfl, by simpa [keyImage, Decimal.equals] using Decimal.equals_iff_normalize_eq a b⟩
  | string s t => exact ⟨_, rfl, by simp [keyImage, compareTexts_eq_iff]⟩
  | date d e => exact ⟨_, rfl, by simp [keyImage, Date.rank_inj]⟩
  | time t u => exact ⟨_, rfl, by simp [keyImage, Time.rank_inj]⟩
  | dateTime m n => exact ⟨_, rfl, by simp [keyImage, DateTime.rank_inj]⟩
  | guid g h => exact ⟨_, rfl, by simp [keyImage, Guid.rank_inj]⟩
  | binary a b => exact ⟨_, rfl, by simp [keyImage, compareBytes_eq_iff]⟩

end Value

namespace Dialect

variable {v w : Value} {ty : ColumnType}

theorem Sqlite.keyImage_bound (known : ty ≠ .unknown) (left : v.belongs ty = true)
    (right : w.belongs ty = true) :
    (bound v).keyImage = (bound w).keyImage ↔ v.keyImage = w.keyImage := by
  cases v with
  | guid g =>
    cases w with
    | guid h => simp [bound, Value.keyImage, Guid.toBlob_inj]
    | null => simp [bound, Value.keyImage]
    | _ => cases ty <;> contradiction
  | null => cases w <;> simp [bound, Value.keyImage]
  | _ =>
    cases w with
    | guid h => cases ty <;> contradiction
    | _ => exact Iff.rfl

theorem Db2.keyImage_bound (known : ty ≠ .unknown) (left : v.belongs ty = true)
    (right : w.belongs ty = true) :
    (bound v).keyImage = (bound w).keyImage ↔ v.keyImage = w.keyImage := by
  cases v with
  | bool a =>
    cases w with
    | bool b => cases a <;> cases b <;> simp [bound, Value.keyImage]
    | null => simp [bound, Value.keyImage]
    | _ => cases ty <;> contradiction
  | null => cases w <;> simp [bound, Value.keyImage]
  | _ =>
    cases w with
    | bool b => cases ty <;> contradiction
    | _ => exact Iff.rfl

end Dialect

/-- Two values of one column count as one in a key exactly if what a built-in dialect makes of them
does. -/
theorem Builtin.keyImage_form (b : Builtin) {v w : Value} {ty : ColumnType}
    (known : ty ≠ .unknown) (left : v.belongs ty = true) (right : w.belongs ty = true) :
    (b.form v).keyImage = (b.form w).keyImage ↔ v.keyImage = w.keyImage := by
  cases b with
  | sqlite => exact Dialect.Sqlite.keyImage_bound known left right
  | db2 => exact Dialect.Db2.keyImage_bound known left right
  | _ => exact Iff.rfl

end SqlScribe
