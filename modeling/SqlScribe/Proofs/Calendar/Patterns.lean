import Mathlib.Algebra.Ring.Nat
import SqlScribe.Calendar.Format
import SqlScribe.Proofs.Number.Reading

/-!
# Dates and times that are written and read

What a mark writes it takes off the front of a text again, and so a day, a time of day and a moment
come back from the text that a document holds for them.
-/

namespace SqlScribe

open Text

namespace Text

/-- A number that needs no more digits than the width takes exactly that many. -/
theorem length_paddedDigits {width n : Nat} (positive : 0 < width) (fits : n < 10 ^ width) :
    (paddedDigits width n).length = width := by
  have few : (digits n).length ≤ width := (Nat.length_toDigits_le_iff (by decide) positive).mpr fits
  rw [paddedDigits, List.length_append, List.length_replicate]
  omega

theorem paddedDigits_ne_nil (width n : Nat) : paddedDigits width n ≠ [] :=
  List.append_ne_nil_of_right_ne_nil _ (digits_ne_nil n)

end Text

theorem daysInMonth_le (year : Int) (month : Nat) : daysInMonth year month ≤ 31 := by
  unfold daysInMonth
  split
  · split <;> omega
  all_goals omega

theorem Time.clockSecond_le (t : Time) : t.clockSecond ≤ 60 := by
  have seconds := t.second_lt
  have nanos := t.nano_in_range
  unfold clockSecond
  omega

namespace Mark

variable {ds rest : List Char} {n : Nat}

theorem isEmpty_append_of_ne_nil (something : ds ≠ []) (rest : List Char) :
    (ds ++ rest).isEmpty = false := by
  cases ds with
  | nil => exact absurd rfl something
  | cons c more => rfl

theorem takeDigits_of_takeWhile {width : Nat} (something : ds ≠ [])
    (taken : ((ds ++ rest).take width).takeWhile Char.isDigit = ds) :
    takeDigits width (ds ++ rest) = .ok (ofDigits ds, rest) := by
  have some_digit : ds.isEmpty = false := by
    rw [← List.append_nil ds]
    exact isEmpty_append_of_ne_nil something []
  simp only [takeDigits, taken, isEmpty_append_of_ne_nil something, some_digit, List.drop_left,
    Bool.false_eq_true, if_false]

/-- Digits that fill the width are taken, whatever follows. -/
theorem takeDigits_full (something : ds ≠ []) (digit : ∀ c ∈ ds, c.isDigit = true)
    (rest : List Char) : takeDigits ds.length (ds ++ rest) = .ok (ofDigits ds, rest) := by
  apply takeDigits_of_takeWhile something
  rw [List.take_left]
  simpa using takeWhile_digits digit endsDigits_nil

/-- Digits are taken up to the first other character. -/
theorem takeDigits_upTo {width : Nat} (something : ds ≠ [])
    (digit : ∀ c ∈ ds, c.isDigit = true) (ends : EndsDigits rest) (room : ds.length ≤ width) :
    takeDigits width (ds ++ rest) = .ok (ofDigits ds, rest) := by
  apply takeDigits_of_takeWhile something
  rw [List.take_append, List.take_of_length_le room]
  apply takeWhile_digits digit
  intro c first
  apply ends c
  rw [List.head?_take] at first
  split at first
  · cases first
  · exact first

/-- A number of two digits is read as it was written. -/
theorem readShort_paddedDigits {least greatest : Nat} (low : least ≤ n) (high : n ≤ greatest)
    (short : n < 100) (rest : List Char) :
    readShort least greatest (paddedDigits 2 n ++ rest) = .ok (n, rest) := by
  have width : (paddedDigits 2 n).length = 2 := length_paddedDigits (by decide) short
  have digit : ∀ c ∈ paddedDigits 2 n, c.isDigit = true :=
    fun c => Decimal.isDigit_of_mem_paddedDigits
  have no_blank : (paddedDigits 2 n ++ rest).dropWhile isBlank = paddedDigits 2 n ++ rest := by
    apply dropWhile_eq_self
    intro c first
    rw [List.head?_append_of_ne_nil _ (paddedDigits_ne_nil 2 n)] at first
    exact (isPlain_of_isDigit (digit c (List.mem_of_mem_head? first))).not_blank
  have taken := takeDigits_full (paddedDigits_ne_nil 2 n) digit rest
  rw [width, Decimal.ofDigits_paddedDigits] at taken
  simp [readShort, no_blank, taken, bind, Except.bind, low, high, pure, Except.pure]

theorem dropWhile_isBlank_cons {c : Char} (visible : isBlank c = false) (rest : List Char) :
    (c :: rest).dropWhile isBlank = c :: rest :=
  List.dropWhile_cons_of_neg (by simp [visible])

theorem readYear_unsigned {c : Char} {more : List Char} (digit : c.isDigit = true)
    (taken : takeDigits 4 (c :: more) = .ok (n, rest)) (inside : n ≤ 2147483647) :
    readYear (c :: more) = .ok ((n : Int), rest) := by
  have low : -2147483648 ≤ (n : Int) := by omega
  have high : (n : Int) ≤ 2147483647 := by omega
  unfold readYear
  rw [dropWhile_isBlank_cons (isPlain_of_isDigit digit).not_blank]
  split
  · rename_i same
    cases same
    cases digit
  · rename_i same
    cases same
    cases digit
  · simp [taken, Except.map, bind, Except.bind, pure, Except.pure, low, high]

theorem readYear_signed (negative : Bool) {cs : List Char}
    (taken : takeDigits cs.length cs = .ok (n, rest)) (inside : n ≤ 2147483647) :
    readYear ((if negative then '-' else '+') :: cs) =
      .ok (if negative then -(n : Int) else n, rest) := by
  cases negative with
  | true =>
    have low : -2147483648 ≤ -(n : Int) := by omega
    have high : -(n : Int) ≤ 2147483647 := by omega
    simp only [if_true]
    rw [readYear, dropWhile_isBlank_cons rfl]
    simp [taken, Except.map, bind, Except.bind, pure, Except.pure, low, high]
  | false =>
    have low : -2147483648 ≤ (n : Int) := by omega
    have high : (n : Int) ≤ 2147483647 := by omega
    simp only [Bool.false_eq_true, if_false]
    rw [readYear, dropWhile_isBlank_cons rfl]
    simp [taken, Except.map, bind, Except.bind, pure, Except.pure, low, high]

/-- Digits without a sign are taken for a year. -/
theorem readYear_paddedDigits {width : Nat}
    (taken : takeDigits 4 (paddedDigits width n ++ rest) = .ok (n, rest))
    (inside : n ≤ 2147483647) :
    readYear (paddedDigits width n ++ rest) = .ok ((n : Int), rest) := by
  obtain ⟨c, more, written⟩ := List.exists_cons_of_ne_nil (paddedDigits_ne_nil width n)
  have first : c.isDigit = true := by
    apply @Decimal.isDigit_of_mem_paddedDigits width n
    rw [written]
    exact List.mem_cons_self
  rw [written, List.cons_append] at taken ⊢
  exact readYear_unsigned first taken inside

/-- A year of four digits is read as it was written, whatever follows. -/
theorem readYear_writeYear_short {year : Int} (short : 0 ≤ year ∧ year ≤ 9999)
    (rest : List Char) : readYear (writeYear year ++ rest) = .ok (year, rest) := by
  have width : (paddedDigits 4 year.toNat).length = 4 :=
    length_paddedDigits (by decide) (by omega)
  have taken := takeDigits_full (paddedDigits_ne_nil 4 year.toNat)
    (fun c => Decimal.isDigit_of_mem_paddedDigits) rest
  rw [width, Decimal.ofDigits_paddedDigits] at taken
  rw [writeYear, if_pos short, readYear_paddedDigits taken (by omega),
    Int.toNat_of_nonneg short.1]

/-- A year is read as it was written, if its digits end where it ends. -/
theorem readYear_writeYear {year : Int} (range : -262143 ≤ year ∧ year ≤ 262142)
    (ends : EndsDigits rest) : readYear (writeYear year ++ rest) = .ok (year, rest) := by
  by_cases short : 0 ≤ year ∧ year ≤ 9999
  · exact readYear_writeYear_short short rest
  · have digit : ∀ c ∈ paddedDigits 4 year.natAbs, c.isDigit = true :=
      fun c => Decimal.isDigit_of_mem_paddedDigits
    have room : (paddedDigits 4 year.natAbs).length ≤
        (paddedDigits 4 year.natAbs ++ rest).length := by
      rw [List.length_append]
      omega
    have taken := takeDigits_upTo (paddedDigits_ne_nil 4 year.natAbs) digit ends room
    rw [Decimal.ofDigits_paddedDigits] at taken
    have read := readYear_signed (decide (year < 0)) taken (by omega)
    simp only [decide_eq_true_eq] at read
    rw [writeYear, if_neg short, List.cons_append, read]
    congr 2
    split <;> omega

theorem readFraction_digits {k : Nat} {cs : List Char} (digit : ∀ c ∈ cs, c.isDigit = true)
    (something : cs ≠ []) (room : cs.length ≤ 9) (value : ofDigits cs * 10 ^ (9 - cs.length) = k)
    (ends : EndsDigits rest) : readFraction ('.' :: cs ++ rest) = .ok (k, rest) := by
  have taken := takeDigits_upTo something digit ends room
  have width : (cs ++ rest).length - rest.length = cs.length := by
    rw [List.length_append]
    omega
  have after : rest.dropWhile Char.isDigit = rest := dropWhile_eq_self ends
  rw [List.cons_append]
  simp only [readFraction, taken, Except.map, width, after]
  rw [← value]
  rfl

/-- The fraction of a second is read as it was written, if nothing follows that belongs to it. -/
theorem readFraction_writeFraction {nano : Nat} (range : nano < 1000000000)
    (ends : EndsDigits rest) (no_point : rest.head? ≠ some '.') :
    readFraction (writeFraction nano ++ rest) = .ok (nano, rest) := by
  have digit : ∀ width n, ∀ c ∈ paddedDigits width n, c.isDigit = true :=
    fun width n c => Decimal.isDigit_of_mem_paddedDigits
  unfold writeFraction
  split
  · rename_i none_left
    rw [none_left, List.nil_append]
    unfold readFraction
    split
    · exact absurd rfl no_point
    · rfl
  · split
    · have width : (paddedDigits 3 (nano / 1000000)).length = 3 :=
        length_paddedDigits (by decide) (by omega)
      apply readFraction_digits (digit _ _) (paddedDigits_ne_nil _ _) (by omega) _ ends
      rw [width, Decimal.ofDigits_paddedDigits]
      omega
    · split
      · have width : (paddedDigits 6 (nano / 1000)).length = 6 :=
          length_paddedDigits (by decide) (by omega)
        apply readFraction_digits (digit _ _) (paddedDigits_ne_nil _ _) (by omega) _ ends
        rw [width, Decimal.ofDigits_paddedDigits]
        omega
      · have width : (paddedDigits 9 nano).length = 9 := length_paddedDigits (by decide) (by omega)
        apply readFraction_digits (digit _ _) (paddedDigits_ne_nil _ _) (by omega) _ ends
        rw [width, Decimal.ofDigits_paddedDigits]
        omega

/-- The parts of a moment that a mark stands for, put among others. -/
def into (moment : DateTime) (parts : DateParts) : Mark → DateParts
  | year => { parts with year := moment.date.year }
  | month => { parts with month := moment.date.month }
  | day => { parts with day := moment.date.day }
  | hour => { parts with hour := moment.time.hour }
  | minute => { parts with minute := moment.time.minute }
  | second => { parts with second := moment.time.clockSecond }
  | fraction => { parts with nano := moment.time.fraction }
  | microseconds => { parts with nano := moment.time.fraction / 1000 * 1000 }
  | gap | text _ => parts

/-- What may follow a mark, so that it is clear where the mark ends. -/
def Ends (rest : List Char) : Mark → Prop
  | year => EndsDigits rest
  | fraction | microseconds => EndsDigits rest ∧ rest.head? ≠ some '.'
  | gap => ∀ c, rest.head? = some c → isBlank c = false
  | _ => True

/-- A mark reads the part of a moment that it has written. -/
theorem read_write (mark : Mark) (moment : DateTime) (parts : DateParts) {rest : List Char}
    (ends : mark.Ends rest) :
    mark.read parts (mark.write moment ++ rest) = .ok (mark.into moment parts, rest) := by
  have fraction_lt : moment.time.fraction < 1000000000 := Nat.mod_lt _ (by decide)
  cases mark with
  | year =>
    rw [read, write, readYear_writeYear moment.date.year_in_range ends]
    rfl
  | month =>
    have range := moment.date.month_in_range
    rw [read, write, readShort_paddedDigits range.1 range.2 (by omega)]
    rfl
  | day =>
    have range := moment.date.day_in_range
    have last := daysInMonth_le moment.date.year moment.date.month
    rw [read, write, readShort_paddedDigits range.1 (Nat.le_trans range.2 last) (by omega)]
    rfl
  | hour =>
    have range := moment.time.hour_lt
    rw [read, write, readShort_paddedDigits (Nat.zero_le _) (by omega) (by omega)]
    rfl
  | minute =>
    have range := moment.time.minute_lt
    rw [read, write, readShort_paddedDigits (Nat.zero_le _) (by omega) (by omega)]
    rfl
  | second =>
    have range := moment.time.clockSecond_le
    rw [read, write, readShort_paddedDigits (Nat.zero_le _) range (by omega)]
    rfl
  | fraction =>
    rw [read, write, readFraction_writeFraction fraction_lt ends.1 ends.2]
    rfl
  | microseconds =>
    have width : (paddedDigits 6 (moment.time.fraction / 1000)).length = 6 :=
      length_paddedDigits (by decide) (by omega)
    have value : ofDigits (paddedDigits 6 (moment.time.fraction / 1000)) *
        10 ^ (9 - (paddedDigits 6 (moment.time.fraction / 1000)).length) =
        moment.time.fraction / 1000 * 1000 := by
      have power : 10 ^ (9 - 6) = 1000 := rfl
      rw [width, Decimal.ofDigits_paddedDigits, power]
    rw [read, write, readFraction_digits (fun c => Decimal.isDigit_of_mem_paddedDigits)
      (paddedDigits_ne_nil _ _) (by omega) value ends.1]
    rfl
  | gap =>
    have after : rest.dropWhile isBlank = rest := dropWhile_eq_self ends
    rw [read, write, List.singleton_append, List.dropWhile_cons_of_pos rfl, after]
    rfl
  | text c =>
    rw [write, List.singleton_append, read, if_pos rfl]
    rfl

end Mark

namespace Pattern

variable {parts : DateParts} {rest : List Char} {p : Pattern}

theorem readFrom_write (mark : Mark) (moment : DateTime) (ends : mark.Ends rest) :
    readFrom parts (mark.write moment ++ rest) (mark :: p) =
      readFrom (mark.into moment parts) rest p := by
  rw [readFrom, mark.read_write moment parts ends]
  rfl

/-- Blanks may stand before a separator, and none need to. -/
theorem readFrom_separator {c : Char} (visible : isBlank c = false) (moment : DateTime) :
    readFrom parts ((Mark.text c).write moment ++ rest) (.gap :: .text c :: p) =
      readFrom parts rest p := by
  have gap : Mark.gap.read parts ((Mark.text c).write moment ++ rest) =
      .ok (parts, (Mark.text c).write moment ++ rest) := by
    rw [Mark.read, Mark.write, List.singleton_append, Mark.dropWhile_isBlank_cons visible]
  rw [readFrom, gap]
  exact readFrom_write (.text c) moment trivial

/-- A day is read from a text that begins with it, and the rest of the pattern from what follows. -/
theorem readFrom_date (moment : DateTime) :
    readFrom parts (dashedDate.write moment ++ rest) (documentDate ++ p) =
      readFrom { parts with
        year := moment.date.year, month := moment.date.month, day := moment.date.day } rest p := by
  have written : dashedDate.write moment ++ rest =
      Mark.year.write moment ++ ((Mark.text '-').write moment ++ (Mark.month.write moment ++
        ((Mark.text '-').write moment ++ (Mark.day.write moment ++ rest)))) := by
    simp [write, dashedDate]
  have stop (cs : List Char) : EndsDigits ((Mark.text '-').write moment ++ cs) :=
    endsDigits_cons rfl cs
  rw [written]
  change readFrom parts _
    (.year :: .gap :: .text '-' :: .month :: .gap :: .text '-' :: .day :: p) = _
  rw [readFrom_write .year moment (stop _), readFrom_separator rfl,
    readFrom_write .month moment trivial, readFrom_separator rfl,
    readFrom_write .day moment trivial]
  rfl

/-- Hours and minutes are read from a text that begins with them. -/
theorem readFrom_hourAndMinute (moment : DateTime) :
    readFrom parts (write [.hour, .text ':', .minute] moment ++ rest) (hourAndMinute ++ p) =
      readFrom { parts with hour := moment.time.hour, minute := moment.time.minute } rest p := by
  have written : write [.hour, .text ':', .minute] moment ++ rest =
      Mark.hour.write moment ++ ((Mark.text ':').write moment ++
        (Mark.minute.write moment ++ rest)) := by
    simp [write]
  rw [written]
  change readFrom parts _ (.hour :: .gap :: .text ':' :: .minute :: p) = _
  rw [readFrom_write .hour moment trivial, readFrom_separator rfl,
    readFrom_write .minute moment trivial]
  rfl

/-- Seconds and their fraction are read from the end of a text. -/
theorem readFrom_secondAndFraction (moment : DateTime) :
    readFrom parts (write [.text ':', .second, .fraction] moment) (secondAndFraction ++ p) =
      readFrom { parts with
        second := moment.time.clockSecond, nano := moment.time.fraction } [] p := by
  have written : write [.text ':', .second, .fraction] moment =
      (Mark.text ':').write moment ++ (Mark.second.write moment ++
        (Mark.fraction.write moment ++ [])) := by
    simp [write]
  have last : Mark.fraction.Ends [] := ⟨endsDigits_nil, fun point => nomatch point⟩
  rw [written]
  change readFrom parts _ (.gap :: .text ':' :: .second :: .fraction :: p) = _
  rw [readFrom_separator rfl, readFrom_write .second moment trivial,
    readFrom_write .fraction moment last]
  rfl

end Pattern

namespace DateParts

/-- The parts of a day name it. -/
theorem date_eq_ok {parts : DateParts} (d : Date) (year : parts.year = d.year)
    (month : parts.month = d.month) (day : parts.day = d.day) : parts.date = .ok d := by
  obtain ⟨y, m, n, years, months, days⟩ := d
  have valid : (-262143 ≤ y ∧ y ≤ 262142) ∧ (1 ≤ m ∧ m ≤ 12) ∧ (1 ≤ n ∧ n ≤ daysInMonth y m) :=
    ⟨years, months, days⟩
  rw [date, year, month, day, Date.of?, dif_pos valid]

/-- The parts of a time of day, as a clock shows them, name it. -/
theorem time_eq_ok {parts : DateParts} (t : Time) (hour : parts.hour = t.hour)
    (minute : parts.minute = t.minute) (second : parts.second = t.clockSecond)
    (nano : parts.nano = t.fraction) : parts.time = .ok t := by
  obtain ⟨h, m, s, n, hours, minutes, seconds, nanos⟩ := t
  have found : Time.ofClock? h m (s + n / 1000000000) (n % 1000000000) =
      some ⟨h, m, s, n, hours, minutes, seconds, nanos⟩ := by
    unfold Time.ofClock?
    split
    · rename_i leap
      have last : s = 59 := by omega
      have whole : n % 1000000000 + 1000000000 = n := by omega
      subst last
      rw [whole, Time.of?, dif_pos ⟨hours, minutes, seconds, nanos⟩]
    · rename_i plain
      have same : s + n / 1000000000 = s := by omega
      have whole : n % 1000000000 = n := by omega
      rw [same, whole, Time.of?, dif_pos ⟨hours, minutes, seconds, nanos⟩]
  rw [time, hour, minute, second, nano]
  simp only [Time.clockSecond, Time.fraction, found]

theorem dateTime_eq_ok {parts : DateParts} (m : DateTime) (date : parts.date = .ok m.date)
    (time : parts.time = .ok m.time) : parts.dateTime = .ok m := by
  rw [dateTime, date, time]
  rfl

end DateParts

/-- A day comes back from its text. -/
theorem Date.ofText_toText (d : Date) : Date.ofText d.toText = .ok d := by
  have read := @Pattern.readFrom_date {} [] [.gap] (.startOf d)
  rw [List.append_nil] at read
  have parts : Pattern.read (Pattern.documentDate ++ [.gap]) d.toText.toList =
      .ok { year := d.year, month := d.month, day := d.day } := by
    rw [Date.toText, String.toList_ofList, Pattern.read, Date.write, read]
    rfl
  rw [Date.ofText, parts]
  exact DateParts.date_eq_ok d rfl rfl rfl

/-- A time of day comes back from its text. -/
theorem Time.ofText_toText (t : Time) : Time.ofText t.toText = .ok t := by
  have written : t.toText.toList = Pattern.write [.hour, .text ':', .minute] ⟨.first, t⟩ ++
      Pattern.write [.text ':', .second, .fraction] ⟨.first, t⟩ := by
    rw [Time.toText, String.toList_ofList, Pattern.write, Pattern.write, ← List.flatMap_append]
    rfl
  have first := @Pattern.readFrom_hourAndMinute {}
    (Pattern.write [.text ':', .second, .fraction] ⟨.first, t⟩) [] ⟨.first, t⟩
  have second := @Pattern.readFrom_secondAndFraction { hour := t.hour, minute := t.minute } []
    ⟨.first, t⟩
  rw [List.append_nil] at first second
  rw [Time.ofText, written, first]
  simp only [Pattern.readFrom, bind, Except.bind, second]
  exact DateParts.time_eq_ok t rfl rfl rfl rfl

/-- A moment comes back from its text. -/
theorem DateTime.ofText_toText (m : DateTime) : DateTime.ofText m.toText = .ok m := by
  have written : m.toText.toList = Pattern.dashedDate.write m ++ ((Mark.text 'T').write m ++
      (Pattern.write [.hour, .text ':', .minute] m ++
        Pattern.write [.text ':', .second, .fraction] m)) := by
    rw [DateTime.toText, String.toList_ofList]
    simp [Pattern.write, Pattern.dateTime, Pattern.preciseClock, Pattern.clock]
  have marks : Pattern.documentDateTime ++ [Mark.gap] = Pattern.documentDate ++ (Mark.gap ::
      Mark.text 'T' :: (Pattern.hourAndMinute ++ (Pattern.secondAndFraction ++ [Mark.gap]))) := rfl
  have parts : Pattern.read (Pattern.documentDateTime ++ [.gap]) m.toText.toList =
      .ok { year := m.date.year, month := m.date.month, day := m.date.day, hour := m.time.hour,
            minute := m.time.minute, second := m.time.clockSecond, nano := m.time.fraction } := by
    rw [written, marks, Pattern.read, Pattern.readFrom_date, Pattern.readFrom_separator rfl,
      Pattern.readFrom_hourAndMinute, Pattern.readFrom_secondAndFraction]
    rfl
  rw [DateTime.ofText, parts]
  exact DateParts.dateTime_eq_ok m (DateParts.date_eq_ok m.date rfl rfl rfl)
    (DateParts.time_eq_ok m.time rfl rfl rfl rfl)

end SqlScribe
