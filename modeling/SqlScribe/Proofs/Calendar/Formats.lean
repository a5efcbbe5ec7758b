import SqlScribe.Calendar.Format
import SqlScribe.Proofs.Calendar.Patterns

/-!
# Formats that are tried in order

Free text is taken for a moment by the first format that it follows. A day that one of the formats
has written is refused by every format that begins with another way of writing days, whatever stands
behind the day, so the order of the formats does not decide what a written text is read as.
-/

namespace SqlScribe

open Text

/-- A day whose year is written with four digits and no sign. -/
def Date.HasShortYear (d : Date) : Prop := 0 ≤ d.year ∧ d.year ≤ 9999

/-- How much of a second is written. -/
inductive Precision
  | seconds
  | microseconds
  | nanoseconds
deriving DecidableEq

namespace Precision

/-- The nanoseconds of which a written time has a whole number. -/
def unit : Precision → Nat
  | seconds => 1000000000
  | microseconds => 1000
  | nanoseconds => 1

/-- What is written behind the whole seconds. -/
def places : Precision → Pattern
  | seconds => []
  | microseconds => [.microseconds]
  | nanoseconds => [.fraction]

end Precision

/-- The time without what is too short to be written. -/
def Time.cut (t : Time) (p : Precision) : Time where
  hour := t.hour
  minute := t.minute
  second := t.second
  nano := t.nano / p.unit * p.unit
  hour_lt := t.hour_lt
  minute_lt := t.minute_lt
  second_lt := t.second_lt
  nano_in_range := by
    have range := t.nano_in_range
    have shorter := Nat.div_mul_le_self t.nano p.unit
    omega

namespace Time

variable (t : Time) (p : Precision)

theorem clockSecond_cut : (t.cut p).clockSecond = t.clockSecond := by
  cases p <;> simp only [cut, clockSecond, Precision.unit] <;> omega

theorem fraction_cut : (t.cut p).fraction = t.fraction / p.unit * p.unit := by
  cases p <;> simp only [cut, fraction, Precision.unit] <;> omega

theorem cut_nanoseconds : t.cut .nanoseconds = t := by
  simp only [cut, Precision.unit, Nat.div_one, Nat.mul_one]

/-- Nothing is cut off a whole second. -/
theorem cut_of_whole {t : Time} (whole : t.nano = 0) : t.cut p = t := by
  obtain ⟨hour, minute, second, nano⟩ := t
  obtain rfl : nano = 0 := whole
  simp only [cut, Nat.zero_div, Nat.zero_mul]

end Time

namespace Mark

/-- A mark whose text holds no blank and no quote. -/
def IsVisible : Mark → Prop
  | gap => False
  | text c => Text.IsPlain c
  | _ => True

/-- What a mark writes holds no blank and no quote; only the sign of a long year is not plain. -/
theorem isPlain_or_plus_of_mem_write {mark : Mark} (visible : mark.IsVisible) {m : DateTime}
    {c : Char} (member : c ∈ mark.write m) :
    Text.IsPlain c ∨ c = '+' ∧ ¬m.date.HasShortYear := by
  have padded {width n : Nat} (member : c ∈ paddedDigits width n) : Text.IsPlain c :=
    isPlain_of_isDigit (Decimal.isDigit_of_mem_paddedDigits member)
  have point : Text.IsPlain '.' := ⟨by decide, by decide⟩
  cases mark with
  | year =>
    rw [write, writeYear] at member
    split at member
    · exact .inl (padded member)
    · rename_i long
      obtain sign | digit := List.mem_cons.mp member
      · split at sign
        · exact .inl (sign ▸ ⟨by decide, by decide⟩)
        · exact .inr ⟨sign, long⟩
      · exact .inl (padded digit)
  | month | day | hour | minute | second => exact .inl (padded member)
  | fraction =>
    rw [write, writeFraction] at member
    split at member
    · cases member
    · split_ifs at member
      all_goals
        obtain rfl | digit := List.mem_cons.mp member
        · exact .inl point
        · exact .inl (padded digit)
  | microseconds =>
    obtain rfl | digit := List.mem_cons.mp member
    · exact .inl point
    · exact .inl (padded digit)
  | gap => exact visible.elim
  | text d =>
    obtain rfl := List.mem_singleton.mp member
    exact .inl visible

/-- What may follow a mark where years have four digits: nothing need end a year then. -/
def IsClear (rest : List Char) (mark : Mark) : Prop := mark = .year ∨ mark.Ends rest

theorem read_write_of_isClear (mark : Mark) {m : DateTime} (short : m.date.HasShortYear)
    (parts : DateParts) {rest : List Char} (clear : mark.IsClear rest) :
    mark.read parts (mark.write m ++ rest) = .ok (mark.into m parts, rest) := by
  obtain rfl | ends := clear
  · rw [read, write, readYear_writeYear_short short]
    rfl
  · exact mark.read_write m parts ends

/-- No number is taken off a text that does not begin with a digit. -/
theorem takeDigits_refused {cs : List Char} (ends : EndsDigits cs) (width : Nat) :
    ∃ fault, takeDigits width cs = .error fault := by
  have none_taken : (cs.take width).takeWhile Char.isDigit = [] := by
    cases cs with
    | nil => rw [List.take_nil, List.takeWhile_nil]
    | cons c rest =>
      cases width with
      | zero => rfl
      | succ n => rw [List.take_succ_cons, List.takeWhile_cons_of_neg (by simp [ends c rfl])]
  simp only [takeDigits, none_taken, List.isEmpty_nil, if_true]
  split
  · exact ⟨_, rfl⟩
  · exact ⟨_, rfl⟩

theorem readShort_refused {cs : List Char} (ends : EndsDigits (cs.dropWhile isBlank))
    (least greatest : Nat) : ∃ fault, readShort least greatest cs = .error fault := by
  obtain ⟨fault, refused⟩ := takeDigits_refused ends 2
  exact ⟨fault, by rw [readShort, refused]; rfl⟩

end Mark

namespace Pattern

variable {parts : DateParts} {cs rest : List Char} {p q : Pattern} {m : DateTime}

theorem mem_dates_iff : p ∈ dates ↔ p = dashedDate ∨ p = compactDate ∨ p = slashedDate := by
  simp only [dates, List.mem_cons, List.not_mem_nil, or_false]

theorem write_append (p q : Pattern) (m : DateTime) :
    write (p ++ q) m = p.write m ++ q.write m := List.flatMap_append

theorem readFrom_append (p q : Pattern) (parts : DateParts) (cs : List Char) :
    readFrom parts cs (p ++ q) =
      (readFrom parts cs p).bind fun (parts, rest) => readFrom parts rest q := by
  induction p generalizing parts cs with
  | nil => rfl
  | cons mark p ih =>
    rw [List.cons_append, readFrom, readFrom]
    cases mark.read parts cs with
    | error fault => rfl
    | ok taken => exact ih taken.1 taken.2

section Written

/-- The parts of a moment that a pattern stands for, put among others. -/
def into (p : Pattern) (m : DateTime) (parts : DateParts) : DateParts :=
  p.foldl (fun parts mark => mark.into m parts) parts

/-- Each mark is clear from what the pattern writes after it. -/
def IsClear (m : DateTime) : Pattern → List Char → Prop
  | [], _ => True
  | mark :: p, rest => mark.IsClear (write p m ++ rest) ∧ IsClear m p rest

/-- A pattern takes off a text what it has written. -/
theorem readFrom_write_of_isClear (short : m.date.HasShortYear) (clear : IsClear m p rest) :
    readFrom parts (p.write m ++ rest) p = .ok (p.into m parts, rest) := by
  induction p generalizing parts with
  | nil => rfl
  | cons mark p ih =>
    have written : write (mark :: p) m ++ rest = mark.write m ++ (write p m ++ rest) := by
      rw [write, List.flatMap_cons, List.append_assoc]
      rfl
    rw [written, readFrom, mark.read_write_of_isClear short parts clear.1]
    exact ih clear.2

theorem isClear_date (written : p ∈ dates) : IsClear m p rest := by
  obtain rfl | rfl | rfl := mem_dates_iff.mp written <;> simp [dashedDate, compactDate, slashedDate, IsClear,
    Mark.IsClear, Mark.Ends]

theorem into_date (written : p ∈ dates) : p.into m parts = { parts with
    year := m.date.year, month := m.date.month, day := m.date.day } := by
  obtain rfl | rfl | rfl := mem_dates_iff.mp written <;> rfl

/-- In this format it is clear where the year of the day ends: a separator stands behind it, or it
has four digits. -/
def EndsYear (p : Pattern) (d : Date) : Prop := p = compactDate → d.HasShortYear

/-- A day is read by the format that has written it, if no digit follows. -/
theorem readFrom_day (written : p ∈ dates) (clear : p.EndsYear m.date) (ends : EndsDigits rest) :
    readFrom parts (p.write m ++ rest) p = .ok ({ parts with
      year := m.date.year, month := m.date.month, day := m.date.day }, rest) := by
  obtain rfl | rfl | rfl := mem_dates_iff.mp written
  · have text : dashedDate.write m ++ rest =
        Mark.year.write m ++ ((Mark.text '-').write m ++ (Mark.month.write m ++
          ((Mark.text '-').write m ++ (Mark.day.write m ++ rest)))) := by
      simp [write, dashedDate]
    have hyphen (cs : List Char) : EndsDigits ((Mark.text '-').write m ++ cs) :=
      endsDigits_cons rfl cs
    rw [text, dashedDate, readFrom_write .year m (hyphen _), readFrom_write (.text '-') m trivial,
      readFrom_write .month m trivial, readFrom_write (.text '-') m trivial,
      readFrom_write .day m trivial]
    rfl
  · rw [readFrom_write_of_isClear (clear rfl) (isClear_date written), into_date written]
  · have text : slashedDate.write m ++ rest =
        Mark.month.write m ++ ((Mark.text '/').write m ++ (Mark.day.write m ++
          ((Mark.text '/').write m ++ (Mark.year.write m ++ rest)))) := by
      simp [write, slashedDate]
    rw [text, slashedDate, readFrom_write .month m trivial, readFrom_write (.text '/') m trivial,
      readFrom_write .day m trivial, readFrom_write (.text '/') m trivial,
      readFrom_write .year m ends]
    rfl

/-- The part of a second that was written is read. -/
theorem readFrom_places (p : Precision) (m : DateTime) (parts : DateParts) :
    readFrom parts (write p.places m) [.fraction] =
      .ok ({ parts with nano := m.time.fraction / p.unit * p.unit }, []) := by
  have fraction_lt : m.time.fraction < 1000000000 := Nat.mod_lt _ (by decide)
  have last {mark : Mark} (ends : mark.Ends []) :
      mark.read parts (mark.write m) = .ok (mark.into m parts, []) := by
    have read := mark.read_write m parts ends
    rwa [List.append_nil] at read
  have nothing : EndsDigits [] ∧ ([] : List Char).head? ≠ some '.' := ⟨endsDigits_nil, nofun⟩
  cases p with
  | seconds =>
    have none_left : m.time.fraction / 1000000000 = 0 := Nat.div_eq_of_lt fraction_lt
    simp only [Precision.unit, none_left, Nat.zero_mul]
    rfl
  | microseconds =>
    have same (cs : List Char) :
        Mark.fraction.read parts cs = Mark.microseconds.read parts cs := rfl
    simp only [Precision.places, write, List.flatMap_singleton, readFrom, same,
      @last .microseconds nothing]
    rfl
  | nanoseconds =>
    simp only [Precision.places, write, List.flatMap_singleton, readFrom, @last .fraction nothing,
      Precision.unit, Nat.div_one, Nat.mul_one]
    rfl

end Written

section Refused

/-- The pattern does not fit the front of the text, whatever was read before. -/
def Refuses (p : Pattern) (cs : List Char) : Prop :=
  ∀ parts, ∃ fault, readFrom parts cs p = .error fault

/-- A pattern refuses a text if, whatever its first mark takes off, the others refuse the rest. -/
theorem refuses_cons {mark : Mark}
    (others : ∀ parts next rest, mark.read parts cs = .ok (next, rest) → p.Refuses rest) :
    Refuses (mark :: p) cs := by
  intro parts
  cases read : mark.read parts cs with
  | error fault => exact ⟨fault, by rw [readFrom, read]; rfl⟩
  | ok taken =>
    obtain ⟨fault, refused⟩ := others parts taken.1 taken.2 read taken.1
    exact ⟨fault, by rw [readFrom, read]; exact refused⟩

theorem refuses_append (begins : ∀ parts, ∃ next, readFrom parts cs p = .ok (next, rest))
    (refused : q.Refuses rest) : Refuses (p ++ q) cs := by
  intro parts
  obtain ⟨next, read⟩ := begins parts
  obtain ⟨fault, stops⟩ := refused next
  exact ⟨fault, by rw [readFrom_append, read]; exact stops⟩

theorem refuses_text {c : Char} (other : cs.head? ≠ some c) : Refuses (.text c :: p) cs := by
  apply refuses_cons
  intro parts next rest read
  cases cs with
  | nil => cases read
  | cons d more =>
    have differs : d ≠ c := fun same => other (congrArg some same)
    rw [Mark.read, if_neg differs] at read
    cases read

theorem refuses_month (ends : EndsDigits (cs.dropWhile isBlank)) : Refuses (.month :: p) cs := by
  obtain ⟨fault, refused⟩ := Mark.readShort_refused ends 1 12
  exact fun parts => ⟨fault, by rw [readFrom, Mark.read, refused]; rfl⟩

theorem refuses_hour (ends : EndsDigits (cs.dropWhile isBlank)) : Refuses (.hour :: p) cs := by
  obtain ⟨fault, refused⟩ := Mark.readShort_refused ends 0 23
  exact fun parts => ⟨fault, by rw [readFrom, Mark.read, refused]; rfl⟩

theorem refuses_year {year : Int} (taken : Mark.readYear cs = .ok (year, rest))
    (refused : p.Refuses rest) : Refuses (.year :: p) cs := by
  intro parts
  obtain ⟨fault, stops⟩ := refused { parts with year }
  exact ⟨fault, by rw [readFrom, Mark.read, taken]; exact stops⟩

/-- A month takes two digits of a year that has four, so no slash follows it. -/
theorem refuses_month_of_short_year {year : Int} (short : 0 ≤ year ∧ year ≤ 9999)
    (rest : List Char) : Refuses (.month :: .text '/' :: p) (Mark.writeYear year ++ rest) := by
  have width : (paddedDigits 4 year.toNat).length = 4 :=
    length_paddedDigits (by decide) (by omega)
  have digit : ∀ c ∈ paddedDigits 4 year.toNat, c.isDigit = true :=
    fun c => Decimal.isDigit_of_mem_paddedDigits
  obtain ⟨a, b, c, d, four⟩ := List.length_eq_four.mp width
  simp only [four, List.forall_mem_cons] at digit
  obtain ⟨first, second, third, -⟩ := digit
  have two_digits : ∀ x ∈ [a, b], x.isDigit = true := by
    simp only [List.forall_mem_cons]
    exact ⟨first, second, List.forall_mem_nil _⟩
  have taken := Mark.takeDigits_full (List.cons_ne_nil a [b]) two_digits (c :: d :: rest)
  have visible := (isPlain_of_isDigit first).not_blank
  have split_after_two : [a, b, c, d] ++ rest = [a, b] ++ c :: d :: rest := rfl
  rw [Mark.writeYear, if_pos short, four, split_after_two]
  apply refuses_cons
  intro parts next after read
  have goes_on : after = c :: d :: rest := by
    rw [Mark.read, Mark.readShort, List.cons_append, Mark.dropWhile_isBlank_cons visible,
      ← List.cons_append] at read
    simp only [List.length_cons, List.length_nil] at taken
    rw [taken] at read
    simp only [bind, Except.bind, pure, Except.pure] at read
    split at read
    · cases read
      rfl
    · cases read
  rw [goes_on]
  apply refuses_text
  rintro ⟨⟩
  cases third

theorem refuses_month_of_year (year : Int) (rest : List Char) :
    Refuses (.month :: .text '/' :: p) (Mark.writeYear year ++ rest) := by
  by_cases short : 0 ≤ year ∧ year ≤ 9999
  · exact refuses_month_of_short_year short rest
  · -- A month does not begin with a sign.
    rw [Mark.writeYear, if_neg short, List.cons_append]
    split
    · exact refuses_month (endsDigits_cons rfl _)
    · exact refuses_month (endsDigits_cons rfl _)

/-- The month of a slashed day would be its year, where the year comes first. -/
theorem readYear_of_slashed (m : DateTime) (rest : List Char) :
    Mark.readYear (paddedDigits 2 m.date.month ++ '/' :: rest) =
      .ok (m.date.month, '/' :: rest) := by
  have range := m.date.month_in_range
  have width : (paddedDigits 2 m.date.month).length = 2 :=
    length_paddedDigits (by decide) (by omega)
  have slash : EndsDigits ('/' :: rest) := endsDigits_cons rfl rest
  have taken := @Mark.takeDigits_upTo _ _ 4 (paddedDigits_ne_nil 2 m.date.month)
    (fun c => Decimal.isDigit_of_mem_paddedDigits) slash (by omega)
  rw [Decimal.ofDigits_paddedDigits] at taken
  exact Mark.readYear_paddedDigits taken (by omega)

/-- A day that one format has written is refused by the formats that begin with another, whatever
follows the day. -/
theorem refuses_date (clear : p.EndsYear m.date) (written : p ∈ dates) (other : q ∈ dates)
    (differs : q ≠ p) (after : Pattern) (rest : List Char) :
    (q ++ after).Refuses (p.write m ++ rest) := by
  have dashed : dashedDate.write m ++ rest = Mark.writeYear m.date.year ++
      '-' :: (paddedDigits 2 m.date.month ++ '-' :: (paddedDigits 2 m.date.day ++ rest)) := by
    simp [dashedDate, write, Mark.write]
  have compact : compactDate.write m ++ rest = Mark.writeYear m.date.year ++
      (paddedDigits 2 m.date.month ++ (paddedDigits 2 m.date.day ++ rest)) := by
    simp [compactDate, write, Mark.write]
  have slashed : slashedDate.write m ++ rest = paddedDigits 2 m.date.month ++
      '/' :: (paddedDigits 2 m.date.day ++ '/' :: (Mark.writeYear m.date.year ++ rest)) := by
    simp [slashedDate, write, Mark.write]
  have no_month {c : Char} (mark : c = '-' ∨ c = '/') (p : Pattern) (cs : List Char) :
      Refuses (.month :: p) (c :: cs) := by
    obtain rfl | rfl := mark <;> exact refuses_month (endsDigits_cons rfl cs)
  rw [mem_dates_iff] at written other
  -- The formats that begin with a year stop behind it, the other at the third digit of a year.
  obtain rfl | rfl | rfl := other
  · obtain rfl | rfl | rfl := written
    · exact absurd rfl differs
    · rw [compact]
      apply refuses_year (Mark.readYear_writeYear_short (clear rfl) _)
      apply refuses_text
      intro hyphen
      rw [List.head?_append_of_ne_nil _ (paddedDigits_ne_nil 2 m.date.month)] at hyphen
      cases Decimal.isDigit_of_mem_paddedDigits (List.mem_of_mem_head? hyphen)
    · rw [slashed]
      exact refuses_year (readYear_of_slashed m _) (refuses_text (by simp))
  · obtain rfl | rfl | rfl := written
    · rw [dashed]
      refine refuses_year (Mark.readYear_writeYear m.date.year_in_range ?_)
        (no_month (.inl rfl) _ _)
      exact endsDigits_cons rfl _
    · exact absurd rfl differs
    · rw [slashed]
      exact refuses_year (readYear_of_slashed m _) (no_month (.inr rfl) _ _)
  · obtain rfl | rfl | rfl := written
    · rw [dashed]
      exact refuses_month_of_year _ _
    · rw [compact]
      exact refuses_month_of_year _ _
    · exact absurd rfl differs

/-- A format refuses a written day and what follows it, unless it begins with the same way of
writing days and reads what follows. -/
theorem refuses_behind_date (clear : p.EndsYear m.date) (written : p ∈ dates) (other : q ∈ dates)
    (ends : EndsDigits rest) {after : Pattern} (stops : q = p → after.Refuses rest) :
    (q ++ after).Refuses (p.write m ++ rest) := by
  by_cases same : q = p
  · subst same
    exact refuses_append (fun parts => ⟨_, readFrom_day written clear ends⟩) (stops rfl)
  · exact refuses_date clear written other same after rest

end Refused

section Formats

/-- The format of a moment whose day is written in this way. -/
def momentFormat (p : Pattern) : Pattern :=
  p ++ .gap :: (clock ++ if p = slashedDate then [] else [.fraction])

theorem mem_dateTimes_iff {format : Pattern} :
    format ∈ dateTimes ↔ format = dateTime ∨ ∃ p ∈ dates, format = momentFormat p := by
  have formats : dateTimes =
      [momentFormat dashedDate, dateTime, momentFormat compactDate, momentFormat slashedDate] := by
    decide
  simp only [formats, dates, List.mem_cons, List.not_mem_nil, or_false, exists_eq_or_imp,
    exists_eq_left]
  exact or_left_comm

/-- What stands behind a written day is refused by the formats of other days, and by the one with a
letter if it does not begin with that. -/
theorem refuses_moment (clear : p.EndsYear m.date) (written : p ∈ dates) {format : Pattern}
    (member : format ∈ dateTimes) (other : format ≠ momentFormat p) (ends : EndsDigits rest)
    (no_letter : rest.head? ≠ some 'T') : format.Refuses (p.write m ++ rest) := by
  obtain rfl | ⟨q, day, rfl⟩ := mem_dateTimes_iff.mp member
  · exact refuses_behind_date clear written (mem_dates_iff.mpr (.inl rfl)) ends fun _ =>
      refuses_text no_letter
  · apply refuses_behind_date clear written day ends
    exact fun same => absurd (congrArg momentFormat same) other

/-- A day alone is not taken for a moment. -/
theorem refuses_day_alone (clear : p.EndsYear m.date) (written : p ∈ dates) {format : Pattern}
    (member : format ∈ dateTimes) : format.Refuses (p.write m) := by
  rw [← List.append_nil (p.write m)]
  by_cases own : format = momentFormat p
  · rw [own]
    apply refuses_behind_date clear written written endsDigits_nil
    intro _
    apply refuses_cons
    rintro parts next rest ⟨⟩
    exact refuses_hour endsDigits_nil
  · exact refuses_moment clear written member own endsDigits_nil nofun

end Formats

/-- What only one of several formats reads is read so, in whatever order they are tried. -/
theorem findSome?_of_unique {α β : Type} {f : α → Option β} {xs : List α} {x : α} {y : β}
    (member : x ∈ xs) (read : f x = some y) (others : ∀ z ∈ xs, z ≠ x → f z = none) :
    xs.findSome? f = some y := by
  induction xs with
  | nil => cases member
  | cons z rest ih =>
    by_cases same : z = x
    · rw [same, List.findSome?_cons, read]
    · have later : x ∈ rest := (List.mem_cons.mp member).resolve_left (Ne.symm same)
      rw [List.findSome?_cons, others z List.mem_cons_self same]
      exact ih later fun w inside => others w (List.mem_cons_of_mem z inside)

theorem read_of_refuses {α : Type} {f : DateParts → Except PatternFault α}
    (refused : p.Refuses cs) : ((Pattern.read p cs).bind f).toOption = none := by
  obtain ⟨fault, stops⟩ := refused {}
  rw [Pattern.read, stops]
  rfl

theorem read_of_readFrom {next : DateParts} (read : readFrom {} cs p = .ok (next, [])) :
    Pattern.read p cs = .ok next := by
  rw [Pattern.read, read]
  rfl

/-- A day is read by the format that has written it. -/
theorem read_date (clear : p.EndsYear m.date) (written : p ∈ dates) :
    (Pattern.read p (p.write m)).bind DateParts.date = .ok m.date := by
  have read := @readFrom_day {} [] p m written clear endsDigits_nil
  rw [List.append_nil] at read
  rw [read_of_readFrom read]
  exact DateParts.date_eq_ok m.date rfl rfl rfl

theorem isPlain_of_head_clock {m : DateTime} {after : Pattern} {c : Char}
    (first : (write (clock ++ after) m).head? = some c) : Text.IsPlain c := by
  change (paddedDigits 2 m.time.hour ++ _).head? = some c at first
  rw [List.head?_append_of_ne_nil _ (paddedDigits_ne_nil 2 m.time.hour)] at first
  exact isPlain_of_isDigit (Decimal.isDigit_of_mem_paddedDigits (List.mem_of_mem_head? first))

/-- Hours, minutes and seconds are read, and then what follows them. -/
theorem readFrom_clock (places last : Pattern) :
    readFrom parts (write (clock ++ places) m) (clock ++ last) =
      readFrom { parts with
        hour := m.time.hour, minute := m.time.minute, second := m.time.clockSecond }
        (write places m) last := by
  have text : write (clock ++ places) m =
      Mark.hour.write m ++ ((Mark.text ':').write m ++ (Mark.minute.write m ++
        ((Mark.text ':').write m ++ (Mark.second.write m ++ write places m)))) := by
    simp [write, clock]
  rw [text, readFrom_append, clock]
  rw [readFrom_write .hour m trivial, readFrom_write (.text ':') m trivial,
    readFrom_write .minute m trivial, readFrom_write (.text ':') m trivial,
    readFrom_write .second m trivial]
  rfl

/-- A moment is read to the precision that it was written to; a slashed day has no fraction of a
second behind it. -/
theorem read_moment (clear : p.EndsYear m.date) (written : p ∈ dates) (precision : Precision)
    (room : p = slashedDate → precision = .seconds) :
    (Pattern.read (momentFormat p) (write (p ++ .gap :: (clock ++ precision.places)) m)).bind
      DateParts.dateTime = .ok ⟨m.date, m.time.cut precision⟩ := by
  have fraction_lt : m.time.fraction < 1000000000 := Nat.mod_lt _ (by decide)
  have last {parts : DateParts} (whole : parts.nano = 0) :
      readFrom parts (write precision.places m) (if p = slashedDate then [] else [.fraction]) =
        .ok ({ parts with nano := m.time.fraction / precision.unit * precision.unit }, []) := by
    split
    · rename_i slashed
      have none_left : m.time.fraction / 1000000000 = 0 := Nat.div_eq_of_lt fraction_lt
      have same : { parts with nano := 0 } = parts := by rw [← whole]
      rw [room slashed]
      simp only [Precision.unit, none_left, Nat.zero_mul, same]
      rfl
    · exact readFrom_places precision m parts
  have visible : Mark.gap.Ends (write (clock ++ precision.places) m) :=
    fun _ first => (isPlain_of_head_clock first).not_blank
  have read : readFrom {} (write (p ++ .gap :: (clock ++ precision.places)) m) (momentFormat p) =
      .ok ({ year := m.date.year, month := m.date.month, day := m.date.day, hour := m.time.hour,
             minute := m.time.minute, second := m.time.clockSecond,
             nano := m.time.fraction / precision.unit * precision.unit }, []) := by
    have gap : EndsDigits (write (.gap :: (clock ++ precision.places)) m) := endsDigits_cons rfl _
    rw [momentFormat, write_append, readFrom_append, readFrom_day written clear gap]
    change readFrom _ (Mark.gap.write m ++ write (clock ++ precision.places) m) _ = _
    rw [readFrom_write .gap m visible, readFrom_clock, last rfl]
    rfl
  rw [read_of_readFrom read]
  exact DateParts.dateTime_eq_ok _ (DateParts.date_eq_ok m.date rfl rfl rfl)
    (DateParts.time_eq_ok (m.time.cut precision) rfl rfl (m.time.clockSecond_cut precision).symm
      (m.time.fraction_cut precision).symm)

section Visible

/-- Nothing that the pattern writes is a blank or a quote. -/
def IsVisible (p : Pattern) : Prop := ∀ mark ∈ p, mark.IsVisible

theorem isPlain_or_plus_of_mem_write (visible : p.IsVisible) {c : Char} (member : c ∈ p.write m) :
    Text.IsPlain c ∨ c = '+' ∧ ¬m.date.HasShortYear := by
  obtain ⟨mark, inside, written⟩ := List.mem_flatMap.mp member
  exact Mark.isPlain_or_plus_of_mem_write (visible mark inside) written

theorem not_blank_of_mem_write (visible : p.IsVisible) {c : Char} (member : c ∈ p.write m) :
    isBlank c = false := by
  obtain plain | ⟨rfl, -⟩ := isPlain_or_plus_of_mem_write visible member
  · exact plain.not_blank
  · rfl

/-- Marks of literals, which come before the plus sign, are not written. -/
theorem ne_of_mem_write (visible : p.IsVisible) {c other : Char} (before : other.toNat < 43)
    (member : c ∈ p.write m) : c ≠ other := by
  obtain plain | ⟨rfl, -⟩ := isPlain_or_plus_of_mem_write visible member
  · exact plain.ne_of_toNat (.inl (Nat.lt_trans before (by decide)))
  · rintro rfl
    exact absurd before (by decide)

theorem strip_write (visible : p.IsVisible) : strip isBlank (p.write m) = p.write m := by
  apply strip_eq_self
  · exact fun c first => not_blank_of_mem_write visible (List.mem_of_mem_head? first)
  · exact fun c last => not_blank_of_mem_write visible (List.mem_of_mem_getLast? last)

theorem isVisible_date (written : p ∈ dates) : p.IsVisible := by
  obtain rfl | rfl | rfl := mem_dates_iff.mp written <;>
    simp [dashedDate, compactDate, slashedDate, IsVisible, Mark.IsVisible, Text.IsPlain]

theorem isVisible_clock (precision : Precision) : IsVisible (clock ++ precision.places) := by
  cases precision <;> simp [clock, Precision.places, IsVisible, Mark.IsVisible, Text.IsPlain]

theorem write_ne_nil {mark : Mark} (member : mark ∈ p) (something : mark.write m ≠ []) :
    p.write m ≠ [] := by
  obtain ⟨c, cs, written⟩ := List.exists_cons_of_ne_nil something
  have inside : c ∈ p.write m :=
    List.mem_flatMap.mpr ⟨mark, member, by rw [written]; exact List.mem_cons_self⟩
  exact List.ne_nil_of_mem inside

theorem write_date_ne_nil (written : p ∈ dates) : p.write m ≠ [] := by
  have month : Mark.month ∈ p := by
    obtain rfl | rfl | rfl := mem_dates_iff.mp written <;> simp [dashedDate, compactDate, slashedDate]
  exact write_ne_nil month (paddedDigits_ne_nil 2 m.date.month)

theorem write_clock_ne_nil (after : Pattern) : write (clock ++ after) m ≠ [] := by
  have hour : Mark.hour ∈ clock ++ after := List.mem_append_left _ List.mem_cons_self
  exact write_ne_nil hour (paddedDigits_ne_nil 2 m.time.hour)

/-- No blank stands at the ends of a written moment. -/
theorem strip_moment (written : p ∈ dates) (precision : Precision) :
    strip isBlank (write (p ++ .gap :: (clock ++ precision.places)) m) =
      write (p ++ .gap :: (clock ++ precision.places)) m := by
  have day : p.write m ≠ [] := write_date_ne_nil written
  have time : write (clock ++ precision.places) m ≠ [] := write_clock_ne_nil _
  have parts : write (p ++ .gap :: (clock ++ precision.places)) m =
      p.write m ++ [' '] ++ write (clock ++ precision.places) m := by
    rw [write_append, List.append_assoc]
    rfl
  rw [parts]
  apply strip_eq_self
  · intro c first
    rw [List.append_assoc, List.head?_append_of_ne_nil _ day] at first
    exact not_blank_of_mem_write (isVisible_date written) (List.mem_of_mem_head? first)
  · intro c last
    rw [List.getLast?_append_of_ne_nil _ time] at last
    exact not_blank_of_mem_write (isVisible_clock precision) (List.mem_of_mem_getLast? last)

end Visible

end Pattern

namespace DateTime

variable {p : Pattern} {m : DateTime}

/-- A day is read from what any format of a day has written. -/
theorem ofFreeText?_day {d : Date} (clear : p.EndsYear d) (written : p ∈ Pattern.dates) :
    ofFreeText? (.ofList (d.write p)) = some (startOf d) := by
  have kept : strip isBlank (d.write p) = d.write p :=
    Pattern.strip_write (Pattern.isVisible_date written)
  have no_moment : (Pattern.dateTimes.findSome? fun q =>
      ((Pattern.read q (d.write p)).bind DateParts.dateTime).toOption) = none :=
    List.findSome?_eq_none_iff.mpr fun q member =>
      Pattern.read_of_refuses (@Pattern.refuses_day_alone _ (startOf d) clear written q member)
  have day : (Pattern.dates.findSome? fun q =>
      ((Pattern.read q (d.write p)).bind DateParts.date).toOption) = some d := by
    apply Pattern.findSome?_of_unique written
    · rw [Date.write, @Pattern.read_date _ (startOf d) clear written]
      rfl
    · intro q other differs
      have refused := @Pattern.refuses_date _ _ (startOf d) clear written other differs [] []
      rw [List.append_nil, List.append_nil] at refused
      exact Pattern.read_of_refuses refused
  simp only [ofFreeText?, String.toList_ofList, kept, no_moment, day]
  rfl

/-- A moment is read, to the precision that it was written to, from its day in any format of a day
and its time behind a blank. -/
theorem ofFreeText?_moment (clear : p.EndsYear m.date) (written : p ∈ Pattern.dates)
    (precision : Precision) (room : p = Pattern.slashedDate → precision = .seconds) :
    ofFreeText? (.ofList (Pattern.write (p ++ .gap :: (Pattern.clock ++ precision.places)) m)) =
      some ⟨m.date, m.time.cut precision⟩ := by
  have moment : (Pattern.dateTimes.findSome? fun q => ((Pattern.read q
      (Pattern.write (p ++ .gap :: (Pattern.clock ++ precision.places)) m)).bind
        DateParts.dateTime).toOption) = some ⟨m.date, m.time.cut precision⟩ := by
    apply Pattern.findSome?_of_unique (Pattern.mem_dateTimes_iff.mpr (.inr ⟨p, written, rfl⟩))
    · rw [Pattern.read_moment clear written precision room]
      rfl
    · intro format member other
      apply Pattern.read_of_refuses
      rw [Pattern.write_append]
      exact Pattern.refuses_moment clear written member other (endsDigits_cons rfl _)
        (by simp [Pattern.write, Mark.write])
  simp only [ofFreeText?, String.toList_ofList, Pattern.strip_moment written, moment]
  rfl

end DateTime

/-- A time of day is read, to the precision that it was written to. -/
theorem Time.ofFreeText?_write (t : Time) (precision : Precision) :
    Time.ofFreeText? (.ofList (t.write (Pattern.clock ++ precision.places))) =
      some (t.cut precision) := by
  have kept : strip isBlank (t.write (Pattern.clock ++ precision.places)) =
      t.write (Pattern.clock ++ precision.places) :=
    Pattern.strip_write (Pattern.isVisible_clock precision)
  have read : Pattern.readFrom {} (t.write (Pattern.clock ++ precision.places)) .preciseClock =
      .ok ({ hour := t.hour, minute := t.minute, second := t.clockSecond,
             nano := t.fraction / precision.unit * precision.unit }, []) := by
    rw [Time.write, Pattern.preciseClock, @Pattern.readFrom_clock _ ⟨.first, t⟩,
      Pattern.readFrom_places]
  have time : (Pattern.read .preciseClock (t.write (Pattern.clock ++ precision.places))).bind
      DateParts.time = .ok (t.cut precision) := by
    rw [Pattern.read_of_readFrom read]
    exact DateParts.time_eq_ok (t.cut precision) rfl rfl (t.clockSecond_cut precision).symm
      (t.fraction_cut precision).symm
  rw [Time.ofFreeText?, String.toList_ofList, kept, time]
  rfl

end SqlScribe
