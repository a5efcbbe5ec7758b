import SqlScribe.Proofs.Calendar.Formats

/-!
# Years that run on

A year outside the range of four digits has a sign in front, and a year with a sign takes all the
digits behind it. In the format without separators it takes the month and the day as well, so a day
that was written like that is read by no format.
-/

namespace SqlScribe

open Text

namespace Mark

/-- Behind a sign, the digits of a year end where all digits end. -/
theorem rest_of_readYear_signed (negative : Bool) {cs rest after : List Char} {n : Nat} {year : Int}
    (taken : takeDigits cs.length cs = .ok (n, rest))
    (read : readYear ((if negative then '-' else '+') :: cs) = .ok (year, after)) :
    after = rest := by
  have visible : isBlank (if negative then '-' else '+') = false := by cases negative <;> rfl
  rw [readYear, dropWhile_isBlank_cons visible] at read
  cases negative with
  | true =>
    simp only [if_true, taken, Except.map, bind, Except.bind] at read
    split at read
    · exact (congrArg Prod.snd (Except.ok.inj read)).symm
    · cases read
  | false =>
    simp only [Bool.false_eq_true, if_false, taken, Except.map, bind, Except.bind] at read
    split at read
    · exact (congrArg Prod.snd (Except.ok.inj read)).symm
    · cases read

/-- A number that is read from two digits ends behind them. -/
theorem rest_of_readShort {least greatest n k : Nat} {cs after : List Char} (short : n < 100)
    (read : readShort least greatest (paddedDigits 2 n ++ cs) = .ok (k, after)) : after = cs := by
  have width : (paddedDigits 2 n).length = 2 := length_paddedDigits (by decide) short
  have taken := takeDigits_full (paddedDigits_ne_nil 2 n)
    (fun c => Decimal.isDigit_of_mem_paddedDigits) cs
  have no_blank : (paddedDigits 2 n ++ cs).dropWhile isBlank = paddedDigits 2 n ++ cs := by
    apply dropWhile_eq_self
    intro c first
    rw [List.head?_append_of_ne_nil _ (paddedDigits_ne_nil 2 n)] at first
    exact (isPlain_of_isDigit
      (Decimal.isDigit_of_mem_paddedDigits (List.mem_of_mem_head? first))).not_blank
  rw [width] at taken
  rw [readShort, no_blank, taken] at read
  simp only [bind, Except.bind] at read
  split at read
  · exact (congrArg Prod.snd (Except.ok.inj read)).symm
  · cases read

end Mark

namespace Pattern

variable {cs rest : List Char} {p q : Pattern} {m : DateTime}

theorem refuses_day (ends : EndsDigits (cs.dropWhile isBlank)) : Refuses (.day :: p) cs := by
  obtain ⟨fault, refused⟩ := Mark.readShort_refused ends 1 31
  exact fun parts => ⟨fault, by rw [readFrom, Mark.read, refused]; rfl⟩

/-- Hours may be taken for a month, but what separates them from minutes is no day. -/
theorem refuses_month_of_clock (places : Pattern) :
    Refuses (.month :: .day :: p) (write (.gap :: (clock ++ places)) m) := by
  have text : write (.gap :: (clock ++ places)) m =
      ' ' :: (paddedDigits 2 m.time.hour ++
        ':' :: write (.minute :: .text ':' :: .second :: places) m) := rfl
  have range := m.time.hour_lt
  apply refuses_cons
  intro parts next after read
  rw [text, Mark.read] at read
  cases month : Mark.readShort 1 12 (' ' :: (paddedDigits 2 m.time.hour ++
      ':' :: write (.minute :: .text ':' :: .second :: places) m)) with
  | error fault =>
    rw [month] at read
    cases read
  | ok taken =>
    rw [month] at read
    obtain rfl : taken.2 = after := congrArg Prod.snd (Except.ok.inj read)
    have behind : Mark.readShort 1 12 (paddedDigits 2 m.time.hour ++
        ':' :: write (.minute :: .text ':' :: .second :: places) m) = .ok (taken.1, taken.2) := by
      have blank (cs : List Char) : (' ' :: cs).dropWhile isBlank = cs.dropWhile isBlank :=
        List.dropWhile_cons_of_pos rfl
      rwa [Mark.readShort, blank] at month
    rw [Mark.rest_of_readShort (by omega) behind]
    exact refuses_day (endsDigits_cons rfl _)

/-- What stands behind a day that is written without separators: no month and no digits that could
belong to the year, and no hyphen. -/
structure EndsDay (rest : List Char) : Prop where
  endsDigits : EndsDigits rest
  no_hyphen : rest.head? ≠ some '-'
  no_month : ∀ p, Refuses (.month :: .day :: p) rest

theorem endsDay_nil : EndsDay [] where
  endsDigits := endsDigits_nil
  no_hyphen := nofun
  no_month _ := refuses_month endsDigits_nil

theorem endsDay_clock (places : Pattern) : EndsDay (write (.gap :: (clock ++ places)) m) where
  endsDigits := endsDigits_cons rfl _
  no_hyphen := by simp [write, Mark.write]
  no_month _ := refuses_month_of_clock places

/-- A year with a sign takes the month and the day. -/
theorem refuses_run_on (long : ¬m.date.HasShortYear) (ends : EndsDigits rest)
    (refused : p.Refuses rest) : Refuses (.year :: p) (compactDate.write m ++ rest) := by
  obtain ⟨ds, digits_eq⟩ : ∃ ds, paddedDigits 4 m.date.year.natAbs ++
      (paddedDigits 2 m.date.month ++ paddedDigits 2 m.date.day) = ds := ⟨_, rfl⟩
  have some_digit : ds ≠ [] := by
    rw [← digits_eq]
    exact List.append_ne_nil_of_left_ne_nil (paddedDigits_ne_nil 4 _) _
  have digit : ∀ c ∈ ds, c.isDigit = true := by
    rw [← digits_eq]
    simp only [List.forall_mem_append]
    exact ⟨fun c => Decimal.isDigit_of_mem_paddedDigits,
      fun c => Decimal.isDigit_of_mem_paddedDigits, fun c => Decimal.isDigit_of_mem_paddedDigits⟩
  have text : compactDate.write m ++ rest =
      (if decide (m.date.year < 0) then '-' else '+') :: (ds ++ rest) := by
    have year : Mark.writeYear m.date.year =
        (if m.date.year < 0 then '-' else '+') :: paddedDigits 4 m.date.year.natAbs := if_neg long
    simp [compactDate, write, Mark.write, year, ← digits_eq]
  have room : ds.length ≤ (ds ++ rest).length := by
    rw [List.length_append]
    exact Nat.le_add_right _ _
  have taken := Mark.takeDigits_upTo some_digit digit ends room
  apply refuses_cons
  intro parts next after read
  rw [text, Mark.read] at read
  cases year : Mark.readYear ((if decide (m.date.year < 0) then '-' else '+') :: (ds ++ rest)) with
  | error fault =>
    rw [year] at read
    cases read
  | ok found =>
    rw [year] at read
    obtain rfl : found.2 = after := congrArg Prod.snd (Except.ok.inj read)
    rw [Mark.rest_of_readYear_signed _ taken year]
    exact refused

/-- A day with a long year that is written without separators is refused by every format. -/
theorem refuses_long_year (long : ¬m.date.HasShortYear) (other : q ∈ dates) (ends : EndsDay rest)
    (after : Pattern) : (q ++ after).Refuses (compactDate.write m ++ rest) := by
  obtain rfl | rfl | rfl := mem_dates_iff.mp other
  · exact refuses_run_on long ends.endsDigits (refuses_text ends.no_hyphen)
  · exact refuses_run_on long ends.endsDigits (ends.no_month after)
  · have text : compactDate.write m ++ rest = Mark.writeYear m.date.year ++
        (paddedDigits 2 m.date.month ++ (paddedDigits 2 m.date.day ++ rest)) := by
      simp [compactDate, write, Mark.write]
    rw [text]
    exact refuses_month_of_year _ _

/-- Every format of a moment begins with a format of a day. -/
theorem exists_date_of_mem_dateTimes {format : Pattern} (member : format ∈ dateTimes) :
    ∃ q ∈ dates, ∃ after, format = q ++ after := by
  obtain rfl | ⟨q, day, rfl⟩ := mem_dateTimes_iff.mp member
  · exact ⟨dashedDate, mem_dates_iff.mpr (.inl rfl), _, rfl⟩
  · exact ⟨q, day, _, rfl⟩

end Pattern

namespace DateTime

/-- A day with a long year is not read from what the format without separators has written, whether
or not a time follows. -/
theorem ofFreeText?_long_year {m : DateTime} {rest : List Char} (long : ¬m.date.HasShortYear)
    (ends : Pattern.EndsDay rest)
    (visible : strip isBlank (Pattern.compactDate.write m ++ rest) =
      Pattern.compactDate.write m ++ rest) :
    ofFreeText? (.ofList (Pattern.compactDate.write m ++ rest)) = none := by
  have no_moment : (Pattern.dateTimes.findSome? fun q => ((Pattern.read q
      (Pattern.compactDate.write m ++ rest)).bind DateParts.dateTime).toOption) = none := by
    apply List.findSome?_eq_none_iff.mpr
    intro format member
    obtain ⟨q, day, after, rfl⟩ := Pattern.exists_date_of_mem_dateTimes member
    exact Pattern.read_of_refuses (Pattern.refuses_long_year long day ends after)
  have no_day : (Pattern.dates.findSome? fun q => ((Pattern.read q
      (Pattern.compactDate.write m ++ rest)).bind DateParts.date).toOption) = none := by
    apply List.findSome?_eq_none_iff.mpr
    intro q day
    have refused := Pattern.refuses_long_year long day ends []
    rw [List.append_nil] at refused
    exact Pattern.read_of_refuses refused
  simp only [ofFreeText?, String.toList_ofList, visible, no_moment, no_day]
  rfl

theorem ofFreeText?_long_day {d : Date} (long : ¬d.HasShortYear) :
    ofFreeText? (.ofList (d.write Pattern.compactDate)) = none := by
  have visible := @Pattern.strip_write Pattern.compactDate (startOf d)
    (Pattern.isVisible_date (Pattern.mem_dates_iff.mpr (.inr (.inl rfl))))
  have refused := @ofFreeText?_long_year (startOf d) [] long Pattern.endsDay_nil
  rw [List.append_nil] at refused
  exact refused visible

theorem ofFreeText?_long_moment {m : DateTime} (long : ¬m.date.HasShortYear)
    (precision : Precision) : ofFreeText? (.ofList (Pattern.write
      (Pattern.compactDate ++ .gap :: (Pattern.clock ++ precision.places)) m)) = none := by
  have visible := @Pattern.strip_moment Pattern.compactDate m
    (Pattern.mem_dates_iff.mpr (.inr (.inl rfl))) precision
  rw [Pattern.write_append] at visible ⊢
  exact ofFreeText?_long_year long (Pattern.endsDay_clock precision.places) visible

end DateTime

end SqlScribe
