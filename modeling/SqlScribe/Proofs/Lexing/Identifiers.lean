import SqlScribe.Proofs.Lexing.Dialects

/-!
# Names that are read back

A name is written so that it can be read from the front of a text: the name comes out as it was,
and reading stops behind its last character, whatever follows. Only a character that would still
belong to the name must not follow: one more closing mark where marks are doubled, one more letter
where there are no marks. A point never does, so different paths of names are written differently.
-/

namespace SqlScribe

open Text Identifier Lexing

namespace Lexing

/-- Reads the rest of a name up to its closing mark. A mark that is doubled, or has a backslash
before it, belongs to the name. -/
def NameMarks.readRest? (m : NameMarks) : List Char → Option (List Char × List Char)
  | [] => none
  | [c] => if c = m.closing then some ([], []) else none
  | c :: d :: rest =>
    if m.escapes && c == '\\' then (m.readRest? rest).map (Prod.map (d :: ·) id)
    else if c = m.closing then
      if !m.escapes && d == m.closing then (m.readRest? rest).map (Prod.map (d :: ·) id)
      else some ([], d :: rest)
    else (m.readRest? (d :: rest)).map (Prod.map (c :: ·) id)

/-- Reads the longest plain word. -/
def readWord? (cs : List Char) : Option (String × List Char) :=
  let word := String.ofList (cs.takeWhile isWordChar)
  if !word.isEmpty && isWord word then some (word, cs.dropWhile isWordChar) else none

/-- Reads a name from the front of a text, and gives what follows it. Without marks a name is a
plain word. -/
def readName? : Option NameMarks → List Char → Option (String × List Char)
  | none, cs => readWord? cs
  | some _, [] => none
  | some m, c :: rest =>
    if c = m.opening then (m.readRest? rest).map (Prod.map String.ofList id) else none

/-- A character that still belongs to a name if it follows one. -/
def continuesName : Option NameMarks → Char → Bool
  | none, c => isWordChar c
  | some m, c => !m.escapes && c == m.closing

/-- The text does not begin with a character that belongs to a name before it. -/
def EndsName (marks : Option NameMarks) (rest : List Char) : Prop :=
  ∀ c, rest.head? = some c → continuesName marks c = false

theorem endsName_nil (marks : Option NameMarks) : EndsName marks [] := fun _ first => nomatch first

theorem endsName_cons {marks : Option NameMarks} {c : Char} (other : continuesName marks c = false)
    (rest : List Char) : EndsName marks (c :: rest) := by
  rintro _ ⟨⟩
  exact other

/-- What is written for a name is read as the name, and nothing that follows is. -/
def Delimits (marks : Option NameMarks) (write : String → Except Fault String) : Prop :=
  ∀ name t, write name = .ok t → ∀ rest, EndsName marks rest →
    readName? marks (t.toList ++ rest) = some (name, rest)

namespace NameMarks

variable {m : NameMarks}

/-- Each character of a name is read from what is written for it. -/
theorem readRest?_escape (m : NameMarks) (c : Char) (cs : List Char) :
    m.readRest? (m.escape c ++ cs) = (m.readRest? cs).map (Prod.map (c :: ·) id) := by
  unfold escape
  by_cases escapes : m.escapes = true
  · rw [if_pos escapes]
    by_cases special : c = '\\' ∨ c = m.closing
    · rw [if_pos special]
      simp [readRest?, escapes]
    · rw [if_neg special]
      obtain ⟨plain, inside⟩ := not_or.mp special
      cases cs with
      | nil => simp [readRest?, inside]
      | cons d rest => simp [readRest?, plain, inside]
  · rw [if_neg escapes]
    by_cases closing : c = m.closing
    · rw [if_pos closing]
      simp [readRest?, escapes, closing]
    · rw [if_neg closing]
      cases cs with
      | nil => simp [readRest?, closing]
      | cons d rest => simp [readRest?, escapes, closing]

/-- The closing mark ends the name, unless it is doubled. -/
theorem readRest?_closing (proper : m.Proper) {rest : List Char}
    (ends : EndsName (some m) rest) : m.readRest? (m.closing :: rest) = some ([], rest) := by
  cases rest with
  | nil => simp [readRest?]
  | cons d rest =>
    have single : (!m.escapes && d == m.closing) = false := ends d rfl
    simp [readRest?, proper.closing_ne_escape, single]

theorem readRest?_quote (proper : m.Proper) (cs : List Char) {rest : List Char}
    (ends : EndsName (some m) rest) :
    m.readRest? (cs.flatMap m.escape ++ m.closing :: rest) = some (cs, rest) := by
  induction cs with
  | nil => exact readRest?_closing proper ends
  | cons c cs ih =>
    rw [List.flatMap_cons, List.append_assoc, m.readRest?_escape, ih]
    rfl

theorem readName?_quote (proper : m.Proper) {name t : String}
    (spelled : t.toList = m.quote name.toList) {rest : List Char}
    (ends : EndsName (some m) rest) :
    readName? (some m) (t.toList ++ rest) = some (name, rest) := by
  have marked : t.toList ++ rest =
      m.opening :: (name.toList.flatMap m.escape ++ m.closing :: rest) := by
    simp [spelled, quote]
  rw [marked, readName?, if_pos rfl, readRest?_quote proper _ ends]
  simp

end NameMarks

theorem readName?_word {name : String} (something : name.isEmpty = false)
    (word : isWord name = true) {rest : List Char} (ends : EndsName none rest) :
    readName? none (name.toList ++ rest) = some (name, rest) := by
  have letters : ∀ c ∈ name.toList, isWordChar c = true :=
    List.all_eq_true.mp (Bool.and_eq_true_iff.mp word).1
  have taken := takeWhile_append_of_ends letters ends
  have left := dropWhile_append_of_ends letters ends
  simp [readName?, readWord?, taken, left, something, word]

variable {marks : Option NameMarks} {write : String → Except Fault String}

/-- Nothing is read from an empty text. -/
theorem readName?_nil (marks : Option NameMarks) : readName? marks [] = none := by
  cases marks with
  | none => rfl
  | some m => rfl

/-- Texts with a point before each of them. -/
def pointed (ts : List String) : List Char := ts.flatMap fun t => '.' :: t.toList

theorem toList_join_cons (t : String) (ts : List String) :
    (join "." (t :: ts)).toList = t.toList ++ pointed ts := by
  induction ts generalizing t with
  | nil => simp [join, pointed]
  | cons next rest ih =>
    have later := ih next
    rw [join, String.toList_intercalate, List.map_cons] at later ⊢
    rw [List.map_cons, List.intercalate_cons_cons, later]
    simp [pointed]

theorem endsName_pointed (point : continuesName marks '.' = false) (ts : List String) :
    EndsName marks (pointed ts) := by
  cases ts with
  | nil => exact endsName_nil marks
  | cons t ts => exact endsName_cons point _

namespace Delimits

variable {name name' t t' : String} {names others ts us : List String}

/-- Of two names with points behind them neither can be taken for the other. -/
theorem head_eq (delimits : Delimits marks write) (point : continuesName marks '.' = false)
    (written : write name = .ok t) (written' : write name' = .ok t')
    (same : t.toList ++ pointed ts = t'.toList ++ pointed us) :
    name = name' ∧ pointed ts = pointed us := by
  have read := delimits name t written _ (endsName_pointed point ts)
  have read' := delimits name' t' written' _ (endsName_pointed point us)
  rw [same, read'] at read
  obtain ⟨names, rests⟩ := Prod.mk.inj (Option.some.inj read)
  exact ⟨names.symm, rests.symm⟩

theorem tail_eq (delimits : Delimits marks write) (point : continuesName marks '.' = false)
    (written : List.Forall₂ (fun name t => write name = .ok t) names ts)
    (written' : List.Forall₂ (fun name t => write name = .ok t) others us)
    (same : pointed ts = pointed us) : names = others := by
  induction written generalizing others us with
  | nil =>
    cases written' with
    | nil => rfl
    | cons first' later' => cases same
  | cons first later ih =>
    cases written' with
    | nil => cases same
    | cons first' later' =>
      obtain ⟨rfl, rest⟩ := delimits.head_eq point first first' (List.cons.inj same).2
      rw [ih later' rest]

/-- Different paths are written differently if their parts are put together with points. -/
theorem joinedPath_inj (delimits : Delimits marks write) (point : continuesName marks '.' = false)
    {path path' : ColumnPath} (written : Dialect.joinedPath write path = .ok t)
    (written' : Dialect.joinedPath write path' = .ok t) : path = path' := by
  obtain ⟨ts, each, rfl⟩ := map_eq_ok_iff.mp written
  obtain ⟨us, each', same⟩ := map_eq_ok_iff.mp written'
  replace each := mapM_eq_ok_iff.mp each
  replace each' := mapM_eq_ok_iff.mp each'
  obtain ⟨names⟩ := path
  obtain ⟨others⟩ := path'
  -- A name is never written as nothing, so a path with parts is not written as the empty one.
  have visible {name t : String} (written : write name = .ok t) (cs : List Char) :
      t.toList ++ cs ≠ [] := by
    intro nothing
    have read := delimits name t written [] (endsName_nil marks)
    rw [(List.append_eq_nil_iff.mp nothing).1, List.nil_append, readName?_nil] at read
    cases read
  replace same := congrArg String.toList same
  cases each with
  | nil =>
    cases each' with
    | nil => rfl
    | cons first' later' =>
      rw [toList_join_cons] at same
      exact absurd same (visible first' _)
  | cons first later =>
    cases each' with
    | nil =>
      rw [toList_join_cons] at same
      exact absurd same.symm (visible first _)
    | cons first' later' =>
      rw [toList_join_cons, toList_join_cons] at same
      obtain ⟨rfl, rest⟩ := delimits.head_eq point first' first same
      rw [delimits.tail_eq point later' later rest]

end Delimits

end Lexing

theorem Quoting.delimits (quoting : Quoting) : Delimits quoting.nameMarks quoting.write := by
  intro name t written rest ends
  have something : name.isEmpty = false := by
    cases empty : name.isEmpty with
    | false => rfl
    | true =>
      unfold Quoting.write at written
      rw [if_pos empty] at written
      cases written
  obtain ⟨m, own, -, spelled⟩ | ⟨rfl, rfl, word⟩ := Quoting.write_eq_ok written
  · rw [own] at ends ⊢
    exact NameMarks.readName?_quote (quoting.proper_nameMarks m own) spelled ends
  · exact readName?_word something word ends

theorem Quoting.not_continuesName (quoting : Quoting) :
    continuesName quoting.nameMarks '.' = false := by
  cases quoting <;> rfl

namespace Dialect

theorem DataView.delimits : Delimits DataView.nameMarks DataView.identifier := by
  intro name t written rest ends
  exact NameMarks.readName?_quote (DataView.proper_nameMarks _ rfl)
    (DataView.toList_of_identifier written) ends

/-- A data view writes no path but that of a single name. -/
theorem DataView.column_eq_ok {path : ColumnPath} {t : String}
    (written : DataView.column path = .ok t) :
    ∃ name, path = ⟨[name]⟩ ∧ DataView.identifier name = .ok t := by
  unfold DataView.column at written
  by_cases qualified : path.isQualified = true
  · rw [if_pos qualified] at written
    cases written
  · rw [if_neg qualified] at written
    obtain ⟨parts⟩ := path
    cases parts with
    | nil => cases written
    | cons name rest =>
      have single : rest = [] := by
        simpa [ColumnPath.isQualified] using qualified
      subst single
      exact ⟨name, rfl, written⟩

/-- How a dialect writes names: in one of the usual ways, or as the built-in dialect that it is. -/
inductive NamesBetween (d : Dialect) : Option NameMarks → Prop
  | quoted (quoting : Quoting) (identifier : d.identifier = quoting.write)
    (column : d.column = joinedPath quoting.write) : NamesBetween d quoting.nameMarks
  | builtin (b : Builtin) (same : d = b.dialect) : NamesBetween d b.nameMarks

variable {d : Dialect} {marks : Option NameMarks}

/-- Every built-in dialect but one writes names in one of the usual ways. -/
theorem NamesBetween.cases (between : d.NamesBetween marks) :
    (d = DataView.dialect ∧ marks = DataView.nameMarks) ∨
      ∃ quoting : Quoting, d.identifier = quoting.write ∧ d.column = joinedPath quoting.write ∧
        marks = quoting.nameMarks := by
  cases between with
  | quoted quoting identifier column => exact .inr ⟨quoting, identifier, column, rfl⟩
  | builtin b same =>
    subst same
    cases b with
    | dataView => exact .inl ⟨rfl, rfl⟩
    | mssql | access => exact .inr ⟨.bracket, rfl, rfl, rfl⟩
    | postgres | sqlite => exact .inr ⟨.quote, rfl, rfl, rfl⟩
    | db2 => exact .inr ⟨.plain, rfl, rfl, rfl⟩

theorem NamesBetween.delimits (between : d.NamesBetween marks) : Delimits marks d.identifier := by
  obtain ⟨rfl, rfl⟩ | ⟨quoting, identifier, -, rfl⟩ := between.cases
  · exact DataView.delimits
  · rw [identifier]
    exact quoting.delimits

theorem NamesBetween.column_inj (between : d.NamesBetween marks) {path path' : ColumnPath}
    {t : String} (written : d.column path = .ok t) (written' : d.column path' = .ok t) :
    path = path' := by
  obtain ⟨rfl, rfl⟩ | ⟨quoting, -, column, rfl⟩ := between.cases
  · obtain ⟨name, rfl, named⟩ := DataView.column_eq_ok written
    obtain ⟨name', rfl, named'⟩ := DataView.column_eq_ok written'
    have read := DataView.delimits name t named [] (endsName_nil _)
    rw [DataView.delimits name' t named' [] (endsName_nil _)] at read
    cases read
    rfl
  · rw [column] at written written'
    exact quoting.delimits.joinedPath_inj quoting.not_continuesName written written'

/-- Two columns are written differently, unless they have the same parts. What is written for a name
is read as the name from the front of any text that does not go on with a character that would
belong to the name. -/
theorem NamesBetween.names_delimited (between : d.NamesBetween marks) :
    (∀ path path' t t', d.column path = .ok t → d.column path' = .ok t' → path ≠ path' →
      t ≠ t') ∧
    ∀ name t, d.identifier name = .ok t → ∀ rest, EndsName marks rest →
      readName? marks (t.toList ++ rest) = some (name, rest) := by
  refine ⟨?_, between.delimits⟩
  rintro path path' t t' written written' differ rfl
  exact differ (between.column_inj written written')

/-- In a data view a name may hold brackets and backslashes, and brackets may follow it. In SQL
Server a name that looks like a path is told from the path. -/
theorem NamesBetween.names_delimited_hostile :
    DataView.dialect.identifier "a]\\" = .ok "[a\\]\\\\]" ∧
    readName? DataView.nameMarks "[a\\]\\\\]] = 1".toList = some ("a]\\", "] = 1".toList) ∧
    Mssql.dialect.column ⟨["a", "b"]⟩ = .ok "[a].[b]" ∧
    Mssql.dialect.column ⟨["a].[b"]⟩ = .ok "[a]].[b]" ∧
    "[a].[b]" ≠ "[a]].[b]" := by
  have name : DataView.dialect.identifier "a]\\" = .ok "[a\\]\\\\]" := by decide +kernel
  have two : Mssql.dialect.column ⟨["a", "b"]⟩ = .ok "[a].[b]" := by decide +kernel
  have one : Mssql.dialect.column ⟨["a].[b"]⟩ = .ok "[a]].[b]" := by decide +kernel
  obtain ⟨-, read⟩ := names_delimited (.builtin .dataView rfl)
  obtain ⟨differ, -⟩ := names_delimited (.builtin .mssql rfl)
  refine ⟨name, ?_, two, one, differ _ _ _ _ two one (by decide)⟩
  exact read _ _ name "] = 1".toList (endsName_cons rfl _)

end Dialect

end SqlScribe
