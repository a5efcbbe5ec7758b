import SqlScribe.Dialect.Builtin
import SqlScribe.Proofs.Groups
import SqlScribe.Proofs.Lexing.Operands
import SqlScribe.Proofs.Statement.Script

/-!
# Dialects close what they open

Every text and every name that a dialect opens it closes again, whatever stands in it. This is said
of each thing that a dialect writes on its own; what it puts together is put together from those.
-/

namespace SqlScribe

open Text Lexing

namespace Dialect

variable (marks : Option NameMarks) (d : Dialect)

/-- Names are operands. -/
structure ClosesNames : Prop where
  identifier : ∀ {name t}, d.identifier name = .ok t → Operand marks t t
  column : ∀ {path t}, d.column path = .ok t → Operand marks t t

/-- Literals are operands, and of two texts the literals correspond. -/
structure ClosesLiterals : Prop where
  null : ∀ {type t}, d.nullLiteral type = .ok t → Operand marks t t
  bool : ∀ b, Operand marks (d.boolLiteral b) (d.boolLiteral b)
  text : ∀ s t, Operand marks (d.textLiteral s) (d.textLiteral t)
  date : ∀ v, Operand marks (d.dateLiteral v) (d.dateLiteral v)
  time : ∀ v, Operand marks (d.timeLiteral v) (d.timeLiteral v)
  dateTime : ∀ m, Operand marks (d.dateTimeLiteral m) (d.dateTimeLiteral m)
  guid : ∀ g, Operand marks (d.guidLiteral g) (d.guidLiteral g)
  binary : ∀ {bytes t}, d.binaryLiteral bytes = .ok t → Operand marks t t
  default : ∀ {type t}, d.specialDefault type = some (.ok t) → Operand marks t t

/-- What is made of operands that correspond corresponds. -/
structure ClosesCalls : Prop where
  functionName : ∀ {f t}, d.functionName f = .ok t → Operand marks t t
  coalesce : ∀ {s t u v}, Operand marks s t → Operand marks u v →
    Operand marks (d.coalesce s u) (d.coalesce t v)
  concat : ∀ {ss ts}, List.Forall₂ (Operand marks) ss ts →
    Operand marks (d.concat ss) (d.concat ts)
  specialCall : ∀ f {ss ts}, List.Forall₂ (Operand marks) ss ts →
    Option.Rel (Operand marks) (d.specialCall f ss) (d.specialCall f ts)
  truth : ∀ b, Operand marks (d.truth b) (d.truth b)
  likeEscapeClause : Alike marks .any .any d.likeEscapeClause d.likeEscapeClause

/-- Whatever the dialect opens it closes. -/
structure Closes : Prop where
  proper : Proper marks
  names : d.ClosesNames marks
  literals : d.ClosesLiterals marks
  calls : d.ClosesCalls marks

end Dialect

/-! ## Names -/

/-- The marks around names. -/
def Quoting.nameMarks : Quoting → Option NameMarks
  | plain => none
  | bracket => some ⟨'[', ']', false⟩
  | quote => some ⟨'"', '"', false⟩

theorem Quoting.proper_nameMarks (quoting : Quoting) : Proper quoting.nameMarks := by
  rintro m own
  cases quoting with
  | plain => cases own
  | bracket =>
    cases own
    constructor <;> decide
  | quote =>
    cases own
    constructor <;> decide

/-- Nothing in a word is a mark. -/
theorem isCode_of_isWord {name : String} (word : Identifier.isWord name = true) :
    ∀ c ∈ name.toList, isCode c = true := by
  intro c member
  have letters := (Bool.and_eq_true_iff.mp word).1
  have letter : Identifier.isWordChar c = true := List.all_eq_true.mp letters c member
  have other (d : Char) (mark : Identifier.isWordChar d = false) : c ≠ d := by
    rintro rfl
    rw [mark] at letter
    cases letter
  exact isCode_of_ne (other _ rfl) (other _ rfl) (other _ rfl) (other _ rfl)

/-- A name is written between the marks of its quoting, or is a word and stays as it is. -/
theorem Quoting.write_eq_ok {quoting : Quoting} {name t : String}
    (written : quoting.write name = .ok t) :
    (∃ m, quoting.nameMarks = some m ∧ m.escapes = false ∧ t.toList = m.quote name.toList) ∨
      quoting = .plain ∧ t = name ∧ Identifier.isWord name = true := by
  unfold Quoting.write at written
  by_cases nothing : name.isEmpty = true
  · rw [if_pos nothing] at written
    cases written
  · rw [if_neg nothing] at written
    cases quoting with
    | plain =>
      by_cases word : Identifier.isWord name = true
      · simp only [if_pos word] at written
        exact .inr ⟨rfl, (Except.ok.inj written).symm, word⟩
      · simp only [if_neg word] at written
        cases written
    | bracket =>
      obtain rfl := Except.ok.inj written
      refine .inl ⟨_, rfl, rfl, ?_⟩
      simp [Identifier.bracketed, doubled, NameMarks.quote]
      rfl
    | quote =>
      obtain rfl := Except.ok.inj written
      refine .inl ⟨_, rfl, rfl, ?_⟩
      simp [Identifier.doubleQuoted, doubled, NameMarks.quote]
      rfl

/-- A name is written as one operand. -/
theorem Quoting.write_operand {quoting : Quoting} {name t : String}
    (written : quoting.write name = .ok t) : Operand quoting.nameMarks t t := by
  have proper := quoting.proper_nameMarks
  obtain ⟨m, own, -, spelled⟩ | ⟨-, rfl, word⟩ := Quoting.write_eq_ok written
  · exact Operand.name own proper spelled
  · exact Operand.code proper (isCode_of_isWord word)

namespace Dialect

variable {marks : Option NameMarks} {d : Dialect}

/-- Operands that are written one by one stand side by side with points between them. -/
theorem operand_join {α : Type} (proper : Proper marks) {write : α → Except Fault String}
    {xs : List α} {ts : List String} (closed : ∀ x t, write x = .ok t → Operand marks t t)
    (written : xs.mapM write = .ok ts) : Operand marks (join "." ts) (join "." ts) := by
  refine Operand.join proper "." rfl ?_
  rw [List.forall₂_same]
  intro t member
  obtain ⟨x, -, source⟩ := exists_of_mem_mapM written member
  exact closed x t source

theorem closesNames_of_quoting {quoting : Quoting} (identifier : d.identifier = quoting.write)
    (column : d.column = joinedPath quoting.write) : d.ClosesNames quoting.nameMarks := by
  have proper := quoting.proper_nameMarks
  constructor
  · intro name t written
    rw [identifier] at written
    exact Quoting.write_operand written
  · intro path t written
    rw [column, joinedPath] at written
    obtain ⟨parts, each, rfl⟩ := map_eq_ok_iff.mp written
    exact operand_join proper (fun _ _ => Quoting.write_operand) each

/-- A table's name is the operand of its parts. -/
theorem Closes.tableName (h : d.Closes marks) {table t : String}
    (written : d.tableName table = .ok t) : Operand marks t t := by
  unfold Dialect.tableName at written
  by_cases blank : isAllBlank table = true
  · rw [if_pos blank] at written
    cases written
  · rw [if_neg blank] at written
    obtain ⟨parts, each, rfl⟩ := map_eq_ok_iff.mp written
    exact operand_join h.proper (fun _ _ => h.names.identifier) each

/-! ## Literals -/

/-- A moment between quotes. -/
theorem operand_stamped (proper : Proper marks) (pattern : Pattern)
    (code : pattern.all isCodeMark = true) (m : DateTime) :
    Operand marks (stamped "'" pattern "'" m) (stamped "'" pattern "'" m) :=
  Operand.quoted proper (ne_quote (isCode_write code m))

/-- A moment between signs that are code. -/
theorem operand_hashed (proper : Proper marks) (pattern : Pattern)
    (code : pattern.all isCodeMark = true) (m : DateTime) :
    Operand marks (stamped "#" pattern "#" m) (stamped "#" pattern "#" m) :=
  Operand.between proper "#" "#" rfl rfl (Operand.code proper (isCode_write code m))

/-- A moment between quotes in a call, and a format behind it. -/
theorem operand_call (proper : Proper marks) {before after : String} {pattern : Pattern}
    {m : DateTime} (call format : String) (opening : before = call ++ "'")
    (closing : after = "', '" ++ format ++ "')") (glue : isGlue call = true)
    (plain : isCodeText format = true)
    (code : pattern.all isCodeMark = true) :
    Operand marks (stamped before pattern after m) (stamped before pattern after m) := by
  have pieces : stamped before pattern after m =
      call ++ stamped "'" pattern "'" m ++ ", " ++ ("'" ++ format ++ "'") ++ ")" := by
    apply String.toList_injective
    simp [stamped, opening, closing]
  rw [pieces]
  exact ((((Alike.glue proper call glue).append (operand_stamped proper pattern code m)).append
    (Alike.glue proper ", " rfl)).append
      (Operand.quoted proper (ne_quote (isCode_of_isCodeText plain)))).append
      (Alike.glue proper ")" rfl)

/-- Hexadecimal digits between quotes behind an X. -/
theorem operand_quotedHex (proper : Proper marks) (bytes : List UInt8) :
    Operand marks ("X'" ++ .ofList (upperHex bytes) ++ "'")
      ("X'" ++ .ofList (upperHex bytes) ++ "'") := by
  have pieces : "X'" ++ String.ofList (upperHex bytes) ++ "'" =
      "X" ++ ("'" ++ String.ofList (upperHex bytes) ++ "'") := by
    apply String.toList_injective
    simp
  rw [pieces]
  exact (Alike.glue proper "X" rfl).append
    (Operand.quoted proper (ne_quote (isCode_ofList (isCode_upperHex bytes))))

theorem closesLiterals_standard (proper : Proper marks) (name : String) (quoting : Quoting)
    (rowLimit : RowLimit) (features : Features) (storageType : Column → Except Fault String) :
    (standard name quoting rowLimit features storageType).ClosesLiterals marks where
  null written := by
    obtain rfl := Except.ok.inj written
    exact Operand.word proper "NULL" rfl
  bool b := by
    cases b with
    | false => exact Operand.word proper "0" rfl
    | true => exact Operand.word proper "1" rfl
  text := Operand.quotedText proper
  date v := operand_stamped proper .dashedDate rfl (.startOf v)
  time v := operand_stamped proper .preciseClock rfl ⟨.first, v⟩
  dateTime m := operand_stamped proper (onDay .dashedDate .preciseClock) rfl m
  guid g := Operand.quoted proper (ne_quote_guid g)
  binary written := by
    obtain rfl := Except.ok.inj written
    exact operand_quotedHex proper _
  default := nofun

/-- Digits behind a prefix that is code. -/
theorem operand_prefixed (proper : Proper marks) (before : String) {cs : List Char}
    (code : ∀ c ∈ cs, isCode c = true) (glue : isGlue before = true) :
    Operand marks (before ++ .ofList cs) (before ++ .ofList cs) :=
  (Alike.glue proper before glue).append (Operand.code proper (isCode_ofList code))

/-! ## Calls -/

/-- A function's own name. -/
theorem operand_sql (proper : Proper marks) (f : Func) : Operand marks f.sql f.sql := by
  cases f <;> exact Operand.word proper _ rfl

/-- A function's own name, but for one function. -/
theorem operand_renamed (proper : Proper marks) (f special : Func) (name : String)
    (code : isCodeText name = true) :
    Operand marks (if f = special then name else f.sql) (if f = special then name else f.sql) := by
  by_cases same : f = special
  · rw [if_pos same]
    exact Operand.word proper name code
  · rw [if_neg same]
    exact operand_sql proper f

/-- A backslash between quotes behind a keyword. -/
theorem alike_escape (proper : Proper marks) :
    Alike marks .any .any " ESCAPE '\\'" " ESCAPE '\\'" := by
  have pieces : " ESCAPE '\\'" = " ESCAPE " ++ ("'" ++ "\\" ++ "'") := by decide
  rw [pieces]
  exact (Alike.glue proper " ESCAPE " rfl).append
    (Operand.quoted proper (ne_quote (isCode_of_isCodeText rfl)))

theorem closesCalls_standard (proper : Proper marks) (name : String) (quoting : Quoting)
    (rowLimit : RowLimit) (features : Features) (storageType : Column → Except Fault String) :
    (standard name quoting rowLimit features storageType).ClosesCalls marks where
  functionName {f _} written := by
    obtain rfl := Except.ok.inj written
    exact operand_sql proper f
  coalesce h h' := Operand.pair proper "COALESCE(" ", " ")" rfl rfl rfl h h'
  concat h := Operand.between proper "(" ")" rfl rfl (Operand.join proper " || " rfl h)
  specialCall _ _ _ _ := .none
  truth b := by
    cases b with
    | false => exact Operand.word proper "1=0" rfl
    | true => exact Operand.word proper "1=1" rfl
  likeEscapeClause := alike_escape proper

/-- An empty clause keeps nothing apart. -/
theorem alike_empty : Alike marks .any .any "" "" := Carries.nothing .any

/-- The rest of a text, its length given as that of the whole. -/
theorem operand_substring (proper : Proper marks) {s t u v : String} (h : Operand marks s t)
    (h' : Operand marks u v) :
    Operand marks ("SUBSTRING(" ++ s ++ ", " ++ u ++ ", LEN(" ++ s ++ "))")
      ("SUBSTRING(" ++ t ++ ", " ++ v ++ ", LEN(" ++ t ++ "))") :=
  ((((((Alike.glue proper "SUBSTRING(" rfl).append h).append (Alike.glue proper ", " rfl)).append
    h').append (Alike.glue proper ", LEN(" rfl)).append h).append (Alike.glue proper "))" rfl)

end Dialect

/-! ## The built-in dialects -/

namespace Dialect

theorem Mssql.specialCall_alike {marks : Option NameMarks} (proper : Proper marks) (f : Func)
    {ss ts : List String} (h : List.Forall₂ (Operand marks) ss ts) :
    Option.Rel (Operand marks) (Mssql.specialCall f ss) (Mssql.specialCall f ts) := by
  cases f with
  | substring =>
    match h with
    | .nil | .cons _ .nil | .cons _ (.cons _ (.cons _ _)) => exact .none
    | .cons text (.cons start .nil) => exact .some (operand_substring proper text start)
  | trim =>
    match h with
    | .nil | .cons _ (.cons _ _) => exact .none
    | .cons text .nil => exact .some (Operand.between proper "LTRIM(RTRIM(" "))" rfl rfl text)
  | _ => exact .none

theorem Mssql.closes : Mssql.dialect.Closes Quoting.bracket.nameMarks :=
  have proper := Quoting.proper_nameMarks .bracket
  have literals :=
    closesLiterals_standard proper "MsSql" .bracket .top Mssql.dialect.features Mssql.storageType
  have calls :=
    closesCalls_standard proper "MsSql" .bracket .top Mssql.dialect.features Mssql.storageType
  { proper
    names := closesNames_of_quoting rfl rfl
    literals := { literals with
      text := fun s t => (Alike.glue proper "N" rfl).append (Operand.quotedText proper s t)
      date := fun v => operand_stamped proper .compactDate rfl (.startOf v)
      dateTime := operand_stamped proper (onDay .compactDate .preciseClock) rfl
      binary := fun written => by
        obtain rfl := Except.ok.inj written
        exact operand_prefixed proper "0x" (isCode_upperHex _) rfl
      default := nofun }
    calls := { calls with
      functionName := fun {f _} written => by
        obtain rfl := Except.ok.inj written
        exact operand_renamed proper f .length "LEN" rfl
      coalesce := Operand.pair proper "ISNULL(" ", " ")" rfl rfl rfl
      concat := fun h => Operand.between proper "(" ")" rfl rfl (Operand.join proper " + " rfl h)
      specialCall := fun f _ _ => Mssql.specialCall_alike proper f
      likeEscapeClause := alike_empty } }

/-- A NULL carries its type, unless that is unknown. -/
theorem Postgres.nullLiteral_operand {marks : Option NameMarks} (proper : Proper marks)
    {type : ColumnType} {t : String} (written : Postgres.nullLiteral type = .ok t) :
    Operand marks t t := by
  unfold Postgres.nullLiteral at written
  by_cases unknown : type = .unknown
  · rw [if_pos unknown] at written
    obtain rfl := Except.ok.inj written
    exact Operand.word proper "NULL" rfl
  · rw [if_neg unknown] at written
    obtain ⟨stored, found, rfl⟩ := map_eq_ok_iff.mp written
    have code : isCodeText stored = true := by
      cases type with
      | unknown => exact absurd rfl unknown
      | _ =>
        cases found
        rfl
    exact Operand.between proper "CAST(NULL AS " ")" rfl rfl (Operand.word proper stored code)

/-- Digits in a text that is cast to a byte string. -/
theorem Postgres.byteString_operand {marks : Option NameMarks} (proper : Proper marks)
    (bytes : List UInt8) :
    Operand marks ("'\\x" ++ .ofList (lowerHex bytes) ++ "'::bytea")
      ("'\\x" ++ .ofList (lowerHex bytes) ++ "'::bytea") := by
  have pieces : "'\\x" ++ String.ofList (lowerHex bytes) ++ "'::bytea" =
      "'" ++ ("\\x" ++ String.ofList (lowerHex bytes)) ++ "'" ++ "::bytea" := by
    apply String.toList_injective
    simp
  have plain : ∀ c ∈ ("\\x" ++ String.ofList (lowerHex bytes)).toList, c ≠ '\x27' := by
    rw [String.toList_append, List.forall_mem_append]
    exact ⟨ne_quote (isCode_of_isCodeText rfl), ne_quote (isCode_ofList (isCode_lowerHex bytes))⟩
  rw [pieces]
  exact (Operand.quoted proper plain).append (Alike.glue proper "::bytea" rfl)

theorem Postgres.closes : Postgres.dialect.Closes Quoting.quote.nameMarks :=
  have proper := Quoting.proper_nameMarks .quote
  have literals := closesLiterals_standard proper "Postgres" .quote .limit
    Postgres.dialect.features Postgres.storageType
  have calls := closesCalls_standard proper "Postgres" .quote .limit Postgres.dialect.features
    Postgres.storageType
  { proper
    names := closesNames_of_quoting rfl rfl
    literals := { literals with
      null := Postgres.nullLiteral_operand proper
      bool := fun b => by
        cases b with
        | false => exact Operand.word proper "FALSE" rfl
        | true => exact Operand.word proper "TRUE" rfl
      binary := fun written => by
        obtain rfl := Except.ok.inj written
        exact Postgres.byteString_operand proper _
      default := nofun }
    calls := { calls with } }

theorem Sqlite.closes : Sqlite.dialect.Closes Quoting.quote.nameMarks :=
  have proper := Quoting.proper_nameMarks .quote
  have literals := closesLiterals_standard proper "Sqlite" .quote .limit Sqlite.dialect.features
    Sqlite.storageType
  have calls := closesCalls_standard proper "Sqlite" .quote .limit Sqlite.dialect.features
    Sqlite.storageType
  { proper
    names := closesNames_of_quoting rfl rfl
    literals := { literals with
      guid := fun g => operand_quotedHex proper g.toBlob }
    calls := { calls with
      functionName := fun {f _} written => by
        obtain rfl := Except.ok.inj written
        exact operand_renamed proper f .substring "SUBSTR" rfl } }

/-- A text between quotes and braces. -/
theorem Access.guid_operand {marks : Option NameMarks} (proper : Proper marks) (g : Guid) :
    Operand marks ("'\x7b" ++ g.toText ++ "\x7d'") ("'\x7b" ++ g.toText ++ "\x7d'") := by
  have pieces : "'\x7b" ++ g.toText ++ "\x7d'" = "'" ++ ("\x7b" ++ g.toText ++ "\x7d") ++ "'" := by
    apply String.toList_injective
    simp
  have plain : ∀ c ∈ ("\x7b" ++ g.toText ++ "\x7d").toList, c ≠ '\x27' := by
    rw [String.toList_append, String.toList_append, List.forall_mem_append, List.forall_mem_append]
    exact ⟨⟨ne_quote (isCode_of_isCodeText rfl), ne_quote_guid g⟩,
      ne_quote (isCode_of_isCodeText rfl)⟩
  rw [pieces]
  exact Operand.quoted proper plain

/-- The first operand stands in two places. -/
theorem Access.coalesce_operand {marks : Option NameMarks} (proper : Proper marks)
    {s t u v : String} (h : Operand marks s t) (h' : Operand marks u v) :
    Operand marks (Access.dialect.coalesce s u) (Access.dialect.coalesce t v) :=
  ((((((Alike.glue proper "IIF(" rfl).append h).append (Alike.glue proper " IS NULL, " rfl)).append
    h').append (Alike.glue proper ", " rfl)).append h).append (Alike.glue proper ")" rfl)

theorem Access.closes : Access.dialect.Closes Quoting.bracket.nameMarks :=
  have proper := Quoting.proper_nameMarks .bracket
  have literals := closesLiterals_standard proper "Access" .bracket .top Access.dialect.features
    Access.storageType
  have calls := closesCalls_standard proper "Access" .bracket .top Access.dialect.features
    Access.storageType
  { proper
    names := closesNames_of_quoting rfl rfl
    literals := { literals with
      bool := fun b => by
        cases b with
        | false => exact Operand.word proper "False" rfl
        | true => exact Operand.word proper "True" rfl
      date := fun v => operand_hashed proper .dashedDate rfl (.startOf v)
      time := fun v => operand_hashed proper .clock rfl ⟨.first, v⟩
      dateTime := operand_hashed proper (onDay .dashedDate .clock) rfl
      guid := Access.guid_operand proper
      binary := nofun
      default := nofun }
    calls := { calls with
      functionName := fun {f _} written => by
        obtain rfl := Except.ok.inj written
        cases f <;> exact Operand.word proper _ rfl
      coalesce := Access.coalesce_operand proper
      concat := fun h => Operand.between proper "(" ")" rfl rfl (Operand.join proper " + " rfl h)
      likeEscapeClause := alike_empty } }

/-- A truth value is a text of one character. -/
theorem Db2.boolLiteral_operand {marks : Option NameMarks} (proper : Proper marks) (b : Bool) :
    Operand marks (if b then "'1'" else "'0'") (if b then "'1'" else "'0'") := by
  have yes : "'1'" = "'" ++ "1" ++ "'" := by decide
  have no : "'0'" = "'" ++ "0" ++ "'" := by decide
  cases b with
  | false =>
    rw [no]
    exact Operand.quoted proper (ne_quote (isCode_of_isCodeText rfl))
  | true =>
    rw [yes]
    exact Operand.quoted proper (ne_quote (isCode_of_isCodeText rfl))

theorem Db2.dateTimeLiteral_operand {marks : Option NameMarks} (proper : Proper marks)
    (m : DateTime) : Operand marks (Db2.dateTimeLiteral m) (Db2.dateTimeLiteral m) := by
  unfold Db2.dateTimeLiteral
  by_cases whole : m.time.nano = 0
  · rw [if_pos whole]
    exact operand_call proper "TO_DATE(" "YYYY-MM-DD HH24:MI:SS" (by decide) (by decide) rfl rfl rfl
  · rw [if_neg whole]
    exact operand_call proper "TO_TIMESTAMP(" "YYYY-MM-DD HH24:MI:SS.FF6" (by decide) (by decide)
      rfl rfl rfl

/-- The digits are a literal of their own in the call that makes a blob of them. -/
theorem Db2.blob_operand {marks : Option NameMarks} (proper : Proper marks) (bytes : List UInt8) :
    Operand marks ("BLOB(X'" ++ .ofList (upperHex bytes) ++ "')")
      ("BLOB(X'" ++ .ofList (upperHex bytes) ++ "')") := by
  have pieces : "BLOB(X'" ++ String.ofList (upperHex bytes) ++ "')" =
      "BLOB(" ++ ("X'" ++ String.ofList (upperHex bytes) ++ "'") ++ ")" := by
    apply String.toList_injective
    simp
  rw [pieces]
  exact Operand.between proper "BLOB(" ")" rfl rfl (operand_quotedHex proper bytes)

theorem Db2.closes : Db2.dialect.Closes Quoting.plain.nameMarks :=
  have proper := Quoting.proper_nameMarks .plain
  have literals := closesLiterals_standard proper "Db2" .plain .driver Db2.dialect.features
    Db2.storageType
  have calls := closesCalls_standard proper "Db2" .plain .driver Db2.dialect.features
    Db2.storageType
  { proper
    names := closesNames_of_quoting rfl rfl
    literals := { literals with
      bool := Db2.boolLiteral_operand proper
      date := fun _ =>
        operand_call proper "TO_DATE(" "YYYY-MM-DD" (by decide) (by decide) rfl rfl rfl
      dateTime := Db2.dateTimeLiteral_operand proper
      binary := fun written => by
        obtain rfl := Except.ok.inj written
        exact Db2.blob_operand proper _
      default := nofun }
    calls := { calls with
      functionName := fun {f _} written => by
        obtain rfl := Except.ok.inj written
        exact operand_renamed proper f .substring "SUBSTR" rfl } }

/-- The marks around names in a data view. -/
def DataView.nameMarks : Option NameMarks := some ⟨'[', ']', true⟩

theorem DataView.proper_nameMarks : Proper DataView.nameMarks := by
  rintro m ⟨⟩
  constructor <;> decide

theorem DataView.toList_of_identifier {name t : String}
    (written : DataView.identifier name = .ok t) :
    t.toList = (⟨'[', ']', true⟩ : NameMarks).quote name.toList := by
  unfold DataView.identifier at written
  by_cases nothing : name.isEmpty = true
  · rw [if_pos nothing] at written
    cases written
  · rw [if_neg nothing] at written
    obtain rfl := Except.ok.inj written
    rw [Identifier.escapeBracketed, String.toList_ofList]
    rfl

theorem DataView.identifier_operand {name t : String} (written : DataView.identifier name = .ok t) :
    Operand DataView.nameMarks t t :=
  Operand.name rfl DataView.proper_nameMarks (DataView.toList_of_identifier written)

theorem DataView.specialCall_alike {marks : Option NameMarks} (proper : Proper marks) (f : Func)
    {ss ts : List String} (h : List.Forall₂ (Operand marks) ss ts) :
    Option.Rel (Operand marks) (DataView.specialCall f ss) (DataView.specialCall f ts) := by
  cases f with
  | substring =>
    match h with
    | .nil | .cons _ .nil | .cons _ (.cons _ (.cons _ _)) => exact .none
    | .cons text (.cons start .nil) => exact .some (operand_substring proper text start)
  | _ => exact .none

theorem DataView.functionName_operand {marks : Option NameMarks} (proper : Proper marks) {f : Func}
    {t : String} (written : DataView.functionName f = .ok t) : Operand marks t t := by
  cases f with
  | upper | lower | abs => cases written
  | _ =>
    obtain rfl := Except.ok.inj written
    exact Operand.word proper _ rfl

theorem DataView.closes : DataView.dialect.Closes DataView.nameMarks :=
  have proper := DataView.proper_nameMarks
  have literals := closesLiterals_standard proper DataView.name .bracket .driver DataView.features
    DataView.storageType
  have calls := closesCalls_standard proper DataView.name .bracket .driver DataView.features
    DataView.storageType
  { proper
    names :=
      { identifier := DataView.identifier_operand
        column := fun {path _} written => by
          have named : DataView.column path = .ok _ := written
          unfold DataView.column at named
          by_cases qualified : path.isQualified = true
          · rw [if_pos qualified] at named
            cases named
          · rw [if_neg qualified] at named
            exact DataView.identifier_operand named }
    literals := { literals with
      bool := fun b => by
        cases b with
        | false => exact Operand.word proper "false" rfl
        | true => exact Operand.word proper "true" rfl
      date := fun v => operand_hashed proper .slashedDate rfl (.startOf v)
      dateTime := operand_hashed proper (onDay .slashedDate .clock) rfl
      binary := nofun
      default := nofun }
    calls := { calls with
      functionName := DataView.functionName_operand proper
      coalesce := Operand.pair proper "ISNULL(" ", " ")" rfl rfl rfl
      concat := fun h => Operand.between proper "(" ")" rfl rfl (Operand.join proper " + " rfl h)
      specialCall := fun f _ _ => DataView.specialCall_alike proper f
      truth := fun b => by
        cases b with
        | false => exact Operand.word proper "false" rfl
        | true => exact Operand.word proper "true" rfl
      likeEscapeClause := alike_empty } }

end Dialect

namespace Builtin

/-- The marks that a built-in dialect puts around names. -/
def nameMarks : Builtin → Option NameMarks
  | dataView => Dialect.DataView.nameMarks
  | b => b.dialect.quoting.nameMarks

/-- Every built-in dialect closes what it opens. -/
theorem closes (b : Builtin) : b.dialect.Closes b.nameMarks := by
  cases b with
  | mssql => exact Dialect.Mssql.closes
  | postgres => exact Dialect.Postgres.closes
  | sqlite => exact Dialect.Sqlite.closes
  | access => exact Dialect.Access.closes
  | db2 => exact Dialect.Db2.closes
  | dataView => exact Dialect.DataView.closes

end Builtin

end SqlScribe
