import SqlScribe.Proofs.Literal.Prepared
import SqlScribe.Proofs.Literal.Texts
import SqlScribe.Proofs.Value.Identifiers

/-!
# Literals that are read back

The literal that a built-in dialect writes for a value is read as the value, converted to the type
it was written for. Dates and times are left out here, as dialects round them.
-/

namespace SqlScribe

open SqlScribe.Text

/-- The types whose literals keep all of a value. -/
def ColumnType.isKept : ColumnType → Bool
  | .string | .memo | .xml | .integer | .money | .boolean | .guid | .binary => true
  | .float | .date | .time | .dateTime | .unknown => false

namespace Value

variable {type : ColumnType}

theorem ofLiteral_of_ofChars {s : String} {literal : Literal} {w : Value}
    (read : Literal.ofChars s.toList = .ok literal) (value : literal.toValue type = .ok w) :
    ofLiteral s type = .ok w := by
  rw [ofLiteral, read]
  exact value

theorem convert_string (isText : type.isText = true) (s : String) :
    (string s).convert type = .ok (.string s) := by
  cases type with
  | string | memo | xml => rfl
  | _ => cases isText

theorem toValue_text (s : String) :
    (Literal.text s.toList).toValue type = (string s).convert type := by
  rw [Literal.toValue, String.ofList_toList]

theorem toValue_number (known : type ≠ .unknown) (ds : List Char) :
    (Literal.number ds).toValue type = (string (.ofList ds)).convert type := if_neg known

theorem ofLiteral_numeral (n : Int64) : ofLiteral (numeral n.toInt) .integer = .ok (.int n) := by
  have converted (s : String) : (string s).convert? .integer = (readInt64? (trim s)).map int := rfl
  apply ofLiteral_of_ofChars (Literal.ofChars_numeral n.toInt)
  rw [toValue_number (by decide), convert_eq_ok, converted, ← numeral, Literal.trim_numeral,
    readInt64?_numeral]
  rfl

theorem ofLiteral_amount (m : Decimal) : ofLiteral m.toText .money = .ok (.money m) := by
  have converted (s : String) :
      (string s).convert? .money = (Decimal.ofText? (trim s)).map money := rfl
  apply ofLiteral_of_ofChars (Literal.ofChars_amount m)
  rw [toValue_number (by decide), convert_eq_ok, converted, ← Decimal.toText, Literal.trim_amount,
    Decimal.ofText?_toText]
  rfl

theorem ofLiteral_guid {s : String} {g : Guid} (read : readGuid? s = some g)
    (plain : ∀ c ∈ s.toList, c ≠ '\x27') : ofLiteral ("'" ++ s ++ "'") .guid = .ok (.guid g) := by
  rw [← Literal.quotedText_of_plain plain]
  apply ofLiteral_of_ofChars (Literal.ofChars_quotedText s)
  rw [toValue_text]
  apply convert_eq_ok.mpr
  change (readGuid? s).map guid = some (.guid g)
  rw [read]
  rfl

theorem ofLiteral_hex {s : String} {ds : List Char} {bytes : List UInt8} {w : Value}
    (written : Literal.ofChars s.toList = .ok (.hex ds)) (read : Literal.readBytes ds = .ok bytes)
    (converted : (binary bytes).convert type = .ok w) : ofLiteral s type = .ok w := by
  apply ofLiteral_of_ofChars written
  rw [Literal.toValue, read]
  exact converted

end Value

namespace Builtin

open Value Literal

theorem ofLiteral_textLiteral (b : Builtin) {type : ColumnType} (isText : type.isText = true)
    (s : String) : ofLiteral (b.dialect.textLiteral s) type = .ok (.string s) := by
  have value : (text s.toList).toValue type = .ok (.string s) := by
    rw [toValue_text]
    exact convert_string isText s
  cases b with
  | mssql => exact ofLiteral_of_ofChars (ofChars_nationalText s) value
  | _ => exact ofLiteral_of_ofChars (ofChars_quotedText s) value

theorem ofLiteral_boolLiteral (b : Builtin) (x : Bool) :
    ofLiteral (b.dialect.boolLiteral x) .boolean = .ok (.bool x) := by
  cases b <;> cases x <;> decide +kernel

theorem ofLiteral_guidLiteral (b : Builtin) (g : Guid) :
    ofLiteral (b.dialect.guidLiteral g) .guid = .ok (.guid g) := by
  have plain : ∀ c ∈ g.toText.toList, c ≠ '\x27' := by
    rw [Guid.toText, String.toList_ofList]
    exact fun c member => (Guid.isPlain_of_mem_toChars member).ne_of_toNat (by decide)
  cases b with
  | sqlite =>
    apply ofLiteral_hex (ofChars_quotedHex fun _ => isHexDigit_of_mem_upperHex)
      (readBytes_upperHex g.toBlob)
    apply convert_eq_ok.mpr
    change (Guid.ofBlob? g.toBlob).map guid = some (.guid g)
    rw [Guid.ofBlob?_toBlob]
    rfl
  | access =>
    have written : Builtin.access.dialect.guidLiteral g =
        "'" ++ ("\x7b" ++ g.toText ++ "\x7d") ++ "'" := by
      change "'\x7b" ++ g.toText ++ "\x7d'" = _
      have opening : "'\x7b" = "'" ++ "\x7b" := rfl
      have closing : "\x7d'" = "\x7d" ++ "'" := rfl
      rw [opening, closing]
      simp only [String.append_assoc]
    have braced : ∀ c ∈ ("\x7b" ++ g.toText ++ "\x7d").toList, c ≠ '\x27' := by
      have spelled : ("\x7b" ++ g.toText ++ "\x7d").toList =
          '\x7b' :: (g.toText.toList ++ ['\x7d']) := by
        simp
      rw [spelled, List.forall_mem_cons, List.forall_mem_append, List.forall_mem_singleton]
      exact ⟨by decide, plain, by decide⟩
    rw [written]
    exact ofLiteral_guid (readGuid?_braced g) braced
  | _ => exact ofLiteral_guid (readGuid?_toText g) plain

theorem ofLiteral_binaryLiteral (b : Builtin) {bytes : List UInt8} {t : String}
    (written : b.dialect.binaryLiteral bytes = .ok t) :
    ofLiteral t .binary = .ok (.binary bytes) := by
  have upper : ∀ c ∈ upperHex bytes, isHexDigit c = true := fun _ => isHexDigit_of_mem_upperHex
  have lower : ∀ c ∈ lowerHex bytes, isHexDigit c = true := fun _ => isHexDigit_of_mem_lowerHex
  cases b with
  | access | dataView => cases written
  | mssql =>
    obtain rfl := Except.ok.inj written
    exact ofLiteral_hex (ofChars_plainHex upper) (readBytes_upperHex bytes) rfl
  | postgres =>
    obtain rfl := Except.ok.inj written
    exact ofLiteral_hex (ofChars_byteString lower) (readBytes_lowerHex bytes) rfl
  | sqlite =>
    obtain rfl := Except.ok.inj written
    exact ofLiteral_hex (ofChars_quotedHex upper) (readBytes_upperHex bytes) rfl
  | db2 =>
    obtain rfl := Except.ok.inj written
    exact ofLiteral_hex (ofChars_blobCall upper) (readBytes_upperHex bytes) rfl

/-- The literal of a value that belongs to a type is read as that value. -/
theorem ofLiteral_of_belongs (b : Builtin) {w : Value} {type : ColumnType}
    (kept : type.isKept = true) (something : w.isNull = false) (belongs : w.belongs type = true)
    {t : String} (written : b.dialect.literal w type = .ok t) : ofLiteral t type = .ok w := by
  cases type with
  | string | memo | xml =>
    cases w with
    | string s =>
      obtain rfl : b.dialect.textLiteral s = t := Except.ok.inj written
      exact b.ofLiteral_textLiteral rfl s
    | null => cases something
    | _ => cases belongs
  | integer =>
    cases w with
    | int n =>
      obtain rfl : numeral n.toInt = t := Except.ok.inj written
      exact ofLiteral_numeral n
    | null => cases something
    | _ => cases belongs
  | money =>
    cases w with
    | money m =>
      obtain rfl : m.toText = t := Except.ok.inj written
      exact ofLiteral_amount m
    | null => cases something
    | _ => cases belongs
  | boolean =>
    cases w with
    | bool x =>
      obtain rfl : b.dialect.boolLiteral x = t := Except.ok.inj written
      exact b.ofLiteral_boolLiteral x
    | null => cases something
    | _ => cases belongs
  | guid =>
    cases w with
    | guid g =>
      obtain rfl : b.dialect.guidLiteral g = t := Except.ok.inj written
      exact b.ofLiteral_guidLiteral g
    | null => cases something
    | _ => cases belongs
  | binary =>
    cases w with
    | binary bytes => exact b.ofLiteral_binaryLiteral written
    | null => cases something
    | _ => cases belongs
  | float | date | time | dateTime | unknown => cases kept

/-- The literal of a value is read as the value, converted to the type of the literal. -/
theorem ofLiteral_literal (b : Builtin) {v : Value} {type : ColumnType}
    (kept : type.isKept = true) (given : v.isNull = false) {t : String}
    (written : b.dialect.literal v type = .ok t) :
    ∃ w, v.convert type = .ok w ∧ ofLiteral t type = .ok w := by
  obtain ⟨w, converted⟩ := Dialect.convert?_of_literal written
  have belongs := belongs_of_convert? converted
  have something : w.isNull = false := (isNull_of_convert? converted).trans given
  have same : b.dialect.literal w type = .ok t :=
    (Dialect.literal_of_convert? converted).trans written
  exact ⟨w, convert_eq_ok.mpr converted, b.ofLiteral_of_belongs kept something belongs same⟩

/-- A text that holds a quote, a NULL and the mark of a byte string. -/
theorem ofLiteral_literal_marks :
    ofLiteral "'it''s NULL''::bytea'" .string = .ok (.string "it's NULL'::bytea") := by
  have written : postgres.dialect.literal (.string "it's NULL'::bytea") .string =
      .ok "'it''s NULL''::bytea'" := by
    decide +kernel
  obtain ⟨w, converted, read⟩ := ofLiteral_literal .postgres rfl rfl written
  obtain rfl : .string "it's NULL'::bytea" = w := Except.ok.inj converted
  exact read

end Builtin

end SqlScribe
