import SqlScribe.Query.Select

/-!
# Conditions in SQL

A condition as SQL has it, the lexemes it is written with, and how lexemes are read: `NOT` binds
tighter than `AND`, `AND` tighter than `OR`, and a `BETWEEN` takes the next `AND` for itself.
-/

namespace SqlScribe.Sql

/-- An expression in a condition. -/
inductive Scalar
  | expr (e : Expr)
  /-- The first of a column and a constant that is not NULL. -/
  | coalesced (path : ColumnPath) (fallback : Constant)

/-- What a `LIKE` looks for. -/
inductive LikePattern
  | startsWith (start : String)
  | contains (needle : String)

/-- A condition, its parentheses included. -/
inductive Condition
  | truth (b : Bool)
  | compare (lhs : Scalar) (op : Comparison) (c : Constant)
  | isNull (lhs : Scalar) (negated : Bool)
  | oneOf (lhs : Scalar) (first : Constant) (others : List Constant)
  | like (lhs : Scalar) (pattern : LikePattern)
  | between (lhs : Scalar) (low high : Constant)
  | enclosed (inner : Condition)
  | not (inner : Condition)
  | and (left right : Condition)
  | or (left right : Condition)

/-- A word of a condition. -/
inductive Lexeme
  | truth (b : Bool)
  | scalar (s : Scalar)
  | constant (c : Constant)
  | pattern (p : LikePattern)
  | comparison (op : Comparison)
  | isNull (negated : Bool)
  | oneOf
  | like
  | between
  | not
  | and
  | or
  | opening
  | closing
  | comma

/-- Further members of a list. -/
def memberLexemes : List Constant → List Lexeme
  | [] => []
  | c :: rest => .comma :: .constant c :: memberLexemes rest

/-- The words of a condition. -/
def Condition.lexemes : Condition → List Lexeme
  | truth b => [.truth b]
  | compare lhs op c => [.scalar lhs, .comparison op, .constant c]
  | isNull lhs negated => [.scalar lhs, .isNull negated]
  | oneOf lhs first others =>
    .scalar lhs :: .oneOf :: .opening :: .constant first :: (memberLexemes others ++ [.closing])
  | like lhs pattern => [.scalar lhs, .like, .pattern pattern]
  | between lhs low high => [.scalar lhs, .between, .constant low, .and, .constant high]
  | enclosed inner => .opening :: (inner.lexemes ++ [.closing])
  | not inner => .not :: inner.lexemes
  | and left right => left.lexemes ++ .and :: right.lexemes
  | or left right => left.lexemes ++ .or :: right.lexemes

theorem Condition.lexemes_and (left right : Condition) :
    (and left right).lexemes = left.lexemes ++ .and :: right.lexemes := rfl

theorem Condition.lexemes_or (left right : Condition) :
    (or left right).lexemes = left.lexemes ++ .or :: right.lexemes := rfl

/-! ## Reading -/

/-- Reads the further members of a list up to its end. -/
def readMembers : List Lexeme → Option (List Constant × List Lexeme)
  | .closing :: rest => some ([], rest)
  | .comma :: .constant c :: rest => do
    let (others, rest) ← readMembers rest
    return (c :: others, rest)
  | _ => none

/-- Reads what follows an expression. -/
def readTail (lhs : Scalar) : List Lexeme → Option (Condition × List Lexeme)
  | .comparison op :: .constant c :: rest => some (.compare lhs op c, rest)
  | .isNull negated :: rest => some (.isNull lhs negated, rest)
  | .like :: .pattern p :: rest => some (.like lhs p, rest)
  | .between :: .constant low :: .and :: .constant high :: rest =>
    some (.between lhs low high, rest)
  | .oneOf :: .opening :: .constant first :: rest => do
    let (others, rest) ← readMembers rest
    return (.oneOf lhs first others, rest)
  | _ => none

/-- How tightly a condition holds together. -/
inductive Level
  | disjunction
  | conjunction
  | operand
deriving DecidableEq

/-- The steps it takes to read a word at a level. -/
def Level.steps : Level → Nat
  | .operand => 1
  | .conjunction => 2
  | .disjunction => 3

/-- Reads a condition of a level from the front; the first argument bounds the steps. -/
def readAt : Nat → Level → List Lexeme → Option (Condition × List Lexeme)
  | 0, _, _ => none
  | n + 1, .disjunction, words => do
    let (left, rest) ← readAt n .conjunction words
    match rest with
    | .or :: rest =>
      let (right, rest) ← readAt n .disjunction rest
      return (.or left right, rest)
    | rest => return (left, rest)
  | n + 1, .conjunction, words => do
    let (left, rest) ← readAt n .operand words
    match rest with
    | .and :: rest =>
      let (right, rest) ← readAt n .conjunction rest
      return (.and left right, rest)
    | rest => return (left, rest)
  | n + 1, .operand, .not :: rest => do
    let (inner, rest) ← readAt n .operand rest
    return (.not inner, rest)
  | n + 1, .operand, .opening :: rest => do
    let (inner, rest) ← readAt n .disjunction rest
    match rest with
    | .closing :: rest => return (.enclosed inner, rest)
    | _ => none
  | _ + 1, .operand, .truth b :: rest => some (.truth b, rest)
  | _ + 1, .operand, .scalar lhs :: rest => readTail lhs rest
  | _ + 1, .operand, _ => none

/-- Reads a whole condition. -/
def read (words : List Lexeme) : Option Condition :=
  match readAt (3 * words.length + 3) .disjunction words with
  | some (c, []) => some c
  | _ => none

/-! ## Reading what was written -/

namespace Condition

/-- The condition can stand at a level without further parentheses. -/
def Fits : Level → Condition → Prop
  | level, or left right => level = .disjunction ∧ left.Fits .conjunction ∧ right.Fits .disjunction
  | level, and left right => level ≠ .operand ∧ left.Fits .operand ∧ right.Fits .conjunction
  | _, not inner => inner.Fits .operand
  | _, enclosed inner => inner.Fits .disjunction
  | _, _ => True

/-- What stands at a tighter level can stand at a looser one. -/
theorem Fits.loosen {c : Condition} (h : c.Fits .operand) (level : Level) : c.Fits level := by
  cases c with
  | or left right => exact absurd h.1 (by decide)
  | and left right => exact absurd rfl h.1
  | _ => exact h

theorem readMembers_lexemes (others : List Constant) (rest : List Lexeme) :
    readMembers (memberLexemes others ++ .closing :: rest) = some (others, rest) := by
  induction others with
  | nil => rfl
  | cons c others ih =>
    simp only [memberLexemes, List.cons_append, readMembers, ih]
    rfl

/-- The rest does not go on with a condition of this level. -/
def Ends : Level → List Lexeme → Prop
  | .operand, _ => True
  | .conjunction, rest => rest.head? ≠ some .and
  | .disjunction, rest => rest.head? ≠ some .and ∧ rest.head? ≠ some .or

theorem readAt_conjunction {n : Nat} {words rest : List Lexeme} {c : Condition}
    (h : readAt n .operand words = some (c, rest)) (ends : Ends .conjunction rest) :
    readAt (n + 1) .conjunction words = some (c, rest) := by
  rw [readAt, h]
  cases rest with
  | nil => rfl
  | cons word _ =>
    cases word with
    | and => exact absurd rfl ends
    | _ => rfl

theorem readAt_disjunction {n : Nat} {words rest : List Lexeme} {c : Condition}
    (h : readAt n .conjunction words = some (c, rest)) (ends : Ends .disjunction rest) :
    readAt (n + 1) .disjunction words = some (c, rest) := by
  rw [readAt, h]
  cases rest with
  | nil => rfl
  | cons word _ =>
    cases word with
    | or => exact absurd rfl ends.2
    | _ => rfl

/-- What is read at the tightest level is read at every level that ends there. -/
theorem readAt_of_operand {words rest : List Lexeme} {c : Condition} {k : Nat}
    (h : ∀ n, k ≤ n → readAt (n + 1) .operand words = some (c, rest)) (level : Level)
    (ends : Ends level rest) {n : Nat} (enough : k + level.steps ≤ n) :
    readAt n level words = some (c, rest) := by
  cases level with
  | operand =>
    obtain ⟨m, rfl⟩ := Nat.exists_eq_add_of_le' (Nat.le_trans (Nat.le_add_left 1 _) enough)
    exact h m (Nat.le_of_add_le_add_right enough)
  | conjunction =>
    obtain ⟨m, rfl⟩ := Nat.exists_eq_add_of_le' (Nat.le_trans (Nat.le_add_left 2 _) enough)
    exact readAt_conjunction (h m (Nat.le_of_add_le_add_right enough)) ends
  | disjunction =>
    obtain ⟨m, rfl⟩ := Nat.exists_eq_add_of_le' (Nat.le_trans (Nat.le_add_left 3 _) enough)
    have tighter := readAt_conjunction (h m (Nat.le_of_add_le_add_right enough)) ends.1
    exact readAt_disjunction tighter ends

/-- Two conditions that are read one after the other are the sides of a conjunction. -/
theorem readAt_and {n : Nat} {words others rest : List Lexeme} {left right : Condition}
    (first : readAt n .operand words = some (left, .and :: others))
    (second : readAt n .conjunction others = some (right, rest)) :
    readAt (n + 1) .conjunction words = some (.and left right, rest) := by
  rw [readAt, first]
  simp only [bind, Option.bind, second]
  rfl

theorem readAt_or {n : Nat} {words others rest : List Lexeme} {left right : Condition}
    (first : readAt n .conjunction words = some (left, .or :: others))
    (second : readAt n .disjunction others = some (right, rest)) :
    readAt (n + 1) .disjunction words = some (.or left right, rest) := by
  rw [readAt, first]
  simp only [bind, Option.bind, second]
  rfl

/-- The words of a condition are read back as that condition, whatever follows it. -/
theorem readAt_lexemes (c : Condition) (level : Level) (fits : c.Fits level) (rest : List Lexeme)
    (ends : Ends level rest) (n : Nat) (enough : 3 * c.lexemes.length + level.steps ≤ n) :
    readAt n level (c.lexemes ++ rest) = some (c, rest) := by
  induction c generalizing level rest n with
  | truth b => exact readAt_of_operand (fun _ _ => rfl) level ends enough
  | compare lhs op c => exact readAt_of_operand (fun _ _ => rfl) level ends enough
  | isNull lhs negated => exact readAt_of_operand (fun _ _ => rfl) level ends enough
  | like lhs pattern => exact readAt_of_operand (fun _ _ => rfl) level ends enough
  | between lhs low high => exact readAt_of_operand (fun _ _ => rfl) level ends enough
  | oneOf lhs first others =>
    refine readAt_of_operand (fun n _ => ?_) level ends enough
    have members := readMembers_lexemes others rest
    simp only [lexemes, List.cons_append, List.append_assoc, List.nil_append, readAt, readTail,
      members]
    rfl
  | enclosed inner ih =>
    refine readAt_of_operand (fun n fuel => ?_) level ends enough
    simp only [lexemes, List.length_cons, List.length_append, List.length_nil] at fuel
    have inside := ih .disjunction fits (.closing :: rest) ⟨by simp, by simp⟩ n (by
      simp only [Level.steps]
      omega)
    simp only [lexemes, List.cons_append, List.append_assoc, List.nil_append, readAt, inside]
    rfl
  | not inner ih =>
    refine readAt_of_operand (fun n fuel => ?_) level ends enough
    simp only [lexemes, List.length_cons] at fuel
    have inside := ih .operand fits rest trivial n (by
      simp only [Level.steps]
      omega)
    simp only [lexemes, List.cons_append, readAt, inside]
    rfl
  | and left right ihl ihr =>
    obtain ⟨loose, fits_left, fits_right⟩ := fits
    -- A conjunction may stand alone in a disjunction, which takes one step more.
    have whole : ∀ m, 3 * (and left right).lexemes.length + 2 ≤ m → Ends .conjunction rest →
        readAt m .conjunction ((and left right).lexemes ++ rest) = some (and left right, rest) := by
      rintro (_ | m) large ends
      · omega
      · rw [lexemes_and, List.length_append, List.length_cons] at large
        rw [lexemes_and, List.append_assoc, List.cons_append]
        apply readAt_and
        · exact ihl .operand fits_left _ trivial m (by simp only [Level.steps]; omega)
        · exact ihr .conjunction fits_right rest ends m (by simp only [Level.steps]; omega)
    cases level with
    | operand => exact absurd rfl loose
    | conjunction => exact whole n enough ends
    | disjunction =>
      cases n with
      | zero => simp [Level.steps] at enough
      | succ n => exact readAt_disjunction (whole n (Nat.le_of_succ_le_succ enough) ends.1) ends
  | or left right ihl ihr =>
    obtain ⟨rfl, fits_left, fits_right⟩ := fits
    cases n with
    | zero => simp [Level.steps] at enough
    | succ n =>
      rw [lexemes_or, List.length_append, List.length_cons, Level.steps] at enough
      rw [lexemes_or, List.append_assoc, List.cons_append]
      apply readAt_or
      · exact ihl .conjunction fits_left _ (by simp [Ends]) n (by simp only [Level.steps]; omega)
      · exact ihr .disjunction fits_right rest ends n (by simp only [Level.steps]; omega)

/-- A condition is read as what it was written for. -/
theorem read_lexemes {c : Condition} (fits : c.Fits .disjunction) : read c.lexemes = some c := by
  have all := readAt_lexemes c .disjunction fits [] ⟨by simp, by simp⟩
    (3 * c.lexemes.length + 3) (Nat.le_refl _)
  rw [List.append_nil] at all
  rw [read, all]

end Condition

end SqlScribe.Sql
