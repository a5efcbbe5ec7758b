import SqlScribe.Proofs.Condition.Listing
import SqlScribe.Proofs.Statement.Refilling

/-!
# Lists of constants

Membership in a list is cut into groups that the dialect allows, and nothing is lost: whatever a
list is written as is the layout of groups that hold its constants in order.
-/

namespace SqlScribe

open Emit

/-- The instruction that writes a constant. -/
def Constant.instruction (c : Constant) : Instruction := .value c.value c.type

namespace Dialect

/-- A script comes to its end if every instruction adds a piece. -/
theorem pieces_eq_ok_iff {d : Dialect} {mode : ParamMode} {script : List Instruction}
    {ps : List Piece} :
    d.pieces mode script = (ps, .ok ()) ↔
      List.Forall₂ (fun i p => d.piece mode i = .ok p) script ps := by
  induction script generalizing ps with
  | nil =>
    rw [List.forall₂_nil_left_iff]
    exact ⟨fun ended => (congrArg Prod.fst ended).symm, fun nothing => nothing ▸ rfl⟩
  | cons i rest ih =>
    rw [pieces_cons_eq_ok, List.forall₂_cons_left_iff]
    simp only [ih]

end Dialect

namespace Emit

variable (d : Dialect)

theorem writes_emitAll {script : List Instruction} {b b' : Buffer} :
    Writes (Instruction.emitAll d script) b b' ↔
      ∃ ps, List.Forall₂ (fun i p => d.piece b.mode i = .ok p) script ps ∧
        b' = b.addAll d.placeholder ps := by
  unfold Writes
  rw [Instruction.run_emitAll]
  constructor
  · intro same
    obtain ⟨ended, rfl⟩ := Prod.ext_iff.mp same
    exact ⟨_, Dialect.pieces_eq_ok_iff.mp (Prod.ext rfl ended), rfl⟩
  · rintro ⟨ps, added, rfl⟩
    rw [Dialect.pieces_eq_ok_iff.mpr added]

theorem separated_emitAll (sep : String) (scripts : List (List Instruction)) :
    separated sep (scripts.map (Instruction.emitAll d)) =
      Instruction.emitAll d (Listing.joined .text sep scripts) := by
  induction scripts with
  | nil => rfl
  | cons script rest ih =>
    cases rest with
    | nil => rfl
    | cons next others =>
      rw [Listing.joined, Instruction.emitAll_append]
      · rw [Instruction.emitAll, ← ih]
        rfl
      · intro nothing
        cases nothing

theorem junction_emitAll (empty : Bool) {scripts : List (List Instruction)}
    (something : scripts ≠ []) :
    junction d " OR " empty (scripts.map (Instruction.emitAll d)) =
      Instruction.emitAll d (Listing.disjoined .text scripts) := by
  match scripts with
  | [] => exact absurd rfl something
  | [_] => rfl
  | first :: second :: rest =>
    have several : 1 < (first :: second :: rest).length := by simp
    have closing : Instruction.emitAll d [.text ")"] = Emit.text ")" := by
      simp [Instruction.emitAll, Instruction.emit]
    rw [Listing.disjoined, if_pos several, Instruction.emitAll, Instruction.emitAll_append,
      ← separated_emitAll, closing]
    rfl

end Emit

namespace Buffer

end Buffer

namespace Filter

variable {d : Dialect}

theorem emitGroup_eq (d : Dialect) (lhs : String) (group : List Constant) :
    emitGroup d lhs group =
      Instruction.emitAll d (Listing.group .text lhs (group.map Constant.instruction)) := by
  have values : separated ", " (group.map (·.emit d)) = Instruction.emitAll d
      (Listing.joined .text ", " ((group.map Constant.instruction).map fun i => [i])) := by
    rw [← separated_emitAll, List.map_map, List.map_map]
    congr 2
    funext c
    simp [Instruction.emitAll, Constant.instruction, Instruction.emit, Constant.emit]
  have closing : Instruction.emitAll d [.text ")"] = Emit.text ")" := by
    simp [Instruction.emitAll, Instruction.emit]
  rw [emitGroup, values, ← closing]
  simp only [Listing.group, Instruction.emitAll, Instruction.emitAll_append, Instruction.emit]

/-- The steps that write the terms of a list, as scripts. -/
theorem emitTerms_eq (d : Dialect) (lhs : String) (values : List Constant) :
    emitTerms d lhs values = List.map (Instruction.emitAll d)
      (((inGroups d.features.maxInList (values.filter (!·.isNull))).map
          (List.map Constant.instruction)).map (Listing.group .text lhs) ++
        if values.any (·.isNull) then [Listing.null .text lhs] else []) := by
  rw [emitTerms, List.map_append, List.map_map, List.map_map]
  congr 1
  · congr 1
    funext group
    exact emitGroup_eq d lhs group
  · cases values.any (·.isNull) with
    | true => simp [Listing.null, Instruction.emitAll, Instruction.emit]
    | false => rfl

/-- Membership in a list that is not empty is one script, and the list is cut before it is known
what its constants become. -/
theorem emitOneOf_eq_script (d : Dialect) (e : Expr) {values : List Constant}
    (something : values ≠ []) :
    emitOneOf d e values = attempt (e.render d) >>= fun lhs =>
      Instruction.emitAll d (Listing.layout .text lhs
        ((inGroups d.features.maxInList (values.filter (!·.isNull))).map
          (List.map Constant.instruction)) (values.any (·.isNull))) := by
  rw [emitOneOf_eq d e something]
  congr 1
  funext lhs
  have some_term := emitTerms_ne_nil d e lhs something
  rw [emitTerms_eq] at some_term ⊢
  exact junction_emitAll d false fun nothing => some_term (congrArg _ nothing)

/-- Membership in a list that is not empty is written if the operand and all constants but NULL
are, and then so is each group. -/
theorem writes_oneOf {e : Expr} {values : List Constant} (something : values ≠ [])
    {b b' : Buffer} :
    Writes (emitOneOf d e values) b b' ↔ ∃ lhs ps, e.render d = .ok lhs ∧
      List.Forall₂ (fun c p => d.valuePiece b.mode c.value c.type = .ok p)
        (values.filter (!·.isNull)) ps ∧
      b' = b.addAll d.placeholder (Listing.layout .text lhs
        (inGroups d.features.maxInList ps) (values.any (·.isNull))) := by
  have texts (s : String) : d.piece b.mode (.text s) = .ok (.text s) := rfl
  -- Groups of constants become groups of pieces, and the layout of the ones that of the others.
  have related {lhs : String} {ps : List Piece}
      (each : List.Forall₂ (fun c p => d.valuePiece b.mode c.value c.type = .ok p)
        (values.filter (!·.isNull)) ps) :
      List.Forall₂ (fun i p => d.piece b.mode i = .ok p)
        (Listing.layout .text lhs ((inGroups d.features.maxInList
          (values.filter (!·.isNull))).map (List.map Constant.instruction))
          (values.any (·.isNull)))
        (Listing.layout .text lhs (inGroups d.features.maxInList ps)
          (values.any (·.isNull))) := by
    refine Listing.layout_rel ?_ lhs ?_ _
    · exact texts
    rw [List.forall₂_map_left_iff]
    refine (inGroups_rel d.features.maxInList each).imp ?_
    intro group pieces same
    rw [List.forall₂_map_left_iff]
    exact same
  rw [emitOneOf_eq_script d e something, writes_attempt]
  simp only [writes_emitAll]
  constructor
  · rintro ⟨lhs, rendered, ps, added, rfl⟩
    obtain ⟨pieces, each⟩ : ∃ pieces,
        List.Forall₂ (fun c p => d.valuePiece b.mode c.value c.type = .ok p)
          (values.filter (!·.isNull)) pieces := by
      apply forall₂_of_forall
      intro c listed
      rw [← flatten_inGroups d.features.maxInList (values.filter (!·.isNull))] at listed
      obtain ⟨group, among, inside⟩ := List.mem_flatten.mp listed
      exact exists_of_forall₂ added (Listing.mem_layout lhs _
        (List.mem_map_of_mem (f := Constant.instruction) inside) (List.mem_map_of_mem among))
    have unique : Relator.RightUnique fun i p => d.piece b.mode i = .ok p := by
      intro i p q first second
      exact Except.ok.inj (first.symm.trans second)
    obtain rfl := unique.forall₂ added (related each)
    exact ⟨lhs, pieces, rendered, each, rfl⟩
  · rintro ⟨lhs, ps, rendered, each, rfl⟩
    exact ⟨lhs, rendered, _, related each, rfl⟩

end Filter

namespace Piece

end Piece

namespace Buffer

variable (mark : Nat → String) (b : Buffer) (lhs : String)

variable {groups : List (List Piece)} {nulls : Bool}

end Buffer

namespace Filter

variable {d : Dialect}

/-- Three constants and NULL, where a list has two constants at most. -/
example : (compile { Builtin.sqlite.dialect with features := { maxInList := 2 } } .bind
    (.oneOf (.column ⟨["Id"]⟩) [.ofInt 7, ⟨.null, .integer⟩, .ofInt 8, .ofInt 9])).map
      Statement.sql =
    .ok "(\"Id\" IN (:P1, :P2) OR \"Id\" IN (:P3) OR \"Id\" IS NULL)" := by
  decide +kernel

end Filter

end SqlScribe
