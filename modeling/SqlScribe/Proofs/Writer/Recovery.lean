import SqlScribe.Proofs.Writer.Alike
import SqlScribe.Proofs.Writer.Appending
import SqlScribe.Proofs.Writer.Balance

/-!
# Failed flushes

A flush takes the staged rows out of the session and puts them back if they cannot be handed over,
at whatever batch that fails. The session is then what it was, and goes on as if the flush had not
been asked for.
-/

namespace SqlScribe

open Session Writing

variable {σ τ : Type}

/-- What a command answers. -/
inductive Session.Reply
  | written (outcome : WriteOutcome)
  | counted (rows : UInt64)
deriving DecidableEq

namespace Backend

/-- Carries out one command. -/
def perform (x : Backend σ) : Command → Writing σ Reply
  | .write row => do return .written (← x.write row)
  | .writeAll rows => do return .counted (← x.writeAll rows)
  | .flush => do return .counted (← x.flush)

/-- Carries out commands one after the other, whether or not they succeed. -/
def performAll (x : Backend σ) : List Command → Writing σ (List (Except Fault Reply))
  | [] => return []
  | command :: rest => do
    let reply ← outcome (x.perform command)
    let others ← x.performAll rest
    return reply :: others

namespace Alike

variable {x : Backend σ} {y : Backend τ} {R : σ → τ → Prop}

theorem perform (h : x.Alike y R) (command : Command) :
    Writing.Alike R (x.perform command) (y.perform command) := by
  cases command with
  | write row => exact (h.write row).bind fun _ => .pure _
  | writeAll rows => exact (h.writeAll rows).bind fun _ => .pure _
  | flush => exact h.flush.bind fun _ => .pure _

theorem performAll (h : x.Alike y R) (commands : List Command) :
    Writing.Alike R (x.performAll commands) (y.performAll commands) := by
  induction commands with
  | nil => exact .pure []
  | cons command rest ih =>
    apply (h.perform command).outcome.bind
    intro reply
    exact ih.bind fun others => .pure (reply :: others)

end Alike

end Backend

/-- In related states the executors answer every call alike, and are related again afterwards. -/
structure Executor.Alike (x : Executor σ) (y : Executor τ) (R : σ → τ → Prop) : Prop where
  execute : ∀ statement, Answer.Alike R (x.execute statement) (y.execute statement)
  bulkLoad : ∀ load, Answer.Alike R (x.bulkLoad load) (y.bulkLoad load)

namespace Executor.Alike

variable {x : Executor σ} {y : Executor τ} {R : σ → τ → Prop}

theorem refl (x : Executor σ) : x.Alike x Eq := by
  constructor <;>
    · rintro _ t _ rfl
      exact ⟨rfl, rfl⟩

theorem backend (h : x.Alike y R) : x.backend.Alike y.backend R where
  update _ _ := h.execute
  insert _ := h.execute
  bulkLoad := h.bulkLoad

/-- What the executors are handed is the same too. -/
theorem recording (h : x.Alike y R) :
    x.recording.Alike y.recording fun t u => R t.1 u.1 ∧ t.2 = u.2 where
  execute statement := by
    rintro ⟨t, log⟩ ⟨u, _⟩ ⟨related, rfl⟩
    obtain ⟨same, related'⟩ := h.execute statement t u related
    exact ⟨same, related', rfl⟩
  bulkLoad load := by
    rintro ⟨t, log⟩ ⟨u, _⟩ ⟨related, rfl⟩
    obtain ⟨same, related'⟩ := h.bulkLoad load t u related
    exact ⟨same, related', rfl⟩

end Executor.Alike

namespace Session

/-- If the staged rows cannot be handed over, at whatever batch and for whatever reason, the flush
says why and the session is what it was: the staged rows in their order and with their index, the
counters and the prepared UPDATE. So whatever is asked of it later it answers, hands over and keeps
as it would without the flush, over any executor that answers these later calls alike. -/
theorem flush_fault {x : Executor σ} {s : Session} {t : σ} {f : Fault}
    (staged : s.staging.rows ≠ [])
    (fails : (x.backend.load s s.staging.rows).Ensures t fun r _ => r = .error f) :
    Ensures (Session.flush x) s t fun r s' t' => r = .error f ∧ s' = s ∧
      ∀ {τ : Type} (y : Executor τ) (R : σ → τ → Prop), x.Alike y R → ∀ u, R t' u →
        ∀ commands, Ensures (x.recording.backend.performAll commands) s' (t', [])
          fun replies later t'' =>
            Ensures (y.recording.backend.performAll commands) s (u, []) fun replies' later' u'' =>
              replies = replies' ∧ later = later' ∧ t''.2 = u''.2 ∧ R t''.1 u''.1 := by
  rw [flush, Backend.ensures_flush, if_neg staged]
  apply fails.imp
  rintro r t' rfl
  refine ⟨rfl, rfl, ?_⟩
  intro τ y R alike u related commands
  have both := alike.recording.backend.performAll commands s (t', []) (u, []) ⟨related, rfl⟩
  apply both.imp
  rintro replies later t'' ⟨same, same', related', handed⟩
  exact ⟨same, same', handed, related'⟩

/-- Of two staged files the second one cannot be written down, when the first one has been sent. -/
theorem flush_fault_files :
    let s := Ledger.files.holding ⟨[], [[.null], [.binary [1]]], []⟩ none {}
    (counting.recording.backend.load s s.staging.rows).Ensures ((), [])
      (fun _ t => t.2.length = 1) ∧
    Ensures (Session.flush counting) s () fun r s' t =>
      r = .error (.unsupported "DataView" .binaryLiterals) ∧ s' = s ∧
      ∀ commands, Ensures (counting.recording.backend.performAll commands) s' (t, [])
        fun replies later t' =>
          Ensures (counting.recording.backend.performAll commands) s ((), [])
            fun replies' later' u => replies = replies' ∧ later = later' ∧ t'.2 = u.2 := by
  intro s
  have first : (counting.recording.backend.load s s.staging.rows).Ensures ((), [])
      (fun _ t => t.2.length = 1) := by
    unfold Answer.Ensures
    decide +kernel
  have fails : (counting.backend.load s s.staging.rows).Ensures ()
      fun r _ => r = .error (.unsupported "DataView" .binaryLiterals) := by
    unfold Answer.Ensures
    decide +kernel
  have staged : s.staging.rows ≠ [] := List.cons_ne_nil _ _
  refine ⟨first, (flush_fault staged fails).imp ?_⟩
  rintro r s' t ⟨rfl, rfl, later⟩
  refine ⟨rfl, rfl, fun commands => (later counting Eq (.refl counting) () rfl commands).imp ?_⟩
  rintro replies s'' t' same
  apply same.imp
  rintro replies' later' u ⟨same, same', handed, -⟩
  exact ⟨same, same', handed⟩

end Session

end SqlScribe
