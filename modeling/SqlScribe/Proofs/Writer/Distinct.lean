import SqlScribe.Proofs.Writer.Outcomes
import SqlScribe.Proofs.Writer.Upsert

/-!
# Staged rows of different keys

In a session that inserts or updates rows, a row is staged only where no staged row has its key, and
a staged row is changed only outside its key. So the staged rows have different keys and each is
found in its place, also after calls that failed; and a row that is staged never fills the staging.
-/

namespace SqlScribe

open Session Writing

variable {σ : Type}

namespace Session

/-- What writes and flushes make of a session and of the state of its executor, in any order and
whether or not they end well. -/
inductive Reachable (x : Executor σ) (s : Session) (t : σ) : Session → σ → Prop
  | opened : Reachable x s t s t
  | write {s' : Session} {t' : σ} (row : Row) (before : Reachable x s t s' t') :
      Reachable x s t (((Session.write x row).run.run s').run t').1.2
        (((Session.write x row).run.run s').run t').2
  | flush {s' : Session} {t' : σ} (before : Reachable x s t s' t') :
      Reachable x s t (((Session.flush x).run.run s').run t').1.2
        (((Session.flush x).run.run s').run t').2

/-- The session with other staged rows, all of which are found under their keys. -/
def Restaged (s s' : Session) : Prop :=
  ∃ q u m, s' = s.holding q u m ∧ q.Indexed s.search

variable {s s' s'' : Session} {row : Row} {r : Except Fault WriteOutcome}

theorem Fresh.restaged (fresh : s.Fresh) : s.Restaged s :=
  ⟨.empty s.search, none, s.summary, fresh.holding_self.symm, Staging.indexed_empty s.search⟩

/-- To place a row keeps the staged rows apart. -/
theorem Places.restaged (placed : s'.Places row r s'') (keyed : s.Keyed) (h : s.Restaged s') :
    s.Restaged s'' := by
  obtain ⟨q, u, m, rfl, indexed⟩ := h
  cases placed with
  | refused f u' => exact ⟨q, u', m, rfl, indexed⟩
  | staged u' mode checked prepared fresh =>
    exact ⟨_, u', m, rfl, indexed.push keyed.keyed (fresh keyed.mode)⟩
  | merged mode prepared found =>
    have apart : ∀ i ∈ s.search, i ∉ s.other := by
      rw [keyed.other]
      exact fun i inside outside => (Row.mem_otherPlaces.mp outside).2 inside
    exact ⟨_, u, _, rfl, indexed.overwrite apart _ _⟩
  | updated n u' mode something => exact ⟨q, u', _, rfl, indexed⟩
  | unmatched u' mode => exact ⟨q, u', _, rfl, indexed⟩

theorem Restaged.cleared (h : s.Restaged s') (n : UInt64) :
    s.Restaged { s'.countLoad n with staging := s'.staging.clear } := by
  obtain ⟨q, u, m, rfl, indexed⟩ := h
  exact ⟨q.clear, u, _, rfl, indexed.clear⟩

theorem Writes.restaged {x : Backend σ} (written : s'.Writes x row r s'') (keyed : s.Keyed)
    (h : s.Restaged s') : s.Restaged s'' := by
  cases written with
  | placed placed room => exact placed.restaged keyed h
  | flushed placed atLimit n => exact (placed.restaged keyed h).cleared n
  | stuck placed atLimit failed => exact placed.restaged keyed h

/-- A flush clears the staging or leaves it as it is. -/
theorem Restaged.flush (x : Backend σ) (h : s.Restaged s') (t : σ) :
    Ensures x.flush s' t fun _ s'' _ => s.Restaged s'' := by
  rw [Backend.ensures_flush]
  split
  · exact h
  · apply Answer.ensures_of_forall
    intro r t'
    cases r with
    | ok n => exact h.cleared n
    | error f => exact h

theorem Reachable.restaged {x : Executor σ} {t t' : σ} (reach : Reachable x s t s' t')
    (keyed : s.Keyed) (fresh : s.Fresh) : s.Restaged s' := by
  induction reach with
  | opened => exact fresh.restaged
  | write row _ ih =>
    exact (x.backend.write_writes row _ _).imp fun _ _ _ written => written.restaged keyed ih
  | flush _ ih => exact ih.flush x.backend _

/-- A row that ends up staged leaves room for another one. -/
theorem Writes.room {x : Backend σ} (written : s'.Writes x row (.ok .staged) s'')
    (positive : 0 < s'.maxStaged) : s''.staged < s'.maxStaged := by
  cases written with
  | placed placed room =>
    have same : s''.maxStaged = s'.maxStaged := by cases placed; rfl
    exact same ▸ room rfl
  | flushed placed atLimit n => exact positive

end Session

namespace Staging

variable {search : List Nat} {q : Staging}

theorem Indexed.nodup (h : q.Indexed search) : (q.rows.map (Row.key search)).Nodup := by
  rw [List.nodup_iff_getElem?_ne_getElem?]
  intro i j before inside same
  obtain ⟨k, at_j⟩ : ∃ k, (q.rows.map (Row.key search))[j]? = some k :=
    ⟨_, List.getElem?_eq_getElem inside⟩
  rw [at_j] at same
  rw [List.getElem?_map] at same at_j
  have first := (h.lookup k i).mpr same
  rw [(h.lookup k j).mpr at_j] at first
  exact absurd (Option.some.inj first) (Nat.ne_of_gt before)

end Staging

/-- Whatever is written and flushed, and whether or not the executor does what it is asked: in a
session of any dialect that inserts or updates rows, the staged rows have different keys, each is
found exactly where it stands, no other row is found, and after a write that has staged its row
fewer rows are staged than the limit. -/
theorem Session.staging_distinct {d : Dialect} {table : String} {columns : List Column}
    {names : List String} {opened s : Session}
    (start : Session.start d table columns names .insertOrUpdate = .ok opened)
    (batchSize maxStaged : Nat)
    (limits : s = (opened.withBatchSize batchSize).withMaxStaged maxStaged)
    {x : Executor σ} {t t' : σ} {s' : Session} (reach : Reachable x s t s' t') :
    (s'.staging.rows.map (Row.key s.search)).Nodup ∧
    (∀ i row, s'.staging.rows[i]? = some row → s'.staging.find? row = some i) ∧
    (∀ row, row.key s.search ∉ s'.staging.rows.map (Row.key s.search) →
      s'.staging.find? row = none) ∧
    ∀ row, Ensures (Session.write x row) s' t' fun r s'' _ =>
      r = .ok .staged → s''.staged < s.maxStaged := by
  obtain ⟨keyed, fresh, -, -⟩ := start_keyed start
  have keyed : s.Keyed := limits ▸ keyed.withLimits batchSize maxStaged
  have fresh : s.Fresh := limits ▸ fresh.withLimits batchSize maxStaged
  obtain ⟨q, u, m, rfl, indexed⟩ := reach.restaged keyed fresh
  refine ⟨indexed.nodup, fun i row at_i => ?_, fun row missing => ?_, fun row => ?_⟩
  · exact (indexed.find?_eq_some keyed.keyed row i).mpr ⟨row, at_i, rfl⟩
  · rw [List.mem_map] at missing
    exact (indexed.find?_eq_none keyed.keyed row).mpr fun old inside same =>
      missing ⟨old, inside, same⟩
  · apply (x.backend.write_writes row _ t').imp
    rintro _ s'' - written rfl
    have positive : 0 < s.maxStaged := by
      rw [limits]
      exact Nat.lt_of_lt_of_le Nat.one_pos (Nat.le_max_right _ _)
    exact written.room positive

/-- A table that never has a row for an UPDATE, and a connection that is lost in one call. -/
def vacant (call : Nat) : Executor Nat where
  execute _ := ExceptT.mk fun n =>
    (if n = call then .error (.database "connection reset") else .ok (some 0), n + 1)
  bulkLoad load := ExceptT.mk fun n => (.ok (.ofNat load.rows.length), n + 1)

/-- The flush of two people fails; one of them is renamed where it is staged. -/
theorem Session.staging_distinct_people : ∃ s' t',
    Reachable (vacant 2) ((people.withBatchSize 1).withMaxStaged 2) 0 s' t' ∧
    s'.staging.rows = [[.int 1, .string "Eve"], [.int 2, .string "Bob"]] ∧
    (s'.staging.rows.map (Row.key [0])).Nodup ∧
    s'.staging.find? [.int 2, .string "Bob"] = some 1 ∧
    s'.staging.find? [.int 3, .null] = none := by
  have reach := Reachable.write (x := vacant 2) [.int 1, .string "Eve"]
    (.write [.int 2, .string "Bob"] (.write [.int 1, .string "Ann"]
      (.opened (s := (people.withBatchSize 1).withMaxStaged 2) (t := 0))))
  obtain ⟨apart, found, missing, -⟩ := staging_distinct start_people 1 2 rfl reach
  refine ⟨_, _, reach, ?_, apart, ?_, ?_⟩
  · decide +kernel
  · exact found 1 [.int 2, .string "Bob"] (by decide +kernel)
  · exact missing _ (by decide +kernel)

end SqlScribe
