import Mathlib.Data.List.Forall2
import SqlScribe.Proofs.Value.Sameness
import SqlScribe.Writer.Session

/-!
# Rows under their keys

What an UPDATE of some cells under some key does to a row, and what it means to insert or update one
row of a table.
-/

namespace SqlScribe

namespace Row

/-- The cell at a place; one that the row lacks counts as NULL. -/
def cell (row : Row) (i : Nat) : Value := row[i]?.getD .null

/-- The cells at some places are the same as the given ones, where NULL is the same as NULL. -/
def hasCells (places : List Nat) (cells : List Value) (row : Row) : Bool :=
  (places.zip cells).all fun (i, v) => (row.cell i).equals v

/-- The row with other cells at some places. -/
def setCells (places : List Nat) (cells : List Value) (row : Row) : Row :=
  (places.zip cells).foldl (fun row (i, v) => row.set i v) row

/-- Two rows have the same key. -/
def sameKey (search : List Nat) (old new : Row) : Bool :=
  search.all fun i => (old.cell i).equals (new.cell i)

/-- A row that keeps its key and takes all other cells from another row. -/
def replaced (search : List Nat) (old new : Row) : Row :=
  old.mapIdx fun i v => if search.contains i then v else new[i]?.getD v

/-- Updates every row that has the key of a row, and appends the row if there is none. -/
def upsert (search : List Nat) (table : List Row) (new : Row) : List Row :=
  if table.any (·.sameKey search new) then
    table.map fun old => if old.sameKey search new then old.replaced search new else old
  else table ++ [new]

/-- The cells of a row under a key can be compared with any others. -/
def Exact (search : List Nat) (row : Row) : Prop := ∀ i ∈ search, (row.cell i).isExact = true

variable {search : List Nat}

theorem sameKey_iff {old new : Row} (exact : new.Exact search) :
    old.sameKey search new = true ↔ old.key search = new.key search := by
  rw [sameKey, List.all_eq_true, key, key, List.map_inj_left]
  constructor
  · intro h i hi
    exact (Value.equals_iff_keyImage_eq (exact i hi)).mp (h i hi)
  · intro h i hi
    exact (Value.equals_iff_keyImage_eq (exact i hi)).mpr (h i hi)

/-- A row whose key is the same as itself has the key of another row if both count as one key. -/
theorem sameKey_iff_of_sameKey_self {old new : Row} (itself : new.sameKey search new = true) :
    old.sameKey search new = true ↔ old.key search = new.key search := by
  rw [sameKey, List.all_eq_true] at itself ⊢
  rw [key, key, List.map_inj_left]
  constructor
  · intro h i hi
    exact (Value.equals_iff_keyImage_eq_of_equals_self (itself i hi)).mp (h i hi)
  · intro h i hi
    exact (Value.equals_iff_keyImage_eq_of_equals_self (itself i hi)).mpr (h i hi)

theorem cellsAt_eq {places : List Nat} {row : Row} (within : ∀ i ∈ places, i < row.length) :
    Session.cellsAt row places = places.map row.cell := by
  induction places with
  | nil => rfl
  | cons i rest ih =>
    have hi := within i List.mem_cons_self
    rw [Session.cellsAt, List.filterMap_cons, List.getElem?_eq_getElem hi]
    dsimp only
    rw [← Session.cellsAt, ih fun j hj => within j (List.mem_cons_of_mem i hj), List.map_cons, cell,
      List.getElem?_eq_getElem hi, Option.getD_some]

theorem hasCells_cellsAt {old new : Row} (within : ∀ i ∈ search, i < new.length) :
    old.hasCells search (Session.cellsAt new search) = old.sameKey search new := by
  rw [cellsAt_eq within, hasCells, sameKey]
  clear within
  induction search with
  | nil => rfl
  | cons i rest ih => simp [ih]

theorem getElem?_setCells (places : List Nat) (new : Row) (old : Row) (i : Nat) :
    (old.setCells places (places.map new.cell))[i]? =
      old[i]?.map fun v => if i ∈ places then new.cell i else v := by
  induction places generalizing old with
  | nil => simp [setCells]
  | cons j rest ih =>
    have step : old.setCells (j :: rest) ((j :: rest).map new.cell) =
        Row.setCells rest (rest.map new.cell) (old.set j (new.cell j)) := rfl
    rw [step, ih, List.getElem?_set]
    by_cases here : j = i
    · subst here
      by_cases inside : j < old.length
      · simp [inside]
      · simp [inside]
    · simp [here, Ne.symm here]

/-- All other places than those of a key, in rows of a width. -/
def otherPlaces (search : List Nat) (width : Nat) : List Nat :=
  (List.range width).filter fun i => !search.contains i

theorem mem_otherPlaces {width i : Nat} :
    i ∈ otherPlaces search width ↔ i < width ∧ i ∉ search := by
  simp [otherPlaces]

/-- An UPDATE of all other cells replaces the row under its key. -/
theorem setCells_cellsAt (old new : Row) :
    old.setCells (otherPlaces search new.length)
        (Session.cellsAt new (otherPlaces search new.length)) =
      old.replaced search new := by
  have within : ∀ i ∈ otherPlaces search new.length, i < new.length :=
    fun i hi => (mem_otherPlaces.mp hi).1
  apply List.ext_getElem?
  intro i
  rw [cellsAt_eq within, getElem?_setCells, replaced, List.getElem?_mapIdx]
  congr 1
  funext v
  by_cases key : i ∈ search
  · simp [key, mem_otherPlaces]
  · by_cases inside : i < new.length
    · simp [key, mem_otherPlaces, inside, cell]
    · simp [key, mem_otherPlaces, inside]

/-- Merging into a staged row replaces it under its key. -/
theorem mergeCells_eq (old new : Row) :
    Staging.mergeCells (otherPlaces search new.length) old new = old.replaced search new := by
  unfold Staging.mergeCells replaced
  congr 1
  funext i v
  by_cases key : i ∈ search
  · simp [key, mem_otherPlaces]
  · by_cases inside : i < new.length
    · simp [key, mem_otherPlaces, inside]
    · simp [key, mem_otherPlaces, inside]

theorem length_replaced (old new : Row) : (old.replaced search new).length = old.length :=
  List.length_mapIdx

theorem cell_replaced {old new : Row} {i : Nat} (key : i ∈ search) :
    (old.replaced search new).cell i = old.cell i := by
  simp [cell, replaced, List.getElem?_mapIdx, key]

theorem sameKey_congr {old old' new new' : Row} (hold : ∀ i ∈ search, old.cell i = old'.cell i)
    (hnew : ∀ i ∈ search, new.cell i = new'.cell i) :
    old.sameKey search new = old'.sameKey search new' := by
  unfold sameKey
  apply Bool.eq_iff_iff.mpr
  rw [List.all_eq_true, List.all_eq_true]
  constructor
  · intro h i hi
    rw [← hold i hi, ← hnew i hi]
    exact h i hi
  · intro h i hi
    rw [hold i hi, hnew i hi]
    exact h i hi

/-- A replaced row has the key it had. -/
theorem sameKey_replaced (old new other : Row) :
    (old.replaced search new).sameKey search other = old.sameKey search other :=
  sameKey_congr (fun _ key => cell_replaced key) fun _ _ => rfl

theorem sameKey_replaced_right (old new other : Row) :
    other.sameKey search (old.replaced search new) = other.sameKey search old :=
  sameKey_congr (fun _ _ => rfl) fun _ key => cell_replaced key

end Row

end SqlScribe
