import Mathlib.Tactic.Common
import SqlScribe.Document.Reading

/-!
# Documents of some depth

A text is taken apart down to a number of levels, and what lies deeper is refused. So the reading of
a document that is in order has two outcomes: what the document says, or the refusal. Which one it
is depends on the depth of the document only, and readings are put together from those of the parts.
-/

namespace SqlScribe

namespace Json

mutual

/-- How many lists and objects stand inside each other in a document. -/
def levels : Json → Nat
  | array items => levelsOfItems items + 1
  | object members => levelsOfMembers members + 1
  | _ => 0

def levelsOfItems : List Json → Nat
  | [] => 0
  | doc :: rest => max doc.levels (levelsOfItems rest)

def levelsOfMembers : List (String × Json) → Nat
  | [] => 0
  | (_, doc) :: rest => max doc.levels (levelsOfMembers rest)

end

mutual

/-- The document with `room` of its levels taken apart. -/
def upTo : Json → Nat → Source
  | null, _ => .null
  | bool b, _ => .bool b
  | integer n, _ => .integer n
  | real x, _ => .real x
  | string s, _ => .string s
  | array _, 0 => .deep true
  | array items, room + 1 => .array (itemsUpTo items room) none
  | object _, 0 => .deep false
  | object members, room + 1 => .object (membersUpTo members room) none

def itemsUpTo : List Json → Nat → List Source
  | [], _ => []
  | doc :: rest, room => doc.upTo room :: itemsUpTo rest room

def membersUpTo : List (String × Json) → Nat → List (String × Source × Option JsonFault)
  | [], _ => []
  | (name, doc) :: rest, room => (name, doc.upTo room, none) :: membersUpTo rest room

end

theorem itemsUpTo_eq_map (items : List Json) (room : Nat) :
    itemsUpTo items room = items.map (·.upTo room) := by
  induction items with
  | nil => rfl
  | cons doc rest ih => simp only [itemsUpTo, ih, List.map_cons]

theorem membersUpTo_eq_map (members : List (String × Json)) (room : Nat) :
    membersUpTo members room = members.map fun m => (m.1, m.2.upTo room, none) := by
  induction members with
  | nil => rfl
  | cons member rest ih => simp only [membersUpTo, ih, List.map_cons]

mutual

/-- With enough room a document is taken apart as a whole. -/
theorem upTo_of_levels_le : (doc : Json) → (room : Nat) → doc.levels ≤ room →
    doc.upTo room = .ofJson doc
  | null, _, _ | bool _, _, _ | integer _, _, _ | real _, _, _ | string _, _, _ => by
    simp only [upTo, Source.ofJson]
  | array items, 0, enough => by
    simp only [levels] at enough
    omega
  | array items, room + 1, enough => by
    have inside : levelsOfItems items ≤ room := by
      simp only [levels] at enough
      omega
    simp only [upTo, Source.ofJson, itemsUpTo_of_levels_le items room inside]
  | object members, 0, enough => by
    simp only [levels] at enough
    omega
  | object members, room + 1, enough => by
    have inside : levelsOfMembers members ≤ room := by
      simp only [levels] at enough
      omega
    simp only [upTo, Source.ofJson, membersUpTo_of_levels_le members room inside]

theorem itemsUpTo_of_levels_le : (items : List Json) → (room : Nat) → levelsOfItems items ≤ room →
    itemsUpTo items room = Source.ofItems items
  | [], _, _ => rfl
  | doc :: rest, room, enough => by
    simp only [levelsOfItems, Nat.max_le] at enough
    simp only [itemsUpTo, Source.ofItems, upTo_of_levels_le doc room enough.1,
      itemsUpTo_of_levels_le rest room enough.2]

theorem membersUpTo_of_levels_le : (members : List (String × Json)) → (room : Nat) →
    levelsOfMembers members ≤ room → membersUpTo members room = Source.ofMembers members
  | [], _, _ => rfl
  | (_, doc) :: rest, room, enough => by
    simp only [levelsOfMembers, Nat.max_le] at enough
    simp only [membersUpTo, Source.ofMembers, upTo_of_levels_le doc room enough.1,
      membersUpTo_of_levels_le rest room enough.2]

end

theorem levelsOfMembers_le {members : List (String × Json)} {room : Nat} :
    levelsOfMembers members ≤ room ↔ ∀ m ∈ members, m.2.levels ≤ room := by
  induction members with
  | nil => simp [levelsOfMembers]
  | cons member rest ih => rw [levelsOfMembers, Nat.max_le, ih, List.forall_mem_cons]

/-- What is read with enough fuel for its depth is read with some fuel. -/
theorem exists_fuel {doc : Json} {room fuel : Nat} (enough : (doc.upTo room).height ≤ fuel) :
    ∃ less, fuel = less + 1 := by
  have positive : 0 < (doc.upTo room).height := by
    cases doc with
    | array items => cases room <;> exact Nat.succ_pos _
    | object members => cases room <;> exact Nat.succ_pos _
    | _ => exact Nat.succ_pos _
  exact Nat.exists_eq_succ_of_ne_zero (by omega)

theorem height_le_of_mem_items {items : List Source} {doc : Source} (member : doc ∈ items) :
    doc.height ≤ Source.heightOfItems items := by
  induction items with
  | nil => cases member
  | cons first rest ih =>
    simp only [Source.heightOfItems]
    cases member with
    | head => exact Nat.le_max_left _ _
    | tail _ later => exact Nat.le_trans (ih later) (Nat.le_max_right _ _)

theorem height_le_of_mem_members {members : List (String × Source × Option JsonFault)}
    {m : String × Source × Option JsonFault} (member : m ∈ members) :
    m.2.1.height ≤ Source.heightOfMembers members := by
  induction members with
  | nil => cases member
  | cons first rest ih =>
    simp only [Source.heightOfMembers]
    cases member with
    | head => exact Nat.le_max_left _ _
    | tail _ later => exact Nat.le_trans (ih later) (Nat.le_max_right _ _)

/-- Reading comes out at `x` if the document `fits`, and is refused as too deep otherwise. -/
structure Verdict {α : Type} (outcome : Except DocumentFault α) (fits : Prop) (x : α) : Prop where
  accepted : fits → outcome = .ok x
  refused : ¬fits → outcome = .error (.text .tooDeep)

namespace Verdict

variable {α β : Type} {outcome : Except DocumentFault α} {fits other : Prop} {x : α}

theorem of_eq_ok (read : outcome = .ok x) (holds : fits) : Verdict outcome fits x :=
  ⟨fun _ => read, fun fails => absurd holds fails⟩

theorem congr (h : Verdict outcome fits x) (same : fits ↔ other) : Verdict outcome other x :=
  ⟨fun holds => h.accepted (same.mpr holds),
    fun fails => h.refused fun holds => fails (same.mp holds)⟩

theorem bind {next : α → Except DocumentFault β} {y : β} (h : Verdict outcome fits x)
    (rest : next x = .ok y) : Verdict (outcome >>= next) fits y := by
  constructor
  · intro holds
    rw [h.accepted holds]
    exact rest
  · intro fails
    rw [h.refused fails]
    rfl

theorem map (f : α → β) (h : Verdict outcome fits x) : Verdict (outcome.map f) fits (f x) := by
  constructor
  · intro holds
    rw [h.accepted holds]
    rfl
  · intro fails
    rw [h.refused fails]
    rfl

end Verdict

/-- The same for a part of a reading, wherever the part stands. -/
structure Placed.Verdict {α : Type} (p : Placed α) (fits : Prop) (x : α) : Prop where
  accepted : fits → p.outcome = .ok x
  refused : ¬fits → ∃ place, p.outcome = .error (place, .text .tooDeep)

namespace Placed.Verdict

variable {α β : Type} {p : Placed α} {f : Placed (α → β)} {fits others : Prop} {x : α} {g : α → β}

theorem ok (holds : fits) : Placed.Verdict (pure x) fits x :=
  ⟨fun _ => rfl, fun fails => absurd holds fails⟩

theorem congr (h : p.Verdict fits x) (same : fits ↔ others) : p.Verdict others x :=
  ⟨fun holds => h.accepted (same.mpr holds),
    fun fails => h.refused fun holds => fails (same.mp holds)⟩

/-- Two parts are read if both fit; whichever is refused first, it is for the same reason. -/
theorem seq (first : f.Verdict fits g) (second : p.Verdict others x) :
    Placed.Verdict (f <*> p) (fits ∧ others) (g x) := by
  change (f.and p).Verdict (fits ∧ others) (g x)
  constructor
  · rintro ⟨left, right⟩
    simp only [Placed.and, first.accepted left, second.accepted right]
  · intro fails
    by_cases left : fits
    · obtain ⟨place, refused⟩ := second.refused fun right => fails ⟨left, right⟩
      exact ⟨place, by simp only [Placed.and, first.accepted left, refused]⟩
    · obtain ⟨place, refused⟩ := first.refused left
      by_cases right : others
      · exact ⟨place, by simp only [Placed.and, refused, second.accepted right]⟩
      · obtain ⟨later, alsoRefused⟩ := second.refused right
        simp only [Placed.and, refused, alsoRefused]
        split
        · exact ⟨later, rfl⟩
        · exact ⟨place, rfl⟩

theorem map (g : α → β) (h : p.Verdict fits x) : Placed.Verdict (g <$> p) fits (g x) :=
  ((ok trivial : Placed.Verdict (pure g) True g).seq h).congr (iff_of_eq (true_and fits))

theorem within {members : Members} (h : p.Verdict fits x) (clear : members.outside = none) :
    Json.Verdict (p.within members) fits x := by
  constructor
  · intro holds
    simp only [Placed.within, h.accepted holds, clear]
  · intro fails
    obtain ⟨place, refused⟩ := h.refused fails
    simp only [Placed.within, refused, clear]

end Placed.Verdict

/-- The members are those of an object with these contents, and nothing else is wrong with it. -/
structure Members.Hold (members : Members) (docs : List (String × Json)) (room : Nat) : Prop where
  contents : members.known.map (fun m => (m.name, m.content)) =
    docs.map fun d => (d.1, d.2.upTo room)
  clear : members.outside = none
  unlisted : members.listed = none

namespace Members

variable {α : Type} {docs : List (String × Json)} {room : Nat} {names : List String}

theorem contents_knownOf (named : ∀ d ∈ docs, d.1 ∈ names) (place : Nat) :
    (knownOf names [] place (membersUpTo docs room)).map (fun m => (m.name, m.content)) =
      docs.map fun d => (d.1, d.2.upTo room) := by
  induction docs generalizing place with
  | nil => rfl
  | cons d rest ih =>
    rw [List.forall_mem_cons] at named
    have asked : names.contains d.1 = true := List.contains_iff_mem.mpr named.1
    simp only [membersUpTo, knownOf, List.lookup_nil, Option.getD_none, asked, if_true,
      List.map_cons, ih named.2]

theorem outsideOf_eq_none (named : ∀ d ∈ docs, d.1 ∈ names) (place : Nat) :
    outsideOf names [] none place (membersUpTo docs room) = none := by
  induction docs generalizing place with
  | nil => rfl
  | cons d rest ih =>
    rw [List.forall_mem_cons] at named
    have asked : names.contains d.1 = true := List.contains_iff_mem.mpr named.1
    simp only [membersUpTo, outsideOf, List.lookup_nil, Option.getD_none, asked, if_true,
      ih named.2]

/-- An object is read by its members, one level further down. -/
theorem ofSource_verdict {what short : String} {next : Members → Except DocumentFault α} {x : α}
    (named : ∀ d ∈ docs, d.1 ∈ names)
    (rest : ∀ inner members, room = inner + 1 → Hold members docs inner →
      Verdict (next members) (levelsOfMembers docs ≤ inner) x) :
    Verdict (ofSource what short names [] ((Json.object docs).upTo room) >>= next)
      ((Json.object docs).levels ≤ room) x := by
  cases room with
  | zero => exact ⟨fun enough => absurd enough (Nat.not_succ_le_zero _), fun _ => rfl⟩
  | succ inner =>
    have hold : Hold ⟨knownOf names [] 0 (membersUpTo docs inner),
        outsideOf names [] none 0 (membersUpTo docs inner), none⟩ docs inner :=
      ⟨contents_knownOf named 0, outsideOf_eq_none named 0, rfl⟩
    exact (rest inner _ rfl hold).congr Nat.succ_le_succ_iff.symm

variable {members : Members} {name : String} {doc : Json} {reader : Reader α} {fits : Prop} {x : α}

theorem Hold.filter_known (hold : Hold members docs room) (name : String) :
    (members.known.filter (·.name == name)).map (fun m => (m.name, m.content)) =
      (docs.filter (·.1 == name)).map fun d => (d.1, d.2.upTo room) := by
  have found := congrArg (List.filter fun m => m.1 == name) hold.contents
  rw [List.filter_map, List.filter_map] at found
  exact found

end Members

variable {α : Type} {docs : List (String × Json)} {room : Nat} {members : Members} {doc : Json}
  {reader : Reader α} {fits : Prop} {x : α}

theorem optional_absent (hold : members.Hold docs room) (name : String) (reader : Reader α)
    (missing : docs.filter (·.1 == name) = []) :
    (optional members name reader).outcome = .ok none := by
  have found := hold.filter_known name
  rw [missing, List.map_nil, List.map_eq_nil_iff] at found
  simp only [optional, found]
  rfl

theorem optional_verdict (hold : members.Hold docs room) (name : String)
    (only : docs.filter (·.1 == name) = [(name, doc)])
    (read : Verdict (reader (doc.upTo room)) fits x) :
    (optional members name reader).Verdict fits (some x) := by
  have found := hold.filter_known name
  rw [only, List.map_singleton, List.map_eq_singleton_iff] at found
  obtain ⟨member, found, same⟩ := found
  have content : member.content = doc.upTo room := congrArg Prod.snd same
  constructor
  · intro holds
    simp only [optional, found, content, read.accepted holds]
    rfl
  · intro fails
    refine ⟨member.place, ?_⟩
    simp only [optional, found, content, read.refused fails]
    rfl

theorem required_verdict (hold : members.Hold docs room) (name : String)
    (only : docs.filter (·.1 == name) = [(name, doc)])
    (read : Verdict (reader (doc.upTo room)) fits x) :
    (required members name reader).Verdict fits x := by
  have member := optional_verdict hold name only read
  constructor
  · intro holds
    simp only [required, member.accepted holds]
    rfl
  · intro fails
    obtain ⟨place, refused⟩ := member.refused fails
    refine ⟨place, ?_⟩
    simp only [required, refused]
    rfl

theorem orDefault_verdict (fallback : α) (hold : members.Hold docs room) (name : String)
    (only : docs.filter (·.1 == name) = [(name, doc)])
    (read : Verdict (reader (doc.upTo room)) fits x) :
    (orDefault members name fallback reader).Verdict fits x :=
  (optional_verdict hold name only read).map fun found : Option α => found.getD fallback

theorem orDefault_absent (fallback : α) (reader : Reader α) (hold : members.Hold docs room)
    (name : String) (missing : docs.filter (·.1 == name) = []) :
    (orDefault members name fallback reader).Verdict True fallback :=
  (⟨fun _ => optional_absent hold name reader missing, fun fails => absurd trivial fails⟩ :
    (optional members name reader).Verdict True none).map
      fun found : Option α => found.getD fallback

/-- A document other than `null` is read as what it is. -/
theorem orNull_verdict (something : doc ≠ .null) (read : Verdict (reader (doc.upTo room)) fits x) :
    Verdict (orNull reader (doc.upTo room)) fits (some x) := by
  have passed : orNull reader (doc.upTo room) = (reader (doc.upTo room)).map some := by
    cases doc with
    | null => exact absurd rfl something
    | array items => cases room <;> rfl
    | object members => cases room <;> rfl
    | _ => rfl
  rw [passed]
  exact read.map some

theorem orNone_verdict (hold : members.Hold docs room) (name : String)
    (only : docs.filter (·.1 == name) = [(name, doc)]) (something : doc ≠ .null)
    (read : Verdict (reader (doc.upTo room)) fits x) :
    (orNone members name reader).Verdict fits (some x) :=
  orDefault_verdict none hold name only (orNull_verdict something read)

/-- A member that may be missing is read as what it is. -/
theorem orNone_field {y : Option α} {toDoc : α → Json} (hold : members.Hold docs room)
    (name : String) (only : docs.filter (·.1 == name) = (y.map toDoc).toList.map (name, ·))
    (something : ∀ a, toDoc a ≠ .null)
    (read : ∀ a, y = some a → Verdict (reader ((toDoc a).upTo room)) ((toDoc a).levels ≤ room) a) :
    (orNone members name reader).Verdict (∀ doc ∈ (y.map toDoc).toList, doc.levels ≤ room) y := by
  cases y with
  | none => exact (orDefault_absent none _ hold name only).congr (by simp)
  | some a => exact (orNone_verdict hold name only (something a) (read a rfl)).congr (by simp)

/-- A list that is left out where it is empty is read as what it is. -/
theorem orEmpty_field {xs : List α} {reader : Reader (List α)} (hold : members.Hold docs room)
    (name : String)
    (only : docs.filter (·.1 == name) = (if xs.isEmpty then [] else [doc]).map (name, ·))
    (read : Verdict (reader (doc.upTo room)) (doc.levels ≤ room) xs) :
    (orDefault members name [] reader).Verdict
      (∀ d ∈ (if xs.isEmpty then [] else [doc]), d.levels ≤ room) xs := by
  cases xs with
  | nil => exact (orDefault_absent [] _ hold name only).congr (by simp)
  | cons x rest => exact (orDefault_verdict [] hold name only read).congr (by simp)

theorem orNone_absent (reader : Reader α) (hold : members.Hold docs room) (name : String)
    (missing : docs.filter (·.1 == name) = []) :
    (orNone members name reader).Verdict True none := orDefault_absent none _ hold name missing

theorem orNone_null (hold : members.Hold docs room) (name : String)
    (only : docs.filter (·.1 == name) = [(name, .null)]) :
    (orNone members name reader).Verdict True none :=
  orDefault_verdict none hold name only (.of_eq_ok rfl trivial)

theorem orAbsent_eq_orNone (hold : members.Hold docs room) (name : String) (reader : Reader α) :
    orAbsent members name reader = orNone members name reader := by
  rw [orAbsent, hold.unlisted]
  rfl

/-- The members of an object whose members may be missing. -/
def membersOfFields (fields : List (String × List Json)) : List (String × Json) :=
  fields.flatMap fun field => field.2.map (field.1, ·)

theorem filter_membersOfFields_absent {fields : List (String × List Json)} {name : String}
    (missing : name ∉ fields.map Prod.fst) :
    (membersOfFields fields).filter (·.1 == name) = [] := by
  rw [List.filter_eq_nil_iff]
  intro m inside same
  obtain ⟨field, among, inside⟩ := List.mem_flatMap.mp inside
  obtain ⟨doc, -, rfl⟩ := List.mem_map.mp inside
  exact missing (eq_of_beq same ▸ List.mem_map_of_mem among)

theorem filter_membersOfFields {fields : List (String × List Json)}
    (distinct : (fields.map Prod.fst).Nodup) {name : String} {contents : List Json}
    (member : (name, contents) ∈ fields) :
    (membersOfFields fields).filter (·.1 == name) = contents.map (name, ·) := by
  induction fields with
  | nil => cases member
  | cons field rest ih =>
    rw [List.map_cons, List.nodup_cons] at distinct
    rw [membersOfFields, List.flatMap_cons, List.filter_append]
    obtain rfl | later := List.mem_cons.mp member
    · have own : (contents.map (name, ·)).filter (·.1 == name) = contents.map (name, ·) := by
        rw [List.filter_eq_self]
        intro m inside
        obtain ⟨doc, -, rfl⟩ := List.mem_map.mp inside
        exact beq_self_eq_true name
      have others : (membersOfFields rest).filter (·.1 == name) = [] :=
        filter_membersOfFields_absent distinct.1
      rw [membersOfFields] at others
      rw [own, others, List.append_nil]
    · have other : (field.2.map (field.1, ·)).filter (·.1 == name) = [] := by
        rw [List.filter_eq_nil_iff]
        intro m inside same
        obtain ⟨doc, -, rfl⟩ := List.mem_map.mp inside
        exact distinct.1 (eq_of_beq same ▸ List.mem_map_of_mem later)
      rw [other, List.nil_append]
      exact ih distinct.2 later

theorem levelsOfMembers_membersOfFields {fields : List (String × List Json)} {room : Nat} :
    levelsOfMembers (membersOfFields fields) ≤ room ↔
      ∀ field ∈ fields, ∀ doc ∈ field.2, doc.levels ≤ room := by
  rw [levelsOfMembers_le]
  constructor
  · intro all field among doc inside
    exact all (field.1, doc) (List.mem_flatMap.mpr ⟨field, among, List.mem_map_of_mem inside⟩)
  · intro all m inside
    obtain ⟨field, among, named⟩ := List.mem_flatMap.mp inside
    obtain ⟨doc, content, rfl⟩ := List.mem_map.mp named
    exact all field among doc content

/-- A thing of a kind with content is read from its content, one level further down. -/
theorem readTagged_verdict {known records : List String} {inside : String → Reader α}
    {name : String} (listed : name ∈ known)
    (read : ∀ inner, room = inner + 1 →
      Verdict (inside name (doc.upTo inner)) (doc.levels ≤ inner) x) :
    Verdict (readTagged known records inside ((Json.object [(name, doc)]).upTo room))
      ((Json.object [(name, doc)]).levels ≤ room) x := by
  cases room with
  | zero => exact ⟨fun enough => absurd enough (Nat.not_succ_le_zero _), fun _ => rfl⟩
  | succ inner =>
    have asked : known.contains name = true := List.contains_iff_mem.mpr listed
    have body := @Verdict.bind _ _ _ _ _ (fun value => .ok value) _ (read inner rfl) rfl
    simp only [upTo, membersUpTo, readTagged, readVariant, asked, if_true]
    apply body.congr
    simp only [levels, levelsOfMembers, Nat.max_zero, Nat.add_le_add_iff_right]

theorem mapM_verdict {β : Type} {reader : Reader β} {toDoc : β → Json} {xs : List β}
    (read : ∀ y ∈ xs, Verdict (reader ((toDoc y).upTo room)) ((toDoc y).levels ≤ room) y) :
    Verdict ((itemsUpTo (xs.map toDoc) room).mapM reader) (levelsOfItems (xs.map toDoc) ≤ room)
      xs := by
  induction xs with
  | nil => exact .of_eq_ok rfl (Nat.zero_le _)
  | cons y rest ih =>
    rw [List.forall_mem_cons] at read
    have later := ih read.2
    simp only [List.map_cons, itemsUpTo, List.mapM_cons, levelsOfItems, Nat.max_le]
    constructor
    · rintro ⟨first, others⟩
      rw [read.1.accepted first, later.accepted others]
      rfl
    · intro fails
      by_cases first : (toDoc y).levels ≤ room
      · rw [read.1.accepted first, later.refused fun others => fails ⟨first, others⟩]
        rfl
      · rw [read.1.refused first]
        rfl

/-- A list is read item by item, one level further down. -/
theorem readList_verdict {β : Type} {reader : Reader β} {toDoc : β → Json} {xs : List β}
    (read : ∀ inner, room = inner + 1 → ∀ y ∈ xs,
      Verdict (reader ((toDoc y).upTo inner)) ((toDoc y).levels ≤ inner) y) :
    Verdict (readList reader ((Json.array (xs.map toDoc)).upTo room))
      ((Json.array (xs.map toDoc)).levels ≤ room) xs := by
  cases room with
  | zero => exact ⟨fun enough => absurd enough (Nat.not_succ_le_zero _), fun _ => rfl⟩
  | succ inner =>
    simp only [upTo, readList]
    exact ((mapM_verdict (read inner rfl)).bind rfl).congr Nat.succ_le_succ_iff.symm

/-- Items that are read with enough fuel for their depth are read with what is enough for the
list. -/
theorem readList_verdict_of_height {β : Type} {reader : Reader β} {toDoc : β → Json} {xs : List β}
    {fuel : Nat} (enough : ((Json.array (xs.map toDoc)).upTo room).height ≤ fuel)
    (read : ∀ y ∈ xs, ∀ {inner : Nat}, ((toDoc y).upTo inner).height ≤ fuel →
      Verdict (reader ((toDoc y).upTo inner)) ((toDoc y).levels ≤ inner) y) :
    Verdict (readList reader ((Json.array (xs.map toDoc)).upTo room))
      ((Json.array (xs.map toDoc)).levels ≤ room) xs := by
  apply readList_verdict
  rintro inner rfl y member
  apply read y member
  have inside : ((toDoc y).upTo inner).height ≤
      Source.heightOfItems (itemsUpTo (xs.map toDoc) inner) := by
    apply height_le_of_mem_items
    rw [itemsUpTo_eq_map, List.map_map]
    exact List.mem_map_of_mem member
  simp only [upTo, Source.height] at enough
  omega

/-- A name stands for what it is the name of. -/
theorem readName_eq_ok {ofName? : String → Option α} {known : List String} {name : String}
    (listed : name ∈ known)
    (named : ofName? name = some x) : readName ofName? known (.string name) = .ok x := by
  have asked : known.contains name = true := List.contains_iff_mem.mpr listed
  simp only [readName, readVariant, asked, if_true, named]

end Json

end SqlScribe
