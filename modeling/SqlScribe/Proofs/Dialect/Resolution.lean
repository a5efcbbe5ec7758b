import SqlScribe.Dialect.Registry
import SqlScribe.Proofs.Text.Pieces

/-!
# What a name stands for in a registry

The two tables of a registry are told by the calls that it accepted: a name stands for the dialect
that was registered under it, or, if the last call of that name was for an alias, for the one that
was registered last under the target. A target is never forgotten, so that a name which is known
stays known. In the built-in registry the names are those that are parsed.
-/

namespace SqlScribe

open SqlScribe.Text

namespace Named

variable {α : Type}

theorem get?_cons (other : String) (present : α) (rest : Named α) (key : String) :
    get? ((other, present) :: rest) key = if key = other then some present else get? rest key := by
  rw [get?, List.lookup_cons]
  by_cases same : key = other
  · rw [beq_iff_eq.mpr same, if_pos same]
  · rw [beq_false_of_ne same, if_neg same, get?]

/-- A name that is put in is found, and nothing changes for the others. -/
theorem get?_insert (name : String) (value : α) (entries : Named α) (key : String) :
    get? (insert name value entries) key = if key = name then some value else get? entries key := by
  induction entries with
  | nil => exact get?_cons name value [] key
  | cons entry rest ih =>
    obtain ⟨other, present⟩ := entry
    rw [insert]
    split
    · rename_i same
      rw [get?_cons, get?_cons, same]
      split <;> rfl
    · rename_i different
      split
      · exact get?_cons name value _ key
      · rw [get?_cons, get?_cons, ih]
        by_cases here : key = other
        · rw [if_pos here, if_pos here, if_neg (here ▸ Ne.symm different)]
        · rw [if_neg here, if_neg here]

/-- A name that is taken away is not found, and nothing changes for the others. -/
theorem get?_erase (name : String) (entries : Named α) (key : String) :
    get? (erase name entries) key = if key = name then none else get? entries key := by
  induction entries with
  | nil => rw [erase, List.filter_nil, get?, List.lookup_nil, ite_self]
  | cons entry rest ih =>
    obtain ⟨other, present⟩ := entry
    rw [erase] at ih ⊢
    rw [List.filter_cons, get?_cons]
    by_cases same : other = name
    · rw [if_neg (by simp [same]), ih]
      by_cases here : key = name
      · rw [if_pos here, if_pos here]
      · rw [if_neg here, if_neg here, if_neg (same ▸ here)]
    · rw [if_pos (by simp [same]), get?_cons, ih]
      by_cases here : key = other
      · rw [if_pos here, if_pos here, if_neg (here ▸ same)]
      · rw [if_neg here, if_neg here]

end Named

theorem Builtin.mem_all (b : Builtin) : b ∈ all := by cases b <;> decide

namespace Registry

/-- The name without the blanks at its ends, in letters of any case and between any blanks. -/
def Respelled (name s : String) : Prop :=
  ∃ before word after, s = before ++ word ++ after ∧ isAllBlank before = true ∧
    isAllBlank after = true ∧ sameName word (trim name) = true

theorem respelled_iff {name s : String} : Respelled name s ↔ keyOf s = keyOf name := by
  constructor
  · rintro ⟨before, word, after, rfl, first, last, same⟩
    have trimmed : trim (before ++ word ++ after) = trim word := by
      rw [trim, String.toList_append, String.toList_append,
        strip_between (List.all_eq_true.mp first) (List.all_eq_true.mp last), trim]
    have lowered : lowerLetters word = keyOf name := beq_iff_eq.mp same
    calc keyOf (before ++ word ++ after) = lowerLetters (trim word) := congrArg lowerLetters trimmed
      _ = trim (keyOf name) := by rw [← trim_lowerLetters, lowered]
      _ = keyOf name := by rw [keyOf, trim_lowerLetters, trim_trim]
  · intro same
    obtain ⟨before, after, whole, first, last⟩ := exists_strip isBlank s.toList
    refine ⟨.ofList before, trim s, .ofList after, ?_, ?_, ?_, beq_iff_eq.mpr same⟩
    · apply String.toList_inj.mp
      rw [String.toList_append, String.toList_append, trim, String.toList_ofList,
        String.toList_ofList, String.toList_ofList, ← whole]
    · rw [isAllBlank, String.toList_ofList]
      exact List.all_eq_true.mpr first
    · rw [isAllBlank, String.toList_ofList]
      exact List.all_eq_true.mpr last

/-- What is asked of a registry. -/
inductive Call
  | register (name : String) (d : Dialect)
  | addAlias (byname target : String)

namespace Call

/-- The name to which a call gives a meaning. -/
def name : Call → String
  | register name _ => name
  | addAlias byname _ => byname

/-- The dialect that a call puts under a key. -/
def registered? (key : String) : Call → Option Dialect
  | register name d => if keyOf name = key then some d else none
  | addAlias _ _ => none

/-- The key that a call lets a name stand for. -/
def target? : Call → Option String
  | register _ _ => none
  | addAlias _ target => some (keyOf target)

end Call

/-- The registry after a call that is accepted. -/
def perform (r : Registry) : Call → Except Fault Registry
  | .register name d => .ok (r.register name d)
  | .addAlias byname target => r.addAlias byname target

/-- The names by which a built-in dialect goes. -/
def builtinNames (b : Builtin) : List String := b.key :: b.aliases

/-- The calls that make a built-in dialect known. -/
def builtinCalls (b : Builtin) : List Call :=
  .register b.key b.dialect :: b.aliases.map (.addAlias · b.key)

/-- The calls that make all built-in dialects known, the latest first. -/
def builtinLog : List Call := (Builtin.all.flatMap builtinCalls).reverse

/-- The registries that calls lead to, each with the calls that were accepted, the latest first. -/
inductive Run : List Call → Registry → Prop
  | empty : Run [] .empty
  | builtin : Run builtinLog .builtin
  | accepted {log : List Call} {r r' : Registry} {call : Call} (before : Run log r)
      (made : r.perform call = .ok r') : Run (call :: log) r'
  | refused {log : List Call} {r : Registry} {call : Call} {fault : Fault} (before : Run log r)
      (failed : r.perform call = .error fault) : Run log r

/-- The last call that registers a name registers this dialect. -/
def LastRegistered (log : List Call) (name : String) (d : Dialect) : Prop :=
  ∃ later other earlier, log = later ++ .register other d :: earlier ∧ Respelled name other ∧
    ∀ another d', .register another d' ∈ later → ¬ Respelled name another

/-- The last call that gives a meaning to a key. -/
def lastNaming (log : List Call) (key : String) : Option Call :=
  log.find? (keyOf ·.name == key)

variable {log : List Call} {r r' : Registry} {name s : String} {d : Dialect}

theorem registered?_register {key : String} (same : keyOf name = key) :
    (Call.register name d).registered? key = some d := if_pos same

theorem exists_of_registered? {call : Call} {key : String} (found : call.registered? key = some d) :
    ∃ name, call = .register name d ∧ keyOf name = key := by
  cases call with
  | register name d' =>
    by_cases same : keyOf name = key
    · rw [registered?_register same] at found
      cases found
      exact ⟨name, rfl, same⟩
    · cases (if_neg same).symm.trans found
  | addAlias byname target => cases found

theorem registered?_of_ne {call : Call} {key : String} (other : keyOf call.name ≠ key) :
    call.registered? key = none := by
  rw [Option.eq_none_iff_forall_ne_some]
  intro d found
  obtain ⟨name, rfl, same⟩ := exists_of_registered? found
  exact other same

theorem lastRegistered_iff :
    LastRegistered log name d ↔ log.findSome? (Call.registered? (keyOf name)) = some d := by
  rw [List.findSome?_eq_some_iff]
  constructor
  · rintro ⟨later, other, earlier, rfl, same, silent⟩
    have here := registered?_register (d := d) (respelled_iff.mp same)
    refine ⟨later, .register other d, earlier, rfl, here, fun call member => ?_⟩
    rw [Option.eq_none_iff_forall_ne_some]
    intro d' found
    obtain ⟨another, rfl, same'⟩ := exists_of_registered? found
    exact silent another d' member (respelled_iff.mpr same')
  · rintro ⟨later, call, earlier, rfl, here, silent⟩
    obtain ⟨other, rfl, same⟩ := exists_of_registered? here
    refine ⟨later, other, earlier, rfl, respelled_iff.mpr same, ?_⟩
    intro another d' member same'
    have found := registered?_register (d := d') (respelled_iff.mp same')
    cases (silent (.register another d') member).symm.trans found

theorem addAlias_eq_ok {byname target : String} :
    r.addAlias byname target = .ok r' ↔ (Named.get? r.dialects (keyOf target)).isSome = true ∧
      r' = { r with aliases := Named.insert (keyOf byname) (keyOf target) r.aliases } := by
  unfold addAlias
  cases Named.get? r.dialects (keyOf target) with
  | none => simp
  | some d => simp [eq_comm]

/-- The names of the built-in dialects are written as they are registered. -/
theorem keyOf_of_mem_builtinNames {b : Builtin} (member : name ∈ builtinNames b) :
    keyOf name = name := by
  have plain : (builtinNames b).all (fun name => keyOf name == name) = true := by
    cases b <;> decide +kernel
  exact beq_iff_eq.mp (List.all_eq_true.mp plain name member)

/-- What a registry holds, told by the calls it accepted: under each key the dialect registered
last, and a target if the last call of that name was for an alias. -/
structure Logged (log : List Call) (r : Registry) : Prop where
  dialects : ∀ key, Named.get? r.dialects key = log.findSome? (Call.registered? key)
  aliases : ∀ key, Named.get? r.aliases key = (lastNaming log key).bind Call.target?
  targets : ∀ key target, Named.get? r.aliases key = some target →
    (Named.get? r.dialects target).isSome = true

namespace Logged

variable {call : Call}

theorem empty : Logged [] .empty := ⟨fun _ => rfl, fun _ => rfl, fun _ _ none => by cases none⟩

theorem register (h : Logged log r) (name : String) (d : Dialect) :
    Logged (.register name d :: log) (r.register name d) := by
  constructor
  · intro key
    rw [Registry.register, Named.get?_insert, List.findSome?_cons, Call.registered?]
    by_cases same : key = keyOf name
    · rw [if_pos same, if_pos same.symm]
    · rw [if_neg same, if_neg (Ne.symm same), h.dialects key]
  · intro key
    rw [Registry.register, Named.get?_erase, lastNaming, List.find?_cons, Call.name]
    by_cases same : key = keyOf name
    · rw [if_pos same, beq_iff_eq.mpr same.symm]
      rfl
    · rw [if_neg same, beq_false_of_ne (Ne.symm same), h.aliases key, lastNaming]
  · intro key target standing
    rw [Registry.register, Named.get?_erase] at standing
    rw [Registry.register, Named.get?_insert]
    split at standing
    · cases standing
    · split
      · rfl
      · exact h.targets key target standing

theorem addAlias (h : Logged log r) (byname : String) {target : String}
    (known : (Named.get? r.dialects (keyOf target)).isSome = true) :
    Logged (.addAlias byname target :: log)
      { r with aliases := Named.insert (keyOf byname) (keyOf target) r.aliases } := by
  constructor
  · intro key
    rw [List.findSome?_cons, Call.registered?, h.dialects key]
  · intro key
    rw [Named.get?_insert, lastNaming, List.find?_cons, Call.name]
    by_cases same : key = keyOf byname
    · rw [if_pos same, beq_iff_eq.mpr same.symm]
      rfl
    · rw [if_neg same, beq_false_of_ne (Ne.symm same), h.aliases key, lastNaming]
  · intro key other standing
    rw [Named.get?_insert] at standing
    split at standing
    · cases standing
      exact known
    · exact h.targets key other standing

theorem accepted (h : Logged log r) (made : r.perform call = .ok r') : Logged (call :: log) r' := by
  cases call with
  | register name d =>
    cases made
    exact h.register name d
  | addAlias byname target =>
    obtain ⟨known, rfl⟩ := addAlias_eq_ok.mp made
    exact h.addAlias byname known

/-- Names as they are registered get a meaning one after the other. -/
theorem standFor (h : Logged log r) {key : String} (plainKey : keyOf key = key)
    (known : (Named.get? r.dialects key).isSome = true) (names : List String)
    (plain : ∀ name ∈ names, keyOf name = name) :
    Logged ((names.map (.addAlias · key)).reverse ++ log)
      { r with aliases := names.foldl (fun aliases name => Named.insert name key aliases)
                            r.aliases } := by
  induction names generalizing log r with
  | nil => exact h
  | cons name rest ih =>
    obtain ⟨here, others⟩ := List.forall_mem_cons.mp plain
    have target : (Named.get? r.dialects (keyOf key)).isSome = true := by rwa [plainKey]
    have first := h.addAlias name target
    rw [here, plainKey] at first
    rw [List.map_cons, List.reverse_cons, List.append_assoc, List.foldl_cons]
    exact ih first known others

theorem addBuiltin (h : Logged log r) (b : Builtin) :
    Logged ((builtinCalls b).reverse ++ log) (r.addBuiltin b) := by
  have first := h.register b.key b.dialect
  have plainKey : keyOf b.key = b.key := keyOf_of_mem_builtinNames List.mem_cons_self
  have known : (Named.get? (r.register b.key b.dialect).dialects b.key).isSome = true := by
    rw [Registry.register, Named.get?_insert, plainKey, if_pos rfl]
    rfl
  rw [builtinCalls, List.reverse_cons, List.append_assoc]
  exact first.standFor plainKey known b.aliases fun name member =>
    keyOf_of_mem_builtinNames (List.mem_cons_of_mem b.key member)

theorem builtin : Logged builtinLog .builtin := by
  -- The induction is on the dialects that are still to be added, to whatever is there.
  have added (bs : List Builtin) {log : List Call} {r : Registry} (h : Logged log r) :
      Logged ((bs.flatMap builtinCalls).reverse ++ log) (bs.foldl Registry.addBuiltin r) := by
    induction bs generalizing log r with
    | nil => exact h
    | cons b rest ih =>
      rw [List.flatMap_cons, List.reverse_append, List.append_assoc]
      exact ih (h.addBuiltin b)
  have whole := added Builtin.all empty
  rwa [List.append_nil] at whole

end Logged

theorem Run.logged (h : Run log r) : Logged log r := by
  induction h with
  | empty => exact .empty
  | builtin => exact .builtin
  | accepted _ made ih => exact ih.accepted made
  | refused _ _ ih => exact ih

theorem get_eq_ok : r.get s = .ok d ↔
    Named.get? r.dialects ((Named.get? r.aliases (keyOf s)).getD (keyOf s)) = some d := by
  rw [get]
  cases Named.get? r.dialects ((Named.get? r.aliases (keyOf s)).getD (keyOf s)) <;> simp

theorem get_eq_error
    (missing : Named.get? r.dialects ((Named.get? r.aliases (keyOf s)).getD (keyOf s)) = none) :
    r.get s = .error (.invalid (.unknownDialect s)) := by
  rw [get, missing]

/-- A dialect that has just been registered is what its name stands for, be it an alias before. -/
theorem get_register (same : Respelled name s) : (r.register name d).get s = .ok d := by
  rw [get_eq_ok, register, respelled_iff.mp same, Named.get?_erase, if_pos rfl, Option.getD_none,
    Named.get?_insert, if_pos rfl]

theorem mem_of_lastNaming {call : Call} {key : String} (latest : lastNaming log key = some call) :
    call ∈ log ∧ keyOf call.name = key := by
  unfold lastNaming at latest
  exact ⟨List.mem_of_find?_eq_some latest, by simpa using List.find?_some latest⟩

namespace Logged

theorem get_of_unnamed (h : Logged log r) (unnamed : lastNaming log (keyOf s) = none) :
    r.get s = .error (.invalid (.unknownDialect s)) := by
  apply get_eq_error
  rw [h.aliases, unnamed, Option.bind_none, Option.getD_none, h.dialects,
    List.findSome?_eq_none_iff]
  intro call member
  apply registered?_of_ne
  simpa using List.find?_eq_none.mp unnamed call member

theorem get_of_registered (h : Logged log r)
    (latest : lastNaming log (keyOf s) = some (.register name d)) : r.get s = .ok d := by
  rw [get_eq_ok, h.aliases, latest, Option.bind_some, Call.target?, Option.getD_none, h.dialects,
    List.findSome?_eq_some_iff]
  obtain ⟨same, later, earlier, whole, unnamed⟩ := List.find?_eq_some_iff_append.mp latest
  refine ⟨later, .register name d, earlier, whole, registered?_register (beq_iff_eq.mp same), ?_⟩
  intro call member
  apply registered?_of_ne
  simpa using unnamed call member

theorem get_of_alias (h : Logged log r) {byname target : String}
    (latest : lastNaming log (keyOf s) = some (.addAlias byname target)) :
    (∃ d, r.get s = .ok d) ∧ ∀ d, r.get s = .ok d ↔ LastRegistered log target d := by
  have standing : Named.get? r.aliases (keyOf s) = some (keyOf target) := by
    rw [h.aliases, latest]
    rfl
  constructor
  · obtain ⟨d, known⟩ := Option.isSome_iff_exists.mp (h.targets _ _ standing)
    refine ⟨d, get_eq_ok.mpr ?_⟩
    rwa [standing, Option.getD_some]
  · intro d
    rw [get_eq_ok, standing, Option.getD_some, h.dialects, lastRegistered_iff]

/-- An alias is accepted if its target has been registered. -/
theorem exists_addAlias (h : Logged log r) (member : .register name d ∈ log) {target : String}
    (same : keyOf name = keyOf target) {byname : String} :
    ∃ r', r.addAlias byname target = .ok r' := by
  have known : (Named.get? r.dialects (keyOf target)).isSome = true := by
    rw [h.dialects, List.findSome?_isSome_iff]
    have found := registered?_register (d := d) same
    exact ⟨.register name d, member, Option.isSome_of_eq_some found⟩
  exact ⟨_, addAlias_eq_ok.mpr ⟨known, rfl⟩⟩

/-- A name stands for something exactly if some call gave it a meaning. -/
theorem exists_get_iff (h : Logged log r) :
    (∃ d, r.get s = .ok d) ↔ ∃ call ∈ log, Respelled call.name s := by
  -- The last call of the name decides; without one there is no call of the name at all.
  cases latest : lastNaming log (keyOf s) with
  | none =>
    rw [h.get_of_unnamed latest]
    constructor
    · rintro ⟨d, none⟩
      cases none
    · rintro ⟨call, member, same⟩
      exact absurd (beq_iff_eq.mpr (respelled_iff.mp same).symm)
        (List.find?_eq_none.mp latest call member)
  | some call =>
    obtain ⟨member, named⟩ := mem_of_lastNaming latest
    have listed : ∃ call ∈ log, Respelled call.name s :=
      ⟨call, member, respelled_iff.mpr named.symm⟩
    refine iff_of_true ?_ listed
    cases call with
    | register name d => exact ⟨d, h.get_of_registered latest⟩
    | addAlias byname target => exact (h.get_of_alias latest).1

end Logged

/-- No name goes for two built-in dialects. -/
theorem builtin_unique {b c : Builtin} (first : name ∈ builtinNames b)
    (second : name ∈ builtinNames c) : b = c := by
  have apart : b = c ∨
      (builtinNames b).all (fun name => !(builtinNames c).contains name) = true := by
    cases b <;> cases c <;> decide +kernel
  obtain same | apart := apart
  · exact same
  · have outside := List.all_eq_true.mp apart name first
    rw [List.contains_iff_mem.mpr second] at outside
    cases outside

theorem mem_builtinLog {call : Call} : call ∈ builtinLog ↔ ∃ b : Builtin,
    call = .register b.key b.dialect ∨ ∃ name ∈ b.aliases, call = .addAlias name b.key := by
  simp only [builtinLog, List.mem_reverse, List.mem_flatMap, builtinCalls, List.mem_cons,
    List.mem_map, Builtin.mem_all, true_and, @eq_comm _ _ call]

/-- Each call that makes a built-in dialect known gives a meaning to one of its names. -/
theorem exists_builtin {call : Call} (member : call ∈ builtinLog) :
    ∃ b, keyOf call.name ∈ builtinNames b ∧
      (call = .register b.key b.dialect ∨ ∃ name, call = .addAlias name b.key) := by
  obtain ⟨b, registers | ⟨name, listed, stands⟩⟩ := mem_builtinLog.mp member
  · have first : b.key ∈ builtinNames b := List.mem_cons_self
    refine ⟨b, ?_, .inl registers⟩
    rwa [registers, Call.name, keyOf_of_mem_builtinNames first]
  · have other : name ∈ builtinNames b := List.mem_cons_of_mem b.key listed
    refine ⟨b, ?_, .inr ⟨name, stands⟩⟩
    rwa [stands, Call.name, keyOf_of_mem_builtinNames other]

theorem dialect_of_lastRegistered {b : Builtin} (last : LastRegistered builtinLog b.key d) :
    d = b.dialect := by
  obtain ⟨later, other, earlier, whole, same, -⟩ := last
  have listed : .register other d ∈ builtinLog := by
    rw [whole]
    exact List.mem_append_right later List.mem_cons_self
  have first : b.key ∈ builtinNames b := List.mem_cons_self
  obtain ⟨c, goesBy, registers | ⟨name, stands⟩⟩ := exists_builtin listed
  · rw [Call.name, respelled_iff.mp same, keyOf_of_mem_builtinNames first] at goesBy
    cases registers
    rw [builtin_unique first goesBy]
  · cases stands

theorem exists_call {b : Builtin} (goesBy : name ∈ builtinNames b) :
    ∃ call ∈ builtinLog, call.name = name := by
  obtain rfl | other := List.mem_cons.mp goesBy
  · exact ⟨.register b.key b.dialect, mem_builtinLog.mpr ⟨b, .inl rfl⟩, rfl⟩
  · exact ⟨.addAlias name b.key, mem_builtinLog.mpr ⟨b, .inr ⟨name, other, rfl⟩⟩, rfl⟩

theorem parse_eq (s : String) : Builtin.parse s =
    (Builtin.all.find? fun b => (builtinNames b).contains (keyOf s)).elim
      (.error (.invalid (.unknownDialect s))) .ok := by
  have goesBy (b : Builtin) : (builtinNames b).contains (lowerLetters (trim s)) =
      (b.key == lowerLetters (trim s) || b.aliases.contains (lowerLetters (trim s))) := by
    rw [builtinNames, List.contains_cons, Bool.beq_comm]
  simp only [Builtin.parse, keyOf, goesBy]
  cases Builtin.all.find? _ <;> rfl

theorem parse_of_mem {b : Builtin} (goesBy : keyOf s ∈ builtinNames b) :
    Builtin.parse s = .ok b := by
  rw [parse_eq]
  cases found : Builtin.all.find? fun b => (builtinNames b).contains (keyOf s) with
  | none =>
    exact absurd (List.contains_iff_mem.mpr goesBy) (List.find?_eq_none.mp found b b.mem_all)
  | some c =>
    have named : keyOf s ∈ builtinNames c := by simpa using List.find?_some found
    rw [builtin_unique named goesBy]
    rfl

theorem parse_of_unknown (unknown : ∀ b, keyOf s ∉ builtinNames b) :
    Builtin.parse s = .error (.invalid (.unknownDialect s)) := by
  have missing : Builtin.all.find? (fun b => (builtinNames b).contains (keyOf s)) = none :=
    List.find?_eq_none.mpr fun b _ found => unknown b (List.contains_iff_mem.mp found)
  rw [parse_eq, missing]
  rfl

/-- The built-in registry knows the names that are parsed, and no others. -/
theorem get_builtin (s : String) : builtin.get s = (Builtin.parse s).map Builtin.dialect := by
  cases latest : lastNaming builtinLog (keyOf s) with
  | none =>
    have unknown (b : Builtin) : keyOf s ∉ builtinNames b := by
      intro goesBy
      obtain ⟨call, member, named⟩ := exists_call goesBy
      apply List.find?_eq_none.mp latest call member
      rw [named, keyOf_of_mem_builtinNames goesBy, beq_self_eq_true]
    rw [Logged.builtin.get_of_unnamed latest, parse_of_unknown unknown]
    rfl
  | some call =>
    obtain ⟨member, named⟩ := mem_of_lastNaming latest
    obtain ⟨b, goesBy, rfl | ⟨name, rfl⟩⟩ := exists_builtin member
    · rw [Logged.builtin.get_of_registered latest, parse_of_mem (named ▸ goesBy)]
      rfl
    · obtain ⟨⟨d, found⟩, last⟩ := Logged.builtin.get_of_alias latest
      rw [found, parse_of_mem (named ▸ goesBy), dialect_of_lastRegistered ((last d).mp found)]
      rfl

/-- Whatever was registered and aliased, in an empty registry or in the built-in one, a name stands
for a dialect exactly if some call gave it a meaning, however it is spelled. A dialect that has just
been registered is what its name stands for, and an alias stands for what was last registered under
its target until its name gets another meaning. The built-in registry and the parser of names know
the same names, and the same dialects by them. -/
theorem Run.names_resolve (h : Run log r) :
    (∀ s, (∃ d, r.get s = .ok d) ↔ ∃ call ∈ log, Respelled call.name s) ∧
      (∀ name d s, Respelled name s → (r.register name d).get s = .ok d) ∧
      (∀ later name target earlier, log = later ++ .addAlias name target :: earlier →
        (∀ call ∈ later, ¬ Respelled name call.name) → ∀ s, Respelled name s →
          ∀ d, r.get s = .ok d ↔ LastRegistered log target d) ∧
      ∀ s, Registry.builtin.get s = (Builtin.parse s).map Builtin.dialect := by
  refine ⟨fun s => h.logged.exists_get_iff, fun name d s => get_register, ?_, get_builtin⟩
  intro later name target earlier whole unchanged s same
  have latest : lastNaming log (keyOf s) = some (.addAlias name target) := by
    rw [respelled_iff.mp same, lastNaming, List.find?_eq_some_iff_append]
    refine ⟨beq_self_eq_true _, later, earlier, whole, fun call member => ?_⟩
    have other := mt respelled_iff.mpr (unchanged call member)
    rw [beq_false_of_ne other]
    rfl
  exact (h.logged.get_of_alias latest).2

/-- What its target is replaced by is replaced for the alias, too; other names stay known. -/
theorem names_resolve_lite : ∃ r,
    Run (.register "Sqlite" Builtin.access.dialect :: .addAlias " Lite " "SQLITE" :: builtinLog) r ∧
      r.get "\tLITE" = .ok Builtin.access.dialect ∧ ∃ d, r.get "PG " = .ok d := by
  have sqlite : keyOf "Sqlite" = "sqlite" ∧ keyOf "SQLITE" = "sqlite" ∧
      keyOf "sqlite" = "sqlite" := by
    decide +kernel
  have lite : keyOf " Lite " = "lite" ∧ keyOf "\tLITE" = "lite" := by decide +kernel
  have pg : keyOf "pg" = "pg" ∧ keyOf "PG " = "pg" := by decide +kernel
  have known : .register "sqlite" Builtin.sqlite.dialect ∈ builtinLog :=
    mem_builtinLog.mpr ⟨.sqlite, .inl rfl⟩
  have listed : .addAlias "pg" "postgres" ∈ builtinLog :=
    mem_builtinLog.mpr ⟨.postgres, .inr ⟨"pg", List.mem_cons_self, rfl⟩⟩
  obtain ⟨r, aliased⟩ : ∃ r, builtin.perform (.addAlias " Lite " "SQLITE") = .ok r :=
    Logged.builtin.exists_addAlias known (sqlite.2.2.trans sqlite.2.1.symm)
  have run : Run (.register "Sqlite" Builtin.access.dialect :: .addAlias " Lite " "SQLITE" ::
      builtinLog) (r.register "Sqlite" Builtin.access.dialect) :=
    (Run.builtin.accepted aliased).accepted rfl
  have last : LastRegistered (.register "Sqlite" Builtin.access.dialect ::
      .addAlias " Lite " "SQLITE" :: builtinLog) "SQLITE" Builtin.access.dialect :=
    ⟨[], "Sqlite", _, rfl, respelled_iff.mpr (sqlite.1.trans sqlite.2.1.symm), by simp⟩
  have other : ¬ Respelled " Lite " "Sqlite" := by
    rw [respelled_iff, sqlite.1, lite.1]
    decide
  obtain ⟨resolved, -, aliases, -⟩ := run.names_resolve
  refine ⟨_, run, ?_, (resolved "PG ").mpr ?_⟩
  · have stands := aliases [.register "Sqlite" Builtin.access.dialect] " Lite " "SQLITE" builtinLog
      rfl (List.forall_mem_singleton.mpr other) "\tLITE"
      (respelled_iff.mpr (lite.2.trans lite.1.symm))
    exact (stands _).mpr last
  · exact ⟨_, List.mem_cons_of_mem _ (List.mem_cons_of_mem _ listed),
      respelled_iff.mpr (pg.2.trans pg.1.symm)⟩

end Registry

end SqlScribe
