import CuratorKeeper.Value.Edit
import CuratorKeeper.Value.Access
import Mathlib.Data.List.Infix

/-!
# Places within values

A place is a path of keys from a value to one of its parts.  Two values agree
off some places when they have the same part at every path that neither leads
through one of these places nor ends on the way to one.  Every change of one
part is described by the places that it touches and by what it leaves there.
-/

namespace CuratorKeeper

/-- A composed computation succeeds exactly when both of its parts do. -/
theorem except_bind_eq_ok {ε α β : Type} {first : Except ε α} {rest : α → Except ε β} {value : β} :
    first >>= rest = .ok value ↔ ∃ middle, first = .ok middle ∧ rest middle = .ok value := by
  cases first <;> simp [bind, Except.bind]

/-- Neither of two paths leads through the other. -/
def Apart (place path : List Key) : Prop := ¬ place <+: path ∧ ¬ path <+: place

instance (place path : List Key) : Decidable (Apart place path) :=
  inferInstanceAs (Decidable (_ ∧ _))

theorem Apart.symm {place path : List Key} (apart : Apart place path) : Apart path place :=
  ⟨apart.2, apart.1⟩

theorem not_apart_nil (place : List Key) : ¬ Apart place [] :=
  fun apart => apart.2 List.nil_prefix

theorem apart_cons_cons (first second : Key) (place path : List Key) :
    Apart (first :: place) (second :: path) ↔ first ≠ second ∨ Apart place path := by
  by_cases same : first = second
  · simp [Apart, List.cons_prefix_cons, same]
  · simp [Apart, List.cons_prefix_cons, same, Ne.symm same]

namespace Value

/-- The part of a value under a key: a field of an object, or an item of a
list counted from zero. -/
def part? : Value → Key → Option Value
  | .object fields, key => Fields.get? fields key
  | .list items, .position index => if 0 ≤ index then items[index.toNat]? else none
  | _, _ => none

/-- The part of a value at a path. -/
def at? : Value → List Key → Option Value
  | value, [] => some value
  | value, key :: rest => (value.part? key).bind fun part => part.at? rest

@[simp]
theorem at?_nil (value : Value) : value.at? [] = some value := rfl

theorem at?_cons (value : Value) (key : Key) (rest : List Key) :
    value.at? (key :: rest) = (value.part? key).bind fun part => part.at? rest := rfl

@[simp]
theorem at?_singleton (value : Value) (key : Key) : value.at? [key] = value.part? key := by
  simp [at?_cons]

/-- A part that is absent has no parts, and neither has null. -/
theorem at?_pair (value : Value) (first second : Key) :
    value.at? [first, second] = ((value.part? first).getD .null).part? second := by
  rw [at?_cons]
  cases value.part? first with
  | none => rfl
  | some part => rw [Option.bind_some, at?_singleton, Option.getD_some]

theorem at?_append (value : Value) (first rest : List Key) :
    value.at? (first ++ rest) = (value.at? first).bind fun part => part.at? rest := by
  induction first generalizing value with
  | nil => rfl
  | cons key first ih =>
      simp only [List.cons_append, at?_cons, Option.bind_assoc, ih]

/-- Two values have the same part at every path apart from some places. -/
def AgreesOff (places : List (List Key)) (first second : Value) : Prop :=
  ∀ path, (∀ place ∈ places, Apart place path) → first.at? path = second.at? path

namespace AgreesOff

variable {places others : List (List Key)} {first second third : Value}

theorem refl (places : List (List Key)) (value : Value) : AgreesOff places value value :=
  fun _ _ => rfl

theorem symm (agree : AgreesOff places first second) : AgreesOff places second first :=
  fun path apart => (agree path apart).symm

theorem mono (agree : AgreesOff places first second) (within : places ⊆ others) :
    AgreesOff others first second :=
  fun path apart => agree path fun place member => apart place (within member)

theorem trans (agree : AgreesOff places first second) (further : AgreesOff others second third) :
    AgreesOff (places ++ others) first third := by
  intro path apart
  calc
    first.at? path = second.at? path :=
      agree path fun place member => apart place (List.mem_append_left _ member)
    _ = third.at? path :=
      further path fun place member => apart place (List.mem_append_right _ member)

end AgreesOff

theorem isObject_of_part? {value part : Value} {text : String}
    (held : value.part? (.name text) = some part) : ∃ fields, value = .object fields := by
  cases value with
  | object fields => exact ⟨fields, rfl⟩
  | _ => simp [part?] at held

theorem fieldD_eq_ok {value : Value} {key : Key} {default found : Value} :
    value.fieldD key default = .ok found ↔
      (∃ fields, value = .object fields) ∧ (value.part? key).getD default = found := by
  cases value <;> simp [fieldD, field?, part?, bind, Except.bind, pure, Except.pure]

theorem field_eq_ok {value : Value} {key : Key} {found : Value} :
    value.field key = .ok found ↔
      (∃ fields, value = .object fields) ∧ (value.part? key).getD .null = found :=
  fieldD_eq_ok

theorem item_eq_ok {value : Value} {key : Key} {found : Value} :
    value.item key = .ok found ↔
      (∃ fields, value = .object fields) ∧ value.part? key = some found := by
  cases value with
  | object fields =>
      cases held : Fields.get? fields key <;> simp [item, part?, held]
  | _ => simp [item]

theorem fieldD_congr {value other : Value} {key : Key} (same : other.field? key = value.field? key)
    (default : Value) : other.fieldD key default = value.fieldD key default := by
  rw [fieldD, fieldD, same]

theorem item_congr {value other : Value} {key : Key} (same : other.field? key = value.field? key) :
    other.item key = value.item key := by
  cases value <;> cases other <;> simp_all [field?, item]

theorem item_of_part? {value part : Value} {text : String}
    (held : value.part? (.name text) = some part) : value.item (.name text) = .ok part :=
  item_eq_ok.mpr ⟨isObject_of_part? held, held⟩

theorem item_at? {value : Value} {key : Key} {found : Value} (read : value.item key = .ok found)
    (rest : List Key) : value.at? (key :: rest) = found.at? rest := by
  rw [at?_cons, (item_eq_ok.mp read).2, Option.bind_some]

theorem itemAt_at? {value found : Value} {path : List Key} (read : value.itemAt path = .ok found)
    (rest : List Key) : value.at? (path ++ rest) = found.at? rest := by
  induction path generalizing value with
  | nil =>
      cases read
      rfl
  | cons key path ih =>
      obtain ⟨inner, readInner, readRest⟩ := except_bind_eq_ok.mp read
      rw [List.cons_append, item_at? readInner]
      exact ih readRest

theorem itemAt_of_at? {value found : Value} {path : List Key}
    (named : ∀ key ∈ path, ∃ text, key = .name text) (held : value.at? path = some found) :
    value.itemAt path = .ok found := by
  induction path generalizing value with
  | nil =>
      cases held
      rfl
  | cons key path ih =>
      obtain ⟨text, rfl⟩ := named key List.mem_cons_self
      rw [at?_cons, Option.bind_eq_some_iff] at held
      obtain ⟨inner, heldInner, heldRest⟩ := held
      have rest := ih (fun key member => named key (List.mem_cons_of_mem _ member)) heldRest
      exact except_bind_eq_ok.mpr ⟨inner, item_of_part? heldInner, rest⟩

theorem assign_eq_ok {value changed new : Value} {key : Key} :
    value.assign key new = .ok changed ↔
      ∃ fields, value = .object fields ∧ changed = .object (setField key new fields) := by
  cases value <;> simp [assign, eq_comm]

theorem part?_assign_self {value changed new : Value} {key : Key}
    (assigned : value.assign key new = .ok changed) : changed.part? key = some new := by
  obtain ⟨fields, rfl, rfl⟩ := assign_eq_ok.mp assigned
  exact get?_setField_self key new fields

theorem part?_assign_of_ne {value changed new : Value} {key other : Key}
    (assigned : value.assign key new = .ok changed) (different : other ≠ key) :
    changed.part? other = value.part? other := by
  obtain ⟨fields, rfl, rfl⟩ := assign_eq_ok.mp assigned
  exact get?_setField_of_ne different new fields

theorem setField_of_get? {key : Key} {held : Value} {fields : Fields}
    (holds : fields.get? key = some held) : setField key held fields = fields := by
  induction fields with
  | nil => simp [Fields.get?] at holds
  | cons field rest ih =>
      obtain ⟨other, old⟩ := field
      by_cases same : other = key
      · subst same
        simp only [Fields.get?, List.lookup_cons_self, Option.some.injEq] at holds
        simp [setField, holds]
      · have further : Fields.get? rest key = some held := by
          simpa [Fields.get?, List.lookup_cons, beq_false_of_ne (Ne.symm same)] using holds
        simp [setField, same, ih further]

theorem part?_of_isBlank {value : Value} (blank : value.isBlank = true) (key : Key) :
    value.part? key = none := by
  cases value with
  | list items =>
      cases items with
      | nil => cases key <;> simp [part?]
      | cons head rest => simp [isBlank] at blank
  | object fields =>
      cases fields with
      | nil => rfl
      | cons head rest => simp [isBlank] at blank
  | _ => rfl

theorem part?_orIfBlank (value : Value) (key : Key) :
    (value.orIfBlank (.object [])).part? key = value.part? key := by
  unfold orIfBlank
  split
  next blank => exact (part?_of_isBlank blank key).symm
  next => rfl

/-- Writing a key touches that key alone. -/
theorem agreesOff_assign {value changed new : Value} {key : Key}
    (assigned : value.assign key new = .ok changed) : AgreesOff [[key]] value changed := by
  intro path apart
  cases path with
  | nil => exact absurd (apart [key] (by simp)) (not_apart_nil [key])
  | cons other rest =>
      have different : key ≠ other := by
        rcases (apart_cons_cons key other [] rest).mp (apart [key] (by simp)) with different | inner
        · exact different
        · exact absurd inner.symm (not_apart_nil rest)
      rw [at?_cons, at?_cons, part?_assign_of_ne assigned (Ne.symm different)]

/-- A value that has another part under one key agrees with the old one off
the places where the parts disagree. -/
theorem agreesOff_of_part? {value changed old new : Value} {key : Key} {places : List (List Key)}
    (whole : old = new → value = changed) (held : value.part? key = some old)
    (holds : changed.part? key = some new)
    (others : ∀ other, other ≠ key → changed.part? other = value.part? other)
    (agree : AgreesOff places old new) :
    AgreesOff (places.map (key :: ·)) value changed := by
  intro path apart
  cases path with
  | nil =>
      cases places with
      | nil =>
          have equal : old = new := by simpa using agree [] (by simp)
          rw [whole equal]
      | cons place places =>
          exact absurd (apart (key :: place) (by simp)) (not_apart_nil _)
  | cons other rest =>
      rw [at?_cons, at?_cons]
      by_cases same : other = key
      · subst same
        rw [held, holds, Option.bind_some, Option.bind_some]
        apply agree rest
        intro place member
        have extended := apart (other :: place) (List.mem_map_of_mem member)
        simpa using (apart_cons_cons other other place rest).mp extended
      · rw [others other same]

/-- Writing a key with what agrees with the old part off one place touches that
place below the key, also where the old part is absent or blank. -/
theorem agreesOff_assign_below {value changed new : Value} {key : Key} {place : List Key}
    (assigned : value.assign key new = .ok changed)
    (agree : AgreesOff [place] (((value.part? key).getD .null).orIfBlank (.object [])) new) :
    AgreesOff [key :: place] value changed := by
  intro path apart
  have beside := apart (key :: place) List.mem_cons_self
  cases path with
  | nil => exact absurd beside (not_apart_nil _)
  | cons other rest =>
      rw [at?_cons, at?_cons]
      by_cases same : other = key
      · subst same
        have inner : Apart place rest := by simpa using (apart_cons_cons other other _ _).mp beside
        rw [part?_assign_self assigned, Option.bind_some,
          ← agree rest fun only member => by rwa [List.mem_singleton.mp member]]
        cases rest with
        | nil => exact absurd inner (not_apart_nil place)
        | cons next rest =>
            rw [at?_cons, part?_orIfBlank]
            cases value.part? other with
            | none => rfl
            | some old => rfl
      · rw [part?_assign_of_ne assigned same]

/-- Changing the part under a key touches, below that key, what the change of
the part touches. -/
theorem modifyItem_eq_ok {value changed : Value} {key : Key}
    {change : Value → Except Mismatch Value} (modified : value.modifyItem key change = .ok changed) :
    ∃ old new, value.part? key = some old ∧ change old = .ok new ∧
      changed.part? key = some new ∧
      ∀ places, AgreesOff places old new → AgreesOff (places.map (key :: ·)) value changed := by
  obtain ⟨old, read, modified⟩ := except_bind_eq_ok.mp modified
  obtain ⟨new, changes, assigned⟩ := except_bind_eq_ok.mp modified
  have held := (item_eq_ok.mp read).2
  refine ⟨old, new, held, changes, part?_assign_self assigned, fun places agree => ?_⟩
  refine agreesOff_of_part? ?_ held (part?_assign_self assigned)
    (fun other different => part?_assign_of_ne assigned different) agree
  intro equal
  obtain ⟨fields, rfl, rfl⟩ := assign_eq_ok.mp assigned
  rw [← equal, setField_of_get? held]

theorem part?_list_zero (head : Value) (rest : List Value) :
    (Value.list (head :: rest)).part? (.position 0) = some head := by
  simp [part?]

theorem part?_list_of_ne_zero {head other : Value} {rest : List Value} {key : Key}
    (different : key ≠ .position 0) :
    (Value.list (head :: rest)).part? key = (Value.list (other :: rest)).part? key := by
  cases key with
  | name text => rfl
  | position index =>
      have nonzero : index ≠ 0 := fun zero => different (by rw [zero])
      by_cases counted : 0 ≤ index
      · have successor : index.toNat = (index.toNat - 1) + 1 := by omega
        simp only [part?, counted, if_true]
        rw [successor, List.getElem?_cons_succ, List.getElem?_cons_succ]
      · simp [part?, counted]

theorem first_of_part? {value head : Value} (held : value.part? (.position 0) = some head) :
    value.first = .ok head := by
  cases value with
  | list items =>
      cases items with
      | nil => simp [part?] at held
      | cons item rest =>
          rw [part?_list_zero, Option.some.injEq] at held
          rw [held, first]
  | object fields => exact item_eq_ok.mpr ⟨⟨fields, rfl⟩, held⟩
  | _ => simp [part?] at held

/-- A first item that is an object is the part at position zero; a text has no
such first item. -/
theorem part?_zero_of_first {value : Value} {fields : Fields}
    (read : value.first = .ok (.object fields)) :
    value.part? (.position 0) = some (.object fields) := by
  cases value with
  | list items =>
      cases items with
      | nil => simp [first] at read
      | cons head rest =>
          simp only [first, Except.ok.injEq] at read
          rw [read, part?_list_zero]
  | object inner =>
      simp only [first] at read
      exact (item_eq_ok.mp read).2
  | text content =>
      simp only [first] at read
      cases letters : content.toList <;> simp [letters] at read
  | _ => simp [first] at read

theorem modifyFirst_of_part? {value old new : Value} {change : Value → Except Mismatch Value}
    (held : value.part? (.position 0) = some old) (changes : change old = .ok new) :
    ∃ changed, value.modifyFirst change = .ok changed := by
  have read := first_of_part? held
  cases value with
  | list items =>
      cases items with
      | nil => simp [part?] at held
      | cons head rest =>
          exact ⟨.list (new :: rest),
            except_bind_eq_ok.mpr ⟨old, read, except_bind_eq_ok.mpr ⟨new, changes, rfl⟩⟩⟩
  | object fields =>
      exact ⟨.object (setField (.position 0) new fields),
        except_bind_eq_ok.mpr ⟨old, read, except_bind_eq_ok.mpr ⟨new, changes, rfl⟩⟩⟩
  | _ => simp [part?] at held

theorem modifyFirst_eq_ok {value changed : Value} {change : Value → Except Mismatch Value}
    (modified : value.modifyFirst change = .ok changed) :
    ∃ old new, value.part? (.position 0) = some old ∧ change old = .ok new ∧
      changed.part? (.position 0) = some new ∧
      ∀ places, AgreesOff places old new →
        AgreesOff (places.map (.position 0 :: ·)) value changed := by
  obtain ⟨old, read, modified⟩ := except_bind_eq_ok.mp modified
  obtain ⟨new, changes, assigned⟩ := except_bind_eq_ok.mp modified
  cases value with
  | list items =>
      cases items with
      | nil => simp [first] at read
      | cons head rest =>
          simp only [first, Except.ok.injEq] at read
          simp only [Except.ok.injEq] at assigned
          subst read assigned
          refine ⟨head, new, part?_list_zero head rest, changes, part?_list_zero new rest,
            fun places agree => ?_⟩
          exact agreesOff_of_part? (fun equal => by rw [equal]) (part?_list_zero head rest)
            (part?_list_zero new rest) (fun other different => part?_list_of_ne_zero different)
            agree
  | object fields =>
      apply modifyItem_eq_ok
      exact except_bind_eq_ok.mpr ⟨old, read, except_bind_eq_ok.mpr ⟨new, changes, assigned⟩⟩
  | _ => simp at assigned

theorem modifyAt_eq_ok {path : List Key} {change : Value → Except Mismatch Value}
    {value changed : Value} (modified : modifyAt path change value = .ok changed) :
    ∃ old new, value.at? path = some old ∧ change old = .ok new ∧ changed.at? path = some new ∧
      ∀ places, AgreesOff places old new → AgreesOff (places.map (path ++ ·)) value changed := by
  induction path generalizing value changed with
  | nil =>
      refine ⟨value, changed, rfl, modified, rfl, fun places agree => ?_⟩
      simpa using agree
  | cons key path ih =>
      obtain ⟨outer, outerNew, held, changesOuter, holds, outside⟩ := modifyItem_eq_ok modified
      obtain ⟨old, new, heldInner, changes, holdsInner, inside⟩ := ih changesOuter
      refine ⟨old, new, ?_, changes, ?_, fun places agree => ?_⟩
      · rw [at?_cons, held, Option.bind_some, heldInner]
      · rw [at?_cons, holds, Option.bind_some, holdsInner]
      · simpa [List.map_map, Function.comp_def] using outside _ (inside places agree)

theorem modifyAt_of_at? {path : List Key} {change : Value → Except Mismatch Value}
    {value old new : Value} (named : ∀ key ∈ path, ∃ text, key = .name text)
    (held : value.at? path = some old) (changes : change old = .ok new) :
    ∃ changed, modifyAt path change value = .ok changed := by
  induction path generalizing value with
  | nil =>
      cases held
      exact ⟨new, changes⟩
  | cons key path ih =>
      obtain ⟨text, rfl⟩ := named key List.mem_cons_self
      rw [at?_cons, Option.bind_eq_some_iff] at held
      obtain ⟨inner, heldInner, heldRest⟩ := held
      obtain ⟨changed, modified⟩ :=
        ih (fun key member => named key (List.mem_cons_of_mem _ member)) heldRest
      obtain ⟨fields, rfl⟩ := isObject_of_part? heldInner
      refine ⟨.object (setField (.name text) changed fields), except_bind_eq_ok.mpr ?_⟩
      exact ⟨inner, item_of_part? heldInner, except_bind_eq_ok.mpr ⟨changed, modified, rfl⟩⟩

theorem modifyItem_of_kept {value part : Value} {key : Key} {change : Value → Except Mismatch Value}
    (read : value.item key = .ok part) (keeps : change part = .ok part) :
    value.modifyItem key change = .ok value := by
  obtain ⟨⟨fields, rfl⟩, held⟩ := item_eq_ok.mp read
  rw [modifyItem, read]
  simp only [bind, Except.bind, keeps, assign]
  rw [setField_of_get? held]

/-- A change that leaves alone what it has made. -/
def Settles (change : Value → Except Mismatch Value) : Prop :=
  ∀ old new, change old = .ok new → change new = .ok new

namespace Settles

variable {change : Value → Except Mismatch Value}

theorem assign (key : Key) (new : Value) : Settles fun value => value.assign key new := by
  intro old changed assigned
  obtain ⟨fields, rfl, rfl⟩ := assign_eq_ok.mp assigned
  refine assign_eq_ok.mpr ⟨_, rfl, ?_⟩
  rw [setField_of_get? (get?_setField_self key new fields)]

theorem modifyItem (settles : Settles change) (key : Key) :
    Settles (Value.modifyItem key change) := by
  intro value changed modified
  obtain ⟨old, -, modified⟩ := except_bind_eq_ok.mp modified
  obtain ⟨new, changes, assigned⟩ := except_bind_eq_ok.mp modified
  have held := part?_assign_self assigned
  obtain ⟨fields, -, rfl⟩ := assign_eq_ok.mp assigned
  exact modifyItem_of_kept (item_eq_ok.mpr ⟨⟨_, rfl⟩, held⟩) (settles old new changes)

theorem modifyFirst (settles : Settles change) : Settles (Value.modifyFirst change) := by
  intro value changed modified
  obtain ⟨old, read, modified⟩ := except_bind_eq_ok.mp modified
  obtain ⟨new, changes, assigned⟩ := except_bind_eq_ok.mp modified
  have keeps := settles old new changes
  cases value with
  | list items =>
      cases items with
      | nil => simp [first] at read
      | cons head rest =>
          simp only [Except.ok.injEq] at assigned
          subst assigned
          exact except_bind_eq_ok.mpr ⟨new, rfl, except_bind_eq_ok.mpr ⟨new, keeps, rfl⟩⟩
  | object fields =>
      have item : (Value.object fields).modifyItem (.position 0) change = .ok changed :=
        except_bind_eq_ok.mpr ⟨old, read, except_bind_eq_ok.mpr ⟨new, changes, assigned⟩⟩
      have kept := settles.modifyItem (.position 0) _ _ item
      obtain ⟨others, -, rfl⟩ := assign_eq_ok.mp assigned
      exact kept
  | _ => simp at assigned

theorem modifyAt (settles : Settles change) (path : List Key) :
    Settles (Value.modifyAt path change) := by
  induction path with
  | nil => exact settles
  | cons key path ih => exact ih.modifyItem key

end Settles

theorem modifyAt_eq_error {path : List Key} {change : Value → Except Mismatch Value}
    {value old : Value} {mismatch : Mismatch} (named : ∀ key ∈ path, ∃ text, key = .name text)
    (held : value.at? path = some old) (fails : change old = .error mismatch) :
    modifyAt path change value = .error mismatch := by
  induction path generalizing value with
  | nil =>
      cases held
      exact fails
  | cons key path ih =>
      obtain ⟨text, rfl⟩ := named key List.mem_cons_self
      rw [at?_cons, Option.bind_eq_some_iff] at held
      obtain ⟨inner, heldInner, heldRest⟩ := held
      have below := ih (fun key member => named key (List.mem_cons_of_mem _ member)) heldRest
      have wraps : modifyAt (.name text :: path) change value =
          modifyItem (.name text) (modifyAt path change) value := rfl
      rw [wraps, modifyItem, item_of_part? heldInner]
      simp only [bind, Except.bind, below]

end Value
end CuratorKeeper
