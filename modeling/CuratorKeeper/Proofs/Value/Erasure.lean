import CuratorKeeper.Proofs.Value.Version

/-!
# Values without one part

Removing the field at a path of names leaves nothing there.  What is beside the path
stays as it is, and what the path leads through loses the rest of it.
-/

namespace CuratorKeeper.Value

variable {value : Value}

theorem eraseAt_of_no_object (none : ∀ fields, value ≠ .object fields) (text : String)
    (rest : List Key) : eraseAt (.name text :: rest) value = value := by
  cases value with
  | object fields => exact absurd rfl (none fields)
  | _ => cases rest <;> simp only [eraseAt]

theorem eraseAt_of_none {fields : Fields} {text : String}
    (held : fields.get? (.name text) = none) (next : Key) (rest : List Key) :
    eraseAt (.name text :: next :: rest) (.object fields) = .object fields := by
  simp only [eraseAt, held]

theorem eraseAt_of_some {fields : Fields} {text : String} {item : Value}
    (held : fields.get? (.name text) = some item) (next : Key) (rest : List Key) :
    eraseAt (.name text :: next :: rest) (.object fields) =
      .object (setField (.name text) (eraseAt (next :: rest) item) fields) := by
  simp only [eraseAt, held]

/-- What was an object is an object still, and all else stays as it is. -/
theorem eraseAt_cases (text : String) (rest : List Key) (value : Value) :
    (∃ fields others, value = .object fields ∧
      eraseAt (.name text :: rest) value = .object others) ∨
      eraseAt (.name text :: rest) value = value := by
  cases value with
  | object fields =>
      cases rest with
      | nil => exact .inl ⟨fields, eraseField (.name text) fields, rfl, by simp only [eraseAt]⟩
      | cons next rest =>
          cases held : Fields.get? fields (.name text) with
          | none => exact .inr (eraseAt_of_none held next rest)
          | some item => exact .inl ⟨fields, _, rfl, eraseAt_of_some held next rest⟩
  | _ => exact .inr (eraseAt_of_no_object (by simp) text rest)

theorem part?_eraseAt_self (text : String) (next : Key) (rest : List Key) (value : Value) :
    (eraseAt (.name text :: next :: rest) value).part? (.name text) =
      (value.part? (.name text)).map (eraseAt (next :: rest)) := by
  cases value with
  | object fields =>
      cases held : Fields.get? fields (.name text) with
      | none => rw [eraseAt_of_none held, part?, held, Option.map_none]
      | some item =>
          rw [eraseAt_of_some held, part?, part?, held, get?_setField_self, Option.map_some]
  | _ =>
      rw [eraseAt_of_no_object (by simp)]
      rfl

theorem part?_eraseAt_of_ne {text : String} {key : Key} (different : key ≠ .name text)
    (rest : List Key) (value : Value) :
    (eraseAt (.name text :: rest) value).part? key = value.part? key := by
  cases value with
  | object fields =>
      cases rest with
      | nil =>
          simp only [eraseAt]
          exact get?_eraseField_of_ne different fields
      | cons next rest =>
          cases held : Fields.get? fields (.name text) with
          | none => rw [eraseAt_of_none held]
          | some item =>
              rw [eraseAt_of_some held]
              exact get?_setField_of_ne different _ _
  | _ => rw [eraseAt_of_no_object (by simp)]

theorem part?_eraseAt_last (text : String) (value : Value) :
    (eraseAt [.name text] value).part? (.name text) = none := by
  cases value with
  | object fields =>
      simp only [eraseAt, part?, Fields.get?, eraseField, List.lookup_eq_none_iff]
      intro field member
      have kept : field.1 ≠ .name text := by simpa using (List.mem_filter.mp member).2
      simpa using kept.symm
  | _ =>
      rw [eraseAt_of_no_object (by simp)]
      rfl

/-- What a path of names leads through loses the rest of the path. -/
theorem at?_eraseAt_through {path : List Key} (named : ∀ key ∈ path, ∃ text, key = .name text)
    (next : Key) (rest : List Key) (value : Value) :
    (eraseAt (path ++ next :: rest) value).at? path =
      (value.at? path).map (eraseAt (next :: rest)) := by
  induction path generalizing value with
  | nil => rfl
  | cons key path ih =>
      obtain ⟨text, rfl⟩ := named key List.mem_cons_self
      obtain ⟨first, others, isCons⟩ : ∃ first others, path ++ next :: rest = first :: others := by
        cases path <;> exact ⟨_, _, rfl⟩
      have deeper := ih fun key member => named key (List.mem_cons_of_mem _ member)
      rw [List.cons_append, isCons, at?_cons, part?_eraseAt_self, at?_cons, ← isCons]
      cases value.part? (.name text) with
      | none => rfl
      | some part => exact deeper part

theorem at?_eraseAt_self {path : List Key} (named : ∀ key ∈ path, ∃ text, key = .name text)
    (text : String) (value : Value) :
    (eraseAt (path ++ [.name text]) value).at? (path ++ [.name text]) = none := by
  rw [at?_append, at?_eraseAt_through named]
  cases value.at? path with
  | none => rfl
  | some part => rw [Option.map_some, Option.bind_some, at?_singleton, part?_eraseAt_last]

theorem agreesOff_eraseAt {path : List Key} (named : ∀ key ∈ path, ∃ text, key = .name text)
    (value : Value) : AgreesOff [path] value (eraseAt path value) := by
  intro other apart
  replace apart := apart path List.mem_cons_self
  induction path generalizing value other with
  | nil => exact absurd List.nil_prefix apart.1
  | cons key path ih =>
      obtain ⟨text, rfl⟩ := named key List.mem_cons_self
      cases other with
      | nil => exact absurd apart (not_apart_nil _)
      | cons first rest =>
          rw [at?_cons, at?_cons]
          by_cases same : first = .name text
          · subst same
            have below : Apart path rest := by simpa using (apart_cons_cons _ _ _ _).mp apart
            cases path with
            | nil => exact absurd List.nil_prefix below.1
            | cons next path =>
                rw [part?_eraseAt_self]
                cases value.part? (.name text) with
                | none => rfl
                | some part =>
                    exact ih (fun key member => named key (List.mem_cons_of_mem _ member)) part rest
                      below
          · rw [part?_eraseAt_of_ne same]

end CuratorKeeper.Value
