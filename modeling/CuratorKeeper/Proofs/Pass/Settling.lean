import CuratorKeeper.Pass.Reconcile
import CuratorKeeper.Proofs.Job.Desired
import CuratorKeeper.Proofs.Pass.Aim

/-!
# How the parts of a pass reach an aim

Each part of a pass brings some resources to the content that they are to have,
and reports what it wrote.  If others work towards the same aim, a resource
that was read may be written before it is submitted again; then it has its
content, and the second try has nothing left to do.
-/

namespace CuratorKeeper

theorem outcomeName_eq {resource : Value} {ref : Ref} (known : Ref.of resource = .ok ref) :
    outcomeName resource = .ok ref.label := by
  obtain ⟨metadata, held, hasKind, -⟩ := Ref.of_eq_ok.mp known
  have readKind := Value.item_of_part? hasKind
  simp only [outcomeName, readKind, Ref.itemAt_name known, bind, Except.bind, pure, Except.pure,
    Ref.label]

namespace Aim

/-- A resource is to be created if it is absent, and is to be there in the end. -/
structure Awaits (aim : Aim) (ref : Ref) (resource : Value) : Prop where
  plain : ref.Plain
  known : Ref.of resource = .ok ref
  absent : aim.start.find? ref = none → aim.final ref = some resource
  present : aim.final ref ≠ none

open Program

variable {aim : Aim} {calm : Prop} {ref : Ref} {store after : Store}

/-- Whatever else a program ensures, it moves towards the aim. -/
theorem ensures_progress {α : Type} {program : Program α} {goal : Goal α}
    (ensured : Ensures (aim.around calm) aim.Serves program goal store) :
    Ensures (aim.around calm) aim.Serves program (fun result history after =>
      goal result history after ∧ aim.Progress store after ∧
        (aim.Holds store → aim.Holds after)) store := by
  induction program generalizing goal store with
  | done value => exact ⟨ensured, .refl aim store, id⟩
  | fail fault => exact ⟨ensured, .refl aim store, id⟩
  | perform effect next ih =>
      cases effect with
      | call request =>
          simp only [Ensures] at ensured ⊢
          cases known : request.ref with
          | error mismatch =>
              rw [known] at ensured
              exact ih _ ensured
          | ok ref =>
              rw [known] at ensured
              intro before answer after holds turned faithful
              obtain ⟨serves, rest⟩ := ensured before answer after holds turned faithful
              refine ⟨serves, (ih _ rest).mono fun result history last ended => ?_⟩
              obtain ⟨reached, progress, still⟩ := ended
              have early : aim.Progress store after := turned.progress.trans serves.progress
              exact ⟨reached, early.trans progress, fun _ => still (serves.holds faithful holds)⟩
      | note line => exact ih _ ensured
      | draw => exact fun draw => ih _ (ensured draw)
      | pause length => exact ih _ ensured
      | lock key action => exact fun reply => ih _ (ensured reply)

theorem serves_of_spared {served : Served} (spared : served.wrote = false)
    (same : served.after = served.before) :
    aim.Serves served ∧ WroteNothing [served] := by
  refine ⟨⟨fun wrote => ?_, fun _ => same⟩, .singleton spared⟩
  rw [spared] at wrote
  cases wrote

theorem serves_of_put {served : Served} (writes : served.wrote = true) (plain : served.ref.Plain)
    {new written : Value} (known : Ref.of new = .ok served.ref)
    (lacking : ¬ aim.Met served.ref served.before)
    (final : (aim.final served.ref).map Value.unversioned = some new.unversioned)
    (put : served.before.put new = (.ok written, served.after)) :
    aim.Serves served ∧ aim.Met served.ref served.after ∧ wrote served.ref [served] = true ∧
      WroteOnly [served.ref] [served] := by
  obtain ⟨stamped, puts, content⟩ := Store.put_of_plain plain known served.before
  rw [puts] at put
  obtain ⟨-, isAfter⟩ := Prod.mk.inj put
  have met : aim.Met served.ref served.after := by
    rw [Met, final, ← isAfter, Store.find?_keep_of_plain plain, Option.map_some, content]
  refine ⟨⟨fun _ => ⟨lacking, met, fun other different => ?_⟩, fun spared => ?_⟩, met, ?_, ?_⟩
  · rw [← isAfter]
    exact Store.find?_keep_of_ne plain different _ _ _
  · rw [writes] at spared
    cases spared
  · simp [wrote, writesOf, writes]
  · intro other stranger
    have different : served.ref ≠ other := fun same => stranger (by simp [same])
    simp [writesOf, different]

/-- A resource is created if it is absent; else it was there from the start, or
others have created it. -/
theorem ensures_create {resource : Value} (awaits : aim.Awaits ref resource) :
    Ensures (aim.around calm) aim.Serves (ask (.create resource)) (fun result history after =>
      WroteOnly [ref] history ∧ (aim.start.find? ref = none → aim.Met ref after) ∧
        ((∃ value, result = .ok value) ∧ wrote ref history = true ∧
            aim.start.find? ref = none ∨
          (∃ fault, result = .error (.store fault) ∧ fault.refusal = .alreadyExists) ∧
            wrote ref history = false)) store := by
  obtain ⟨plain, known, absent, present⟩ := awaits
  have about : (Request.create resource).ref = .ok ref := known
  rw [ensures_ask about]
  intro before answer after holds turned faithful
  have served : before.serve ref (.create resource) = (answer, after) := faithful
  cases found : before.find? ref with
  | some old =>
      rw [Store.serve_create_some plain found] at served
      obtain ⟨rfl, rfl⟩ := Prod.mk.inj served
      have spared : Served.wrote ⟨.create resource, ref, before,
          .error (Store.refuse .alreadyExists ref " exists" 409), before⟩ = false := rfl
      obtain ⟨serves, nothing⟩ := @serves_of_spared aim _ spared rfl
      refine ⟨serves, nothing.only _, fun missing => ?_, .inr ⟨⟨_, rfl, rfl⟩, nothing.not_wrote ref⟩⟩
      rcases holds.progress ref with same | ⟨-, met⟩
      · rw [found, missing] at same
        cases same
      · exact met
  | none =>
      have lacking : ¬ aim.Met ref before := by
        intro met
        rw [Met, found, Option.map_none, eq_comm, Option.map_eq_none_iff] at met
        exact present met
      have missing : aim.start.find? ref = none :=
        (holds.progress.find?_of_not_met lacking).symm.trans found
      obtain ⟨written, puts, -⟩ := Store.put_of_plain plain known before
      rw [Store.serve_create_none plain found, puts] at served
      obtain ⟨rfl, rfl⟩ := Prod.mk.inj served
      have writes : Served.wrote ⟨.create resource, ref, before, .ok written,
          ⟨Store.keep ref written before.entries, before.version + 1⟩⟩ = true := rfl
      obtain ⟨serves, met, writes, only⟩ := serves_of_put writes plain known lacking
        (by rw [absent missing, Option.map_some]) puts
      exact ⟨serves, only, fun _ => met, .inl ⟨⟨written, rfl⟩, writes, missing⟩⟩

theorem ensures_get (plain : ref.Plain) :
    Ensures (aim.around calm) aim.Serves (ask (.get ref)) (fun result history after =>
      WroteNothing history ∧ aim.Holds after ∧ aim.Turns calm store after ∧
        ((∃ live, after.find? ref = some live ∧ result = .ok live) ∨
          after.find? ref = none ∧
            ∃ fault, result = .error (.store fault) ∧ fault.refusal = .notFound)) store := by
  have about : (Request.get ref).ref = .ok ref := rfl
  rw [ensures_ask about]
  intro before answer after holds turned faithful
  have served : before.serve ref (.get ref) = (answer, after) := faithful
  cases found : before.find? ref with
  | some live =>
      rw [Store.serve_get_some plain found] at served
      obtain ⟨rfl, rfl⟩ := Prod.mk.inj served
      have spared : Served.wrote ⟨.get ref, ref, before, .ok live, before⟩ = false := rfl
      obtain ⟨serves, nothing⟩ := @serves_of_spared aim _ spared rfl
      exact ⟨serves, nothing, holds, turned, .inl ⟨live, found, rfl⟩⟩
  | none =>
      rw [Store.serve_get_none plain found] at served
      obtain ⟨rfl, rfl⟩ := Prod.mk.inj served
      have spared : Served.wrote ⟨.get ref, ref, before, .error (Store.absent ref), before⟩ =
        false := rfl
      obtain ⟨serves, nothing⟩ := @serves_of_spared aim _ spared rfl
      exact ⟨serves, nothing, holds, turned, .inr ⟨found, _, rfl, rfl⟩⟩

theorem ensures_update {live resource new : Value} {part : Option String} (plain : ref.Plain)
    (holds : aim.Holds store) (found : store.find? ref = some live)
    (lacking : ¬ aim.Met ref store) (about : Ref.of resource = .ok ref)
    (sameMetadata : resource.part? "metadata" = live.part? "metadata")
    (takes : ∀ fields, ∃ other, Store.updated (.object fields) resource part = .ok other)
    (makes : Store.updated live resource part = .ok new) (known : Ref.of new = .ok ref)
    (final : (aim.final ref).map Value.unversioned = some new.unversioned) :
    Ensures (aim.around calm) aim.Serves (ask (.update resource part))
      (fun result history after =>
        WroteOnly [ref] history ∧ aim.Met ref after ∧
          ((∃ value, result = .ok value) ∧ wrote ref history = true ∨
            ¬ calm ∧ (∃ fault, result = .error (.store fault) ∧ fault.refusal = .conflict) ∧
              wrote ref history = false)) store := by
  have isRef : (Request.update resource part).ref = .ok ref := about
  rw [ensures_ask isRef]
  intro before answer after holdsNow turned faithful
  have served : before.serve ref (.update resource part) = (answer, after) := faithful
  obtain ⟨version, marked⟩ := holds.sound.marked_of_found found
  have submits := Store.submittedVersion_of_marked marked sameMetadata
  rcases turned.progress ref with unchanged | ⟨-, met⟩
  · have foundNow : before.find? ref = some live := unchanged.trans found
    have lackingNow : ¬ aim.Met ref before := fun met => lacking ((met_congr unchanged).mp met)
    obtain ⟨written, puts, -⟩ := Store.put_of_plain plain known before
    rw [Store.serve_update_current plain foundNow marked submits makes, puts] at served
    obtain ⟨rfl, rfl⟩ := Prod.mk.inj served
    have writes : Served.wrote ⟨.update resource part, ref, before, .ok written,
        ⟨Store.keep ref written before.entries, before.version + 1⟩⟩ = true := rfl
    obtain ⟨serves, met, writes, only⟩ := serves_of_put writes plain known lackingNow final puts
    exact ⟨serves, only, met, .inl ⟨⟨written, rfl⟩, writes⟩⟩
  · -- Whoever came first has brought the resource to its content, so it carries a newer version.
    have isThere : ∃ now, before.find? ref = some now := by
      rw [Met, final, Option.map_eq_some_iff] at met
      obtain ⟨now, foundNow, -⟩ := met
      exact ⟨now, foundNow⟩
    obtain ⟨now, foundNow⟩ := isThere
    obtain ⟨versionNow, markedNow⟩ := holdsNow.sound.marked_of_found foundNow
    obtain ⟨fields, rfl⟩ := markedNow.isObject
    obtain ⟨other, makesOther⟩ := takes fields
    have stale : versionNow ≠ version :=
      turned.version_ne holds.sound found marked foundNow markedNow lacking met
    rw [Store.serve_update_stale plain foundNow markedNow submits makesOther stale] at served
    obtain ⟨rfl, rfl⟩ := Prod.mk.inj served
    have spared : Served.wrote ⟨.update resource part, ref, before,
        .error (Store.refuse .conflict ref " version conflict" 409), before⟩ = false := rfl
    obtain ⟨serves, nothing⟩ := @serves_of_spared aim _ spared rfl
    exact ⟨serves, nothing.only _, met,
      .inr ⟨turned.stirred lacking met, ⟨_, rfl, rfl⟩, nothing.not_wrote ref⟩⟩

theorem ensures_ensureCreated {resource : Value} (awaits : aim.Awaits ref resource) :
    Ensures (aim.around calm) aim.Serves (ensureCreated resource) (fun result history after =>
      result = .ok (wrote ref history) ∧ WroteOnly [ref] history ∧
        (aim.start.find? ref = none → aim.Met ref after) ∧
        (wrote ref history = true → aim.start.find? ref = none)) store := by
  simp only [ensureCreated, awaits.known, bind_eq, liftM_mismatch, Except.mapError, Program.ofExcept,
    done_bind]
  rw [ensures_bind, ensures_catchStore]
  apply (ensures_create awaits).mono
  intro result history after ended
  obtain ⟨only, met, done⟩ := ended
  rcases done with ⟨⟨value, rfl⟩, writes, missing⟩ | ⟨⟨fault, rfl, isThere⟩, spares⟩
  · simpa [caughtStore, ensures_bind, writes] using ⟨only, met, missing⟩
  · simpa [caughtStore, ensures_bind, spares, isThere] using ⟨only, met⟩

theorem ensures_createAll (entries : List (Ref × Value)) (distinct : (entries.map Prod.fst).Nodup)
    (awaited : ∀ entry ∈ entries, aim.Awaits entry.1 entry.2) :
    Ensures (aim.around calm) aim.Serves (createAll (entries.map Prod.snd))
      (fun result history after =>
        result = .ok (((entries.map Prod.fst).filter (wrote · history)).map Ref.label) ∧
          WroteOnly (entries.map Prod.fst) history ∧
          (∀ entry ∈ entries, aim.start.find? entry.1 = none → aim.Met entry.1 after) ∧
          ∀ entry ∈ entries, wrote entry.1 history = true → aim.start.find? entry.1 = none)
      store := by
  induction entries generalizing store with
  | nil => exact ⟨rfl, WroteNothing.nil.only _, nofun, nofun⟩
  | cons entry rest ih =>
      obtain ⟨ref, resource⟩ := entry
      have awaits : aim.Awaits ref resource := awaited _ List.mem_cons_self
      obtain ⟨stranger, distinctRest⟩ := List.nodup_cons.mp distinct
      have others := fun store => @ih store distinctRest
        fun entry member => awaited entry (List.mem_cons_of_mem _ member)
      simp only [createAll, List.map_cons, bind_eq, liftM_mismatch, outcomeName_eq awaits.known,
        Except.mapError, Program.ofExcept, done_bind, pure_eq]
      rw [ensures_bind]
      apply (ensures_ensureCreated awaits).mono
      intro result early middle created
      obtain ⟨rfl, onlyFirst, metFirst, missingFirst⟩ := created
      simp only
      rw [ensures_bind]
      apply (ensures_progress (others middle)).mono
      intro result late after further
      obtain ⟨⟨rfl, onlyRest, metRest, missingRest⟩, progress, -⟩ := further
      have isFirst : wrote ref (early ++ late) = wrote ref early :=
        wrote_append_left (onlyRest ref stranger)
      have isRest : ∀ other ∈ rest.map Prod.fst, wrote other (early ++ late) = wrote other late := by
        intro other member
        refine wrote_append_right (onlyFirst other fun same => stranger ?_)
        rwa [← List.mem_singleton.mp same]
      have named : (if wrote ref early = true then [ref.label] else []) ++
            ((rest.map Prod.fst).filter (wrote · late)).map Ref.label =
          ((ref :: rest.map Prod.fst).filter (wrote · (early ++ late))).map Ref.label := by
        rw [List.filter_cons, isFirst, List.filter_congr isRest]
        cases wrote ref early <;> simp
      simp only [ensures_done, List.append_nil]
      refine ⟨?_, ?_, ?_, ?_⟩
      · rw [Except.ok.injEq]
        exact named
      · have first : WroteOnly (ref :: rest.map Prod.fst) early := onlyFirst.mono (by simp)
        exact first.append (onlyRest.mono (by simp))
      · intro entry member missing
        rcases List.mem_cons.mp member with rfl | later
        · exact progress.met (metFirst missing)
        · exact metRest entry later missing
      · intro entry member writes
        rcases List.mem_cons.mp member with rfl | later
        · exact missingFirst (isFirst.symm.trans writes)
        · exact missingRest entry later ((isRest _ (List.mem_map_of_mem later)).symm.trans writes)

/-- A resource that was there comes to its content, and what is reported tells
whether it was written. -/
def Settles {α : Type} (aim : Aim) (ref : Ref) (report : Bool → α) : Goal α :=
  fun result history after => WroteOnly [ref] history ∧ aim.Met ref after ∧
    result = .ok (report (wrote ref history)) ∧
      (wrote ref history = true → aim.start.find? ref ≠ none)

/-- A try settles a resource, or finds that others have. -/
def Tried {α σ : Type} (aim : Aim) (calm : Prop) (ref : Ref) (report : Bool → α) (store : Store) :
    Goal (Attempt σ α) :=
  fun result history after => WroteOnly [ref] history ∧ aim.Met ref after ∧
    (result = .ok (.settled (report (wrote ref history))) ∧
        (wrote ref history = true → aim.start.find? ref ≠ none) ∨
      ¬ calm ∧ ¬ aim.Met ref store ∧ writesOf ref history = 0 ∧
        ∃ conflict next, result = .ok (.stale conflict next))

/-- Nothing stands in the way of a second try, if one may be needed. -/
def Enough (calm : Prop) (budget : Budget) : Prop :=
  calm ∨ budget.flaw = none ∧ 2 ≤ budget.backoff.steps

/-- Between tries nothing was written, and the resource has its content or a
second try is still to be had. -/
def Trying (aim : Aim) (calm : Prop) (ref : Ref) (budget : Budget) (left : Nat)
    (past : List Served) (store : Store) : Prop :=
  WroteNothing past ∧ (aim.start.find? ref = none → aim.Met ref store) ∧
    (aim.Met ref store ∨ calm ∨ budget.flaw = none ∧ 1 ≤ left)

/-- Two tries are enough: after a conflict the resource has its content. -/
theorem ensures_retry {α σ : Type} {budget : Budget} {attempt : σ → Program (Attempt σ α)}
    {report : Bool → α} (enough : Enough calm budget)
    (trying : ∀ start store, (aim.start.find? ref = none → aim.Met ref store) →
      Ensures (aim.around calm) aim.Serves (attempt start) (aim.Tried calm ref report store) store)
    (start : σ) (ready : aim.start.find? ref = none → aim.Met ref store) :
    Ensures (aim.around calm) aim.Serves (retry budget attempt start) (aim.Settles ref report)
      store := by
  have first : aim.Trying calm ref budget budget.backoff.pauseCount [] store := by
    refine ⟨.nil, ready, .inr (enough.imp_right fun ⟨sound, steps⟩ => ⟨sound, ?_⟩)⟩
    unfold Backoff.pauseCount
    omega
  -- Between tries nothing of ours is written; a stale try means that others have done the work.
  refine @ensures_retryFrom α σ _ _ budget attempt (aim.Settles ref report)
    (fun left _ past store => aim.Trying calm ref budget left past store) ?_ _ _ _ start [] store
    first
  intro left start past store trial
  obtain ⟨nothing, ready, chance⟩ := trial
  apply (trying start store ready).mono
  intro result more after tried
  obtain ⟨only, met, outcome⟩ := tried
  have same : wrote ref (past ++ more) = wrote ref more := nothing.wrote_append ref more
  have onlyPast : WroteOnly [ref] past := nothing.only _
  rcases outcome with ⟨rfl, possible⟩ | ⟨stirred, lacking, none, conflict, next, rfl⟩
  · exact ⟨onlyPast.append only, met, by rw [same], by rwa [same]⟩
  · obtain ⟨sound, left_pos⟩ := (chance.resolve_left lacking).resolve_left stirred
    refine ⟨fun spent => ?_, fun flawed => absurd sound flawed, fun fewer _ => ?_⟩
    · omega
    · refine ⟨nothing.append fun other => ?_, fun _ => met, .inl met⟩
      by_cases isRef : other = ref
      · rw [isRef]
        exact none
      · exact only other (by simpa using isRef)

end Aim
end CuratorKeeper
