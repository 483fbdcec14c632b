import CuratorKeeper.Proofs.Pass.Course
import CuratorKeeper.Proofs.Pass.Interruption

/-!
# Steps as a store serves them

The steps of a course fit the cluster, and each update among them changes what the
step right before it has read.  So when a store serves them, however others disturb
it, an update that is accepted changes the very resource that was read.
-/

namespace CuratorKeeper

open Grammar

/-- The step is one that a pass over the cluster can take. -/
inductive Step.Fits (cluster : Cluster) : Step → Prop
  | creation {ref : Ref} {resource : Value} {answer : Except Fault Value}
      (wants : cluster.MayWant ref resource) :
      Fits cluster ⟨⟨.create resource, answer⟩, .creation, ref⟩
  | jobReading {ref : Ref} {answer : Except Fault Value} (named : ref ∈ cluster.namedJobs) :
      Fits cluster ⟨⟨.get ref, answer⟩, .jobReading, ref⟩
  | correction {ref : Ref} {left : Nat} {live patched : Value} {answer : Except Fault Value}
      (named : ref ∈ cluster.namedJobs) (changes : (cluster.correcting ref).Changes live patched) :
      Fits cluster ⟨⟨.update patched none, answer⟩, .correction left live, ref⟩
  | reportReading {ref : Ref} {answer : Except Fault Value} (named : ref ∈ cluster.namedJobs) :
      Fits cluster ⟨⟨.get ref, answer⟩, .reportReading, ref⟩
  | ownerReading {left : Nat} {answer : Except Fault Value} :
      Fits cluster ⟨⟨.get cluster.ref, answer⟩, .ownerReading left, cluster.ref⟩
  | ownerUpdate {left : Nat} {object updated : Value} {answer : Except Fault Value}
      (changes : reporting.Changes object updated) :
      Fits cluster ⟨⟨.update updated (some "status"), answer⟩, .ownerUpdate left object, cluster.ref⟩
  | deletion {ref : Ref} {answer : Except Fault Value} (owned : ref ∈ cluster.ownedRefs) :
      Fits cluster ⟨⟨.delete ref, answer⟩, .deletion, ref⟩

/-- After a call, if there was one, every update of the steps is made from what the
call right before it has read. -/
def Grounded : Option Asked → List Step → Prop
  | _, [] => True
  | latest, step :: rest =>
    (∀ object, step.site.source? = some object → latest = some ⟨.get step.ref, .ok object⟩) ∧
      Grounded (some step.toAsked) rest

namespace Grounded

variable {latest : Option Asked} {steps more : List Step}

theorem of_none (grounded : Grounded none steps) : Grounded latest steps := by
  cases steps with
  | nil => trivial
  | cons step rest =>
      refine ⟨fun object source => ?_, grounded.2⟩
      cases grounded.1 object source

theorem append (first : Grounded latest steps) (rest : Grounded none more) :
    Grounded latest (steps ++ more) := by
  induction steps generalizing latest with
  | nil => exact rest.of_none
  | cons step others ih => exact ⟨first.1, ih first.2⟩

theorem of_append (both : Grounded latest (steps ++ more)) : Grounded latest steps := by
  induction steps generalizing latest with
  | nil => trivial
  | cons step others ih => exact ⟨both.1, ih both.2⟩

end Grounded

/-- Steps that a pass over the cluster can take one after another. -/
structure Cluster.Coherent (cluster : Cluster) (steps : List Step) : Prop where
  fits : ∀ step ∈ steps, step.Fits cluster
  grounded : Grounded none steps

namespace Cluster.Coherent

variable {cluster : Cluster} {steps more : List Step} {left : Nat}

theorem nil : cluster.Coherent [] := ⟨by simp, trivial⟩

theorem append (first : cluster.Coherent steps) (rest : cluster.Coherent more) :
    cluster.Coherent (steps ++ more) where
  fits step member := (List.mem_append.mp member).elim (first.fits step) (rest.fits step)
  grounded := first.grounded.append rest.grounded

theorem of_append (both : cluster.Coherent (steps ++ more)) : cluster.Coherent steps where
  fits step member := both.fits step (List.mem_append_left _ member)
  grounded := both.grounded.of_append

theorem single {step : Step} (fits : step.Fits cluster) (sourceless : step.site.source? = none) :
    cluster.Coherent [step] where
  fits other member := List.mem_singleton.mp member ▸ fits
  grounded := ⟨fun object source => by simp [sourceless] at source, trivial⟩

theorem of_prod {part : Ref → Language Step} {refs : List Ref}
    (each : ∀ ref ∈ refs, ∀ word ∈ part ref, cluster.Coherent word) :
    ∀ word ∈ (refs.map part).prod, cluster.Coherent word :=
  prod_closed nil (fun _ _ => append) each

/-- A loop is coherent if its readings and its updates fit. -/
theorem of_tries {loop : Loop} {ref : Ref}
    (reads : ∀ left answer, Step.Fits cluster ⟨⟨.get ref, answer⟩, loop.reads left, ref⟩)
    (readsAnew : ∀ left, (loop.reads left).source? = none)
    (writes : ∀ left object changed answer, loop.Changes object changed →
      Step.Fits cluster ⟨⟨.update changed loop.part, answer⟩, loop.writes left object, ref⟩)
    (changes : ∀ left object, (loop.writes left object).source? = some object) (left : Nat) :
    ∀ word ∈ tries loop ref left, cluster.Coherent word := by
  refine tries_closed (fun _ _ => append) ?_ left
  rintro left word (⟨answer, rfl⟩ | ⟨object, changed, answer, isChange, rfl⟩)
  · exact single (reads left answer) (readsAnew left)
  · refine ⟨fun step member => ?_, ?_⟩
    · rcases List.mem_pair.mp member with rfl | rfl
      · exact reads left _
      · exact writes left object changed answer isChange
    · refine ⟨fun source isSource => ?_, fun source isSource => ?_, trivial⟩
      · rw [readsAnew] at isSource
        cases isSource
      · rw [changes] at isSource
        rw [← Option.some.inj isSource]

theorem of_treatment {ref : Ref} (named : ref ∈ cluster.namedJobs) :
    ∀ word ∈ treatment cluster left ref, cluster.Coherent word := by
  rintro word ⟨_, ⟨resource, answer, wants, rfl⟩, others, corrected, rfl⟩
  refine (single (.creation wants) rfl).append ?_
  split at corrected
  · exact of_tries (fun _ _ => .jobReading named) (fun _ => rfl)
      (fun _ _ _ _ changes => .correction named changes) (fun _ _ => rfl) left others corrected
  · obtain rfl : others = [] := corrected
    exact nil

theorem of_course (begins : Begins (course cluster left) steps) : cluster.Coherent steps := by
  obtain ⟨rest, word⟩ := begins
  refine @of_append cluster steps rest ?_
  unfold course at word
  split at word
  · obtain ⟨once, inOnce, _, ⟨jobs, inJobs, _, ⟨reports, inReports, status, inStatus, rfl⟩, rfl⟩,
      isWord⟩ := word
    rw [← isWord]
    refine append ?_ (append ?_ (append ?_ ?_))
    · refine of_prod (fun ref _ => ?_) once inOnce
      rintro word ⟨resource, answer, wants, rfl⟩
      exact single (.creation wants) rfl
    · exact of_prod (fun ref named => of_treatment named) jobs inJobs
    · refine of_prod (fun ref named => ?_) reports inReports
      rintro word ⟨answer, rfl⟩
      exact single (.reportReading named) rfl
    · exact of_tries (fun _ _ => .ownerReading) (fun _ => rfl)
        (fun _ _ _ _ changes => .ownerUpdate changes) (fun _ _ => rfl) left status inStatus
  · unfold Grammar.clearing at word
    split at word
    · refine of_prod (fun ref owned => ?_) _ word
      rintro word ⟨answer, rfl⟩
      exact single (.deletion owned) rfl
    · have none : steps ++ rest = [] := word
      exact none ▸ nil
  · have none : steps ++ rest = [] := word
    exact none ▸ nil

end Cluster.Coherent

namespace Step

variable {cluster : Cluster} {step : Step}

namespace Fits

theorem plain (fits : step.Fits cluster) : step.ref.Plain := by
  have jobs : ∀ ref ∈ cluster.namedJobs, ref.Plain := fun ref named =>
    Cluster.plain_of_owned (List.mem_append_right cluster.onceRefs named)
  cases fits with
  | creation wants => exact Cluster.plain_of_owned wants.owned
  | jobReading named => exact jobs _ named
  | correction named changes => exact jobs _ named
  | reportReading named => exact jobs _ named
  | ownerReading => exact cluster.plain_ref
  | ownerUpdate changes => exact cluster.plain_ref
  | deletion owned => exact Cluster.plain_of_owned owned

theorem keeps (fits : step.Fits cluster) {object : Value}
    (source : step.site.source? = some object) :
    ∃ changed part, step.request = .update changed part ∧
      changed.part? "metadata" = object.part? "metadata" ∧
        ∀ ref, Ref.of object = .ok ref → Ref.of changed = .ok ref := by
  cases fits with
  | correction named changes =>
      obtain rfl := Option.some.inj source
      obtain ⟨job, drift, -, -, -, applied⟩ := changes
      exact ⟨_, _, rfl, Drift.part?_apply_of_ne applied (by decide),
        fun ref => Drift.ref_of_apply applied⟩
  | ownerUpdate changes =>
      obtain rfl := Option.some.inj source
      obtain ⟨stored, derived, -, -, written⟩ := changes
      exact ⟨_, _, rfl, part?_withStatus_of_ne written (by decide),
        fun ref => ref_of_withStatus written⟩
  | creation | jobReading | reportReading | ownerReading | deletion => cases source

/-- A step is about its reference, if an update is made from what has it. -/
theorem about (fits : step.Fits cluster)
    (source : ∀ object, step.site.source? = some object → Ref.of object = .ok step.ref) :
    step.request.ref = .ok step.ref := by
  have updates : ∀ object, step.site.source? = some object → step.request.ref = .ok step.ref := by
    intro object isSource
    obtain ⟨changed, part, isUpdate, -, keepsRef⟩ := fits.keeps isSource
    rw [isUpdate]
    exact keepsRef _ (source object isSource)
  cases fits with
  | creation wants => exact wants.known
  | correction named changes => exact updates _ rfl
  | ownerUpdate changes => exact updates _ rfl
  | jobReading | reportReading | ownerReading | deletion => rfl

end Fits

/-- The step as it was served: an update that was accepted changed what is stored. -/
structure Made (step : Step) (served : Served) : Prop where
  request : served.request = step.request
  ref : served.ref = step.ref
  answer : served.answer = step.answer
  about : served.request.ref = .ok served.ref
  sound : served.before.Sound
  answered : served.Faithful ∨ served.Injected
  source : ∀ object, step.site.source? = some object → served.Accepted →
    served.before.find? served.ref = some object

theorem Made.exists_site {served : Served} (made : step.Made served) :
    ∃ site, step = ⟨⟨served.request, served.answer⟩, site, served.ref⟩ := by
  refine ⟨step.site, ?_⟩
  rw [made.request, made.answer, made.ref]

end Step

/-- However others disturb it, a store serves coherent steps as such. -/
theorem Heard.made {cluster : Cluster} {store last : Store} {asked : List Asked}
    {history : List Served} {steps : List Step} {latest : Option Asked}
    (heard : Heard .disturbed store asked history last) (same : asked = steps.map Step.toAsked)
    (fits : ∀ step ∈ steps, step.Fits cluster) (grounded : Grounded latest steps)
    (sound : store.Sound)
    (read : ∀ ref object, latest = some ⟨.get ref, .ok object⟩ → store.find? ref = some object) :
    List.Forall₂ Step.Made steps history := by
  -- What the latest call has read is still there when others have not come in between.
  induction heard generalizing steps latest with
  | nil store =>
      obtain rfl := List.map_eq_nil_iff.mp same.symm
      exact .nil
  | @stray request mismatch store last asked history stray rest ih =>
      obtain ⟨step, others, rfl, isAsked, -⟩ := List.map_eq_cons_iff.mp same.symm
      have isRequest : step.request = request := congrArg Asked.request isAsked
      have stepFits := fits step List.mem_cons_self
      have about := stepFits.about fun object source =>
        sound.ref_of_found stepFits.plain (read _ _ (grounded.1 object source))
      rw [isRequest, stray] at about
      cases about
  | @served served store last asked history about holds turned answered rest ih =>
      obtain ⟨step, others, rfl, isAsked, isRest⟩ := List.map_eq_cons_iff.mp same.symm
      have isRequest : step.request = served.request := congrArg Asked.request isAsked
      have isAnswer : step.answer = served.answer := congrArg Asked.answer isAsked
      have stepFits := fits step List.mem_cons_self
      have stepAbout := stepFits.about fun object source =>
        sound.ref_of_found stepFits.plain (read _ _ (grounded.1 object source))
      rw [isRequest, about] at stepAbout
      have isRef : served.ref = step.ref := Except.ok.inj stepAbout
      refine .cons ⟨isRequest.symm, isRef, isAnswer.symm, about, holds, answered, ?_⟩ ?_
      · intro object source accepted
        obtain ⟨changed, part, isUpdate, sameMetadata, -⟩ := stepFits.keeps source
        have faithful := accepted.faithful answered
        obtain ⟨value, isOk⟩ := accepted
        have updates : served.before.serve served.ref (.update changed part) =
            (.ok value, served.after) := by
          rw [← isUpdate, isRequest, ← isOk]
          exact faithful
        exact Store.eq_of_update_accepted sound holds turned (read _ _ (grounded.1 object source))
          sameMetadata updates
      · refine ih isRest.symm (fun other member => fits other (List.mem_cons_of_mem _ member)) grounded.2
          ?_ fun ref object isLatest => ?_
        · rcases answered with faithful | ⟨-, unchanged⟩
          · exact holds.turn faithful.turn
          · exact unchanged ▸ holds
        · have isGet : served.request = .get ref ∧ served.answer = .ok object := by
            rw [isAsked] at isLatest
            exact Asked.mk.inj (Option.some.inj isLatest)
          have own : served.ref = ref := by
            rw [isGet.1] at about
            exact (Except.ok.inj about).symm
          have faithful := Served.Accepted.faithful ⟨object, isGet.2⟩ answered
          have gets : served.before.serve ref (.get ref) = (.ok object, served.after) := by
            rw [← isGet.1, ← isGet.2, ← own]
            exact faithful
          obtain ⟨found, unchanged⟩ := Store.serve_get_eq_ok gets
          rw [unchanged, found]

theorem Step.exists_made {steps : List Step} {history : List Served}
    (made : List.Forall₂ Step.Made steps history) :
    ∀ served ∈ history, ∃ step ∈ steps, step.Made served := by
  induction made with
  | nil => simp
  | @cons step served steps history first rest ih =>
      intro other member
      rcases List.mem_cons.mp member with rfl | later
      · exact ⟨step, List.mem_cons_self, first⟩
      · obtain ⟨own, listed, isMade⟩ := ih other later
        exact ⟨own, List.mem_cons_of_mem _ listed, isMade⟩

/-- What a step does to the store that serves it.  Only accepted steps do anything: a
resource is created where there was none, changed from what was there, or removed. -/
inductive Step.Did (cluster : Cluster) : Step → Store → Store → Prop
  | refused {step : Step} {before after : Store} {fault : Fault} (failed : step.answer = .error fault)
      (same : ∀ ref, after.find? ref = before.find? ref) : Did cluster step before after
  | created {ref : Ref} {resource value : Value} {before after : Store}
      (wants : cluster.MayWant ref resource) (missing : before.find? ref = none)
      (becomes : before.Becomes after ref resource) :
      Did cluster ⟨⟨.create resource, .ok value⟩, .creation, ref⟩ before after
  | readJob {site : Site} {ref : Ref} {live : Value} {before : Store}
      (reads : site = .jobReading ∨ site = .reportReading) (named : ref ∈ cluster.namedJobs)
      (found : before.find? ref = some live) :
      Did cluster ⟨⟨.get ref, .ok live⟩, site, ref⟩ before before
  | corrected {ref : Ref} {left : Nat} {live patched value : Value} {before after : Store}
      (named : ref ∈ cluster.namedJobs) (changes : (cluster.correcting ref).Changes live patched)
      (found : before.find? ref = some live) (becomes : before.Becomes after ref patched) :
      Did cluster ⟨⟨.update patched none, .ok value⟩, .correction left live, ref⟩ before after
  | readOwner {left : Nat} {object : Value} {before : Store}
      (found : before.find? cluster.ref = some object) :
      Did cluster ⟨⟨.get cluster.ref, .ok object⟩, .ownerReading left, cluster.ref⟩ before before
  | reported {left : Nat} {object updated value : Value} {before after : Store}
      (changes : reporting.Changes object updated)
      (found : before.find? cluster.ref = some object)
      (becomes : before.Becomes after cluster.ref updated) :
      Did cluster ⟨⟨.update updated (some "status"), .ok value⟩, .ownerUpdate left object, cluster.ref⟩
        before after
  | deleted {ref : Ref} {live value : Value} {before : Store} (owned : ref ∈ cluster.ownedRefs)
      (found : before.find? ref = some live) :
      Did cluster ⟨⟨.delete ref, .ok value⟩, .deletion, ref⟩ before (before.remove ref)

theorem Store.becomes_of_update {store after : Store} {ref : Ref} {object changed value : Value}
    {part : Option String} (plain : ref.Plain) (known : Ref.of changed = .ok ref)
    (found : store.find? ref = some object) (makes : Store.updated object changed part = .ok changed)
    (served : store.serve ref (.update changed part) = (.ok value, after)) :
    store.Becomes after ref changed := by
  obtain ⟨stored, _, _, new, held, -, -, isNew, -, put⟩ := Store.serve_update_eq_ok served
  obtain rfl := Option.some.inj (held.symm.trans found)
  obtain rfl := Except.ok.inj (isNew.symm.trans makes)
  exact (Store.Becomes.of_put plain known put).2

theorem Step.Made.did {cluster : Cluster} {step : Step} {served : Served} (made : step.Made served)
    (fits : step.Fits cluster) : step.Did cluster served.before served.after := by
  have plain := fits.plain
  obtain ⟨site, rfl⟩ := made.exists_site
  obtain ⟨-, -, -, -, sound, answered, source⟩ := made
  obtain ⟨request, ref, before, answer, after⟩ := served
  dsimp only at plain fits sound source
  cases answer with
  | error fault => exact .refused rfl (Served.find?_of_refused answered rfl)
  | ok value =>
      have accepted : Served.Accepted ⟨request, ref, before, .ok value, after⟩ := ⟨value, rfl⟩
      have faithful := accepted.faithful answered
      have serves : before.serve ref request = (.ok value, after) := faithful
      have knownSource : ∀ object, site.source? = some object → Ref.of object = .ok ref :=
        fun object isSource => sound.ref_of_found plain (source object isSource accepted)
      cases fits with
      | creation wants =>
          obtain ⟨missing, becomes⟩ := Served.becomes_of_create plain wants.known faithful
          exact .created wants missing becomes
      | jobReading named =>
          obtain ⟨found, rfl⟩ := Store.serve_get_eq_ok serves
          exact .readJob (.inl rfl) named found
      | reportReading named =>
          obtain ⟨found, rfl⟩ := Store.serve_get_eq_ok serves
          exact .readJob (.inr rfl) named found
      | @correction _ _ live patched _ named changes =>
          have found := source live rfl accepted
          obtain ⟨job, drift, -, -, -, applied⟩ := id changes
          have known := Drift.ref_of_apply applied (knownSource live rfl)
          exact .corrected named changes found (Store.becomes_of_update plain known found rfl serves)
      | ownerReading =>
          obtain ⟨found, rfl⟩ := Store.serve_get_eq_ok serves
          exact .readOwner found
      | @ownerUpdate _ object updated _ changes =>
          have found := source object rfl accepted
          obtain ⟨stored, derived, -, -, written⟩ := id changes
          have known := ref_of_withStatus written (knownSource object rfl)
          exact .reported changes found
            (Store.becomes_of_update plain known found (updated_withStatus written).1 serves)
      | deletion owned =>
          cases found : before.find? ref with
          | none =>
              rw [Store.serve_delete_none plain found] at serves
              cases serves
          | some live =>
              rw [Store.serve_delete_some plain found] at serves
              cases serves
              exact .deleted owned found

end CuratorKeeper
