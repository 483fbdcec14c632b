import CuratorKeeper.Proofs.Job.Reading
import CuratorKeeper.Proofs.Pass.Settling
import CuratorKeeper.Proofs.Program.Likeness

/-!
# Passes that are alike

A pass looks at the name, the specification and the status of what it reads, and
writes back nothing but a changed specification or status.  So two passes over
what is alike there are alike: whatever else may differ between them makes no
difference to their calls, their faults and their outcomes.
-/

namespace CuratorKeeper

namespace Likeness

variable {like : Likeness} {stage : like.Stage} {live other : Value}

theorem reads_spec (alike : like.value stage live other) :
    other.field? "spec" = live.field? "spec" :=
  (like.reads alike "spec" (by decide)).symm

theorem reads_status (alike : like.value stage live other) :
    other.field? "status" = live.field? "status" :=
  (like.reads alike "status" (by decide)).symm

theorem findDrift_eq (alike : like.value stage live other) (desired : Value) :
    findDrift other desired = findDrift live desired := by
  have spec := reads_spec alike
  simp only [findDrift, like.named alike, Value.fieldD_congr spec, Drift.ofImage,
    Drift.imageOf_congr spec]

theorem copies_apply (alike : like.value stage live other) (drift : Drift) :
    like.Copies stage (drift.apply live) (drift.apply other) := by
  simp only [Drift.apply, Value.modifyItem, Value.item_congr (reads_spec alike)]
  cases live.item "spec" with
  | error mismatch => exact .error mismatch
  | ok spec =>
      simp only [bind, Except.bind]
      split
      next mismatch _ => exact .error mismatch
      next changed _ => exact copies_assign alike (by decide) changed

theorem reportOf_eq (alike : like.value stage live other) (name : String) :
    reportOf name other = reportOf name live := by
  simp only [reportOf, Value.field, Value.fieldD_congr (reads_spec alike),
    Value.fieldD_congr (reads_status alike)]

theorem storedStatus_eq (alike : like.value stage live other) :
    storedStatus other = storedStatus live := by
  simp only [storedStatus, Value.field, Value.fieldD_congr (reads_status alike)]

theorem copies_withStatus (alike : like.value stage live other) (derived : Value) :
    like.Copies stage (withStatus live derived) (withStatus other derived) := by
  simp only [withStatus, Value.field, Value.fieldD_congr (reads_status alike), bind, Except.bind]
  repeat' split
  all_goals first
    | exact .error _
    | exact copies_assign alike (by decide) _

/-- Resources with one reference that are alike. -/
def Makes (like : Likeness) (resource other : Value) : Prop :=
  ∃ ref, Ref.of resource = .ok ref ∧ Ref.of other = .ok ref ∧ like.made resource other

theorem makes_itself {resource : Value} {ref : Ref} (known : Ref.of resource = .ok ref)
    (about : like.about ref) : like.Makes resource resource :=
  ⟨ref, known, known, like.itself known about⟩

/-- All references of a cluster may be asked for. -/
structure Suits (like : Likeness) (cluster : Cluster) : Prop where
  owned : ∀ ref ∈ cluster.ownedRefs, like.about ref
  owner : like.about cluster.ref

end Likeness

namespace Program

variable {like : Likeness} {stage : like.Stage} {cluster : Cluster} {α β : Type}
  {related : α → β → Prop}

theorem resembles_during {refused other : StoreFault}
    (alike : like.fault (.store refused) (.store other)) (operation : String) (ref : Ref) :
    Resembles like related stage (.fail (refused.during operation ref))
      (.fail (other.during operation ref)) :=
  .fail (like.during alike operation ref)

theorem resembles_deleteIfPresent {ref : Ref} (about : like.about ref) :
    Resembles like Eq stage (deleteIfPresent ref) (deleteIfPresent ref) := by
  refine resembles_asked (.delete about) (fun _ _ _ _ _ => ?_) fun _ fault other _ alike => ?_
  · exact resembles_bind_of_eq (resembles_note _ _ fun _ => rfl) fun _ _ _ => .done rfl
  · simp only [Likeness.refusal_eq alike]
    split
    · exact resembles_bind_of_eq (resembles_note _ _ fun _ => rfl) fun _ _ _ => .done rfl
    · exact resembles_during alike _ _

theorem resembles_deleteAll (refs : List Ref) (about : ∀ ref ∈ refs, like.about ref) :
    Resembles like Eq stage (deleteAll refs) (deleteAll refs) := by
  induction refs generalizing stage with
  | nil => exact .done rfl
  | cons ref rest ih =>
      have others := fun ref member => about ref (List.mem_cons_of_mem _ member)
      refine resembles_bind_of_eq (resembles_deleteIfPresent (about ref List.mem_cons_self))
        fun _ deleted _ => ?_
      exact resembles_bind_of_eq (ih others) fun _ count _ => .done rfl

theorem resembles_removeCurator (suits : like.Suits cluster) :
    Resembles like Eq stage (removeCurator cluster) (removeCurator cluster) := by
  unfold removeCurator
  split
  · exact resembles_deleteAll _ suits.owned
  · exact resembles_bind_of_eq (resembles_note _ _ fun _ => rfl) fun _ _ _ => .done rfl

theorem resembles_ensureCreated {resource other : Value} (makes : like.Makes resource other) :
    Resembles like Eq stage (ensureCreated resource) (ensureCreated other) := by
  obtain ⟨ref, known, knownOther, made⟩ := makes
  simp only [ensureCreated, known, knownOther]
  refine resembles_bind_of_eq (resembles_known _) fun _ ref _ => ?_
  refine resembles_asked (.create made) (fun _ _ _ _ _ => ?_) fun _ fault refused _ alike => ?_
  · exact resembles_bind_of_eq (resembles_note _ _ fun _ => rfl) fun _ _ _ => .done rfl
  · simp only [Likeness.refusal_eq alike]
    split
    · exact resembles_bind_of_eq (resembles_note _ _ fun _ => rfl) fun _ _ _ => .done rfl
    · exact resembles_during alike _ _

theorem resembles_createAll {resources others : List Value}
    (makes : List.Forall₂ like.Makes resources others) :
    Resembles like Eq stage (createAll resources) (createAll others) := by
  induction makes generalizing stage with
  | nil => exact .done rfl
  | cons first rest ih =>
      refine resembles_bind_of_eq (resembles_ensureCreated first) fun _ created _ => ?_
      obtain ⟨ref, known, knownOther, -⟩ := first
      simp only [outcomeName_eq known, outcomeName_eq knownOther]
      refine resembles_bind_of_eq (resembles_known _) fun _ name _ => ?_
      exact resembles_bind_of_eq ih fun _ names _ => .done rfl

theorem quiet_noteDrift (change : Option Value) (text : String) (name : Value) :
    ∃ result, Quiet (noteDrift change text name) result := by
  unfold noteDrift
  split
  · exact ⟨_, .note (.done _)⟩
  · exact ⟨_, .done _⟩

theorem quiet_findDrift (live desired : Value) :
    ∃ result, Quiet (findDrift live desired) result := by
  refine Quiet.bind ⟨_, .ofExcept _⟩ fun name => ?_
  refine Quiet.bind ⟨_, .ofExcept _⟩ fun liveSpec => ?_
  refine Quiet.bind ⟨_, .ofExcept _⟩ fun desiredSpec => ?_
  refine Quiet.bind ⟨_, .ofExcept _⟩ fun schedule => ?_
  refine Quiet.bind (quiet_noteDrift _ _ _) fun _ => ?_
  refine Quiet.bind ⟨_, .ofExcept _⟩ fun suspend => ?_
  refine Quiet.bind (quiet_noteDrift _ _ _) fun _ => ?_
  refine Quiet.bind ⟨_, .ofExcept _⟩ fun image => ?_
  exact Quiet.bind (quiet_noteDrift _ _ _) fun _ => ⟨_, .done _⟩

theorem resembles_submitUpdate (ref : Ref) {patched other : Value}
    (alike : like.value stage patched other) :
    Resembles like Eq stage (submitUpdate ref patched) (submitUpdate ref other) := by
  refine resembles_asked (.update alike none) (fun _ _ _ _ _ => .done rfl)
    fun _ fault refused _ alike => ?_
  simp only [Likeness.refusal_eq alike]
  split
  · exact .fail alike
  · exact resembles_during alike _ _

theorem resembles_correctDrift {desired : Value} {ref : Ref} (known : Ref.of desired = .ok ref)
    (about : like.about ref) :
    Resembles like Eq stage (correctDrift desired) (correctDrift desired) := by
  simp only [correctDrift, known]
  refine resembles_asked (.get about) (fun last live other _ alike => ?_)
    fun _ fault refused _ alike => ?_
  · replace alike := alike rfl
    obtain ⟨_, quiet⟩ := quiet_findDrift live desired
    simp only [Likeness.findDrift_eq alike desired]
    refine resembles_bind_of_eq quiet.resembles fun final drift isLater => ?_
    split
    · refine resembles_copy_bind (Likeness.copies_apply (like.keeps isLater alike) drift)
        fun patched other patchedAlike => ?_
      exact resembles_bind_of_eq (resembles_submitUpdate ref patchedAlike) fun _ _ _ => .done rfl
    · exact .done rfl
  · simp only [Likeness.refusal_eq alike]
    split
    · exact resembles_bind_of_eq (resembles_note _ _ fun _ => rfl) fun _ _ _ => .done rfl
    · exact resembles_during alike _ _

theorem resembles_correctWithRetry {desired : Value} {ref : Ref} (known : Ref.of desired = .ok ref)
    (about : like.about ref) (budget : Budget) :
    Resembles like Eq stage (correctWithRetry desired budget)
      (correctWithRetry desired budget) := by
  refine resembles_retry (fun stage _ => resembles_ofProgram ?_) ()
  refine resembles_map (resembles_correctDrift known about) ?_
  rintro drift _ rfl
  exact .settled drift

theorem resembles_reconcileJob {desired : Value} {ref : Ref} (known : Ref.of desired = .ok ref)
    (about : like.about ref) (budget : Budget) :
    Resembles like Eq stage (reconcileJob cluster desired budget)
      (reconcileJob cluster desired budget) := by
  refine resembles_bind_of_eq (resembles_ensureCreated (Likeness.makes_itself known about))
    fun _ created _ => ?_
  split
  · exact .done rfl
  · refine resembles_bind (resembles_attempt (resembles_correctWithRetry known about budget))
      fun _ result other _ ends => ?_
    cases ends with
    | ok same =>
        cases same
        exact .done rfl
    | @error failure told alike =>
        have refusal := like.refusal alike
        cases failure with
        | store refused =>
            cases told with
            | store worded =>
                simp only [Likeness.refusal_eq alike]
                split
                · refine resembles_bind_of_eq (resembles_known _) fun _ ref _ => ?_
                  exact resembles_during alike _ _
                · exact .fail alike
            | _ => cases refusal
        | _ =>
            cases told with
            | store worded => cases refusal
            | _ => exact .fail alike

theorem resembles_reconcileJobs {budget : Budget} (entries : List (Job × Value))
    (alike : ∀ stage, ∀ entry ∈ entries, Resembles like Eq stage
      (reconcileJob cluster entry.2 budget) (reconcileJob cluster entry.2 budget)) :
    Resembles like Eq stage (reconcileJobs cluster budget entries)
      (reconcileJobs cluster budget entries) := by
  induction entries generalizing stage with
  | nil => exact .done rfl
  | cons entry rest ih =>
      refine resembles_bind_of_eq (alike stage entry List.mem_cons_self) fun _ correction _ => ?_
      refine resembles_bind_of_eq (ih fun stage entry member => ?_) fun _ others _ => .done rfl
      exact alike stage entry (List.mem_cons_of_mem _ member)

theorem resembles_reportJob {ref : Ref} (about : like.about ref) (name : String) :
    Resembles like Eq stage (reportJob ref name) (reportJob ref name) := by
  refine resembles_asked (.get about) (fun _ live other _ alike => ?_)
    fun _ fault refused _ alike => ?_
  · simp only [Likeness.reportOf_eq (alike rfl) name]
    exact resembles_bind_of_eq (resembles_known _) fun _ report _ => .done rfl
  · simp only [Likeness.refusal_eq alike]
    split
    · exact .done rfl
    · exact resembles_during alike _ _

theorem resembles_reportJobs (names : List String)
    (about : ∀ name ∈ names, like.about (cluster.jobRef name)) :
    Resembles like Eq stage (reportJobs cluster.space names) (reportJobs cluster.space names) := by
  induction names generalizing stage with
  | nil => exact .done rfl
  | cons name rest ih =>
      have others := fun name member => about name (List.mem_cons_of_mem _ member)
      refine resembles_bind_of_eq (resembles_reportJob (about name List.mem_cons_self) name)
        fun _ report _ => ?_
      exact resembles_bind_of_eq (ih others) fun _ reports _ => .done rfl

theorem resembles_writeStatus {object other : Value} (alike : like.value stage object other)
    (derived : Value) :
    Resembles like Eq stage (writeStatus object derived) (writeStatus other derived) := by
  refine resembles_copy_bind (Likeness.copies_withStatus alike derived)
    fun updated other updatedAlike => ?_
  exact resembles_ask_bind (.update updatedAlike _) fun _ _ _ _ => .done rfl

theorem resembles_syncOnce {owner : Ref} (about : like.about owner) (derived : Value)
    (pending : Bool) :
    Resembles like like.Tries stage (syncOnce cluster owner derived pending)
      (syncOnce cluster owner derived pending) := by
  apply resembles_ofProgram
  refine resembles_asked (.get about) (fun last object other _ alike => ?_)
    fun _ fault refused _ alike => ?_
  · replace alike := alike rfl
    have writes : ∀ {final}, like.later last final → Resembles like like.Tries final
        (Attempt.ofProgram false (.settled <$> writeStatus object derived))
        (Attempt.ofProgram false (.settled <$> writeStatus other derived)) := by
      intro final isLater
      have written := resembles_writeStatus (like.keeps isLater alike) derived
      refine resembles_ofProgram (resembles_map written ?_)
      rintro written _ rfl
      exact .settled written
    simp only [Likeness.storedStatus_eq alike]
    refine resembles_bind_of_eq (resembles_known _) fun _ stored isLater => ?_
    split
    · exact .done (.settled false)
    · split
      · exact resembles_bind_of_eq (resembles_note _ _ fun _ => rfl) fun _ _ isFinal =>
          writes (like.trans isLater isFinal)
      · exact writes isLater
  · simp only [Likeness.refusal_eq alike]
    split
    · exact .done (.settled false)
    · exact .fail alike

theorem resembles_syncStatus (suits : like.Suits cluster) (budget : Budget) :
    Resembles like Eq stage (syncStatus cluster cluster.ref budget)
      (syncStatus cluster cluster.ref budget) := by
  have jobs : ∀ name ∈ cluster.jobNames, like.about (cluster.jobRef name) := fun name named =>
    suits.owned _ (List.mem_append_right _ (List.mem_map_of_mem named))
  refine resembles_bind_of_eq (resembles_reportJobs _ jobs) fun last reports _ => ?_
  have looped : Resembles like Eq last
      (retry budget (syncOnce cluster cluster.ref (statusOf reports)) true)
      (retry budget (syncOnce cluster cluster.ref (statusOf reports)) true) :=
    resembles_retry (fun _ pending => resembles_syncOnce suits.owner _ pending) true
  refine resembles_bind (resembles_catchStore looped) fun _ result other _ caught => ?_
  cases caught with
  | ok same =>
      cases same
      exact .done rfl
  | error alike => exact resembles_during alike _ _

/-- Passes with the same files, and with credentials that make secrets that are
alike, are alike. -/
theorem resembles_reconcile (suits : like.Suits cluster) (settings : Settings)
    {inputs others : Inputs} (files : others.files = inputs.files)
    (credentials : ∀ stage, Resembles like
      (fun first second => like.made (cluster.secret first) (cluster.secret second)) stage
      inputs.loadCredentials others.loadCredentials) (budget : Budget) :
    Resembles like Eq stage (reconcile cluster settings inputs budget)
      (reconcile cluster settings others budget) := by
  unfold reconcile
  split
  · obtain ⟨_, quiet⟩ := quiet_loadFiles inputs
    have loaded : others.loadFiles = inputs.loadFiles := by
      rw [Inputs.loadFiles, Inputs.loadFiles, files]
    simp only [buildUp, loaded]
    refine resembles_bind_of_eq quiet.resembles fun _ files _ => ?_
    refine resembles_bind (credentials _) fun _ first second _ secrets => ?_
    cases made : cluster.jobs settings with
    | error failure =>
        simp only [Cluster.desired, made]
        exact .fail (like.unfailing _)
    | ok jobs =>
        simp only [Cluster.desired_of_jobs made, liftM_fault, ofExcept, bind_eq, done_bind]
        have serviceAccount : like.about ⟨"ServiceAccount", cluster.space, curatorName⟩ :=
          suits.owned _ (List.mem_append_left _ (by simp))
        have configMap : like.about ⟨"ConfigMap", cluster.space, curatorName⟩ :=
          suits.owned _ (List.mem_append_left _ (by simp))
        have written : List.Forall₂ like.Makes
            [cluster.serviceAccount, cluster.configMap files, cluster.secret first]
            [cluster.serviceAccount, cluster.configMap files, cluster.secret second] := by
          refine .cons (Likeness.makes_itself rfl serviceAccount) (.cons ?_ ?_)
          · exact Likeness.makes_itself rfl configMap
          · exact .cons ⟨_, rfl, rfl, secrets⟩ .nil
        refine resembles_bind_of_eq (resembles_createAll written) fun _ created _ => ?_
        refine resembles_bind_of_eq (resembles_reconcileJobs _ fun stage entry member => ?_)
          fun _ corrections _ => ?_
        · obtain ⟨job, isJob, rfl⟩ := List.mem_map.mp member
          have named : job.name ∈ cluster.jobNames := by
            rw [← Cluster.jobNames_of_jobs made]
            exact List.mem_map_of_mem isJob
          refine resembles_reconcileJob (cluster.ref_manifest job) (suits.owned _ ?_) budget
          exact List.mem_append_right _ (List.mem_map_of_mem named)
        · exact resembles_bind_of_eq (resembles_syncStatus suits budget)
            fun _ written _ => .done rfl
  · exact resembles_bind_of_eq (resembles_removeCurator suits) fun _ deleted _ => .done rfl
  · exact resembles_bind_of_eq (resembles_note _ _ fun _ => rfl) fun _ _ _ => .done rfl

theorem resembles_reconcile_itself (suits : like.Suits cluster) (settings : Settings)
    (inputs : Inputs) (budget : Budget) :
    Resembles like Eq stage (reconcile cluster settings inputs budget)
      (reconcile cluster settings inputs budget) := by
  refine resembles_reconcile suits settings rfl (fun stage => ?_) budget
  obtain ⟨_, quiet⟩ := quiet_loadCredentials inputs
  refine quiet.resembles.mono ?_
  rintro first _ rfl
  have secret : like.about ⟨"Secret", cluster.space, curatorName⟩ :=
    suits.owned _ (List.mem_append_left _ (by simp))
  exact like.itself rfl secret

end Program
end CuratorKeeper
