import CuratorKeeper.Proofs.Pass.Interruption

/-!
# Recovery

A pass that the store cuts short at any call leaves every resource as it was or
as it is to be, and the object of the cluster as it was.  So the next pass that
nobody disturbs leaves what an undisturbed pass would have left at the start,
however many were cut short before.
-/

namespace CuratorKeeper

namespace Program

variable {cluster : Cluster} {settings : Settings} {inputs : Inputs} {budget : Budget}
  {jobs : List Job} {files : Fields} {credentials : List (String × ByteArray)}
  {names : jobs.map Job.name = cluster.jobNames} {store after broken last : Store}

theorem Synced.sameContents {owner : Ref} {derived : Value} {written again : Bool}
    {middle left : Store} (same : store.SameContents middle)
    (sameOwner : middle.find? owner = store.find? owner)
    (first : Synced owner derived store (.ok written) left)
    (second : Synced owner derived middle (.ok again) last) : left.SameContents last := by
  cases first with
  | absent missing =>
      cases second with
      | absent missingAgain => exact same
      | spared held read agrees => exact same
      | written held read differs writes becomes =>
          cases (held.symm.trans sameOwner).trans missing
  | @spared object stored held read agrees =>
      cases second with
      | absent missing => exact same
      | spared heldAgain readAgain agreesAgain => exact same
      | written heldAgain readAgain differs writes becomes =>
          obtain rfl := Option.some.inj ((heldAgain.symm.trans sameOwner).trans held)
          obtain rfl := Except.ok.inj (read.symm.trans readAgain)
          cases differs.symm.trans agrees
  | @written object stored updated _ held read differs writes becomes =>
      cases second with
      | absent missing => cases (missing.symm.trans sameOwner).trans held
      | spared heldAgain readAgain agrees =>
          obtain rfl := Option.some.inj ((heldAgain.symm.trans sameOwner).trans held)
          obtain rfl := Except.ok.inj (read.symm.trans readAgain)
          cases differs.symm.trans agrees
      | written heldAgain readAgain differsAgain writesAgain becomesAgain =>
          obtain rfl := Option.some.inj ((heldAgain.symm.trans sameOwner).trans held)
          obtain rfl := Except.ok.inj (writes.symm.trans writesAgain)
          intro ref
          by_cases isOwner : ref = owner
          · rw [isOwner, becomes.held.content?_eq, becomesAgain.held.content?_eq]
          · rw [Store.content?_of_find?_eq (becomes.others ref isOwner),
              Store.content?_of_find?_eq (becomesAgain.others ref isOwner)]
            exact same ref

/-- After passes that were cut short, a pass over an enabled cluster returns if it
would have returned at the start, and leaves the same. -/
theorem ends_buildUp_recovers (made : cluster.jobs settings = .ok jobs)
    (stranger : cluster.ref ∉ cluster.ownedRefs) :
    (buildUp cluster settings ⟨.given files, .given credentials⟩ budget).Ends store
      fun result left => ∀ outcome, result = .ok outcome → ∀ broken,
        (cluster.building files credentials jobs names).Advances store broken →
          (buildUp cluster settings ⟨.given files, .given credentials⟩ budget).Ends broken
            fun again last => (∃ outcome, again = .ok outcome) ∧ left.SameContents last := by
  refine (ends_buildUp_stages made).mono fun result left staged outcome returned broken cut => ?_
  subst returned
  obtain ⟨middle, written, brings, reportable, synced⟩ := staged
  have workable := (synced.workable brings reportable).advances cut
  refine (ends_buildUp_stages made).mono fun again last stagedAgain => ?_
  cases again with
  | error fault => exact absurd workable (stagedAgain stranger)
  | ok outcomeAgain =>
      obtain ⟨middleAgain, writtenAgain, bringsAgain, -, syncedAgain⟩ := stagedAgain
      have same : middle.SameContents middleAgain :=
        brings.completes.sameContents cut bringsAgain.completes
      have sameOwner : middleAgain.find? cluster.ref = middle.find? cluster.ref := by
        rw [bringsAgain.others _ stranger, brings.others _ stranger]
        exact cut.find?_of_unwanted fun wanted wants => stranger (Cluster.owned_of_building wants)
      have alike : ∀ ref live, middle.find? ref = some live →
          ∃ now, middleAgain.find? ref = some now ∧ ReadsAlike live now := by
        intro ref live found
        obtain ⟨now, isNow, content⟩ := Store.exists_of_content?_eq (same ref) found
        exact ⟨now, isNow, .of_unversioned content⟩
      obtain ⟨-, sameReport⟩ := reportable_of_readsAlike reportable alike
      rw [sameReport] at syncedAgain
      exact ⟨⟨outcomeAgain, rfl⟩, synced.sameContents same sameOwner syncedAgain⟩

/-- A pass over a cluster that is not enabled returns, and removes what is to be
gone. -/
theorem ends_reconcile_clears (unwanted : cluster.curation.mode ≠ .enabled) :
    (reconcile cluster settings inputs budget).Ends store fun result after =>
      (∃ outcome, result = .ok outcome) ∧ cluster.clearing.Completes store after := by
  unfold reconcile
  cases mode : cluster.curation.mode with
  | enabled => exact absurd mode unwanted
  | unknown =>
      refine ⟨⟨_, rfl⟩, fun ref => .inr ⟨?_, rfl⟩⟩
      rintro wanted ⟨disabled, -⟩
      cases mode.symm.trans disabled
  | disabled =>
      simp only [bind_eq]
      rw [ends_bind]
      cases managed : cluster.isManaged with
      | false =>
          simp only [removeCurator, managed, Bool.false_eq_true, if_false, bind_eq]
          refine ⟨⟨_, rfl⟩, fun ref => .inr ⟨?_, rfl⟩⟩
          rintro wanted ⟨-, isManaged, -⟩
          cases managed.symm.trans isManaged
      | true =>
          simp only [removeCurator, managed, if_true]
          refine (ends_deleteAll fun ref => Cluster.plain_of_owned).mono
            fun result after removed => ?_
          obtain ⟨count, rfl, missing, others, -⟩ := removed
          refine ⟨⟨_, rfl⟩, fun ref => ?_⟩
          by_cases owned : ref ∈ cluster.ownedRefs
          · refine .inl ⟨none, ⟨mode, managed, owned, rfl⟩, ?_⟩
            rw [Store.content?, missing ref (.inr owned)]
          · exact .inr ⟨fun wanted wants => owned wants.2.2.1, others ref owned⟩

theorem ends_reconcile_recovers (stranger : cluster.ref ∉ cluster.ownedRefs) (sound : store.Sound) :
    (reconcile cluster settings inputs budget).Ends store fun result left =>
      ∀ outcome, result = .ok outcome → ∀ broken,
        FailedRuns (reconcile cluster settings inputs budget) store broken →
          broken.Sound ∧ broken.find? cluster.ref = store.find? cluster.ref ∧
            (reconcile cluster settings inputs budget).Ends broken fun again last =>
              (∃ outcome, again = .ok outcome) ∧ left.SameContents last := by
  by_cases enabled : cluster.curation.mode = .enabled
  · have whole :
        reconcile cluster settings inputs budget = buildUp cluster settings inputs budget := by
      rw [reconcile, enabled]
    rw [whole]
    refine ends_buildUp_of_given fun files credentials jobs loadsFiles loadsCredentials made => ?_
    have names := Cluster.jobNames_of_jobs made
    refine (@ends_buildUp_recovers _ _ _ _ files credentials names _ made stranger).mono
      fun result left recovers outcome returned broken runs => ?_
    have each : ∀ store, Ensures .failing (fun _ => True) (buildUp cluster settings inputs budget)
        (fun result _ after => ∀ fault, result = .error fault →
          (cluster.building files credentials jobs names).Advances store after) store := by
      intro store
      rw [ensures_buildUp_given loadsFiles loadsCredentials]
      exact failing_buildUp made store
    obtain ⟨soundBroken, cut⟩ :=
      runs.relates (Errand.Advances.refl _) Errand.Advances.trans each sound
    refine ⟨soundBroken, cut.find?_of_unwanted fun wanted wants =>
      stranger (Cluster.owned_of_building wants), ?_⟩
    rw [Ends, ensures_buildUp_given loadsFiles loadsCredentials]
    exact recovers outcome returned broken cut
  · refine (ends_reconcile_clears enabled).mono
      fun result left cleared outcome returned broken runs => ?_
    obtain ⟨soundBroken, cut⟩ := runs.relates (Errand.Advances.refl cluster.clearing)
      Errand.Advances.trans (fun store => (failing_reconcile enabled store).mono
        fun _ _ _ advances _ _ => advances) sound
    refine ⟨soundBroken, cut.find?_of_unwanted fun wanted wants => stranger wants.2.2.1, ?_⟩
    refine (ends_reconcile_clears enabled).mono fun again last clearedAgain => ?_
    exact ⟨clearedAgain.1, cleared.2.sameContents cut clearedAgain.2⟩

end Program

/-- If a pass that nobody disturbs would return, then no matter how many passes
fail before it because the store fails any of their calls, the object of the
cluster stays as it was, and the next undisturbed pass returns and leaves what the
first one would have left, in all but the versions. -/
theorem reconcile_recovers {cluster : Cluster} {settings : Settings} {inputs : Inputs}
    {budget : Budget} {world left : World} {outcome : Outcome} {broken : Store}
    (stranger : cluster.ref.kind ∉ Cluster.ownedKinds) (reachable : world.store.Reachable)
    (calm : world.Calm)
    (returned : (reconcile cluster settings inputs budget).run world = (.ok outcome, left))
    (failed : FailedRuns (reconcile cluster settings inputs budget) world.store broken) :
    broken.find? cluster.ref = world.store.find? cluster.ref ∧
      ∀ again : World, again.Calm → again.store = broken → ∃ outcome last,
        (reconcile cluster settings inputs budget).run again = (.ok outcome, last) ∧
          left.store.SameContents last.store := by
  have unowned : cluster.ref ∉ cluster.ownedRefs :=
    fun owned => stranger (Cluster.kind_of_owned owned)
  obtain ⟨-, recovers⟩ := (@Program.ends_reconcile_recovers cluster settings inputs budget _ unowned
    reachable.sound).run calm reachable.sound
  rw [returned] at recovers
  obtain ⟨soundBroken, sameOwner, ends⟩ := recovers outcome rfl broken failed
  refine ⟨sameOwner, ?_⟩
  rintro again calmAgain rfl
  obtain ⟨-, ⟨outcomeAgain, isOk⟩, same⟩ := ends.run calmAgain soundBroken
  exact ⟨outcomeAgain, _, Prod.ext isOk rfl, same⟩

/-- A pass over the plain cluster, with a single try for each update. -/
def plainPass : Program Outcome :=
  reconcile plainCluster {} ⟨.given [], .given []⟩ ({ steps := 1 } : Backoff)

def outage : StoreFault := ⟨.other, "out of order", .null, .null, 503⟩

/-- A world whose store is out of order when it is asked for an update, after so many
updates that it serves. -/
def outageWorld (store : Store) (served : Nat) : World where
  store := store
  waiting verb :=
    if verb = .update then List.replicate served [] ++ [[⟨.fail (.store outage), none⟩]] else []

theorem onlyFails_outageWorld (store : Store) (served : Nat) :
    (outageWorld store served).OnlyFails where
  direct := rfl
  fails verb disturbances waits disturbance member := by
    by_cases updates : verb = .update
    · simp only [outageWorld, updates, if_true, List.mem_append, List.mem_replicate,
        List.mem_singleton] at waits
      rcases waits with ⟨-, rfl⟩ | rfl
      · cases member
      · rw [List.mem_singleton] at member
        exact ⟨_, congrArg Disturbance.deed member⟩
    · simp [outageWorld, updates] at waits

/-- What a first pass leaves that fails when it corrects the job of the plain cluster. -/
def interrupted : World := (plainPass.run (outageWorld staleStore 0)).2

/-- What a second pass leaves that corrects the job and fails when it writes the
status. -/
def interruptedAgain : World := (plainPass.run (outageWorld interrupted.store 1)).2

theorem failedRuns_interruptedAgain : FailedRuns plainPass staleStore interruptedAgain.store := by
  have first : (plainPass.run (outageWorld staleStore 0)).1 =
      .error (.pass "updating" "CronJob" "curator" (.store outage)) := by decide +kernel
  have second : (plainPass.run (outageWorld interrupted.store 1)).1 =
      .error (.pass "updating status of" "ClusterLogging" "instance" (.store outage)) := by
    decide +kernel
  have ranFirst : plainPass.run (outageWorld staleStore 0) = (.error _, interrupted) :=
    Prod.ext first rfl
  have ranSecond : plainPass.run (outageWorld interrupted.store 1) = (.error _, interruptedAgain) :=
    Prod.ext second rfl
  have last : FailedRuns plainPass interrupted.store interruptedAgain.store :=
    @FailedRuns.run _ _ (outageWorld interrupted.store 1) _ _ _
      (onlyFails_outageWorld interrupted.store 1) ranSecond (.none _)
  exact @FailedRuns.run _ _ (outageWorld staleStore 0) _ _ _ (onlyFails_outageWorld staleStore 0)
    ranFirst last

/-- A third pass completes what two failed ones have begun. -/
theorem interrupted_reconcile_recovers :
    ∃ left, plainPass.run { store := staleStore } =
        (.ok {  mode := .enabled
                created := ["ServiceAccount/curator", "ConfigMap/curator", "Secret/curator"]
                patched := [("curator", ["image", "schedule"])]
                statusWritten := true }, left) ∧
      ¬ staleStore.SameContents interruptedAgain.store ∧
      interruptedAgain.store.find? plainCluster.ref = staleStore.find? plainCluster.ref ∧
        ∃ outcome last, plainPass.run { store := interruptedAgain.store } = (.ok outcome, last) ∧
          left.store.SameContents last.store := by
  have undisturbed : (plainPass.run { store := staleStore }).1 =
      .ok { mode := .enabled
            created := ["ServiceAccount/curator", "ConfigMap/curator", "Secret/curator"]
            patched := [("curator", ["image", "schedule"])]
            statusWritten := true } := by decide +kernel
  have returned : plainPass.run { store := staleStore } = (.ok _, _) := Prod.ext undisturbed rfl
  have differs : interruptedAgain.store.content? (plainCluster.jobRef "curator") ≠
      staleStore.content? (plainCluster.jobRef "curator") := by decide +kernel
  obtain ⟨sameOwner, recovers⟩ := reconcile_recovers (by decide) reachable_staleStore
    ⟨rfl, fun _ => rfl⟩ returned failedRuns_interruptedAgain
  exact ⟨_, returned, fun same => differs (same _), sameOwner,
    recovers { store := interruptedAgain.store } ⟨rfl, fun _ => rfl⟩ rfl⟩

end CuratorKeeper
