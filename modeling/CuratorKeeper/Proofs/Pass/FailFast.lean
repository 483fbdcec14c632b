import CuratorKeeper.Proofs.Pass.Made
import CuratorKeeper.Proofs.Pass.Recovery

/-!
# Which errors end a pass

As long as all resources are of good shape a pass ends early for nothing but an
error of the store.  Everything that a pass writes is of good shape again, so that
what was so at the start stays so.  Then each error of the store is either absorbed
at its place, and the pass goes on, or it is the last the pass hears of the store.
-/

namespace CuratorKeeper

open Grammar

section Shapes

variable {live patched : Value}

theorem JobShaped.withStatus {derived : Value} (shaped : JobShaped live)
    (written : withStatus live derived = .ok patched) : JobShaped patched := by
  obtain ⟨agrees, -⟩ := withStatus_eq_ok written
  obtain ⟨status, curation, assigned, -⟩ := withStatus_last written
  have same : ∀ path, Apart statusPlace path → patched.at? path = live.at? path := by
    intro path apart
    exact (agrees path fun place member => List.mem_singleton.mp member ▸ apart).symm
  constructor
  · rw [same _ (by decide)]
    exact shaped.schedule
  · rw [same _ (by decide)]
    exact shaped.container
  · exact .inr ⟨status, Value.part?_assign_self assigned⟩
  · rw [same _ (by decide)]
    exact shaped.lastTime

theorem OwnerShaped.apply {drift : Drift} (shaped : OwnerShaped live)
    (applied : drift.apply live = .ok patched) : OwnerShaped patched := by
  have status : patched.part? "status" = live.part? "status" :=
    Drift.part?_apply_of_ne applied (by decide)
  constructor
  · rw [status]
    exact shaped.status
  · rw [Value.at?_pair, status, ← Value.at?_pair]
    exact shaped.curation

namespace Cluster

variable {cluster : Cluster} {ref : Ref} {resource content : Value} {before after : Store}

theorem MayWant.shaped (wants : cluster.MayWant ref resource) :
    OwnerShaped resource ∧ (ref ∈ cluster.namedJobs → JobShaped resource) := by
  obtain ⟨settings, files, credentials, desired, made, member, known⟩ := wants
  obtain ⟨jobs, -, rfl⟩ := desired_eq_ok made
  have stranger : ∀ {kind : String}, ref.kind = .text kind → kind ≠ "CronJob" →
      ref ∉ cluster.namedJobs := by
    intro kind isKind other named
    obtain ⟨name, -, rfl⟩ := List.mem_map.mp named
    exact other (Value.text.inj isKind).symm
  rcases List.mem_append.mp member with once | isJob
  · simp only [DesiredSet.writeOnce, List.mem_cons, List.not_mem_nil, or_false] at once
    rcases once with rfl | rfl | rfl <;> cases known
    all_goals exact ⟨⟨.inl rfl, .inl rfl⟩, fun named => absurd named (stranger rfl (by decide))⟩
  · simp only [List.map_map, List.mem_map] at isJob
    obtain ⟨job, -, rfl⟩ := isJob
    exact ⟨⟨.inl rfl, .inl rfl⟩, fun _ => shaped_manifest cluster job⟩

theorem ShapedIn.job (shaped : cluster.ShapedIn before) (named : ref ∈ cluster.namedJobs)
    (found : before.find? ref = some content) : JobShaped content := by
  obtain ⟨name, isName, rfl⟩ := List.mem_map.mp named
  exact shaped.jobs name isName content found

theorem ShapedIn.congr (shaped : cluster.ShapedIn before)
    (same : ∀ ref, after.find? ref = before.find? ref) : cluster.ShapedIn after where
  jobs name named live found := shaped.jobs name named live (same _ ▸ found)
  owner object found := shaped.owner object (same _ ▸ found)

theorem ShapedIn.becomes (shaped : cluster.ShapedIn before)
    (becomes : before.Becomes after ref content)
    (job : ref ∈ cluster.namedJobs → JobShaped content)
    (owner : ref = cluster.ref → OwnerShaped content) : cluster.ShapedIn after := by
  obtain ⟨written, held, same⟩ := becomes.held
  constructor
  · intro name named live found
    by_cases isRef : cluster.jobRef name = ref
    · rw [isRef, held] at found
      obtain rfl := Option.some.inj found
      exact (job (isRef ▸ List.mem_map_of_mem named)).congr same
    · rw [becomes.others _ isRef] at found
      exact shaped.jobs name named live found
  · intro object found
    by_cases isRef : cluster.ref = ref
    · rw [isRef, held] at found
      obtain rfl := Option.some.inj found
      exact (owner isRef.symm).congr same
    · rw [becomes.others _ isRef] at found
      exact shaped.owner object found

end Cluster

theorem Step.Did.shaped {cluster : Cluster} {step : Step} {before after : Store}
    (did : step.Did cluster before after) (shaped : cluster.ShapedIn before) :
    cluster.ShapedIn after := by
  cases did with
  | refused failed same => exact shaped.congr same
  | created wants missing becomes =>
      exact shaped.becomes becomes wants.shaped.2 fun _ => wants.shaped.1
  | readJob => exact shaped
  | readOwner => exact shaped
  | corrected named changes found becomes =>
      obtain ⟨job, drift, -, isDrift, -, applied⟩ := changes
      refine shaped.becomes becomes (fun named => ?_) fun isOwner => ?_
      · refine (shaped.job named found).apply applied fun value told => ?_
        rw [Drift.between_manifest_eq_ok isDrift] at told
        simp only [driftOf, Option.ite_none_left_eq_some, Option.some.injEq] at told
        exact ⟨_, told.2.symm⟩
      · subst isOwner
        exact (shaped.owner _ found).apply applied
  | reported changes found becomes =>
      obtain ⟨stored, derived, -, -, written⟩ := changes
      refine shaped.becomes becomes (fun named => ?_) fun _ => shaped_withStatus written
      exact (shaped.job named found).withStatus written
  | @deleted ref live value before owned found =>
      have gone : ∀ other object, (before.remove ref).find? other = some object →
          before.find? other = some object := by
        intro other object held
        by_cases same : other = ref
        · rw [same, Store.find?_remove_self] at held
          cases held
        · rwa [Store.find?_remove_of_ne (Cluster.plain_of_owned owned) same] at held
      exact ⟨fun name named live held => shaped.jobs name named live (gone _ _ held),
        fun object held => shaped.owner object (gone _ _ held)⟩

end Shapes

section Regular

variable {cluster : Cluster}

/-- Where the resources are of good shape and errors are refusals, answers are regular. -/
theorem Step.Made.regular {step : Step} {served : Served} (made : step.Made served)
    (fits : step.Fits cluster) (shaped : cluster.ShapedIn served.before)
    (refuses : served.Faithful ∨ ∃ refused, served.answer = .error (.store refused)) :
    step.Regular := by
  have plain := fits.plain
  have did := made.did fits
  obtain ⟨site, rfl⟩ := made.exists_site
  obtain ⟨-, -, -, about, sound, -, -⟩ := made
  obtain ⟨request, ref, before, answer, after⟩ := served
  dsimp only at did plain about sound
  constructor
  · rintro fault rfl
    rcases refuses with faithful | ⟨refused, isRefusal⟩
    · exact Store.exists_refusal plain sound about faithful
    · exact ⟨refused, Except.error.inj isRefusal⟩
  · intro resource isOk
    cases did with
    | refused failed => cases isOk.symm.trans failed
    | created | corrected | reported | deleted => trivial
    | readJob reads named found =>
        obtain rfl := Except.ok.inj isOk
        rcases reads with rfl | rfl <;>
          exact ⟨shaped.job named found, sound.ref_of_found plain found⟩
    | readOwner found =>
        obtain rfl := Except.ok.inj isOk
        obtain ⟨version, marked⟩ := sound.marked_of_found found
        exact ⟨shaped.owner _ found, marked.isObject⟩

end Regular

/-- Others leave the resources of a cluster of good shape, and calls fail only for
refusals. -/
def Surroundings.tame (cluster : Cluster) : Surroundings where
  holds := Store.Sound
  mayTurn store before :=
    store.Evolves before ∧ (cluster.ShapedIn store → cluster.ShapedIn before)
  mayAnswer served :=
    served.Faithful ∨
      (∃ refused, served.answer = .error (.store refused)) ∧ served.after = served.before

/-- The store is reached directly.  Whoever comes to it leaves the resources of the
cluster of good shape, and whatever fails a call is an error of the store. -/
structure World.Tame (cluster : Cluster) (world : World) : Prop where
  direct : world.gateway = none
  shaped : ∀ verb, ∀ disturbances ∈ world.waiting verb, ∀ (store : Store) ref, store.Sound →
    cluster.ShapedIn store → cluster.ShapedIn (store.disturbAll ref disturbances).2
  refuses : ∀ verb, ∀ disturbances ∈ world.waiting verb, ∀ (store : Store) ref fault,
    store.Sound → (store.disturbAll ref disturbances).1 = .error fault →
      ∃ refused, fault = .store refused

/-- A script of errors of the store, and nothing else, is tame for every cluster. -/
theorem World.tame_of_script {world : World} (cluster : Cluster) (direct : world.gateway = none)
    (script : ∀ verb, ∀ disturbances ∈ world.waiting verb, ∀ disturbance ∈ disturbances,
      ∃ refused, disturbance.deed = .fail (.store refused)) : world.Tame cluster where
  direct := direct
  shaped verb disturbances waits store ref _ shaped := by
    have fails : ∀ disturbance ∈ disturbances, ∃ fault, disturbance.deed = .fail fault := by
      intro disturbance member
      obtain ⟨refused, isFail⟩ := script verb disturbances waits disturbance member
      exact ⟨_, isFail⟩
    rwa [Store.disturbAll_of_fails fails store ref]
  refuses verb disturbances waits store ref fault _ failed := by
    cases disturbances with
    | nil => cases failed
    | cons disturbance rest =>
        obtain ⟨refused, isFail⟩ := script verb _ waits disturbance List.mem_cons_self
        simp only [Store.disturbAll, Store.disturb, isFail] at failed
        exact ⟨refused, (Except.error.inj failed).symm⟩

theorem Surroundings.tame_covers {cluster : Cluster} {world : World} (promise : Served → Prop)
    (tame : world.Tame cluster) : (Surroundings.tame cluster).Covers promise world where
  direct := tame.direct
  disturbed disturbances waiting store ref sound := by
    obtain ⟨soundAfter, evolves⟩ := Store.disturbAll_ends ref disturbances sound
    rcases waiting with rfl | ⟨verb, waits⟩
    · exact ⟨sound, ⟨evolves, id⟩, nofun⟩
    · refine ⟨soundAfter, ⟨evolves, tame.shaped verb _ waits store ref sound⟩, ?_⟩
      intro request fault failed
      obtain ⟨refused, rfl⟩ := tame.refuses verb _ waits store ref fault sound failed
      exact .inr ⟨⟨refused, rfl⟩, rfl⟩
  faithful served faithful := .inl faithful
  keeps served sound answered _ := by
    rcases answered with faithful | ⟨-, unchanged⟩
    · exact Store.Sound.turn sound faithful.turn
    · rw [unchanged]
      exact sound

namespace Heard

variable {cluster : Cluster} {store last : Store} {asked : List Asked} {history : List Served}
  {steps : List Step}

theorem disturbed (heard : Heard (.tame cluster) store asked history last) :
    Heard .disturbed store asked history last := by
  induction heard with
  | nil store => exact .nil store
  | stray stray rest ih => exact .stray stray ih
  | served about holds turned answered rest ih =>
      refine .served about holds turned.1 (answered.imp_right fun failed => ?_) ih
      obtain ⟨⟨refused, isRefusal⟩, unchanged⟩ := failed
      exact ⟨⟨_, isRefusal⟩, unchanged⟩

/-- In tame surroundings all answers to the steps of a cluster are regular. -/
theorem regular (heard : Heard (.tame cluster) store asked history last)
    (made : List.Forall₂ Step.Made steps history) (fits : ∀ step ∈ steps, step.Fits cluster)
    (shaped : cluster.ShapedIn store) : ∀ step ∈ steps, step.Regular := by
  induction heard generalizing steps with
  | nil store =>
      cases made
      simp
  | stray stray rest ih => exact ih made fits shaped
  | @served served store last asked history about holds turned answered rest ih =>
      cases made with
      | @cons step _ others _ first made =>
          have stepFits := fits step List.mem_cons_self
          have shapedBefore := turned.2 shaped
          have regular := first.regular stepFits shapedBefore (answered.imp_right And.left)
          have shapedAfter := (first.did stepFits).shaped shapedBefore
          intro other member
          rcases List.mem_cons.mp member with rfl | later
          · exact regular
          · exact ih made (fun step listed => fits step (List.mem_cons_of_mem _ listed)) shapedAfter
              other later

end Heard

/-- How a pass ends by its steps.  It returns if it went on after all of them.  It
fails at the first error that is not absorbed where it is met, after which it makes no
call, and its failure tells of that call and that error.  Without inputs or jobs it
fails before its first call. -/
inductive FailsFast (prepared : Prop) (steps : List Step) : Except Fault Outcome → Prop
  | returned {outcome : Outcome} (passed : ∀ step ∈ steps, step.Passes) :
      FailsFast prepared steps (.ok outcome)
  | failed {earlier : List Step} {last : Step} {refused : StoreFault}
      (isLast : steps = earlier ++ [last]) (passed : ∀ step ∈ earlier, step.Passes)
      (answer : last.answer = .error (.store refused))
      (fatal : last.site.absorbs refused.refusal = false) :
      FailsFast prepared steps
        (.error (.pass last.site.operation last.ref.kind last.ref.name (.store refused)))
  | unprepared {fault : Fault} (unprepared : ¬ prepared) (idle : steps = []) :
      FailsFast prepared steps (.error fault)

/-- With regular answers there is no excuse for any other fault. -/
theorem Ended.failsFast {prepared : Prop} {steps : List Step} {result : Except Fault Outcome}
    (ended : Ended False Step.failure steps result) (regular : ∀ step ∈ steps, step.Regular) :
    FailsFast prepared steps result := by
  cases ended with
  | returned passed => exact .returned passed
  | stopped isLast passed answer fatal => exact .failed isLast passed answer fatal
  | upset blame =>
      obtain ⟨step, member, irregular⟩ := blame.resolve_left id
      exact absurd (regular step member) irregular

/-- A pass that cannot be prepared fails while it reads its inputs, without a call. -/
theorem reconcile_unprepared {cluster : Cluster} {settings : Settings} {inputs : Inputs}
    {budget : Budget} {world : World} (enabled : cluster.curation.mode = .enabled)
    (unprepared : ¬ cluster.Prepared settings inputs) (direct : world.gateway = none)
    (sound : world.store.Sound) :
    (reconcile cluster settings inputs budget).history world = [] ∧
      ∃ fault, ((reconcile cluster settings inputs budget).run world).1 = .error fault := by
  have isBuild : reconcile cluster settings inputs budget =
      buildUp cluster settings inputs budget := by
    simp only [reconcile, enabled]
  obtain ⟨lines, asked, -, heard, failed, -, rfl⟩ :=
    (@always_buildUp_unprepared cluster settings inputs budget unprepared).run direct sound
  rw [isBuild]
  refine ⟨?_, failed⟩
  cases history : (buildUp cluster settings inputs budget).history world with
  | nil => rfl
  | cons served rest =>
      rw [history] at heard
      cases heard

/-- A pass over resources of good shape goes on after each error of the store that is
absorbed where it is met, and ends with any other one.  If it returns, then it has gone
through its whole course. -/
theorem reconcile_failsFast {cluster : Cluster} (settings : Settings) (inputs : Inputs)
    (backoff : Backoff) {world : World} (reachable : world.store.Reachable)
    (shaped : cluster.ShapedIn world.store) (tame : world.Tame cluster) :
    let pass := reconcile cluster settings inputs backoff
    ∃ steps : List Step, List.Forall₂ Step.Made steps (pass.history world) ∧
      Begins (course cluster ((max 1 backoff.steps).toNat - 1)) steps ∧
      (∀ outcome, (pass.run world).1 = .ok outcome →
        steps ∈ course cluster ((max 1 backoff.steps).toNat - 1)) ∧
      FailsFast (cluster.curation.mode = .enabled → cluster.Prepared settings inputs) steps
        (pass.run world).1 := by
  intro pass
  have isLeft := backoff.pauseCount_eq
  by_cases prepared : cluster.curation.mode = .enabled → cluster.Prepared settings inputs
  · have taken : Takes False Step.failure pass (course cluster backoff.pauseCount)
        (Outcome.Reports cluster) :=
      takes_reconcile (fun flawed => flawed rfl) fun enabled spoiled => spoiled (prepared enabled)
    obtain ⟨lines, -, asked, heard, steps, went⟩ := Program.run_of_tells
      (Surroundings.tame_covers _ tame) reachable.sound (taken.tells (.tame cluster) world.store)
    have coherent := Cluster.Coherent.of_course went.begins
    have made := heard.disturbed.made went.asked coherent.fits coherent.grounded reachable.sound
      (by simp)
    have regular := heard.regular made coherent.fits shaped
    have whole : ∀ outcome, (pass.run world).1 = .ok outcome →
        steps ∈ course cluster backoff.pauseCount :=
      fun outcome returned => (went.word outcome returned).1
    exact ⟨steps, made, isLeft ▸ went.begins, isLeft ▸ whole, went.ended.failsFast regular⟩
  · obtain ⟨enabled, spoiled⟩ := Classical.not_imp.mp prepared
    obtain ⟨idle, fault, failed⟩ :=
      @reconcile_unprepared _ settings inputs backoff _ enabled spoiled tame.direct reachable.sound
    rw [idle, failed]
    refine ⟨[], .nil, .nil (words_course cluster _), fun outcome returned => ?_,
      .unprepared prepared rfl⟩
    cases returned

def goneFault : StoreFault := ⟨.notFound, "gone", .null, .null, 404⟩

/-- A world whose store refuses the second creation, the first update and the third one. -/
def scriptedWorld : World where
  store := staleStore
  waiting
    | .create => [[], [⟨.fail (.store ⟨.alreadyExists, "raced", .null, .null, 409⟩), none⟩]]
    | .update =>
      [[⟨.fail (.store ⟨.conflict, "raced", .null, .null, 409⟩), none⟩], [],
        [⟨.fail (.store goneFault), none⟩]]
    | _ => []

theorem tame_scriptedWorld : scriptedWorld.Tame plainCluster := by
  refine World.tame_of_script plainCluster rfl fun verb disturbances waits disturbance member => ?_
  cases verb with
  | create =>
      rcases List.mem_pair.mp waits with rfl | rfl
      · cases member
      · exact List.mem_singleton.mp member ▸ ⟨_, rfl⟩
  | update =>
      simp only [scriptedWorld, List.mem_cons, List.not_mem_nil, or_false] at waits
      rcases waits with rfl | rfl | rfl
      · exact List.mem_singleton.mp member ▸ ⟨_, rfl⟩
      · cases member
      · exact List.mem_singleton.mp member ▸ ⟨_, rfl⟩
  | get | delete => cases waits

/-- With two tries for each update the pass goes on after the first two errors and three
more calls for the job, and ends with the error of the update of the status. -/
theorem scripted_reconcile_failsFast :
    let pass := reconcile plainCluster {} ⟨.given [], .given []⟩ ({ steps := 2 } : Backoff)
    (pass.history scriptedWorld).map (fun served => (served.request.verb, served.answer.isOk)) =
        [(.create, true), (.create, false), (.create, true), (.create, false), (.get, true),
          (.update, false), (.get, true), (.update, true), (.get, true), (.get, true),
          (.update, false)] ∧
      (pass.run scriptedWorld).1 =
        .error (.pass "updating status of" "ClusterLogging" "instance" (.store goneFault)) ∧
      ∃ steps : List Step, List.Forall₂ Step.Made steps (pass.history scriptedWorld) ∧
        Begins (course plainCluster 1) steps ∧
        (∀ outcome, (pass.run scriptedWorld).1 = .ok outcome → steps ∈ course plainCluster 1) ∧
        FailsFast (plainCluster.curation.mode = .enabled →
          plainCluster.Prepared {} ⟨.given [], .given []⟩) steps (pass.run scriptedWorld).1 :=
  ⟨by decide +kernel, by decide +kernel,
    reconcile_failsFast {} ⟨.given [], .given []⟩ { steps := 2 } reachable_staleStore
      shaped_staleStore tame_scriptedWorld⟩

end CuratorKeeper
