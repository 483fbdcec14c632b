import CuratorKeeper.Proofs.Cluster.Acceptance
import CuratorKeeper.Proofs.Event.Deletion
import CuratorKeeper.Proofs.Event.Overlap
import CuratorKeeper.Proofs.Program.Tells

/-!
# What a teardown removes when calls fail

A teardown deletes in order and goes on after each call that was served or found
nothing to delete.  The first other failure ends it, and what is left is the store of
the start without the resources that were deleted up to then.  The handler of a deletion
does the same as a pass over the object without the type of its curation.
-/

namespace CuratorKeeper

/-- The store without the resources under some references; all others stay as they
are, with their versions. -/
def Store.without (store : Store) (refs : List Ref) : Store :=
  { store with entries := store.entries.filter fun entry => !refs.any entry.1.same }

@[simp]
theorem Store.without_nil (store : Store) : store.without [] = store := by
  simp [without]

theorem Store.without_remove (store : Store) (ref : Ref) (refs : List Ref) :
    (store.remove ref).without refs = store.without (ref :: refs) := by
  simp only [without, remove, List.filter_filter, List.any_cons, Bool.not_or]
  congr 1
  exact List.filter_congr fun entry _ => Bool.and_comm _ _

theorem Store.isSome_of_remove {store : Store} {ref other : Ref}
    (found : ((store.remove ref).find? other).isSome = true) :
    (store.find? other).isSome = true := by
  simp only [find?, remove, Option.isSome_map, List.find?_isSome] at found ⊢
  obtain ⟨entry, member, same⟩ := found
  exact ⟨entry, (List.mem_filter.mp member).1, same⟩

/-- A call whose failure, if it fails, tells only that there is nothing to delete. -/
def Served.Absorbed (served : Served) : Prop :=
  ∀ fault, served.answer = .error fault → fault.refusal? = some .notFound

/-- What a fault of a call that deletes a resource ends a teardown with: an error of the
store is told with the resource. -/
def Fault.ofDeletion (ref : Ref) : Fault → Fault
  | .store refused => refused.during "deleting" ref
  | fault => fault

def removedRefs (calls : List Served) : List Ref :=
  (calls.filter fun served => served.answer.isOk).map Served.ref

/-- Resources are deleted in order up to the first call that fails for anything but an
absent resource. -/
structure Removes (refs : List Ref) (store : Store) (calls : List Served)
    (result : Except Fault Nat) (after : Store) : Prop where
  deletes : ∀ served ∈ calls, served.request = .delete served.ref
  /-- The calls are for the first of the resources. -/
  asked : calls.map Served.ref <+: refs
  /-- Another call is made after an absorbed one only. -/
  goesOn : ∀ served ∈ calls.dropLast, served.Absorbed
  /-- What was removed was there. -/
  present : ∀ ref ∈ removedRefs calls, (store.find? ref).isSome = true
  left : after = store.without (removedRefs calls)
  /-- All calls were made and absorbed, or the last was not. -/
  ended :
    (calls.length = refs.length ∧ (∀ served ∈ calls, served.Absorbed) ∧
      result = .ok (removedRefs calls).length) ∨
    ∃ last fault, calls.getLast? = some last ∧ last.answer = .error fault ∧ ¬ last.Absorbed ∧
      result = .error (fault.ofDeletion last.ref)

/-- One deletion: the resource is removed, or there is none, or the call fails. -/
inductive DeletesOne (ref : Ref) (store : Store) : Except Fault Bool → Served → Prop
  | removed (found : (store.find? ref).isSome = true) :
      DeletesOne ref store (.ok true) ⟨.delete ref, ref, store, .ok .null, store.remove ref⟩
  | gone {refused : StoreFault} (absent : refused.refusal = .notFound) :
      DeletesOne ref store (.ok false)
        ⟨.delete ref, ref, store, .error (.store refused), store⟩
  | failed {fault : Fault} (fatal : fault.refusal? ≠ some .notFound) :
      DeletesOne ref store (.error (fault.ofDeletion ref))
        ⟨.delete ref, ref, store, .error fault, store⟩

namespace Removes

variable {ref : Ref} {rest : List Ref} {store last : Store} {served : Served}
  {calls : List Served} {result : Except Fault Nat}

theorem nil (store : Store) : Removes [] store [] (.ok 0) store where
  deletes := by simp
  asked := List.nil_prefix
  goesOn := by simp
  present := by simp [removedRefs]
  left := by simp [removedRefs]
  ended := .inl ⟨rfl, by simp, rfl⟩

/-- After an absorbed call the others are made as if they were the first. -/
theorem cons {deleted : Bool} (first : DeletesOne ref store (.ok deleted) served)
    (others : Removes rest served.after calls result last) :
    Removes (ref :: rest) store (served :: calls)
      (result.map fun count => (if deleted then 1 else 0) + count) last := by
  obtain ⟨deletes, asked, goesOn, present, left, ended⟩ := others
  have absorbed : served.Absorbed := by
    cases first with
    | removed found =>
        rintro fault ⟨⟩
    | gone absent =>
        rintro fault ⟨⟩
        exact congrArg some absent
  have isFirst : served.request = .delete served.ref ∧ served.ref = ref := by
    cases first <;> exact ⟨rfl, rfl⟩
  refine ⟨List.forall_mem_cons.mpr ⟨isFirst.1, deletes⟩, ?_, ?_, ?_, ?_, ?_⟩
  · rw [List.map_cons, isFirst.2]
    exact (List.prefix_cons_inj _).mpr asked
  · intro other member
    cases calls with
    | nil => cases member
    | cons next calls =>
        rcases List.mem_cons.mp member with rfl | later
        · exact absorbed
        · exact goesOn other later
  · cases first with
    | removed found =>
        intro other member
        rcases List.mem_cons.mp member with rfl | later
        · exact found
        · exact Store.isSome_of_remove (present other later)
    | gone absent => exact present
  · cases first with
    | removed found => exact left.trans (Store.without_remove store ref _)
    | gone absent => exact left
  · rcases ended with ⟨all, absorbedAll, rfl⟩ | ⟨final, fault, isLast, failed, fatal, rfl⟩
    · refine .inl ⟨congrArg (· + 1) all, List.forall_mem_cons.mpr ⟨absorbed, absorbedAll⟩, ?_⟩
      cases first with
      | removed found => simp [removedRefs, Except.map, Except.isOk, Except.toBool, Nat.add_comm]
      | gone absent => simp [removedRefs, Except.map, Except.isOk, Except.toBool]
    · refine .inr ⟨final, fault, ?_, failed, fatal, rfl⟩
      rw [List.getLast?_cons, isLast]
      rfl

theorem failed {fault : Fault} (first : DeletesOne ref store (.error fault) served) :
    Removes (ref :: rest) store [served] (.error fault) served.after := by
  cases first with
  | @failed fault fatal =>
      have none : removedRefs [⟨.delete ref, ref, store, .error fault, store⟩] = [] := rfl
      refine ⟨by simp, ?_, by simp, by simp [none], by simp [none], ?_⟩
      · exact (List.prefix_cons_inj _).mpr List.nil_prefix
      · exact .inr ⟨_, fault, rfl, rfl, fun absorbed => fatal (absorbed fault rfl), rfl⟩

end Removes

/-- Nobody else comes to the store, of which nothing is known, but it may fail any call. -/
def Surroundings.refusing : Surroundings where
  holds _ := True
  mayTurn store before := before = store
  mayAnswer served := served.Faithful ∨ served.Injected

theorem Surroundings.refusing_covers (promise : Served → Prop) {world : World}
    (onlyFails : world.OnlyFails) : Surroundings.refusing.Covers promise world where
  direct := onlyFails.direct
  disturbed disturbances waiting store ref _ := by
    have fails : ∀ disturbance ∈ disturbances, ∃ fault, disturbance.deed = .fail fault := by
      rcases waiting with rfl | ⟨verb, member⟩
      · simp
      · exact onlyFails.fails verb disturbances member
    rw [Store.disturbAll_of_fails fails]
    exact ⟨trivial, rfl, fun request fault _ => .inr ⟨⟨fault, rfl⟩, rfl⟩⟩
  faithful served faithful := .inl faithful
  keeps _ _ _ _ := trivial

namespace Program

theorem ensures_deleteIfPresent_failing {ref : Ref} (plain : ref.Plain) (store : Store) :
    Ensures .refusing (fun _ => True) (deleteIfPresent ref) (fun result history after =>
      ∃ served, history = [served] ∧ DeletesOne ref store result served ∧ after = served.after)
      store := by
  rw [deleteIfPresent, bind_eq, ensures_bind, ensures_catchStore, ensures_ask rfl]
  rintro before answer after - rfl answered
  refine ⟨trivial, ?_⟩
  rcases answered with faithful | ⟨⟨fault, isFault⟩, unchanged⟩
  · have served : before.serve ref (.delete ref) = (answer, after) := faithful
    cases found : before.find? ref with
    | none =>
        rw [Store.serve_delete_none plain found] at served
        obtain ⟨rfl, rfl⟩ := Prod.mk.inj served
        exact ⟨_, rfl, .gone rfl, rfl⟩
    | some live =>
        rw [Store.serve_delete_some plain found] at served
        obtain ⟨rfl, rfl⟩ := Prod.mk.inj served
        exact ⟨_, rfl, .removed (by rw [found]; rfl), rfl⟩
  · obtain rfl : answer = .error fault := isFault
    obtain rfl : after = before := unchanged
    by_cases absent : fault.refusal? = some .notFound
    · cases fault with
      | store refused =>
          have isAbsent : refused.refusal = .notFound := Option.some.inj absent
          simp only [caughtStore, isAbsent, if_true]
          exact ⟨_, rfl, .gone isAbsent, rfl⟩
      | _ => cases absent
    · have fails := @DeletesOne.failed ref after fault absent
      cases fault with
      | store refused =>
          have isFatal : refused.refusal ≠ .notFound :=
            fun isAbsent => absent (congrArg some isAbsent)
          simp only [caughtStore, isFatal, if_false]
          exact ⟨_, rfl, fails, rfl⟩
      | _ => exact ⟨_, rfl, fails, rfl⟩

theorem ensures_deleteAll_failing {refs : List Ref} (plain : ∀ ref ∈ refs, ref.Plain)
    (store : Store) :
    Ensures .refusing (fun _ => True) (deleteAll refs)
      (fun result history after => Removes refs store history result after) store := by
  induction refs generalizing store with
  | nil => exact .nil store
  | cons ref rest ih =>
      rw [deleteAll, bind_eq, ensures_bind]
      refine (ensures_deleteIfPresent_failing (plain ref List.mem_cons_self) store).mono
        fun result early middle first => ?_
      obtain ⟨served, rfl, deletes, rfl⟩ := first
      cases result with
      | error fault => exact .failed deletes
      | ok deleted =>
          simp only [bind_eq]
          rw [ensures_bind]
          refine (ih (fun other member => plain other (List.mem_cons_of_mem _ member)) _).mono
            fun result late last others => ?_
          have removes := Removes.cons deletes others
          cases result with
          | error fault => exact removes
          | ok count =>
              change Removes (ref :: rest) store (served :: (late ++ [])) _ last
              rw [List.append_nil]
              exact removes

end Program

theorem Removes.of_onlyFails {cluster : Cluster} {world : World} (managed : cluster.isManaged = true)
    (onlyFails : world.OnlyFails) :
    Removes cluster.ownedRefs world.store ((removeCurator cluster).history world)
      ((removeCurator cluster).run world).1 ((removeCurator cluster).run world).2.store := by
  have isRemoval : removeCurator cluster = deleteAll cluster.ownedRefs := by
    rw [removeCurator, managed]
    rfl
  rw [isRemoval]
  exact (Program.run_of_ensures (Surroundings.refusing_covers _ onlyFails) trivial
    (Program.ensures_deleteAll_failing (fun ref => Cluster.plain_of_owned) world.store)).2.2

def World.relocked (world : World) (locks : LockTable) : World := { world with locks }

theorem World.serve_relocked (world : World) (locks : LockTable) (request : Request) :
    (world.relocked locks).serve request =
      ((world.serve request).1, (world.serve request).2.relocked locks) := by
  unfold serve
  cases request.ref with
  | error mismatch => rfl
  | ok ref =>
      simp only [relocked]
      split <;> rfl

theorem World.handle_call_relocked (world : World) (locks : LockTable) (request : Request) :
    (world.relocked locks).handle (.call request) =
      ((world.handle (.call request)).1, (world.handle (.call request)).2.relocked locks) := by
  have gateway : (world.relocked locks).gateway = world.gateway := rfl
  unfold handle answer serveThrough
  rw [gateway]
  cases world.gateway with
  | none => exact world.serve_relocked locks request
  | some settings =>
      simp only [serve_relocked]
      have library : (world.relocked locks).library = world.library := rfl
      rw [library]
      cases Gateway.plan settings request world.library <;> rfl

theorem World.callOf_relocked (world : World) (locks : LockTable) (request : Request) :
    (world.relocked locks).callOf (.call request) = world.callOf (.call request) := by
  simp only [callOf, serve_relocked]
  rfl

namespace Program

variable {α β : Type}

/-- A program that touches no lock does the same whatever the locks are. -/
theorem Alike.relocked {related : α → β → Prop} {program : Program α} {other : Program β}
    (alike : Alike related program other) (world : World) (locks : LockTable) :
    program.run (world.relocked locks) =
        ((program.run world).1, (program.run world).2.relocked locks) ∧
      program.history (world.relocked locks) = program.history world := by
  -- There is no case for an effect on a lock: a program that is like another has none.
  induction alike generalizing world with
  | done same => exact ⟨rfl, rfl⟩
  | fail same => exact ⟨rfl, rfl⟩
  | @call request next rest further ih =>
      obtain ⟨ran, made⟩ := ih (world.handle (.call request)).1 _ (.refl _)
        (world.handle (.call request)).2
      constructor
      · rw [run_perform, World.handle_call_relocked]
        exact ran
      · rw [history, World.handle_call_relocked, World.callOf_relocked]
        exact congrArg (_ ++ ·) made
  | @note line _ _ _ further ih => exact ih (world.handle (.note line)).2
  | draw further ih => exact ih (world.draws.headD 0.0) (world.handle .draw).2
  | @pause length _ _ further ih => exact ih (world.handle (.pause length)).2

theorem history_bind_silent {rest : α → Program β}
    (silent : ∀ value world, (rest value).history world = []) (program : Program α) (world : World) :
    (program.bind rest).history world = program.history world := by
  induction program generalizing world with
  | done value => exact silent value world
  | fail fault => rfl
  | perform effect next ih => simp only [perform_bind, history, ih]

theorem history_attempt (program : Program α) (world : World) :
    program.attempt.history world = program.history world := by
  induction program generalizing world with
  | done value => rfl
  | fail fault => rfl
  | perform effect next ih => simp only [attempt, history, ih]

end Program

/-- What a handler makes of the result of its work: after a failure of the curation
subsystem the event is served again later. -/
def Settings.verdict {α : Type} (settings : Settings) : Except Fault α → Except Fault Unit
  | .ok _ => .ok ()
  | .error fault =>
    .error (if fault.isCuration then .temporary fault.message settings.retryDelay else fault)

namespace Event

variable {α : Type} {event : Event} {settings : Settings} {program : Program α} {world after : World}

theorem history_locked (event : Event) (program : Program α) (world : World) :
    (event.locked program).history world =
      program.history (world.relocked (world.locks.act event.key .hold).2) := by
  have silent : ∀ (result : Except Fault α) (after : World),
      ((Program.effect (.lock event.key .release)).bind fun _ =>
        Program.ofExcept result).history after = [] := by
    intro result after
    cases result <;> rfl
  have held : (event.locked program).history world =
      (program.thenAlways (.effect (.lock event.key .release))).history
        (world.relocked (world.locks.act event.key .hold).2) := rfl
  rw [held, Program.thenAlways, Program.history_bind_silent silent, Program.history_attempt]

theorem history_retryLater (event : Event) (settings : Settings) (what : String)
    (program : Program α) (world : World) :
    (event.retryLater settings what program).history world = program.history world := by
  rw [retryLater, Program.bind_eq, Program.history_bind_silent ?_, Program.history_attempt]
  intro result after
  cases result with
  | ok value => rfl
  | error fault =>
      simp only
      split <;> rfl

theorem run_retryLater_error {fault : Fault} (what : String)
    (ran : program.run world = (.error fault, after)) :
    ∃ left, (event.retryLater settings what program).run world =
        (.error (if fault.isCuration then .temporary fault.message settings.retryDelay else fault),
          left) ∧ left.store = after.store := by
  simp only [retryLater, Program.bind_eq, Program.run_bind, Program.run_attempt, ran]
  cases fault.isCuration with
  | true => exact ⟨_, rfl, rfl⟩
  | false => exact ⟨_, rfl, rfl⟩

/-- The handler of a deletion makes the calls of the teardown and leaves the store that
it leaves. -/
theorem serveDeletion_follows {cluster : Cluster} (read : Cluster.ofObject event.body = .ok cluster)
    (settings : Settings) (world : World) :
    (event.serveDeletion settings).history world = (removeCurator cluster).history world ∧
      ((event.serveDeletion settings).run world).1 =
        settings.verdict ((removeCurator cluster).run world).1 ∧
      ((event.serveDeletion settings).run world).2.store =
        ((removeCurator cluster).run world).2.store := by
  obtain ⟨ran, made⟩ := (Program.heedless_removeCurator cluster).relocked world
    (world.locks.act event.key .hold).2
  have isHandler : event.serveDeletion settings =
      (event.locked (event.retryLater settings "Curator cleanup" (removeCurator cluster))).bind
        fun deleted => (Program.effect (.lock event.key .forget)).bind fun _ =>
          Program.note .info .handler
            ("Curator cleanup complete for " ++ event.key ++ " (" ++ toString deleted ++
              " deleted)") := by
    simp only [serveDeletion, read, Program.liftM_fault, Program.ofExcept, Program.bind_eq,
      Program.done_bind]
  constructor
  · rw [isHandler, Program.history_bind_silent (fun _ _ => rfl), history_locked,
      history_retryLater, made]
  · cases result : ((removeCurator cluster).run world).1 with
    | ok count =>
        rw [result] at ran
        obtain ⟨left, returned, store, -⟩ := @run_serveDeletion event settings _ _ _ _ read ran
        rw [returned]
        exact ⟨rfl, store⟩
    | error fault =>
        rw [result] at ran
        obtain ⟨left, failed, store⟩ :=
          @run_retryLater_error _ event settings _ _ _ _ "Curator cleanup" ran
        rw [isHandler, Program.run_bind, run_locked failed]
        exact ⟨rfl, store⟩

end Event

theorem reconcile_follows {cluster : Cluster} (disabled : cluster.curation.mode = .disabled)
    (settings : Settings) (inputs : Inputs) (budget : Budget) (world : World) :
    let pass := reconcile cluster settings inputs budget
    pass.history world = (removeCurator cluster).history world ∧
      (pass.run world).1 = ((removeCurator cluster).run world).1.map
        (fun count => { mode := .disabled, deleted := count }) ∧
      (pass.run world).2.store = ((removeCurator cluster).run world).2.store := by
  intro pass
  have isPass : pass = (removeCurator cluster).bind fun count =>
      .done { mode := .disabled, deleted := count } := by
    simp only [pass, reconcile, disabled]
    rfl
  rw [isPass, Program.history_bind_silent (fun _ _ => rfl), Program.run_bind]
  refine ⟨rfl, ?_⟩
  split
  next count after ran =>
    rw [ran]
    exact ⟨rfl, rfl⟩
  next fault after ran =>
    rw [ran]
    exact ⟨rfl, rfl⟩

/-- A world with everything that the plain cluster owns, whose second deletion finds
nothing and whose fourth is refused. -/
def resisting : World where
  store := rebuilt.store
  waiting
    | .delete =>
      [[], [⟨.fail (.store ⟨.notFound, "lost", .null, .null, 404⟩), none⟩], [],
        [⟨.fail (.store ⟨.other, "denied", .null, .null, 403⟩), none⟩]]
    | _ => []

theorem onlyFails_resisting : resisting.OnlyFails where
  direct := rfl
  fails verb disturbances waits disturbance member := by
    cases verb with
    | delete =>
        simp only [resisting, List.mem_cons, List.not_mem_nil, or_false] at waits
        rcases waits with rfl | rfl | rfl | rfl
        · cases member
        · obtain rfl := List.mem_singleton.mp member
          exact ⟨_, rfl⟩
        · cases member
        · obtain rfl := List.mem_singleton.mp member
          exact ⟨_, rfl⟩
    | create | get | update => cases waits

end CuratorKeeper
