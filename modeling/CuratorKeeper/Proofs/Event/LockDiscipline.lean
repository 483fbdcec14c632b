import CuratorKeeper.Proofs.Event.Overlap

/-!
# The discipline of the locks

Handlers serve events of any objects one after another, while ticks of the served object
fall due in between.  However a handler ends, it gives back the lock that it took, ticks
that fell due while it was at work were skipped, and the locks of other objects are as
they were.  Only a deletion drops the lock, and only when its teardown has succeeded.
-/

namespace CuratorKeeper

theorem eq_nil_of_cons_eq_append_cons {α : Type} {separator : α} {ahead rest behind : List α}
    (early : separator ∉ ahead) (same : separator :: ahead = rest ++ separator :: behind) :
    rest = [] := by
  cases rest with
  | nil => rfl
  | cons head rest =>
      have tail := (List.cons.inj same).2
      simp [tail] at early

/-- Objects whose names have no slash have locks of their own. -/
theorem Event.key_injective {event other : Event} (plain : '/' ∉ event.name.toList)
    (otherPlain : '/' ∉ other.name.toList) (same : event.key = other.key) :
    event.space = other.space ∧ event.name = other.name := by
  have letters : event.space.toList ++ '/' :: event.name.toList =
      other.space.toList ++ '/' :: other.name.toList := by
    simpa [key] using congrArg String.toList same
  have spaces : event.space.toList = other.space.toList := by
    rcases List.append_eq_append_iff.mp letters with ⟨rest, spaces, names⟩ | ⟨rest, spaces, names⟩
    · rw [spaces, eq_nil_of_cons_eq_append_cons plain names, List.append_nil]
    · rw [spaces, eq_nil_of_cons_eq_append_cons otherPlain names, List.append_nil]
  rw [spaces] at letters
  have names := (List.cons.inj (List.append_cancel_left letters)).2
  exact ⟨String.toList_injective spaces, String.toList_injective names⟩

namespace LockTable

def find? (locks : LockTable) (key : String) : Option Bool := locks.entries.lookup key

theorem isHeld_eq (locks : LockTable) (key : String) :
    locks.isHeld key = (locks.find? key).getD false := rfl

@[simp]
theorem find?_set_self (locks : LockTable) (key : String) (held : Bool) :
    (locks.set key held).find? key = some held :=
  lookup_setEntry_self key held locks.entries

theorem find?_set_of_ne (locks : LockTable) {key other : String} (different : other ≠ key)
    (held : Bool) : (locks.set key held).find? other = locks.find? other :=
  lookup_setEntry_of_ne different held locks.entries

@[simp]
theorem find?_forget_self (locks : LockTable) (key : String) :
    (locks.act key .forget).2.find? key = none := by
  simp only [act, find?, List.lookup_eq_none_iff, List.mem_filter]
  rintro ⟨present, held⟩ ⟨-, other⟩
  exact bne_iff_ne.mpr (Ne.symm (of_decide_eq_true other))

theorem find?_forget_of_ne (locks : LockTable) {key other : String} (different : other ≠ key) :
    (locks.act key .forget).2.find? other = locks.find? other := by
  obtain ⟨entries⟩ := locks
  simp only [act, find?]
  induction entries with
  | nil => rfl
  | cons entry rest ih =>
      obtain ⟨present, held⟩ := entry
      by_cases own : present = key
      · subst own
        rw [List.filter_cons_of_neg (by simp), ih, List.lookup_cons, beq_false_of_ne different]
      · rw [List.filter_cons_of_pos (by simp [own]), List.lookup_cons, List.lookup_cons, ih]

end LockTable

def Busy.act (busy : Busy) (key : String) (action : LockAction) : Busy :=
  { busy with world := { busy.world with locks := (busy.world.locks.act key action).2 } }

section Handlers

variable {α : Type} {event : Event} {busy : Busy}

/-- A lock is given back however the program ends. -/
theorem runBusy_thenRelease (object : Event) (key : String) (program : Program α) (busy : Busy) :
    (program.thenAlways (.effect (.lock key .release))).runBusy object busy =
      ((program.runBusy object busy).1, (program.runBusy object busy).2.act key .release) := by
  have released : ∀ last : Busy, (Program.effect (.lock key .release)).runBusy object last =
      (.ok (), last.act key .release) := fun _ => rfl
  simp only [Program.thenAlways, Program.runBusy_bind, Program.runBusy_attempt, released,
    Program.runBusy_ofExcept]

theorem runBusy_locked (event object : Event) (program : Program α) (busy : Busy) :
    (event.locked program).runBusy object busy =
      ((program.runBusy object (busy.act event.key .hold)).1,
        (program.runBusy object (busy.act event.key .hold)).2.act event.key .release) := by
  have held : (Program.effect (.lock event.key .hold)).runBusy object busy =
      (.ok (), busy.act event.key .hold) := rfl
  simp only [Event.locked, Program.bind_eq, Program.runBusy_bind, held, runBusy_thenRelease]

/-- A tick that finds the lock free does what the handler of a change does. -/
theorem runBusy_serveTick {settings : Settings} {inputs : Inputs}
    (free : busy.world.locks.isHeld event.key = false) :
    (event.serveTick settings inputs).runBusy event busy =
      ((event.serveChange settings inputs).bind fun _ => .done ()).runBusy event busy := by
  have tried : (Program.effect (.lock event.key .tryHold)).runBusy event busy =
      (.ok true, busy.act event.key .hold) := by
    simp [Program.effect, Program.runBusy, Busy.handle, World.handle, LockTable.act, free, Busy.act]
  simp only [Event.serveTick, Event.serveChange, Program.bind_eq, Program.runBusy_bind, tried,
    if_true, runBusy_locked, runBusy_thenRelease, Program.pure_eq]

theorem guards_locked (event : Event) {program : Program α} (guarded : program.Guarded event)
    (busy : Busy) :
    let after := ((event.locked program).runBusy event busy).2
    after.world.locks = (busy.world.locks.set event.key true).set event.key false ∧
      ∀ overlap ∈ after.past, overlap ∈ busy.past ∨ overlap.Skipped event := by
  have held : (busy.act event.key .hold).world.locks.isHeld event.key = true :=
    LockTable.isHeld_set_self _ _ _
  have guards := guarded _ held
  rw [runBusy_locked]
  exact ⟨congrArg (LockTable.set · event.key false) guards.locks, guards.skipped⟩

end Handlers

/-- What a handler can do to the table of locks: the lock of the object is kept free,
or it is not touched by a deletion of something that cannot be read, or a deletion that
has succeeded drops it. -/
inductive Serving.Leaves (serving : Serving) (locks : LockTable) (result : Except Fault Unit)
    (after : LockTable) : Prop
  | kept (same : after = (locks.set serving.event.key true).set serving.event.key false)
      (failed : serving.occasion = .deletion →
        (∃ cluster, Cluster.ofObject serving.event.body = .ok cluster) ∧ result ≠ .ok ())
  | unread {fault : Fault} (same : after = locks) (deletes : serving.occasion = .deletion)
      (unread : Cluster.ofObject serving.event.body = .error fault) (failed : result ≠ .ok ())
  | dropped {cluster : Cluster}
      (same : after = (((locks.set serving.event.key true).set serving.event.key false).act
        serving.event.key .forget).2)
      (deletes : serving.occasion = .deletion)
      (read : Cluster.ofObject serving.event.body = .ok cluster) (succeeded : result = .ok ())

/-- A handler that finds the lock of the object free leaves the table as described, and
the ticks that fell due meanwhile were skipped. -/
theorem Serving.leaves (serving : Serving) {busy : Busy}
    (free : busy.world.locks.isHeld serving.event.key = false) :
    let ran := serving.program.runBusy serving.event busy
    serving.Leaves busy.world.locks ran.1 ran.2.world.locks ∧
      ∀ overlap ∈ ran.2.past, overlap ∈ busy.past ∨ overlap.Skipped serving.event := by
  obtain ⟨occasion, event, settings, inputs⟩ := serving
  have change : (⟨.change, event, settings, inputs⟩ : Serving).program.runBusy event busy =
      (((event.serveChange settings inputs).runBusy event busy).1.map fun _ => (),
        ((event.serveChange settings inputs).runBusy event busy).2) := by
    rw [program, Program.runBusy_bind]
    split
    next value after ran => rw [ran]; rfl
    next fault after ran => rw [ran]; rfl
  obtain ⟨locks, skipped⟩ :=
    guards_locked event (Program.guarded_pass event settings inputs) busy
  cases occasion with
  | change =>
      rw [change]
      exact ⟨.kept locks (by simp), skipped⟩
  | tick =>
      have tick : (⟨.tick, event, settings, inputs⟩ : Serving).program.runBusy event busy =
          (⟨.change, event, settings, inputs⟩ : Serving).program.runBusy event busy :=
        runBusy_serveTick free
      rw [tick, change]
      exact ⟨.kept locks (by simp), skipped⟩
  | deletion =>
      simp only [program, Event.serveDeletion, Program.liftM_fault, Program.bind_eq]
      cases read : Cluster.ofObject event.body with
      | error fault =>
          exact ⟨.unread rfl rfl read (by simp [Program.ofExcept, Program.runBusy]),
            fun _ member => .inl member⟩
      | ok cluster =>
          have removal : Program.Guarded event (removeCurator cluster) :=
            (Program.heedless_removeCurator cluster).guarded
          obtain ⟨locks, skipped⟩ := guards_locked event
            (Program.guarded_retryLater event settings "Curator cleanup" removal) busy
          simp only [Program.ofExcept, Program.done_bind, Program.runBusy_bind]
          split
          next deleted after ran =>
            rw [ran] at locks skipped
            have forgotten := congrArg (fun table => (table.act event.key .forget).2) locks
            exact ⟨.dropped forgotten rfl read rfl, skipped⟩
          next fault after ran =>
            rw [ran] at locks skipped
            exact ⟨.kept locks fun _ => ⟨⟨cluster, read⟩, by simp⟩, skipped⟩

namespace Serving.Leaves

variable {serving : Serving} {locks after : LockTable} {result : Except Fault Unit}

theorem others (leaves : serving.Leaves locks result after) {key : String}
    (different : key ≠ serving.event.key) : after.find? key = locks.find? key := by
  have kept : ((locks.set serving.event.key true).set serving.event.key false).find? key =
      locks.find? key := by
    rw [LockTable.find?_set_of_ne _ different, LockTable.find?_set_of_ne _ different]
  cases leaves with
  | kept same failed => rw [same, kept]
  | unread same deletes unread failed => rw [same]
  | dropped same deletes read succeeded =>
      rw [same, LockTable.find?_forget_of_ne _ different, kept]

theorem released (leaves : serving.Leaves locks result after)
    (free : ∀ key, locks.isHeld key = false) (key : String) : after.isHeld key = false := by
  by_cases own : key = serving.event.key
  · subst own
    cases leaves with
    | kept same failed => rw [same, LockTable.isHeld_set_self]
    | unread same deletes unread failed => rw [same, free]
    | dropped same deletes read succeeded =>
        rw [same, LockTable.isHeld_eq, LockTable.find?_forget_self, Option.getD_none]
  · rw [LockTable.isHeld_eq, leaves.others own, ← LockTable.isHeld_eq, free]

end Serving.Leaves

/-- An event that is served, and the ticks that fall due meanwhile: some before the first
call of the handler, some before the second one, and so on. -/
structure Round where
  serving : Serving
  coming : List (List Tick)

/-- What came of a round. -/
structure Passage where
  round : Round
  before : World
  result : Except Fault Unit
  after : World
  /-- The ticks that were served while the handler was at work. -/
  overlaps : List Overlap

namespace Round

/-- Serve an event, and the ticks that fall due meanwhile. -/
def passage (round : Round) (world : World) : Passage :=
  let ran := round.serving.program.runBusy round.serving.event ⟨world, round.coming, []⟩
  ⟨round, world, ran.1, ran.2.world, ran.2.past⟩

def trace : List Round → World → List Passage
  | [], _ => []
  | round :: rest, world => round.passage world :: trace rest (round.passage world).after

/-- The round with a change of the object in place of what was served. -/
def asChange (round : Round) : Round :=
  { round with serving := { round.serving with occasion := .change } }

end Round

/-- What came of a round keeps to the discipline of the locks. -/
structure Passage.Disciplined (passage : Passage) : Prop where
  skipped : ∀ overlap ∈ passage.overlaps, overlap.Skipped passage.round.serving.event
  /-- No lock is held any more. -/
  released : ∀ key, passage.after.locks.isHeld key = false
  /-- A change or a tick leaves the object its lock. -/
  kept : passage.round.serving.occasion ≠ .deletion →
    passage.after.locks.find? passage.round.serving.event.key = some false
  /-- A deletion whose teardown has failed leaves the object its lock. -/
  keptByFailure : passage.round.serving.occasion = .deletion →
    (∃ cluster, Cluster.ofObject passage.round.serving.event.body = .ok cluster) →
      passage.result ≠ .ok () →
        passage.after.locks.find? passage.round.serving.event.key = some false
  /-- A deletion that has succeeded drops the lock. -/
  dropped : passage.round.serving.occasion = .deletion → passage.result = .ok () →
    passage.after.locks.find? passage.round.serving.event.key = none
  /-- A deletion of something that cannot be read touches no lock. -/
  unread : passage.round.serving.occasion = .deletion →
    (∃ fault, Cluster.ofObject passage.round.serving.event.body = .error fault) →
      passage.after.locks = passage.before.locks
  /-- Other objects keep their locks as they are. -/
  others : ∀ other : Event, '/' ∉ other.name.toList →
    ¬ (other.space = passage.round.serving.event.space ∧
      other.name = passage.round.serving.event.name) →
      passage.after.locks.find? other.key = passage.before.locks.find? other.key
  /-- A tick that is served does what a change would do. -/
  asChange : passage.round.serving.occasion = .tick →
    let change := passage.round.asChange.passage passage.before
    passage.result = change.result ∧ passage.after = change.after ∧
      passage.overlaps = change.overlaps

theorem Round.disciplined (round : Round) {world : World}
    (plain : '/' ∉ round.serving.event.name.toList)
    (free : ∀ key, world.locks.isHeld key = false) : (round.passage world).Disciplined := by
  obtain ⟨serving, coming⟩ := round
  obtain ⟨leaves, overlaps⟩ := @Serving.leaves serving ⟨world, coming, []⟩ (free serving.event.key)
  refine
    { skipped := fun overlap member => (overlaps overlap member).resolve_left (by simp)
      released := leaves.released free
      kept := fun stays => ?kept
      keptByFailure := fun deletes ⟨cluster, read⟩ failed => ?keptByFailure
      dropped := fun deletes succeeded => ?dropped
      unread := fun deletes ⟨fault, unreadable⟩ => ?unread
      others := fun other otherPlain different => leaves.others fun same => ?others
      asChange := fun isTick => ?asChange }
  case kept =>
    cases leaves with
    | kept same failed => exact same ▸ LockTable.find?_set_self _ _ _
    | unread same deletes unread failed => exact absurd deletes stays
    | dropped same deletes read succeeded => exact absurd deletes stays
  case keptByFailure =>
    cases leaves with
    | kept same failed => exact same ▸ LockTable.find?_set_self _ _ _
    | unread same deletes unread failed => cases read.symm.trans unread
    | dropped same deletes read succeeded => exact absurd succeeded failed
  case dropped =>
    cases leaves with
    | kept same failed => exact absurd succeeded (failed deletes).2
    | unread same deletes unread failed => exact absurd succeeded failed
    | dropped same deletes read succeeded => exact same ▸ LockTable.find?_forget_self _ _
  case unread =>
    cases leaves with
    | kept same failed =>
        obtain ⟨⟨cluster, read⟩, -⟩ := failed deletes
        cases read.symm.trans unreadable
    | unread same deletes unread failed => exact same
    | dropped same deletes read succeeded => cases read.symm.trans unreadable
  case others => exact different (Event.key_injective otherPlain plain same)
  case asChange =>
    obtain ⟨occasion, event, settings, inputs⟩ := serving
    obtain rfl : occasion = .tick := isTick
    have ran : (event.serveTick settings inputs).runBusy event ⟨world, coming, []⟩ =
        ((event.serveChange settings inputs).bind fun _ => .done ()).runBusy event
          ⟨world, coming, []⟩ :=
      runBusy_serveTick (free event.key)
    simp only [passage, asChange, Serving.program, ran, and_self]

/-- Whatever handlers serve whatever objects one after another, and whatever becomes of
them, every round keeps to the discipline of the locks. -/
theorem Round.trace_disciplined (rounds : List Round) (world : World)
    (plain : ∀ round ∈ rounds, '/' ∉ round.serving.event.name.toList)
    (free : ∀ key, world.locks.isHeld key = false) :
    ∀ passage ∈ trace rounds world, passage.Disciplined := by
  induction rounds generalizing world with
  | nil => simp [trace]
  | cons round rest ih =>
      obtain ⟨plainFirst, plainRest⟩ := List.forall_mem_cons.mp plain
      have first := round.disciplined plainFirst free
      exact List.forall_mem_cons.mpr ⟨first, ih _ plainRest first.released⟩

/-- A change and a tick are served, then deletions of which one cannot be read, one fails
and one succeeds; ticks fall due before calls of the change and of the deletions. -/
theorem overlapping_trace_disciplined :
    let change := changeOf "ClusterLogging" "instance" [("type", "curator")]
    let other := changeOf "ClusterLogging" "other" []
    let deletion := { change with occasion := .deletion }
    let unreadable := { deletion with event := { change.event with body := .null } }
    let tick : Tick := ⟨change.event.body, {}, change.inputs⟩
    let rounds : List Round :=
      [⟨other, []⟩, ⟨change, [[tick], [], [tick, tick]]⟩, ⟨{ change with occasion := .tick }, []⟩,
        ⟨unreadable, [[tick]]⟩, ⟨deletion, [[tick]]⟩, ⟨deletion, [[tick]]⟩]
    let world : World := { waiting := fun verb =>
      if verb = .delete then [[], [], [], [], [⟨.fail (.curation "lost"), none⟩]] else [] }
    ((Round.trace rounds world).map fun passage =>
        (passage.result.isOk, passage.overlaps.length, passage.after.locks.entries.map Prod.fst)) =
      [(true, 0, ["logging/other"]), (true, 3, ["logging/other", "logging/instance"]),
        (true, 0, ["logging/other", "logging/instance"]),
        (false, 0, ["logging/other", "logging/instance"]),
        (false, 1, ["logging/other", "logging/instance"]), (true, 1, ["logging/other"])] ∧
      ∀ passage ∈ Round.trace rounds world, passage.Disciplined := by
  intro change other deletion unreadable tick rounds world
  exact ⟨by decide +kernel, Round.trace_disciplined rounds world (by decide) fun _ => rfl⟩

end CuratorKeeper
