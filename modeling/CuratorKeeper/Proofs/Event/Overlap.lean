import CuratorKeeper.Proofs.Event.WriteSafety
import CuratorKeeper.Proofs.Gateway.Refinement

/-!
# Ticks that fall due while a handler is at work

The timer of an object may run out while another handler serves the object.  Such a
tick is served before the next call of that handler.  As long as the handler holds the
lock of the object the tick is skipped, and the handler does not notice it but for a
line in the log.
-/

namespace CuratorKeeper

/-- A tick of the timer of an object, with the object as it is by then. -/
structure Tick where
  body : Value
  settings : Settings
  inputs : Inputs

def Tick.serving (object : Event) (tick : Tick) : Serving :=
  ⟨.tick, { object with body := tick.body }, tick.settings, tick.inputs⟩

/-- A tick that was served while another handler was at work, with what came of it. -/
structure Overlap where
  before : World
  result : Except Fault Unit
  after : World

/-- A world in which ticks of an object will fall due: some before the next call, some
before the call after it, and so on.  The ticks that have been served are kept. -/
structure Busy where
  world : World
  coming : List (List Tick) := []
  past : List Overlap := []

def Event.skipLine (object : Event) : LogLine :=
  ⟨.info, .handler, "Reconcile in flight for " ++ object.key ++ ", skipping drift check"⟩

/-- A tick was skipped: it returned nothing, wrote a line and did nothing else, and the
lock of the object stayed held. -/
structure Overlap.Skipped (object : Event) (overlap : Overlap) : Prop where
  returned : overlap.result = .ok ()
  logged : overlap.after = overlap.before.noteLine object.skipLine
  held : overlap.after.locks.isHeld object.key = true

namespace Busy

variable {object : Event}

def serveTick (object : Event) (busy : Busy) (tick : Tick) : Busy :=
  let ran := (tick.serving object).program.run busy.world
  { busy with world := ran.2, past := busy.past ++ [⟨busy.world, ran.1, ran.2⟩] }

/-- Serve the ticks that fall due before the next call. -/
def serveDue (object : Event) (busy : Busy) : Busy :=
  (busy.coming.headD []).foldl (serveTick object) { busy with coming := busy.coming.tail }

/-- Answer an effect; before a call the ticks are served that fall due. -/
def handle (object : Event) (busy : Busy) (effect : Effect) : effect.Reply × Busy :=
  let ready := match effect with
    | .call _ => busy.serveDue object
    | _ => busy
  let handled := ready.world.handle effect
  (handled.1, { ready with world := handled.2 })

/-- The lock of the object has stayed held, no lock was touched, and the ticks that have
been served since were skipped. -/
structure Guards (object : Event) (busy after : Busy) : Prop where
  locks : after.world.locks = busy.world.locks
  skipped : ∀ overlap ∈ after.past, overlap ∈ busy.past ∨ overlap.Skipped object

theorem Guards.refl (busy : Busy) : Guards object busy busy :=
  ⟨rfl, fun _ member => .inl member⟩

theorem Guards.trans {busy middle after : Busy} (first : Guards object busy middle)
    (second : Guards object middle after) : Guards object busy after := by
  refine ⟨second.locks.trans first.locks, fun overlap member => ?_⟩
  rcases second.skipped overlap member with earlier | skipped
  · exact first.skipped overlap earlier
  · exact .inr skipped

end Busy

theorem LockTable.set_of_isHeld {locks : LockTable} {key : String}
    (held : locks.isHeld key = true) : locks.set key true = locks := by
  obtain ⟨entries⟩ := locks
  simp only [isHeld] at held
  simp only [set, LockTable.mk.injEq]
  induction entries with
  | nil => simp at held
  | cons entry rest ih =>
      obtain ⟨present, state⟩ := entry
      by_cases same : present = key
      · subst same
        simp only [List.lookup_cons_self, Option.getD_some] at held
        simp [setEntry, held]
      · rw [List.lookup_cons, beq_false_of_ne (Ne.symm same)] at held
        simp [setEntry, same, ih held]

theorem Event.run_serveTick_of_isHeld {event : Event} (settings : Settings) (inputs : Inputs)
    {world : World} (held : world.locks.isHeld event.key = true) :
    (event.serveTick settings inputs).run world = (.ok (), world.noteLine event.skipLine) := by
  have tried : (Program.effect (.lock event.key .tryHold)).run world = (.ok false, world) := by
    simp [Program.effect, Program.run_perform, World.handle, LockTable.act, held,
      LockTable.set_of_isHeld held]
  simp only [serveTick, Program.bind_eq, Program.run_bind, tried]
  rfl

namespace Busy

variable {object : Event}

theorem guards_serveTick {busy : Busy} (held : busy.world.locks.isHeld object.key = true)
    (tick : Tick) : Guards object busy (busy.serveTick object tick) := by
  have ran : (tick.serving object).program.run busy.world =
      (.ok (), busy.world.noteLine object.skipLine) :=
    Event.run_serveTick_of_isHeld tick.settings tick.inputs held
  refine ⟨by rw [serveTick, ran]; rfl, fun overlap member => ?_⟩
  rw [serveTick, ran, List.mem_append, List.mem_singleton] at member
  rcases member with earlier | rfl
  · exact .inl earlier
  · exact .inr ⟨rfl, rfl, held⟩

theorem guards_foldl_serveTick {busy : Busy} (held : busy.world.locks.isHeld object.key = true)
    (ticks : List Tick) : Guards object busy (ticks.foldl (serveTick object) busy) := by
  induction ticks generalizing busy with
  | nil => exact .refl busy
  | cons tick rest ih =>
      have first := guards_serveTick held tick
      exact first.trans (ih (first.locks ▸ held))

theorem guards_serveDue {busy : Busy} (held : busy.world.locks.isHeld object.key = true) :
    Guards object busy (busy.serveDue object) := by
  let rest : Busy := { busy with coming := busy.coming.tail }
  have guards := @guards_foldl_serveTick object rest held (busy.coming.headD [])
  exact ⟨guards.locks, guards.skipped⟩

end Busy

theorem World.locks_answer (world : World) (request : Request) :
    (world.answer request).2.locks = world.locks := by
  have served : ∀ asked : Request, (world.serve asked).2.locks = world.locks := by
    intro asked
    unfold World.serve
    split
    · rfl
    · dsimp only
      split <;> rfl
  unfold World.answer
  split
  · exact served request
  · unfold World.serveThrough
    split
    · rfl
    · exact served _

/-- Run a program for an object while ticks of the object fall due. -/
def Program.runBusy {α : Type} (object : Event) : Program α → Busy → Except Fault α × Busy
  | .done value, busy => (.ok value, busy)
  | .fail fault, busy => (.error fault, busy)
  | .perform effect next, busy =>
    let handled := busy.handle object effect
    (next handled.1).runBusy object handled.2

namespace Program

variable {α β : Type} {object : Event}

theorem runBusy_bind (program : Program α) (rest : α → Program β) (busy : Busy) :
    (program.bind rest).runBusy object busy =
      match program.runBusy object busy with
      | (.ok value, after) => (rest value).runBusy object after
      | (.error fault, after) => (.error fault, after) := by
  induction program generalizing busy with
  | done value => rfl
  | fail fault => rfl
  | perform effect next ih => exact ih _ _

theorem runBusy_attempt (program : Program α) (busy : Busy) :
    program.attempt.runBusy object busy =
      (.ok (program.runBusy object busy).1, (program.runBusy object busy).2) := by
  induction program generalizing busy with
  | done value => rfl
  | fail fault => rfl
  | perform effect next ih => exact ih _ _

theorem runBusy_ofExcept (result : Except Fault α) (busy : Busy) :
    (ofExcept result).runBusy object busy = (result, busy) := by
  cases result <;> rfl

/-- With the lock of the object held, the program touches no lock, and ticks that fall due
during it are skipped. -/
def Guarded (object : Event) (program : Program α) : Prop :=
  ∀ busy : Busy, busy.world.locks.isHeld object.key = true →
    busy.Guards object (program.runBusy object busy).2

theorem guarded_ofExcept (result : Except Fault α) : Guarded object (ofExcept result) := by
  intro busy held
  rw [runBusy_ofExcept]
  exact .refl busy

theorem guarded_note (level : Level) (component : Component) (text : String) :
    Guarded object (note level component text) :=
  fun _ _ => ⟨rfl, fun _ member => .inl member⟩

theorem guarded_bind {program : Program α} {rest : α → Program β}
    (first : Guarded object program) (further : ∀ value, Guarded object (rest value)) :
    Guarded object (program.bind rest) := by
  intro busy held
  have guards := first busy held
  rw [runBusy_bind]
  split
  next value after ran =>
    rw [ran] at guards
    exact guards.trans (further value after (guards.locks ▸ held))
  next fault after ran =>
    rw [ran] at guards
    exact guards

theorem guarded_attempt {program : Program α} (guarded : Guarded object program) :
    Guarded object program.attempt := by
  intro busy held
  rw [runBusy_attempt]
  exact guarded busy held

/-- A program that goes by the causes of faults has nothing to do with locks. -/
theorem Alike.guarded {related : α → β → Prop} {program : Program α} {other : Program β}
    (alike : Alike related program other) : Guarded object program := by
  -- There is no case for an effect on a lock: a program that is like another has none.
  induction alike with
  | done same => exact fun busy _ => .refl busy
  | fail same => exact fun busy _ => .refl busy
  | @call request next rest further ih =>
      intro busy held
      have due := Busy.guards_serveDue held
      have answered : busy.Guards object (busy.handle object (.call request)).2 :=
        ⟨(World.locks_answer _ request).trans due.locks, due.skipped⟩
      exact answered.trans (ih _ _ (.refl _) _ (answered.locks ▸ held))
  | @note line _ _ _ further ih =>
      intro busy held
      have guards := ih (busy.handle object (.note line)).2 held
      exact ⟨guards.locks, guards.skipped⟩
  | draw further ih =>
      intro busy held
      have guards := ih (busy.handle object .draw).1 (busy.handle object .draw).2 held
      exact ⟨guards.locks, guards.skipped⟩
  | @pause length _ _ further ih =>
      intro busy held
      have guards := ih (busy.handle object (.pause length)).2 held
      exact ⟨guards.locks, guards.skipped⟩

theorem guarded_retryLater {program : Program α} (event : Event) (settings : Settings)
    (what : String) (guarded : Guarded object program) :
    Guarded object (event.retryLater settings what program) := by
  apply guarded_bind (guarded_attempt guarded)
  intro result
  cases result with
  | ok value => exact guarded_ofExcept (.ok value)
  | error fault =>
      simp only
      split
      · exact guarded_bind (guarded_note _ _ _) fun _ => guarded_ofExcept (.error _)
      · exact guarded_ofExcept (.error fault)

/-- A pass over the cluster of an event has nothing to do with locks. -/
theorem guarded_pass (event : Event) (settings : Settings) (inputs : Inputs) :
    Guarded object (event.pass settings inputs) := by
  apply guarded_bind (guarded_ofExcept _)
  intro cluster
  apply guarded_bind
    (guarded_retryLater _ _ _ (heedless_reconcile cluster settings inputs _).guarded)
  intro outcome
  split
  · exact guarded_bind (guarded_note _ _ _) fun _ => guarded_ofExcept (.ok outcome)
  · exact guarded_ofExcept (.ok outcome)

end Program
end CuratorKeeper
