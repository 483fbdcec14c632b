import CuratorKeeper.Proofs.Program.Keeps
import CuratorKeeper.Proofs.Store.Service

/-!
# Programs whose faults are accounted for

A program reads resources that others write.  Its faults are accounted for if each
of them is one of the curation subsystem or comes of the resource that was read by
the last call.  A composed program accounts for its faults if its parts do.
-/

namespace CuratorKeeper

/-- Any foreign deeds, and calls that fail for the curation subsystem alone. -/
def Surroundings.scripted : Surroundings where
  holds := Store.Sound
  mayTurn := Store.Evolves
  mayAnswer served :=
    served.Faithful ∨
      (∃ fault, served.answer = .error fault ∧ fault.isCuration = true) ∧
        served.after = served.before

/-- The store is reached directly, and whatever fails a call is a failure of the
curation subsystem. -/
structure World.Scripted (world : World) : Prop where
  direct : world.gateway = none
  fails : ∀ verb, ∀ disturbances ∈ world.waiting verb, ∀ (store : Store) ref fault,
    store.Sound → (store.disturbAll ref disturbances).1 = .error fault → fault.isCuration = true

theorem Surroundings.scripted_covers {world : World} (promise : Served → Prop)
    (scripted : world.Scripted) : Surroundings.scripted.Covers promise world where
  direct := scripted.direct
  disturbed disturbances waiting store ref sound := by
    obtain ⟨soundAfter, evolves⟩ := Store.disturbAll_ends ref disturbances sound
    refine ⟨soundAfter, evolves, fun request fault failed => ?_⟩
    rcases waiting with rfl | ⟨verb, waits⟩
    · cases failed
    · exact .inr ⟨⟨fault, rfl, scripted.fails verb _ waits store ref fault sound failed⟩, rfl⟩
  faithful served faithful := .inl faithful
  keeps served sound answered _ := by
    rcases answered with faithful | ⟨-, unchanged⟩
    · exact Store.Sound.turn sound faithful.turn
    · rw [unchanged]
      exact sound

def FailsOnly {α : Type} (allowed : Fault → Prop) : Except Fault α → Prop
  | .ok _ => True
  | .error fault => allowed fault

theorem FailsOnly.mono {α : Type} {allowed others : Fault → Prop} {result : Except Fault α}
    (fails : FailsOnly allowed result) (enough : ∀ fault, allowed fault → others fault) :
    FailsOnly others result := by
  cases result with
  | ok value => trivial
  | error fault => exact enough fault fails

/-- Which faults may come of which resources under which references. -/
abbrev Stumbling : Type := Ref → Value → Fault → Prop

/-- A fault after some calls is one of the curation subsystem, or it comes of the
resource that was read last.  What was read just before the calls is told, if
anything was. -/
inductive Blamed (stumbles : Stumbling) (read : Option (Ref × Value)) (history : List Served)
    (fault : Fault) : Prop
  | curation (isCuration : fault.isCuration = true)
  | before {ref : Ref} {live : Value} (isRead : read = some (ref, live)) (idle : history = [])
      (stumbles : stumbles ref live fault)
  | last {earlier : List Served} {last : Served} {live : Value}
      (isLast : history = earlier ++ [last]) (gets : last.request = .get last.ref)
      (answer : last.answer = .ok live) (stumbles : stumbles last.ref live fault)

namespace Blamed

variable {stumbles : Stumbling} {read : Option (Ref × Value)} {history : List Served}
  {fault : Fault}

theorem of_none (blamed : Blamed stumbles none history fault) :
    Blamed stumbles read history fault := by
  cases blamed with
  | curation isCuration => exact .curation isCuration
  | before isRead => cases isRead
  | last isLast gets answer stumbles => exact .last isLast gets answer stumbles

theorem append (past : List Served) (blamed : Blamed stumbles none history fault) :
    Blamed stumbles read (past ++ history) fault := by
  cases blamed with
  | curation isCuration => exact .curation isCuration
  | before isRead => cases isRead
  | last isLast gets answer stumbles =>
      exact .last (by rw [isLast, List.append_assoc]) gets answer stumbles

theorem cons {served : Served} {live : Value} (gets : served.request = .get served.ref)
    (answer : served.answer = .ok live)
    (blamed : Blamed stumbles (some (served.ref, live)) history fault) :
    Blamed stumbles read (served :: history) fault := by
  cases blamed with
  | curation isCuration => exact .curation isCuration
  | before isRead idle stumbles =>
      cases isRead
      rw [idle]
      exact .last (List.nil_append [served]).symm gets answer stumbles
  | last isLast gets answer stumbles =>
      exact .last (by rw [isLast, List.cons_append]) gets answer stumbles

end Blamed

namespace Program

variable {α β σ : Type} {stumbles : Stumbling} {read : Option (Ref × Value)}

/-- Every fault of a program is accounted for. -/
def Blames (stumbles : Stumbling) (read : Option (Ref × Value)) (program : Program α) : Prop :=
  ∀ store, Ensures .scripted (fun _ => True) program
    (fun result history _ => FailsOnly (Blamed stumbles read history) result) store

theorem blames_done (value : α) : Blames stumbles read (done value) := fun _ => trivial

theorem blames_fail {fault : Fault} (isCuration : fault.isCuration = true) :
    Blames stumbles read (fail fault : Program α) :=
  fun _ => .curation isCuration

theorem blames_note (level : Level) (component : Component) (text : String) :
    Blames stumbles read (note level component text) := fun _ => trivial

theorem Blames.of_none {program : Program α} (blames : Blames stumbles none program) :
    Blames stumbles read program :=
  fun store => (blames store).mono fun _ _ _ fails => fails.mono fun _ => Blamed.of_none

/-- After some calls a program accounts for its faults by its own calls. -/
theorem Blames.after {program : Program α} (blames : Blames stumbles none program)
    (history : List Served) (store : Store) :
    Ensures .scripted (fun _ => True) program
      (fun result more _ => FailsOnly (Blamed stumbles read (history ++ more)) result) store :=
  (blames store).mono fun _ _ _ fails => fails.mono fun _ => Blamed.append history

theorem blames_bind {program : Program α} {rest : α → Program β}
    (first : Blames stumbles read program) (further : ∀ value, Blames stumbles none (rest value)) :
    Blames stumbles read (program.bind rest) := by
  intro store
  rw [ensures_bind]
  apply (first store).mono
  intro result history after fails
  cases result with
  | ok value => exact (further value).after history after
  | error fault => exact fails

theorem blames_ofExcept_bind {result : Except Fault α} {rest : α → Program β}
    (failed : ∀ fault, result = .error fault → Blamed stumbles read [] fault)
    (further : ∀ value, result = .ok value → Blames stumbles read (rest value)) :
    Blames stumbles read ((ofExcept result).bind rest) := by
  cases result with
  | ok value => exact further value rfl
  | error fault => exact fun _ => failed fault rfl

theorem blames_mismatch_bind {result : Except Mismatch α} {rest : α → Program β}
    (failed : ∀ mismatch, result = .error mismatch → Blamed stumbles read [] (.mismatch mismatch))
    (further : ∀ value, result = .ok value → Blames stumbles read (rest value)) :
    Blames stumbles read ((ofExcept (result.mapError .mismatch)).bind rest) := by
  cases result with
  | ok value => exact further value rfl
  | error mismatch => exact fun _ => failed mismatch rfl

theorem blames_bind_of_ends {program : Program α} {result : Except Mismatch α}
    {rest : α → Program β}
    (ends : ∀ (goal : Goal α) store,
      Ensures .scripted (fun _ => True) program goal store ↔
        goal (result.mapError .mismatch) [] store)
    (failed : ∀ mismatch, result = .error mismatch → Blamed stumbles read [] (.mismatch mismatch))
    (further : ∀ value, result = .ok value → Blames stumbles read (rest value)) :
    Blames stumbles read (program.bind rest) := by
  intro store
  have same := blames_mismatch_bind failed further store
  rw [ensures_bind, ensures_ofExcept] at same
  rwa [ensures_bind, ends]

/-- A fault that is caught is thrown again, or what follows accounts for its own. -/
theorem blames_attempt_bind {program : Program α} {rest : Except Fault α → Program β}
    (blames : Blames stumbles read program)
    (returned : ∀ value, Blames stumbles none (rest (.ok value)))
    (failed : ∀ fault,
      rest (.error fault) = .fail fault ∨ Blames stumbles none (rest (.error fault))) :
    Blames stumbles read (program.attempt.bind rest) := by
  intro store
  rw [ensures_bind, ensures_attempt]
  apply (blames store).mono
  intro result history after fails
  cases result with
  | ok value => exact (returned value).after history after
  | error fault =>
      rcases failed fault with again | blames
      · simp only [again, ensures_fail, List.append_nil]
        exact fails
      · exact blames.after history after

theorem blames_catchStore_bind {program : Program α} {rest : Except StoreFault α → Program β}
    (blames : Blames stumbles read program)
    (further : ∀ result, Blames stumbles none (rest result)) :
    Blames stumbles read (program.catchStore.bind rest) := by
  rw [catchStore, bind_assoc]
  refine blames_attempt_bind blames (fun value => further _) fun fault => ?_
  cases fault with
  | store refused => exact .inr (further _)
  | _ => exact .inl rfl

theorem blames_ofProgram {next : σ} {program : Program (Attempt σ α)}
    (blames : Blames stumbles read program) :
    Blames stumbles read (Attempt.ofProgram next program) := by
  apply blames_catchStore_bind blames
  intro result
  cases result with
  | ok value => exact blames_done _
  | error fault =>
      simp only
      split
      · exact blames_done _
      · exact blames_fail rfl

/-- A loop of tries accounts for its faults if its budget has no flaw. -/
theorem blames_retry {budget : Budget} {attempt : σ → Program (Attempt σ α)}
    (flawless : budget.flaw = none) (trying : ∀ start, Blames stumbles none (attempt start))
    (start : σ) : Blames stumbles none (retry budget attempt start) := by
  intro store
  refine @ensures_retryFrom α σ _ _ budget attempt
    (fun result history _ => FailsOnly (Blamed stumbles none history) result)
    (fun _ _ _ _ => True) ?_ _ _ _ start [] store trivial
  intro left start past store _
  apply ((trying start).after past store).mono
  intro result more store fails
  rcases result with fault | (value | conflict)
  · exact fails
  · trivial
  · exact ⟨fun _ => .curation rfl, fun flawed => absurd flawless flawed, fun _ _ => trivial⟩

theorem isCuration_of_answer {request : Request} {ref : Ref} {before after : Store} {fault : Fault}
    (plain : ref.Plain) (about : request.ref = .ok ref) (sound : before.Sound)
    (answered : Surroundings.scripted.mayAnswer ⟨request, ref, before, .error fault, after⟩) :
    fault.isCuration = true := by
  rcases answered with faithful | ⟨⟨other, same, isCuration⟩, -⟩
  · obtain ⟨refused, rfl⟩ := Store.exists_refusal plain sound about faithful
    rfl
  · cases same
    exact isCuration

theorem blames_ask (request : Request) {ref : Ref} (plain : ref.Plain)
    (about : request.ref = .ok ref) : Blames stumbles read (ask request) := by
  intro store
  rw [ensures_ask about]
  intro before answer after sound _ answered
  cases answer with
  | ok value => exact ⟨trivial, trivial⟩
  | error fault => exact ⟨trivial, .curation (isCuration_of_answer plain about sound answered)⟩

/-- After a reading, what was read accounts for what comes of it. -/
theorem blames_get_bind {ref : Ref} {rest : Except StoreFault Value → Program β}
    (plain : ref.Plain)
    (found : ∀ live version, Ref.of live = .ok ref → Store.Marked version live →
      Blames stumbles (some (ref, live)) (rest (.ok live)))
    (refused : ∀ fault, Blames stumbles none (rest (.error fault))) :
    Blames stumbles read ((ask (.get ref)).catchStore.bind rest) := by
  intro store
  have about : (Request.get ref).ref = .ok ref := rfl
  rw [ensures_bind, ensures_catchStore, ensures_ask about]
  intro before answer after sound turned answered
  refine ⟨trivial, ?_⟩
  cases answer with
  | ok live =>
      have served : before.serve ref (.get ref) = (.ok live, after) :=
        answered.resolve_right (by simp)
      obtain ⟨held, -⟩ := Store.serve_get_eq_ok served
      obtain ⟨version, marked⟩ := sound.marked_of_found held
      apply (found live version (sound.ref_of_found plain held) marked after).mono
      intro result history last fails
      let reading : Served := ⟨.get ref, ref, before, .ok live, after⟩
      exact fails.mono fun fault => @Blamed.cons stumbles read history fault reading live rfl rfl
  | error fault =>
      have isCuration := isCuration_of_answer plain about sound answered
      cases fault with
      | store fault => exact (refused fault).after [_] after
      | _ => exact .curation isCuration

end Program
end CuratorKeeper
