import CuratorKeeper.Pass.Creation
import CuratorKeeper.Proofs.Program.Quiet

/-!
# Programs that are alike

Two runs of a pass may differ in what they do not look at: the versions of
resources, the contents of credentials, the wording of refusals.  A likeness says
what may differ, and programs that are alike make requests that are alike and go
on alike after all answers that are.  Two programs are put together from parts
that are alike in the same way, so that this need not be said anew for whatever
may differ.
-/

namespace CuratorKeeper

/-- The fields that a pass looks at and writes in a resource that it has read. -/
def watchedFields : List Key := ["spec", "status"]

theorem watched_ne {key other : Key} (watched : key ∈ watchedFields)
    (strange : other ∉ watchedFields) : other ≠ key :=
  fun same => strange (same ▸ watched)

/-- What is watched of a resource is not part of its reference. -/
theorem Ref.of_assign_iff {resource value written : Value} {key : Key}
    (watched : key ∈ watchedFields) (assigned : resource.assign key value = .ok written)
    {ref : Ref} : Ref.of written = .ok ref ↔ Ref.of resource = .ok ref := by
  have metadata := Value.part?_assign_of_ne assigned
    (watched_ne watched (by decide : Key.name "metadata" ∉ watchedFields))
  have kind := Value.part?_assign_of_ne assigned
    (watched_ne watched (by decide : Key.name "kind" ∉ watchedFields))
  exact ⟨fun known => Ref.of_congr known metadata.symm kind.symm,
    fun known => Ref.of_congr known metadata kind⟩

/-- In what the faults that two runs meet may differ. -/
structure FaultLikeness where
  fault : Fault → Fault → Prop
  unfailing : ∀ failure, fault failure failure
  refusal : ∀ {failure other}, fault failure other → failure.refusal? = other.refusal?
  during : ∀ {refused other : StoreFault}, fault (.store refused) (.store other) →
    ∀ operation ref, fault (refused.during operation ref) (other.during operation ref)

def FaultLikeness.same : FaultLikeness where
  fault := Eq
  unfailing _ := rfl
  refusal same := by rw [same]
  during same operation ref := by rw [Fault.store.inj same]

/-- In what two runs of a program may differ. -/
structure Likeness extends FaultLikeness where
  /-- What is known of the two runs so far. -/
  Stage : Type
  /-- More is known later. -/
  later : Stage → Stage → Prop
  /-- The resources that the runs read and write back. -/
  value : Stage → Value → Value → Prop
  /-- The resources that the runs make. -/
  made : Value → Value → Prop
  /-- The references that the runs ask for. -/
  about : Ref → Prop
  /-- The log lines are the same. -/
  heard : Prop
  /-- The draws and the pauses are the same. -/
  timed : Prop
  refl : ∀ stage, later stage stage
  trans : ∀ {stage middle last}, later stage middle → later middle last → later stage last
  keeps : ∀ {stage last resource other}, later stage last → value stage resource other →
    value last resource other
  named : ∀ {stage resource other}, value stage resource other →
    resource.itemAt ["metadata", "name"] = other.itemAt ["metadata", "name"]
  reads : ∀ {stage resource other}, value stage resource other → ∀ key ∈ watchedFields,
    resource.field? key = other.field? key
  writes : ∀ {stage resource other}, value stage resource other → ∀ key ∈ watchedFields,
    ∀ new written, resource.assign key new = .ok written →
      ∃ result, other.assign key new = .ok result ∧ value stage written result
  itself : ∀ {resource ref}, Ref.of resource = .ok ref → about ref → made resource resource
  heard_timed : heard → timed
  heard_message : heard → ∀ {refused other : StoreFault}, fault (.store refused) (.store other) →
    refused.message = other.message

namespace Likeness

variable {α β σ : Type} (like : Likeness)

inductive Asks (stage : like.Stage) : Request → Request → Prop
  | create {resource other : Value} (made : like.made resource other) :
      Asks stage (.create resource) (.create other)
  | get {ref : Ref} (about : like.about ref) : Asks stage (.get ref) (.get ref)
  | update {resource other : Value} (alike : like.value stage resource other)
      (part : Option String) : Asks stage (.update resource part) (.update other part)
  | delete {ref : Ref} (about : like.about ref) : Asks stage (.delete ref) (.delete ref)

/-- Answers that are alike.  Only what is read is looked at. -/
inductive Answers (stage : like.Stage) (verb : Verb) :
    Except Fault Value → Except Fault Value → Prop
  | ok {value other : Value} (alike : verb = .get → like.value stage value other) :
      Answers stage verb (.ok value) (.ok other)
  | error {failure other : Fault} (alike : like.fault failure other) :
      Answers stage verb (.error failure) (.error other)

/-- Changed copies that are alike, if they could be made. -/
inductive Copies (stage : like.Stage) : Except Mismatch Value → Except Mismatch Value → Prop
  | ok {value other : Value} (alike : like.value stage value other) :
      Copies stage (.ok value) (.ok other)
  | error (mismatch : Mismatch) : Copies stage (.error mismatch) (.error mismatch)

/-- Results that are related, or faults that are alike. -/
inductive Ends (related : α → β → Prop) : Except Fault α → Except Fault β → Prop
  | ok {value : α} {other : β} (same : related value other) : Ends related (.ok value) (.ok other)
  | error {failure other : Fault} (alike : like.fault failure other) :
      Ends related (.error failure) (.error other)

/-- The same for results whose refusals have been caught. -/
inductive Caught (related : α → β → Prop) : Except StoreFault α → Except StoreFault β → Prop
  | ok {value : α} {other : β} (same : related value other) : Caught related (.ok value) (.ok other)
  | error {refused other : StoreFault} (alike : like.fault (.store refused) (.store other)) :
      Caught related (.error refused) (.error other)

/-- The same for tries; a stale one hands over the same to the next. -/
inductive Tries : Attempt σ α → Attempt σ α → Prop
  | settled (value : α) : Tries (.settled value) (.settled value)
  | stale {refused other : StoreFault} (alike : like.fault (.store refused) (.store other))
      (next : σ) : Tries (.stale refused next) (.stale other next)

variable {like} {stage : like.Stage}

theorem refusal_eq {refused other : StoreFault}
    (alike : like.fault (.store refused) (.store other)) :
    refused.refusal = other.refusal :=
  Option.some.inj (like.refusal alike)

theorem Ends.of_eq (result : Except Fault α) : like.Ends Eq result result := by
  cases result with
  | ok value => exact .ok rfl
  | error failure => exact .error (like.unfailing failure)

theorem Ends.answers {answer reply : Except Fault Value}
    (ends : like.Ends (like.value stage) answer reply) (verb : Verb) :
    like.Answers stage verb answer reply := by
  cases ends with
  | ok alike => exact .ok fun _ => alike
  | error alike => exact .error alike

theorem copies_assign {live other : Value} (alike : like.value stage live other) {key : Key}
    (watched : key ∈ watchedFields) (new : Value) :
    like.Copies stage (live.assign key new) (other.assign key new) := by
  have same := like.reads alike key watched
  cases assigned : live.assign key new with
  | ok written =>
      obtain ⟨result, assigns, writtenAlike⟩ := like.writes alike key watched new written assigned
      rw [assigns]
      exact .ok writtenAlike
  | error mismatch =>
      -- Nothing is written into what has no fields, and then the other one has none.
      cases live with
      | object fields => cases assigned
      | _ =>
          cases other with
          | object others => cases same
          | _ =>
              rw [← assigned]
              exact .error .unsuited

end Likeness

namespace Program

variable {α β γ δ σ : Type}

/-- Two programs are alike, with results that are related. -/
inductive Resembles (like : Likeness) (related : α → β → Prop) :
    like.Stage → Program α → Program β → Prop
  | done {stage : like.Stage} {value : α} {other : β} (same : related value other) :
      Resembles like related stage (.done value) (.done other)
  | fail {stage : like.Stage} {failure other : Fault} (alike : like.fault failure other) :
      Resembles like related stage (.fail failure) (.fail other)
  | call {stage : like.Stage} {request other : Request} {next : Except Fault Value → Program α}
      {rest : Except Fault Value → Program β} (asks : like.Asks stage request other)
      (further : ∀ last answer reply, like.later stage last →
        like.Answers last request.verb answer reply →
          Resembles like related last (next answer) (rest reply)) :
      Resembles like related stage (.perform (.call request) next) (.perform (.call other) rest)
  | note {stage : like.Stage} {line other : LogLine} {next : Unit → Program α}
      {rest : Unit → Program β} (same : like.heard → line = other)
      (further : Resembles like related stage (next ()) (rest ())) :
      Resembles like related stage (.perform (.note line) next) (.perform (.note other) rest)
  | draw {stage : like.Stage} {next : Float → Program α} {rest : Float → Program β}
      (further : ∀ draw other, (like.timed → draw = other) →
        Resembles like related stage (next draw) (rest other)) :
      Resembles like related stage (.perform .draw next) (.perform .draw rest)
  | pause {stage : like.Stage} {length other : Number} {next : Unit → Program α}
      {rest : Unit → Program β} (same : like.timed → length = other)
      (further : Resembles like related stage (next ()) (rest ())) :
      Resembles like related stage (.perform (.pause length) next) (.perform (.pause other) rest)

variable {like : Likeness} {stage : like.Stage} {related : α → β → Prop}

theorem resembles_ofExcept {result : Except Fault α} {other : Except Fault β}
    (ends : like.Ends related result other) :
    Resembles like related stage (ofExcept result) (ofExcept other) := by
  cases ends with
  | ok same => exact .done same
  | error alike => exact .fail alike

theorem resembles_known (result : Except Fault α) :
    Resembles like Eq stage (ofExcept result) (ofExcept result) :=
  resembles_ofExcept (.of_eq result)

theorem resembles_note (level : Level) (component : Component) {text other : String}
    (same : like.heard → text = other) :
    Resembles like Eq stage (note level component text) (note level component other) :=
  .note (fun heard => by rw [same heard]) (.done rfl)

theorem resembles_bind {further : γ → δ → Prop} {first : Program α} {second : Program β}
    {rest : α → Program γ} {others : β → Program δ}
    (alike : Resembles like related stage first second)
    (goOn : ∀ last value other, like.later stage last → related value other →
      Resembles like further last (rest value) (others other)) :
    Resembles like further stage (first.bind rest) (second.bind others) := by
  induction alike with
  | done same => exact goOn _ _ _ (like.refl _) same
  | fail alike => exact .fail alike
  | call asks _ ih =>
      refine .call asks fun last answer reply isLater answers => ?_
      exact ih last answer reply isLater answers fun final value other isFinal =>
        goOn final value other (like.trans isLater isFinal)
  | note same _ ih => exact .note same (ih goOn)
  | draw _ ih => exact .draw fun draw other same => ih draw other same goOn
  | pause same _ ih => exact .pause same (ih goOn)

theorem Resembles.mono {weaker : α → β → Prop} {first : Program α} {second : Program β}
    (alike : Resembles like related stage first second)
    (enough : ∀ value other, related value other → weaker value other) :
    Resembles like weaker stage first second := by
  have whole := resembles_bind alike fun last value other _ same =>
    (.done (enough value other same) : Resembles like weaker last (.done value) (.done other))
  rwa [bind_done, bind_done] at whole

/-- What comes after a part that tells both runs the same. -/
theorem resembles_bind_of_eq {further : β → γ → Prop} {first second : Program α}
    {rest : α → Program β} {others : α → Program γ} (alike : Resembles like Eq stage first second)
    (goOn : ∀ last value, like.later stage last →
      Resembles like further last (rest value) (others value)) :
    Resembles like further stage (first.bind rest) (second.bind others) :=
  resembles_bind alike fun last value _ isLater same => same ▸ goOn last value isLater

theorem resembles_map {further : γ → δ → Prop} {change : α → γ} {other : β → δ}
    {first : Program α} {second : Program β} (alike : Resembles like related stage first second)
    (keeps : ∀ value another, related value another → further (change value) (other another)) :
    Resembles like further stage (change <$> first) (other <$> second) :=
  resembles_bind alike fun _ value another _ same => .done (keeps value another same)

theorem resembles_attempt {first : Program α} {second : Program β}
    (alike : Resembles like related stage first second) :
    Resembles like (like.Ends related) stage first.attempt second.attempt := by
  induction alike with
  | done same => exact .done (.ok same)
  | fail alike => exact .done (.error alike)
  | call asks _ ih => exact .call asks ih
  | note same _ ih => exact .note same ih
  | draw _ ih => exact .draw ih
  | pause same _ ih => exact .pause same ih

/-- A refusal of the store is alike to no other kind of fault. -/
theorem resembles_catchStore_fail {failure other : Fault} (alike : like.fault failure other) :
    Resembles like (like.Caught related) stage (fail failure).catchStore
      (fail other).catchStore := by
  have refusal := like.refusal alike
  cases failure with
  | store refused =>
      cases other with
      | store reply => exact .done (.error alike)
      | _ => cases refusal
  | _ =>
      cases other with
      | store reply => cases refusal
      | _ => exact .fail alike

theorem resembles_catchStore {first : Program α} {second : Program β}
    (alike : Resembles like related stage first second) :
    Resembles like (like.Caught related) stage first.catchStore second.catchStore := by
  refine resembles_bind (resembles_attempt alike) fun last result other _ ends => ?_
  cases ends with
  | ok same => exact .done (.ok same)
  | error alike => exact resembles_catchStore_fail alike

theorem resembles_ofProgram {next : σ} {first second : Program (Attempt σ α)}
    (alike : Resembles like like.Tries stage first second) :
    Resembles like like.Tries stage (Attempt.ofProgram next first)
      (Attempt.ofProgram next second) := by
  refine resembles_bind (resembles_catchStore alike) fun last result other _ caught => ?_
  cases caught with
  | ok same => exact .done same
  | error alike =>
      simp only [Likeness.refusal_eq alike]
      split
      · exact .done (.stale alike next)
      · exact .fail alike

theorem resembles_asked {request other : Request} {rest : Except StoreFault Value → Program α}
    {others : Except StoreFault Value → Program β} (asks : like.Asks stage request other)
    (served : ∀ last value reply, like.later stage last →
      (request.verb = .get → like.value last value reply) →
        Resembles like related last (rest (.ok value)) (others (.ok reply)))
    (refused : ∀ last fault reply, like.later stage last →
      like.fault (.store fault) (.store reply) →
        Resembles like related last (rest (.error fault)) (others (.error reply))) :
    Resembles like related stage ((ask request).catchStore.bind rest)
      ((ask other).catchStore.bind others) := by
  refine .call asks fun last answer reply isLater answers => ?_
  cases answers with
  | ok alike => exact served last _ _ isLater alike
  | @error failure told alike =>
      have caught : Resembles like (like.Caught fun (_ _ : Value) => False) last
          (fail failure).catchStore (fail told).catchStore := resembles_catchStore_fail alike
      refine resembles_bind caught fun final result other isFinal ends => ?_
      cases ends with
      | ok impossible => cases impossible
      | error alike => exact refused final _ _ (like.trans isLater isFinal) alike

theorem resembles_ask_bind {request other : Request} {rest : Value → Program α}
    {others : Value → Program β} (asks : like.Asks stage request other)
    (served : ∀ last value reply, like.later stage last →
      Resembles like related last (rest value) (others reply)) :
    Resembles like related stage ((ask request).bind rest) ((ask other).bind others) := by
  refine .call asks fun last answer reply isLater answers => ?_
  cases answers with
  | ok alike => exact served last _ _ isLater
  | error alike => exact .fail alike

theorem resembles_copy_bind {first second : Except Mismatch Value} {rest : Value → Program α}
    {others : Value → Program β} (copies : like.Copies stage first second)
    (goOn : ∀ value other, like.value stage value other →
      Resembles like related stage (rest value) (others other)) :
    Resembles like related stage ((liftM first : Program Value).bind rest)
      ((liftM second : Program Value).bind others) := by
  cases copies with
  | ok alike => exact goOn _ _ alike
  | error mismatch => exact .fail (like.unfailing _)

theorem resembles_retryFrom {budget : Budget} {attempt : σ → Program (Attempt σ α)}
    (trying : ∀ stage start, Resembles like like.Tries stage (attempt start) (attempt start))
    (left tries : Nat) (delay : Number) (start : σ) :
    Resembles like Eq stage (retryFrom budget attempt left tries delay start)
      (retryFrom budget attempt left tries delay start) := by
  induction left generalizing stage tries delay start with
  | zero =>
      refine resembles_bind (trying stage start) fun last result other _ alike => ?_
      cases alike with
      | settled value => exact .done rfl
      | stale alike next =>
          refine resembles_bind_of_eq (resembles_known _) fun _ _ _ => ?_
          refine resembles_bind_of_eq (resembles_note _ _ fun heard => ?_) fun _ _ _ => .fail alike
          rw [like.heard_message heard alike]
  | succ left ih =>
      refine resembles_bind (trying stage start) fun last result other _ alike => ?_
      cases alike with
      | settled value => exact .done rfl
      | stale alike next =>
          refine resembles_bind_of_eq (resembles_known _) fun _ _ _ => ?_
          refine .draw fun draw drawn same => ?_
          simp only [done_bind, bind_eq]
          refine resembles_bind_of_eq (resembles_note _ _ fun heard => ?_) fun _ _ _ => ?_
          · rw [same (like.heard_timed heard), like.heard_message heard alike]
          · exact .pause (fun timed => by rw [same timed]) (ih _ _ next)

theorem resembles_retry {budget : Budget} {attempt : σ → Program (Attempt σ α)}
    (trying : ∀ stage start, Resembles like like.Tries stage (attempt start) (attempt start))
    (start : σ) :
    Resembles like Eq stage (retry budget attempt start) (retry budget attempt start) :=
  resembles_retryFrom trying _ _ _ start

theorem Quiet.resembles {program : Program α} {result : Except Fault α}
    (quiet : Quiet program result) : Resembles like Eq stage program program := by
  induction quiet with
  | done value => exact .done rfl
  | fail fault => exact .fail (like.unfailing fault)
  | note quiet ih => exact .note (fun _ => rfl) ih

end Program
end CuratorKeeper
