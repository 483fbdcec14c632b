import CuratorKeeper.Proofs.Pass.Errand
import CuratorKeeper.Proofs.Pass.Likeness
import CuratorKeeper.Proofs.Program.Crew
import CuratorKeeper.Proofs.Store.Twins

/-!
# Passes over different namespaces

Passes over clusters in different namespaces share a store and the versions that
it gives out, and nothing else.  However their effects are interleaved, each one
does what it would do alone: its shadow, a run of its own over a store of its
own, takes a turn whenever it does, and the two stores hold the same in its
namespace.  The turns of all others make no difference to it.
-/

namespace CuratorKeeper

def Request.unversioned : Request → Request
  | .create resource => .create resource.unversioned
  | .get ref => .get ref
  | .update resource part => .update resource.unversioned part
  | .delete ref => .delete ref

/-- What a call asked for, whatever the versions. -/
def Served.asked (served : Served) : Request := served.request.unversioned

theorem Likeness.Asks.unversioned_eq {space : String} {pairs : Nat → Nat → Prop}
    {request other : Request} (asks : (Likeness.versions space).Asks pairs request other) :
    request.unversioned = other.unversioned := by
  cases asks with
  | create made => rw [made.1]
  | get about => rfl
  | update twin part => simp only [Request.unversioned, twin.content]
  | delete about => rfl

/-- The run of one program alone, as far as it has come. -/
structure Shadow (α : Type) where
  /-- What is left of the program. -/
  rest : Program α
  world : World
  /-- The calls that it has made. -/
  past : List Served

namespace Crew

variable {α : Type} {n : Nat} {space : String} {whole : Program α} {world : World} {crew : Crew α n}
  {i : Fin n} {made : List Served} {shadow : Shadow α}
  {pairs : (Likeness.versions space).Stage}

/-- A member of a crew has done what it would have done alone: alone it would have
made the same calls so far, and would go on alike from a store that holds the
same in its namespace. -/
structure Shadowed (space : String) (whole : Program α) (world : World) (crew : Crew α n)
    (i : Fin n) (made : List Served) (shadow : Shadow α)
    (pairs : (Likeness.versions space).Stage) : Prop where
  calm : shadow.world.Calm
  twins : Store.Twins space pairs crew.world.store shadow.world.store
  alike : Program.Resembles (.versions space) Eq pairs (crew.members i) shadow.rest
  runs : whole.run world = shadow.rest.run shadow.world
  history : whole.history world = shadow.past ++ shadow.rest.history shadow.world
  asked : made.map Served.asked = shadow.past.map Served.asked
  untouched : ∀ ref : Ref, ¬ ref.Within space → shadow.world.store.find? ref = world.store.find? ref

theorem Shadowed.silent {effect other : Effect} {next : effect.Reply → Program α}
    {rest : other.Reply → Program α} {alone : World} {past : List Served}
    (shadowed : Shadowed space whole world crew i made ⟨.perform other rest, alone, past⟩ pairs)
    (performs : crew.members i = .perform effect next) (calm : crew.world.Calm)
    (quiet : crew.world.callOf effect = []) (quietAlone : alone.callOf other = [])
    (alike : Program.Resembles (.versions space) Eq pairs (next (crew.world.handle effect).1)
      (rest (alone.handle other).1)) :
    Shadowed space whole world (crew.advance i) i (made ++ callsOf i (crew.callBy i))
      ⟨rest (alone.handle other).1, (alone.handle other).2, past⟩ pairs := by
  have isWorld : (crew.advance i).world = (crew.world.handle effect).2 := by
    simp only [advance, performs]
  have isMember : (crew.advance i).members i = next (crew.world.handle effect).1 := by
    simp only [advance, performs, Function.update_self]
  have still := shadowed.calm.store_handle quietAlone
  refine
    ⟨shadowed.calm.handle other, ?_, isMember ▸ alike, shadowed.runs, ?_, ?_, fun ref strange => ?_⟩
  · rw [isWorld, calm.store_handle quiet, still]
    exact shadowed.twins
  · rw [shadowed.history, Program.history, quietAlone, List.nil_append]
  · rw [callsOf_callBy_self performs, quiet, List.append_nil]
    exact shadowed.asked
  · rw [still]
    exact shadowed.untouched ref strange

theorem Shadowed.call {request other : Request} {next rest : Except Fault Value → Program α}
    {alone : World} {past : List Served}
    (shadowed : Shadowed space whole world crew i made
      ⟨.perform (.call other) rest, alone, past⟩ pairs)
    (performs : crew.members i = .perform (.call request) next) (calm : crew.world.Calm)
    (asks : (Likeness.versions space).Asks pairs request other)
    (further : ∀ last answer reply, (Likeness.versions space).later pairs last →
      (Likeness.versions space).Answers last request.verb answer reply →
        Program.Resembles (.versions space) Eq last (next answer) (rest reply)) :
    ∃ later more, Shadowed space whole world (crew.advance i) i
      (made ++ callsOf i (crew.callBy i)) later more := by
  obtain ⟨ref, more, known, knownOther, within, grown, twins, answers⟩ := shadowed.twins.serve asks
  obtain ⟨answer, after, isAnswer, isAfter, one, served⟩ := calm.call known
  obtain ⟨reply, left, isReply, isLeft, oneAlone, servedAlone⟩ := shadowed.calm.call knownOther
  rw [served, servedAlone] at twins answers
  have isWorld : (crew.advance i).world = (crew.world.handle (.call request)).2 := by
    simp only [advance, performs]
  have isMember : (crew.advance i).members i = next answer := by
    simp only [advance, performs, Function.update_self, isAnswer]
  refine ⟨⟨rest reply, (alone.handle (.call other)).2,
    past ++ [⟨other, ref, alone.store, reply, left⟩]⟩, more, ?_, ?_, ?_, ?_, ?_, ?_,
    fun strange outside => ?_⟩
  · exact shadowed.calm.handle _
  · rw [isWorld, isAfter, isLeft]
    exact twins
  · rw [isMember]
    exact further more answer reply grown answers
  · rw [shadowed.runs, Program.run_perform, isReply]
  · rw [shadowed.history, Program.history, oneAlone, isReply, List.append_assoc]
  · rw [callsOf_callBy_self performs, one, List.map_append, List.map_append, shadowed.asked]
    simp only [List.map_cons, List.map_nil, Served.asked, asks.unversioned_eq]
  · -- The call was about a resource of the namespace.
    have different : strange ≠ ref := fun same => outside (same ▸ within)
    have kept := Store.find?_serve_of_ne shadowed.twins.soundOther within.plain knownOther different
    rw [servedAlone] at kept
    rw [isLeft, kept]
    exact shadowed.untouched strange outside

theorem Shadowed.advance (shadowed : Shadowed space whole world crew i made shadow pairs)
    (calm : crew.world.Calm) :
    ∃ later more, Shadowed space whole world (crew.advance i) i
      (made ++ callsOf i (crew.callBy i)) later more := by
  obtain ⟨left, alone, past⟩ := shadow
  have idle : ∀ result, crew.members i = Program.ofExcept result →
      ∃ later more, Shadowed space whole world (crew.advance i) i
        (made ++ callsOf i (crew.callBy i)) later more := by
    intro result ended
    -- Whoever has ended idles, and so does its shadow.
    have silent : crew.callBy i = [] := by
      unfold callBy
      rw [ended]
      cases result <;> rfl
    rw [advance_of_ended ended, silent]
    exact ⟨⟨left, alone, past⟩, pairs, by simpa [callsOf] using shadowed⟩
  have alike : Program.Resembles (.versions space) Eq pairs (crew.members i) left := shadowed.alike
  generalize performs : crew.members i = program at alike
  cases alike with
  | @done _ value other same => exact idle (.ok value) performs
  | @fail _ failure other same => exact idle (.error failure) performs
  | call asks further => exact shadowed.call performs calm asks further
  | note same further => exact ⟨_, _, shadowed.silent performs calm rfl rfl further⟩
  | draw further => exact ⟨_, _, shadowed.silent performs calm rfl rfl (further _ _ False.elim)⟩
  | pause same further => exact ⟨_, _, shadowed.silent performs calm rfl rfl further⟩

theorem calm_advance (calm : crew.world.Calm) (i : Fin n) : (crew.advance i).world.Calm := by
  unfold Crew.advance
  cases crew.members i with
  | done value => exact calm
  | fail fault => exact calm
  | perform effect next => exact calm.handle effect

/-- A turn of a member leaves the store as it is, but for a call about a resource of
its namespace. -/
theorem Shadowed.turn (shadowed : Shadowed space whole world crew i made shadow pairs)
    (calm : crew.world.Calm) :
    (crew.advance i).world.store = crew.world.store ∨
      ∃ ref request, request.ref = .ok ref ∧ ref.Within space ∧
        (crew.advance i).world.store = (crew.world.store.serve ref request).2 := by
  have alike := shadowed.alike
  generalize shadow.rest = rest at alike
  unfold Crew.advance
  generalize crew.members i = program at alike
  cases alike with
  | done same => exact .inl rfl
  | fail same => exact .inl rfl
  | @call _ request other next rest asks further =>
      obtain ⟨ref, -, known, -, within, -⟩ := shadowed.twins.serve asks
      obtain ⟨answer, after, -, isAfter, -, served⟩ := calm.call known
      refine .inr ⟨ref, request, known, within, ?_⟩
      simp only [isAfter, served]
  | note same further => exact .inl rfl
  | draw further => exact .inl rfl
  | pause same further => exact .inl rfl

/-- A turn of a member in another namespace makes no difference. -/
theorem Shadowed.beside {other : Fin n} {elsewhere : String} {wholeOther : Program α}
    {madeOther : List Served} {shadowOther : Shadow α}
    {pairsOther : (Likeness.versions elsewhere).Stage}
    (shadowed : Shadowed space whole world crew i made shadow pairs)
    (turning : Shadowed elsewhere wholeOther world crew other madeOther shadowOther pairsOther)
    (calm : crew.world.Calm) (different : i ≠ other) (apart : space ≠ elsewhere) :
    Shadowed space whole world (crew.advance other) i (made ++ callsOf i (crew.callBy other))
      shadow pairs := by
  refine ⟨shadowed.calm, ?_, ?_, shadowed.runs, shadowed.history, ?_, shadowed.untouched⟩
  · rcases turning.turn calm with still | ⟨ref, request, about, within, served⟩
    · rw [still]
      exact shadowed.twins
    · rw [served]
      refine shadowed.twins.beside within.plain about fun same => apart ?_
      exact Value.text.inj (same.symm.trans within.inSpace)
  · rw [members_advance_of_ne crew different]
    exact shadowed.alike
  · rw [callsOf_callBy_of_ne crew different, List.append_nil]
    exact shadowed.asked

/-- Every member of a crew has its shadow, and what belongs to none of them is as it
was. -/
structure Isolated (spaces : Fin n → String) (alone : Fin n → Program α) (world : World)
    (crew : Crew α n) (calls : List (Fin n × Served)) : Prop where
  calm : crew.world.Calm
  each : ∀ i, ∃ shadow pairs,
    Shadowed (spaces i) (alone i) world crew i (callsOf i calls) shadow pairs
  untouched : ∀ ref : Ref, (∀ i, ¬ ref.Within (spaces i)) →
    crew.world.store.find? ref = world.store.find? ref

variable {spaces : Fin n → String} {alone : Fin n → Program α} {calls : List (Fin n × Served)}

theorem isolated_start (calm : world.Calm) (sound : world.store.Sound)
    (alike : ∀ i pairs, Program.Resembles (.versions (spaces i)) Eq pairs (alone i) (alone i)) :
    Isolated spaces alone world ⟨world, alone⟩ [] := by
  refine ⟨calm, fun i => ⟨⟨alone i, world, []⟩, _, calm, .refl sound _, alike i _, rfl, rfl, rfl,
    fun _ _ => rfl⟩, fun _ _ => rfl⟩

theorem Isolated.advance (isolated : Isolated spaces alone world crew calls)
    (apart : ∀ i j, i ≠ j → spaces i ≠ spaces j) (i : Fin n) :
    Isolated spaces alone world (crew.advance i) (calls ++ crew.callBy i) := by
  obtain ⟨calm, each, untouched⟩ := isolated
  obtain ⟨shadow, pairs, own⟩ := each i
  refine ⟨calm_advance calm i, fun j => ?_, fun ref strange => ?_⟩
  · rw [callsOf_append]
    by_cases same : j = i
    · subst same
      exact own.advance calm
    · obtain ⟨shadowOther, pairsOther, other⟩ := each j
      exact ⟨shadowOther, pairsOther, other.beside own calm same (apart j i same)⟩
  · rcases own.turn calm with still | ⟨about, request, known, within, served⟩
    · rw [still]
      exact untouched ref strange
    · have different : ref ≠ about := fun same => strange i (same ▸ within)
      rw [served, Store.find?_serve_of_ne own.twins.sound within.plain known different]
      exact untouched ref strange

/-- However the turns are taken, every member keeps its shadow. -/
theorem Isolated.run (isolated : Isolated spaces alone world crew calls)
    (apart : ∀ i j, i ≠ j → spaces i ≠ spaces j) (order : List (Fin n)) :
    Isolated spaces alone world (crew.run order) (calls ++ crew.calls order) := by
  induction order generalizing crew calls with
  | nil => simpa [Crew.run, Crew.calls] using isolated
  | cons i order ih =>
      have further := ih (isolated.advance apart i)
      rwa [List.append_assoc] at further

theorem Shadowed.ended {result : Except Fault α}
    (shadowed : Shadowed space whole world crew i made shadow pairs)
    (ended : crew.members i = Program.ofExcept result) :
    (whole.run world).1 = result ∧ made.map Served.asked = (whole.history world).map Served.asked ∧
      (whole.run world).2 = shadow.world := by
  obtain ⟨rest, alone, past⟩ := shadow
  have isRest : rest = Program.ofExcept result := by
    have alike : Program.Resembles (.versions space) Eq pairs (crew.members i) rest :=
      shadowed.alike
    rw [ended] at alike
    cases result with
    | ok value =>
        cases alike with
        | done same => rw [same]; rfl
    | error failure =>
        cases alike with
        | fail same => cases same; rfl
  subst isRest
  have runs : whole.run world = (result, alone) := by
    rw [shadowed.runs]
    cases result <;> rfl
  have history : whole.history world = past := by
    rw [shadowed.history]
    cases result <;> exact List.append_nil past
  exact ⟨by rw [runs], by rw [history, shadowed.asked], by rw [runs]⟩

/-- Outside of the namespaces of all others, the crew leaves what a member alone
leaves, up to the versions. -/
theorem Isolated.content?_eq (isolated : Isolated spaces alone world crew calls)
    (shadowed : Shadowed (spaces i) whole world crew i made shadow pairs) {ref : Ref}
    (inSpace : ref.space = .text (spaces i)) :
    crew.world.store.content? ref = shadow.world.store.content? ref := by
  by_cases plain : ref.Plain
  · rw [Store.content?, Store.content?]
    rcases shadowed.twins.held_cases ⟨plain, inSpace⟩ with
      ⟨absent, gone⟩ | ⟨_, _, found, finds, twin⟩
    · rw [absent, gone]
    · rw [found, finds, Option.map_some, Option.map_some, twin.content]
  · -- No pass asks for a reference that is not made of texts.
    have strange : ∀ j, ¬ ref.Within (spaces j) := fun j within => plain within.plain
    rw [Store.content?_of_find?_eq (isolated.untouched ref strange),
      Store.content?_of_find?_eq (shadowed.untouched ref (strange i))]

end Crew

/-- A cluster with all that a pass over it is given. -/
structure Commission where
  cluster : Cluster
  settings : Settings := {}
  inputs : Inputs
  budget : Budget := {}

namespace Commission

def pass (commission : Commission) : Program Outcome :=
  reconcile commission.cluster commission.settings commission.inputs commission.budget

/-- A reference to a resource in the namespace of the cluster. -/
def Governs (commission : Commission) (ref : Ref) : Prop :=
  ref.space = .text commission.cluster.space

/-- A pass among others has come to the result that it has alone, by the same calls,
and its namespace holds what it leaves there alone. -/
structure DoneAsAlone (commission : Commission) (world : World) (result : Except Fault Outcome)
    (calls : List Served) (after : Store) : Prop where
  result : result = (commission.pass.run world).1
  calls : calls.map Served.asked = (commission.pass.history world).map Served.asked
  contents : ∀ ref, commission.Governs ref →
    after.content? ref = (commission.pass.run world).2.store.content? ref

theorem suits_versions (cluster : Cluster) : (Likeness.versions cluster.space).Suits cluster where
  owned _ owned := ⟨Cluster.plain_of_owned owned, Cluster.space_of_owned owned⟩
  owner := ⟨cluster.plain_ref, rfl⟩

variable {n : Nat} {commissions : Fin n → Commission} {world : World}

theorem isolated (reachable : world.store.Reachable) (calm : world.Calm)
    (apart : ∀ i j, i ≠ j → (commissions i).cluster.space ≠ (commissions j).cluster.space)
    (order : List (Fin n)) :
    let crew : Crew Outcome n := ⟨world, fun i => (commissions i).pass⟩
    Crew.Isolated (fun i => (commissions i).cluster.space) (fun i => (commissions i).pass) world
      (crew.run order) (crew.calls order) := by
  have start := Crew.isolated_start calm reachable.sound fun i pairs =>
    @Program.resembles_reconcile_itself _ pairs _ (suits_versions (commissions i).cluster)
      (commissions i).settings (commissions i).inputs (commissions i).budget
  exact start.run apart order

end Commission

/-- Passes over clusters in different namespaces, that take turns in any order and
with nobody else around: each makes the calls that it makes alone, has the result
that it has alone, and leaves in its namespace what it leaves there alone.  What
is in no namespace of theirs is as it was, so that the order makes no difference. -/
theorem reconcile_isolated {n : Nat} (commissions : Fin n → Commission)
    (apart : ∀ i j, i ≠ j → (commissions i).cluster.space ≠ (commissions j).cluster.space)
    {world : World} (reachable : world.store.Reachable) (calm : world.Calm) :
    let crew : Crew Outcome n := ⟨world, fun i => (commissions i).pass⟩
    (∀ turns, Crew.Fair turns → ∃ k, (crew.run (Crew.first turns k)).Ended) ∧
      (∀ order i, (callsOf i (crew.calls order)).map Served.asked <+:
        ((commissions i).pass.history world).map Served.asked) ∧
      (∀ order i result, (crew.run order).members i = Program.ofExcept result →
        (commissions i).DoneAsAlone world result (callsOf i (crew.calls order))
          (crew.run order).world.store) ∧
      (∀ order ref, (∀ i, ¬ (commissions i).Governs ref) →
        (crew.run order).world.store.find? ref = world.store.find? ref) ∧
      ∀ order other, (crew.run order).Ended → (crew.run other).Ended →
        (crew.run order).world.store.SameContents (crew.run other).world.store := by
  intro crew
  have isolated := fun order => Commission.isolated reachable calm apart order
  have done : ∀ order i result, (crew.run order).members i = Program.ofExcept result →
      (commissions i).DoneAsAlone world result (callsOf i (crew.calls order))
        (crew.run order).world.store := by
    intro order i result ended
    obtain ⟨shadow, pairs, shadowed⟩ := (isolated order).each i
    obtain ⟨isResult, asked, isWorld⟩ := shadowed.ended ended
    refine ⟨isResult.symm, asked, fun ref inSpace => ?_⟩
    rw [isWorld]
    exact (isolated order).content?_eq shadowed inSpace
  have untouched : ∀ order ref, (∀ i, ¬ (commissions i).Governs ref) →
      (crew.run order).world.store.find? ref = world.store.find? ref := fun order ref strange =>
    (isolated order).untouched ref fun i within => strange i within.inSpace
  refine ⟨fun turns fair => crew.ends_of_fair fair, fun order i => ?_, done, untouched,
    fun order other ended endedOther ref => ?_⟩
  · obtain ⟨shadow, pairs, shadowed⟩ := (isolated order).each i
    rw [shadowed.asked, shadowed.history, List.map_append]
    exact List.prefix_append _ _
  · by_cases governed : ∃ i, (commissions i).Governs ref
    · obtain ⟨i, governs⟩ := governed
      obtain ⟨result, isEnd⟩ := ended i
      obtain ⟨again, isEndOther⟩ := endedOther i
      rw [(done order i result isEnd).contents ref governs,
        (done other i again isEndOther).contents ref governs]
    · have strange : ∀ i, ¬ (commissions i).Governs ref := fun i governs => governed ⟨i, governs⟩
      exact Store.content?_of_find?_eq
        ((untouched other ref strange).trans (untouched order ref strange).symm)

/-- A cluster whose job has drifted, and one in another namespace that has nothing yet. -/
def neighbours : Fin 2 → Commission
  | 0 => { cluster := plainCluster, inputs := ⟨.given [], .given []⟩ }
  | 1 => { cluster := { plainCluster with space := "audit" }, inputs := ⟨.given [], .given []⟩ }

/-- Two passes that take turns: the versions that the first one comes to see are not
those that it sees alone. -/
theorem neighbouring_reconcile_isolated :
    let world : World := { store := staleStore }
    let crew : Crew Outcome 2 := ⟨world, fun i => (neighbours i).pass⟩
    ((callsOf 0 (crew.calls (List.replicate 25 [0, 1]).flatten)).map fun call =>
        (call.request.verb, call.before.version)) =
      [(.create, 2), (.create, 4), (.create, 6), (.create, 8), (.get, 9), (.update, 9), (.get, 10),
        (.get, 10), (.update, 10)] ∧
      (((neighbours 0).pass.history world).map fun call =>
        (call.request.verb, call.before.version)) =
      [(.create, 2), (.create, 3), (.create, 4), (.create, 5), (.get, 5), (.update, 5), (.get, 6),
        (.get, 6), (.update, 6)] ∧
      (∀ turns, Crew.Fair turns → ∃ k, (crew.run (Crew.first turns k)).Ended) ∧
      (∀ order i, (callsOf i (crew.calls order)).map Served.asked <+:
        ((neighbours i).pass.history world).map Served.asked) ∧
      (∀ order i result, (crew.run order).members i = Program.ofExcept result →
        (neighbours i).DoneAsAlone world result (callsOf i (crew.calls order))
          (crew.run order).world.store) ∧
      (∀ order ref, (∀ i, ¬ (neighbours i).Governs ref) →
        (crew.run order).world.store.find? ref = world.store.find? ref) ∧
      ∀ order other, (crew.run order).Ended → (crew.run other).Ended →
        (crew.run order).world.store.SameContents (crew.run other).world.store := by
  refine ⟨by decide +kernel, by decide +kernel, ?_⟩
  exact reconcile_isolated neighbours (by decide) reachable_staleStore ⟨rfl, fun _ => rfl⟩

end CuratorKeeper
