import CuratorKeeper.Proofs.Pass.Likeness
import CuratorKeeper.Proofs.Pass.Undisturbed
import CuratorKeeper.Proofs.Store.Veil

/-!
# What a pass tells of the credentials

A pass reads the credentials and puts them into the secret of the cluster.  Two
passes with different credentials do the same in all other respects, whatever
foreign deeds and failures there are: they make the same calls, come to the same
end, and leave stores that differ in nothing but texts that stand in data.  They
write the same log lines as well, if the files that cannot be read are missing in
the same way, since a pass tells why it cannot read a file.
-/

namespace CuratorKeeper

/-- No edit that waits for a call gives a resource another reference. -/
def World.KeepsRefs (world : World) : Prop :=
  ∀ verb, ∀ disturbances ∈ world.waiting verb, ∀ disturbance ∈ disturbances, disturbance.KeepsRef

def World.swapped (world : World) (store : Store) (lines : List LogLine) : World :=
  { world with store, journal := { world.journal with lines } }

/-- Another store that differs from the one of a world in nothing but the texts in the
data of its resources, and log lines that are those of the world if they are heard. -/
structure World.Conceals (heard kept : Prop) (secret : Ref) (world : World) (store : Store)
    (lines : List LogLine) : Prop where
  direct : world.gateway = none
  store : world.store.Conceals kept secret store
  lines : heard → world.journal.lines = lines
  keeps : kept → world.KeepsRefs

theorem Likeness.Asks.same {heard kept : Prop} {secret : Ref} {request asked : Request}
    (asks : (Likeness.contents heard kept secret).Asks () request asked) :
    asked.ref = request.ref ∧ asked.verb = request.verb ∧ asked.part? = request.part? := by
  cases asks with
  | create alike => exact ⟨alike.ref_eq, rfl, rfl⟩
  | get about => exact ⟨rfl, rfl, rfl⟩
  | update alike part => exact ⟨alike.ref_eq, rfl, rfl⟩
  | delete about => exact ⟨rfl, rfl, rfl⟩

namespace World.Conceals

variable {heard kept : Prop} {secret : Ref} {world : World} {other : Store} {lines : List LogLine}

theorem refl (direct : world.gateway = none) (heard : Prop) (secret : Ref) :
    world.Conceals heard world.KeepsRefs secret world.store world.journal.lines :=
  ⟨direct, .refl _ _ _, fun _ => rfl, id⟩

/-- A call is noted and disturbed alike over both stores, and served alike. -/
theorem serve (conceals : world.Conceals heard kept secret other lines) (plain : secret.Plain)
    {request asked : Request} (asks : (Likeness.contents heard kept secret).Asks () request asked) :
    ∃ left, ((world.swapped other lines).serve asked).2 =
        (world.serve request).2.swapped left lines ∧
      (world.serve request).2.store.Conceals kept secret left ∧
      (Likeness.contents heard kept secret).Answers () request.verb (world.serve request).1
        ((world.swapped other lines).serve asked).1 := by
  obtain ⟨sameRef, sameVerb, samePart⟩ := asks.same
  simp only [World.serve, sameRef, sameVerb, samePart]
  cases request.ref with
  | error mismatch => exact ⟨other, rfl, conceals.store, .error rfl⟩
  | ok ref =>
      have keeps : kept → ∀ disturbance ∈ (world.waiting request.verb).headD [],
          disturbance.KeepsRef := by
        intro isKept disturbance member
        rcases world.headD_waits request.verb with none | ⟨verb, waits⟩
        · rw [none] at member
          cases member
        · exact conceals.keeps isKept verb _ waits disturbance member
      -- Foreign deeds fail alike over both stores, so that the call is served by both or none.
      have disturbed := conceals.store.disturbAll plain ref keeps
      simp only [swapped]
      revert disturbed
      generalize world.store.disturbAll ref _ = first, other.disturbAll ref _ = second
      obtain ⟨answer, left⟩ := first
      obtain ⟨reply, right⟩ := second
      rintro ⟨rfl, after⟩
      cases answer with
      | error fault => exact ⟨right, rfl, after, .error rfl⟩
      | ok done =>
          obtain ⟨answers, served⟩ := Store.Conceals.serve after plain asks ref
          exact ⟨_, rfl, served, answers⟩

theorem call (conceals : world.Conceals heard kept secret other lines) (plain : secret.Plain)
    {request asked : Request} (asks : (Likeness.contents heard kept secret).Asks () request asked) :
    ∃ left, ((world.swapped other lines).handle (.call asked)).2 =
        (world.handle (.call request)).2.swapped left lines ∧
      (world.handle (.call request)).2.Conceals heard kept secret left lines ∧
      (Likeness.contents heard kept secret).Answers () request.verb
        (world.handle (.call request)).1 ((world.swapped other lines).handle (.call asked)).1 := by
  have direct := conceals.direct
  have directOther : (world.swapped other lines).gateway = none := direct
  obtain ⟨left, same, after, answers⟩ := conceals.serve plain asks
  simp only [World.handle, World.answer, direct, directOther]
  refine ⟨left, same, ⟨(world.gateway_serve request).trans direct, after, ?_, ?_⟩, answers⟩
  · rw [Program.lines_serve]
    exact conceals.lines
  · exact fun isKept verb disturbances member =>
      conceals.keeps isKept verb disturbances (world.waiting_serve_subset request verb member)

end World.Conceals

/-- Programs that differ in nothing but the texts in the data of resources come to ends
that do, in worlds that do. -/
theorem Program.Resembles.run_conceals {α β : Type} {related : α → β → Prop} {heard kept : Prop}
    {secret : Ref} {stage : (Likeness.contents heard kept secret).Stage} {program : Program α}
    {another : Program β}
    (alike : Resembles (.contents heard kept secret) related stage program another)
    (plain : secret.Plain) {world : World} {other : Store} {lines : List LogLine}
    (conceals : world.Conceals heard kept secret other lines) :
    (Likeness.contents heard kept secret).Ends related (program.run world).1
        (another.run (world.swapped other lines)).1 ∧
      ∃ left told, (another.run (world.swapped other lines)).2 =
          (program.run world).2.swapped left told ∧
        (program.run world).2.Conceals heard kept secret left told := by
  induction alike generalizing world other lines with
  | done same => exact ⟨.ok same, other, lines, rfl, conceals⟩
  | fail same => exact ⟨.error same, other, lines, rfl, conceals⟩
  | call asks further ih =>
      obtain ⟨left, same, after, answers⟩ := conceals.call plain asks
      rw [run_perform, run_perform, same]
      exact ih () _ _ trivial answers after
  | note same further ih =>
      refine ih ⟨conceals.direct, conceals.store, fun isHeard => ?_, conceals.keeps⟩
      rw [← same isHeard, ← conceals.lines isHeard]
      rfl
  | draw further ih =>
      exact ih _ _ (fun _ => rfl)
        ⟨conceals.direct, conceals.store, conceals.lines, conceals.keeps⟩
  | @pause _ length other next rest same further ih =>
      cases same trivial
      exact ih ⟨conceals.direct, conceals.store, conceals.lines, conceals.keeps⟩

def Directory.holds (directory : Directory) (name : String) : Bool :=
  (directory.entries.lookup name).join.isSome

/-- A file is found under the same path and in the same way. -/
def Directory.FindsAs (directory other : Directory) (name : String) : Prop :=
  directory.path = other.path ∧ directory.entries.lookup name = other.entries.lookup name

theorem Directory.holds_eq_true {directory : Directory} {name : String} :
    directory.holds name = true ↔
      ∃ content, directory.entries.lookup name = some (some content) := by
  rw [holds, Option.isSome_iff_exists]
  exact exists_congr fun content => Option.join_eq_some_iff

theorem Directory.FindsAs.read_eq {directory other : Directory} {name : String}
    (finds : directory.FindsAs other name) : directory.read name = other.read name := by
  simp only [read, noteUnreadable, pathOf, finds.1, finds.2]

theorem Directory.read_eq_note {directory : Directory} {name : String}
    (unreadable : directory.holds name = false) :
    ∃ line, directory.read name = .perform (.note line) fun _ => .done ByteArray.empty := by
  unfold read
  split
  next content found => simp [holds, found] at unreadable
  · exact ⟨_, rfl⟩
  · exact ⟨_, rfl⟩

namespace Program

variable {like : Likeness} {stage : like.Stage} {directory other : Directory}

theorem resembles_read {name : String} (both : directory.holds name = other.holds name)
    (fails : like.heard → directory.holds name = false → directory.FindsAs other name) :
    Resembles like (fun _ _ => True) stage (directory.read name) (other.read name) := by
  cases readable : directory.holds name with
  | true =>
      obtain ⟨content, found⟩ := Directory.holds_eq_true.mp readable
      obtain ⟨again, finds⟩ := Directory.holds_eq_true.mp (both ▸ readable)
      simp only [Directory.read, found, finds]
      exact .done trivial
  | false =>
      obtain ⟨line, reads⟩ := Directory.read_eq_note readable
      obtain ⟨another, readsOther⟩ := Directory.read_eq_note (both ▸ readable)
      have told : like.heard → line = another := by
        intro heard
        have same := (fails heard readable).read_eq
        rw [reads, readsOther] at same
        injection same with effect
        injection effect
      rw [reads, readsOther]
      exact .note told (.done trivial)

theorem resembles_readBytes (files : List (String × String))
    (both : ∀ file ∈ files, directory.holds file.2 = other.holds file.2)
    (fails : like.heard → ∀ file ∈ files, directory.holds file.2 = false →
      directory.FindsAs other file.2) :
    Resembles like (fun first second => first.map Prod.fst = second.map Prod.fst) stage
      (readBytes directory files) (readBytes other files) := by
  induction files generalizing stage with
  | nil => exact .done rfl
  | cons file rest ih =>
      have bothRest := fun file member => both file (List.mem_cons_of_mem _ member)
      have failsRest := fun heard file member => fails heard file (List.mem_cons_of_mem _ member)
      refine resembles_bind (resembles_read (both file List.mem_cons_self)
        fun heard => fails heard file List.mem_cons_self) fun _ _ _ _ _ => ?_
      refine resembles_bind (ih bothRest failsRest) fun _ first second _ same => ?_
      exact .done (congrArg (file.1 :: ·) same)

end Program

def Cluster.secretRef (cluster : Cluster) : Ref := ⟨"Secret", cluster.space, curatorName⟩

theorem Cluster.secretive_secret (cluster : Cluster) (kept : Prop)
    {credentials others : List (String × ByteArray)}
    (same : credentials.map Prod.fst = others.map Prod.fst) :
    Value.Secretive kept cluster.secretRef (cluster.secret credentials)
      (cluster.secret others) := by
  have keys : ∀ credentials : List (String × ByteArray),
      Value.hiddenFields (credentials.map fun file => (file.1, .text (Base64.encode file.2))) =
        (credentials.map Prod.fst).map fun key => (Key.name key, Value.text "") := by
    intro credentials
    simp [Value.hiddenFields, Value.hidden, Function.comp_def]
  refine ⟨?_, fun _ => .inr fun own known => (Except.ok.inj known).symm⟩
  refine Value.masked_of_contents rfl rfl ?_ fun value => rfl
  simp only [Value.hiddenTexts, keys, same]

def Store.veiled (store : Store) : Store :=
  { store with entries := store.entries.map fun entry => (entry.1, entry.2.veiled) }

theorem Store.Conceals.veiled_eq {kept : Prop} {secret : Ref} {store other : Store}
    (conceals : store.Conceals kept secret other) : store.veiled = other.veiled := by
  obtain ⟨entries, version⟩ := store
  obtain ⟨others, number⟩ := other
  have alike : List.Forall₂ (Entry kept secret) entries others := conceals.entries
  have versions : version = number := conceals.version
  have same : (entries.map fun entry => (entry.1, entry.2.veiled)) =
      others.map fun entry => (entry.1, entry.2.veiled) := by
    clear conceals
    induction alike with
    | nil => rfl
    | cons first _ ih => rw [List.map_cons, List.map_cons, ih, first.ref, first.value.veiled]
  simp only [Store.veiled, same, versions]

/-- Two passes over one cluster, with credentials from two directories in which the same
files can be read, make the same calls, pause alike, come to the same outcome or fault,
and leave the same resources but for texts in their data.  If the files that cannot be
read are found alike, they write the same log lines.  If no edit of others gives a
resource another reference, only the secret of the cluster differs. -/
theorem reconcile_secret (cluster : Cluster) (settings : Settings) (files : Source Fields)
    (budget : Budget) {directory other : Directory}
    (both : ∀ file ∈ credentialFiles, directory.holds file.2 = other.holds file.2) {world : World}
    (direct : world.gateway = none) :
    let run := fun directory =>
      (reconcile cluster settings ⟨files, .directory directory⟩ budget).run world
    (run directory).1 = (run other).1 ∧
      (run directory).2.journal.calls = (run other).2.journal.calls ∧
      (run directory).2.journal.pauses = (run other).2.journal.pauses ∧
      (run directory).2.store.veiled = (run other).2.store.veiled ∧
      ((∀ file ∈ credentialFiles, directory.holds file.2 = false →
          directory.FindsAs other file.2) →
        (run directory).2.journal.lines = (run other).2.journal.lines) ∧
      (world.KeepsRefs → ∀ ref, ref ≠ cluster.secretRef →
        (run directory).2.store.find? ref = (run other).2.store.find? ref) := by
  intro run
  -- The two runs tell the same if they have the same to tell of what cannot be read.
  let heard := ∀ file ∈ credentialFiles, directory.holds file.2 = false →
    directory.FindsAs other file.2
  have plain : cluster.secretRef.Plain := ⟨_, _, _, rfl⟩
  have suits : (Likeness.contents heard world.KeepsRefs cluster.secretRef).Suits cluster :=
    ⟨fun _ _ => trivial, trivial⟩
  have alike := @Program.resembles_reconcile _ () _ suits settings ⟨files, .directory directory⟩
    ⟨files, .directory other⟩ rfl (fun _ => (Program.resembles_readBytes _ both id).mono
      fun _ _ same => cluster.secretive_secret _ same) budget
  obtain ⟨ends, left, told, same, conceals⟩ := alike.run_conceals plain (.refl direct _ _)
  have isRun : run other = (reconcile cluster settings ⟨files, .directory other⟩ budget).run
      (world.swapped world.store world.journal.lines) := rfl
  rw [isRun, same]
  refine ⟨?_, rfl, rfl, conceals.store.veiled_eq, conceals.lines, fun keeps ref different => ?_⟩
  · revert ends
    generalize (Program.run _ _).1 = result, (Program.run _ (world.swapped _ _)).1 = again
    intro ends
    cases ends with
    | ok same => rw [same]
    | error same => rw [same]
  · exact conceals.store.find?_eq keeps plain different

/-- A directory with all credentials, whose texts begin with a mark of their own. -/
def markedCredentials (mark : String) : Directory where
  path := "/work"
  entries :=
    [("ca.crt", some (mark ++ " ca").toUTF8),
      ("system.logging.curator.key", some (mark ++ " key").toUTF8),
      ("system.logging.curator.crt", some (mark ++ " cert").toUTF8)]

/-- A world in which somebody adds to the data of the secret before the job is read, and
the first update fails. -/
def strayWorld : World where
  store := staleStore
  waiting
    | .get => [[⟨.edit [⟨["data", "note"], some "x"⟩], some plainCluster.secretRef⟩]]
    | .update => [[⟨.fail (.store ⟨.conflict, "stale", "CronJob", "curator", 409⟩), none⟩]]
    | _ => []

theorem keepsRefs_strayWorld : strayWorld.KeepsRefs := by
  intro verb disturbances waits disturbance member edits isEdit
  cases verb with
  | get =>
      obtain rfl := List.mem_singleton.mp waits
      obtain rfl := List.mem_singleton.mp member
      obtain rfl := Deed.edit.inj isEdit
      refine Store.keepsRef_of_heads fun edit member => ?_
      obtain rfl := List.mem_singleton.mp member
      exact ⟨"data", ["note"], rfl, by decide, by decide⟩
  | update =>
      obtain rfl := List.mem_singleton.mp waits
      obtain rfl := List.mem_singleton.mp member
      cases isEdit
  | _ => cases waits

/-- Two passes with different credentials leave different secrets, and nothing else. -/
theorem stray_reconcile_secret :
    let run := fun directory =>
      (reconcile plainCluster {} ⟨.given [], .directory directory⟩ {}).run strayWorld
    (run (markedCredentials "one")).2.store.find? plainCluster.secretRef ≠
        (run (markedCredentials "two")).2.store.find? plainCluster.secretRef ∧
      (run (markedCredentials "one")).1 = (run (markedCredentials "two")).1 ∧
      (run (markedCredentials "one")).2.journal.calls =
        (run (markedCredentials "two")).2.journal.calls ∧
      (run (markedCredentials "one")).2.journal.pauses =
        (run (markedCredentials "two")).2.journal.pauses ∧
      (run (markedCredentials "one")).2.store.veiled =
        (run (markedCredentials "two")).2.store.veiled ∧
      (run (markedCredentials "one")).2.journal.lines =
        (run (markedCredentials "two")).2.journal.lines ∧
      ∀ ref, ref ≠ plainCluster.secretRef →
        (run (markedCredentials "one")).2.store.find? ref =
          (run (markedCredentials "two")).2.store.find? ref := by
  have both : ∀ file ∈ credentialFiles,
      (markedCredentials "one").holds file.2 = (markedCredentials "two").holds file.2 := by
    decide +kernel
  have found : ∀ file ∈ credentialFiles, (markedCredentials "one").holds file.2 = false →
      (markedCredentials "one").FindsAs (markedCredentials "two") file.2 := by
    have all : ∀ file ∈ credentialFiles, (markedCredentials "one").holds file.2 = true := by
      decide +kernel
    intro file member unreadable
    rw [all file member] at unreadable
    cases unreadable
  obtain ⟨result, calls, pauses, veiled, lines, others⟩ :=
    @reconcile_secret plainCluster {} (.given []) {} _ _ both strayWorld rfl
  exact ⟨by decide +kernel, result, calls, pauses, veiled, lines found,
    others keepsRefs_strayWorld⟩

def emptyDirectory : Directory := ⟨"/work", []⟩

/-- A directory in which another one stands in the place of a credential. -/
def nestedDirectory : Directory := ⟨"/work", [("ca.crt", none)]⟩

/-- A world in which somebody gives the secret another name before the job is made. -/
def renamingWorld : World where
  waiting
    | .create => [[], [], [],
        [⟨.edit [⟨["metadata", "name"], some "copy"⟩], some plainCluster.secretRef⟩]]
    | _ => []

/-- It is told why a file cannot be read, and a renamed copy keeps the credentials. -/
theorem credentials_show :
    let run := fun directory world =>
      (reconcile plainCluster {} ⟨.given [], .directory directory⟩ {}).run world
    ((∀ file ∈ credentialFiles, emptyDirectory.holds file.2 = nestedDirectory.holds file.2) ∧
      (run emptyDirectory {}).2.journal.lines ≠ (run nestedDirectory {}).2.journal.lines) ∧
    (∀ file ∈ credentialFiles,
        (markedCredentials "one").holds file.2 = (markedCredentials "two").holds file.2) ∧
      (run (markedCredentials "one") renamingWorld).2.store.find? ⟨"Secret", "logging", "copy"⟩ ≠
        (run (markedCredentials "two") renamingWorld).2.store.find? ⟨"Secret", "logging", "copy"⟩ :=
  ⟨⟨by decide +kernel, by decide +kernel⟩, by decide +kernel, by decide +kernel⟩

end CuratorKeeper
