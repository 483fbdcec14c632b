import CuratorKeeper.Proofs.Job.Desired
import CuratorKeeper.Proofs.Pass.Step
import Mathlib.Computability.Language

/-!
# The grammar of a pass

The steps of a pass that comes to its end are the words of a language.  It is put
together as the pass is: from single calls, from tries that read a resource and
perhaps update it, and from going through lists of resources in order.  A pass
that is cut short has made the beginning of a word.
-/

namespace CuratorKeeper

/-- A loop that reads a resource and updates it by a changed copy. -/
structure Loop where
  reads : Nat → Site
  writes : Nat → Value → Site
  part : Option String
  /-- What is submitted, by what was read. -/
  Changes : Value → Value → Prop

namespace Cluster

/-- With some settings and inputs the cluster wants a resource under a reference. -/
def MayWant (cluster : Cluster) (ref : Ref) (resource : Value) : Prop :=
  ∃ settings files credentials desired,
    cluster.desired settings files credentials = .ok desired ∧ resource ∈ desired.manifests ∧
      Ref.of resource = .ok ref

def namedJobs (cluster : Cluster) : List Ref := cluster.jobNames.map cluster.jobRef

/-- The loop that corrects a job: what is submitted is the live job with its drift
from a job of the cluster applied. -/
def correcting (cluster : Cluster) (ref : Ref) : Loop where
  reads _ := .jobReading
  writes := .correction
  part := none
  Changes live patched := ∃ (job : Job) (drift : Drift), cluster.jobRef job.name = ref ∧
    Drift.between live (job.manifest cluster) = .ok drift ∧ drift.isChange = true ∧
      drift.apply live = .ok patched

end Cluster

/-- The loop that writes the status: what is submitted is the object with another
report. -/
def reporting : Loop where
  reads := .ownerReading
  writes := .ownerUpdate
  part := some "status"
  Changes object updated := ∃ stored derived, storedStatus object = .ok stored ∧
    stored.same derived = false ∧ withStatus object derived = .ok updated

/-- The step met a conflict and has tries left after it. -/
def Step.Stale (step : Step) : Prop :=
  ∃ refused, step.answer = .error (.store refused) ∧ refused.refusal = .conflict ∧
    step.site.absorbs .conflict = true

namespace Grammar

def creation (cluster : Cluster) (ref : Ref) : Language Step :=
  {steps | ∃ resource answer, cluster.MayWant ref resource ∧
    steps = [⟨⟨.create resource, answer⟩, .creation, ref⟩]}

def reading (site : Site) (ref : Ref) : Language Step :=
  {steps | ∃ answer, steps = [⟨⟨.get ref, answer⟩, site, ref⟩]}

def deletion (ref : Ref) : Language Step :=
  {steps | ∃ answer, steps = [⟨⟨.delete ref, answer⟩, .deletion, ref⟩]}

/-- A reading and the update by a changed copy of what was read. -/
def rewriting (loop : Loop) (ref : Ref) (left : Nat) : Language Step :=
  {steps | ∃ object changed answer, loop.Changes object changed ∧
    steps = [⟨⟨.get ref, .ok object⟩, loop.reads left, ref⟩,
      ⟨⟨.update changed loop.part, answer⟩, loop.writes left object, ref⟩]}

/-- One try of a loop: a reading, and an update if one is called for. -/
def attempt (loop : Loop) (ref : Ref) (left : Nat) : Language Step :=
  reading (loop.reads left) ref + rewriting loop ref left

/-- A try that ends with a conflict. -/
def staleAttempt (loop : Loop) (ref : Ref) (left : Nat) : Language Step :=
  {steps | steps ∈ attempt loop ref left ∧ ∃ last ∈ steps.getLast?, last.Stale}

/-- The tries of a loop with so many left after the first: another one is made only
after a conflict. -/
def tries (loop : Loop) (ref : Ref) : Nat → Language Step
  | 0 => attempt loop ref 0
  | left + 1 => attempt loop ref (left + 1) + staleAttempt loop ref (left + 1) * tries loop ref left

/-- What is done for one job: it is created and, if the cluster is managed, corrected. -/
def treatment (cluster : Cluster) (left : Nat) (ref : Ref) : Language Step :=
  creation cluster ref *
    if cluster.isManaged then tries (cluster.correcting ref) ref left else 1

def building (cluster : Cluster) (left : Nat) : Language Step :=
  (cluster.onceRefs.map (creation cluster)).prod *
    ((cluster.namedJobs.map (treatment cluster left)).prod *
      ((cluster.namedJobs.map (reading .reportReading)).prod * tries reporting cluster.ref left))

def clearing (cluster : Cluster) : Language Step :=
  if cluster.isManaged then (cluster.ownedRefs.map deletion).prod else 1

/-- A pass over a cluster, with so many tries left after the first of a loop. -/
def course (cluster : Cluster) (left : Nat) : Language Step :=
  match cluster.curation.mode with
  | .enabled => building cluster left
  | .disabled => clearing cluster
  | .unknown => 1

/-- The steps are the beginning of a word. -/
def Begins (language : Language Step) (steps : List Step) : Prop :=
  ∃ rest, steps ++ rest ∈ language

section Beginnings

variable {first second : Language Step} {steps more : List Step}

theorem Begins.of_mem (word : steps ∈ first) : Begins first steps := ⟨[], by simpa using word⟩

theorem Begins.nil (words : ∃ word, word ∈ first) : Begins first [] := words

theorem Begins.mul_left (begins : Begins first steps) (words : ∃ word, word ∈ second) :
    Begins (first * second) steps := by
  obtain ⟨rest, word⟩ := begins
  obtain ⟨further, words⟩ := words
  exact ⟨rest ++ further, by
    rw [← List.append_assoc]
    exact Language.append_mem_mul word words⟩

theorem Begins.mul_right (word : steps ∈ first) (begins : Begins second more) :
    Begins (first * second) (steps ++ more) := by
  obtain ⟨rest, words⟩ := begins
  exact ⟨rest, by
    rw [List.append_assoc]
    exact Language.append_mem_mul word words⟩

theorem Begins.add_right (begins : Begins second steps) : Begins (first + second) steps := by
  obtain ⟨rest, word⟩ := begins
  exact ⟨rest, .inr word⟩

end Beginnings

end Grammar

namespace Cluster

variable {cluster : Cluster} {ref : Ref} {resource : Value}

theorem namedJobs_of_jobs {settings : Settings} {jobs : List Job}
    (made : cluster.jobs settings = .ok jobs) : cluster.namedJobs = cluster.jobRefs jobs := by
  rw [namedJobs, ← jobNames_of_jobs made, List.map_map]
  rfl

theorem refs_manifests {settings : Settings} {files : Fields}
    {credentials : List (String × ByteArray)} {desired : DesiredSet}
    (made : cluster.desired settings files credentials = .ok desired) :
    desired.manifests.map Ref.of = cluster.ownedRefs.map .ok := by
  have once := refs_writeOnce made
  obtain ⟨jobs, madeJobs, rfl⟩ := desired_eq_ok made
  have named : cluster.jobNames.map cluster.jobRef = cluster.jobRefs jobs :=
    namedJobs_of_jobs madeJobs
  rw [DesiredSet.manifests, List.map_append, once, ownedRefs_eq, named, List.map_append, jobRefs,
    List.map_map, List.map_map, List.map_map]
  rfl

theorem exists_manifest {settings : Settings} {files : Fields}
    {credentials : List (String × ByteArray)} {desired : DesiredSet}
    (made : cluster.desired settings files credentials = .ok desired)
    (owned : ref ∈ cluster.ownedRefs) :
    ∃ manifest ∈ desired.manifests, Ref.of manifest = .ok ref := by
  have listed : (.ok ref : Except Mismatch Ref) ∈ cluster.ownedRefs.map .ok :=
    List.mem_map_of_mem owned
  rw [← refs_manifests made] at listed
  exact List.mem_map.mp listed

theorem MayWant.known (wants : cluster.MayWant ref resource) : Ref.of resource = .ok ref := by
  obtain ⟨settings, files, credentials, desired, -, -, known⟩ := wants
  exact known

theorem MayWant.owned (wants : cluster.MayWant ref resource) : ref ∈ cluster.ownedRefs := by
  obtain ⟨settings, files, credentials, desired, made, member, known⟩ := wants
  have listed := List.mem_map_of_mem (f := Ref.of) member
  rw [refs_manifests made, known] at listed
  obtain ⟨own, owned, same⟩ := List.mem_map.mp listed
  exact Except.ok.inj same ▸ owned

theorem exists_mayWant (owned : ref ∈ cluster.ownedRefs) :
    ∃ resource, cluster.MayWant ref resource := by
  obtain ⟨jobs, made⟩ := @exists_jobs {} _ _ cluster rfl rfl
  have desired := desired_of_jobs made [] []
  obtain ⟨resource, member, known⟩ := exists_manifest desired owned
  exact ⟨resource, {}, [], [], _, desired, member, known⟩

end Cluster

namespace Grammar

section Words

variable (cluster : Cluster) (ref : Ref) (loop : Loop) (left : Nat)

theorem words_mul {first second : Language Step} (words : ∃ word, word ∈ first)
    (others : ∃ word, word ∈ second) : ∃ word, word ∈ first * second := by
  obtain ⟨word, member⟩ := words
  obtain ⟨other, memberOther⟩ := others
  exact ⟨word ++ other, Language.append_mem_mul member memberOther⟩

theorem words_prod {part : Ref → Language Step} {refs : List Ref}
    (words : ∀ ref ∈ refs, ∃ word, word ∈ part ref) : ∃ word, word ∈ (refs.map part).prod := by
  induction refs with
  | nil => exact ⟨[], rfl⟩
  | cons ref rest ih =>
      rw [List.map_cons, List.prod_cons]
      exact words_mul (words ref List.mem_cons_self)
        (ih fun other member => words other (List.mem_cons_of_mem _ member))

theorem words_creation (owned : ref ∈ cluster.ownedRefs) :
    ∃ word, word ∈ creation cluster ref := by
  obtain ⟨resource, wants⟩ := Cluster.exists_mayWant owned
  exact ⟨_, resource, .error (.mismatch .unsuited), wants, rfl⟩

theorem words_reading (site : Site) : ∃ word, word ∈ reading site ref :=
  ⟨_, .error (.mismatch .unsuited), rfl⟩

theorem words_deletion : ∃ word, word ∈ deletion ref := ⟨_, .error (.mismatch .unsuited), rfl⟩

theorem words_attempt : ∃ word, word ∈ attempt loop ref left := by
  obtain ⟨word, member⟩ := words_reading ref (loop.reads left)
  exact ⟨word, .inl member⟩

theorem words_tries : ∃ word, word ∈ tries loop ref left := by
  obtain ⟨word, member⟩ := words_attempt ref loop left
  cases left with
  | zero => exact ⟨word, member⟩
  | succ left => exact ⟨word, .inl member⟩

theorem words_treatment (owned : ref ∈ cluster.ownedRefs) :
    ∃ word, word ∈ treatment cluster left ref := by
  refine words_mul (words_creation cluster ref owned) ?_
  split
  · exact words_tries ref _ left
  · exact ⟨[], rfl⟩

theorem words_treatments :
    ∃ word, word ∈ (cluster.namedJobs.map (treatment cluster left)).prod := by
  refine words_prod fun ref named => words_treatment cluster ref left ?_
  exact List.mem_append_right cluster.onceRefs named

theorem words_status :
    ∃ word, word ∈ (cluster.namedJobs.map (reading .reportReading)).prod *
      tries reporting cluster.ref left :=
  words_mul (words_prod fun ref _ => words_reading ref .reportReading)
    (words_tries cluster.ref reporting left)

theorem words_building : ∃ word, word ∈ building cluster left := by
  refine words_mul (words_prod fun ref once => words_creation cluster ref ?_)
    (words_mul (words_treatments cluster left) (words_status cluster left))
  exact List.mem_append_left _ once

theorem words_course : ∃ word, word ∈ course cluster left := by
  unfold course
  split
  · exact words_building cluster left
  · unfold clearing
    split
    · exact words_prod fun ref _ => words_deletion ref
    · exact ⟨[], rfl⟩
  · exact ⟨[], rfl⟩

end Words

section Closed

variable {kept : List Step → Prop} {loop : Loop} {ref : Ref}

/-- What parts of words have and keep when they are put together, products have. -/
theorem prod_closed (nil : kept [])
    (append : ∀ word other, kept word → kept other → kept (word ++ other))
    {part : Ref → Language Step} {refs : List Ref}
    (each : ∀ ref ∈ refs, ∀ word ∈ part ref, kept word) :
    ∀ word ∈ (refs.map part).prod, kept word := by
  induction refs with
  | nil =>
      intro word member
      rw [List.map_nil, List.prod_nil, Language.mem_one] at member
      exact member ▸ nil
  | cons ref rest ih =>
      intro word member
      rw [List.map_cons, List.prod_cons] at member
      obtain ⟨first, inFirst, others, inOthers, rfl⟩ := member
      exact append _ _ (each ref List.mem_cons_self first inFirst)
        (ih (fun other inRest => each other (List.mem_cons_of_mem _ inRest)) others inOthers)

theorem tries_closed (append : ∀ word other, kept word → kept other → kept (word ++ other))
    (each : ∀ left, ∀ word ∈ attempt loop ref left, kept word) (left : Nat) :
    ∀ word ∈ tries loop ref left, kept word := by
  induction left with
  | zero => exact each 0
  | succ left ih =>
      rintro word (settled | ⟨stale, ⟨inAttempt, -⟩, others, inTries, rfl⟩)
      · exact each _ word settled
      · exact append _ _ (each _ stale inAttempt) (ih others inTries)

end Closed

end Grammar
end CuratorKeeper
