import CuratorKeeper.Proofs.Cluster.Acceptance
import CuratorKeeper.Proofs.Job.Shape
import Mathlib.Data.List.Forall2

/-!
# The amounts in rendered jobs

Each amount that a cluster gives for its curator stands in the container of every one
of its jobs, in order and under its own key.  A text stands there as it is and a number
as its text, but whatever else is given is written out as well.
-/

namespace CuratorKeeper

/-- The text that is rendered for an amount: a text as it is, a number by its text, and
everything else in its written form. -/
inductive Renders : Value → String → Prop
  | text (content : String) : Renders (.text content) content
  | number (amount : Number) : Renders (.number amount) amount.text
  | null : Renders .null "None"
  | truth (truth : Bool) : Renders (.bool truth) (if truth then "True" else "False")
  | list (items : List Value) : Renders (.list items) (Value.list items).shown
  | object (fields : Fields) : Renders (.object fields) (Value.object fields).shown

/-- An amount that a cluster gives is told by a text: it is this text, or the number with it. -/
def TellsAmount (given : Value) (content : String) : Prop :=
  given = .text content ∨ ∃ amount, given = .number amount ∧ content = amount.text

theorem renders_display (value : Value) : Renders value value.display := by
  cases value with
  | null => exact .null
  | bool truth => exact .truth truth
  | number amount => exact .number amount
  | text content => exact .text content
  | list items => exact .list items
  | object fields => exact .object fields

/-- What is no text and no number is rendered, too, but no such amount is told. -/
theorem Renders.tellsAmount_iff {given : Value} {content : String} (renders : Renders given content) :
    TellsAmount given content ↔
      (∃ text : String, given = .text text) ∨ ∃ amount, given = .number amount := by
  cases renders <;> simp [TellsAmount]

def fieldsIn : Option Value → Fields
  | some (.object fields) => fields
  | _ => []

/-- Fields with amounts are rendered one by one, each under its own key. -/
def RendersFields (given rendered : Fields) : Prop :=
  List.Forall₂ (fun field entry => entry.1 = .name field.1.display ∧
    ∃ content : String, Renders field.2 content ∧ entry.2 = .text content) given rendered

def amountFields (amounts : List (String × String)) : Fields :=
  amounts.map fun amount => (.name amount.1, .text amount.2)

theorem rendersFields_amountsIn (held : Option Value) :
    RendersFields (fieldsIn held)
      (amountFields (amountsIn held)) := by
  cases held with
  | none => exact .nil
  | some value =>
      cases value with
      | object fields =>
          rw [fieldsIn, amountsIn, amountFields, List.map_map, RendersFields, List.forall₂_map_right_iff]
          exact List.forall₂_same.mpr fun field _ => ⟨rfl, _, renders_display field.2, rfl⟩
      | _ => exact .nil

/-- The resources of a container are these limits and these requests, and nothing else. -/
structure Value.Grants (container : Value) (quantities : Quantities) : Prop where
  limits : container.at? ["resources", "limits"] = some (.object (amountFields quantities.limits))
  requests : container.at? ["resources", "requests"] =
    some (.object (amountFields quantities.requests))
  others : ∀ key : Key, key ≠ "limits" → key ≠ "requests" → container.at? ["resources", key] = none

theorem grants_container (job : Job) : job.container.Grants job.resources where
  limits := rfl
  requests := rfl
  others := by
    intro key noLimits noRequests
    rw [Value.at?_pair]
    change Fields.get? [("limits", _), ("requests", _)] key = none
    rw [Fields.get?, List.lookup_cons, beq_false_of_ne noLimits, List.lookup_cons,
      beq_false_of_ne noRequests]
    rfl

theorem containers_manifest (cluster : Cluster) (job : Job) :
    (job.manifest cluster).at? (.name "spec" :: containersPath) = some (.list [job.container]) :=
  rfl

namespace Cluster

variable {object : Value} {cluster : Cluster} {settings : Settings} {files : Fields}
  {credentials : List (String × ByteArray)} {desired : DesiredSet}

theorem resources_of_given (read : ofObject object = .ok cluster)
    (given : (settingIn object "resources").isBlank = false)
    (made : cluster.desired settings files credentials = .ok desired) {planned : Job × Value}
    (member : planned ∈ desired.jobs) :
    planned.2 = planned.1.manifest cluster ∧
      planned.1.resources = ⟨amountsIn ((settingIn object "resources").part? "limits"),
        amountsIn ((settingIn object "resources").part? "requests")⟩ := by
  obtain ⟨jobs, madeJobs, rfl⟩ := desired_eq_ok made
  obtain ⟨schedule, image, -, -, rfl⟩ := jobs_eq_ok madeJobs
  obtain ⟨job, isJob, rfl⟩ := List.mem_map.mp member
  obtain ⟨slot, -, rfl⟩ := List.mem_map.mp isJob
  refine ⟨rfl, ?_⟩
  rw [jobWith, eq_stated_of_ofObject read, stated, described, Curation.stated, quantitiesIn, given]
  rfl

/-- The container of every job that is rendered for a cluster with amounts has an entry
for each limit and each request that the cluster gives, with its text. -/
theorem desired_renders (read : ofObject object = .ok cluster)
    (given : (settingIn object "resources").isBlank = false)
    (made : cluster.desired settings files credentials = .ok desired) :
    ∀ planned ∈ desired.jobs, ∃ container,
      planned.2.at? (.name "spec" :: containersPath) = some (.list [container]) ∧
        ∀ part ∈ (["limits", "requests"] : List Key), ∃ rendered,
          container.at? ["resources", part] = some (.object rendered) ∧
            RendersFields (fieldsIn ((settingIn object "resources").part? part)) rendered := by
  intro planned member
  obtain ⟨isManifest, resources⟩ := resources_of_given read given made member
  have grants := grants_container planned.1
  rw [resources] at grants
  refine ⟨planned.1.container, by rw [isManifest, containers_manifest], fun part isPart => ?_⟩
  simp only [List.mem_cons, List.not_mem_nil, or_false] at isPart
  rcases isPart with rfl | rfl
  · exact ⟨_, grants.limits, rendersFields_amountsIn _⟩
  · exact ⟨_, grants.requests, rendersFields_amountsIn _⟩

end Cluster

def givingAmounts (limits requests : Fields) : Value :=
  .object
    [("metadata", .object [("name", "instance"), ("namespace", "logging")]),
      ("spec", .object
        [("curation", .object
          [("type", "curator"), ("curator", .object [("resources", .object
            [("limits", .object limits), ("requests", .object requests)])])])])]

theorem describes_givingAmounts (limits requests : Fields) :
    Cluster.Describes (givingAmounts limits requests) where
  name := ⟨"instance", rfl⟩
  space := by rintro _ ⟨⟩; exact ⟨"logging", rfl⟩
  uid := nofun
  apiVersion := nofun
  kind := nofun
  spec := .inr ⟨_, rfl⟩
  curation := .inr ⟨_, rfl⟩
  curator := .inr ⟨_, rfl⟩
  management := .inl rfl
  topology := .inl rfl

theorem readable_givingAmounts (limits requests : Fields) :
    ReadableSettings (givingAmounts limits requests) where
  type := .inr ⟨"curator", rfl⟩
  schedule := .inl rfl
  suspend := .unset
  resources := .inr ⟨⟨_, rfl⟩, .inr ⟨_, rfl⟩, .inr ⟨_, rfl⟩⟩

/-- A text and a number among the amounts arrive in the job of a cluster. -/
theorem numeric_desired_renders :
    let object := givingAmounts [("memory", "1Gi")] [("cpu", 1)]
    ∃ cluster desired, Cluster.ofObject object = .ok cluster ∧
      (settingIn object "resources").isBlank = false ∧
      cluster.desired {} [] [] = .ok desired ∧ desired.jobs ≠ [] ∧
      ∀ planned ∈ desired.jobs, ∃ container,
        planned.2.at? (.name "spec" :: containersPath) = some (.list [container]) ∧
          ∀ part ∈ (["limits", "requests"] : List Key), ∃ rendered,
            container.at? ["resources", part] = some (.object rendered) ∧
              RendersFields (fieldsIn ((settingIn object "resources").part? part)) rendered := by
  intro object
  have read : Cluster.ofObject object = .ok (Cluster.stated object) :=
    Cluster.ofObject_eq_stated (describes_givingAmounts _ _) (readable_givingAmounts _ _)
  have made := Cluster.desired_of_jobs
    (@Cluster.jobs_of_text (Cluster.stated object) {} _ _ rfl rfl) [] []
  exact ⟨_, _, read, rfl, made, List.cons_ne_nil _ _, Cluster.desired_renders read rfl made⟩

/-- Null, a truth value and a list among the amounts of an enabled cluster are rendered,
although they are no amounts. -/
theorem written_amounts_are_rendered :
    let object := givingAmounts [] [("cpu", .null), ("memory", true), ("pods", .list [])]
    ∃ cluster desired, Cluster.ofObject object = .ok cluster ∧ cluster.curation.mode = .enabled ∧
      (settingIn object "resources").isBlank = false ∧
      cluster.desired {} [] [] = .ok desired ∧
      (∃ planned ∈ desired.jobs,
        planned.2.at? (containerPlace ++ ([.name "resources", .name "requests"] : List Key)) =
          some (.object [("cpu", "None"), ("memory", "True"), ("pods", "[]")])) ∧
      ¬ TellsAmount .null "None" ∧ ¬ TellsAmount true "True" ∧ ¬ TellsAmount (.list []) "[]" := by
  intro object
  have read : Cluster.ofObject object = .ok (Cluster.stated object) :=
    Cluster.ofObject_eq_stated (describes_givingAmounts _ _) (readable_givingAmounts _ _)
  have made := Cluster.desired_of_jobs
    (@Cluster.jobs_of_text (Cluster.stated object) {} _ _ rfl rfl) [] []
  refine ⟨_, _, read, rfl, rfl, made, ⟨_, List.mem_cons_self, rfl⟩, ?_, ?_, ?_⟩
  · exact Renders.null.tellsAmount_iff.not.mpr (by simp)
  · exact (Renders.truth true).tellsAmount_iff.not.mpr (by simp)
  · exact (renders_display (.list [])).tellsAmount_iff.not.mpr (by simp)

end CuratorKeeper
