import CuratorKeeper.Cluster.Basic
import CuratorKeeper.Proofs.Pass.Status

/-!
# What a cluster is read from

The object that describes a cluster is read on the way to the settings of its
curator, where every blank part stands for an empty object.  If all that is read
besides these settings is well formed, they alone decide whether there is a
cluster, and all else of the cluster stands at places of its own.
-/

namespace CuratorKeeper

/-- A part can be looked into: it is an object, or a blank or nothing in place of one. -/
def Enterable (held : Option Value) : Prop :=
  (held.getD .null).isBlank = true ∨ ∃ fields, held = some (.object fields)

/-- A part is a text if it is there. -/
def Textual (held : Option Value) : Prop :=
  ∀ value, held = some value → ∃ content : String, value = .text content

/-- A part is blank, absent or one of the texts offered. -/
def Chosen {α : Type} (offered : List (String × α)) (held : Option Value) : Prop :=
  (held.getD .null).isBlank = true ∨
    ∃ content choice, held = some (.text content) ∧ offered.lookup content = some choice

/-- The text that a part is, or another one if it is absent. -/
def textOf (default : String) : Option Value → String
  | some (.text content) => content
  | _ => default

/-- The choice that a part tells, or the usual one. -/
def choiceOf {α : Type} (offered : List (String × α)) (usual : α) : Option Value → α
  | some (.text content) => (offered.lookup content).getD usual
  | _ => usual

/-- Where no key occurs twice, what is looked up is what stands there. -/
theorem lookup_eq_some_iff_mem {α : Type} {entries : List (String × α)} {key : String} {value : α}
    (distinct : (entries.map Prod.fst).Nodup) :
    entries.lookup key = some value ↔ (key, value) ∈ entries := by
  induction entries with
  | nil => simp
  | cons entry rest ih =>
      obtain ⟨own, held⟩ := entry
      rw [List.map_cons, List.nodup_cons] at distinct
      by_cases same : key = own
      · subst same
        have absent : (key, value) ∉ rest := fun member =>
          distinct.1 (List.mem_map.mpr ⟨(key, value), member, rfl⟩)
        simp [absent, eq_comm]
      · simp [List.lookup_cons, beq_false_of_ne same, same, ih distinct.2]

theorem chosen_pair_iff {α : Type} {first second : String} {one other : α} {held : Option Value}
    (apart : first ≠ second) :
    Chosen [(first, one), (second, other)] held ↔ (held.getD .null).isBlank = true ∨
      held = some (.text first) ∨ held = some (.text second) := by
  have distinct : ([(first, one), (second, other)].map Prod.fst).Nodup := by simp [apart]
  simp only [Chosen, lookup_eq_some_iff_mem distinct]
  refine or_congr_right ⟨?_, ?_⟩
  · rintro ⟨content, choice, rfl, offered⟩
    simp only [List.mem_cons, Prod.mk.injEq, List.not_mem_nil, or_false] at offered
    exact offered.imp (fun same => by rw [same.1]) (fun same => by rw [same.1])
  · rintro (rfl | rfl)
    · exact ⟨first, one, rfl, List.mem_cons_self⟩
    · exact ⟨second, other, rfl, List.mem_cons_of_mem _ List.mem_cons_self⟩

theorem choiceOf_pair_iff {α : Type} {first second : String} {one other : α}
    {held : Option Value} (apart : first ≠ second) (differ : one ≠ other) :
    choiceOf [(first, one), (second, other)] one held = other ↔ held = some (.text second) := by
  have distinct : ([(first, one), (second, other)].map Prod.fst).Nodup := by simp [apart]
  constructor
  · intro told
    cases held with
    | none => exact absurd told differ
    | some value =>
        cases value with
        | text content =>
            cases found : [(first, one), (second, other)].lookup content with
            | none =>
                rw [choiceOf, found] at told
                exact absurd told differ
            | some choice =>
                obtain rfl : choice = other := by rwa [choiceOf, found] at told
                rw [lookup_eq_some_iff_mem distinct] at found
                simp [differ.symm] at found
                rw [found]
        | _ => exact absurd told differ
  · rintro rfl
    rw [choiceOf, (lookup_eq_some_iff_mem distinct).mpr (List.mem_cons_of_mem _ List.mem_cons_self),
      Option.getD_some]

theorem Textual.getD_eq {held : Option Value} (textual : Textual held) (default : String) :
    held.getD (.text default) = .text (textOf default held) := by
  cases held with
  | none => rfl
  | some value =>
      obtain ⟨content, rfl⟩ := textual value rfl
      rfl

theorem Textual.fieldD_eq {value : Value} {key : Key} (textual : Textual (value.part? key))
    (isObject : ∃ fields, value = .object fields) (default : String) :
    value.fieldD key (.text default) = .ok (.text (textOf default (value.part? key))) :=
  Value.fieldD_eq_ok.mpr ⟨isObject, textual.getD_eq default⟩

theorem Chosen.choice_eq {α : Type} {offered : List (String × α)} {held : Option Value}
    (chosen : Chosen offered held) (unnamed : offered.lookup "" = none) (key : String) (usual : α) :
    Cluster.choice key offered usual (held.getD .null) = .valid (choiceOf offered usual held) := by
  unfold Cluster.choice
  rcases chosen with blank | ⟨content, choice, rfl, found⟩
  · rw [if_pos blank]
    cases held with
    | none => rfl
    | some value =>
        cases value with
        | text content =>
            obtain rfl : content = "" := by simpa [Value.isBlank] using blank
            simp [choiceOf, unnamed]
        | _ => rfl
  · have full : (Value.text content).isBlank = false := by
      rw [Value.isBlank, beq_eq_false_iff_ne]
      rintro rfl
      rw [unnamed] at found
      cases found
    simp [full, Checked.oneOf, choiceOf, found]

/-- On the way into a part the places below it stay the same. -/
theorem Enterable.enter {value : Value} {key : Key} (enterable : Enterable (value.part? key))
    (isObject : ∃ fields, value = .object fields) :
    ∃ found fields, value.field key = .ok found ∧ found.orIfBlank (.object []) = .object fields ∧
      ∀ next rest, (Value.object fields).at? (next :: rest) = value.at? (key :: next :: rest) := by
  obtain ⟨fields, isFields⟩ := orIfBlank_object enterable
  refine ⟨_, fields, Value.field_eq_ok.mpr ⟨isObject, rfl⟩, isFields, fun next rest => ?_⟩
  rw [Value.at?_cons, ← isFields, Value.part?_orIfBlank, Value.at?_cons]
  cases value.part? key with
  | none => rfl
  | some part => rw [Option.getD_some, Option.bind_some, Value.at?_cons]

def settingPlace (key : Key) : List Key := ["spec", "curation", "curator", key]

/-- A setting of the curator, null if it is absent. -/
def settingIn (object : Value) (key : Key) : Value := (object.at? (settingPlace key)).getD .null

/-- The type of a curation can be read: it is null or a text. -/
def ReadableType (type : Value) : Prop :=
  type = .null ∨ ∃ content : String, type = .text content

/-- A schedule can be read: it is a text or a blank. -/
def ReadableSchedule (schedule : Value) : Prop :=
  schedule.isBlank = true ∨ ∃ content : String, schedule = .text content

/-- A suspension can be read: it is null, a truth value, a word for one, or the number
one or zero. -/
inductive ReadableSuspension : Value → Prop
  | unset : ReadableSuspension .null
  | told (truth : Bool) : ReadableSuspension (.bool truth)
  | word {content : String} {truth : Bool}
      (known : Checked.truthWords.lookup content.toLower = some truth) :
      ReadableSuspension (.text content)
  | number {amount : Number} (known : amount.toWord? = some 0 ∨ amount.toWord? = some 1) :
      ReadableSuspension (.number amount)

/-- The words for a truth value, in small letters. -/
def wordsFor : Bool → List String
  | false => ["0", "off", "f", "false", "n", "no"]
  | true => ["1", "on", "t", "true", "y", "yes"]

theorem lookup_truthWords_iff {word : String} {truth : Bool} :
    Checked.truthWords.lookup word = some truth ↔ word ∈ wordsFor truth := by
  rw [lookup_eq_some_iff_mem (by decide)]
  cases truth <;> simp [Checked.truthWords, wordsFor]

theorem readableSuspension_text_iff {content : String} :
    ReadableSuspension (.text content) ↔ ∃ truth, content.toLower ∈ wordsFor truth := by
  simp only [← lookup_truthWords_iff]
  constructor
  · intro readable
    cases readable with
    | word known => exact ⟨_, known⟩
  · rintro ⟨truth, known⟩
    exact .word known

/-- Amounts can be read: they are an object whose limits and requests can be looked
into, or a blank. -/
def ReadableResources (resources : Value) : Prop :=
  resources.isBlank = true ∨ (∃ fields, resources = .object fields) ∧
    Enterable (resources.part? "limits") ∧ Enterable (resources.part? "requests")

structure ReadableSettings (object : Value) : Prop where
  type : ReadableType ((object.at? ["spec", "curation", "type"]).getD .null)
  schedule : ReadableSchedule (settingIn object "schedule")
  suspend : ReadableSuspension (settingIn object "suspend")
  resources : ReadableResources (settingIn object "resources")

def Curation.ofSettings (type schedule suspend resources : Value) : Except Fault Curation := do
  let quantities ← Cluster.readResources resources
  (Curation.check type (schedule.orIfBlank "") suspend (.valid quantities)).orFault "CurationSpec"

theorem readAmounts_eq_ok_iff (held : Option Value) :
    (∃ amounts, Quantities.readAmounts (held.getD .null) = .ok amounts) ↔ Enterable held := by
  unfold Quantities.readAmounts Enterable
  split
  next blank => simp [blank]
  next full =>
    cases held with
    | none => exact absurd rfl full
    | some value => cases value <;> simp_all

theorem ofFields_eq (fields : Fields) :
    Quantities.ofFields fields = do
      let limits ← Quantities.readAmounts (((Value.object fields).part? "limits").getD .null)
      let requests ← Quantities.readAmounts (((Value.object fields).part? "requests").getD .null)
      return ⟨limits, requests⟩ := rfl

theorem readResources_eq_ok_iff (resources : Value) :
    (∃ quantities, Cluster.readResources resources = .ok quantities) ↔
      ReadableResources resources := by
  unfold Cluster.readResources ReadableResources
  split
  next blank => simp [blank]
  next full =>
    cases resources with
    | object fields =>
        rw [← readAmounts_eq_ok_iff, ← readAmounts_eq_ok_iff]
        simp only [ofFields_eq, full, Bool.false_eq_true, false_or]
        cases Quantities.readAmounts (((Value.object fields).part? "limits").getD .null) <;>
          cases Quantities.readAmounts (((Value.object fields).part? "requests").getD .null) <;>
            simp [bind, Except.bind, pure, Except.pure, Functor.map, Except.map]
    | _ => simp [full]

theorem truth_eq_valid_iff (suspend : Value) :
    (∃ truth, Checked.nullable (Checked.truth "suspend") suspend = .valid truth) ↔
      ReadableSuspension suspend := by
  cases suspend with
  | null => exact ⟨fun _ => .unset, fun _ => ⟨none, rfl⟩⟩
  | bool truth => exact ⟨fun _ => .told truth, fun _ => ⟨some truth, rfl⟩⟩
  | text content =>
      simp only [Checked.nullable, Checked.truth]
      cases known : Checked.truthWords.lookup content.toLower with
      | none =>
          constructor
          · rintro ⟨_, ⟨⟩⟩
          · intro readable
            cases readable with
            | word isWord => cases known.symm.trans isWord
      | some truth => exact ⟨fun _ => .word known, fun _ => ⟨some truth, rfl⟩⟩
  | number amount =>
      simp only [Checked.nullable, Checked.truth]
      constructor
      · rintro ⟨truth, read⟩
        refine .number ?_
        split at read <;> simp_all [Checked.map, Checked.issue]
      · intro readable
        cases readable with
        | number known =>
            rcases known with zero | one
            · exact ⟨some false, by simp [zero, Checked.map]⟩
            · exact ⟨some true, by simp [one, Checked.map]⟩
  | _ =>
      constructor
      · rintro ⟨_, ⟨⟩⟩
      · rintro ⟨⟩

theorem type_eq_valid_iff (type : Value) :
    (∃ content, Checked.nullable (Checked.text "type") type = .valid content) ↔
      ReadableType type := by
  unfold ReadableType
  cases type with
  | null => exact ⟨fun _ => .inl rfl, fun _ => ⟨none, rfl⟩⟩
  | text content => exact ⟨fun _ => .inr ⟨content, rfl⟩, fun _ => ⟨some content, rfl⟩⟩
  | _ => exact ⟨nofun, by simp⟩

theorem schedule_eq_valid_iff (schedule : Value) :
    (∃ content, Checked.text "schedule" (schedule.orIfBlank "") = .valid content) ↔
      ReadableSchedule schedule := by
  unfold Value.orIfBlank ReadableSchedule
  split
  next blank => exact ⟨fun _ => .inl blank, fun _ => ⟨"", rfl⟩⟩
  next full =>
    cases schedule with
    | text content => exact ⟨fun _ => .inr ⟨content, rfl⟩, fun _ => ⟨content, rfl⟩⟩
    | _ => simp [full, Checked.text, Checked.issue]

theorem readResources_eq_error {resources : Value} {mismatch : Mismatch}
    (failed : Cluster.readResources resources = .error mismatch) :
    mismatch = .noFields ∨ mismatch = .unsuited := by
  have amounts : ∀ {value : Value}, Quantities.readAmounts value = .error mismatch →
      mismatch = .noFields := by
    intro value unread
    unfold Quantities.readAmounts at unread
    split at unread
    · cases unread
    · cases value <;> simp_all
  unfold Cluster.readResources at failed
  split at failed
  · cases failed
  · cases resources with
    | object fields =>
        simp only [ofFields_eq] at failed
        cases onLimits : Quantities.readAmounts
            (((Value.object fields).part? "limits").getD .null) with
        | error unread =>
            rw [onLimits] at failed
            cases failed
            exact .inl (amounts onLimits)
        | ok limits =>
            cases onRequests : Quantities.readAmounts
                (((Value.object fields).part? "requests").getD .null) with
            | error unread =>
                rw [onLimits, onRequests] at failed
                cases failed
                exact .inl (amounts onRequests)
            | ok requests =>
                rw [onLimits, onRequests] at failed
                cases failed
    | _ => exact .inr (Except.error.inj failed).symm

/-- What can go wrong with the settings is no failure of the curation subsystem. -/
def IsUnread (fault : Fault) : Prop :=
  fault = .mismatch .noFields ∨ fault = .mismatch .unsuited ∨
    ∃ issues, fault = .invalid "CurationSpec" issues

namespace Curation

theorem ofSettings_cases (type schedule suspend resources : Value) :
    let readable := ReadableType type ∧ ReadableSchedule schedule ∧ ReadableSuspension suspend ∧
      ReadableResources resources
    (readable → ∃ curation, ofSettings type schedule suspend resources = .ok curation) ∧
      (¬ readable → ∃ fault, ofSettings type schedule suspend resources = .error fault ∧
        IsUnread fault) := by
  intro readable
  simp only [readable, ← type_eq_valid_iff, ← schedule_eq_valid_iff, ← truth_eq_valid_iff,
    ← readResources_eq_ok_iff]
  cases onResources : Cluster.readResources resources with
  | error mismatch =>
      have failed : ofSettings type schedule suspend resources = .error (.mismatch mismatch) := by
        rw [ofSettings, onResources]
        rfl
      refine ⟨by simp, fun _ => ⟨_, failed, ?_⟩⟩
      rcases readResources_eq_error onResources with rfl | rfl
      · exact .inl rfl
      · exact .inr (.inl rfl)
  | ok quantities =>
      have reads : ofSettings type schedule suspend resources =
          (Curation.check type (schedule.orIfBlank "") suspend (.valid quantities)).orFault
            "CurationSpec" := by
        rw [ofSettings, onResources]
        rfl
      rw [reads, Curation.check]
      simp only [Checked.withDefault]
      cases Checked.nullable (Checked.text "type") type <;>
        cases Checked.text "schedule" (schedule.orIfBlank "") <;>
          cases Checked.nullable (Checked.truth "suspend") suspend <;>
            simp [IsUnread, Checked.orFault, Functor.map, Seq.seq, Checked.seq, Checked.map]

end Curation

namespace Cluster

/-- An object describes a cluster, whatever the settings of its curator are. -/
structure Describes (object : Value) : Prop where
  name : ∃ content : String, object.at? ["metadata", "name"] = some (.text content)
  space : Textual (object.at? ["metadata", "namespace"])
  uid : Textual (object.at? ["metadata", "uid"])
  apiVersion : Textual (object.at? ["apiVersion"])
  kind : Textual (object.at? ["kind"])
  spec : Enterable (object.at? ["spec"])
  curation : Enterable (object.at? ["spec", "curation"])
  curator : Enterable (object.at? ["spec", "curation", "curator"])
  management : Chosen Management.offered (object.at? ["spec", "managementState"])
  topology : Chosen Topology.offered (object.at? ["spec", "topology"])

theorem chosen_management_iff {held : Option Value} :
    Chosen Management.offered held ↔ (held.getD .null).isBlank = true ∨
      held = some (.text "Managed") ∨ held = some (.text "Unmanaged") :=
  chosen_pair_iff (by decide)

theorem chosen_topology_iff {held : Option Value} :
    Chosen Topology.offered held ↔ (held.getD .null).isBlank = true ∨
      held = some (.text "combined") ∨ held = some (.text "split") :=
  chosen_pair_iff (by decide)

def described (object : Value) (curation : Curation) : Cluster where
  name := textOf "" (object.at? ["metadata", "name"])
  space := textOf "" (object.at? ["metadata", "namespace"])
  uid := textOf "" (object.at? ["metadata", "uid"])
  apiVersion := textOf defaultApiVersion (object.at? ["apiVersion"])
  kind := textOf defaultKind (object.at? ["kind"])
  management := choiceOf Management.offered .managed (object.at? ["spec", "managementState"])
  topology := choiceOf Topology.offered .combined (object.at? ["spec", "topology"])
  curation := curation

def curationIn (object : Value) : Except Fault Curation :=
  Curation.ofSettings ((object.at? ["spec", "curation", "type"]).getD .null)
    (settingIn object "schedule") (settingIn object "suspend") (settingIn object "resources")

theorem Describes.metadata {object : Value} (describes : Describes object) :
    ∃ fields, object.part? "metadata" = some (.object fields) ∧
      (∀ key, object.at? ["metadata", key] = (Value.object fields).part? key) ∧
        (Value.object fields).item "name" =
          .ok (.text (textOf "" (object.at? ["metadata", "name"]))) := by
  obtain ⟨name, isName⟩ := describes.name
  have inMetadata := isName
  rw [Value.at?_cons, Option.bind_eq_some_iff] at inMetadata
  obtain ⟨metadata, held, inMetadata⟩ := inMetadata
  rw [Value.at?_singleton] at inMetadata
  obtain ⟨fields, rfl⟩ := Value.isObject_of_part? inMetadata
  refine ⟨fields, held, fun key => ?_, ?_⟩
  · rw [Value.at?_cons, held, Option.bind_some, Value.at?_singleton]
  · rw [Value.item_of_part? inMetadata, isName, textOf]

/-- Reading a cluster comes down to reading its curation. -/
theorem ofObject_eq {object : Value} (describes : Describes object) :
    ofObject object = (curationIn object).map (described object) := by
  obtain ⟨fields, heldMetadata, below, readName⟩ := describes.metadata
  have isObject := Value.isObject_of_part? heldMetadata
  have readMetadata : object.fieldD "metadata" (.object []) = .ok (.object fields) :=
    Value.fieldD_eq_ok.mpr ⟨isObject, by rw [heldMetadata, Option.getD_some]⟩
  have space := describes.space
  have uid := describes.uid
  have apiVersion := describes.apiVersion
  have kind := describes.kind
  rw [below] at space uid
  rw [Value.at?_singleton] at apiVersion kind
  have readSpace := space.fieldD_eq ⟨fields, rfl⟩ ""
  have readUid := uid.fieldD_eq ⟨fields, rfl⟩ ""
  have readApiVersion := apiVersion.fieldD_eq isObject defaultApiVersion
  have readKind := kind.fieldD_eq isObject defaultKind
  rw [← below] at readSpace readUid
  rw [← Value.at?_singleton] at readApiVersion readKind
  have onSpec := describes.spec
  rw [Value.at?_singleton] at onSpec
  obtain ⟨heldSpec, spec, readSpec, isSpec, inSpec⟩ := onSpec.enter isObject
  have onCuration := describes.curation
  rw [← inSpec, Value.at?_singleton] at onCuration
  obtain ⟨heldCuration, curation, readCuration, isCuration, inCuration⟩ :=
    onCuration.enter ⟨spec, rfl⟩
  have onCurator := describes.curator
  rw [← inSpec, ← inCuration, Value.at?_singleton] at onCurator
  obtain ⟨heldCurator, curator, readCurator, isCurator, inCurator⟩ :=
    onCurator.enter ⟨curation, rfl⟩
  have readSpecAt : ∀ key, (Value.object spec).field key =
      .ok ((object.at? ["spec", key]).getD .null) := by
    intro key
    refine Value.field_eq_ok.mpr ⟨⟨spec, rfl⟩, ?_⟩
    rw [← inSpec, Value.at?_singleton]
  have readType : (Value.object curation).field "type" =
      .ok ((object.at? ["spec", "curation", "type"]).getD .null) := by
    refine Value.field_eq_ok.mpr ⟨⟨curation, rfl⟩, ?_⟩
    rw [← inSpec, ← inCuration, Value.at?_singleton]
  have readSetting : ∀ key, (Value.object curator).field key = .ok (settingIn object key) := by
    intro key
    refine Value.field_eq_ok.mpr ⟨⟨curator, rfl⟩, ?_⟩
    rw [settingIn, settingPlace, ← inSpec, ← inCuration, ← inCurator, Value.at?_singleton]
  have management := describes.management.choice_eq rfl "management_state" .managed
  have topology := describes.topology.choice_eq rfl "topology" .combined
  simp only [ofObject, readMetadata, readSpec, isSpec, readCuration, isCuration, readCurator,
    isCurator, readSetting, readName, readSpace, readUid, readApiVersion, readKind, readSpecAt,
    readType, management, topology, curationIn, Curation.ofSettings, bind, Except.bind, liftM,
    monadLift, MonadLift.monadLift, Except.mapError]
  cases readResources (settingIn object "resources") with
  | error mismatch => rfl
  | ok quantities =>
      simp only
      cases Curation.check _ _ _ _ <;> rfl

/-- The settings of the curator alone decide whether there is a cluster. -/
theorem ofObject_cases {object : Value} (describes : Describes object) :
    (ReadableSettings object → ∃ curation, ofObject object = .ok (described object curation)) ∧
      (¬ ReadableSettings object → ∃ fault, ofObject object = .error fault ∧ IsUnread fault) := by
  obtain ⟨made, failed⟩ := Curation.ofSettings_cases
    ((object.at? ["spec", "curation", "type"]).getD .null) (settingIn object "schedule")
    (settingIn object "suspend") (settingIn object "resources")
  rw [ofObject_eq describes, curationIn]
  constructor
  · rintro ⟨type, schedule, suspend, resources⟩
    obtain ⟨curation, isMade⟩ := made ⟨type, schedule, suspend, resources⟩
    exact ⟨curation, by rw [isMade]; rfl⟩
  · intro unreadable
    obtain ⟨fault, isFailed, unread⟩ := failed fun ⟨type, schedule, suspend, resources⟩ =>
      unreadable ⟨type, schedule, suspend, resources⟩
    exact ⟨fault, by rw [isFailed]; rfl, unread⟩

end Cluster

end CuratorKeeper
