import CuratorKeeper.Proofs.Cluster.Reading
import CuratorKeeper.Proofs.Value.Erasure

/-!
# Which objects are read as clusters

An object is read as a cluster exactly when it describes one and the settings of its
curator can be read, and the cluster is then the one that it states: every absent
part, and every blank one where blanks are allowed, gives way to its default.
-/

namespace CuratorKeeper

def typeIn : Value → Option String
  | .text content => some content
  | _ => none

/-- The truth that a suspension tells, if any. -/
def truthIn : Value → Option Bool
  | .bool truth => some truth
  | .text content => Checked.truthWords.lookup content.toLower
  | .number amount => some (amount.toWord? = some 1)
  | _ => none

theorem truthIn_text_iff {content : String} {truth : Bool} :
    truthIn (.text content) = some truth ↔ content.toLower ∈ wordsFor truth :=
  lookup_truthWords_iff

/-- Amounts by name, each as the text that it is displayed as; there are none in a
part that is absent or blank. -/
def amountsIn : Option Value → List (String × String)
  | some (.object fields) => fields.map fun field => (field.1.display, field.2.display)
  | _ => []

/-- The limits and requests among amounts, unless these are blank. -/
def quantitiesIn (resources : Value) : Option Quantities :=
  if resources.isBlank then none
  else some ⟨amountsIn (resources.part? "limits"), amountsIn (resources.part? "requests")⟩

theorem quantitiesIn_eq_none_iff (resources : Value) :
    quantitiesIn resources = none ↔ resources.isBlank = true := by
  simp [quantitiesIn]

theorem ReadableType.check_eq {type : Value} (readable : ReadableType type) :
    Checked.nullable (Checked.text "type") type = .valid (typeIn type) := by
  rcases readable with rfl | ⟨content, rfl⟩ <;> rfl

theorem ReadableSchedule.check_eq {held : Option Value}
    (readable : ReadableSchedule (held.getD .null)) :
    Checked.text "schedule" ((held.getD .null).orIfBlank "") = .valid (textOf "" held) := by
  rcases readable with blank | ⟨content, isText⟩
  · rw [Value.orIfBlank, if_pos blank]
    cases held with
    | none => rfl
    | some value =>
        cases value with
        | text content =>
            obtain rfl : content = "" := by simpa [Value.isBlank] using blank
            rfl
        | _ => rfl
  · cases held with
    | none => cases isText
    | some value =>
        obtain rfl : value = .text content := isText
        unfold Value.orIfBlank
        split
        next blank =>
          obtain rfl : content = "" := by simpa [Value.isBlank] using blank
          rfl
        next => rfl

theorem ReadableSuspension.check_eq {suspend : Value} (readable : ReadableSuspension suspend) :
    Checked.nullable (Checked.truth "suspend") suspend = .valid (truthIn suspend) := by
  cases readable with
  | unset => rfl
  | told truth => rfl
  | word known => simp [Checked.nullable, Checked.truth, truthIn, known, Checked.map]
  | number known =>
      rcases known with zero | one
      · simp [Checked.nullable, Checked.truth, truthIn, zero, Checked.map]
      · simp [Checked.nullable, Checked.truth, truthIn, one, Checked.map]

theorem Enterable.readAmounts_eq {held : Option Value} (enterable : Enterable held) :
    Quantities.readAmounts (held.getD .null) = .ok (amountsIn held) := by
  unfold Quantities.readAmounts
  rcases enterable with blank | ⟨fields, rfl⟩
  · rw [if_pos blank]
    cases held with
    | none => rfl
    | some value =>
        cases value with
        | object fields =>
            obtain rfl : fields = [] := by simpa [Value.isBlank] using blank
            rfl
        | _ => rfl
  · split
    next blank =>
      obtain rfl : fields = [] := by simpa [Value.isBlank] using blank
      rfl
    next => rfl

theorem ReadableResources.read_eq {resources : Value} (readable : ReadableResources resources) :
    Cluster.readResources resources = .ok (quantitiesIn resources) := by
  unfold Cluster.readResources quantitiesIn
  split
  next => rfl
  next full =>
    obtain ⟨⟨fields, rfl⟩, limits, requests⟩ := readable.resolve_left full
    simp only [ofFields_eq, limits.readAmounts_eq, requests.readAmounts_eq]
    rfl

def Curation.stated (object : Value) : Curation where
  type := typeIn ((object.at? ["spec", "curation", "type"]).getD .null)
  schedule := textOf "" (object.at? (settingPlace "schedule"))
  suspend := truthIn (settingIn object "suspend")
  resources := quantitiesIn (settingIn object "resources")

theorem ReadableSettings.curationIn_eq {object : Value} (readable : ReadableSettings object) :
    Cluster.curationIn object = .ok (Curation.stated object) := by
  have schedule := ReadableSchedule.check_eq readable.schedule
  simp only [Cluster.curationIn, Curation.ofSettings, readable.resources.read_eq, Curation.check,
    Checked.withDefault, readable.type.check_eq, readable.suspend.check_eq, bind, Except.bind,
    liftM, monadLift, MonadLift.monadLift, Except.mapError]
  rw [settingIn, schedule]
  rfl

/-- A step into a value that succeeds succeeds also as a step of a reading. -/
theorem liftM_eq_ok_iff {α : Type} {step : Except Mismatch α} {found : α} :
    (liftM step : Except Fault α) = .ok found ↔ step = .ok found := by
  cases step <;> simp [liftM, monadLift, MonadLift.monadLift, Except.mapError]

namespace Checked

variable {α β : Type}

theorem map_eq_valid_iff {change : α → β} {checked : Checked α} {value : β} :
    change <$> checked = .valid value ↔ ∃ given, checked = .valid given ∧ change given = value := by
  cases checked <;> simp [Functor.map, map]

theorem seq_eq_valid_iff {change : Checked (α → β)} {checked : Checked α} {value : β} :
    change <*> checked = .valid value ↔
      ∃ make given, change = .valid make ∧ checked = .valid given ∧ make given = value := by
  cases change <;> cases checked <;> simp [Seq.seq, seq, map]

theorem orFault_eq_ok_iff {record : String} {checked : Checked α} {value : α} :
    checked.orFault record = .ok value ↔ checked = .valid value := by
  cases checked <;> simp [orFault]

theorem text_eq_valid_iff {key : String} {value : Value} {content : String} :
    text key value = .valid content ↔ value = .text content := by
  cases value <;> simp [text, issue]

theorem oneOf_eq_valid_iff {key : String} {offered : List (String × α)} {value : Value}
    {choice : α} :
    oneOf key offered value = .valid choice ↔
      ∃ content, value = .text content ∧ offered.lookup content = some choice := by
  cases value with
  | text content => cases found : offered.lookup content <;> simp [oneOf, issue, found]
  | _ => simp [oneOf, issue]

end Checked

theorem Chosen.of_field {α : Type} {label : String} {offered : List (String × α)}
    {usual choice : α} {value found : Value} {key : Key} (read : value.field key = .ok found)
    (checked : Cluster.choice label offered usual found = .valid choice) :
    Chosen offered (value.part? key) := by
  obtain ⟨-, rfl⟩ := Value.field_eq_ok.mp read
  unfold Cluster.choice at checked
  split at checked
  next blank => exact .inl blank
  next =>
    obtain ⟨content, isText, found⟩ := Checked.oneOf_eq_valid_iff.mp checked
    cases part : value.part? key with
    | none =>
        rw [part] at isText
        cases isText
    | some held =>
        rw [part] at isText
        exact .inr ⟨content, choice, congrArg some isText, found⟩

theorem Textual.of_fieldD {value : Value} {key : Key} {default content : String}
    (read : value.fieldD key (.text default) = .ok (.text content)) :
    Textual (value.part? key) := by
  obtain ⟨-, isText⟩ := Value.fieldD_eq_ok.mp read
  intro held part
  rw [part] at isText
  exact ⟨content, isText⟩

/-- A part with a field that was read can be looked into, and holds what is below it. -/
theorem Enterable.of_field {value held found : Value} {key next : Key}
    (read : value.field key = .ok held)
    (below : (held.orIfBlank (.object [])).field next = .ok found) :
    Enterable (value.part? key) ∧ ∀ next rest,
      value.at? (key :: next :: rest) = (held.orIfBlank (.object [])).at? (next :: rest) := by
  obtain ⟨-, rfl⟩ := Value.field_eq_ok.mp read
  obtain ⟨⟨fields, isFields⟩, -⟩ := Value.field_eq_ok.mp below
  constructor
  · unfold Value.orIfBlank at isFields
    split at isFields
    next blank => exact .inl blank
    next full =>
      cases part : value.part? key with
      | none =>
          rw [part] at full
          exact absurd rfl full
      | some inner =>
          rw [part] at isFields
          exact .inr ⟨fields, congrArg some isFields⟩
  · intro next rest
    rw [Value.at?_cons, Value.at?_cons, Value.part?_orIfBlank]
    cases value.part? key with
    | none => rfl
    | some inner => rw [Option.bind_some, Value.at?_cons, Option.getD_some]

theorem Value.part?_of_fieldD {value held found : Value} {key next : Key}
    (read : value.fieldD key (.object []) = .ok held) (below : held.item next = .ok found) :
    value.part? key = some held := by
  obtain ⟨-, rfl⟩ := fieldD_eq_ok.mp read
  obtain ⟨-, isPart⟩ := item_eq_ok.mp below
  cases part : value.part? key with
  | none =>
      rw [part] at isPart
      cases isPart
  | some inner => rfl

namespace Cluster

theorem Describes.of_ofObject {object : Value} {cluster : Cluster}
    (read : ofObject object = .ok cluster) : Describes object := by
  simp only [ofObject, except_bind_eq_ok, liftM_eq_ok_iff] at read
  obtain ⟨metadata, readMetadata, spec, readSpec, curation, readCuration, curator, readCurator,
    resources, readResources, name, readName, space, readSpace, uid, readUid, apiVersion,
    readApiVersion, kind, readKind, management, readManagement, topology, readTopology, type, -,
    schedule, -, suspend, -, quantities, -, checked, -, isCluster⟩ := read
  simp only [Checked.orFault_eq_ok_iff, Checked.seq_eq_valid_iff, Checked.map_eq_valid_iff,
    Checked.text_eq_valid_iff] at isCluster
  obtain ⟨-, -, ⟨-, onTopology, ⟨-, onManagement, ⟨-, kindText, ⟨-, apiVersionText, ⟨-, uidText,
    ⟨-, spaceText, ⟨nameText, rfl, -⟩, rfl, -⟩, rfl, -⟩, rfl, -⟩, rfl, -⟩, isManagement, -⟩,
    isTopology, -⟩, -⟩ := isCluster
  have inMetadata : ∀ key, object.at? ["metadata", key] = metadata.part? key := by
    intro key
    rw [Value.at?_cons, Value.part?_of_fieldD readMetadata readName, Option.bind_some,
      Value.at?_singleton]
  obtain ⟨onSpec, inSpec⟩ := Enterable.of_field readSpec readCuration
  obtain ⟨onCuration, inCuration⟩ := Enterable.of_field readCuration readCurator
  obtain ⟨onCurator, -⟩ := Enterable.of_field readCurator readResources
  constructor
  case name => exact ⟨nameText, by rw [inMetadata, (Value.item_eq_ok.mp readName).2]⟩
  case space =>
    rw [inMetadata]
    exact Textual.of_fieldD readSpace
  case uid =>
    rw [inMetadata]
    exact Textual.of_fieldD readUid
  case apiVersion =>
    rw [Value.at?_singleton]
    exact Textual.of_fieldD readApiVersion
  case kind =>
    rw [Value.at?_singleton]
    exact Textual.of_fieldD readKind
  case spec =>
    rw [Value.at?_singleton]
    exact onSpec
  case curation =>
    rw [inSpec, Value.at?_singleton]
    exact onCuration
  case curator =>
    rw [inSpec, inCuration, Value.at?_singleton]
    exact onCurator
  case management =>
    rw [inSpec, Value.at?_singleton]
    exact Chosen.of_field readManagement isManagement
  case topology =>
    rw [inSpec, Value.at?_singleton]
    exact Chosen.of_field readTopology isTopology

def stated (object : Value) : Cluster := described object (Curation.stated object)

theorem stated_unmanaged_iff {object : Value} :
    (stated object).management = .unmanaged ↔
      object.at? ["spec", "managementState"] = some (.text "Unmanaged") :=
  choiceOf_pair_iff (by decide) (by decide)

theorem stated_split_iff {object : Value} :
    (stated object).topology = .split ↔ object.at? ["spec", "topology"] = some (.text "split") :=
  choiceOf_pair_iff (by decide) (by decide)

theorem ofObject_eq_stated {object : Value} (describes : Describes object)
    (readable : ReadableSettings object) : ofObject object = .ok (stated object) := by
  rw [ofObject_eq describes, readable.curationIn_eq]
  rfl

theorem readable_of_ofObject {object : Value} {cluster : Cluster}
    (read : ofObject object = .ok cluster) : ReadableSettings object := by
  by_contra unreadable
  obtain ⟨fault, failed, -⟩ := (ofObject_cases (Describes.of_ofObject read)).2 unreadable
  cases read.symm.trans failed

theorem eq_stated_of_ofObject {object : Value} {cluster : Cluster}
    (read : ofObject object = .ok cluster) : cluster = stated object := by
  have whole := ofObject_eq_stated (Describes.of_ofObject read) (readable_of_ofObject read)
  exact Except.ok.inj (read.symm.trans whole)

/-- An object with a management state, and with a curator that is suspended by a word. -/
def lenientObject (management suspend : String) : Value :=
  .object
    [("metadata", .object [("name", "instance")]),
      ("spec", .object
        [("managementState", management), ("topology", "split"),
          ("curation", .object
            [("type", "curator"), ("curator", .object
              [("schedule", false), ("suspend", suspend), ("resources", .object [])])])])]

end Cluster

def typePlace : List Key := ["spec", "curation", "type"]

def untyped (object : Value) : Value := object.eraseAt typePlace

theorem agreesOff_untyped (object : Value) :
    Value.AgreesOff [typePlace] object (untyped object) :=
  Value.agreesOff_eraseAt (by simp [typePlace]) object

theorem at?_untyped_type (object : Value) : (untyped object).at? typePlace = none :=
  @Value.at?_eraseAt_self ["spec", "curation"] (by simp) "type" object

theorem Enterable.eraseAt {held : Option Value} (enterable : Enterable held) (text : String)
    (rest : List Key) : Enterable (held.map (Value.eraseAt (.name text :: rest))) := by
  cases held with
  | none => exact .inl rfl
  | some value =>
      rcases Value.eraseAt_cases text rest value with ⟨fields, others, -, isObject⟩ | same
      · exact .inr ⟨others, congrArg some isObject⟩
      · rwa [Option.map_some, same]

theorem Cluster.Describes.untyped {object : Value} (describes : Describes object) :
    Describes (untyped object) := by
  have agrees := agreesOff_untyped object
  have spec : (CuratorKeeper.untyped object).at? ["spec"] =
      (object.at? ["spec"]).map (Value.eraseAt ["curation", "type"]) :=
    @Value.at?_eraseAt_through ["spec"] (by simp) "curation" ["type"] object
  have curation : (CuratorKeeper.untyped object).at? ["spec", "curation"] =
      (object.at? ["spec", "curation"]).map (Value.eraseAt ["type"]) :=
    @Value.at?_eraseAt_through ["spec", "curation"] (by simp) "type" [] object
  constructor
  · rw [← agrees _ (by decide)]
    exact describes.name
  · rw [← agrees _ (by decide)]
    exact describes.space
  · rw [← agrees _ (by decide)]
    exact describes.uid
  · rw [← agrees _ (by decide)]
    exact describes.apiVersion
  · rw [← agrees _ (by decide)]
    exact describes.kind
  · rw [spec]
    exact describes.spec.eraseAt "curation" ["type"]
  · rw [curation]
    exact describes.curation.eraseAt "type" []
  · rw [← agrees _ (by decide)]
    exact describes.curator
  · rw [← agrees _ (by decide)]
    exact describes.management
  · rw [← agrees _ (by decide)]
    exact describes.topology

theorem settingIn_untyped (object : Value) (key : Key) :
    settingIn (untyped object) key = settingIn object key := by
  have apart : Apart typePlace (settingPlace key) := by
    simp [typePlace, settingPlace, apart_cons_cons]
  have agrees := agreesOff_untyped object (settingPlace key)
    fun place member => List.mem_singleton.mp member ▸ apart
  rw [settingIn, settingIn, agrees]

theorem ReadableSettings.untyped {object : Value} (readable : ReadableSettings object) :
    ReadableSettings (untyped object) := by
  constructor
  · have none := at?_untyped_type object
    rw [typePlace] at none
    rw [none]
    exact .inl rfl
  · rw [settingIn_untyped]
    exact readable.schedule
  · rw [settingIn_untyped]
    exact readable.suspend
  · rw [settingIn_untyped]
    exact readable.resources

def Cluster.disabled (cluster : Cluster) : Cluster :=
  { cluster with curation := { cluster.curation with type := none } }

/-- Without the type of its curation an object is read as the same cluster but disabled. -/
theorem Cluster.ofObject_untyped {object : Value} {cluster : Cluster}
    (read : ofObject object = .ok cluster) : ofObject (untyped object) = .ok cluster.disabled := by
  have agrees := agreesOff_untyped object
  have none := at?_untyped_type object
  rw [typePlace] at none
  obtain rfl := eq_stated_of_ofObject read
  rw [ofObject_eq_stated (Describes.of_ofObject read).untyped (readable_of_ofObject read).untyped]
  simp only [stated, described, Curation.stated, none, settingIn_untyped]
  rw [← agrees ["metadata", "name"] (by decide), ← agrees ["metadata", "namespace"] (by decide),
    ← agrees ["metadata", "uid"] (by decide), ← agrees ["apiVersion"] (by decide),
    ← agrees ["kind"] (by decide), ← agrees ["spec", "managementState"] (by decide),
    ← agrees ["spec", "topology"] (by decide), ← agrees (settingPlace "schedule") (by decide)]
  rfl

end CuratorKeeper
