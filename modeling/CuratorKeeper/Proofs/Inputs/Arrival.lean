import CuratorKeeper.Inputs.Shipped
import CuratorKeeper.Proofs.Bytes.Base64
import CuratorKeeper.Proofs.Pass.Secrecy
import CuratorKeeper.Proofs.Pass.Stumbling
import CuratorKeeper.Proofs.Retry.Script

/-!
# Files arrive unaltered

The credentials stand in the secret of a cluster byte for byte, and the configuration
files in its config map letter for letter.  A file that cannot be read is warned of,
each time that it is read, and then counts as empty.
-/

namespace CuratorKeeper

theorem World.noteLines_nil (world : World) : world.noteLines [] = world := by
  rw [noteLines, List.append_nil]

theorem World.noteLines_noteLines (world : World) (lines more : List LogLine) :
    (world.noteLines lines).noteLines more = world.noteLines (lines ++ more) := by
  simp only [noteLines, List.append_assoc]

namespace Directory

variable {directory : Directory} {names : List String} {lines : List LogLine}

/-- A line warns that a file cannot be read, and tells why. -/
def WarnsOf (directory : Directory) (name : String) (line : LogLine) : Prop :=
  line.level = .warning ∧ line.component = .desiredState ∧
    ∃ reason, line.text = "Unable to read " ++ directory.pathOf name ++ ": " ++ reason

/-- Of files that are read in order, those that cannot be read are warned of one by one. -/
def Warns (directory : Directory) (names : List String) (lines : List LogLine) : Prop :=
  List.Forall₂ directory.WarnsOf (names.filter fun name => !directory.holds name) lines

/-- The files that can be read are texts. -/
def Legible (directory : Directory) (names : List String) : Prop :=
  ∀ name ∈ names, directory.holds name = true → (directory.contentOf name).IsValidUTF8

def textOf (directory : Directory) (name : String) : String :=
  (String.fromUTF8? (directory.contentOf name)).getD ""

theorem contentOf_of_unreadable {name : String} (unreadable : directory.holds name = false) :
    directory.contentOf name = ByteArray.empty := by
  unfold contentOf
  split
  next content found => simp [holds, found] at unreadable
  · rfl

theorem Legible.isValidUTF8 (legible : directory.Legible names) {name : String}
    (member : name ∈ names) : (directory.contentOf name).IsValidUTF8 := by
  cases readable : directory.holds name with
  | true => exact legible name member readable
  | false =>
      rw [contentOf_of_unreadable readable]
      exact ByteArray.isValidUTF8_empty

theorem fromUTF8?_contentOf {name : String} (valid : (directory.contentOf name).IsValidUTF8) :
    String.fromUTF8? (directory.contentOf name) =
      some (.fromUTF8 (directory.contentOf name) valid) := by
  rw [String.fromUTF8?, dif_pos valid]

theorem toUTF8_textOf {name : String} (valid : (directory.contentOf name).IsValidUTF8) :
    (directory.textOf name).toUTF8 = directory.contentOf name := by
  rw [textOf, fromUTF8?_contentOf valid]
  rfl

theorem decodeText_contentOf {name : String} (valid : (directory.contentOf name).IsValidUTF8) :
    decodeText (directory.contentOf name) = .ok (directory.textOf name) := by
  rw [decodeText, textOf, fromUTF8?_contentOf valid]
  rfl

theorem Warns.cons {name : String} {told : List LogLine} (first : directory.Warns [name] told)
    (rest : directory.Warns names lines) : directory.Warns (name :: names) (told ++ lines) := by
  have both : List.Forall₂ directory.WarnsOf
      ([name].filter (fun name => !directory.holds name) ++
        names.filter fun name => !directory.holds name) (told ++ lines) :=
    List.rel_append first rest
  rwa [← List.filter_append] at both

theorem warns_of_unreadable {name : String} {line : LogLine}
    (unreadable : directory.holds name = false) (warns : directory.WarnsOf name line) :
    directory.Warns [name] [line] := by
  rw [Warns, List.filter_cons_of_pos (by rw [unreadable]; rfl)]
  exact .cons warns .nil

theorem run_read (directory : Directory) (name : String) (world : World) :
    ∃ lines, (directory.read name).run world =
        (.ok (directory.contentOf name), world.noteLines lines) ∧
      directory.Warns [name] lines := by
  have told : ∀ reason : String, directory.WarnsOf name ⟨.warning, .desiredState,
      "Unable to read " ++ directory.pathOf name ++ ": " ++ reason ++ ": '" ++
        directory.pathOf name ++ "'"⟩ := fun reason =>
    ⟨rfl, rfl, reason ++ ": '" ++ directory.pathOf name ++ "'", by simp only [String.append_assoc]⟩
  cases found : directory.entries.lookup name with
  | none =>
      simp only [read, contentOf, found]
      exact ⟨_, rfl, warns_of_unreadable (by simp [holds, found]) (told _)⟩
  | some entry =>
      cases entry with
      | none =>
          simp only [read, contentOf, found]
          exact ⟨_, rfl, warns_of_unreadable (by simp [holds, found]) (told _)⟩
      | some content =>
          simp only [read, contentOf, found]
          refine ⟨[], by rw [World.noteLines_nil]; rfl, ?_⟩
          simp [Warns, holds, found]

end Directory

namespace Program

variable {directory : Directory}

theorem run_readBytes (directory : Directory) (files : List (String × String)) (world : World) :
    ∃ lines, (readBytes directory files).run world =
        (.ok (files.map fun file => (file.1, directory.contentOf file.2)), world.noteLines lines) ∧
      directory.Warns (files.map Prod.snd) lines := by
  induction files generalizing world with
  | nil => exact ⟨[], by rw [World.noteLines_nil]; rfl, .nil⟩
  | cons file rest ih =>
      obtain ⟨told, reads, first⟩ := directory.run_read file.2 world
      obtain ⟨lines, readsRest, others⟩ := ih (world.noteLines told)
      refine ⟨told ++ lines, ?_, first.cons others⟩
      rw [readBytes, bind_eq, run_bind, reads]
      simp only [bind_eq, run_bind, readsRest, World.noteLines_noteLines]
      rfl

theorem run_readTexts {files : List (String × String)}
    (legible : directory.Legible (files.map Prod.snd)) (world : World) :
    ∃ lines, (readTexts directory files).run world =
        (.ok (files.map fun file => (file.1, directory.textOf file.2)), world.noteLines lines) ∧
      directory.Warns (files.map Prod.snd) lines := by
  induction files generalizing world with
  | nil => exact ⟨[], by rw [World.noteLines_nil]; rfl, .nil⟩
  | cons file rest ih =>
      obtain ⟨told, reads, first⟩ := directory.run_read file.2 world
      obtain ⟨lines, readsRest, others⟩ :=
        ih (fun name member => legible name (List.mem_cons_of_mem _ member)) (world.noteLines told)
      refine ⟨told ++ lines, ?_, first.cons others⟩
      have decoded := directory.decodeText_contentOf (legible.isValidUTF8 List.mem_cons_self)
      rw [readTexts, bind_eq, run_bind, reads]
      simp only [decoded, liftM_fault, ofExcept, bind_eq, done_bind, run_bind, readsRest,
        World.noteLines_noteLines]
      rfl

end Program

/-- The credentials of a directory are read, and stand in the secret of a cluster. -/
structure Directory.ArrivesAsSecret (directory : Directory) (cluster : Cluster) (world : World)
    (credentials : List (String × ByteArray)) (lines : List LogLine) (data : Fields) : Prop where
  reads : (readCredentials directory).run world = (.ok credentials, world.noteLines lines)
  warns : directory.Warns (credentialFiles.map Prod.snd) lines
  rendered : (cluster.secret credentials).part? "data" = some (.object data)
  keys : data.map Prod.fst = (["ca", "key", "cert", "ops-ca", "ops-key", "ops-cert"] : List Key)
  content : ∀ file ∈ credentialFiles, ∃ text, data.get? file.1 = some (.text text) ∧
    Base64.decode? text = some (directory.contentOf file.2)
  repeated : ∀ key ∈ ["ca", "key", "cert"], data.get? ("ops-" ++ key : String) = data.get? key

/-- The configuration files of a directory are read, and stand in the config map of a cluster. -/
structure Directory.ArrivesAsConfigMap (directory : Directory) (cluster : Cluster) (world : World)
    (files : List (String × String)) (lines : List LogLine) (data : Fields) : Prop where
  reads : (readConfigFiles directory).run world = (.ok files, world.noteLines lines)
  warns : directory.Warns (configFiles.map Prod.snd) lines
  rendered : (cluster.configMap (files.map fun file => (file.1, .text file.2))).part? "data" =
    some (.object data)
  keys : data.map Prod.fst = (["actions.yaml", "curator5.yaml", "config.yaml"] : List Key)
  content : ∀ file ∈ configFiles, ∃ text, data.get? file.1 = some (.text text) ∧
    text.toUTF8 = directory.contentOf file.2

namespace Directory

def secretData (directory : Directory) : Fields :=
  credentialFiles.map fun file => (file.1, .text (Base64.encode (directory.contentOf file.2)))

def configData (directory : Directory) : Fields :=
  configFiles.map fun file => (file.1, .text (directory.textOf file.2))

theorem exists_arrivesAsSecret (directory : Directory) (cluster : Cluster) (world : World) :
    ∃ credentials lines,
      directory.ArrivesAsSecret cluster world credentials lines directory.secretData := by
  obtain ⟨lines, reads, warns⟩ := Program.run_readBytes directory credentialFiles world
  refine ⟨_, lines, reads, warns, rfl, rfl, ?_, ?_⟩
  · intro file member
    simp only [credentialFiles, List.mem_cons, List.not_mem_nil, or_false] at member
    rcases member with rfl | rfl | rfl | rfl | rfl | rfl
    all_goals exact ⟨_, rfl, Base64.decode?_encode _⟩
  · intro key member
    simp only [List.mem_cons, List.not_mem_nil, or_false] at member
    rcases member with rfl | rfl | rfl
    all_goals rfl

theorem Legible.exists_arrivesAsConfigMap {directory : Directory}
    (legible : directory.Legible (configFiles.map Prod.snd)) (cluster : Cluster) (world : World) :
    ∃ files lines,
      directory.ArrivesAsConfigMap cluster world files lines directory.configData := by
  obtain ⟨lines, reads, warns⟩ := Program.run_readTexts legible world
  refine ⟨_, lines, reads, warns, rfl, rfl, fun file member => ?_⟩
  have valid := legible.isValidUTF8 (List.mem_map_of_mem member)
  refine ⟨directory.textOf file.2, ?_, toUTF8_textOf valid⟩
  simp only [configFiles, List.mem_cons, List.not_mem_nil, or_false] at member
  rcases member with rfl | rfl | rfl
  all_goals rfl

/-- Two directories make the same data just if their credentials have the same content. -/
theorem secretData_eq_iff {directory other : Directory} :
    directory.secretData = other.secretData ↔
      ∀ file ∈ credentialFiles, directory.contentOf file.2 = other.contentOf file.2 := by
  rw [secretData, secretData, List.map_inj_left]
  refine forall₂_congr fun file member => ?_
  constructor
  · intro same
    injection same with _ texts
    exact Base64.encode_injective (Value.text.inj texts)
  · intro same
    rw [same]

end Directory

/-- Configuration files that are all there are read without a warning, empty or not. -/
theorem readConfigFiles_silent {directory : Directory}
    (legible : directory.Legible (configFiles.map Prod.snd))
    (there : ∀ file ∈ configFiles, directory.holds file.2 = true) (world : World) :
    ((readConfigFiles directory).run world).2 = world := by
  obtain ⟨lines, reads, warns⟩ := Program.run_readTexts legible world
  have unread : (configFiles.map Prod.snd).filter (fun name => !directory.holds name) = [] := by
    refine List.filter_eq_nil_iff.mpr fun name member => ?_
    obtain ⟨file, isFile, rfl⟩ := List.mem_map.mp member
    simp [there file isFile]
  rw [Directory.Warns, unread] at warns
  cases warns
  rw [readConfigFiles, reads, World.noteLines_nil]

theorem Shipped.legible_directory (path : String) :
    (Shipped.directory path).Legible (configFiles.map Prod.snd) := by
  intro name member _
  simp only [configFiles, List.map_cons, List.map_nil, List.mem_cons, List.not_mem_nil,
    or_false] at member
  rcases member with rfl | rfl | rfl
  · exact Shipped.actions.isValidUTF8
  · exact Shipped.client.isValidUTF8
  · exact Shipped.retention.isValidUTF8

/-- A directory with one credential, an empty one, and another directory in the place of the
last one. -/
def scantDirectory : Directory where
  path := "/work"
  entries :=
    [("ca.crt", some "authority".toUTF8), ("system.logging.curator.key", some ByteArray.empty),
      ("system.logging.curator.crt", none)]

end CuratorKeeper
