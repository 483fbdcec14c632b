import CuratorKeeper.Program.Basic

/-! # Files of the curator

The configuration files become texts in the config map, the credentials bytes in the secret. A
file that cannot be read is told of and counts as empty.
-/
namespace CuratorKeeper

/-- A directory: the content of each file by name, and nothing for a directory inside it. -/
structure Directory where
  /-- The path as it is displayed, already normalised and without quotes in it. -/
  path : String
  entries : List (String × Option ByteArray)

namespace Directory

def pathOf (directory : Directory) (name : String) : String := directory.path ++ "/" ++ name

/-- Tell that a file cannot be read, and why. Only two reasons are known: it is not there, or it
is a directory. -/
def noteUnreadable (directory : Directory) (name reason : String) : Program Unit :=
  let path := directory.pathOf name
  .note .warning .desiredState
    ("Unable to read " ++ path ++ ": " ++ reason ++ ": '" ++ path ++ "'")

/-- The content of a file; one that cannot be read is empty. -/
def read (directory : Directory) (name : String) : Program ByteArray := do
  match directory.entries.lookup name with
  | some (some content) => return content
  | some none =>
    directory.noteUnreadable name "[Errno 21] Is a directory"
    return ByteArray.empty
  | none =>
    directory.noteUnreadable name "[Errno 2] No such file or directory"
    return ByteArray.empty

end Directory

/-- The configuration files: the key in the config map, and the name of the file. -/
def configFiles : List (String × String) :=
  [("actions.yaml", "curator-actions.yaml"), ("curator5.yaml", "curator5-config.yaml"),
    ("config.yaml", "curator-config.yaml")]

/-- The credentials: the key in the secret, and the name of the file. -/
def credentialFiles : List (String × String) :=
  [("ca", "ca.crt"), ("key", "system.logging.curator.key"),
    ("cert", "system.logging.curator.crt"), ("ops-ca", "ca.crt"),
    ("ops-key", "system.logging.curator.key"), ("ops-cert", "system.logging.curator.crt")]

def decodeText (content : ByteArray) : Except Fault String :=
  match String.fromUTF8? content with
  | some text => .ok text
  | none => .error .undecodable

def readTexts (directory : Directory) : List (String × String) → Program (List (String × String))
  | [] => return []
  | (key, name) :: rest => do
    let text ← decodeText (← directory.read name)
    let others ← readTexts directory rest
    return (key, text) :: others

def readBytes (directory : Directory) :
    List (String × String) → Program (List (String × ByteArray))
  | [] => return []
  | (key, name) :: rest => do
    let content ← directory.read name
    let others ← readBytes directory rest
    return (key, content) :: others

/-- Read the configuration files by their keys in the config map. -/
def readConfigFiles (directory : Directory) : Program (List (String × String)) :=
  readTexts directory configFiles

/-- Read the credentials by their keys in the secret. -/
def readCredentials (directory : Directory) : Program (List (String × ByteArray)) :=
  readBytes directory credentialFiles

/-- Something that is given, or still to be read from a directory. -/
inductive Source (α : Type) : Type
  | given (value : α)
  | directory (directory : Directory)

/-- Where the configuration files and the credentials come from. Files that are given are put into
the config map as they are. -/
structure Inputs where
  files : Source Fields
  credentials : Source (List (String × ByteArray))

namespace Inputs

def loadFiles (inputs : Inputs) : Program Fields :=
  match inputs.files with
  | .given files => return files
  | .directory directory =>
    return (← readConfigFiles directory).map fun file => (file.1, .text file.2)

def loadCredentials (inputs : Inputs) : Program (List (String × ByteArray)) :=
  match inputs.credentials with
  | .given credentials => return credentials
  | .directory directory => readCredentials directory

end Inputs
end CuratorKeeper
