import Vzctl.Json
import Vzctl.Lib.Outcome
import Vzctl.Lib.ReferenceSearch

/-!
# Input files of a configuration

`inputs.rs`: the files that an apply reads, among them the Compose files with
everything they refer to.  A path is whatever the file system compares as
equal; reading and parsing are those of the libraries.
-/

namespace Vzctl

namespace Inputs

open ReferenceSearch (Request)

/-- What the collection asks the file system.  There are finitely many files,
and what can be read has a canonical path. -/
structure FileTree (π : Type) where
  canonicalize : π → Option π
  readToString : π → Except String String
  parseYaml : String → Except String JSONValue
  parent : π → π
  join : π → String → π
  display : π → String
  existing : List π
  canonicalize_mem : ∀ path canonical, canonicalize path = some canonical →
    canonical ∈ existing
  canonicalize_of_read : ∀ path text, readToString path = .ok text →
    ∃ canonical, canonicalize path = some canonical

inductive Failure where
  /-- `EXIT_INVALID`. -/
  | invalid (message : String)
  | outOfFuel
  deriving DecidableEq

/-! ## The references of a Compose file -/

/-- `value[key]`. -/
def member (value : JSONValue) (key : String) : JSONValue :=
  (value.field? key).getD .null

def asObject (value : JSONValue) : List (String × JSONValue) :=
  match value with
  | .object fields => fields
  | _ => []

/-- `Value::Array(files) => files.clone(), file => vec![file.clone()]`. -/
def oneOrMany (value : JSONValue) : List JSONValue :=
  match value with
  | .array items => items
  | other => [other]

section References

variable {π : Type} (tree : FileTree π) (base : π)

/-- The files of `configs` and of `secrets`. -/
def sectionFiles (value : JSONValue) (name : String) : List (Request π) :=
  (asObject (member value name)).filterMap fun (_, entry) =>
    (member entry "file").asString?.map fun file =>
      .record (tree.join base file)

def envFiles (service : JSONValue) : List (Request π) :=
  let files :=
    match member service "env_file" with
    | .null => []
    | other => oneOrMany other
  files.filterMap fun file =>
    (file.asString?.or (member file "path").asString?).map fun file =>
      .record (tree.join base file)

def extendsFile (service : JSONValue) : List (Request π) :=
  match (member (member service "extends") "file").asString? with
  | some file => [.expand (tree.join base file)]
  | none => []

def serviceFiles (value : JSONValue) : List (Request π) :=
  (asObject (member value "services")).flatMap fun (_, service) =>
    envFiles tree base service ++ extendsFile tree base service

def includeFiles (value : JSONValue) : List (Request π) :=
  match (member value "include").asArray? with
  | none => []
  | some includes => includes.flatMap fun entry =>
      (oneOrMany ((entry.field? "path").getD entry)).filterMap fun file =>
        file.asString?.map fun file => .expand (tree.join base file)

/-- What a Compose file asks for, in the order of its sections. -/
def composeReferences (value : JSONValue) : List (Request π) :=
  sectionFiles tree base value "configs" ++
    sectionFiles tree base value "secrets" ++
    serviceFiles tree base value ++ includeFiles tree base value

end References

/-! ## The collection -/

section Collection

variable {π : Type} [DecidableEq π] (tree : FileTree π)

/-- `fs::canonicalize(path).unwrap_or_else(|_| path.to_path_buf())`. -/
def resolve (path : π) : π := (tree.canonicalize path).getD path

/-- The content of a Compose file. -/
def readCompose (path : π) : Except Failure JSONValue :=
  match tree.readToString path with
  | .error reason => .error <| .invalid <|
      "read compose " ++ tree.display path ++ ": " ++ reason
  | .ok text =>
      match tree.parseYaml text with
      | .error reason => .error <| .invalid <|
          "parse compose " ++ tree.display path ++ ": " ++ reason
      | .ok value => .ok value

/-- Record a path, or collect a Compose file. -/
def addRequest (expand : List π → π → Except Failure (List π))
    (paths : List π) : Request π → Except Failure (List π)
  | .record path => .ok (paths.insert path)
  | .expand path => expand paths path

/-- `collect_compose_inputs`, nested at most `fuel` deep. -/
def collectComposeInputs :
    Nat → List π → π → Except Failure (List π)
  | 0, _, _ => .error .outOfFuel
  | fuel + 1, paths, path =>
      let path := resolve tree path
      if path ∈ paths then
        .ok paths
      else do
        let base := tree.parent path
        let paths := (paths.insert path).insert (tree.join base ".env")
        let value ← readCompose tree path
        (composeReferences tree base value).foldlM
          (addRequest (collectComposeInputs fuel)) paths

/-- Enough for every collection: an open file is an existing one. -/
def collectFuel : Nat := tree.existing.length + 1

/-- Add the paths of one role after the other. -/
def collect (requests : List (Request π)) : Except Failure (List π) :=
  requests.foldlM
    (addRequest (collectComposeInputs tree (collectFuel tree))) []

end Collection

end Inputs

end Vzctl
