import Vzctl.Lib.Texts

/-!
# Mount flags

A mount of a host directory is passed to `vm create` as one text,
`tag=…,source=…,target=…[,ro]`.  `parse_mount_flag` splits that text at commas
and trims the parts.  Texts are lists of characters; what is a directory and
what the current one is are inputs.
-/

namespace Vzctl

namespace Mounts

abbrev Text := List Char

/-! ## Paths -/

def isAbsolute (path : Text) : Bool := path.head? = some '/'

/-- The components of a path that name something. -/
def names (path : Text) : List Text :=
  (path.splitOn '/').filter fun part => part ≠ [] ∧ part ≠ ['.']

/-- `PathBuf` compares components: repeated and trailing separators do not
count, nor does `.` except in front. -/
structure SamePath (left right : Text) : Prop where
  absolute : isAbsolute left = isAbsolute right
  inFront : ((left.splitOn '/').head? = some ['.']) =
    ((right.splitOn '/').head? = some ['.'])
  names : names left = names right

def fileName (path : Text) : Option Text :=
  (names path).getLast?.filter fun name => name ≠ ['.', '.']

def join (base path : Text) : Text :=
  if isAbsolute path then path
  else if base.getLast? = some '/' then base ++ path
  else base ++ '/' :: path

/-! ## Mounts -/

structure ResolvedMount where
  name : Text
  source : Text
  target : Text
  readOnly : Bool
  deriving DecidableEq

structure ResolvedMount.Same (left right : ResolvedMount) : Prop where
  name : left.name = right.name
  source : SamePath left.source right.source
  target : left.target = right.target
  readOnly : left.readOnly = right.readOnly

inductive MountError where
  | fragment (part : Text)
  | unknownKey (key : Text)
  | missingSource
  | missingTarget
  | noFileName
  | derivedName (name : Text)
  | reservedName
  | invalidName (name : Text)
  | emptySource
  | invalidTarget
  | currentDirectory
  | notADirectory (source : Text)
  | notCanonical (projectDir : Text)
  | unusableTarget (projectDir : Text)
  deriving DecidableEq

def virtiofsDeviceTag : Text := "vzctl".toList

def dockerProjectMountTag : Text := "project".toList

def isNameCharacter (index : Nat) (character : Char) : Bool :=
  character.isAlphanum || (0 < index && (character = '-' || character = '_'))

def validVolumeName (name : Text) : Bool :=
  name ≠ virtiofsDeviceTag && 1 ≤ name.length && name.length ≤ 36 &&
    name.zipIdx.all fun entry => isNameCharacter entry.2 entry.1

def validateResolvedMount (name source target : Text) :
    Except MountError Unit :=
  if name = virtiofsDeviceTag then .error .reservedName
  else if validVolumeName name = false then .error (.invalidName name)
  else if source = [] then .error .emptySource
  else if isAbsolute target = false ∨ target.length < 2 then
    .error .invalidTarget
  else .ok ⟨⟩

def defaultMountName (source : Text) : Except MountError Text :=
  match fileName source with
  | none => .error .noFileName
  | some base =>
      let sanitized := base.map fun character =>
        if character.isAlphanum || character = '-' || character = '_' then
          character
        else '_'
      if validVolumeName sanitized then .ok sanitized
      else .error (.derivedName sanitized)

/-! ## Reading a flag -/

def trim (text : Text) : Text :=
  (text.dropWhile Texts.isWhitespace).rdropWhile Texts.isWhitespace

def splitOnce (separator : Char) : Text → Option (Text × Text)
  | [] => none
  | first :: rest =>
      if first = separator then some ([], rest)
      else (splitOnce separator rest).map fun parts =>
        (first :: parts.1, parts.2)

/-- What the parts read so far have set. -/
structure Fields where
  name : Option Text
  source : Option Text
  target : Option Text
  readOnly : Bool

def noFields : Fields := ⟨none, none, none, false⟩

def readOnlyWords : List Text :=
  ["ro".toList, "read_only".toList, "readOnly".toList]

def trueWords : List Text :=
  ["1".toList, "true".toList, "yes".toList, "ro".toList]

def readField (fields : Fields) (key value : Text) :
    Except MountError Fields :=
  if key = "tag".toList ∨ key = "name".toList then
    .ok { fields with name := some value }
  else if key = "source".toList then
    .ok { fields with source := some value }
  else if key = "target".toList then
    .ok { fields with target := some value }
  else if key ∈ readOnlyWords then
    .ok { fields with readOnly := value ∈ trueWords }
  else .error (.unknownKey key)

def readPart (fields : Fields) (raw : Text) : Except MountError Fields :=
  let part := trim raw
  if part = [] then .ok fields
  else if part ∈ readOnlyWords then .ok { fields with readOnly := true }
  else
    match splitOnce '=' part with
    | none => .error (.fragment part)
    | some (key, value) => readField fields key value

/-- `currentDir` is `none` when it cannot be had. -/
structure Directories where
  currentDir : Option Text
  isDir : Text → Bool
  canonicalize : Text → Option Text

section Directories

variable (directories : Directories)

def absoluteSource (source : Text) : Except MountError Text :=
  if isAbsolute source then .ok source
  else
    match directories.currentDir with
    | none => .error .currentDirectory
    | some base => .ok (join base source)

/-- The mount that all parts together ask for. -/
def resolveFields (fields : Fields) : Except MountError ResolvedMount := do
  let source ← fields.source.elim (.error .missingSource) .ok
  let target ← fields.target.elim (.error .missingTarget) .ok
  let name ← fields.name.elim (defaultMountName source) .ok
  validateResolvedMount name source target
  let source ← absoluteSource directories source
  if directories.isDir source then
    .ok ⟨name, source, target, fields.readOnly⟩
  else .error (.notADirectory source)

def parseMountFlag (raw : Text) : Except MountError ResolvedMount := do
  let fields ← (raw.splitOn ',').foldlM readPart noFields
  resolveFields directories fields

/-! ## Writing a flag -/

/-- The flag of a mount, as the reconciler and `vm mount` write it. -/
def mountFlag (mount : ResolvedMount) : Text :=
  "tag=".toList ++ mount.name ++ ",source=".toList ++ mount.source ++
    ",target=".toList ++ mount.target ++
    if mount.readOnly then ",ro".toList else []

/-- The mount of a project directory at its own path. -/
def projectMount (path : Text) : ResolvedMount :=
  ⟨dockerProjectMountTag, path, path, false⟩

def absoluteProjectDir (projectDir : Text) : Except MountError Text :=
  if isAbsolute projectDir && directories.isDir projectDir then
    .ok ((directories.canonicalize projectDir).getD projectDir)
  else
    match directories.canonicalize projectDir with
    | some path => .ok path
    | none => .error (.notCanonical projectDir)

def dockerProjectMountFlag (projectDir : Text) :
    Except MountError Text := do
  let path ← absoluteProjectDir directories projectDir
  if isAbsolute path = false ∨ path.length < 2 then
    .error (.unusableTarget path)
  else
    validateResolvedMount dockerProjectMountTag path path
    .ok (mountFlag (projectMount path))

end Directories

end Mounts

end Vzctl
