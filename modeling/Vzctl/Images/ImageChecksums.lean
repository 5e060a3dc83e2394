import Mathlib.Algebra.GroupWithZero.Nat
import Mathlib.Data.List.Infix
import Vzctl.Json
import Vzctl.Lib.Outcome
import Vzctl.Lib.Texts

/-!
# Image checksums

`image.rs`: the digest that a checksum text of the publisher gives for a file,
and the registration of an image whose bytes have it.
-/

namespace Vzctl

namespace Images

abbrev Text := List Char

inductive HashAlgorithm where
  | sha256
  | sha512
deriving DecidableEq

namespace HashAlgorithm

def name : HashAlgorithm → String
  | .sha256 => "sha256"
  | .sha512 => "sha512"

def hexLen : HashAlgorithm → Nat
  | .sha256 => 64
  | .sha512 => 128

/-- The name in front of the file in a BSD line. -/
def tag : HashAlgorithm → String
  | .sha256 => "SHA256"
  | .sha512 => "SHA512"

end HashAlgorithm

structure PullFailure where
  code : Nat
  message : String
deriving DecidableEq

/-- `EXIT_IMAGE_CHECKSUM`. -/
def exitImageChecksum : Nat := 22

/-! ## Checksum texts -/

/-- `str::lines`, with the line that is being read. -/
def linesFrom (line : Text) : Text → List Text
  | [] => if line = [] then [] else [line]
  | character :: rest =>
      if character.toNat = 10 then
        (if line.getLast? = some (Char.ofNat 13) then line.dropLast else line)
          :: linesFrom [] rest
      else
        linesFrom (line ++ [character]) rest

def lines (text : Text) : List Text := linesFrom [] text

def separates (character : Char) : Bool :=
  Texts.isWhitespace character || character = '=' || character = '(' ||
    character = ')'

def tokens (text : Text) : List Text := text.splitOnP separates

def isAsciiHexdigit (character : Char) : Bool :=
  character.isDigit || ('a' ≤ character && character ≤ 'f') ||
    ('A' ≤ character && character ≤ 'F')

def isDigest (algorithm : HashAlgorithm) (token : Text) : Bool :=
  (token.map Char.utf8Size).sum = algorithm.hexLen &&
    token.all isAsciiHexdigit

def toAsciiLowercase (text : Text) : Text := text.map Char.toLower

def validateDigestText (algorithm : HashAlgorithm) (digest : Text) :
    Except PullFailure Unit :=
  if isDigest algorithm digest then .ok ()
  else .error ⟨exitImageChecksum,
    "invalid " ++ algorithm.name ++ " digest from upstream"⟩

def digestFromChecksum (text filename : Text) (algorithm : HashAlgorithm) :
    Except PullFailure Text := do
  let candidates :=
    ((tokens text).filter (isDigest algorithm)).map toAsciiLowercase
  let named := ((lines text).filter fun line =>
    decide (filename <:+: line)).findSome? fun line =>
      (tokens line).find? (isDigest algorithm)
  let digest ← match named, candidates with
    | some token, _ => .ok (toAsciiLowercase token)
    | none, [candidate] => .ok candidate
    | none, _ => .error ⟨exitImageChecksum, "cannot find " ++
        algorithm.name ++ " checksum for " ++ String.ofList filename ++
        " in upstream metadata"⟩
  validateDigestText algorithm digest
  .ok digest

/-! ## What a text assigns -/

/-- A digest, white space, perhaps an asterisk, and the file. -/
def GnuLine (filename digest line : Text) : Prop :=
  ∃ first gap star, line = digest ++ first :: gap ++ star ++ filename ∧
    (∀ character ∈ first :: gap, Texts.isWhitespace character = true) ∧
    (star = [] ∨ star = ['*'])

def bsdLine (algorithm : HashAlgorithm) (filename digest : Text) : Text :=
  algorithm.tag.toList ++ [' ', '('] ++ filename ++ [')', ' ', '='] ++
    ' ' :: digest

def Assigns (algorithm : HashAlgorithm) (filename digest line : Text) :
    Prop :=
  isDigest algorithm digest = true ∧
    (GnuLine filename digest line ∨ line = bsdLine algorithm filename digest)

/-- Beside comments the text is one digest. -/
def Single (algorithm : HashAlgorithm) (text digest : Text) : Prop :=
  isDigest algorithm digest = true ∧
    ((lines text).filter fun line => line.head? ≠ some '#').flatMap
      (fun line => (line.splitOnP Texts.isWhitespace).filter (· ≠ [])) =
        [digest]

/-- The text gives the digest to exactly this file. -/
def Assigned (algorithm : HashAlgorithm) (text filename digest : Text) :
    Prop :=
  (∃ line ∈ lines text, Assigns algorithm filename digest line) ∨
    Single algorithm text digest

/-- A digest is returned only if it is assigned, and if one is assigned. -/
structure Right (algorithm : HashAlgorithm) (text filename : Text) :
    Prop where
  only : ∀ result, digestFromChecksum text filename algorithm = .ok result →
    ∃ digest, Assigned algorithm text filename digest ∧
      result = toAsciiLowercase digest
  always : (∃ digest, Assigned algorithm text filename digest) →
    ∃ digest, Assigned algorithm text filename digest ∧
      digestFromChecksum text filename algorithm =
        .ok (toAsciiLowercase digest)

/-- The line has the name in it, perhaps as a part of another, and this is the
first digest on it. -/
def Mentions (algorithm : HashAlgorithm) (filename line token : Text) :
    Prop :=
  filename <:+: line ∧ (tokens line).find? (isDigest algorithm) = some token

/-- The first line that mentions the name assigns it its digest; without such a
line there is no digest, not one alone, or the text is this digest. -/
structure Plain (algorithm : HashAlgorithm) (text filename : Text) :
    Prop where
  first : ∀ front line back token, lines text = front ++ line :: back →
    (∀ other ∈ front, ∀ token, ¬ Mentions algorithm filename other token) →
    Mentions algorithm filename line token →
    ∃ digest, Assigned algorithm text filename digest ∧
      toAsciiLowercase token = toAsciiLowercase digest
  alone : (∀ line ∈ lines text, ∀ token,
      ¬ Mentions algorithm filename line token) →
    ∀ token, (tokens text).filter (isDigest algorithm) = [token] →
      ∃ digest, Single algorithm text digest ∧
        toAsciiLowercase token = toAsciiLowercase digest
  commented : (∀ line ∈ lines text, ∀ token,
      ¬ Mentions algorithm filename line token) →
    (∃ digest, Single algorithm text digest) →
    ∃ token, (tokens text).filter (isDigest algorithm) = [token]

section Checksums

variable {algorithm : HashAlgorithm} {text filename digest line token : Text}

/-! ### Digits -/

theorem of_hexdigits (holds : Char → Bool)
    (table : ∀ code < 128, isAsciiHexdigit (Char.ofNat code) = true →
      holds (Char.ofNat code) = true) {character : Char}
    (isHex : isAsciiHexdigit character = true) : holds character = true := by
  have small : character.toNat < 128 := by
    have parts := isHex
    simp only [isAsciiHexdigit, Char.isDigit, Bool.or_eq_true,
      Bool.and_eq_true, decide_eq_true_iff, ge_iff_le, Char.le_def,
      UInt32.le_iff_toNat_le] at parts
    have bounds : '9'.val.toNat = 57 ∧ 'f'.val.toNat = 102 ∧
        'F'.val.toNat = 70 := by decide
    change character.val.toNat < 128
    omega
  have there := table character.toNat small
  rw [Char.ofNat_toNat] at there
  exact there isHex

theorem toLower_hexdigit {character : Char}
    (isHex : isAsciiHexdigit character = true) :
    isAsciiHexdigit character.toLower = true ∧
      character.toLower.utf8Size = character.utf8Size := by
  have both := of_hexdigits (fun character =>
    isAsciiHexdigit character.toLower &&
      character.toLower.utf8Size == character.utf8Size) (by decide) isHex
  simpa using both

theorem separates_hexdigit {character : Char}
    (isHex : isAsciiHexdigit character = true) :
    separates character = false := by
  have apart := of_hexdigits (fun character => !separates character)
    (by decide) isHex
  simpa using apart

theorem isDigest_toAsciiLowercase (found : isDigest algorithm token = true) :
    isDigest algorithm (toAsciiLowercase token) = true := by
  rw [isDigest, Bool.and_eq_true, decide_eq_true_iff, List.all_eq_true]
    at found ⊢
  constructor
  · rw [← found.1, toAsciiLowercase, List.map_map]
    refine congrArg List.sum (List.map_congr_left fun character member => ?_)
    exact (toLower_hexdigit (found.2 character member)).2
  · intro character member
    obtain ⟨original, before, rfl⟩ := List.mem_map.mp member
    exact (toLower_hexdigit (found.2 original before)).1

theorem separates_digest (found : isDigest algorithm digest = true) :
    ∀ character ∈ digest, separates character = false := by
  rw [isDigest, Bool.and_eq_true, List.all_eq_true] at found
  exact fun character member => separates_hexdigit (found.2 character member)

/-! ### Lines -/

theorem digest_mem_tokens (assigns : Assigns algorithm filename digest line) :
    digest ∈ tokens line := by
  obtain ⟨found, form⟩ := assigns
  have apart := separates_digest found
  rcases form with ⟨first, gap, star, rfl, white, _⟩ | rfl
  · have here : separates first = true := by
      rw [separates, white first List.mem_cons_self]
      rfl
    rw [List.append_assoc, List.append_assoc, List.cons_append, tokens,
      List.splitOnP_append_cons_of_forall_mem apart first here]
    exact List.mem_cons_self
  · rw [bsdLine, tokens, List.splitOnP_append_cons _ _ (by decide),
      List.splitOnP_eq_singleton apart]
    exact List.mem_append_right _ List.mem_cons_self

theorem mentions_of_assigns (assigns : Assigns algorithm filename digest line) :
    ∃ token, Mentions algorithm filename line token := by
  obtain ⟨token, found⟩ : ∃ token,
      (tokens line).find? (isDigest algorithm) = some token := by
    rw [← Option.isSome_iff_exists, List.find?_isSome]
    exact ⟨digest, digest_mem_tokens assigns, assigns.1⟩
  refine ⟨token, ?_, found⟩
  rcases assigns.2 with ⟨first, gap, star, rfl, _⟩ | rfl
  · exact (List.suffix_append _ _).isInfix
  · rw [bsdLine, List.append_assoc]
    exact List.infix_append _ _ _

/-- The first digest on a line that has the name in it. -/
def mention (algorithm : HashAlgorithm) (filename line : Text) :
    Option Text :=
  if filename <:+: line then (tokens line).find? (isDigest algorithm) else none

theorem mention_eq_some_iff :
    mention algorithm filename line = some token ↔
      Mentions algorithm filename line token := by
  rw [mention, Mentions]
  split <;> simp_all

theorem findSome?_named (listed : List Text) :
    ((listed.filter fun line => decide (filename <:+: line)).findSome?
      fun line => (tokens line).find? (isDigest algorithm)) =
        listed.findSome? (mention algorithm filename) := by
  induction listed with
  | nil => rfl
  | cons line rest ih =>
      rw [List.findSome?_cons, mention, ← ih, List.filter_cons]
      by_cases inside : filename <:+: line
      · simp [inside, List.findSome?_cons]
      · simp [inside]

theorem digestFromChecksum_of_mention
    (found : (lines text).findSome? (mention algorithm filename) =
      some token) :
    digestFromChecksum text filename algorithm =
      .ok (toAsciiLowercase token) := by
  obtain ⟨line, _, mentioned⟩ := List.exists_of_findSome?_eq_some found
  have isToken := List.find?_some (mention_eq_some_iff.mp mentioned).2
  rw [digestFromChecksum, findSome?_named, found]
  simp only [bind, Except.bind, validateDigestText,
    isDigest_toAsciiLowercase isToken, if_true]

theorem digestFromChecksum_of_alone
    (none' : (lines text).findSome? (mention algorithm filename) = none)
    (alone : (tokens text).filter (isDigest algorithm) = [token]) :
    digestFromChecksum text filename algorithm =
      .ok (toAsciiLowercase token) := by
  have isToken : isDigest algorithm token = true :=
    (List.mem_filter.mp (alone ▸ List.mem_singleton_self token)).2
  rw [digestFromChecksum, findSome?_named, none', alone]
  simp only [List.map_cons, List.map_nil, bind, Except.bind,
    validateDigestText, isDigest_toAsciiLowercase isToken, if_true]

theorem digestFromChecksum_of_many
    (none' : (lines text).findSome? (mention algorithm filename) = none)
    (many : ∀ token, (tokens text).filter (isDigest algorithm) ≠ [token]) :
    ∃ failure, digestFromChecksum text filename algorithm =
      .error failure := by
  rw [digestFromChecksum, findSome?_named, none']
  cases found : (tokens text).filter (isDigest algorithm) with
  | nil => exact ⟨_, rfl⟩
  | cons token rest =>
      cases rest with
      | nil => exact absurd found (many token)
      | cons => exact ⟨_, rfl⟩

/-- The digest is that of the named file exactly for plain texts. -/
theorem right_iff_plain :
    Right algorithm text filename ↔ Plain algorithm text filename := by
  cases named : (lines text).findSome? (mention algorithm filename) with
  | some token =>
      have returned := digestFromChecksum_of_mention named
      obtain ⟨front, line, back, split, here, before⟩ :=
        List.findSome?_eq_some_iff.mp named
      have mentioned := mention_eq_some_iff.mp here
      have member : line ∈ lines text := by
        rw [split]
        exact List.mem_append_right _ List.mem_cons_self
      constructor
      · intro right
        refine ⟨?_, fun none' => absurd mentioned (none' line member token),
          fun none' => absurd mentioned (none' line member token)⟩
        intro front' line' back' token' split' before' mentioned'
        have same : (lines text).findSome? (mention algorithm filename) =
            some token' := by
          refine List.findSome?_eq_some_iff.mpr ⟨front', line', back', split',
            mention_eq_some_iff.mpr mentioned', fun other inside => ?_⟩
          cases other' : mention algorithm filename other with
          | none => rfl
          | some found =>
              exact absurd (mention_eq_some_iff.mp other')
                (before' other inside found)
        rw [named] at same
        rw [← Option.some.inj same]
        exact right.only _ returned
      · intro plain
        obtain ⟨digest, assigned, same⟩ := plain.first front line back token
          split (fun other inside found mentions => by
            have nothing := before other inside
            rw [mention_eq_some_iff.mpr mentions] at nothing
            cases nothing) mentioned
        refine ⟨fun result got => ?_, fun _ => ?_⟩
        · rw [returned] at got
          exact ⟨digest, assigned, (Except.ok.inj got).symm.trans same⟩
        · exact ⟨digest, assigned, by rw [returned, same]⟩
  | none =>
      have nowhere : ∀ line ∈ lines text, ∀ token,
          ¬ Mentions algorithm filename line token := by
        intro line member token mentions
        have nothing := List.findSome?_eq_none_iff.mp named line member
        rw [mention_eq_some_iff.mpr mentions] at nothing
        cases nothing
      have single : ∀ digest, Assigned algorithm text filename digest →
          Single algorithm text digest := by
        rintro digest (⟨line, member, assigns⟩ | single)
        · obtain ⟨token, mentions⟩ := mentions_of_assigns assigns
          exact absurd mentions (nowhere line member token)
        · exact single
      constructor
      · intro right
        refine ⟨?_, fun _ token alone => ?_, fun _ some' => ?_⟩
        · intro front line back token split _ mentions
          refine absurd mentions (nowhere line ?_ token)
          rw [split]
          exact List.mem_append_right _ List.mem_cons_self
        · obtain ⟨digest, assigned, same⟩ :=
            right.only _ (digestFromChecksum_of_alone named alone)
          exact ⟨digest, single digest assigned, same⟩
        · by_contra many
          obtain ⟨digest, found⟩ := some'
          obtain ⟨_, _, returned⟩ := right.always ⟨digest, .inr found⟩
          obtain ⟨failure, failed⟩ := digestFromChecksum_of_many named
            fun token alone => many ⟨token, alone⟩
          rw [failed] at returned
          cases returned
      · intro plain
        by_cases one : ∃ token,
            (tokens text).filter (isDigest algorithm) = [token]
        · obtain ⟨token, alone⟩ := one
          obtain ⟨digest, found, same⟩ := plain.alone nowhere token alone
          have returned := digestFromChecksum_of_alone named alone
          refine ⟨fun result got => ?_, fun _ => ?_⟩
          · rw [returned] at got
            exact ⟨digest, .inr found, (Except.ok.inj got).symm.trans same⟩
          · exact ⟨digest, .inr found, by rw [returned, same]⟩
        · obtain ⟨failure, failed⟩ := digestFromChecksum_of_many named
            fun token alone => one ⟨token, alone⟩
          refine ⟨fun result got => ?_, fun assigned => ?_⟩
          · rw [failed] at got
            cases got
          · obtain ⟨digest, assigned⟩ := assigned
            exact absurd (plain.commented nowhere
              ⟨digest, single digest assigned⟩) one

end Checksums

/-! ## Registration -/

inductive SourceFormat where
  | qcow2
  | qcow2Xz
  | raw
  | rawZst
  | rawBz2
  | ova
  | zipQcow2

def SourceFormat.label : SourceFormat → String
  | .qcow2 => "qcow2"
  | .qcow2Xz => "qcow2.xz"
  | .raw => "raw"
  | .rawZst => "raw.zst"
  | .rawBz2 => "raw.bz2"
  | .ova => "ova"
  | .zipQcow2 => "zip/qcow2"

inductive Checksum where
  | remote (url : String) (algorithm : HashAlgorithm)
  | inline (algorithm : HashAlgorithm) (digest : Text)

/-- `Resolver::Static`. -/
structure Static where
  url : String
  filename : Text
  checksum : Checksum
  format : SourceFormat

structure ResolvedSource where
  url : String
  filename : Text
  format : SourceFormat
  algorithm : HashAlgorithm
  digest : Text
  release : Option String

structure CatalogEntry where
  canonical : String
  aliases : List String
  distribution : String
  release : String

abbrev Bytes := List UInt8

/-- The fetcher, the hash of a file as a text, `normalize` with the tools it
runs, and the operations on the image directory that may fail. -/
structure Host where
  text : String → Except PullFailure Text
  download : String → Except PullFailure Bytes
  hashFile : HashAlgorithm → Bytes → Except PullFailure Text
  normalize : SourceFormat → Bytes → Except PullFailure Bytes
  imageExists : Text → Bool
  discard : Except PullFailure Unit
  moveImage : Text → Except PullFailure Unit
  writeAlias : String → Except PullFailure Unit

/-- The branch `Resolver::Static` of `resolve_source`. -/
def resolveStatic (host : Host) (source : Static) :
    Except PullFailure ResolvedSource :=
  match source.checksum with
  | .inline algorithm digest =>
      .ok ⟨source.url, source.filename, source.format, algorithm, digest, none⟩
  | .remote url algorithm => do
      let text ← host.text url
      let digest ← digestFromChecksum text source.filename algorithm
      .ok ⟨source.url, source.filename, source.format, algorithm, digest, none⟩

/-- What stands in the image directory afterwards. -/
inductive Write where
  | object (digest : Text) (bytes : Bytes)
  | manifest (name : String) (value : JSONValue)

/-- The downloaded image, verified and normalized, and its digest. -/
def verified (host : Host) (source : ResolvedSource) :
    Except PullFailure (Bytes × Text) := do
  let downloaded ← host.download source.url
  let actual ← host.hashFile source.algorithm downloaded
  if actual ≠ toAsciiLowercase source.digest then
    .error ⟨exitImageChecksum, source.algorithm.name ++ " mismatch for " ++
      String.ofList source.filename ++ ": expected " ++
      String.ofList source.digest ++ ", got " ++ String.ofList actual⟩
  else do
    let normalized ← host.normalize source.format downloaded
    let digest ← host.hashFile .sha256 normalized
    .ok (normalized, digest)

def aliasManifest (entry : CatalogEntry) (source : ResolvedSource)
    (digest : Text) : JSONValue :=
  .object [("apiVersion", .string "vzctl.dev/image-alias/v1"),
    ("canonical_alias", .string entry.canonical),
    ("aliases", .array (entry.aliases.map .string)),
    ("distribution", .string entry.distribution),
    ("release", .string (source.release.getD entry.release)),
    ("architecture", .string "arm64"), ("sealed", .bool false),
    ("tags", .object []),
    ("source", .object [("url", .string source.url),
      ("filename", .string (String.ofList source.filename)),
      ("format", .string source.format.label),
      ("algorithm", .string source.algorithm.name),
      ("digest", .string (String.ofList source.digest))]),
    ("image", .object [("path", .string ("objects/" ++
        String.ofList digest ++ ".raw")), ("format", .string "raw"),
      ("sha256", .string (String.ofList digest))])]

def registerAliases (host : Host) (manifest : JSONValue) :
    List String → List Write × Except PullFailure Unit
  | [] => ([], .ok ())
  | name :: rest =>
      match host.writeAlias name with
      | .error failure => ([], .error failure)
      | .ok () =>
          let later := registerAliases host manifest rest
          (.manifest name manifest :: later.1, later.2)

/-- `pull_with` from the download on: what it writes, and how it ends. -/
def publish (host : Host) (entry : CatalogEntry) (source : ResolvedSource) :
    List Write × Except PullFailure Unit :=
  match verified host source with
  | .error failure => ([], .error failure)
  | .ok (normalized, digest) =>
      let stored : List Write × Except PullFailure Unit :=
        if host.imageExists digest then ([], host.discard)
        else
          match host.moveImage digest with
          | .error failure => ([], .error failure)
          | .ok () => ([.object digest normalized], .ok ())
      match stored.2 with
      | .error failure => (stored.1, .error failure)
      | .ok () =>
          let named := registerAliases host
            (aliasManifest entry source digest) entry.aliases
          (stored.1 ++ named.1, named.2)

/-- The downloaded bytes have the digest of the source. -/
def Verified (host : Host) (source : ResolvedSource) : Prop :=
  ∃ bytes, host.download source.url = .ok bytes ∧
    host.hashFile source.algorithm bytes = .ok (toAsciiLowercase source.digest)

theorem verified_of_publish {host : Host} {entry : CatalogEntry}
    {source : ResolvedSource} (written : (publish host entry source).1 ≠ []) :
    Verified host source := by
  cases prepared : verified host source with
  | error failure =>
      rw [publish, prepared] at written
      exact absurd rfl written
  | ok image =>
      rw [verified] at prepared
      obtain ⟨bytes, downloaded, prepared⟩ :=
        Outcome.bind_eq_ok_iff.mp prepared
      obtain ⟨actual, hashed, prepared⟩ := Outcome.bind_eq_ok_iff.mp prepared
      split at prepared
      · cases prepared
      · rename_i same
        exact ⟨bytes, downloaded, by rw [hashed, not_not.mp same]⟩

/-- A digest that was fetched is the one that the text gave. -/
theorem digest_of_resolveStatic {host : Host} {static : Static}
    {source : ResolvedSource} {url : String} {algorithm : HashAlgorithm}
    (resolved : resolveStatic host static = .ok source)
    (remote : static.checksum = .remote url algorithm) :
    ∃ text, host.text url = .ok text ∧
      digestFromChecksum text static.filename algorithm =
        .ok source.digest := by
  rw [resolveStatic, remote] at resolved
  obtain ⟨text, fetched, resolved⟩ := Outcome.bind_eq_ok_iff.mp resolved
  obtain ⟨digest, found, resolved⟩ := Outcome.bind_eq_ok_iff.mp resolved
  cases resolved
  exact ⟨text, fetched, found⟩

/-- A checksum text is read rightly exactly if it is plain, and only verified
bytes are registered. -/
theorem image_checksums_iff_plain (algorithm : HashAlgorithm)
    (text filename : Text) :
    (Right algorithm text filename ↔ Plain algorithm text filename) ∧
      ∀ host entry source, (publish host entry source).1 ≠ [] →
        Verified host source ∧
          ∀ static url algorithm, resolveStatic host static = .ok source →
            static.checksum = .remote url algorithm →
            ∃ text, host.text url = .ok text ∧
              digestFromChecksum text static.filename algorithm =
                .ok source.digest := by
  refine ⟨right_iff_plain, fun host entry source written => ?_⟩
  exact ⟨verified_of_publish written, fun _ _ _ resolved remote =>
    digest_of_resolveStatic resolved remote⟩

/-! ## The signature of a file -/

def signatureDigest : Text := List.replicate 64 'a'

/-- Only the signature of `disk.img` is listed. -/
def signatureText : Text := signatureDigest ++ "  disk.img.sig".toList

theorem signature_is_taken :
    digestFromChecksum signatureText "disk.img".toList .sha256 =
        .ok signatureDigest ∧
      ¬ Right .sha256 signatureText "disk.img".toList := by
  have returned : digestFromChecksum signatureText "disk.img".toList .sha256 =
      .ok signatureDigest := by decide +kernel
  refine ⟨returned, fun right => ?_⟩
  obtain ⟨digest, ⟨line, member, assigns⟩ | single, _⟩ :=
    right.only _ returned
  · have listed : lines signatureText = [signatureText] := by decide +kernel
    rw [listed, List.mem_singleton] at member
    subst member
    rcases assigns.2 with ⟨first, gap, star, same, _⟩ | same
    · have ends : "disk.img".toList <:+ signatureText :=
        same ▸ List.suffix_append _ _
      revert ends
      decide +kernel
    · have inside : ')' ∈ signatureText := by
        rw [same, bsdLine]
        simp
      revert inside
      decide +kernel
  · have words := congrArg List.length single.2
    rw [List.length_singleton] at words
    revert words
    decide +kernel

end Images

end Vzctl
