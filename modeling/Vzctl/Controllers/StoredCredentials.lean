import Vzctl.Controllers.SecretStorage
import Vzctl.Lib.Outcome

/-!
# Stored credentials

Every secret has one value for ever, whatever the processes do that read and
create secrets in one directory.
-/

namespace Vzctl

namespace SecretStorage

open Texts Transitions

variable {digest : Digest} {initial : Files}

/-! ## Names -/

theorem head?_temporaryName (bytes : Drawn) :
    (temporaryName bytes).toList.head? = some '.' := by
  rw [temporaryName, String.toList_append]
  rfl

theorem Digest.head?_filename (key : String) :
    (digest.filename key).toList.head? ≠ some '.' := by
  rw [Digest.filename, String.toList_append]
  have plain := digest.plain key
  cases text : (digest.hex key).toList with
  | nil =>
      rw [text] at plain
      cases plain
  | cons first rest =>
      intro dotted
      cases dotted
      rw [text] at plain
      cases plain

theorem filename_ne_temporaryName (key : String) (bytes : Drawn) :
    digest.filename key ≠ temporaryName bytes := by
  intro same
  have plain := digest.head?_filename key
  rw [same] at plain
  exact plain (head?_temporaryName bytes)

theorem filename_ne_lock (key : String) : digest.filename key ≠ ".lock" := by
  intro same
  have plain := digest.head?_filename key
  rw [same] at plain
  exact plain rfl

theorem Digest.filename_injective : Function.Injective digest.filename := by
  intro first second same
  have texts := congrArg String.toList same
  rw [Digest.filename, Digest.filename, String.toList_append,
    String.toList_append] at texts
  exact digest.injective (String.toList_injective
    (List.append_cancel_right texts))

/-! ## Values -/

/-- The values that a call may store. -/
def Chosen (existing : Option String) (secret : String) : Prop :=
  blank secret = false ∧
    (existing = some secret ∨
      existing = none ∧ ∃ bytes, secret = randomSecret bytes)

theorem toList_randomSecret (bytes : Drawn) :
    (randomSecret bytes).toList =
      (List.ofFn bytes).flatMap fun byte =>
        [Nat.digitChar (byte.toNat / 16),
          Nat.digitChar (byte.toNat % 16)] := by
  rw [randomSecret, hexadecimal, String.toList_ofList]

theorem blank_randomSecret (bytes : Drawn) :
    blank (randomSecret bytes) = false := by
  have first : isWhitespace (Nat.digitChar ((bytes 0).toNat / 16)) = false :=
    isWhitespace_digitChar _ (by have := (bytes 0).toNat_lt; omega)
  rw [blank, toList_randomSecret, List.ofFn_succ, List.flatMap_cons,
    List.all_append, List.all_cons, first]
  rfl

theorem size_randomSecret (bytes : Drawn) :
    (randomSecret bytes).toByteArray.size = 64 := by
  have single : ∀ character ∈ (randomSecret bytes).toList,
      character.utf8Size = 1 := by
    intro character member
    rw [toList_randomSecret] at member
    obtain ⟨byte, _, member⟩ := List.mem_flatMap.mp member
    have small := byte.toNat_lt
    rcases List.mem_pair.mp member with rfl | rfl
    · exact utf8Size_digitChar _ (by omega)
    · exact utf8Size_digitChar _ (by omega)
  have length : (randomSecret bytes).toList.length = 64 := by
    rw [toList_randomSecret, List.length_flatMap]
    simp only [List.length_cons, List.length_nil, List.map_const',
      List.length_ofFn, List.sum_replicate_nat]
  rw [← length, ← size_utf8Encode single, ← String.toByteArray_ofList,
    String.ofList_toList]

theorem secretOf_toByteArray {secret : String}
    (visible : blank secret = false) :
    secretOf secret.toByteArray = .ok secret := by
  have decoded : String.fromUTF8? secret.toByteArray = some secret :=
    dif_pos secret.isValidUTF8
  simp only [secretOf, decoded, visible]
  rfl

theorem toByteArray_of_secretOf {bytes : ByteArray} {secret : String}
    (read : secretOf bytes = .ok secret) :
    bytes = secret.toByteArray ∧ blank secret = false := by
  unfold secretOf at read
  split at read
  · cases read
  · rename_i decoded found
    split at read
    · cases read
    · rename_i visible
      cases read
      unfold String.fromUTF8? at found
      split at found
      · cases found
        exact ⟨rfl, Bool.eq_false_iff.mpr visible⟩
      · cases found

/-! ## What a file holds -/

/-- A private file holds this secret. -/
def Holds (files : Files) (filename secret : String) : Prop :=
  files filename = some (privateFile secret.toByteArray)

/-- The file of a value that a call returns. -/
def Kept (files : Files) (filename : String) (existing : Option String)
    (secret : String) : Prop :=
  Holds files filename secret ∧ blank secret = false ∧
    (secret.toByteArray.size ≤ maxSecretBytes ∨ existing = some secret)

theorem holds_of_storedSecret {files : Files} {filename secret : String}
    (stored : storedSecret (files filename) = .ok (some secret)) :
    Holds files filename secret ∧ blank secret = false ∧
      secret.toByteArray.size ≤ maxSecretBytes := by
  unfold storedSecret readPrivate at stored
  cases found : files filename with
  | none =>
      rw [found] at stored
      cases stored
  | some entry =>
      rw [found] at stored
      dsimp only at stored
      by_cases readable : entry.isPrivate = true ∧
          entry.bytes.size ≤ maxSecretBytes
      · rw [if_pos readable] at stored
        obtain ⟨value, read, same⟩ := Outcome.map_eq_ok_iff.mp stored
        cases same
        obtain ⟨bytes, visible⟩ := toByteArray_of_secretOf read
        refine ⟨?_, visible, bytes ▸ readable.2⟩
        rw [Holds, found, privateFile, ← bytes, ← readable.1]
      · rw [if_neg readable] at stored
        cases stored

theorem storedSecret_of_holds {files : Files} {filename secret : String}
    (holds : Holds files filename secret) (visible : blank secret = false)
    (small : secret.toByteArray.size ≤ maxSecretBytes) :
    storedSecret (files filename) = .ok (some secret) := by
  have read : readPrivate (files filename) =
      .ok (some secret.toByteArray) := by
    rw [holds]
    exact if_pos ⟨rfl, small⟩
  simp only [storedSecret, read, secretOf_toByteArray visible]
  rfl

theorem none_of_storedSecret {entry : Option Entry}
    (nothing : storedSecret entry = .ok none) : entry = none := by
  unfold storedSecret readPrivate at nothing
  cases entry with
  | none => rfl
  | some entry =>
      dsimp only at nothing
      split at nothing
      · cases nothing
      · rename_i none found
        split at found
        · cases found
        · cases found
      · obtain ⟨value, _, impossible⟩ := Outcome.map_eq_ok_iff.mp nothing
        cases impossible

/-! ## Steps of one call -/

/-- What a call knows of the files where it stands. -/
def Sound (filename : String) (existing : Option String) (files : Files) :
    Point → Prop
  | .choosing => files filename = none
  | .creating secret => files filename = none ∧ Chosen existing secret
  | .writing temporary secret written =>
      files filename = none ∧ Chosen existing secret ∧
        files (temporaryName temporary) =
          some (privateFile (secret.toByteArray.extract 0 written))
  | .syncing temporary secret =>
      files filename = none ∧ Chosen existing secret ∧
        files (temporaryName temporary) =
          some (privateFile secret.toByteArray)
  | .renaming temporary secret =>
      files filename = none ∧ Chosen existing secret ∧
        files (temporaryName temporary) =
          some (privateFile secret.toByteArray)
  | .syncingDirectory _ secret => Kept files filename existing secret
  | .releasing (.ok secret) => Kept files filename existing secret
  | .returned (.ok secret) => Kept files filename existing secret
  | _ => True

theorem size_of_chosen {existing : Option String} {secret : String}
    (chosen : Chosen existing secret) :
    secret.toByteArray.size ≤ maxSecretBytes ∨ existing = some secret := by
  rcases chosen.2 with imported | ⟨_, bytes, rfl⟩
  · exact .inr imported
  · refine .inl ?_
    rw [size_randomSecret]
    decide

theorem sound_afterRead {filename : String} {existing : Option String}
    {files : Files} :
    Sound filename existing files (afterRead (files filename)) := by
  unfold afterRead
  split
  · trivial
  · rename_i secret stored
    obtain ⟨holds, visible, small⟩ := holds_of_storedSecret stored
    exact ⟨holds, visible, .inl small⟩
  · rename_i nothing
    exact none_of_storedSecret nothing

theorem Acts.sound {filename : String} {existing : Option String}
    {files next : Files} {point after : Point}
    (apart : ∀ bytes, filename ≠ temporaryName bytes)
    (acts : Acts filename existing files point next after)
    (sound : Sound filename existing files point) :
    Sound filename existing next after := by
  cases acts with
  | read => exact sound_afterRead
  | «import» imports visible => exact ⟨sound, visible, .inl imports⟩
  | draw nothing =>
      exact ⟨sound, blank_randomSecret _, .inr ⟨nothing, _, rfl⟩⟩
  | create free =>
      refine ⟨?_, sound.2, ?_⟩
      · rw [Function.update_of_ne (apart _)]
        exact sound.1
      · rw [Function.update_self, ByteArray.extract_same]
  | write more inside =>
      refine ⟨?_, sound.2.1, Function.update_self _ _ _⟩
      rw [Function.update_of_ne (apart _)]
      exact sound.1
  | written complete =>
      refine ⟨sound.1, sound.2.1, ?_⟩
      rw [sound.2.2, complete, ByteArray.extract_zero_size]
  | sync => exact sound
  | rename =>
      refine ⟨?_, sound.2.1.1, size_of_chosen sound.2.1⟩
      rw [Holds, Function.update_of_ne (apart _), Function.update_self]
      exact sound.2.2
  | syncDirectory => exact sound
  | _ => trivial

/-- A step leaves the file of every secret as it is, or gives its own secret
the value that it has chosen. -/
theorem Acts.files_filename {key : String} {existing : Option String}
    {files next : Files} {point after : Point}
    (acts : Acts (digest.filename key) existing files point next after)
    (sound : Sound (digest.filename key) existing files point)
    (other : String) :
    next (digest.filename other) = files (digest.filename other) ∨
      other = key ∧ files (digest.filename key) = none ∧
        ∃ secret, Chosen existing secret ∧
          next (digest.filename key) =
            some (privateFile secret.toByteArray) := by
  have apart := @filename_ne_temporaryName digest
  cases acts with
  | rename =>
      rename_i secret temporary
      rw [Function.update_of_ne (apart other temporary)]
      by_cases same : other = key
      · refine .inr ⟨same, sound.1, secret, sound.2.1, ?_⟩
        rw [Function.update_of_ne (apart key temporary),
          Function.update_self]
        exact sound.2.2
      · refine .inl (Function.update_of_ne ?_ _ _)
        exact fun names => same (digest.filename_injective names)
  | create => exact .inl (Function.update_of_ne (apart other _) _ _)
  | createUnsafe => exact .inl (Function.update_of_ne (apart other _) _ _)
  | write => exact .inl (Function.update_of_ne (apart other _) _ _)
  | remove => exact .inl (Function.update_of_ne (apart other _) _ _)
  | _ => exact .inl rfl

theorem Prepares.files_filename {files next : Files} {point after : Point}
    (prepares : Prepares files point next after) (key : String) :
    next (digest.filename key) = files (digest.filename key) := by
  cases prepares with
  | createLock free =>
      exact Function.update_of_ne (filename_ne_lock key) _ _
  | _ => rfl

theorem temporaryName_ne_lock (bytes : Drawn) :
    temporaryName bytes ≠ ".lock" := by
  intro same
  have second := congrArg (fun text => text.toList[1]?) same
  rw [temporaryName, String.toList_append] at second
  cases second

theorem Sound.of_same {filename : String} {existing : Option String}
    {files next : Files} {point : Point}
    (sound : Sound filename existing files point)
    (own : next filename = files filename)
    (temporaries : ∀ bytes,
      next (temporaryName bytes) = files (temporaryName bytes)) :
    Sound filename existing next point := by
  cases point with
  | choosing => exact own.trans sound
  | creating secret => exact ⟨own.trans sound.1, sound.2⟩
  | writing temporary secret written =>
      exact ⟨own.trans sound.1, sound.2.1, (temporaries _).trans sound.2.2⟩
  | syncing temporary secret =>
      exact ⟨own.trans sound.1, sound.2.1, (temporaries _).trans sound.2.2⟩
  | «renaming» temporary secret =>
      exact ⟨own.trans sound.1, sound.2.1, (temporaries _).trans sound.2.2⟩
  | syncingDirectory temporary secret =>
      exact ⟨own.trans sound.1, sound.2⟩
  | releasing result =>
      cases result with
      | error failure => trivial
      | ok secret => exact ⟨own.trans sound.1, sound.2⟩
  | returned result =>
      cases result with
      | error failure => trivial
      | ok secret => exact ⟨own.trans sound.1, sound.2⟩
  | _ => trivial

theorem Prepares.sound {filename : String} {existing : Option String}
    {files next : Files} {point after other : Point}
    (apart : filename ≠ ".lock")
    (prepares : Prepares files point next after)
    (sound : Sound filename existing files other) :
    Sound filename existing next other := by
  cases prepares with
  | createLock free =>
      rename_i entry
      have own : Function.update files ".lock" (some entry) filename =
          files filename :=
        Function.update_of_ne apart _ _
      have temporaries : ∀ bytes,
          Function.update files ".lock" (some entry) (temporaryName bytes) =
            files (temporaryName bytes) :=
        fun bytes => Function.update_of_ne (temporaryName_ne_lock bytes) _ _
      exact sound.of_same own temporaries
  | _ => exact sound

theorem Prepares.holdsLock {files next : Files} {point after : Point}
    (prepares : Prepares files point next after) :
    point.holdsLock = false ∧ after.holdsLock = false := by
  cases prepares with
  | _ => exact ⟨rfl, rfl⟩

theorem Prepares.sound_after {filename : String} {existing : Option String}
    {files next : Files} {point after : Point}
    (prepares : Prepares files point next after) :
    Sound filename existing next after := by
  cases prepares with
  | _ => trivial

theorem Sound.of_not_holdsLock {filename : String} {existing : Option String}
    {files next : Files} {point : Point}
    (sound : Sound filename existing files point)
    (outside : point.holdsLock = false)
    (grows : ∀ entry, files filename = some entry →
      next filename = some entry) :
    Sound filename existing next point := by
  cases point with
  | returned result =>
      cases result with
      | error failure => trivial
      | ok secret => exact ⟨grows _ sound.1, sound.2⟩
  | opening => trivial
  | locking => trivial
  | crashed => trivial
  | _ => cases outside

/-! ## All calls -/

/-- What holds of the store and its calls, from the files at the start on. -/
structure Consistent (digest : Digest) (initial : Files) (store : Store) :
    Prop where
  exclusive : ∀ number call, store.calls number = some call →
    call.point.holdsLock = true → store.holder = some number
  sound : ∀ number call, store.calls number = some call →
    Sound (digest.filename call.key) call.existing store.files call.point
  kept : ∀ key entry, initial (digest.filename key) = some entry →
    store.files (digest.filename key) = some entry
  complete : ∀ key, initial (digest.filename key) = none →
    store.files (digest.filename key) = none ∨
      ∃ number call secret, store.calls number = some call ∧
        call.key = key ∧ Chosen call.existing secret ∧
        Holds store.files (digest.filename key) secret

theorem consistent_fresh : Consistent digest initial (.fresh initial) := by
  constructor
  · intro number call impossible
    cases impossible
  · intro number call impossible
    cases impossible
  · intro key entry found
    exact found
  · intro key missing
    exact .inl missing

theorem moved_self {store : Store} {number : Nat} {call : Call}
    {point : Point} :
    store.moved number call point number =
      some { call with point := point } :=
  Function.update_self _ _ _

theorem calls_moved {store : Store} {number other : Nat} {call found : Call}
    {point : Point}
    (moved : store.moved number call point other = some found) :
    other = number ∧ found = { call with point := point } ∨
      other ≠ number ∧ store.calls other = some found := by
  unfold Store.moved at moved
  by_cases same : other = number
  · rw [same, Function.update_self] at moved
    exact .inl ⟨same, (Option.some.inj moved).symm⟩
  · rw [Function.update_of_ne same] at moved
    exact .inr ⟨same, moved⟩

theorem exists_moved {store : Store} {number other : Nat}
    {call found : Call} {point : Point}
    (known : store.calls number = some call)
    (before : store.calls other = some found) :
    ∃ after, store.moved number call point other = some after ∧
      after.key = found.key ∧ after.existing = found.existing := by
  by_cases same : other = number
  · rw [same] at before
    cases Option.some.inj (known.symm.trans before)
    rw [same]
    exact ⟨_, moved_self, rfl, rfl⟩
  · exact ⟨found, (Function.update_of_ne same _ _).trans before, rfl, rfl⟩

/-- A call moves, and the files of secrets only get complete values: what has
to be shown of the step itself. -/
theorem Consistent.moved {store : Store} {number : Nat} {call : Call}
    {files : Files} {point : Point} {holder : Option Nat}
    (consistent : Consistent digest initial store)
    (known : store.calls number = some call)
    (own : point.holdsLock = true → holder = some number)
    (others : ∀ other found, other ≠ number →
      store.calls other = some found → found.point.holdsLock = true →
      holder = some other ∧
        Sound (digest.filename found.key) found.existing files found.point)
    (sound : Sound (digest.filename call.key) call.existing files point)
    (secrets : ∀ key,
      files (digest.filename key) = store.files (digest.filename key) ∨
        key = call.key ∧ store.files (digest.filename key) = none ∧
          ∃ secret, Chosen call.existing secret ∧
            Holds files (digest.filename key) secret) :
    Consistent digest initial
      { files := files
        holder := holder
        calls := store.moved number call point } := by
  have grows : ∀ key entry, store.files (digest.filename key) = some entry →
      files (digest.filename key) = some entry := by
    intro key entry found
    rcases secrets key with same | ⟨_, missing, _⟩
    · exact same.trans found
    · cases missing.symm.trans found
  constructor
  · intro other found after holds
    rcases calls_moved after with ⟨rfl, rfl⟩ | ⟨different, before⟩
    · exact own holds
    · exact (others other found different before holds).1
  · intro other found after
    rcases calls_moved after with ⟨rfl, rfl⟩ | ⟨different, before⟩
    · exact sound
    · have soundBefore := consistent.sound other found before
      cases holds : found.point.holdsLock with
      | true => exact (others other found different before holds).2
      | false =>
          exact soundBefore.of_not_holdsLock holds fun entry =>
            grows found.key entry
  · intro key entry found
    exact grows key entry (consistent.kept key entry found)
  · intro key missing
    rcases secrets key with same | ⟨rfl, _, secret, chosen, holds⟩
    · rcases consistent.complete key missing with
        nothing | ⟨other, found, secret, before, ofKey, chosen, holds⟩
      · exact .inl (same.trans nothing)
      · obtain ⟨after, moved, sameKey, sameExisting⟩ :=
          exists_moved known before
        exact .inr ⟨other, after, secret, moved, sameKey.trans ofKey,
          sameExisting ▸ chosen, same.trans holds⟩
    · exact .inr ⟨number, _, secret, moved_self, rfl, chosen, holds⟩

theorem Acts.holdsLock {filename : String} {existing : Option String}
    {files next : Files} {point after : Point}
    (acts : Acts filename existing files point next after) :
    point.holdsLock = true ∧ after.holdsLock = true := by
  cases acts with
  | read =>
      refine ⟨rfl, ?_⟩
      unfold afterRead
      split <;> rfl
  | _ => exact ⟨rfl, rfl⟩

theorem calls_begun {store : Store} {number other : Nat} {fresh found : Call}
    (begun : Function.update store.calls number (some fresh) other =
      some found) :
    found = fresh ∨ store.calls other = some found := by
  by_cases same : other = number
  · rw [same, Function.update_self] at begun
    exact .inl (Option.some.inj begun).symm
  · rw [Function.update_of_ne same] at begun
    exact .inr begun

theorem Consistent.begin {store : Store} {number : Nat} {key : String}
    {existing : Option String} (consistent : Consistent digest initial store)
    (fresh : store.calls number = none) :
    Consistent digest initial
      { store with
        calls := Function.update store.calls number
          (some ⟨key, existing, .opening⟩) } := by
  constructor
  · intro other found after holds
    rcases calls_begun after with rfl | before
    · cases holds
    · exact consistent.exclusive other found before holds
  · intro other found after
    rcases calls_begun after with rfl | before
    · trivial
    · exact consistent.sound other found before
  · exact consistent.kept
  · intro name missing
    rcases consistent.complete name missing with
      nothing | ⟨other, found, secret, before, rest⟩
    · exact .inl nothing
    · refine .inr ⟨other, found, secret, ?_, rest⟩
      have different : other ≠ number := by
        intro same
        rw [same, fresh] at before
        cases before
      exact (Function.update_of_ne different _ _).trans before

theorem Consistent.step {store next : Store} {number : Nat}
    (consistent : Consistent digest initial store)
    (step : Step digest store number next) :
    Consistent digest initial next := by
  cases step with
  | begin fresh => exact consistent.begin fresh
  | prepare known prepares =>
      refine consistent.moved known ?_ ?_ prepares.sound_after ?_
      · intro holds
        cases prepares.holdsLock.2.symm.trans holds
      · intro other found _ before holds
        exact ⟨consistent.exclusive other found before holds,
          prepares.sound (filename_ne_lock found.key)
            (consistent.sound other found before)⟩
      · intro key
        exact .inl (prepares.files_filename key)
  | lock known waiting free =>
      refine consistent.moved known (fun _ => rfl) ?_ trivial
        fun _ => .inl rfl
      intro other found _ before holds
      cases free.symm.trans (consistent.exclusive other found before holds)
  | act known acts =>
      rename_i call files point
      have sound := consistent.sound number call known
      have holder := consistent.exclusive number call known acts.holdsLock.1
      refine consistent.moved known (fun _ => holder) ?_
        (acts.sound (filename_ne_temporaryName call.key) sound) ?_
      · intro other found different before holds
        have same := holder.symm.trans
          (consistent.exclusive other found before holds)
        exact absurd (Option.some.inj same).symm different
      · intro key
        rcases acts.files_filename sound key with same | ⟨rfl, changed⟩
        · exact .inl same
        · exact .inr ⟨rfl, changed⟩
  | release known releasing =>
      rename_i call result
      have sound := consistent.sound number call known
      have holder := consistent.exclusive number call known
        (by rw [releasing]; rfl)
      refine consistent.moved known ?_ ?_ ?_ fun _ => .inl rfl
      · intro holds
        cases holds
      · intro other found different before holds
        have same := holder.symm.trans
          (consistent.exclusive other found before holds)
        exact absurd (Option.some.inj same).symm different
      · rw [releasing] at sound
        cases result with
        | error failure => trivial
        | ok secret => exact sound
  | crash known _ =>
      refine consistent.moved known ?_ ?_ trivial fun _ => .inl rfl
      · intro holds
        cases holds
      · intro other found different before holds
        have holder := consistent.exclusive other found before holds
        refine ⟨?_, consistent.sound other found before⟩
        rw [holder, if_neg]
        intro same
        exact different (Option.some.inj same)

end SecretStorage

end Vzctl
