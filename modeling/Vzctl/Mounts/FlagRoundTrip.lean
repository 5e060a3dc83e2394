import Vzctl.Lib.Outcome
import Vzctl.Lib.Splitting
import Vzctl.Mounts.MountFlags

/-!
# Reading back a mount flag

A flag gives back the mount it was written for exactly when neither the source
nor the target has a comma in it or ends with white space.
-/

namespace Vzctl

namespace Mounts

/-! ## Splitting -/

section Splitting

variable {separator : Char} {text part : Text}

theorem append_of_splitOnce {before after : Text}
    (splits : splitOnce separator text = some (before, after)) :
    text = before ++ separator :: after := by
  induction text generalizing before after with
  | nil => cases splits
  | cons first rest ih =>
      rw [splitOnce] at splits
      split at splits
      · rename_i same
        cases splits
        rw [same, List.nil_append]
      · obtain ⟨⟨_, _⟩, inner, pair⟩ := Option.map_eq_some_iff.mp splits
        cases pair
        rw [ih inner, List.cons_append]

theorem splitOnce_append {before after : Text}
    (absent : separator ∉ before) :
    splitOnce separator (before ++ separator :: after) =
      some (before, after) := by
  induction before with
  | nil => rw [List.nil_append, splitOnce, if_pos rfl]
  | cons first rest ih =>
      rw [List.mem_cons, not_or] at absent
      rw [List.cons_append, splitOnce, if_neg (Ne.symm absent.1),
        ih absent.2]
      rfl

end Splitting

/-! ## Trimming -/

section Trimming

variable {text front : Text}

theorem exists_append_rdropWhile (text : Text) :
    ∃ blank, text = text.rdropWhile Texts.isWhitespace ++ blank ∧
      ∀ character ∈ blank, Texts.isWhitespace character = true := by
  refine ⟨text.rtakeWhile Texts.isWhitespace,
    (List.rdropWhile_append_rtakeWhile ..).symm, ?_⟩
  intro character member
  exact List.mem_rtakeWhile_imp member

theorem rdropWhile_append {last : Char}
    (visible : Texts.isWhitespace last = false) (text : Text) :
    (front ++ [last] ++ text).rdropWhile Texts.isWhitespace =
      front ++ [last] ++ text.rdropWhile Texts.isWhitespace := by
  induction text using List.reverseRecOn with
  | nil =>
      rw [List.append_nil, List.rdropWhile_nil, List.append_nil,
        List.rdropWhile_concat_neg]
      rw [visible]
      exact Bool.false_ne_true
  | append_singleton text final ih =>
      rw [← List.append_assoc]
      by_cases blank : Texts.isWhitespace final = true
      · rw [List.rdropWhile_concat_pos _ _ _ blank,
          List.rdropWhile_concat_pos _ _ _ blank, ih]
      · rw [List.rdropWhile_concat_neg _ _ _ blank,
          List.rdropWhile_concat_neg _ _ _ blank, List.append_assoc]

theorem trim_append {first last : Char}
    (visibleFirst : Texts.isWhitespace first = false)
    (visibleLast : Texts.isWhitespace last = false) (middle text : Text) :
    trim (first :: middle ++ [last] ++ text) =
      first :: middle ++ [last] ++ text.rdropWhile Texts.isWhitespace := by
  rw [trim, List.cons_append, List.cons_append, List.dropWhile_cons_of_neg]
  · rw [← List.cons_append, ← List.cons_append,
      rdropWhile_append visibleLast]
  · rw [visibleFirst]
    exact Bool.false_ne_true

theorem mem_of_mem_trim {character : Char} (member : character ∈ trim text) :
    character ∈ text :=
  (List.dropWhile_suffix _).subset
    ((List.rdropWhile_prefix _ _).subset member)

end Trimming

/-! ## Paths -/

/-- The components of a path have all of its characters but separators and
dots. -/
theorem filter_names {keeps : Char → Bool} (path : Text)
    (separator : keeps '/' = false) (dot : keeps '.' = false) :
    (names path).flatten.filter keeps = path.filter keeps := by
  have whole : ['/'].intercalate (path.splitOn '/') = path :=
    List.intercalate_splitOn '/'
  have joined : ∀ parts : List Text,
      (['/'].intercalate parts).filter keeps =
        (parts.flatten).filter keeps := by
    intro parts
    induction parts with
    | nil => rfl
    | cons part rest ih =>
        cases rest with
        | nil => simp
        | cons next others =>
            rw [List.intercalate_cons_cons, List.filter_append,
              List.filter_append, ih]
            simp [separator]
  have kept : ∀ parts : List Text,
      (parts.filter fun part => part ≠ [] ∧ part ≠ ['.']).flatten.filter
        keeps = parts.flatten.filter keeps := by
    intro parts
    induction parts with
    | nil => rfl
    | cons part rest ih =>
        rw [List.filter_cons]
        split
        · rw [List.flatten_cons, List.filter_append, ih,
            List.flatten_cons, List.filter_append]
        · rename_i dropped
          rw [ih, List.flatten_cons, List.filter_append]
          have nothing : part.filter keeps = [] := by
            by_cases empty : part = []
            · rw [empty]
              rfl
            · have same : part = ['.'] := by
                by_contra other
                exact dropped (decide_eq_true ⟨empty, other⟩)
              rw [same, List.filter_cons_of_neg (by simp [dot])]
              rfl
          rw [nothing, List.nil_append]
  rw [names, kept, ← joined, whole]

theorem SamePath.filter_eq {left right : Text} (same : SamePath left right)
    {keeps : Char → Bool} (separator : keeps '/' = false)
    (dot : keeps '.' = false) :
    left.filter keeps = right.filter keeps := by
  rw [← filter_names left separator dot, same.names,
    filter_names right separator dot]

theorem SamePath.refl (path : Text) : SamePath path path := ⟨rfl, rfl, rfl⟩

theorem SamePath.comma_mem {left right : Text} (same : SamePath left right)
    (member : ',' ∈ right) : ',' ∈ left := by
  have kept : ',' ∈ right.filter (· = ',') :=
    List.mem_filter.mpr ⟨member, rfl⟩
  rw [← same.filter_eq (by rfl) (by rfl)] at kept
  exact (List.mem_filter.mp kept).1

theorem SamePath.rdropWhile_eq {path : Text}
    (same : SamePath (path.rdropWhile Texts.isWhitespace) path) :
    path.rdropWhile Texts.isWhitespace = path := by
  obtain ⟨blank, whole, allBlank⟩ := exists_append_rdropWhile path
  have kept : (path.rdropWhile Texts.isWhitespace).filter
      Texts.isWhitespace = path.filter Texts.isWhitespace :=
    same.filter_eq rfl rfl
  have lengths := congrArg List.length kept
  rw [congrArg (List.filter Texts.isWhitespace) whole, List.filter_append,
    List.length_append, List.filter_eq_self.mpr allBlank] at lengths
  have empty : blank = [] := List.length_eq_zero_iff.mp (by omega)
  rw [empty, List.append_nil] at whole
  exact whole.symm

/-! ## Reading parts -/

/-- No source and no target that was read has a comma in it. -/
structure CommaFree (fields : Fields) : Prop where
  source : ∀ text, fields.source = some text → ',' ∉ text
  target : ∀ text, fields.target = some text → ',' ∉ text

theorem commaFree_noFields : CommaFree noFields where
  source := fun _ none => nomatch none
  target := fun _ none => nomatch none

section Parts

variable {fields next : Fields} {raw key value : Text}

theorem CommaFree.readField (commaFree : CommaFree fields)
    (whole : ',' ∉ value)
    (accepted : readField fields key value = .ok next) :
    CommaFree next := by
  rw [Mounts.readField] at accepted
  split at accepted
  · cases accepted
    exact ⟨commaFree.source, commaFree.target⟩
  · split at accepted
    · cases accepted
      refine ⟨?_, commaFree.target⟩
      intro text same
      rw [← Option.some.inj same]
      exact whole
    · split at accepted
      · cases accepted
        refine ⟨commaFree.source, ?_⟩
        intro text same
        rw [← Option.some.inj same]
        exact whole
      · split at accepted
        · cases accepted
          exact ⟨commaFree.source, commaFree.target⟩
        · cases accepted

theorem CommaFree.readPart (commaFree : CommaFree fields)
    (whole : ',' ∉ raw) (accepted : readPart fields raw = .ok next) :
    CommaFree next := by
  simp only [Mounts.readPart] at accepted
  split at accepted
  · cases accepted
    exact commaFree
  · split at accepted
    · cases accepted
      exact ⟨commaFree.source, commaFree.target⟩
    · split at accepted
      · cases accepted
      · rename_i key value splits
        refine commaFree.readField ?_ accepted
        intro member
        refine whole (mem_of_mem_trim ?_)
        rw [append_of_splitOnce splits]
        exact List.mem_append_right _ (List.mem_cons_of_mem _ member)

theorem CommaFree.foldlM {parts : List Text} (commaFree : CommaFree fields)
    (whole : ∀ part ∈ parts, ',' ∉ part)
    (accepted : parts.foldlM Mounts.readPart fields = .ok next) :
    CommaFree next := by
  induction parts generalizing fields with
  | nil =>
      rw [List.foldlM_nil, Outcome.pure_eq_ok_iff] at accepted
      exact accepted ▸ commaFree
  | cons part rest ih =>
      rw [List.foldlM_cons] at accepted
      obtain ⟨middle, first, later⟩ := Outcome.bind_eq_ok_iff.mp accepted
      have inside := List.forall_mem_cons.mp whole
      exact ih (commaFree.readPart inside.1 first) inside.2
        later

theorem readPart_field (first : Char) (rest : Text)
    (visible : Texts.isWhitespace first = false)
    (absent : '=' ∉ first :: rest) :
    readPart fields (first :: rest ++ '=' :: value) =
      readField fields (first :: rest)
        (value.rdropWhile Texts.isWhitespace) := by
  have trimmed : trim (first :: rest ++ '=' :: value) =
      first :: rest ++ '=' :: value.rdropWhile Texts.isWhitespace := by
    have cut := trim_append visible (by rfl : Texts.isWhitespace '=' = false)
      rest value
    rw [List.append_assoc, List.append_assoc] at cut
    exact cut
  have word : first :: rest ++ '=' :: value.rdropWhile Texts.isWhitespace ∉
      readOnlyWords := by
    intro member
    have inside : '=' ∈
        first :: rest ++ '=' :: value.rdropWhile Texts.isWhitespace :=
      List.mem_append_right _ List.mem_cons_self
    rw [readOnlyWords, List.mem_cons, List.mem_cons,
      List.mem_singleton] at member
    rcases member with same | same | same
    · rw [same] at inside
      revert inside
      decide
    · rw [same] at inside
      revert inside
      decide
    · rw [same] at inside
      revert inside
      decide
  have nonempty :
      first :: rest ++ '=' :: value.rdropWhile Texts.isWhitespace ≠ [] :=
    List.cons_ne_nil _ _
  simp only [readPart]
  rw [trimmed, if_neg nonempty, if_neg word, splitOnce_append absent]

end Parts

/-! ## Flags -/

def EndsVisibly (text : Text) : Prop :=
  ∀ last, text.getLast? = some last → Texts.isWhitespace last = false

theorem endsVisibly_iff {text : Text} :
    EndsVisibly text ↔ text.rdropWhile Texts.isWhitespace = text := by
  rw [List.rdropWhile_eq_self_iff]
  constructor
  · intro visible nonempty
    rw [visible _ (List.getLast?_eq_some_getLast nonempty)]
    exact Bool.false_ne_true
  · intro visible last found
    have nonempty : text ≠ [] := by
      rintro rfl
      cases found
    rw [List.getLast?_eq_some_getLast nonempty] at found
    rw [← Option.some.inj found]
    exact Bool.eq_false_iff.mpr (visible nonempty)

theorem visible_of_isNameCharacter {index : Nat} {character : Char}
    (accepted : isNameCharacter index character = true) :
    character ≠ ',' ∧ Texts.isWhitespace character = false := by
  simp only [isNameCharacter, Bool.or_eq_true, Bool.and_eq_true,
    decide_eq_true_eq] at accepted
  rcases accepted with alphanumeric | ⟨_, rfl | rfl⟩
  · have bounds : 48 ≤ character.toNat ∧ character.toNat ≤ 122 := by
      delta Char.isAlphanum Char.isAlpha Char.isUpper Char.isLower
        at alphanumeric
      simp only [Char.isDigit, Bool.or_eq_true, Bool.and_eq_true, decide_eq_true_eq,
        ge_iff_le, UInt32.le_iff_toNat_le] at alphanumeric
      simp at alphanumeric
      omega
    constructor
    · rintro rfl
      revert bounds
      decide
    · simp only [Texts.isWhitespace, Bool.or_eq_false_iff,
        Bool.and_eq_false_iff, decide_eq_false_iff_not, beq_eq_false_iff_ne]
      omega
  · exact ⟨by decide, rfl⟩
  · exact ⟨by decide, rfl⟩

theorem visible_of_validVolumeName {name : Text}
    (valid : validVolumeName name = true) :
    ∀ character ∈ name, character ≠ ',' ∧
      Texts.isWhitespace character = false := by
  intro character member
  rw [validVolumeName, Bool.and_eq_true] at valid
  obtain ⟨index, below, rfl⟩ := List.getElem_of_mem member
  have entry : (name[index], index) ∈ name.zipIdx :=
    List.mk_mem_zipIdx_iff_getElem?.mpr (List.getElem?_eq_getElem below)
  exact visible_of_isNameCharacter (List.all_eq_true.mp valid.2 _ entry)

section Flags

variable {mount : ResolvedMount}

def flagParts (mount : ResolvedMount) : List Text :=
  ["tag=".toList ++ mount.name, "source=".toList ++ mount.source,
    "target=".toList ++ mount.target] ++
    if mount.readOnly then ["ro".toList] else []

theorem mountFlag_eq (mount : ResolvedMount) :
    mountFlag mount = [','].intercalate (flagParts mount) := by
  have source : ",source=".toList = [','] ++ "source=".toList := by simp
  have target : ",target=".toList = [','] ++ "target=".toList := by simp
  have readOnly : ",ro".toList = [','] ++ "ro".toList := by simp
  delta mountFlag
  rw [flagParts, source, target, readOnly]
  generalize "tag=".toList = tagKey
  generalize "source=".toList = sourceKey
  generalize "target=".toList = targetKey
  generalize "ro".toList = readOnlyWord
  cases mount.readOnly with
  | false => simp [List.intercalate]
  | true => simp [List.intercalate]

theorem plain_of_validateResolvedMount
    (valid : validateResolvedMount mount.name mount.source mount.target =
      .ok ⟨⟩) :
    validVolumeName mount.name = true ∧ isAbsolute mount.target = true := by
  rw [validateResolvedMount] at valid
  split at valid
  · cases valid
  · split at valid
    · cases valid
    · rename_i named
      split at valid
      · cases valid
      · split at valid
        · cases valid
        · rename_i target
          rw [not_or] at target
          exact ⟨by simpa using named, by simpa using target.1⟩

theorem splitOn_mountFlag (named : ',' ∉ mount.name)
    (source : ',' ∉ mount.source) (target : ',' ∉ mount.target) :
    (mountFlag mount).splitOn ',' = flagParts mount := by
  rw [mountFlag_eq, List.splitOn_intercalate]
  · intro part member
    rw [flagParts] at member
    cases ro : mount.readOnly with
    | false =>
        simp only [ro, Bool.false_eq_true, if_false, List.append_nil,
          List.mem_cons, List.not_mem_nil, or_false] at member
        rcases member with rfl | rfl | rfl
        · simpa using named
        · simpa using source
        · simpa using target
    | true =>
        simp only [ro, if_true, List.cons_append, List.nil_append,
          List.mem_cons, List.not_mem_nil, or_false] at member
        rcases member with rfl | rfl | rfl | rfl
        · simpa using named
        · simpa using source
        · simpa using target
        · decide
  · exact List.cons_ne_nil _ _

theorem readPart_tag (fields : Fields) (value : Text) :
    readPart fields ("tag=".toList ++ value) =
      .ok { fields with
        name := some (value.rdropWhile Texts.isWhitespace) } :=
  readPart_field 't' ['a', 'g'] rfl (by decide)

theorem readPart_source (fields : Fields) (value : Text) :
    readPart fields ("source=".toList ++ value) =
      .ok { fields with
        source := some (value.rdropWhile Texts.isWhitespace) } :=
  readPart_field 's' ['o', 'u', 'r', 'c', 'e'] rfl (by decide)

theorem readPart_target (fields : Fields) (value : Text) :
    readPart fields ("target=".toList ++ value) =
      .ok { fields with
        target := some (value.rdropWhile Texts.isWhitespace) } :=
  readPart_field 't' ['a', 'r', 'g', 'e', 't'] rfl (by decide)

theorem foldlM_flagParts (mount : ResolvedMount) :
    (flagParts mount).foldlM readPart noFields =
      .ok ⟨some (mount.name.rdropWhile Texts.isWhitespace),
        some (mount.source.rdropWhile Texts.isWhitespace),
        some (mount.target.rdropWhile Texts.isWhitespace),
        mount.readOnly⟩ := by
  have last (fields : Fields) :
      readPart fields "ro".toList = .ok { fields with readOnly := true } :=
    rfl
  rw [flagParts]
  cases mount.readOnly with
  | false =>
      rw [if_neg Bool.false_ne_true, List.append_nil]
      simp only [List.foldlM_cons, List.foldlM_nil, readPart_tag,
        readPart_source, readPart_target]
      rfl
  | true =>
      rw [if_pos rfl]
      simp only [List.cons_append, List.nil_append, List.foldlM_cons,
        List.foldlM_nil, readPart_tag, readPart_source, readPart_target]
      rfl

/-! ## The round trip -/

/-- A result is the mount. -/
def Returns (outcome : Except MountError ResolvedMount)
    (mount : ResolvedMount) : Prop :=
  ∃ parsed, outcome = .ok parsed ∧ parsed.Same mount

/-- Source and target have no comma and no white space behind them. -/
structure Separable (mount : ResolvedMount) : Prop where
  source : ',' ∉ mount.source
  target : ',' ∉ mount.target
  sourceEnd : EndsVisibly mount.source
  targetEnd : EndsVisibly mount.target

/-- A flag without commas in its values is read as them, less the white space
behind. -/
theorem parseMountFlag_mountFlag {directories : Directories}
    (named : validVolumeName mount.name = true)
    (source : ',' ∉ mount.source) (target : ',' ∉ mount.target) :
    parseMountFlag directories (mountFlag mount) =
      resolveFields directories
        ⟨some mount.name,
          some (mount.source.rdropWhile Texts.isWhitespace),
          some (mount.target.rdropWhile Texts.isWhitespace),
          mount.readOnly⟩ := by
  have visible := visible_of_validVolumeName named
  have plain : ',' ∉ mount.name := fun member =>
    (visible ',' member).1 rfl
  have ending : EndsVisibly mount.name := fun last found =>
    (visible last (List.mem_of_getLast? found)).2
  rw [parseMountFlag, splitOn_mountFlag plain source target,
    foldlM_flagParts, endsVisibly_iff.mp ending]
  rfl

theorem of_resolveFields {directories : Directories} {fields : Fields}
    {parsed : ResolvedMount} (homeless : directories.currentDir = none)
    (resolved : resolveFields directories fields = .ok parsed) :
    fields.source = some parsed.source ∧
      fields.target = some parsed.target := by
  rw [resolveFields] at resolved
  obtain ⟨source, sourceRead, resolved⟩ := Outcome.bind_eq_ok_iff.mp resolved
  obtain ⟨target, targetRead, resolved⟩ := Outcome.bind_eq_ok_iff.mp resolved
  obtain ⟨_, _, resolved⟩ := Outcome.bind_eq_ok_iff.mp resolved
  obtain ⟨_, _, resolved⟩ := Outcome.bind_eq_ok_iff.mp resolved
  obtain ⟨absolute, located, resolved⟩ := Outcome.bind_eq_ok_iff.mp resolved
  have same : absolute = source := by
    rw [absoluteSource, homeless] at located
    split at located
    · exact (Except.ok.inj located).symm
    · cases located
  split at resolved
  · rw [← Except.ok.inj resolved]
    constructor
    · cases held : fields.source with
      | none =>
          rw [held] at sourceRead
          cases sourceRead
      | some text =>
          rw [held] at sourceRead
          rw [same, ← Except.ok.inj sourceRead]
    · cases held : fields.target with
      | none =>
          rw [held] at targetRead
          cases targetRead
      | some text =>
          rw [held] at targetRead
          rw [← Except.ok.inj targetRead]
  · cases resolved

theorem commaFree_of_parseMountFlag {directories : Directories} {raw : Text}
    {parsed : ResolvedMount} (homeless : directories.currentDir = none)
    (accepted : parseMountFlag directories raw = .ok parsed) :
    ',' ∉ parsed.source ∧ ',' ∉ parsed.target := by
  rw [parseMountFlag] at accepted
  obtain ⟨fields, read, resolved⟩ := Outcome.bind_eq_ok_iff.mp accepted
  have commaFree : CommaFree fields :=
    CommaFree.foldlM commaFree_noFields
      (fun part member => Splitting.not_mem_of_mem_splitOn member) read
  have held := of_resolveFields homeless resolved
  exact ⟨commaFree.source _ held.1, commaFree.target _ held.2⟩

theorem parseMountFlag_of_separable {directories : Directories}
    (valid : validateResolvedMount mount.name mount.source mount.target =
      .ok ⟨⟩)
    (absolute : isAbsolute mount.source = true)
    (present : directories.isDir mount.source = true)
    (separable : Separable mount) :
    parseMountFlag directories (mountFlag mount) = .ok mount := by
  have plain := plain_of_validateResolvedMount valid
  rw [parseMountFlag_mountFlag plain.1 separable.source separable.target,
    endsVisibly_iff.mp separable.sourceEnd,
    endsVisibly_iff.mp separable.targetEnd, resolveFields]
  simp only [Option.elim, bind, Except.bind, valid, absoluteSource, absolute,
    present, if_true]

theorem separable_of_returns {directories : Directories}
    (valid : validateResolvedMount mount.name mount.source mount.target =
      .ok ⟨⟩)
    (homeless : directories.currentDir = none)
    (returns : Returns (parseMountFlag directories (mountFlag mount))
      mount) :
    Separable mount := by
  obtain ⟨parsed, accepted, same⟩ := returns
  have commaFree := commaFree_of_parseMountFlag homeless accepted
  have source : ',' ∉ mount.source := fun member =>
    commaFree.1 (same.source.comma_mem member)
  have target : ',' ∉ mount.target := same.target ▸ commaFree.2
  have plain := plain_of_validateResolvedMount valid
  rw [parseMountFlag_mountFlag plain.1 source target] at accepted
  have held := of_resolveFields homeless accepted
  have ofSource := Option.some.inj held.1
  have ofTarget := Option.some.inj held.2
  have samePath : SamePath (mount.source.rdropWhile Texts.isWhitespace)
      mount.source := ofSource ▸ same.source
  exact ⟨source, target, endsVisibly_iff.mpr samePath.rdropWhile_eq,
    endsVisibly_iff.mpr (ofTarget.trans same.target)⟩

end Flags

/-- Directories with another current one. -/
def Directories.at (directories : Directories) (currentDir : Option Text) :
    Directories :=
  { directories with currentDir := currentDir }

theorem mountFlag_returns_iff (directories : Directories)
    {mount : ResolvedMount}
    (valid : validateResolvedMount mount.name mount.source mount.target =
      .ok ⟨⟩)
    (absolute : isAbsolute mount.source = true)
    (present : directories.isDir mount.source = true) :
    (∀ currentDir, Returns
      (parseMountFlag (directories.at currentDir) (mountFlag mount))
      mount) ↔ Separable mount := by
  constructor
  · intro returns
    exact separable_of_returns valid rfl (returns none)
  · intro separable currentDir
    exact ⟨mount, parseMountFlag_of_separable valid absolute present
      separable, rfl, SamePath.refl _, rfl, rfl⟩

theorem of_dockerProjectMountFlag {directories : Directories}
    {projectDir path flag : Text}
    (located : absoluteProjectDir directories projectDir = .ok path)
    (written : dockerProjectMountFlag directories projectDir = .ok flag) :
    flag = mountFlag (projectMount path) ∧ isAbsolute path = true ∧
      validateResolvedMount dockerProjectMountTag path path = .ok ⟨⟩ := by
  rw [dockerProjectMountFlag, located] at written
  simp only [bind, Except.bind] at written
  split at written
  · cases written
  · rename_i usable
    rw [not_or] at usable
    split at written
    · cases written
    · rename_i valid
      exact ⟨(Except.ok.inj written).symm, by simpa using usable.1, valid⟩

/-- Wherever `vzctl` runs, a flag gives back its mount exactly when source and
target can be separated; this goes for the flag of a project directory too. -/
theorem mountFlags_return_iff (directories : Directories) :
    (∀ mount : ResolvedMount,
      validateResolvedMount mount.name mount.source mount.target =
        .ok ⟨⟩ →
      isAbsolute mount.source = true →
      directories.isDir mount.source = true →
      ((∀ currentDir, Returns
        (parseMountFlag (directories.at currentDir) (mountFlag mount))
        mount) ↔ Separable mount)) ∧
    ∀ projectDir path flag,
      absoluteProjectDir directories projectDir = .ok path →
      directories.isDir path = true →
      dockerProjectMountFlag directories projectDir = .ok flag →
      ((∀ currentDir, Returns
        (parseMountFlag (directories.at currentDir) flag)
        (projectMount path)) ↔ Separable (projectMount path)) := by
  constructor
  · intro mount valid absolute present
    exact mountFlag_returns_iff directories valid absolute present
  · intro projectDir path flag located present written
    obtain ⟨rfl, absolute, valid⟩ :=
      of_dockerProjectMountFlag located written
    exact mountFlag_returns_iff directories valid absolute present

/-! ## Samples -/

def sampleDirectories : Directories where
  currentDir := some "/srv".toList
  isDir := fun path =>
    path = "/srv/lab".toList || path = "/srv/a,b".toList ||
      path = "/srv/a ".toList || path = "/srv/a".toList
  canonicalize := some

theorem mountFlags_return_lab :
    ((∀ currentDir, Returns
      (parseMountFlag (sampleDirectories.at currentDir)
        (mountFlag ⟨"web".toList, "/srv/lab".toList, "/data".toList, true⟩))
      ⟨"web".toList, "/srv/lab".toList, "/data".toList, true⟩) ↔
      Separable
        ⟨"web".toList, "/srv/lab".toList, "/data".toList, true⟩) ∧
    ((∀ currentDir, Returns
      (parseMountFlag (sampleDirectories.at currentDir)
        (mountFlag (projectMount "/srv/lab".toList)))
      (projectMount "/srv/lab".toList)) ↔
      Separable (projectMount "/srv/lab".toList)) :=
  ⟨(mountFlags_return_iff sampleDirectories).1 _ (by decide) (by decide)
      (by decide),
    (mountFlags_return_iff sampleDirectories).2 "/srv/lab".toList _ _
      (by decide) (by decide) (by decide)⟩

/-- A comma in the path of a project breaks its flag, and white space behind
the path shares another directory. -/
theorem projectFlags_do_not_return :
    (dockerProjectMountFlag sampleDirectories "/srv/a,b".toList =
        .ok (mountFlag (projectMount "/srv/a,b".toList)) ∧
      parseMountFlag sampleDirectories
          (mountFlag (projectMount "/srv/a,b".toList)) =
        .error (.fragment "b".toList)) ∧
    dockerProjectMountFlag sampleDirectories "/srv/a ".toList =
        .ok (mountFlag (projectMount "/srv/a ".toList)) ∧
      parseMountFlag sampleDirectories
          (mountFlag (projectMount "/srv/a ".toList)) =
        .ok (projectMount "/srv/a".toList) := by
  decide

end Mounts

end Vzctl
