import Vzctl.Kubernetes.ResolverRollout

/-!
# A rollout writes one annotation at most once

The one patch of a rollout follows the checks of the Deployment that was read,
tests that the Deployment is still that one, and adds the marker to its
annotations.  A Deployment with the marker is not patched again.
-/

namespace Vzctl

namespace ResolverRollout

open Dialogue JSONPatch

variable {library : Library} {project cluster wanted : String}
  {upstream : Option String}

/-! ## What a run has seen -/

/-- The calls of a run with their replies, the last one first. -/
abbrev Calls := History Unit Kubectl (Except String String)

abbrev Call := Exchange Unit Kubectl (Except String String)

/-- Any reply to any call. -/
def anyReply : Condition Unit Kubectl (Except String String) :=
  fun _ _ => True

/-- The reply to a read is the text of an object. -/
def Reads (library : Library) (kubectl : Kubectl) (object : JSONValue)
    (call : Call) : Prop :=
  call.command = kubectl ∧
    ∃ raw, call.reply = .ok raw ∧ library.fromStr raw = some object

def Patches (call : Call) : Prop := call.command.patches = true

/-- A marker that is there was written for the cluster: behind the start of
its markers stand 64 hexadecimal digits. -/
def OwnMarker (library : Library) (project cluster : String)
    (deployment : JSONValue) : Prop :=
  ∀ old, (annotations deployment).field? annotation = some old →
    ∃ digits, old = .string (markerPrefix library project cluster ++
        String.ofList digits) ∧
      digits.length = 64 ∧ digits.all isHexDigit = true

/-- The Deployment was read, it is that of the Addon, and its marker is not
that of another cluster. -/
def Verified (library : Library) (project cluster : String) (past : Calls)
    (deployment : JSONValue) : Prop :=
  Had past (Reads library getDeployment deployment) ∧
    (∃ addon, Had past (Reads library getAddon addon) ∧
      identity addon deployment = .ok ()) ∧
    OwnMarker library project cluster deployment

/-- The Deployment that was read last. -/
def lastDeployment (library : Library) : Calls → Option JSONValue
  | [] => none
  | call :: past =>
      if call.command = getDeployment then
        match call.reply with
        | .ok raw =>
            if Texts.blank raw then none else library.fromStr raw
        | .error _ => none
      else
        lastDeployment library past

/-- A rollout has nothing to write. -/
def Settled (wanted : String) (upstream : Option String)
    (deployment : JSONValue) : Prop :=
  (annotations deployment).field? annotation = some (.string wanted) ∨
    upstream = none ∧ (annotations deployment).field? annotation = none

/-- A patch is the first one, and the marker is added to a Deployment that was
verified and does not have it. -/
def writesOnce (library : Library) (project cluster wanted : String)
    (upstream : Option String) :
    Condition Unit Kubectl (Except String String) :=
  fun past call => Patches call →
    ¬ Had past Patches ∧
      ∃ deployment,
        call.command = patchDeployment (markerPatch deployment wanted) ∧
        Verified library project cluster past deployment ∧
        ¬ Settled wanted upstream deployment

/-- Where a rollout ends well, there is nothing left to write. -/
def SettlesLast (library : Library) (wanted : String)
    (upstream : Option String) (outcome : Except String Unit)
    (history : Calls) : Prop :=
  outcome = .ok () → ∀ deployment,
    lastDeployment library history = some deployment →
      Settled wanted upstream deployment

/-- A part of a rollout that may come after some calls. -/
abbrev Keeps {α : Type} (library : Library)
    (project cluster wanted : String) (upstream : Option String)
    (post : Except String α → Calls → Prop) (program : Rollout α)
    (past : Calls) : Prop :=
  Meets anyReply (writesOnce library project cluster wanted upstream) post
    program past

/-! ## Parts of a rollout -/

section Parts

variable {past : Calls} {α : Type} {post : Except String α → Calls → Prop}

theorem not_had_cons {call : Call} (nothing : ¬ Had past Patches)
    (quiet : call.command.patches = false) :
    ¬ Had (call :: past) Patches := by
  rintro ⟨found, member, isPatch⟩
  rcases List.mem_cons.mp member with rfl | earlier
  · rw [Patches, quiet] at isPatch
    cases isPatch
  · exact nothing ⟨found, earlier, isPatch⟩

theorem writesOnce_of_quiet {call : Call}
    (quiet : call.command.patches = false) :
    writesOnce library project cluster wanted upstream past call := by
  intro isPatch
  rw [Patches, quiet] at isPatch
  cases isPatch

variable (fails : ∀ failure history, post (.error failure) history)

include fails

theorem keeps_kubectl {command : Kubectl} {next : String → Rollout α}
    (quiet : command.patches = false)
    (succeeds : ∀ call : Call, call.command = command → ∀ raw,
      call.reply = .ok raw →
        Keeps library project cluster wanted upstream post (next raw) (call :: past)) :
    Keeps library project cluster wanted upstream post (kubectl command >>= next) past := by
  apply meets_request_bind
  · intro call _ asked
    rw [← asked] at quiet
    exact writesOnce_of_quiet quiet
  · intro call _ asked raw replied
    exact succeeds call asked raw replied
  · intro call _ _ failure _
    exact fails failure _

theorem keeps_parse {raw : String} {next : JSONValue → Rollout α}
    (succeeds : ∀ value, library.fromStr raw = some value →
      Keeps library project cluster wanted upstream post (next value) past) :
    Keeps library project cluster wanted upstream post
      (.lift (parse library raw) >>= next) past := by
  apply meets_lift_bind
  · intro value parsed
    apply succeeds value
    rw [parse] at parsed
    split at parsed
    · rename_i found isFound
      rw [isFound, Except.ok.inj parsed]
    · cases parsed
  · intro failure
    exact fails failure past

theorem keeps_check {check : Except String Unit} {next : Unit → Rollout α}
    (succeeds : check = .ok () →
      Keeps library project cluster wanted upstream post (next ()) past) :
    Keeps library project cluster wanted upstream post (.lift check >>= next) past := by
  apply meets_lift_bind
  · intro _ passed
    exact succeeds passed
  · intro failure
    exact fails failure past

theorem keeps_readAddon {next : JSONValue → Rollout α}
    (succeeds : ∀ call addon, Reads library getAddon addon call →
      Keeps library project cluster wanted upstream post (next addon) (call :: past)) :
    Keeps library project cluster wanted upstream post (readAddon library >>= next)
      past := by
  apply Meets.bind
  apply meets_request_bind
  · intro call _ asked
    apply writesOnce_of_quiet
    rw [asked]
    rfl
  · intro call _ asked raw replied
    rcases parsed : library.fromStr raw with _ | addon
    · rw [parse, parsed]
      exact fails _ _
    · rw [parse, parsed]
      exact succeeds call addon ⟨asked, raw, replied, parsed⟩
  · intro call _ _ failure _
    exact fails failure _

end Parts

theorem utf8Size_of_isHexDigit {character : Char}
    (hexadecimal : isHexDigit character = true) : character.utf8Size = 1 := by
  rw [isHexDigit] at hexadecimal
  simp only [Bool.or_eq_true, Bool.and_eq_true, decide_eq_true_eq,
    Char.isDigit, Char.le_def, UInt32.le_iff_toNat_le] at hexadecimal
  rw [Char.utf8Size_eq_one_iff, UInt32.le_iff_toNat_le]
  rcases hexadecimal with (⟨_, small⟩ | ⟨_, small⟩) | ⟨_, small⟩
  · exact small.trans (by decide)
  · exact small.trans (by decide)
  · exact small.trans (by decide)

theorem keeps_writeMarker {addon deployment : JSONValue} {past : Calls}
    {post : Except String Unit → Calls → Prop}
    (always : ∀ outcome history, post outcome history)
    (nothing : ¬ Had past Patches)
    (isRead : Had past (Reads library getDeployment deployment))
    (isOwn : OwnMarker library project cluster deployment)
    (unsettled : ¬ Settled wanted upstream deployment) :
    Keeps library project cluster wanted upstream post
      (writeMarker library wanted addon deployment) past := by
  have fails : ∀ failure history, post (.error failure) history := by
    intro failure history
    exact always _ history
  rw [writeMarker]
  apply keeps_readAddon fails
  intro call fresh addonRead
  split
  · exact always _ _
  · apply keeps_check fails
    intro identified
    apply meets_request_bind
    · intro patch _ asked isPatch
      have verified : Verified library project cluster (call :: past)
          deployment :=
        ⟨isRead.earlier call, ⟨fresh, .last addonRead past, identified⟩,
          isOwn⟩
      refine ⟨?_, deployment, asked, verified, unsettled⟩
      apply not_had_cons nothing
      rw [addonRead.1]
      rfl
    · intro patch _ _ raw _
      exact always _ _
    · intro patch _ _ failure _
      exact always _ _

theorem ownMarker_of_check {deployment : JSONValue}
    (passed : checkMarker library project cluster
      ((annotations deployment).field? annotation) = .ok ()) :
    OwnMarker library project cluster deployment := by
  intro old found
  rw [found] at passed
  cases old with
  | string old =>
      rw [checkMarker] at passed
      split at passed
      · cases passed
      · rename_i own
        rw [not_or, not_or, not_not, not_not, Bool.not_eq_false] at own
        obtain ⟨⟨digits, same⟩, size, hexadecimal⟩ := own
        rw [← same, List.drop_left] at hexadecimal
        have text : old = markerPrefix library project cluster ++
            String.ofList digits := by
          rw [← String.toList_inj, String.toList_append,
            String.toList_ofList, same]
        refine ⟨digits, congrArg JSONValue.string text, ?_, hexadecimal⟩
        have single : ∀ character ∈ digits, character.utf8Size = 1 := by
          intro character member
          exact utf8Size_of_isHexDigit
            (List.all_eq_true.mp hexadecimal character member)
        have length : (String.ofList digits).utf8ByteSize =
            digits.length := by
          rw [← Texts.size_utf8Encode single, ← String.toByteArray_ofList,
            String.size_toByteArray]
        rw [text, String.utf8ByteSize_append, length] at size
        omega
  | _ => cases passed

theorem settlesLast_error (failure : String) (history : Calls) :
    SettlesLast library wanted upstream (.error failure) history := by
  intro impossible
  cases impossible

theorem field?_of_index {value : JSONValue} {key text : String}
    (found : value.index key = .string text) :
    value.field? key = some (.string text) := by
  rw [JSONValue.index] at found
  rcases member : value.field? key with _ | held
  · rw [member] at found
    cases found
  · rw [member, Option.getD_some] at found
    rw [found]

theorem keeps_confirm {addon deployment : JSONValue} (past : Calls) :
    Keeps library project cluster wanted upstream (SettlesLast library wanted upstream)
      (confirm library wanted addon deployment) past := by
  rw [confirm]
  apply keeps_kubectl settlesLast_error rfl
  intro status _ _ _
  apply keeps_kubectl settlesLast_error rfl
  intro reread asked raw replied
  apply keeps_parse settlesLast_error
  intro after parsed
  apply keeps_readAddon settlesLast_error
  intro call afterAddon addonRead
  apply keeps_check settlesLast_error
  intro _
  split
  · exact settlesLast_error _ _
  · rename_i unchanged
    rw [not_or, not_or, not_not] at unchanged
    intro _ last isLast
    rw [lastDeployment, if_neg (by rw [addonRead.1]; decide), lastDeployment,
      if_pos asked, replied] at isLast
    simp only [] at isLast
    split at isLast
    · cases isLast
    · rw [parsed] at isLast
      cases isLast
      exact .inl (field?_of_index (not_not.mp unchanged.2.2))

theorem keeps_rolloutDeployment {past : Calls} {deployment : JSONValue}
    (nothing : ¬ Had past Patches)
    (isRead : Had past (Reads library getDeployment deployment))
    (isLast : ∀ last, lastDeployment library past = some last →
      last = deployment)
    (isWanted : wanted = marker library project cluster upstream) :
    Keeps library project cluster wanted upstream (SettlesLast library wanted upstream)
      (rolloutDeployment library project cluster upstream deployment)
      past := by
  rw [rolloutDeployment]
  simp only []
  split
  · rename_i unmarked
    intro _ last found
    rw [isLast last found]
    exact .inr ⟨Option.isNone_iff_eq_none.mp unmarked.1,
      Option.isNone_iff_eq_none.mp unmarked.2⟩
  · rename_i needed
    apply keeps_check settlesLast_error
    intro checked
    apply keeps_readAddon settlesLast_error
    intro call addon addonRead
    apply keeps_check settlesLast_error
    intro _
    rw [← isWanted]
    split
    · rename_i differs
      apply Meets.bind
      apply keeps_writeMarker
      · intro outcome history
        cases outcome with
        | ok value => exact keeps_confirm history
        | error failure => exact settlesLast_error failure history
      · apply not_had_cons nothing
        rw [addonRead.1]
        rfl
      · exact isRead.earlier call
      · exact ownMarker_of_check checked
      · rintro (marked | ⟨disabled, unmarked⟩)
        · rw [marked] at differs
          exact differs rfl
        · exact needed ⟨Option.isNone_iff_eq_none.mpr disabled,
            Option.isNone_iff_eq_none.mpr unmarked⟩
    · exact keeps_confirm _

theorem keeps_found {past : Calls} {call : Call} {raw : String}
    (nothing : ¬ Had past Patches) (asked : call.command = getDeployment)
    (replied : call.reply = .ok raw)
    (isWanted : wanted = marker library project cluster upstream) :
    Keeps library project cluster wanted upstream (SettlesLast library wanted upstream)
      (Dialogue.lift (parse library raw) >>= fun deployment =>
        rolloutDeployment library project cluster upstream deployment)
      (call :: past) := by
  apply keeps_parse settlesLast_error
  intro deployment parsed
  apply keeps_rolloutDeployment
  · apply not_had_cons nothing
    rw [asked]
    rfl
  · exact .last ⟨asked, raw, replied, parsed⟩ past
  · intro last found
    rw [lastDeployment, if_pos asked, replied] at found
    simp only [] at found
    split at found
    · cases found
    · rw [parsed] at found
      exact (Option.some.inj found).symm
  · exact isWanted

theorem keeps_rollout
    (isWanted : wanted = marker library project cluster upstream) :
    Keeps library project cluster wanted upstream (SettlesLast library wanted upstream)
      (rollout library project cluster upstream) [] := by
  have nothing : ¬ Had ([] : Calls) Patches := by
    rintro ⟨_, impossible, _⟩
    cases impossible
  rw [rollout]
  apply Meets.bind
  rw [findDeployment]
  have fails : ∀ failure history,
      SettlesLast library wanted upstream (.error failure) history :=
    settlesLast_error
  apply keeps_kubectl (by exact fails) (by rfl)
  intro first asked raw replied
  split
  · rename_i isBlank
    split
    · intro _ last found
      rw [lastDeployment, if_pos asked, replied] at found
      simp [isBlank] at found
    · apply keeps_kubectl (by exact fails) (by rfl)
      intro wait waited _ _
      apply keeps_kubectl (by exact fails) (by rfl)
      intro second askedAgain raw repliedAgain
      apply keeps_found _ askedAgain repliedAgain isWanted
      apply not_had_cons
      · apply not_had_cons nothing
        rw [asked]
        rfl
      · rw [waited]
        rfl
  · exact keeps_found nothing asked replied isWanted

/-! ## What a patch does -/

/-- A patch that is accepted meets the version of the object that was read,
adds the marker, and leaves the rest alone. -/
structure Marks (wanted : String) (deployment current changed : JSONValue) :
    Prop where
  uid : valueAt ["metadata", "uid"] current =
    some (metadata deployment "uid")
  resourceVersion : valueAt ["metadata", "resourceVersion"] current =
    some (metadata deployment "resourceVersion")
  /-- The other annotations are those that were read. -/
  marked : ∃ fields,
    valueAt ["spec", "template", "metadata", "annotations"] changed =
      some (.object fields) ∧
    ∀ key, fields.lookup key =
      if key = annotation then some (.string wanted)
      else (annotations deployment).field? key
  others : ∀ path,
    Apart ["spec", "template", "metadata", "annotations"] path →
      valueAt path changed = valueAt path current

theorem eq_of_test {path : String} {tokens : List String}
    {value document changed : JSONValue}
    (pointer : pointerTokens path = some tokens)
    (passed : (Operation.test path value).apply document = some changed) :
    document = changed ∧ valueAt tokens document = some value := by
  rw [Operation.apply, PatchOperation.apply, pointer] at passed
  simp only [Option.bind_eq_bind, Option.bind_some,
    Option.bind_eq_some_iff] at passed
  obtain ⟨found, isFound, passed⟩ := passed
  split at passed
  · rename_i same
    rw [← same]
    exact ⟨Option.some.inj passed, isFound⟩
  · cases passed

theorem lookup_asObject? (value : JSONValue) (key : String) :
    (value.asObject?.getD []).lookup key = value.field? key := by
  cases value with
  | object fields => rfl
  | null => rfl
  | bool flag => rfl
  | number number => rfl
  | string text => rfl
  | array items => rfl

theorem marks_of_patch {deployment current changed : JSONValue}
    (accepted : applyOperations (markerPatch deployment wanted) current =
      some changed) :
    Marks wanted deployment current changed := by
  have tokens : pointerTokens "/spec/template/metadata/annotations" =
      some ["spec", "template", "metadata", "annotations"] := by
    decide
  have uidTokens : pointerTokens "/metadata/uid" =
      some ["metadata", "uid"] := by
    decide
  have versionTokens : pointerTokens "/metadata/resourceVersion" =
      some ["metadata", "resourceVersion"] := by
    decide
  have named : ∀ token ∈ ["spec", "template", "metadata", "annotations"],
      Named token := by
    decide
  rw [applyOperations, markerPatch] at accepted
  simp only [List.foldlM_cons, List.foldlM_nil, Option.bind_eq_bind,
    Option.bind_eq_some_iff] at accepted
  obtain ⟨_, uidTested, _, versionTested, _, added, same⟩ := accepted
  obtain ⟨rfl, uid⟩ := eq_of_test uidTokens uidTested
  obtain ⟨rfl, resourceVersion⟩ := eq_of_test versionTokens versionTested
  cases same
  rw [Operation.apply, tokens] at added
  refine ⟨uid, resourceVersion, ⟨_, valueAt_addAt named added, ?_⟩, ?_⟩
  · intro key
    rw [KeyedList.lookup_insertKey]
    split
    · rfl
    · rw [lookup_asObject?]
  · intro path apart
    exact valueAt_addAt_of_apart named added apart

/-! ## Runs -/

/-- Every Deployment that is read has the marker that an object has. -/
def serving (library : Library) (object : JSONValue) :
    Condition Unit Kubectl (Except String String) :=
  fun _ call => ∀ deployment, Reads library getDeployment deployment call →
    (annotations deployment).field? annotation =
      (annotations object).field? annotation

theorem not_had_of_settled {object : JSONValue} {history : Calls}
    {ending : Option (Except String Unit)}
    (settled : Settled (marker library project cluster upstream) upstream
      object)
    (run : Runs (serving library object)
      (rollout library project cluster upstream) [] history ending) :
    ¬ Had history Patches := by
  rintro ⟨call, member, isPatch⟩
  obtain ⟨later, past, rfl⟩ := List.append_of_mem member
  have served := run.throughout trivial
  have anyRun : Runs anyReply (rollout library project cluster upstream) [] _
      ending :=
    run.mono fun _ _ _ => trivial
  have kept := (anyRun.of_meets (keeps_rollout rfl) trivial).1
  obtain ⟨_, deployment, _, verified, unsettled⟩ :=
    (kept.of_suffix (List.suffix_append later _)).1 isPatch
  obtain ⟨read, readMember, isRead⟩ := verified.1
  obtain ⟨between, before, rfl⟩ := List.append_of_mem readMember
  have inside : read :: before <:+
      later ++ call :: (between ++ read :: before) :=
    ⟨later ++ call :: between, by simp⟩
  have same := (served.of_suffix inside).1 deployment isRead
  rw [Settled, same] at unsettled
  exact unsettled settled

theorem length_patches_le {history : Calls}
    (kept : Throughout (writesOnce library project cluster wanted upstream) history) :
    (history.filter fun call => call.command.patches).length ≤ 1 := by
  induction history with
  | nil => exact Nat.zero_le 1
  | cons call past ih =>
      rw [List.filter_cons]
      split
      · rename_i isPatch
        obtain ⟨nothing, _⟩ := kept.1 isPatch
        have quiet : past.filter (fun call => call.command.patches) = [] := by
          rw [List.filter_eq_nil_iff]
          intro earlier member isPatch
          exact nothing ⟨earlier, member, isPatch⟩
        rw [quiet, List.length_singleton]
      · exact ih kept.2

theorem valueAt_index {token : String} {tokens : List String}
    {document value : JSONValue} (named : Named token)
    (found : valueAt (token :: tokens) document = some value) :
    valueAt tokens (document.index token) = some value := by
  rw [valueAt_cons, Option.bind_eq_some_iff] at found
  obtain ⟨child, isChild, found⟩ := found
  obtain ⟨fields, rfl, inside⟩ := object_of_child? named isChild
  rw [JSONValue.index, JSONValue.field?, inside]
  exact found

theorem settled_of_marks {deployment current changed : JSONValue}
    (marks : Marks wanted deployment current changed) :
    Settled wanted upstream changed := by
  obtain ⟨fields, found, lookups⟩ := marks.marked
  have isObject : annotations changed = .object fields := by
    have spec := valueAt_index (by decide) found
    have template := valueAt_index (by decide) spec
    have pods := valueAt_index (by decide) template
    exact Option.some.inj (valueAt_index (by decide) pods)
  left
  rw [isObject, JSONValue.field?, lookups, if_pos rfl]

/-- Whatever the API replies, a rollout sends at most one patch, it verifies
the Deployment and its marker first, and the patch only sets the marker of that
Deployment; the next rollout sends none. -/
theorem rollout_writesOnce {history : Calls}
    {ending : Option (Except String Unit)}
    (run : Runs anyReply (rollout library project cluster upstream) []
      history ending) :
    (history.filter fun call => call.command.patches).length ≤ 1 ∧
    (∀ later call past, history = later ++ call :: past → Patches call →
      ∃ deployment,
        Verified library project cluster past deployment ∧
        ∀ current changed,
          applyOperations call.command.input current = some changed →
          Marks (marker library project cluster upstream) deployment current
              changed ∧
            ∀ next nextEnding, Runs (serving library changed)
              (rollout library project cluster upstream) [] next
                nextEnding → ¬ Had next Patches) ∧
    (ending = some (.ok ()) → ∀ deployment,
      lastDeployment library history = some deployment →
        ∀ next nextEnding, Runs (serving library deployment)
          (rollout library project cluster upstream) [] next nextEnding →
            ¬ Had next Patches) := by
  obtain ⟨kept, ends⟩ := run.of_meets (keeps_rollout rfl) trivial
  refine ⟨length_patches_le kept, ?_, ?_⟩
  · rintro later call past rfl isPatch
    obtain ⟨_, deployment, command, verified, _⟩ :=
      (kept.of_suffix (List.suffix_append later _)).1 isPatch
    refine ⟨deployment, verified, ?_⟩
    intro current changed accepted
    rw [command] at accepted
    have marks := marks_of_patch accepted
    refine ⟨marks, ?_⟩
    intro next nextEnding nextRun
    exact not_had_of_settled (settled_of_marks marks) nextRun
  · intro ended deployment last next nextEnding nextRun
    exact not_had_of_settled (ends _ ended rfl deployment last) nextRun

/-! ## A first rollout -/

def sampleAddon : JSONValue :=
  .object [("apiVersion", .string "k3s.cattle.io/v1"),
    ("kind", .string "Addon"),
    ("metadata", .object [("name", .string "coredns"),
      ("namespace", .string "kube-system"),
      ("resourceVersion", .string "1"), ("uid", .string "addon-1")]),
    ("spec", .object [("source",
      .string "/var/lib/rancher/k3s/server/manifests/coredns.yaml")])]

def sampleDeployment : JSONValue :=
  .object [("apiVersion", .string "apps/v1"),
    ("kind", .string "Deployment"),
    ("metadata", .object [
      ("annotations", .object [
        ("objectset.rio.cattle.io/owner-gvk",
          .string "k3s.cattle.io/v1, Kind=Addon"),
        ("objectset.rio.cattle.io/owner-name", .string "coredns"),
        ("objectset.rio.cattle.io/owner-namespace",
          .string "kube-system")]),
      ("labels", .object [("k8s-app", .string "kube-dns"),
        ("kubernetes.io/name", .string "CoreDNS")]),
      ("name", .string "coredns"), ("namespace", .string "kube-system"),
      ("resourceVersion", .string "1"), ("uid", .string "deployment-1")]),
    ("spec", .object [("template", .object [
      ("metadata", .object [
        ("annotations", .object [("other", .string "preserved")])]),
      ("spec", .object [
        ("containers", .array [.object [("name", .string "coredns")]]),
        ("dnsPolicy", .string "Default"),
        ("serviceAccountName", .string "coredns")])])])]

def sampleLibrary : Library where
  fromStr raw :=
    if raw = "addon" then some sampleAddon
    else if raw = "deployment" then some sampleDeployment
    else none
  sha256 _ := Vector.replicate 32 0

def sampleCall (command : Kubectl) (reply : String) : Call :=
  ⟨(), command, .ok reply, ()⟩

def sampleReads : Calls :=
  [sampleCall getAddon "addon", sampleCall getAddon "addon",
    sampleCall getDeployment "deployment"]

def samplePatch : Call :=
  sampleCall (patchDeployment (markerPatch sampleDeployment
    (marker sampleLibrary "project" "dev" (some "10.90.0.0")))) "patched"

theorem rollout_writesOnce_sample :
    ∃ deployment, Verified sampleLibrary "project" "dev" sampleReads
      deployment := by
  have run : Runs anyReply
      (rollout sampleLibrary "project" "dev" (some "10.90.0.0")) []
      (samplePatch :: sampleReads) none :=
    .ask (sampleCall getDeployment "deployment") trivial <|
      .ask (sampleCall getAddon "addon") trivial <|
        .ask (sampleCall getAddon "addon") trivial <|
          .ask samplePatch trivial .stopped
  obtain ⟨deployment, verified, _⟩ :=
    (rollout_writesOnce run).2.1 [] samplePatch sampleReads rfl rfl
  exact ⟨deployment, verified⟩

end ResolverRollout

end Vzctl
